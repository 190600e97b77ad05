import Mathlib.Data.List.Nodup
import BucketVhosts.Files.Tree
import BucketVhosts.Proofs.Data.Table

/-!
# Changes of a file tree

What each operation does to the places of a tree. Where directories stay, paths that could be
followed lead to the same places as before. Adding files to a directory, with the directories above
it that are missing, changes a place in one of three ways only, and so does adding again.
-/
namespace BucketVhosts.FileTree

/-! ## Single places -/

/-- Places in one directory are told by their names. -/
theorem name_eq_of_place_eq {place : Place} {name other : String}
    (h : place ++ [name] = place ++ [other]) : name = other :=
  List.singleton_inj.mp (List.append_cancel_left h)

theorem ne_nil_of_node? {tree : FileTree} {place : Place}
    (h : tree.node? place ≠ some .directory) : place ≠ [] := by
  rintro rfl
  exact h rfl

theorem node?_put {tree : FileTree} {place : Place} (h : tree.node? place ≠ some .directory)
    (node : FileNode) (q : Place) :
    FileTree.node? (tree.put place node) q = if q = place then some node else tree.node? q := by
  have hplace := ne_nil_of_node? h
  rw [node?, node?]
  by_cases hq : q = place
  · rw [if_pos hq, hq, if_neg hplace, Table.get?_put_self]
  · rw [if_neg hq, Table.get?_put_of_ne (Ne.symm hq)]

theorem node?_erase {tree : FileTree} {place : Place} (h : tree.node? place ≠ some .directory)
    (q : Place) :
    FileTree.node? (tree.erase place) q = if q = place then none else tree.node? q := by
  have hplace := ne_nil_of_node? h
  rw [node?, node?, Table.get?_erase]
  by_cases hq : q = place
  · rw [if_pos hq, if_pos hq, if_neg (hq ▸ hplace)]
  · rw [if_neg hq, if_neg hq]

/-- Putting at a place what is there changes nothing. -/
theorem put_of_node? {tree : FileTree} {place : Place} {node : FileNode} (hplace : place ≠ [])
    (h : tree.node? place = some node) : tree.put place node = tree := by
  rw [node?, if_neg hplace] at h
  exact Table.put_of_get? h

/-! ## Paths -/

/-- Every directory of a tree is one of another. -/
def KeepsDirectories (tree after : FileTree) : Prop :=
  ∀ place, tree.node? place = some .directory → after.node? place = some .directory

section
variable {tree after : FileTree} {here place q : Place} {path : Path}

theorem follow_append {parts rest : List String} :
    tree.follow place (parts ++ rest) = .ok q ↔
      ∃ mid, tree.follow place parts = .ok mid ∧ tree.follow mid rest = .ok q := by
  induction parts generalizing place with
  | nil => simp [follow]
  | cons part parts ih =>
      rw [List.cons_append, follow, follow]
      cases tree.node? place with
      | none => simp
      | some node =>
          cases node with
          | file content => simp
          | directory =>
              dsimp only
              split
              · simp
              · exact ih

/-- Where directories stay, components lead to where they led. -/
theorem follow_of_keepsDirectories (keeps : KeepsDirectories tree after) {parts : List String}
    (h : tree.follow place parts = .ok q) : after.follow place parts = .ok q := by
  induction parts generalizing place with
  | nil => exact h
  | cons part parts ih =>
      rw [follow] at h ⊢
      cases hnode : tree.node? place with
      | none =>
          rw [hnode] at h
          cases h
      | some node =>
          rw [hnode] at h
          cases node with
          | file content => cases h
          | directory =>
              rw [keeps place hnode]
              dsimp only at h ⊢
              split at h
              · cases h
              · rename_i hlength
                rw [if_neg hlength]
                exact ih h

theorem locate_eq_ok_iff :
    tree.locate here path = .ok place ↔
      path.text.toList.contains '\x00' = false ∧ path.text.utf8ByteSize < maxPath ∧
        tree.follow (start here path) path.parts = .ok place := by
  rw [locate]
  cases path.text.toList.contains '\x00' with
  | true => simp
  | false =>
      by_cases hlength : maxPath ≤ path.text.utf8ByteSize
      · simp [hlength, Nat.not_lt_of_le hlength]
      · simp [hlength, Nat.lt_of_not_le hlength]

theorem locate_of_keepsDirectories (keeps : KeepsDirectories tree after)
    (h : tree.locate here path = .ok place) : after.locate here path = .ok place := by
  rw [locate_eq_ok_iff] at h ⊢
  exact ⟨h.1, h.2.1, follow_of_keepsDirectories keeps h.2.2⟩

/-- The path of a name in a directory leads to that name in the directory's place. -/
theorem locate_child {name : String} (hname : name ≠ "..")
    (hplace : tree.locate here path = .ok place)
    (h : tree.locate here (path.child name) = .ok q) :
    tree.node? place = some .directory ∧ q = place ++ [name] := by
  obtain ⟨-, -, hfollow⟩ := locate_eq_ok_iff.mp hplace
  obtain ⟨-, -, hchild⟩ := locate_eq_ok_iff.mp h
  obtain ⟨mid, hmid, hlast⟩ := follow_append.mp hchild
  have hstart : start here (path.child name) = start here path := rfl
  rw [hstart, hfollow] at hmid
  cases hmid
  rw [follow] at hlast
  cases hnode : tree.node? place with
  | none =>
      rw [hnode] at hlast
      cases hlast
  | some node =>
      rw [hnode] at hlast
      cases node with
      | file content => cases hlast
      | directory =>
          dsimp only at hlast
          split at hlast
          · cases hlast
          · rw [follow, enter, if_neg hname] at hlast
            cases hlast
            exact ⟨rfl, rfl⟩

theorem find_eq_ok_iff {node : FileNode} :
    tree.find here path = .ok node ↔
      ∃ place, tree.locate here path = .ok place ∧ tree.node? place = some node := by
  rw [find]
  cases tree.locate here path with
  | error fault => simp
  | ok place =>
      cases hnode : tree.node? place with
      | none => simp [hnode]
      | some found => simp [hnode]

/-- A path that leads somewhere may have something there or not. -/
theorem contains_of_locate (h : tree.locate here path = .ok place) :
    tree.contains here path = .ok (tree.node? place).isSome := by
  rw [contains, find, h]
  dsimp only
  cases tree.node? place <;> rfl

theorem locate_of_contains (h : tree.contains here path = .ok true) :
    ∃ place, tree.locate here path = .ok place := by
  rw [contains] at h
  split at h
  · rename_i hfind
    obtain ⟨place, hplace, -⟩ := find_eq_ok_iff.mp hfind
    exact ⟨place, hplace⟩
  · cases h
  · cases h

theorem nameIn?_eq_some_iff {name : String} :
    nameIn? place q = some name ↔ q = place ++ [name] := by
  rw [nameIn?]
  constructor
  · intro h
    split at h
    · obtain ⟨above, rfl⟩ := List.getLast?_eq_some_iff.mp h
      simp_all
    · cases h
  · rintro rfl
    simp

/-- Names of a directory are those of what is directly in it. -/
theorem mem_list_iff {name : String} :
    name ∈ tree.list here path ↔
      ∃ place, tree.locate here path = .ok place ∧ tree.node? place = some .directory ∧
        tree.node? (place ++ [name]) ≠ none := by
  rw [list]
  cases tree.locate here path with
  | error fault => simp
  | ok place =>
      dsimp only
      by_cases hdirectory : tree.node? place = some .directory
      · rw [if_pos hdirectory, List.mem_mergeSort, List.mem_filterMap]
        have hnode : tree.node? (place ++ [name]) ≠ none ↔ place ++ [name] ∈ tree.keys := by
          rw [node?, if_neg (by simp), ← Table.isSome_get?, Option.isSome_iff_ne_none]
        simp only [nameIn?_eq_some_iff, exists_eq_right, Except.ok.injEq, exists_eq_left',
          hdirectory, true_and, hnode]
      · simp [hdirectory]

/-- What is in a directory is listed once. -/
theorem nodup_list (tree : FileTree) (here : Place) (path : Path) :
    (tree.list here path).Nodup := by
  rw [list]
  split
  · exact .nil
  · split
    · rw [(List.mergeSort_perm _ _).nodup_iff]
      refine tree.distinct.filterMap fun q q' name hq hq' => ?_
      rw [nameIn?_eq_some_iff.mp hq, nameIn?_eq_some_iff.mp hq']
    · exact .nil

end

/-! ## Adding -/

/-- A place is that of a path or of one above it. -/
def IsAbove (tree : FileTree) (here : Place) (path : Path) (q : Place) : Prop :=
  ∃ n, tree.locate here { path with parts := path.parts.take n } = .ok q

/-- What becomes of a place when files of the names are added to a directory. -/
inductive PlaceAdds (here : Place) (directory : Path) (names : List String)
    (tree after : FileTree) (q : Place) : Prop where
  | same (unchanged : after.node? q = tree.node? q)
  /-- A directory is new, on the way to where the files are. -/
  | made (free : tree.node? q = none) (made : after.node? q = some .directory)
      (above : IsAbove after here directory q)
  /-- A file is new, or has a new text. -/
  | wrote {place : Place} {name text : String} (named : name ∈ names)
      (located : after.locate here directory = .ok place) (at_name : q = place ++ [name])
      (free : tree.node? q ≠ some .directory) (wrote : after.node? q = some (.file (.text text)))

/-- Nothing else happens but that files of the names are added to a directory. -/
def Adds (here : Place) (directory : Path) (names : List String) (tree after : FileTree) : Prop :=
  ∀ q, PlaceAdds here directory names tree after q

section
variable {tree mid after : FileTree} {here : Place} {directory : Path} {names more : List String}

theorem Adds.refl (here : Place) (directory : Path) (names : List String) (tree : FileTree) :
    Adds here directory names tree tree :=
  fun _ => .same rfl

theorem Adds.keepsDirectories (h : Adds here directory names tree after) :
    KeepsDirectories tree after := by
  intro place hplace
  rcases h place with hsame | ⟨hfree, -, -⟩ | ⟨-, -, -, hfree, -⟩
  · rw [hsame, hplace]
  · rw [hplace] at hfree
    cases hfree
  · exact absurd hplace hfree

/-- Nothing is removed by adding. -/
theorem Adds.node?_ne_none (h : Adds here directory names tree after) {q : Place}
    (hq : tree.node? q ≠ none) : after.node? q ≠ none := by
  rcases h q with hsame | ⟨hfree, -, -⟩ | ⟨-, -, -, -, hwrote⟩
  · rwa [hsame]
  · exact absurd hfree hq
  · simp [hwrote]

theorem Adds.mono (h : Adds here directory names tree after) (hnames : ∀ n ∈ names, n ∈ more) :
    Adds here directory more tree after := by
  intro q
  rcases h q with hsame | ⟨hfree, hmade, habove⟩ | ⟨hnamed, hlocated, hat, hfree, hwrote⟩
  · exact .same hsame
  · exact .made hfree hmade habove
  · exact .wrote (hnames _ hnamed) hlocated hat hfree hwrote

theorem IsAbove.of_keepsDirectories (keeps : KeepsDirectories tree after) {q : Place}
    (h : IsAbove tree here directory q) : IsAbove after here directory q :=
  h.imp fun _ hn => locate_of_keepsDirectories keeps hn

/-- A place to which nothing more happens is as it was left. -/
theorem PlaceAdds.of_same {q : Place} (h : PlaceAdds here directory names tree mid q)
    (keeps : KeepsDirectories mid after) (hsame : after.node? q = mid.node? q) :
    PlaceAdds here directory names tree after q := by
  rcases h with hbefore | ⟨hfree, hmade, habove⟩ | ⟨hnamed, hlocated, hat, hfree, hwrote⟩
  · exact .same (hsame.trans hbefore)
  · exact .made hfree (hsame.trans hmade) (habove.of_keepsDirectories keeps)
  · exact .wrote hnamed (locate_of_keepsDirectories keeps hlocated) hat hfree (hsame.trans hwrote)

/-- Adding, and then adding more, is adding. -/
theorem Adds.trans (h : Adds here directory names tree mid)
    (h' : Adds here directory names mid after) : Adds here directory names tree after := by
  intro q
  rcases h' q with hsame | ⟨hfree, hmade, habove⟩ | ⟨hnamed, hlocated, hat, hfree, hwrote⟩
  · exact (h q).of_same h'.keepsDirectories hsame
  · rcases h q with hsame' | ⟨-, hmade', -⟩ | ⟨-, -, -, -, hwrote'⟩
    · exact .made (hsame' ▸ hfree) hmade habove
    · exact absurd hmade' (by simp [hfree])
    · exact absurd hwrote' (by simp [hfree])
  · refine .wrote hnamed hlocated hat (fun hdirectory => ?_) hwrote
    exact hfree (h.keepsDirectories q hdirectory)

end

/-! ## Making directories -/

section
variable {tree after : FileTree} {here place : Place} {path : Path} {root : PathRoot}

theorem makeDirectory_eq_ok_iff :
    tree.makeDirectory here path = .ok after ↔
      ∃ place, tree.locate here path = .ok place ∧ tree.node? place = none ∧
        after = tree.put place .directory := by
  rw [makeDirectory]
  cases tree.locate here path with
  | error fault => simp
  | ok place =>
      cases hnode : tree.node? place with
      | none => simp [hnode, eq_comm]
      | some node => simp [hnode]

/-- A directory that is made is the only change. -/
theorem adds_of_makeDirectory (h : tree.makeDirectory here path = .ok after) :
    Adds here path [] tree after ∧ after.find here path = .ok .directory := by
  obtain ⟨place, hplace, hnode, rfl⟩ := makeDirectory_eq_ok_iff.mp h
  have hfree : tree.node? place ≠ some .directory := by simp [hnode]
  have hput := node?_put hfree .directory
  have keeps : KeepsDirectories tree (tree.put place .directory) := by
    intro q hq
    rw [hput]
    split
    · rfl
    · exact hq
  have hlocated := locate_of_keepsDirectories keeps hplace
  refine ⟨fun q => ?_, find_eq_ok_iff.mpr ⟨place, hlocated, by rw [hput, if_pos rfl]⟩⟩
  by_cases hq : q = place
  · subst hq
    refine .made hnode (by rw [hput, if_pos rfl]) ⟨path.parts.length, ?_⟩
    rwa [List.take_length]
  · exact .same (by rw [hput, if_neg hq])

/-- An attempt that succeeds makes a directory or finds one. -/
theorem adds_of_ensureDirectory (h : tree.ensureDirectory here path = .ok after) :
    Adds here path [] tree after ∧ after.find here path = .ok .directory := by
  rw [ensureDirectory] at h
  cases hmake : tree.makeDirectory here path with
  | ok made =>
      rw [hmake] at h
      cases h
      exact adds_of_makeDirectory hmake
  | error fault =>
      rw [hmake] at h
      split at h
      · contradiction
      · cases h
      · split at h
        · rename_i hdirectory
          cases h
          refine ⟨.refl here path [] tree, ?_⟩
          rw [isDirectory] at hdirectory
          split at hdirectory
          · assumption
          · cases hdirectory
        · cases h

/-- Nothing is made where there is a directory. -/
theorem ensureDirectory_of_find (h : tree.find here path = .ok .directory) :
    tree.ensureDirectory here path = .ok tree := by
  obtain ⟨place, hplace, hnode⟩ := find_eq_ok_iff.mp h
  have hmake : tree.makeDirectory here path = .error .alreadyExists := by
    rw [makeDirectory, hplace]
    dsimp only
    rw [hnode]
  rw [ensureDirectory, hmake]
  dsimp only
  rw [isDirectory, h]
  rfl

/-- What is made above a directory is above everything in it. -/
theorem Adds.of_parent {above : List String} {part : String}
    (h : Adds here ⟨root, above.reverse⟩ [] tree after) :
    Adds here ⟨root, (part :: above).reverse⟩ [] tree after := by
  intro q
  rcases h q with hsame | ⟨hfree, hmade, n, hlocated⟩ | ⟨hnamed, -, -, -, -⟩
  · exact .same hsame
  · have hlength : min n above.length ≤ above.reverse.length := by
      rw [List.length_reverse]
      exact Nat.min_le_right n above.length
    refine .made hfree hmade ⟨min n above.length, ?_⟩
    dsimp only at hlocated ⊢
    rw [List.reverse_cons, List.take_append_of_le_length hlength,
      ← List.length_reverse, ← List.take_eq_take_min]
    exact hlocated
  · cases hnamed

/-- **Making directories** changes nothing else, and where it succeeds there is a directory. -/
theorem adds_ensureAll (tree : FileTree) (here : Place) (root : PathRoot) (above : List String) :
    Adds here ⟨root, above.reverse⟩ [] tree (tree.ensureAll here root above).1 ∧
      ((tree.ensureAll here root above).2 = .ok () →
        (tree.ensureAll here root above).1.find here ⟨root, above.reverse⟩ = .ok .directory) := by
  induction above with
  | nil =>
      rw [ensureAll]
      cases hensure : tree.ensureDirectory here ⟨root, []⟩ with
      | ok after =>
          obtain ⟨hadds, hfind⟩ := adds_of_ensureDirectory hensure
          exact ⟨hadds, fun _ => hfind⟩
      | error fault => exact ⟨.refl _ _ _ _, nofun⟩
  | cons part above ih =>
      rw [ensureAll]
      cases hensure : tree.ensureDirectory here ⟨root, (part :: above).reverse⟩ with
      | ok after =>
          obtain ⟨hadds, hfind⟩ := adds_of_ensureDirectory hensure
          exact ⟨hadds, fun _ => hfind⟩
      | error fault =>
          cases fault with
          | missing =>
              have habove : Adds here ⟨root, (part :: above).reverse⟩ [] tree
                  (tree.ensureAll here root above).1 := ih.1.of_parent
              generalize tree.ensureAll here root above = outcome at habove ⊢
              obtain ⟨mid, made⟩ := outcome
              cases made with
              | error fault => exact ⟨habove, nofun⟩
              | ok _ =>
                  dsimp only at habove ⊢
                  cases hagain : mid.ensureDirectory here ⟨root, (part :: above).reverse⟩ with
                  | ok after =>
                      obtain ⟨hadds, hfind⟩ := adds_of_ensureDirectory hagain
                      exact ⟨habove.trans hadds, fun _ => hfind⟩
                  | error fault => exact ⟨habove, nofun⟩
          | notDirectory | isDirectory | alreadyExists | nameTooLong | nul =>
              exact ⟨.refl _ _ _ _, nofun⟩

theorem adds_ensureDirectories (tree : FileTree) (here : Place) (path : Path) :
    Adds here path [] tree (tree.ensureDirectories here path).1 ∧
      ((tree.ensureDirectories here path).2 = .ok () →
        (tree.ensureDirectories here path).1.find here path = .ok .directory) := by
  have h := adds_ensureAll tree here path.root path.parts.reverse
  rwa [List.reverse_reverse] at h

theorem ensureDirectories_of_find (h : tree.find here path = .ok .directory) :
    tree.ensureDirectories here path = (tree, .ok ()) := by
  rw [ensureDirectories]
  obtain ⟨above, habove⟩ : ∃ above, path.parts.reverse = above := ⟨_, rfl⟩
  have hpath : path = ⟨path.root, above.reverse⟩ := by rw [← habove, List.reverse_reverse]
  rw [habove]
  rw [hpath] at h
  have hensure := ensureDirectory_of_find h
  cases above with
  | nil =>
      rw [ensureAll]
      rw [List.reverse_nil] at hensure
      rw [hensure]
  | cons part above =>
      rw [ensureAll, hensure]

/-! ## Writing and removing files -/

theorem write_eq_ok_iff {text : String} :
    tree.write here path text = .ok after ↔
      ∃ place, tree.locate here path = .ok place ∧ tree.node? place ≠ some .directory ∧
        after = tree.put place (.file (.text text)) := by
  rw [write]
  cases tree.locate here path with
  | error fault => simp
  | ok place =>
      cases hnode : tree.node? place with
      | none => simp [hnode, eq_comm]
      | some node => cases node <;> simp [hnode, eq_comm]

theorem remove_eq_ok_iff :
    tree.remove here path = .ok after ↔
      ∃ place content, tree.locate here path = .ok place ∧
        tree.node? place = some (.file content) ∧ after = tree.erase place := by
  rw [remove]
  cases tree.locate here path with
  | error fault => simp
  | ok place =>
      cases hnode : tree.node? place with
      | none => simp [hnode]
      | some node => cases node <;> simp [hnode, eq_comm]

/-- In a directory there is a file of a name with a text. -/
def HasFile (tree : FileTree) (here : Place) (directory : Path) (name text : String) : Prop :=
  ∃ place, tree.locate here directory = .ok place ∧
    tree.locate here (directory.child name) = .ok (place ++ [name]) ∧
      tree.node? (place ++ [name]) = some (.file (.text text))

/-- A file that is written in a directory is the only change. -/
theorem adds_of_write {directory : Path} {name text : String} (hname : name ≠ "..")
    (hdirectory : tree.find here directory = .ok .directory)
    (h : tree.write here (directory.child name) text = .ok after) :
    Adds here directory [name] tree after ∧ HasFile after here directory name text := by
  obtain ⟨place, hplace, -⟩ := find_eq_ok_iff.mp hdirectory
  obtain ⟨q, hq, hfree, rfl⟩ := write_eq_ok_iff.mp h
  obtain ⟨-, rfl⟩ := locate_child hname hplace hq
  have hput := node?_put hfree (.file (.text text))
  have keeps : KeepsDirectories tree (tree.put (place ++ [name]) (.file (.text text))) := by
    intro q hq
    rw [hput]
    split
    · rename_i hsame
      exact absurd (hsame ▸ hq) hfree
    · exact hq
  have hplace := locate_of_keepsDirectories keeps hplace
  have hwrote := (hput (place ++ [name])).trans (if_pos rfl)
  refine ⟨fun q => ?_, place, hplace, locate_of_keepsDirectories keeps hq, hwrote⟩
  by_cases hq : q = place ++ [name]
  · subst hq
    exact .wrote List.mem_cons_self hplace rfl hfree hwrote
  · exact .same (by rw [hput, if_neg hq])

/-- A file stays as it is when files of other names are added. -/
theorem HasFile.of_adds {directory : Path} {name text : String} {names : List String}
    (h : HasFile tree here directory name text) (adds : Adds here directory names tree after)
    (hname : name ∉ names) : HasFile after here directory name text := by
  obtain ⟨place, hplace, hchild, hnode⟩ := h
  have keeps := adds.keepsDirectories
  have hplace := locate_of_keepsDirectories keeps hplace
  refine ⟨place, hplace, locate_of_keepsDirectories keeps hchild, ?_⟩
  rcases adds (place ++ [name]) with hsame | ⟨hfree, -, -⟩ | ⟨hnamed, hlocated, hat, -, -⟩
  · rw [hsame, hnode]
  · rw [hnode] at hfree
    cases hfree
  · rw [hplace] at hlocated
    cases hlocated
    exact absurd (name_eq_of_place_eq hat ▸ hnamed) hname

/-- Writing the text that a file has changes nothing. -/
theorem write_of_hasFile {directory : Path} {name text : String}
    (h : HasFile tree here directory name text) :
    tree.write here (directory.child name) text = .ok tree := by
  obtain ⟨place, -, hchild, hnode⟩ := h
  refine write_eq_ok_iff.mpr ⟨_, hchild, by simp [hnode], ?_⟩
  rw [put_of_node? (by simp) hnode]

/-- A directory with a file is one. -/
theorem find_of_hasFile {directory : Path} {name text : String} (hname : name ≠ "..")
    (h : HasFile tree here directory name text) : tree.find here directory = .ok .directory := by
  obtain ⟨place, hplace, hchild, -⟩ := h
  exact find_eq_ok_iff.mpr ⟨place, hplace, (locate_child hname hplace hchild).1⟩

/-! ## Removing from a directory -/

/-- What becomes of a place when files with stale names are removed from a directory. -/
inductive PlaceRemoves (here : Place) (directory : Path) (stale : String → Prop)
    (tree after : FileTree) (q : Place) : Prop where
  | same (unchanged : after.node? q = tree.node? q)
  | removed {place : Place} {name : String} {content : Content} (named : stale name)
      (located : after.locate here directory = .ok place) (at_name : q = place ++ [name])
      (file : tree.node? q = some (.file content)) (removed : after.node? q = none)

/-- Nothing else happens but that files with stale names are removed from a directory. -/
def Removes (here : Place) (directory : Path) (stale : String → Prop) (tree after : FileTree) :
    Prop :=
  ∀ q, PlaceRemoves here directory stale tree after q

variable {mid : FileTree} {directory : Path} {stale more : String → Prop}

theorem Removes.refl (here : Place) (directory : Path) (stale : String → Prop)
    (tree : FileTree) : Removes here directory stale tree tree :=
  fun _ => .same rfl

theorem Removes.keepsDirectories (h : Removes here directory stale tree after) :
    KeepsDirectories tree after := by
  intro q hq
  rcases h q with hsame | ⟨-, -, -, hfile, -⟩
  · rw [hsame, hq]
  · rw [hq] at hfile
    cases hfile

theorem Removes.mono (h : Removes here directory stale tree after)
    (hstale : ∀ name, stale name → more name) : Removes here directory more tree after := by
  intro q
  rcases h q with hsame | ⟨hnamed, hlocated, hat, hfile, hremoved⟩
  · exact .same hsame
  · exact .removed (hstale _ hnamed) hlocated hat hfile hremoved

theorem Removes.trans (h : Removes here directory stale tree mid)
    (h' : Removes here directory stale mid after) : Removes here directory stale tree after := by
  intro q
  rcases h' q with hsame | ⟨hnamed, hlocated, hat, hfile, hremoved⟩
  · rcases h q with hsame' | ⟨hnamed', hlocated', hat', hfile', hremoved'⟩
    · exact .same (hsame.trans hsame')
    · exact .removed hnamed' (locate_of_keepsDirectories h'.keepsDirectories hlocated') hat' hfile'
        (hsame.trans hremoved')
  · rcases h q with hsame' | ⟨-, -, -, -, hremoved'⟩
    · exact .removed hnamed hlocated hat (hsame' ▸ hfile) hremoved
    · rw [hremoved'] at hfile
      cases hfile

/-- What is gone stays gone. -/
theorem Removes.node?_eq_none (h : Removes here directory stale tree after) {q : Place}
    (hq : tree.node? q = none) : after.node? q = none := by
  rcases h q with hsame | ⟨-, -, -, -, hremoved⟩
  · rw [hsame, hq]
  · exact hremoved

/-- A file stays as it is when others are removed. -/
theorem HasFile.of_removes {name text : String} (h : HasFile tree here directory name text)
    (removes : Removes here directory stale tree after) (hname : ¬stale name) :
    HasFile after here directory name text := by
  obtain ⟨place, hplace, hchild, hnode⟩ := h
  have keeps := removes.keepsDirectories
  have hplace := locate_of_keepsDirectories keeps hplace
  refine ⟨place, hplace, locate_of_keepsDirectories keeps hchild, ?_⟩
  rcases removes (place ++ [name]) with hsame | ⟨hnamed, hlocated, hat, -, -⟩
  · rw [hsame, hnode]
  · rw [hplace] at hlocated
    cases hlocated
    exact absurd (name_eq_of_place_eq hat ▸ hnamed) hname

/-- A file that is removed from a directory is the only change. -/
theorem removes_of_remove {name : String} (hname : name ≠ "..")
    (hplace : tree.locate here directory = .ok place)
    (h : tree.remove here (directory.child name) = .ok after) :
    Removes here directory (· = name) tree after ∧ after.node? (place ++ [name]) = none := by
  obtain ⟨q, content, hq, hfile, rfl⟩ := remove_eq_ok_iff.mp h
  obtain ⟨-, rfl⟩ := locate_child hname hplace hq
  have hfree : tree.node? (place ++ [name]) ≠ some .directory := by simp [hfile]
  have herase := node?_erase hfree
  have keeps : KeepsDirectories tree (tree.erase (place ++ [name])) := by
    intro q hq
    rw [herase]
    split
    · rename_i hsame
      rw [← hsame, hq] at hfile
      cases hfile
    · exact hq
  have hgone := (herase (place ++ [name])).trans (if_pos rfl)
  refine ⟨fun q => ?_, hgone⟩
  by_cases hq : q = place ++ [name]
  · subst hq
    exact .removed rfl (locate_of_keepsDirectories keeps hplace) rfl hfile hgone
  · exact .same (by rw [herase, if_neg hq])

end

end BucketVhosts.FileTree
