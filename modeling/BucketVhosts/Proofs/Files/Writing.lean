import BucketVhosts.Proofs.Files.Tree
import BucketVhosts.Proofs.Files.Writer

/-!
# What writing and pruning leave

Each action on files is followed through the tree: what it changes, whether or not it succeeds, and
what it has made sure of where it succeeds. An action on a tree that is already as it would leave it
changes nothing.
-/
namespace BucketVhosts.Action
open FileTree (Adds HasFile Removes)

/-- No effect removes a file. -/
def RemovesNothing (effects : List Effect) : Prop :=
  ∀ place, .removedFile place ∉ effects

theorem RemovesNothing.append {es fs : List Effect} (hes : RemovesNothing es)
    (hfs : RemovesNothing fs) : RemovesNothing (es ++ fs) := by
  intro place h
  exact (List.mem_append.mp h).elim (hes place) (hfs place)

/-! ## One file -/

section
variable {directory : Path} {name text : String} {s : Session}

theorem parent_child (directory : Path) (name : String) :
    (directory.child name).parent = directory := by
  rw [Path.child, Path.parent, List.dropLast_concat]

/-- What is written of a text. -/
def writable (text : String) : String :=
  if Text.hasHalf text then "" else text

/-- A file that can be written is written, with the text if it has a form in UTF-8. -/
theorem does_writeFile_of_write {tree after : FileTree}
    (hensure : s.tree.ensureDirectories s.here directory = (tree, .ok ()))
    (hwrite : tree.write s.here (directory.child name) (writable text) = .ok after) :
    ∃ place, Does (writeFile (directory.child name) text) s
      (if Text.hasHalf text then .error (.fault .unencodable) else .ok ())
      { s with tree := after } [.wroteFile place (writable text)] := by
  have hlast : Does (if Text.hasHalf text then fail (.fault .unencodable) else pure ())
      { s with tree := after } (if Text.hasHalf text then .error (.fault .unencodable) else .ok ())
      { s with tree := after } [] := by
    split
    · exact does_fail _ _
    · exact does_pure _ _
  refine ⟨(after.locate s.here (directory.child name)).toOption.getD [], ?_⟩
  unfold writeFile
  refine Does.get_bind_self (fun _ => rfl) ?_
  dsimp only
  rw [parent_child, hensure]
  dsimp only
  rw [← writable, hwrite]
  exact (does_setTree tree s).bind ((does_ofFiles (.ok ()) _).bind
    ((does_ofFiles (.ok after) _).bind ((does_setTree after _).bind
      ((does_record _ _).bind hlast))))

/-- Writing a file adds it to its directory, and where it succeeds the file holds the text. -/
theorem does_writeFile (directory : Path) (text : String) (s : Session) (hname : name ≠ "..") :
    ∃ r s' added, Does (writeFile (directory.child name) text) s r s' added ∧
      s'.here = s.here ∧ RemovesNothing added ∧ Adds s.here directory [name] s.tree s'.tree ∧
        (r = .ok () → HasFile s'.tree s.here directory name text ∧ Text.hasHalf text = false) := by
  obtain ⟨hmakes, hfind⟩ := FileTree.adds_ensureDirectories s.tree s.here directory
  cases hensure : s.tree.ensureDirectories s.here directory with
  | mk tree made =>
      rw [hensure] at hmakes hfind
      have hadds : Adds s.here directory [name] s.tree tree := hmakes.mono (by simp)
      have hnothing : RemovesNothing [] := fun _ h => nomatch h
      cases made with
      | error fault =>
          refine ⟨.error (.fault (ofFileFault fault)), { s with tree }, [], ?_, rfl, hnothing,
            hadds, nofun⟩
          unfold writeFile
          refine Does.get_bind_self (fun _ => rfl) ?_
          dsimp only
          rw [parent_child, hensure]
          exact (does_setTree tree s).bind (does_ofFiles (.error fault) _).bind_error
      | ok _ =>
          cases hwrite : tree.write s.here (directory.child name) (writable text) with
          | error fault =>
              refine ⟨.error (.fault (ofFileFault fault)), { s with tree }, [], ?_, rfl, hnothing,
                hadds, nofun⟩
              unfold writeFile
              refine Does.get_bind_self (fun _ => rfl) ?_
              dsimp only
              rw [parent_child, hensure]
              dsimp only
              rw [← writable, hwrite]
              exact (does_setTree tree s).bind ((does_ofFiles (.ok ()) _).bind
                (does_ofFiles (.error fault) _).bind_error)
          | ok after =>
              obtain ⟨hwrites, hfile⟩ := FileTree.adds_of_write hname (hfind rfl) hwrite
              obtain ⟨place, hdoes⟩ := does_writeFile_of_write hensure hwrite
              refine ⟨_, _, _, hdoes, rfl, by simp [RemovesNothing], hadds.trans hwrites, ?_⟩
              intro hok
              split at hok
              · cases hok
              · rename_i hhalf
                rw [writable, if_neg hhalf] at hfile
                exact ⟨hfile, by simpa using hhalf⟩

/-- Writing the text that a file has changes nothing. -/
theorem does_writeFile_again (hname : name ≠ "..")
    (hfile : HasFile s.tree s.here directory name text) (hhalf : Text.hasHalf text = false) :
    ∃ place, Does (writeFile (directory.child name) text) s (.ok ()) s
      [.wroteFile place text] := by
  have hensure := FileTree.ensureDirectories_of_find (FileTree.find_of_hasFile hname hfile)
  have hwritable : writable text = text := by
    rw [writable, hhalf, if_neg Bool.false_ne_true]
  have hwrite : s.tree.write s.here (directory.child name) (writable text) = .ok s.tree := by
    rw [hwritable]
    exact FileTree.write_of_hasFile hfile
  have hdoes := does_writeFile_of_write hensure hwrite
  rwa [hhalf, if_neg Bool.false_ne_true, hwritable] at hdoes

end

/-! ## Files of vhosts -/

/-- Vhosts can have files of their own in a directory: no name of a file is a path, and no two are
the same. -/
structure FilesApart (vhosts : List Vhost) : Prop where
  single : ∀ vhost ∈ vhosts, Path.ofText vhost.filename = ⟨.here, [vhost.filename]⟩
  inside : ∀ vhost ∈ vhosts, vhost.filename ≠ ".."
  different : (vhosts.map Vhost.filename).Nodup

/-- Every vhost has its file in a directory, with its text. -/
def HoldsVhosts (tree : FileTree) (here : Place) (directory : Path) (vhosts : List Vhost) : Prop :=
  ∀ vhost ∈ vhosts, HasFile tree here directory vhost.filename vhost.text ∧
    Text.hasHalf vhost.text = false

/-- The paths of the files of vhosts. -/
def pathsIn (directory : Path) (vhosts : List Vhost) : List Path :=
  vhosts.map fun vhost => directory.child vhost.filename

section
variable {directory : Path} {vhost : Vhost} {vhosts : List Vhost} {s : Session}

theorem FilesApart.tail (h : FilesApart (vhost :: vhosts)) : FilesApart vhosts :=
  ⟨fun v hv => h.single v (List.mem_cons_of_mem _ hv),
    fun v hv => h.inside v (List.mem_cons_of_mem _ hv), (List.nodup_cons.mp h.different).2⟩

theorem FilesApart.join (h : FilesApart (vhost :: vhosts)) (directory : Path) :
    directory.join (.ofText vhost.filename) = directory.child vhost.filename := by
  rw [h.single vhost List.mem_cons_self]
  rfl

theorem FilesApart.writeAll_cons (h : FilesApart (vhost :: vhosts)) (directory : Path) :
    writeAll directory (vhost :: vhosts) =
      (do writeFile (directory.child vhost.filename) vhost.text
          report (.wrote (directory.child vhost.filename))
          let paths ← writeAll directory vhosts
          pure (directory.child vhost.filename :: paths)) := by
  rw [← h.join directory, writeAll]

/-- The files of the vhosts after the first are written when that of the first is. -/
theorem does_writeAll_cons (apart : FilesApart (vhost :: vhosts)) {s' s'' : Session}
    {paths : List Path} {es fs : List Effect}
    (hfirst : Does (writeFile (directory.child vhost.filename) vhost.text) s (.ok ()) s' es)
    (hrest : Does (writeAll directory vhosts) s' (.ok paths) s'' fs) :
    Does (writeAll directory (vhost :: vhosts)) s
      (.ok (directory.child vhost.filename :: paths)) s''
      (es ++ ([.logged (.wrote (directory.child vhost.filename))] ++ fs)) := by
  have hpaths : Does (writeAll directory vhosts >>= fun paths =>
      pure (directory.child vhost.filename :: paths)) s'
      (.ok (directory.child vhost.filename :: paths)) s'' (fs ++ []) :=
    hrest.bind (does_pure _ s'')
  rw [List.append_nil] at hpaths
  rw [apart.writeAll_cons]
  exact hfirst.bind ((does_report _ s').bind hpaths)

/-- **Writing vhosts** adds their files to the directory. Where it succeeds all files hold their
texts, since none is written over by a later one. -/
theorem does_writeAll (directory : Path) (s : Session) (apart : FilesApart vhosts) :
    ∃ r s' added, Does (writeAll directory vhosts) s r s' added ∧ s'.here = s.here ∧
      RemovesNothing added ∧
      Adds s.here directory (vhosts.map Vhost.filename) s.tree s'.tree ∧
        ∀ paths, r = .ok paths → paths = pathsIn directory vhosts ∧
          HoldsVhosts s'.tree s.here directory vhosts := by
  induction vhosts generalizing s with
  | nil =>
      refine ⟨.ok [], s, [], does_pure [] s, rfl, by simp [RemovesNothing], .refl _ _ _ _, ?_⟩
      rintro _ ⟨rfl⟩
      exact ⟨rfl, by simp [HoldsVhosts]⟩
  | cons vhost rest ih =>
      have hname := apart.inside vhost List.mem_cons_self
      obtain ⟨r, s', es, hfirst, hhere, hnothing, hadds, hholds⟩ :=
        does_writeFile directory vhost.text s hname
      have hadds : Adds s.here directory ((vhost :: rest).map Vhost.filename) s.tree s'.tree :=
        hadds.mono (by simp)
      cases r with
      | error failure =>
          refine ⟨.error failure, s', es, ?_, hhere, hnothing, hadds, by simp⟩
          rw [apart.writeAll_cons]
          exact hfirst.bind_error
      | ok _ =>
          obtain ⟨q, s'', fs, hrest, hhere', hnothing', hadds', hholds'⟩ := ih s' apart.tail
          rw [hhere] at hadds' hholds'
          have hall := hadds.trans (hadds'.mono (by simp +contextual))
          have hnothings : RemovesNothing
              (es ++ ([.logged (.wrote (directory.child vhost.filename))] ++ fs)) :=
            hnothing.append (.append (by simp [RemovesNothing]) hnothing')
          cases q with
          | error failure =>
              refine ⟨.error failure, s'', _, ?_, hhere'.trans hhere, hnothings, hall, by simp⟩
              rw [apart.writeAll_cons]
              exact hfirst.bind ((does_report _ s').bind hrest.bind_error)
          | ok paths =>
              refine ⟨_, s'', _, does_writeAll_cons apart hfirst hrest, hhere'.trans hhere,
                hnothings, hall, ?_⟩
              rintro _ ⟨rfl⟩
              obtain ⟨rfl, hrestHolds⟩ := hholds' paths rfl
              refine ⟨rfl, List.forall_mem_cons.mpr ⟨?_, hrestHolds⟩⟩
              obtain ⟨hfile, hhalf⟩ := hholds rfl
              exact ⟨hfile.of_adds hadds' (List.nodup_cons.mp apart.different).1, hhalf⟩

/-- Writing vhosts whose files hold their texts already changes nothing. -/
theorem does_writeAll_again (apart : FilesApart vhosts)
    (holds : HoldsVhosts s.tree s.here directory vhosts) :
    ∃ added, Does (writeAll directory vhosts) s (.ok (pathsIn directory vhosts)) s added := by
  induction vhosts with
  | nil => exact ⟨[], does_pure [] s⟩
  | cons vhost rest ih =>
      obtain ⟨⟨hfile, hhalf⟩, hholds⟩ := List.forall_mem_cons.mp holds
      obtain ⟨place, hfirst⟩ :=
        does_writeFile_again (apart.inside vhost List.mem_cons_self) hfile hhalf
      obtain ⟨added, hrest⟩ := ih apart.tail hholds
      exact ⟨_, does_writeAll_cons apart hfirst hrest⟩

end

/-! ## Pruning -/

/-- A vhost file that is not to be kept. -/
def IsStale (kept : List String) (name : String) : Prop :=
  Text.endsWith vhostEnding name = true ∧ name ∉ kept

section
variable {directory : Path} {place : Place} {names kept : List String} {s : Session}

theorem IsStale.ne_up {name : String} (h : IsStale kept name) : name ≠ ".." := by
  rintro rfl
  exact absurd h.1 (by decide)

/-- The files of the names after the first are removed when that of the first is. -/
theorem does_removeAll_cons {name : String} {tree : FileTree} {r : Except Failure Unit}
    {s' : Session} {added : List Effect}
    (hremove : s.tree.remove s.here (directory.child name) = .ok tree)
    (hrest : Does (removeAll directory names) { s with tree } r s' added) :
    Does (removeAll directory (name :: names)) s r s'
      (.removedFile ((s.tree.locate s.here (directory.child name)).toOption.getD []) ::
        .logged (.removedStale (directory.child name)) :: added) := by
  unfold removeAll
  refine Does.get_bind_self (fun _ => rfl) ?_
  dsimp only
  rw [hremove]
  exact (does_ofFiles (.ok tree) s).bind ((does_setTree tree s).bind
    ((does_record _ _).bind ((does_report _ _).bind hrest)))

/-- Removing files by name removes these and nothing else. -/
theorem does_removeAll (hnames : ∀ name ∈ names, name ≠ "..")
    (hplace : s.tree.locate s.here directory = .ok place) :
    ∃ r s' added, Does (removeAll directory names) s r s' added ∧ s'.here = s.here ∧
      (r = .ok () → Removes s.here directory (· ∈ names) s.tree s'.tree ∧
        ∀ name ∈ names, s'.tree.node? (place ++ [name]) = none) := by
  induction names generalizing s with
  | nil => exact ⟨.ok (), s, [], does_pure () s, rfl, fun _ => ⟨.refl _ _ _ _, nofun⟩⟩
  | cons name rest ih =>
      obtain ⟨hname, hnames⟩ := List.forall_mem_cons.mp hnames
      cases hremove : s.tree.remove s.here (directory.child name) with
      | error fault =>
          refine ⟨.error (.fault (ofFileFault fault)), s, [], ?_, rfl, nofun⟩
          unfold removeAll
          refine Does.get_bind_self (fun _ => rfl) ?_
          dsimp only
          rw [hremove]
          exact (does_ofFiles (.error fault) s).bind_error
      | ok tree =>
          obtain ⟨hremoves, hgone⟩ := FileTree.removes_of_remove hname hplace hremove
          have hplace' := FileTree.locate_of_keepsDirectories hremoves.keepsDirectories hplace
          obtain ⟨r, s', es, hrest, hhere, hleaves⟩ := ih (s := { s with tree }) hnames hplace'
          refine ⟨r, s', _, does_removeAll_cons hremove hrest, hhere, ?_⟩
          intro hr
          obtain ⟨hremoves', hgone'⟩ := hleaves hr
          refine ⟨?_, List.forall_mem_cons.mpr ⟨hremoves'.node?_eq_none hgone, hgone'⟩⟩
          exact (hremoves.mono (by simp +contextual)).trans (hremoves'.mono (by simp +contextual))

/-- What pruning has made of a tree: stale files are gone from the directory, if it is one, and
nothing else has changed. -/
structure Prunes (here : Place) (directory : Path) (kept : List String) (tree after : FileTree) :
    Prop where
  removes : Removes here directory (IsStale kept) tree after
  clean : ∀ name ∈ after.list here directory, ¬IsStale kept name
  usable : ∃ found, after.contains here directory = .ok found

/-- Where all stale files that are listed are removed, none is left. -/
theorem prunes_of_removes {here : Place} {tree after : FileTree}
    (hplace : tree.locate here directory = .ok place)
    (hremoves : Removes here directory
      (fun name => name ∈ tree.list here directory ∧ IsStale kept name) tree after)
    (hgone : ∀ name ∈ tree.list here directory, IsStale kept name →
      after.node? (place ++ [name]) = none) :
    Prunes here directory kept tree after := by
  have hplace' := FileTree.locate_of_keepsDirectories hremoves.keepsDirectories hplace
  refine ⟨hremoves.mono fun _ h => h.2, fun name hname hstale => ?_, _,
    FileTree.contains_of_locate hplace'⟩
  obtain ⟨q, hq, hdirectory, hthere⟩ := FileTree.mem_list_iff.mp hname
  rw [hplace'] at hq
  cases hq
  -- A name that is there now was there before, so it would have been removed.
  have hdirectory : tree.node? place = some .directory := by
    rcases hremoves place with hsame | ⟨-, -, -, -, hremoved⟩
    · rw [← hsame, hdirectory]
    · rw [hremoved] at hdirectory
      cases hdirectory
  have hbefore : tree.node? (place ++ [name]) ≠ none := fun hnone =>
    hthere (hremoves.node?_eq_none hnone)
  have hlisted := FileTree.mem_list_iff.mpr ⟨place, hplace, hdirectory, hbefore⟩
  exact hthere (hgone name hlisted hstale)

/-- Nothing is pruned from a directory without stale files. -/
theorem does_prune_of_clean {found : Bool}
    (hfound : s.tree.contains s.here directory = .ok found)
    (hclean : ∀ name ∈ s.tree.list s.here directory, ¬IsStale kept name) :
    Does (prune directory kept) s (.ok ()) s [] := by
  have hnone : ((s.tree.list s.here directory).filter fun name =>
      Text.endsWith vhostEnding name && !kept.contains name) = [] := by
    rw [List.filter_eq_nil_iff]
    intro name hname hstale
    exact hclean name hname (by simpa [IsStale] using hstale)
  have hend : Does (if found = true then removeAll directory [] else pure ()) s (.ok ()) s [] := by
    split
    · exact does_pure () s
    · exact does_pure () s
  unfold prune
  refine Does.get_bind_self (fun _ => rfl) ?_
  rw [hfound, hnone]
  exact (does_ofFiles (.ok found) s).bind hend

/-- **Pruning** removes the stale files of the directory and nothing else. -/
theorem does_prune (directory : Path) (kept : List String) (s : Session) :
    ∃ r s' added, Does (prune directory kept) s r s' added ∧ s'.here = s.here ∧
      (r = .ok () → Prunes s.here directory kept s.tree s'.tree) := by
  cases hfound : s.tree.contains s.here directory with
  | error fault =>
      refine ⟨.error (.fault (ofFileFault fault)), s, [], ?_, rfl, nofun⟩
      unfold prune
      refine Does.get_bind_self (fun _ => rfl) ?_
      rw [hfound]
      exact (does_ofFiles (.error fault) s).bind_error
  | ok found =>
      cases found with
      | false =>
          -- Where nothing is there are no names.
          have hclean : ∀ name ∈ s.tree.list s.here directory, ¬IsStale kept name := by
            intro name hname
            obtain ⟨place, hplace, hnode, -⟩ := FileTree.mem_list_iff.mp hname
            rw [FileTree.contains_of_locate hplace, hnode] at hfound
            cases hfound
          exact ⟨_, s, [], does_prune_of_clean hfound hclean, rfl,
            fun _ => ⟨.refl _ _ _ _, hclean, false, hfound⟩⟩
      | true =>
          obtain ⟨place, hplace⟩ := FileTree.locate_of_contains hfound
          have hstale (name : String) : name ∈ (s.tree.list s.here directory).filter (fun name =>
              Text.endsWith vhostEnding name && !kept.contains name) ↔
              name ∈ s.tree.list s.here directory ∧ IsStale kept name := by
            simp [IsStale]
          obtain ⟨r, s', added, hdoes, hhere, hleaves⟩ :=
            does_removeAll (fun name hname => ((hstale name).mp hname).2.ne_up) hplace
          refine ⟨r, s', [] ++ added, ?_, hhere, fun hr => ?_⟩
          · unfold prune
            refine Does.get_bind_self (fun _ => rfl) ?_
            rw [hfound]
            exact (does_ofFiles (.ok true) s).bind hdoes
          · obtain ⟨hremoves, hgone⟩ := hleaves hr
            refine prunes_of_removes hplace (hremoves.mono fun name => (hstale name).mp) ?_
            exact fun name hlisted h => hgone name ((hstale name).mpr ⟨hlisted, h⟩)

end

/-! ## Writing and pruning -/

/-- What becomes of a place when vhosts are written to a directory. -/
inductive PlaceLeft (here : Place) (directory : Path) (pruning : Bool) (vhosts : List Vhost)
    (tree after : FileTree) (q : Place) : Prop where
  | same (unchanged : after.node? q = tree.node? q)
  /-- A directory is new: the output directory, or one above it. -/
  | made (free : tree.node? q = none) (made : after.node? q = some .directory)
      (above : after.IsAbove here directory q)
  | wrote {vhost : Vhost} {place : Place} (written : vhost ∈ vhosts)
      (located : after.locate here directory = .ok place) (at_name : q = place ++ [vhost.filename])
      (wrote : after.node? q = some (.file (.text vhost.text)))
  /-- A vhost file directly in the directory was stale. -/
  | removed {name : String} {place : Place} {content : Content} (pruned : pruning = true)
      (stale : IsStale (vhosts.map Vhost.filename) name)
      (located : after.locate here directory = .ok place) (at_name : q = place ++ [name])
      (file : tree.node? q = some (.file content)) (removed : after.node? q = none)

/-- What writing vhosts to a directory leaves. -/
structure Leaves (here : Place) (directory : Path) (pruning : Bool) (vhosts : List Vhost)
    (tree after : FileTree) : Prop where
  files : ∀ vhost ∈ vhosts, HasFile after here directory vhost.filename vhost.text
  pruned : pruning = true → ∀ name,
    name ∈ after.list here directory ∧ Text.endsWith vhostEnding name = true ↔
      name ∈ vhosts.map Vhost.filename
  places : ∀ q, PlaceLeft here directory pruning vhosts tree after q

section
variable {here : Place} {directory : Path} {pruning : Bool} {vhosts : List Vhost}
  {tree mid after : FileTree} {s : Session}

theorem endsWith_filename (vhost : Vhost) : Text.endsWith vhostEnding vhost.filename = true := by
  rw [Text.endsWith, Vhost.filename, List.isSuffixOf_iff_suffix, String.toList_append]
  exact List.suffix_append _ _

/-- What was added is left, with the texts that the files hold in the end. -/
theorem placeLeft_of_placeAdds {q : Place}
    (files : ∀ vhost ∈ vhosts, HasFile after here directory vhost.filename vhost.text)
    (h : FileTree.PlaceAdds here directory (vhosts.map Vhost.filename) tree after q) :
    PlaceLeft here directory pruning vhosts tree after q := by
  rcases h with hsame | ⟨hfree, hmade, habove⟩ | ⟨hnamed, hlocated, hat, -, -⟩
  · exact .same hsame
  · exact .made hfree hmade habove
  · obtain ⟨vhost, hvhost, rfl⟩ := List.mem_map.mp hnamed
    obtain ⟨place, hplace, -, hnode⟩ := files vhost hvhost
    rw [hlocated] at hplace
    cases hplace
    exact .wrote hvhost hlocated hat (hat ▸ hnode)

/-- Without pruning, what was added is all that is left. -/
theorem leaves_of_adds (holds : HoldsVhosts after here directory vhosts)
    (adds : Adds here directory (vhosts.map Vhost.filename) tree after) :
    Leaves here directory false vhosts tree after :=
  have files := fun vhost hvhost => (holds vhost hvhost).1
  ⟨files, nofun, fun q => placeLeft_of_placeAdds files (adds q)⟩

/-- Pruning keeps the files of the vhosts. -/
theorem HoldsVhosts.of_prunes (holds : HoldsVhosts mid here directory vhosts)
    (prunes : Prunes here directory (vhosts.map Vhost.filename) mid after) :
    HoldsVhosts after here directory vhosts := by
  intro vhost hvhost
  obtain ⟨hfile, hhalf⟩ := holds vhost hvhost
  have hkept : ¬IsStale (vhosts.map Vhost.filename) vhost.filename := fun h =>
    h.2 (List.mem_map.mpr ⟨vhost, hvhost, rfl⟩)
  exact ⟨hfile.of_removes prunes.removes hkept, hhalf⟩

/-- With pruning, what was added is left and stale files are gone. -/
theorem leaves_of_prunes (apart : FilesApart vhosts)
    (holds : HoldsVhosts mid here directory vhosts)
    (adds : Adds here directory (vhosts.map Vhost.filename) tree mid)
    (prunes : Prunes here directory (vhosts.map Vhost.filename) mid after) :
    Leaves here directory true vhosts tree after := by
  have keeps := prunes.removes.keepsDirectories
  have files := fun vhost hvhost => (holds.of_prunes prunes vhost hvhost).1
  refine ⟨files, fun _ name => ⟨?_, ?_⟩, fun q => ?_⟩
  · rintro ⟨hlisted, hending⟩
    by_cases hkept : name ∈ vhosts.map Vhost.filename
    · exact hkept
    · exact absurd ⟨hending, hkept⟩ (prunes.clean name hlisted)
  · intro hname
    obtain ⟨vhost, hvhost, rfl⟩ := List.mem_map.mp hname
    obtain ⟨place, hplace, hchild, hnode⟩ := files vhost hvhost
    have hdirectory := (FileTree.locate_child (apart.inside vhost hvhost) hplace hchild).1
    exact ⟨FileTree.mem_list_iff.mpr ⟨place, hplace, hdirectory, by simp [hnode]⟩,
      endsWith_filename vhost⟩
  · rcases prunes.removes q with hsame | ⟨hstale, hlocated, hat, hfile, hremoved⟩
    · exact placeLeft_of_placeAdds files ((adds q).of_same keeps hsame)
    · rcases adds q with hsame | ⟨-, hmade, -⟩ | ⟨hnamed, hlocated', hat', -, -⟩
      · exact .removed rfl hstale hlocated hat (hsame ▸ hfile) hremoved
      · rw [hmade] at hfile
        cases hfile
      · -- What was written is not stale.
        rw [FileTree.locate_of_keepsDirectories keeps hlocated'] at hlocated
        cases hlocated
        have hsame := FileTree.name_eq_of_place_eq (hat'.symm.trans hat)
        exact absurd (hsame ▸ hnamed) hstale.2

/-- Stale files are gone. -/
theorem Leaves.node?_of_isStale (h : Leaves here directory true vhosts tree after) {place : Place}
    {name : String} (located : after.locate here directory = .ok place)
    (hdirectory : after.node? place = some .directory)
    (stale : IsStale (vhosts.map Vhost.filename) name) : after.node? (place ++ [name]) = none := by
  by_contra hthere
  have hlisted := FileTree.mem_list_iff.mpr ⟨place, located, hdirectory, hthere⟩
  exact stale.2 ((h.pruned rfl name).mp ⟨hlisted, stale.1⟩)

/-- What is in the directory and is no vhost file stays as it is. -/
theorem Leaves.node?_of_other (h : Leaves here directory pruning vhosts tree after) {place : Place}
    {name : String} (located : after.locate here directory = .ok place)
    (hname : Text.endsWith vhostEnding name = false)
    (hthere : tree.node? (place ++ [name]) ≠ none) :
    after.node? (place ++ [name]) = tree.node? (place ++ [name]) := by
  have hsame : ∀ {q : Place} {other : String}, after.locate here directory = .ok q →
      place ++ [name] = q ++ [other] → name = other := by
    intro q other hq hat
    rw [located] at hq
    cases hq
    exact FileTree.name_eq_of_place_eq hat
  rcases h.places (place ++ [name]) with
    hunchanged | ⟨hfree, -, -⟩ | @⟨vhost, _, -, hq, hat, -⟩ | ⟨-, hstale, hq, hat, -, -⟩
  · exact hunchanged
  · exact absurd hfree hthere
  · rw [hsame hq hat, endsWith_filename] at hname
    cases hname
  · rw [hsame hq hat, hstale.1] at hname
    cases hname

theorem names_pathsIn (directory : Path) (vhosts : List Vhost) :
    (pathsIn directory vhosts).map Path.name = vhosts.map Vhost.filename := by
  rw [pathsIn, List.map_map]
  refine List.map_congr_left fun vhost _ => ?_
  simp [Path.name, Path.child]

/-- **Writing vhosts to a directory** leaves their files there and, with pruning, no other vhost
file. Doing it again changes nothing. -/
theorem does_writeSites (apart : FilesApart vhosts) (directory : Path) (pruning : Bool)
    (s : Session) :
    ∃ r s' added, Does (writeSites vhosts directory pruning) s r s' added ∧ s'.here = s.here ∧
      ∀ paths, r = .ok paths → paths = pathsIn directory vhosts ∧
        Leaves s.here directory pruning vhosts s.tree s'.tree ∧
          ∃ more, Does (writeSites vhosts directory pruning) s' (.ok paths) s' more := by
  obtain ⟨r, s', added, hwrites, hhere, -, hadds, hholds⟩ := does_writeAll directory s apart
  unfold writeSites
  cases r with
  | error failure => exact ⟨.error failure, s', added, hwrites.bind_error, hhere, nofun⟩
  | ok paths =>
      obtain ⟨rfl, holds⟩ := hholds paths rfl
      cases pruning with
      | false =>
          refine ⟨.ok (pathsIn directory vhosts), s', added ++ [], ?_, hhere, ?_⟩
          · exact hwrites.bind (does_pure _ s')
          · rintro _ ⟨rfl⟩
            rw [← hhere] at holds hadds ⊢
            obtain ⟨more, hagain⟩ := does_writeAll_again apart holds
            exact ⟨rfl, leaves_of_adds holds hadds, _, hagain.bind (does_pure _ s')⟩
      | true =>
          obtain ⟨q, s'', fs, hprunes, hhere', hleaves⟩ :=
            does_prune directory ((pathsIn directory vhosts).map Path.name) s'
          rw [names_pathsIn, hhere] at hleaves
          cases q with
          | error failure =>
              refine ⟨.error failure, s'', added ++ fs, ?_, hhere'.trans hhere, nofun⟩
              exact hwrites.bind hprunes.bind_error
          | ok _ =>
              have hprune := hleaves rfl
              refine ⟨.ok (pathsIn directory vhosts), s'', added ++ (fs ++ []), ?_,
                hhere'.trans hhere, ?_⟩
              · exact hwrites.bind (hprunes.bind (does_pure _ s''))
              · rintro _ ⟨rfl⟩
                have hleft := leaves_of_prunes apart holds hadds hprune
                have hholds := holds.of_prunes hprune
                obtain ⟨-, hclean, found, hfound⟩ := hprune
                rw [← names_pathsIn directory vhosts] at hclean
                rw [← hhere, ← hhere'] at hholds hclean hfound
                obtain ⟨more, hagain⟩ := does_writeAll_again apart hholds
                exact ⟨rfl, hleft, _, hagain.bind
                  ((does_prune_of_clean hfound hclean).bind (does_pure _ s''))⟩

end

end BucketVhosts.Action
