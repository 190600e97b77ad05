import BucketVhosts.Proofs.Files.Writing

/-!
# Writing that nothing stands in the way of

Writing and pruning end well in a directory that is there, when the texts have a form in UTF-8 and
every name of a vhost file can be that of a file: it can be reached, and no directory has it. Files
that are written leave this so for the ones after them.
-/
namespace BucketVhosts

/-! ## Names for files -/

namespace FileTree

/-- Each of the names can be that of a file in a directory. -/
structure CanHold (tree : FileTree) (here : Place) (directory : Path) (place : Place)
    (names : List String) : Prop where
  located : tree.locate here directory = .ok place
  isDirectory : tree.node? place = some .directory
  reached : ∀ name ∈ names, tree.locate here (directory.child name) = .ok (place ++ [name])
  free : ∀ name ∈ names, tree.node? (place ++ [name]) ≠ some .directory

/-- Trees differ at most in files of the names. -/
def Fills (place : Place) (names : List String) (tree after : FileTree) : Prop :=
  ∀ q, after.node? q = tree.node? q ∨
    ∃ name ∈ names, q = place ++ [name] ∧ ∃ content, after.node? q = some (.file content)

section
variable {tree mid after : FileTree} {here place : Place} {directory : Path} {name : String}
  {names more : List String}

theorem Fills.refl (place : Place) (names : List String) (tree : FileTree) :
    Fills place names tree tree :=
  fun _ => .inl rfl

theorem Fills.mono (h : Fills place names tree after) (hnames : ∀ n ∈ names, n ∈ more) :
    Fills place more tree after := by
  intro q
  rcases h q with hsame | ⟨name, hname, hat, hfile⟩
  · exact .inl hsame
  · exact .inr ⟨name, hnames name hname, hat, hfile⟩

theorem Fills.trans (h : Fills place names tree mid) (h' : Fills place names mid after) :
    Fills place names tree after := by
  intro q
  rcases h' q with hsame | hfilled
  · rw [hsame]
    exact h q
  · exact .inr hfilled

theorem fills_put (h : tree.node? (place ++ [name]) ≠ some .directory) (content : Content) :
    Fills place [name] tree (tree.put (place ++ [name]) (.file content)) := by
  intro q
  rw [node?_put h]
  by_cases hq : q = place ++ [name]
  · exact .inr ⟨name, List.mem_cons_self, hq, content, if_pos hq⟩
  · exact .inl (if_neg hq)

theorem CanHold.mono (h : CanHold tree here directory place names)
    (hnames : ∀ n ∈ more, n ∈ names) : CanHold tree here directory place more :=
  ⟨h.located, h.isDirectory, fun n hn => h.reached n (hnames n hn),
    fun n hn => h.free n (hnames n hn)⟩

/-- Where directories stay and none is new, names are as good as before. -/
theorem CanHold.of_keepsDirectories (h : CanHold tree here directory place names)
    (keeps : KeepsDirectories tree after)
    (hfree : ∀ n ∈ names, after.node? (place ++ [n]) ≠ some .directory) :
    CanHold after here directory place names :=
  ⟨locate_of_keepsDirectories keeps h.located, keeps place h.isDirectory,
    fun n hn => locate_of_keepsDirectories keeps (h.reached n hn), hfree⟩

theorem CanHold.of_fills (h : CanHold tree here directory place names)
    (fills : Fills place names tree after) : CanHold after here directory place names := by
  refine h.of_keepsDirectories ?_ ?_
  · intro q hq
    rcases fills q with hsame | ⟨n, hn, rfl, -⟩
    · rw [hsame, hq]
    · exact absurd hq (h.free n hn)
  · intro n hn
    rcases fills (place ++ [n]) with hsame | ⟨-, -, -, content, hfile⟩
    · rw [hsame]
      exact h.free n hn
    · simp [hfile]

/-- A directory that has names at all is there. -/
theorem CanHold.mem_list_iff (h : CanHold tree here directory place names) :
    name ∈ tree.list here directory ↔ tree.node? (place ++ [name]) ≠ none := by
  rw [FileTree.mem_list_iff]
  constructor
  · rintro ⟨q, hq, -, hthere⟩
    rw [h.located] at hq
    cases hq
    exact hthere
  · exact fun hthere => ⟨place, h.located, h.isDirectory, hthere⟩

end
end FileTree

namespace Action
open FileTree (CanHold Fills)

section
variable {directory : Path} {place : Place} {names : List String} {vhosts : List Vhost}
  {s : Session}

/-! ## Writing -/

theorem does_writeFile_of_canHold {name text : String}
    (h : CanHold s.tree s.here directory place names) (hname : name ∈ names)
    (hhalf : Text.hasHalf text = false) :
    ∃ tree added, Does (writeFile (directory.child name) text) s (.ok ()) { s with tree } added ∧
      Fills place [name] s.tree tree := by
  have hensure := FileTree.ensureDirectories_of_find
    (FileTree.find_eq_ok_iff.mpr ⟨place, h.located, h.isDirectory⟩)
  have hwrite : s.tree.write s.here (directory.child name) (writable text) =
      .ok (s.tree.put (place ++ [name]) (.file (.text (writable text)))) :=
    FileTree.write_eq_ok_iff.mpr ⟨_, h.reached name hname, h.free name hname, rfl⟩
  obtain ⟨_, hdoes⟩ := does_writeFile_of_write hensure hwrite
  rw [hhalf, if_neg Bool.false_ne_true] at hdoes
  exact ⟨_, _, hdoes, FileTree.fills_put (h.free name hname) _⟩

/-- Writing vhosts ends well. Each file leaves the names of the others as good as they were. -/
theorem does_writeAll_of_canHold (apart : FilesApart vhosts)
    (texts : ∀ vhost ∈ vhosts, Text.hasHalf vhost.text = false)
    (h : CanHold s.tree s.here directory place names)
    (hnames : ∀ vhost ∈ vhosts, vhost.filename ∈ names) :
    ∃ tree added, Does (writeAll directory vhosts) s (.ok (pathsIn directory vhosts))
        { s with tree } added ∧
      Fills place (vhosts.map Vhost.filename) s.tree tree := by
  induction vhosts generalizing s with
  | nil => exact ⟨s.tree, [], does_pure [] s, .refl _ _ _⟩
  | cons vhost rest ih =>
      obtain ⟨hname, hrestnames⟩ := List.forall_mem_cons.mp hnames
      obtain ⟨hhalf, hresttexts⟩ := List.forall_mem_cons.mp texts
      obtain ⟨tree, es, hfirst, hfills⟩ := does_writeFile_of_canHold h hname hhalf
      have hmid : CanHold tree s.here directory place names :=
        h.of_fills (hfills.mono (by simpa using hname))
      obtain ⟨after, fs, hrest, hfills'⟩ :=
        ih (s := { s with tree }) apart.tail hresttexts hmid hrestnames
      exact ⟨after, _, does_writeAll_cons apart hfirst hrest,
        (hfills.mono (by simp)).trans (hfills'.mono (by simp +contextual))⟩

/-! ## Pruning -/

/-- Files that are there can be removed. -/
theorem does_removeAll_of_canHold (distinct : names.Nodup)
    (h : CanHold s.tree s.here directory place names)
    (hthere : ∀ name ∈ names, s.tree.node? (place ++ [name]) ≠ none) :
    ∃ s' added, Does (removeAll directory names) s (.ok ()) s' added := by
  induction names generalizing s with
  | nil => exact ⟨s, [], does_pure () s⟩
  | cons name rest ih =>
      obtain ⟨hother, hdistinct⟩ := List.nodup_cons.mp distinct
      have hreached := h.reached name List.mem_cons_self
      have hfree := h.free name List.mem_cons_self
      obtain ⟨content, hfile⟩ :
          ∃ content, s.tree.node? (place ++ [name]) = some (.file content) := by
        cases hnode : s.tree.node? (place ++ [name]) with
        | none => exact absurd hnode (hthere name List.mem_cons_self)
        | some node =>
            cases node with
            | directory => exact absurd hnode hfree
            | file content => exact ⟨content, rfl⟩
      have hremove : s.tree.remove s.here (directory.child name) =
          .ok (s.tree.erase (place ++ [name])) :=
        FileTree.remove_eq_ok_iff.mpr ⟨_, content, hreached, hfile, rfl⟩
      have herase := FileTree.node?_erase hfree
      have hrest : CanHold (s.tree.erase (place ++ [name])) s.here directory place rest := by
        refine (h.mono fun _ hn => List.mem_cons_of_mem _ hn).of_keepsDirectories ?_ ?_
        · intro q hq
          rw [herase, if_neg, hq]
          rintro rfl
          exact hfree hq
        · intro n hn
          rw [herase]
          split
          · nofun
          · exact h.free n (List.mem_cons_of_mem _ hn)
      have hthere' : ∀ n ∈ rest,
          FileTree.node? (s.tree.erase (place ++ [name])) (place ++ [n]) ≠ none := by
        intro n hn
        rw [herase, if_neg]
        · exact hthere n (List.mem_cons_of_mem _ hn)
        · intro hat
          exact hother (FileTree.name_eq_of_place_eq hat ▸ hn)
      obtain ⟨s', added, hdoes⟩ :=
        ih (s := { s with tree := s.tree.erase (place ++ [name]) }) hdistinct hrest hthere'
      exact ⟨s', _, does_removeAll_cons hremove hdoes⟩

/-- Stale files can be removed. -/
theorem does_prune_of_canHold {kept : List String}
    (h : CanHold s.tree s.here directory place names)
    (hstale : ∀ name ∈ s.tree.list s.here directory, IsStale kept name → name ∈ names) :
    ∃ s' added, Does (prune directory kept) s (.ok ()) s' added := by
  have hfound : s.tree.contains s.here directory = .ok true := by
    rw [FileTree.contains_of_locate h.located, h.isDirectory, Option.isSome_some]
  have hremoved : CanHold s.tree s.here directory place
      ((s.tree.list s.here directory).filter fun name =>
        Text.endsWith vhostEnding name && !kept.contains name) := by
    refine h.mono fun name hname => ?_
    obtain ⟨hlisted, hname⟩ := List.mem_filter.mp hname
    exact hstale name hlisted (by simpa [IsStale] using hname)
  obtain ⟨s', added, hdoes⟩ := does_removeAll_of_canHold
    ((FileTree.nodup_list s.tree s.here directory).filter _) hremoved fun name hname =>
      h.mem_list_iff.mp (List.mem_filter.mp hname).1
  refine ⟨s', [] ++ added, ?_⟩
  unfold prune
  refine Does.get_bind_self (fun _ => rfl) ?_
  rw [hfound]
  exact (does_ofFiles (.ok true) s).bind hdoes

/-! ## Writing and pruning -/

/-- **Writing vhosts ends well** where their files, and the vhost files that are there, can be. -/
theorem does_writeSites_of_canHold (apart : FilesApart vhosts)
    (texts : ∀ vhost ∈ vhosts, Text.hasHalf vhost.text = false)
    (h : CanHold s.tree s.here directory place names)
    (hnames : ∀ vhost ∈ vhosts, vhost.filename ∈ names)
    (hlisted : ∀ name ∈ s.tree.list s.here directory,
      Text.endsWith vhostEnding name = true → name ∈ names) (pruning : Bool) :
    ∃ s' added, Does (writeSites vhosts directory pruning) s
      (.ok (pathsIn directory vhosts)) s' added := by
  obtain ⟨tree, es, hwrites, hfills⟩ := does_writeAll_of_canHold apart texts h hnames
  cases pruning with
  | false => exact ⟨_, _, hwrites.bind (does_pure _ _)⟩
  | true =>
      have hmid : CanHold tree s.here directory place names := by
        refine h.of_fills (hfills.mono fun name hname => ?_)
        obtain ⟨vhost, hvhost, rfl⟩ := List.mem_map.mp hname
        exact hnames vhost hvhost
      -- What is stale now was there before, since only files of the vhosts have been written.
      have hstale : ∀ name ∈ tree.list s.here directory,
          IsStale (vhosts.map Vhost.filename) name → name ∈ names := by
        intro name hname hstale
        refine hlisted name ?_ hstale.1
        rw [hmid.mem_list_iff] at hname
        rw [h.mem_list_iff]
        rcases hfills (place ++ [name]) with hsame | ⟨n, hn, hat, -⟩
        · rwa [← hsame]
        · exact absurd (FileTree.name_eq_of_place_eq hat ▸ hn) hstale.2
      obtain ⟨s', fs, hprunes⟩ := does_prune_of_canHold (s := { s with tree }) hmid hstale
      rw [← names_pathsIn directory vhosts] at hprunes
      exact ⟨s', _, hwrites.bind (hprunes.bind (does_pure _ s'))⟩

end
end Action
end BucketVhosts
