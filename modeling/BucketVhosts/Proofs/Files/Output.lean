import BucketVhosts.Proofs.Files.Unhindered
import BucketVhosts.Proofs.Vhost.Building

/-!
# The output directory

Vhosts of a sites document have names of files that are no paths, as their domains are host names,
and no two have the same name, as no two sites have the same host. So each has its own file directly
in the output directory.
-/
namespace BucketVhosts

/-! ## Names of files -/

/-- A text without slashes is a path with one component. -/
theorem Path.ofText_of_single {s : String} (hslash : '/' ∉ s.toList)
    (hlength : 2 < s.toList.length) : Path.ofText s = ⟨.here, [s]⟩ := by
  have hroot : Path.rootOf s.toList = .here := by
    cases hs : s.toList with
    | nil => rfl
    | cons c rest =>
        rw [hs, List.mem_cons, not_or] at hslash
        rw [Path.rootOf.eq_def]
        split
        · simp_all
        · simp_all
        · simp_all
        · rfl
  have hempty : s ≠ "" := by
    rintro rfl
    exact absurd hlength (by decide)
  have hpoint : s ≠ "." := by
    rintro rfl
    exact absurd hlength (by decide)
  rw [Path.ofText, hroot, Path.partsOf, List.splitOn_eq_singleton hslash]
  simp [hempty, hpoint]

namespace Vhost

theorem toList_filename (vhost : Vhost) :
    vhost.filename.toList = vhost.domain.toList ++ ".conf".toList := by
  rw [filename, String.toList_append]

theorem length_filename (vhost : Vhost) : 2 < vhost.filename.toList.length := by
  have hending : ".conf".toList.length = 5 := by decide
  rw [toList_filename, List.length_append, hending]
  omega

theorem slash_not_mem_filename {vhost : Vhost} (h : Host.isName vhost.domain = true) :
    '/' ∉ vhost.filename.toList := by
  rw [toList_filename, List.mem_append, not_or]
  refine ⟨fun hslash => ?_, by decide⟩
  exact absurd (Host.isNameChar_of_completesName h '/' hslash) (by decide)

theorem eq_of_filename_eq {a b : Vhost} (h : a.filename = b.filename) : a.domain = b.domain := by
  rw [← String.toList_inj, toList_filename, toList_filename] at h
  rw [← String.toList_inj]
  exact List.append_cancel_right h

section
variable [Limits] {renderer : Renderer} {variant : Variant} {backend : String} {sites : List Site}
  {vhosts : List Vhost}

theorem map_domain_of_forall₂
    (h : List.Forall₂ (CompiledAlone renderer variant backend) sites vhosts) :
    vhosts.map Vhost.domain = sites.map fun site => Text.trim site.domain := by
  induction h with
  | nil => rfl
  | cons hsite _ ih => rw [List.map_cons, List.map_cons, hsite.domain_eq, ih]

theorem map_filename_of_forall₂
    (h : List.Forall₂ (CompiledAlone renderer variant backend) sites vhosts) :
    vhosts.map Vhost.filename = sites.map fun site => Text.trim site.domain ++ ".conf" := by
  have hdomains := congrArg (List.map (· ++ ".conf")) (map_domain_of_forall₂ h)
  rwa [List.map_map, List.map_map] at hdomains

/-- Simple vhosts have a form in UTF-8 when their layouts have one. -/
theorem hasHalf_of_forall₂ {padWidth : Operand} (made : Renderer.shipped padWidth = .ok renderer)
    (h : List.Forall₂ (CompiledAlone renderer .simple backend) sites vhosts)
    (hsites : ∀ site ∈ sites,
      Text.hasHalf (written (simpleLayout (.ofSite backend site))) = false) :
    ∀ vhost ∈ vhosts, Text.hasHalf vhost.text = false := by
  induction h with
  | nil => nofun
  | @cons site vhost _ _ hsite _ ih =>
      obtain ⟨hfirst, hrest⟩ := List.forall_mem_cons.mp hsites
      refine List.forall_mem_cons.mpr ⟨?_, ih hrest⟩
      obtain ⟨-, -, context, hcontext, hrender⟩ := hsite
      obtain ⟨-, rfl⟩ := Context.build_eq_ok_iff.mp hcontext
      have hlabels : HasLabels .simple (Context.ofSite backend site).domain := nofun
      obtain ⟨width, -, hlayout⟩ := render_layout made hlabels
      rw [hrender] at hlayout
      rw [Except.ok.inj hlayout]
      exact hfirst

end
end Vhost

section
variable {tree : FileTree} {here : Place} {path : Path} {variant : Variant} {backend : String}
  {padWidth : Operand} {document : Document} {vhosts : List Vhost}

/-- Vhosts of a document have their own files. -/
theorem Document.Builds.filesApart [Limits]
    (h : Document.Builds tree here path variant backend padWidth document vhosts) :
    Action.FilesApart vhosts := by
  obtain ⟨-, hvalid, renderer, hmade, hcompiled⟩ := h
  have hdomains := Vhost.map_domain_of_forall₂ (Vhost.forall₂_of_compile hcompiled)
  have hkeys := ((Vhost.compile_succeeds_iff hmade).mp ⟨vhosts, hcompiled⟩).keys
  rw [Site.validate_eq_ok_iff] at hvalid
  have hname : ∀ vhost ∈ vhosts, Host.isName vhost.domain = true := by
    intro vhost hvhost
    have hmem : vhost.domain ∈ vhosts.map Vhost.domain := List.mem_map.mpr ⟨vhost, hvhost, rfl⟩
    rw [hdomains] at hmem
    obtain ⟨site, hsite, hdomain⟩ := List.mem_map.mp hmem
    have hvalid := (hvalid site hsite).domain.name
    rw [← hdomain, Host.trim_of_isName hvalid]
    exact hvalid
  have hdifferent : (vhosts.map Vhost.domain).Nodup := by
    rw [hdomains]
    refine List.Nodup.of_map Host.key ?_
    rwa [List.map_map]
  constructor
  · exact fun vhost hvhost => Path.ofText_of_single
      (Vhost.slash_not_mem_filename (hname vhost hvhost)) (Vhost.length_filename vhost)
  · intro vhost _ hup
    have hlength := Vhost.length_filename vhost
    rw [hup] at hlength
    exact absurd hlength (by decide)
  · refine List.Nodup.map_on ?_ hdifferent.of_map
    intro a ha b hb hsame
    exact List.inj_on_of_nodup_map hdifferent ha hb (Vhost.eq_of_filename_eq hsame)

end

namespace Action

/-- What a run has done when a write fails: it has removed nothing. -/
structure LeavesAll (s last : Session) : Prop where
  effects : ∃ added, last.trace = s.trace ++ added ∧ RemovesNothing added
  places : ∀ q, s.tree.node? q ≠ none → last.tree.node? q ≠ none

/-- **Writing the vhosts of a document** to a directory, where it ends well, gives the paths of
their files, which differ, and leaves each with the text of its vhost; with pruning no other vhost
file is left in the directory, and nothing else has changed but directories that were missing above.
Doing it again changes nothing. Where a write fails, nothing has been removed. -/
theorem writeSites_of_build [Limits] {tree : FileTree} {here : Place} {path : Path}
    {variant : Variant} {backend : String} {padWidth : Operand} {document : Document}
    {vhosts : List Vhost}
    (built : (Document.build tree here path variant backend padWidth).result =
      .ok (document, vhosts)) (directory : Path) (pruning : Bool) (s : Session) :
    (∀ paths last, (writeSites vhosts directory pruning).runOn s = (.ok paths, last) →
        paths = (vhosts.map fun vhost => directory.child vhost.filename) ∧ paths.Nodup ∧
          Leaves s.here directory pruning vhosts s.tree last.tree ∧
            ∃ again, (writeSites vhosts directory pruning).runOn last = (.ok paths, again) ∧
              again.tree = last.tree) ∧
      ∀ failure last, (writeAll directory vhosts).runOn s = (.error failure, last) →
        (writeSites vhosts directory pruning).runOn s = (.error failure, last) ∧
          LeavesAll s last := by
  have apart := (Document.builds_iff.mpr built).filesApart
  constructor
  · intro paths last hrun
    obtain ⟨r, s', added, hdoes, -, hleaves⟩ := does_writeSites apart directory pruning s
    obtain ⟨rfl, rfl⟩ := hdoes.of_runOn hrun
    obtain ⟨rfl, hleft, more, hagain⟩ := hleaves paths rfl
    refine ⟨rfl, ?_, hleft, _, hagain (s.trace ++ added), rfl⟩
    refine List.Nodup.of_map Path.name ?_
    rw [names_pathsIn]
    exact apart.different
  · intro failure last hrun
    obtain ⟨r, s', added, hdoes, -, hnothing, hadds, -⟩ := does_writeAll directory s apart
    obtain ⟨rfl, rfl⟩ := hdoes.of_runOn hrun
    have hsites : Does (writeSites vhosts directory pruning) s (.error failure) s' added :=
      hdoes.bind_error
    exact ⟨hsites.runOn_eq, ⟨added, rfl, hnothing⟩, fun q => hadds.node?_ne_none⟩

/-- A document of two sites. -/
def twoSites : FileTree :=
  Document.treeOf (.text "sites:\n- domain: a.example\n- domain: b.example\n")

/-- Its vhosts are named for the domains, and their texts have a form in UTF-8. -/
theorem build_twoSites :
    ∃ document vhosts, (Document.build twoSites [] ⟨.here, ["sites.yaml"]⟩ .simple
        "https://storage.example" (.int Filter.defaultWidth)).result = .ok (document, vhosts) ∧
      vhosts.map Vhost.filename = ["a.example.conf", "b.example.conf"] ∧
      ∀ vhost ∈ vhosts, Text.hasHalf vhost.text = false := by
  have hloaded : (Document.load twoSites [] ⟨.here, ["sites.yaml"]⟩).result =
      .ok ⟨[{ domain := "a.example" }, { domain := "b.example" }]⟩ := by
    decide +kernel
  have hvalid : Site.validate .simple [{ domain := "a.example" }, { domain := "b.example" }] =
      .ok () :=
    Site.validate_eq_ok_iff.mpr (by decide +kernel)
  obtain ⟨vhosts, hcompiled⟩ : ∃ vhosts, (Vhost.compile Renderer.standard .simple
      "https://storage.example" [{ domain := "a.example" }, { domain := "b.example" }]).result =
        .ok vhosts := by
    rw [Vhost.compile_succeeds_iff Vhost.shipped_standard]
    decide +kernel
  have hbuilt := Document.builds_iff.mp ⟨hloaded, hvalid, _, Vhost.shipped_standard, hcompiled⟩
  have halone := Vhost.forall₂_of_compile hcompiled
  refine ⟨_, vhosts, hbuilt, ?_, ?_⟩
  · rw [Vhost.map_filename_of_forall₂ halone]
    decide +kernel
  · refine Vhost.hasHalf_of_forall₂ Vhost.shipped_standard halone ?_
    simp only [Vhost.hasHalf_written]
    decide +kernel

/-- A directory with the file of a vhost, a stale one, and a file of another kind. -/
def usedOutput : FileTree :=
  (((Table.empty.put ["out"] .directory).put ["out", "a.example.conf"] (.file (.text "before"))).put
    ["out", "old.conf"] (.file (.text "stale"))).put ["out", "notes.txt"] (.file (.text "kept"))

/-- The vhost files of two sites can be in it, and the one that is there besides. -/
theorem canHold_usedOutput : FileTree.CanHold usedOutput [] ⟨.slash, ["out"]⟩ ["out"]
    ["a.example.conf", "b.example.conf", "old.conf"] :=
  ⟨by decide +kernel, by decide +kernel, by decide +kernel, by decide +kernel⟩

/-- The vhost files in it are of these names. -/
theorem mem_of_mem_list_usedOutput {name : String}
    (hname : name ∈ usedOutput.list [] ⟨.slash, ["out"]⟩)
    (hending : Text.endsWith vhostEnding name = true) :
    name ∈ ["a.example.conf", "b.example.conf", "old.conf"] := by
  have hthere := canHold_usedOutput.mem_list_iff.mp hname
  rw [FileTree.node?, if_neg (by simp), ← Option.isSome_iff_ne_none, Table.isSome_get?] at hthere
  have hkeys : usedOutput.keys =
      [["out"], ["out", "a.example.conf"], ["out", "old.conf"], ["out", "notes.txt"]] := rfl
  have hnamed : name = "a.example.conf" ∨ name = "old.conf" ∨ name = "notes.txt" := by
    simpa [hkeys] using hthere
  rcases hnamed with rfl | rfl | rfl
  · decide
  · decide
  · exact absurd hending (by decide)

/-- The vhosts of two sites are written to a directory that is in use. The stale file is removed,
and the one of another kind stays. -/
theorem writeSites_twoSites :
    ∃ document vhosts paths last,
      (Document.build twoSites [] ⟨.here, ["sites.yaml"]⟩ .simple "https://storage.example"
          (.int Filter.defaultWidth)).result = .ok (document, vhosts) ∧
        vhosts.map Vhost.filename = ["a.example.conf", "b.example.conf"] ∧
        (writeSites vhosts ⟨.slash, ["out"]⟩ true).runOn { tree := usedOutput } =
          (.ok paths, last) ∧
          Leaves [] ⟨.slash, ["out"]⟩ true vhosts usedOutput last.tree ∧
          last.tree.node? ["out", "old.conf"] = none ∧
          last.tree.node? ["out", "notes.txt"] = some (.file (.text "kept")) := by
  obtain ⟨document, vhosts, hbuilt, hfilenames, hhalf⟩ := build_twoSites
  have hnames : ∀ vhost ∈ vhosts, vhost.filename ∈
      ["a.example.conf", "b.example.conf", "old.conf"] := by
    intro vhost hvhost
    have hmem : vhost.filename ∈ vhosts.map Vhost.filename := List.mem_map.mpr ⟨_, hvhost, rfl⟩
    rw [hfilenames] at hmem
    exact List.mem_append_left ["old.conf"] hmem
  have apart := (Document.builds_iff.mpr hbuilt).filesApart
  obtain ⟨last, added, hdoes⟩ := does_writeSites_of_canHold (s := { tree := usedOutput })
    apart hhalf canHold_usedOutput hnames (fun _ => mem_of_mem_list_usedOutput) true
  obtain ⟨-, -, hleaves, -⟩ := (writeSites_of_build hbuilt ⟨.slash, ["out"]⟩ true
    { tree := usedOutput }).1 _ _ hdoes.runOn_eq
  obtain ⟨vhost, hvhost, -⟩ : ∃ vhost ∈ vhosts, vhost.filename = "a.example.conf" :=
    List.mem_map.mp (by rw [hfilenames]; simp)
  obtain ⟨place, hplace, hchild, -⟩ := hleaves.files vhost hvhost
  have hdirectory := (FileTree.locate_child (apart.inside vhost hvhost) hplace hchild).1
  -- The directory is right below the root, so that it has the same place in all trees.
  obtain ⟨-, -, hfollow⟩ := FileTree.locate_eq_ok_iff.mp hplace
  obtain rfl : ["out"] = place := Except.ok.inj hfollow
  refine ⟨document, vhosts, _, _, hbuilt, hfilenames, hdoes.runOn_eq, hleaves, ?_, ?_⟩
  · refine hleaves.node?_of_isStale hplace hdirectory ⟨by decide, ?_⟩
    rw [hfilenames]
    decide
  · exact hleaves.node?_of_other hplace (by decide) (by decide)

end Action
end BucketVhosts
