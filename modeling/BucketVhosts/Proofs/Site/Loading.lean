import BucketVhosts.Proofs.Toml.Faults
import BucketVhosts.Proofs.Yaml.Values
import BucketVhosts.Site.Loading

/-!
# What loading a document can end with

A document that cannot be loaded is refused under the path that was given, whatever the reason,
except for faults that go past the loader: a path that no file can have, a file that is no text,
and the faults of reading the text.
-/
namespace BucketVhosts
open Data

/-! ## Finding files -/

namespace FileTree
variable {tree : FileTree} {here : Place} {path : Path}

/-- Following components fails only for what is in the tree, or for a name that is too long. -/
theorem fault_of_follow {place : Place} {parts : List String} {fault : FileFault}
    (h : tree.follow place parts = .error fault) :
    fault = .missing ∨ fault = .notDirectory ∨ fault = .nameTooLong := by
  induction parts generalizing place with
  | nil => cases h
  | cons part rest ih =>
      rw [follow] at h
      split at h
      · exact .inl (Except.error.inj h).symm
      · exact .inr (.inl (Except.error.inj h).symm)
      · split at h
        · exact .inr (.inr (Except.error.inj h).symm)
        · exact ih h

/-- A path leads to something or fails: for a NUL if it holds one, and else for the tree. -/
theorem fault_of_find {fault : FileFault} (h : tree.find here path = .error fault) :
    (fault = .nul ∧ '\x00' ∈ path.text.toList) ∨
      fault = .missing ∨ fault = .notDirectory ∨ fault = .nameTooLong := by
  rw [find, locate] at h
  split at h
  · rename_i hlocate
    cases h
    split at hlocate
    · rename_i hnul
      exact .inl ⟨(Except.error.inj hlocate).symm, by simpa using hnul⟩
    · split at hlocate
      · exact .inr (.inr (.inr (Except.error.inj hlocate).symm))
      · exact .inr (fault_of_follow hlocate)
  · split at h
    · exact .inr (.inl (Except.error.inj h).symm)
    · cases h

theorem find_of_nul (h : '\x00' ∈ path.text.toList) : tree.find here path = .error .nul := by
  have hcontains : path.text.toList.contains '\x00' = true := by simpa using h
  rw [find, locate, if_pos hcontains]

end FileTree

/-! ## Loading -/

/-- The faults that reading a text in a language can stop with. -/
def Language.IsReadFault : Language → Fault → Prop
  | .yaml => Yaml.IsReadFault
  | .toml => Toml.IsReadFault

theorem Language.stopsFor_read [Limits] (language : Language) (text : List Char) :
    StopsFor language.IsReadFault (language.read text) := by
  cases language with
  | yaml => exact Yaml.stopsFor_read text
  | toml => exact Toml.stopsFor_read text

namespace Document

/-- The faults that go past the loader. -/
inductive Escapes [Limits] (tree : FileTree) (here : Place) (path : Path) : Fault → Prop where
  /-- No file can have the path. -/
  | nul (h : '\x00' ∈ path.text.toList) : Escapes tree here path (.value .nulInPath)
  /-- The file is not text in UTF-8. -/
  | undecodable {bytes : List UInt8}
      (h : tree.find here path = .ok (.file (.binary bytes))) :
      Escapes tree here path .undecodable
  /-- Reading the text stops with a fault. -/
  | reading {s : String} {language : Language} {fault : Fault}
      (hfile : tree.find here path = .ok (.file (.text s)))
      (hlanguage : Language.ofSuffix? path.suffix = some language)
      (hread : language.read (Text.unifyLineEnds s.toList) = .error (.fault fault)) :
      Escapes tree here path fault

section
variable {tree : FileTree} {here : Place} {path : Path}

theorem result_load [Limits] : (load tree here path).result = fromFile tree here path := by
  rw [load, Logged.bind, Logged.ofExcept]
  cases fromFile tree here path with
  | error failure => rfl
  | ok document => rfl

/-- A value of the wrong shape is refused. -/
theorem failure_of_ofValue {v : Value} {failure : Failure}
    (h : ofValue path v = .error failure) :
    ∃ fault, failure = .refusal (.load path.text fault) := by
  unfold ofValue at h
  split at h
  · exact ⟨_, (Except.error.inj h).symm⟩
  · split at h
    · cases h
    · exact ⟨_, (Except.error.inj h).symm⟩

/-- The characters of a file are those of its text. -/
theorem find_of_characters {text : List Char} (h : characters tree here path = .ok text) :
    ∃ s, tree.find here path = .ok (.file (.text s)) ∧ text = Text.unifyLineEnds s.toList := by
  rw [characters, FileTree.read] at h
  cases hfind : tree.find here path with
  | error fault => simp only [hfind] at h; cases h
  | ok node =>
      cases node with
      | directory => simp only [hfind] at h; cases h
      | file content =>
          cases content with
          | text s =>
              simp only [hfind, Except.ok.injEq] at h
              exact ⟨s, rfl, h.symm⟩
          | binary bytes => simp only [hfind] at h; cases h

section
variable [Limits]

theorem failure_of_parse {text : List Char} {failure : Failure}
    (h : parse path text = .error failure) :
    (∃ fault, failure = .refusal (.load path.text fault)) ∨
      ∃ language fault, Language.ofSuffix? path.suffix = some language ∧
        language.read text = .error (.fault fault) ∧ failure = .fault fault := by
  unfold parse at h
  split at h
  · exact .inl ⟨_, (Except.error.inj h).symm⟩
  · rename_i language hlanguage
    split at h
    · cases h
    · rename_i stop hstop
      cases stop with
      | invalid => exact .inl ⟨_, (Except.error.inj h).symm⟩
      | fault fault => exact .inr ⟨language, fault, hlanguage, hstop, (Except.error.inj h).symm⟩

theorem failure_of_characters {failure : Failure}
    (h : characters tree here path = .error failure) :
    (∃ fault, failure = .refusal (.load path.text fault)) ∨
      ∃ fault, failure = .fault fault ∧ Escapes tree here path fault := by
  rw [characters, FileTree.read] at h
  cases hfind : tree.find here path with
  | error fault =>
      simp only [hfind, Except.error.injEq] at h
      -- All faults of files are refused but the one for a NUL.
      rcases FileTree.fault_of_find hfind with ⟨rfl, hnul⟩ | rfl | rfl | rfl
      · exact .inr ⟨_, h.symm, .nul hnul⟩
      iterate 3 exact .inl ⟨_, h.symm⟩
  | ok node =>
      cases node with
      | directory =>
          simp only [hfind, Except.error.injEq] at h
          exact .inl ⟨_, h.symm⟩
      | file content =>
          cases content with
          | text s => simp only [hfind] at h; cases h
          | binary bytes =>
              simp only [hfind, Except.error.injEq] at h
              exact .inr ⟨_, h.symm, .undecodable hfind⟩

/-- A failure to load a document refuses it under its path, or goes past the loader. -/
theorem failure_of_fromFile {failure : Failure}
    (h : fromFile tree here path = .error failure) :
    (∃ fault, failure = .refusal (.load path.text fault)) ∨
      ∃ fault, failure = .fault fault ∧ Escapes tree here path fault := by
  rw [fromFile] at h
  split at h
  · rename_i hcharacters
    cases h
    exact failure_of_characters hcharacters
  · rename_i text hcharacters
    obtain ⟨s, hfile, rfl⟩ := find_of_characters hcharacters
    split at h
    · rename_i hparse
      cases h
      rcases failure_of_parse hparse with hrefused | ⟨language, fault, hlanguage, hread, rfl⟩
      · exact .inl hrefused
      · exact .inr ⟨fault, rfl, .reading hfile hlanguage hread⟩
    · exact .inl (failure_of_ofValue h)

/-- What goes past the loader is what loading ends with. -/
theorem fromFile_of_escapes {fault : Fault} (h : Escapes tree here path fault) :
    fromFile tree here path = .error (.fault fault) := by
  unfold fromFile characters FileTree.read
  cases h with
  | nul h =>
      rw [FileTree.find_of_nul h]
      rfl
  | undecodable h => rw [h]
  | reading hfile hlanguage hread =>
      unfold parse
      simp only [hfile, hlanguage, hread, stopped]

/-- What goes past the loader is of one of a few kinds. -/
theorem kind_of_escapes {fault : Fault} (h : Escapes tree here path fault) :
    fault = .value .nulInPath ∨ fault = .undecodable ∨
      ∃ language, Language.ofSuffix? path.suffix = some language ∧ language.IsReadFault fault := by
  cases h with
  | nul h => exact .inl rfl
  | undecodable h => exact .inr (.inl rfl)
  | @reading s language fault hfile hlanguage hread =>
      have hkind := language.stopsFor_read (Text.unifyLineEnds s.toList)
      rw [hread] at hkind
      exact .inr (.inr ⟨language, hlanguage, Settles.fault_iff.mp hkind⟩)

end

end

/-- **Loading** gives the document of a file or refuses it under the path that was given, unless a
fault goes past the loader, which then is what loading ends with. Such a fault is a NUL in the path,
a file that is not text in UTF-8, or one of the few kinds of fault of reading a text in the
language that the path's ending stands for. -/
theorem load_outcome [Limits] (tree : FileTree) (here : Place) (path : Path) :
    (((∃ document, (load tree here path).result = .ok document) ∨
        ∃ fault, (load tree here path).result = .error (.refusal (.load path.text fault))) ↔
      ∀ fault, ¬Escapes tree here path fault) ∧
    (∀ fault, (load tree here path).result = .error (.fault fault) ↔
      Escapes tree here path fault) ∧
    ∀ fault, Escapes tree here path fault →
      fault = .value .nulInPath ∨ fault = .undecodable ∨
        ∃ language, Language.ofSuffix? path.suffix = some language ∧
          language.IsReadFault fault := by
  rw [result_load]
  have hescapes : ∀ fault, fromFile tree here path = .error (.fault fault) ↔
      Escapes tree here path fault := by
    intro fault
    constructor
    · intro h
      rcases failure_of_fromFile h with ⟨_, hrefused⟩ | ⟨_, hfault, hescapes⟩
      · cases hrefused
      · cases hfault
        exact hescapes
    · exact fromFile_of_escapes
  refine ⟨?_, hescapes, fun fault h => kind_of_escapes h⟩
  constructor
  · rintro (⟨document, h⟩ | ⟨_, h⟩) fault hfault
    all_goals
      rw [fromFile_of_escapes hfault] at h
      cases h
  · intro hnone
    cases h : fromFile tree here path with
    | ok document => exact .inl ⟨document, rfl⟩
    | error failure =>
        rcases failure_of_fromFile h with ⟨fault, rfl⟩ | ⟨fault, _, hfault⟩
        · exact .inr ⟨fault, rfl⟩
        · exact absurd hfault (hnone fault)

/-- A tree of one sites document. -/
def treeOf (content : Content) : FileTree :=
  Table.empty.put ["sites.yaml"] (.file content)

/-- A date in a month that there is not goes past the loader, as does a file that is no text. -/
theorem load_impossible_date :
    (load (treeOf (.text "sites: 2020-13-40\n")) [] ⟨.here, ["sites.yaml"]⟩).result =
        .error (.fault (.value (.moment .month))) ∧
      (load (treeOf (.binary [0xFF])) [] ⟨.here, ["sites.yaml"]⟩).result =
        .error (.fault .undecodable) := by
  constructor
  · have hlanguage : Language.ofSuffix? (Path.suffix ⟨.here, ["sites.yaml"]⟩) = some .yaml := by
      decide +kernel
    have hread : Language.yaml.read (Text.unifyLineEnds "sites: 2020-13-40\n".toList) =
        .error (.fault (.value (.moment .month))) := by
      decide +kernel
    exact ((load_outcome _ _ _).2.1 _).mpr (.reading rfl hlanguage hread)
  · exact ((load_outcome _ _ _).2.1 _).mpr (.undecodable rfl)

end Document
end BucketVhosts
