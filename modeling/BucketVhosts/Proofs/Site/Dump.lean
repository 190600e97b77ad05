import BucketVhosts.Proofs.Data.Table
import BucketVhosts.Site.Dump
import BucketVhosts.Site.Loading

/-!
# Reading what was dumped

A sites document that is written as a document value is read as the same document again, whether
absent parts are written as null or left out, unless a header name holds half of a surrogate pair:
such names are read back with their halves replaced. Reading looks for the fields of a record under
their keys, so it is enough to find each key among the entries of a dump and to read its value back.
-/
namespace BucketVhosts
open Data

/-! ## Replacing halves -/

namespace Text

theorem hasHalf_replaceHalves (s : String) : hasHalf (replaceHalves s) = false := by
  rw [hasHalf, replaceHalves, String.toList_ofList, List.any_eq_false]
  intro c hc
  obtain ⟨d, -, hc⟩ := List.mem_flatMap.mp hc
  rw [replaceHalf] at hc
  split at hc
  · rw [(List.mem_replicate.mp hc).2]
    decide
  · rename_i hd
    rwa [List.mem_singleton.mp hc]

/-- Replacing leaves alone just the texts without halves. -/
theorem replaceHalves_eq_self_iff {s : String} : replaceHalves s = s ↔ hasHalf s = false := by
  constructor
  · intro h
    rw [← h]
    exact hasHalf_replaceHalves s
  · intro h
    rw [hasHalf, List.any_eq_false] at h
    have hkept : s.toList.flatMap replaceHalf = s.toList := by
      generalize s.toList = cs at h
      induction cs with
      | nil => rfl
      | cons c rest ih =>
          obtain ⟨hc, hrest⟩ := List.forall_mem_cons.mp h
          rw [List.flatMap_cons, replaceHalf, if_neg hc, ih hrest, List.singleton_append]
    rw [replaceHalves, hkept, String.ofList_toList]

end Text

theorem map_eq_self_iff {α : Type} {f : α → α} {items : List α} :
    items.map f = items ↔ ∀ a ∈ items, f a = a := by
  induction items with
  | nil => simp
  | cons a rest ih => simp [ih]

/-- Header fields stay as they are when no name holds a half. -/
theorem HeaderFields.withoutHalves_eq_self_iff {fields : HeaderFields} :
    fields.withoutHalves = fields ↔ ∀ e ∈ fields.entries, Text.hasHalf e.1 = false := by
  constructor
  · intro h e he
    rw [← h] at he
    obtain ⟨d, -, rfl⟩ := List.mem_map.mp (Table.mem_of_mem_ofList he)
    exact Text.hasHalf_replaceHalves d.1
  · intro h
    have hkept : (fields.entries.map fun e => (Text.replaceHalves e.1, e.2)) = fields.entries :=
      map_eq_self_iff.mpr fun e he => by rw [Text.replaceHalves_eq_self_iff.mpr (h e he)]
    rw [withoutHalves, hkept, Table.ofList_entries]

/-- A header rule with the halves in its names replaced. -/
def HeaderRule.withoutHalves (rule : HeaderRule) : HeaderRule :=
  { rule with fields := rule.fields.withoutHalves }

/-- A site with the halves in its header names replaced. -/
def Site.withoutHalves (site : Site) : Site :=
  { site with headers := site.headers.map (List.map HeaderRule.withoutHalves) }

/-- A document with the halves in its header names replaced. -/
def Document.withoutHalves (document : Document) : Document :=
  ⟨document.sites.map Site.withoutHalves⟩

/-- No header name holds a half. -/
def Document.NamesAreWhole (document : Document) : Prop :=
  ∀ site ∈ document.sites, ∀ rule ∈ site.headers.getD [], ∀ e ∈ rule.fields.entries,
    Text.hasHalf e.1 = false

theorem HeaderRule.withoutHalves_eq_self_iff {rule : HeaderRule} :
    rule.withoutHalves = rule ↔ ∀ e ∈ rule.fields.entries, Text.hasHalf e.1 = false := by
  obtain ⟨pattern, fields⟩ := rule
  rw [withoutHalves, HeaderRule.mk.injEq, ← HeaderFields.withoutHalves_eq_self_iff]
  simp

theorem Site.withoutHalves_eq_self_iff {site : Site} :
    site.withoutHalves = site ↔ ∀ rule ∈ site.headers.getD [], ∀ e ∈ rule.fields.entries,
      Text.hasHalf e.1 = false := by
  obtain ⟨domain, bucket, headers, redirects, cacheRules, extra⟩ := site
  simp only [withoutHalves, Site.mk.injEq, true_and, and_true, ←
    HeaderRule.withoutHalves_eq_self_iff]
  cases headers with
  | none => simp
  | some rules => simp [map_eq_self_iff]

theorem Document.withoutHalves_eq_self_iff {document : Document} :
    document.withoutHalves = document ↔ document.NamesAreWhole := by
  obtain ⟨sites⟩ := document
  rw [withoutHalves, Document.mk.injEq, map_eq_self_iff]
  simp only [Site.withoutHalves_eq_self_iff]
  rfl

namespace Data

/-! ## Finding entries -/

theorem Value.field?_entry (name key : String) (v : Value) (rest : List (Value × Value)) :
    field? name (entry key v :: rest) = if key = name then some v else field? name rest := by
  by_cases h : key = name
  · simp [entry, field?, isText, h]
  · simp [entry, field?, isText, h]

theorem Value.field?_append (name : String) (entries rest : List (Value × Value)) :
    field? name (entries ++ rest) = (field? name entries).or (field? name rest) := by
  induction entries with
  | nil => rfl
  | cons e entries ih =>
      rw [List.cons_append, field?, field?]
      split
      · rfl
      · exact ih

end Data

/-- The value that is written for a part that may be absent. -/
def Absent.value? {α : Type} (absent : Absent) (dump : α → Value) : Option α → Option Value
  | some a => some (dump a)
  | none => match absent with
    | .asNull => some .null
    | .leftOut => none

theorem Absent.field?_entry {α : Type} (absent : Absent) (name key : String) (dump : α → Value)
    (part : Option α) :
    Value.field? name (absent.entry key dump part) =
      if key = name then absent.value? dump part else none := by
  cases part with
  | some a => exact Value.field?_entry name key (dump a) []
  | none =>
      cases absent with
      | asNull => exact Value.field?_entry name key .null []
      | leftOut => by_cases h : key = name <;> simp [entry, value?, Value.field?, h]

namespace Data

/-! ## Reading fields and lists -/

theorem Value.checkText_text (s : String) : checkText (.text s) = .ok s := rfl

section
variable {α : Type} {check : Value → Checked α} {dump : α → Value} {f : α → α}
  {entries : List (Value × Value)} {name : String} {a : α}

/-- A field that must be present is read under the first of its names. -/
theorem required_eq_ok {v : Value} (names : List String)
    (hfield : Value.field? name entries = some v) (hread : check v = .ok a) :
    required (name :: names) check entries = .ok a := by
  simp [required, hfield, hread, Checked.under]

theorem withDefault_eq_ok {v : Value} (default : α)
    (hfield : Value.field? name entries = some v) (hread : check v = .ok a) :
    withDefault name default check entries = .ok a := by
  simp [withDefault, hfield, hread, Checked.under]

/-- A part that may be absent is read back, be it written as null or left out. -/
theorem withDefault_none_eq_ok {absent : Absent} (name : String) (part : Option α)
    (hfield : Value.field? name entries = absent.value? dump part)
    (hread : ∀ a, check (dump a) = .ok (f a)) (hnull : ∀ a, dump a ≠ .null) :
    withDefault name none (Value.checkOptional check) entries = .ok (part.map f) := by
  cases part with
  | none =>
      cases absent with
      | asNull => exact withDefault_eq_ok none hfield rfl
      | leftOut =>
          rw [withDefault, hfield]
          rfl
  | some a =>
      refine withDefault_eq_ok none hfield ?_
      rw [Value.checkOptional, hread]
      · rfl
      · exact hnull a

theorem Checked.each_map (hread : ∀ a, check (dump a) = .ok (f a)) (index : Nat)
    (items : List α) : Checked.each check index (items.map dump) = .ok (items.map f) := by
  induction items generalizing index with
  | nil => rfl
  | cons item rest ih =>
      rw [List.map_cons, Checked.each, hread, ih]
      rfl

/-- A list is read back item by item. -/
theorem Value.checkList_dumpList (hread : ∀ a, check (dump a) = .ok (f a)) (items : List α) :
    Value.checkList check (dumpList dump items) = .ok (items.map f) :=
  Checked.each_map hread 0 items

end
end Data

/-! ## Rules -/

theorem HeaderFields.checkEntries_dump (entries : List (String × String)) :
    checkEntries (entries.map fun e => Value.entry e.1 (.text e.2)) = .ok entries := by
  induction entries with
  | nil => rfl
  | cons e rest ih =>
      rw [List.map_cons, Value.entry, checkEntries, ih]
      rfl

/-- Header fields are read back in their order. -/
theorem HeaderFields.check_dump (fields : HeaderFields) :
    check fields.dump = .ok fields.withoutHalves := by
  rw [dump, check, checkEntries_dump]
  exact congrArg Except.ok (Table.ofList_entries fields.withoutHalves)

theorem StatusCode.check_code (status : StatusCode) : check (.int status.code) = .ok status := by
  obtain ⟨code, atLeast, atMost⟩ := status
  have hlow : ¬code < 300 := by omega
  have hhigh : ¬499 < code := by omega
  simp [check, Value.checkInteger, hlow, hhigh]

theorem HeaderRule.check_dump (rule : HeaderRule) :
    check rule.dump = .ok rule.withoutHalves := by
  rw [check, dump, Value.checkRecord,
    required_eq_ok ["pattern"] (v := .text rule.pattern) (by simp [Value.field?_entry])
      (Value.checkText_text _),
    withDefault_eq_ok .empty (v := rule.fields.dump) (by simp [Value.field?_entry])
      (HeaderFields.check_dump rule.fields)]
  rfl

theorem RedirectRule.check_dump (rule : RedirectRule) : check rule.dump = .ok rule := by
  rw [check, dump, Value.checkRecord,
    required_eq_ok ["source"] (v := .text rule.source) (by simp [Value.field?_entry])
      (Value.checkText_text _),
    required_eq_ok [] (v := .text rule.target) (by simp [Value.field?_entry])
      (Value.checkText_text _),
    withDefault_eq_ok .found (v := .int rule.status.code) (by simp [Value.field?_entry])
      (StatusCode.check_code rule.status)]
  rfl

theorem CacheRule.check_dump (rule : CacheRule) : check rule.dump = .ok rule := by
  rw [check, dump, Value.checkRecord,
    required_eq_ok [] (v := .text rule.mime) (by simp [Value.field?_entry])
      (Value.checkText_text _),
    required_eq_ok [] (v := .text rule.value) (by simp [Value.field?_entry])
      (Value.checkText_text _)]
  rfl

/-! ## Sites and documents -/

/-- A site is read back from any entries that have its parts under their keys. -/
theorem Site.check_of_fields (absent : Absent) {site : Site} {entries : List (Value × Value)}
    (hdomain : Value.field? "domain" entries = some (.text site.domain))
    (hbucket : Value.field? "bucket" entries = absent.value? .text site.bucket)
    (hheaders : Value.field? "headers" entries =
      absent.value? (dumpList HeaderRule.dump) site.headers)
    (hredirects : Value.field? "redirects" entries =
      absent.value? (dumpList RedirectRule.dump) site.redirects)
    (hcache : Value.field? "cache_control" entries =
      absent.value? (dumpList CacheRule.dump) site.cacheRules)
    (hextra : Value.field? "extra" entries = absent.value? .text site.extra) :
    Site.check (.mapping entries) = .ok site.withoutHalves := by
  have htext (s : String) : Value.text s ≠ .null := by simp
  have hlist {α : Type} (dump : α → Value) (items : List α) : dumpList dump items ≠ .null := by
    simp [dumpList]
  rw [check, Value.checkRecord, required_eq_ok [] hdomain (Value.checkText_text _),
    withDefault_none_eq_ok (f := id) "bucket" site.bucket hbucket Value.checkText_text htext,
    withDefault_none_eq_ok "headers" site.headers hheaders
      (Value.checkList_dumpList HeaderRule.check_dump) (hlist _),
    withDefault_none_eq_ok (f := List.map id) "redirects" site.redirects hredirects
      (Value.checkList_dumpList RedirectRule.check_dump) (hlist _),
    withDefault_none_eq_ok (f := List.map id) "cache_control" site.cacheRules hcache
      (Value.checkList_dumpList CacheRule.check_dump) (hlist _),
    withDefault_none_eq_ok (f := id) "extra" site.extra hextra Value.checkText_text htext]
  simp only [List.map_id_fun, Option.map_id_fun, id_eq]
  rfl

theorem Site.check_dump (absent : Absent) (site : Site) :
    check (site.dump absent) = .ok site.withoutHalves := by
  -- Each key stands once among the entries, whatever parts before and behind it are left out.
  refine check_of_fields absent ?_ ?_ ?_ ?_ ?_ ?_
  all_goals simp [Value.field?_entry, Value.field?_append, Absent.field?_entry]

theorem Document.check_dump (absent : Absent) (document : Document) :
    check (document.dump absent) = .ok document.withoutHalves := by
  rw [check, dump, Value.checkRecord,
    withDefault_eq_ok [] (v := dumpList (Site.dump absent) document.sites)
      (by simp [Value.field?_entry]) (Value.checkList_dumpList (Site.check_dump absent) _)]
  rfl

/-- **A document that was dumped** is read, and so is loaded, as that document with all its parts in
their order, but with the halves in header names replaced. So a document, and in particular one that
some value was read as, is read again from its own dump exactly when no header name holds a half. -/
theorem Document.ofValue_dump (absent : Absent) (document : Document) :
    check (document.dump absent) = .ok document.withoutHalves ∧
      (∀ path, ofValue path (document.dump absent) = .ok document.withoutHalves) ∧
      (document.withoutHalves = document ↔ document.NamesAreWhole) := by
  have hcheck := check_dump absent document
  refine ⟨hcheck, fun path => ?_, withoutHalves_eq_self_iff⟩
  rw [dump] at hcheck ⊢
  rw [ofValue, entries?]
  dsimp only
  rw [hcheck]

/-- A header name with half of a surrogate pair. -/
def halfName : String :=
  .ofList ['X', '-', Text.halfChar 0xD800]

/-- A value with a header of that name. -/
def halfNamed : Value :=
  .mapping [Value.entry "sites" (.list [.mapping [Value.entry "domain" (.text "a"),
    Value.entry "headers" (.list [.mapping [Value.entry "for" (.text "/*"),
      Value.entry "values" (.mapping [Value.entry halfName (.text "1")])]])]])]

/-- It is read as a document whose dump is read as another one. -/
theorem Document.check_dump_halfNamed :
    ∃ document, check halfNamed = .ok document ∧
      ∀ absent, check (document.dump absent) ≠ .ok document := by
  let rule : HeaderRule := ⟨"/*", .ofList [(halfName, "1")]⟩
  refine ⟨⟨[{ domain := "a", headers := some [rule] }]⟩, rfl, ?_⟩
  intro absent h
  rw [check_dump] at h
  have whole := withoutHalves_eq_self_iff.mp (Except.ok.inj h)
  have hhalf : Text.hasHalf halfName = false :=
    whole _ List.mem_cons_self rule List.mem_cons_self (halfName, "1") List.mem_cons_self
  exact absurd hhalf (by decide)

end BucketVhosts
