import Mathlib.Data.List.DropRight
import BucketVhosts.Filter.Basic
import BucketVhosts.Host.Name

/-!
# Keys, names and parents

What the statements about hosts rest on: trimming twice is trimming once, so a trimmed domain has
the key of the domain; a domain with at least two points has a parent; and a host name has no white
space.
-/
namespace BucketVhosts

/-! ## Trimming -/

namespace Text

theorem dropEndWhile_eq_rdropWhile {α : Type} (p : α → Bool) (l : List α) :
    dropEndWhile p l = l.rdropWhile p := rfl

/-- What trimming leaves does not start with a character that is dropped. -/
theorem dropWhile_trimWhile (p : Char → Bool) (cs : List Char) :
    (trimWhile p cs).dropWhile p = trimWhile p cs := by
  rw [trimWhile]
  obtain ⟨rest, hrest⟩ := dropEndWhile_begins p (cs.dropWhile p)
  cases hkept : dropEndWhile p (cs.dropWhile p) with
  | nil => rfl
  | cons c kept =>
      rw [hkept] at hrest
      have hc := List.head?_dropWhile_not p cs
      rw [← hrest] at hc
      simp only [List.cons_append, List.head?_cons] at hc
      simp [hc]

theorem trimWhile_trimWhile (p : Char → Bool) (cs : List Char) :
    trimWhile p (trimWhile p cs) = trimWhile p cs := by
  rw [trimWhile, dropWhile_trimWhile, trimWhile, dropEndWhile_eq_rdropWhile,
    dropEndWhile_eq_rdropWhile, List.rdropWhile_idempotent]

@[simp] theorem trim_trim (s : String) : trim (trim s) = trim s := by
  rw [trim, toList_trim, trimWhile_trimWhile, trim]

/-- A text without white space stays as it is. -/
theorem trim_eq_self {s : String} (h : ∀ c ∈ s.toList, isBlank c = false) : trim s = s := by
  have hfront : s.toList.dropWhile isBlank = s.toList := by
    rw [List.dropWhile_eq_self_iff]
    intro hl
    simp [h _ (List.getElem_mem hl)]
  have hend : s.toList.rdropWhile isBlank = s.toList := by
    rw [List.rdropWhile_eq_self_iff]
    intro hl
    simp [h _ (List.getLast_mem hl)]
  rw [trim, trimWhile, hfront, dropEndWhile_eq_rdropWhile, hend, String.ofList_toList]

/-- Trimming leaves nothing of white space only. -/
theorem trim_eq_empty_iff {s : String} : trim s = "" ↔ ∀ c ∈ s.toList, isBlank c = true := by
  rw [← String.toList_eq_nil_iff, toList_trim, trimWhile, dropEndWhile_eq_rdropWhile,
    List.rdropWhile_eq_nil_iff, ← List.dropWhile_eq_nil_iff, ← List.dropWhile_eq_nil_iff,
    List.dropWhile_idempotent]

/-! ## Letters and digits -/

theorem isBetween_iff {low high c : Char} :
    (decide (c.val ≥ low.val) && decide (c.val ≤ high.val)) = true ↔ low ≤ c ∧ c ≤ high := by
  rw [Bool.and_eq_true, decide_eq_true_iff, decide_eq_true_iff]
  rfl

theorem isAlphanum_iff {c : Char} :
    c.isAlphanum = true ↔
      ('A' ≤ c ∧ c ≤ 'Z' ∨ 'a' ≤ c ∧ c ≤ 'z') ∨ '0' ≤ c ∧ c ≤ '9' := by
  have halphanum : c.isAlphanum = (c.isUpper || c.isLower || c.isDigit) := rfl
  have hupper : c.isUpper = true ↔ 'A' ≤ c ∧ c ≤ 'Z' := decide_eq_true_iff
  have hlower : c.isLower = true ↔ 'a' ≤ c ∧ c ≤ 'z' := isBetween_iff
  have hdigit : c.isDigit = true ↔ '0' ≤ c ∧ c ≤ '9' := isBetween_iff
  rw [halphanum, Bool.or_eq_true, Bool.or_eq_true, hupper, hlower, hdigit]

/-! ## Lowercasing -/

theorem lowerChar_ne_nil (c : Char) : lowerChar c ≠ [] := by
  rw [lowerChar]
  split
  · simp
  · split
    · simp
    · split <;> simp

/-- Lowercasing makes no text empty. -/
theorem lower_eq_empty_iff {s : String} : lower s = "" ↔ s = "" := by
  rw [lower, ← String.toList_eq_nil_iff, String.toList_ofList, ← String.toList_eq_nil_iff]
  cases s.toList with
  | nil => simp [lowerFrom]
  | cons c rest =>
      rw [lowerFrom]
      split <;> simp [lowerChar_ne_nil]

/-! ## Pieces -/

/-- There is one more piece than occurrences. -/
theorem length_split (c : Char) (s : String) : (split c s).length = s.toList.count c + 1 := by
  rw [split, List.length_map]
  induction s.toList with
  | nil => simp [List.splitOn_nil]
  | cons d rest ih =>
      rw [List.splitOn_cons_eq_if_modifyHead, List.count_cons]
      split
      · simp [ih]
      · simp [ih]

/-- Splitting ends the first piece at the first occurrence. -/
theorem split_ofList {c : Char} {piece rest : List Char} (h : c ∉ piece) :
    split c (.ofList (piece ++ c :: rest)) = .ofList piece :: split c (.ofList rest) := by
  simp [split, List.splitOn_append_cons_self_of_not_mem h]

/-- Joining the pieces gives the text back. -/
theorem join_split (c : Char) (s : String) : join (.singleton c) (split c s) = s := by
  rw [join, ← String.toList_inj, String.toList_intercalate, split, List.map_map]
  simp only [Function.comp_def, String.toList_ofList, List.map_id', String.toList_singleton]
  exact List.intercalate_splitOn c

/-- No piece has an occurrence. -/
theorem notMem_of_mem_split {c : Char} {s piece : String} (h : piece ∈ split c s) :
    c ∉ piece.toList := by
  rw [split, List.mem_map] at h
  obtain ⟨cs, hcs, rfl⟩ := h
  rw [String.toList_ofList]
  generalize s.toList = text at hcs
  induction text generalizing cs with
  | nil =>
      rw [List.splitOn_nil, List.mem_singleton] at hcs
      simp [hcs]
  | cons d rest ih =>
      obtain ⟨first, others, hpieces⟩ := List.exists_cons_of_ne_nil (List.splitOn_ne_nil c rest)
      rw [List.splitOn_cons_eq_if_modifyHead] at hcs
      rw [hpieces] at hcs ih
      by_cases hd : d == c
      · rw [if_pos hd, List.mem_cons] at hcs
        rcases hcs with rfl | hcs
        · simp
        · exact ih cs hcs
      · rw [if_neg hd, List.modifyHead_cons, List.mem_cons] at hcs
        rcases hcs with rfl | hcs
        · rw [List.mem_cons, not_or]
          exact ⟨fun hsame => hd (by simp [hsame]), ih first List.mem_cons_self⟩
        · exact ih cs (List.mem_cons_of_mem _ hcs)

/-- Splitting what is joined from pieces without occurrences gives the pieces back. -/
theorem split_join {c : Char} {pieces : List String} (hne : pieces ≠ [])
    (h : ∀ piece ∈ pieces, c ∉ piece.toList) : split c (join (.singleton c) pieces) = pieces := by
  rw [split, join, String.toList_intercalate, String.toList_singleton, List.splitOn_intercalate]
  · simp
  · simpa using h
  · simpa using hne

end Text

namespace Host

/-! ## Keys -/

/-- A trimmed domain is the same host as the domain. -/
@[simp] theorem key_trim (s : String) : key (Text.trim s) = key s := by
  rw [key, Text.trim_trim, key]

theorem key_eq_empty_iff {s : String} : key s = "" ↔ Text.trim s = "" :=
  Text.lower_eq_empty_iff

/-! ## Labels and parents -/

/-- The labels of a domain. -/
def labels (domain : String) : List String :=
  Text.split '.' domain

/-- The domain without its first label. -/
def parent (domain : String) : String :=
  Text.join "." ((labels domain).drop 1)

/-- What stands behind this many labels of a domain. -/
def behind (n : Nat) (domain : String) : String :=
  Text.join "." ((labels domain).drop n)

/-- Labels can be taken off a domain exactly when at least two remain. -/
theorem parentDomain_eq_behind (domain : String) (n : Nat) :
    Filter.parentDomain domain n =
      if n + 2 ≤ (labels domain).length then .ok (behind n domain)
      else .error (.noParentDomain domain n) := by
  have hlabels : ¬(n : Int) < 0 := by omega
  have hfew : ((labels domain).length : Int) - n < 2 ↔ ¬n + 2 ≤ (labels domain).length := by
    omega
  rw [Filter.parentDomain, labels] at *
  simp only [hlabels, hfew, decide_false, Bool.false_or, decide_eq_true_eq, ite_not]
  rfl

/-- One label can be taken off a domain exactly when it has at least three. -/
theorem parentDomain_eq (domain : String) :
    Filter.parentDomain domain Filter.redirectLabels =
      if 3 ≤ (labels domain).length then .ok (parent domain)
      else .error (.noParentDomain domain Filter.redirectLabels) :=
  parentDomain_eq_behind domain Filter.redirectLabels

theorem redirectHost_eq_ok_iff {domain host : String} :
    Filter.redirectHost domain = .ok host ↔ 3 ≤ (labels domain).length ∧ host = parent domain := by
  rw [Filter.redirectHost, parentDomain_eq]
  by_cases h : 3 ≤ (labels domain).length
  · simp [h, eq_comm]
  · simp [h]

/-- The parent is what stands behind the first point. -/
theorem parent_ofList {label rest : List Char} (h : '.' ∉ label) :
    parent (.ofList (label ++ '.' :: rest)) = .ofList rest := by
  rw [parent, labels, Text.split_ofList h, List.drop_one, List.tail_cons]
  exact Text.join_split '.' (.ofList rest)

/-- With at least three labels there is a point in what stands behind the first one. -/
theorem exists_parent {domain : String} (hlabels : 3 ≤ (labels domain).length) :
    ∃ label rest, domain = .ofList (label ++ '.' :: rest) ∧ '.' ∉ label ∧ '.' ∈ rest := by
  rw [labels, Text.length_split] at hlabels
  have hpoint : '.' ∈ domain.toList := List.count_pos_iff.mp (by omega)
  obtain ⟨label, rest, hsplit, hlabel⟩ := List.eq_append_cons_of_mem hpoint
  refine ⟨label, rest, by rw [← hsplit, String.ofList_toList], hlabel, ?_⟩
  rw [hsplit, List.count_append, List.count_eq_zero.mpr hlabel, List.count_cons_self] at hlabels
  exact List.count_pos_iff.mp (by omega)

theorem point_mem_parent {domain : String} (hlabels : 3 ≤ (labels domain).length) :
    '.' ∈ (parent domain).toList := by
  obtain ⟨label, rest, rfl, hlabel, hpoint⟩ := exists_parent hlabels
  rwa [parent_ofList hlabel, String.toList_ofList]

/-! ## Names -/

/-- Whether a character may stand in a host name. -/
def isNameChar (c : Char) : Bool :=
  isLetter c || isDigit c || c = '-' || c = '.'

theorem isNameChar_of_next {shape next : LabelShape} {c : Char} (h : shape.next c = some next) :
    isNameChar c = true := by
  rw [LabelShape.next.eq_def] at h
  rw [isNameChar]
  by_cases hletter : isLetter c = true
  · simp [hletter]
  · by_cases hdigit : isDigit c = true
    · simp [hdigit]
    · by_cases hhyphen : c = '-'
      · simp [hhyphen]
      · simp [hletter, hdigit, hhyphen] at h

/-- Every character of what completes a name may stand in one. -/
theorem isNameChar_of_completesName {shape : LabelShape} {dotted : Bool} {cs : List Char}
    (h : completesName shape dotted cs = true) : ∀ c ∈ cs, isNameChar c = true := by
  induction cs generalizing shape dotted with
  | nil => simp
  | cons c rest ih =>
      rw [completesName] at h
      rw [List.forall_mem_cons]
      by_cases hpoint : c = '.'
      · rw [if_pos hpoint, Bool.and_eq_true] at h
        exact ⟨by simp [isNameChar, hpoint], ih h.2⟩
      · rw [if_neg hpoint] at h
        split at h
        · rename_i hnext
          exact ⟨isNameChar_of_next hnext, ih h⟩
        · cases h

theorem isBlank_of_isNameChar {c : Char} (h : isNameChar c = true) : Text.isBlank c = false := by
  have hcode : 45 ≤ c.toNat ∧ c.toNat ≤ 122 := by
    simp only [isNameChar, isLetter, isDigit, Bool.or_eq_true, Bool.and_eq_true, decide_eq_true_eq,
      Char.le_def, UInt32.le_iff_toNat_le] at h
    rw [Char.toNat]
    rcases h with ((⟨hlow, hhigh⟩ | ⟨hlow, hhigh⟩) | rfl) | rfl
    · exact ⟨Nat.le_trans (by decide) hlow, hhigh⟩
    · exact ⟨Nat.le_trans (by decide) hlow, Nat.le_trans hhigh (by decide)⟩
    · decide
    · decide
  simp only [Text.isBlank, Bool.or_eq_false_iff, Bool.and_eq_false_iff, decide_eq_false_iff_not,
    beq_eq_false_iff_ne]
  omega

/-- A host name is not changed by trimming. -/
theorem trim_of_isName {s : String} (h : isName s = true) : Text.trim s = s :=
  Text.trim_eq_self fun c hc => isBlank_of_isNameChar (isNameChar_of_completesName h c hc)

theorem ne_empty_of_isName {s : String} (h : isName s = true) : s ≠ "" := by
  rintro rfl
  exact absurd h (by decide)

end Host
end BucketVhosts
