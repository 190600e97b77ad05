import Mathlib.Data.List.Forall2
import BucketVhosts.Host.Identifier
import BucketVhosts.Proofs.Host.Labels

/-!
# What identifiers tell of domains

Every domain but the empty one has an identifier that NGINX can read, and an identifier is its own
one. Host names start with a letter or a digit, so that the underscore in front of a digit tells
them apart; two of them have one identifier exactly when they differ in nothing but points for
hyphens.
-/
namespace BucketVhosts.Host

/-! ## Characters of identifiers -/

/-- A character with which an identifier may start: an ASCII letter or an underscore. -/
def IsStartChar (c : Char) : Prop :=
  'A' ≤ c ∧ c ≤ 'Z' ∨ 'a' ≤ c ∧ c ≤ 'z' ∨ c = '_'

/-- A character of an identifier: one with which it may start, or an ASCII digit. -/
def IsPartChar (c : Char) : Prop :=
  IsStartChar c ∨ '0' ≤ c ∧ c ≤ '9'

/-- The text is an identifier. -/
def IsIdentifier (s : String) : Prop :=
  ∃ first rest, s.toList = first :: rest ∧ IsStartChar first ∧ ∀ c ∈ rest, IsPartChar c

section
variable {c d : Char}

theorem isDigit_eq_true_iff : c.isDigit = true ↔ '0' ≤ c ∧ c ≤ '9' :=
  Text.isBetween_iff

theorem isIdentifierChar_iff : isIdentifierChar c = true ↔ IsPartChar c := by
  rw [isIdentifierChar, Bool.or_eq_true, decide_eq_true_iff, Text.isAlphanum_iff, IsPartChar,
    IsStartChar]
  tauto

/-- A digit is no character to start with. -/
theorem isDigit_of_isStartChar (h : IsStartChar c) : c.isDigit = false := by
  rw [← Bool.not_eq_true, isDigit_eq_true_iff]
  rintro ⟨hlow, hhigh⟩
  simp only [IsStartChar, Char.le_def, UInt32.le_iff_toNat_le] at h hlow hhigh
  rcases h with h | h | rfl
  · exact absurd (Nat.le_trans h.1 hhigh) (by decide)
  · exact absurd (Nat.le_trans h.1 hhigh) (by decide)
  · exact absurd hhigh (by decide)

/-- The character of an identifier that stands for a character of the domain. -/
def partChar (c : Char) : Char :=
  if isIdentifierChar c then c else '_'

theorem isPartChar_partChar (c : Char) : IsPartChar (partChar c) := by
  rw [partChar]
  split
  · rename_i h
    exact isIdentifierChar_iff.mp h
  · exact .inl (.inr (.inr rfl))

theorem partChar_eq_self (h : IsPartChar c) : partChar c = c :=
  if_pos (isIdentifierChar_iff.mpr h)

end

/-! ## Identifiers of any text -/

/-- The identifier has an underscore in front when it would start with a digit. -/
theorem toList_identifier_cons {s : String} {c : Char} {cs : List Char} (h : s.toList = c :: cs) :
    (identifier s).toList =
      (if (partChar c).isDigit then ['_'] else []) ++ partChar c :: cs.map partChar := by
  rw [identifier, String.toList_ofList, h, identifierOf, List.map_cons]
  show (if (partChar c).isDigit then '_' :: partChar c :: cs.map partChar
    else partChar c :: cs.map partChar) = _
  split
  · rfl
  · rfl

theorem identifier_eq_empty_iff {s : String} : identifier s = "" ↔ s = "" := by
  constructor
  · intro h
    cases hs : s.toList with
    | nil => exact String.toList_eq_nil_iff.mp hs
    | cons c cs =>
        have hid := toList_identifier_cons hs
        rw [h] at hid
        simp at hid
  · rintro rfl
    rfl

/-- The identifier of a text that is not empty can be read as one. -/
theorem isIdentifier_identifier {s : String} (h : s ≠ "") : IsIdentifier (identifier s) := by
  have hne : s.toList ≠ [] := fun hnil => h (String.toList_eq_nil_iff.mp hnil)
  obtain ⟨c, cs, hs⟩ := List.exists_cons_of_ne_nil hne
  have hid := toList_identifier_cons hs
  have hrest : ∀ d ∈ cs.map partChar, IsPartChar d := by
    rw [List.forall_mem_map]
    exact fun d _ => isPartChar_partChar d
  by_cases hdigit : (partChar c).isDigit = true
  · rw [if_pos hdigit] at hid
    exact ⟨'_', _, hid, .inr (.inr rfl), List.forall_mem_cons.mpr ⟨isPartChar_partChar c, hrest⟩⟩
  · rw [if_neg hdigit] at hid
    refine ⟨partChar c, _, hid, (isPartChar_partChar c).resolve_right ?_, hrest⟩
    rwa [← isDigit_eq_true_iff]

theorem isIdentifier_identifier_iff {s : String} : IsIdentifier (identifier s) ↔ s ≠ "" := by
  constructor
  · rintro ⟨first, rest, hid, -⟩ rfl
    cases hid
  · exact isIdentifier_identifier

/-- An identifier is its own one. -/
theorem identifier_of_isIdentifier {s : String} (h : IsIdentifier s) : identifier s = s := by
  obtain ⟨first, rest, hs, hfirst, hrest⟩ := h
  have hsame : rest.map partChar = rest.map id :=
    List.map_congr_left fun c hc => partChar_eq_self (hrest c hc)
  rw [← String.toList_inj, toList_identifier_cons hs, partChar_eq_self (.inl hfirst), hsame,
    isDigit_of_isStartChar hfirst, hs, List.map_id]
  rfl

@[simp] theorem identifier_identifier (s : String) : identifier (identifier s) = identifier s := by
  by_cases hempty : s = ""
  · subst hempty
    rfl
  · exact identifier_of_isIdentifier (isIdentifier_identifier hempty)

/-! ## Identifiers of host names -/

/-- The characters are the same, or both stand between the parts of a host name. -/
def SameButSeparator (c d : Char) : Prop :=
  c = d ∨ c ∈ ['.', '-'] ∧ d ∈ ['.', '-']

/-- The texts are of one length and differ in nothing but points for hyphens. -/
def SameButSeparators (s t : String) : Prop :=
  List.Forall₂ SameButSeparator s.toList t.toList

section
variable {c d : Char}

theorem isPartChar_of_isGroupChar (h : IsGroupChar c) : IsPartChar c :=
  h.imp (fun hletter => .inr (.inl (isLetter_iff.mp hletter))) isDigit_iff.mp

/-- The characters of host names are those of groups, and the separators. -/
theorem isNameChar_iff : isNameChar c = true ↔ IsGroupChar c ∨ c ∈ ['.', '-'] := by
  rw [isNameChar, IsGroupChar]
  simp only [Bool.or_eq_true, decide_eq_true_iff, List.mem_cons, List.not_mem_nil, or_false]
  tauto

theorem ne_underscore_of_isGroupChar (h : IsGroupChar c) : c ≠ '_' := by
  rintro rfl
  exact absurd h (by decide)

theorem partChar_of_mem (h : c ∈ ['.', '-']) : partChar c = '_' := by
  simp only [List.mem_cons, List.not_mem_nil, or_false] at h
  rcases h with rfl | rfl <;> rfl

/-- Only the separators of a host name are replaced, and all by the same character. -/
theorem partChar_eq_iff (hc : isNameChar c = true) (hd : isNameChar d = true) :
    partChar c = partChar d ↔ SameButSeparator c d := by
  rw [isNameChar_iff] at hc hd
  constructor
  · intro h
    rcases hc with hc | hc <;> rcases hd with hd | hd
    · rw [partChar_eq_self (isPartChar_of_isGroupChar hc),
        partChar_eq_self (isPartChar_of_isGroupChar hd)] at h
      exact .inl h
    · rw [partChar_eq_self (isPartChar_of_isGroupChar hc), partChar_of_mem hd] at h
      exact absurd h (ne_underscore_of_isGroupChar hc)
    · rw [partChar_eq_self (isPartChar_of_isGroupChar hd), partChar_of_mem hc] at h
      exact absurd h.symm (ne_underscore_of_isGroupChar hd)
    · exact .inr ⟨hc, hd⟩
  · rintro (rfl | ⟨hc, hd⟩)
    · rfl
    · rw [partChar_of_mem hc, partChar_of_mem hd]

theorem map_partChar_eq_iff {cs ds : List Char} (hcs : ∀ c ∈ cs, isNameChar c = true)
    (hds : ∀ d ∈ ds, isNameChar d = true) :
    cs.map partChar = ds.map partChar ↔ List.Forall₂ SameButSeparator cs ds := by
  induction cs generalizing ds with
  | nil => simp [eq_comm]
  | cons c cs ih =>
      cases ds with
      | nil => simp
      | cons d ds =>
          rw [List.forall_mem_cons] at hcs hds
          rw [List.map_cons, List.map_cons, List.cons_eq_cons, partChar_eq_iff hcs.1 hds.1,
            ih hcs.2 hds.2, List.forall₂_cons]

end

/-- A host name starts with a letter or a digit. -/
theorem exists_cons_of_isName {s : String} (h : isName s = true) :
    ∃ c cs, s.toList = c :: cs ∧ IsGroupChar c := by
  obtain ⟨labels, last, hne, hlabels, -, hs⟩ := isName_iff.mp h
  obtain ⟨label, labels, rfl⟩ := List.exists_cons_of_ne_nil hne
  obtain ⟨first, others, ⟨hfirst, hchars⟩, -, rfl⟩ := hlabels label List.mem_cons_self
  obtain ⟨c, first, rfl⟩ := List.exists_cons_of_ne_nil hfirst
  refine ⟨c, first ++ others.flatMap ('-' :: ·) ++ '.' :: labels.flatMap (· ++ ['.']) ++ last, ?_,
    hchars c List.mem_cons_self⟩
  simp [hs]

/-- **Two host names have one identifier** exactly when they differ in nothing but separators. An
underscore in front tells a name that starts with a digit from one that does not, as no host name
has an underscore. -/
theorem identifier_eq_iff {s t : String} (hs : isName s = true) (ht : isName t = true) :
    identifier s = identifier t ↔ SameButSeparators s t := by
  obtain ⟨c, cs, hcs, hc⟩ := exists_cons_of_isName hs
  obtain ⟨d, ds, hds, hd⟩ := exists_cons_of_isName ht
  have hsame := map_partChar_eq_iff (isNameChar_of_completesName hs)
    (isNameChar_of_completesName ht)
  rw [SameButSeparators, ← hsame, hcs, hds, List.map_cons, List.map_cons, ← String.toList_inj,
    toList_identifier_cons hcs, toList_identifier_cons hds,
    partChar_eq_self (isPartChar_of_isGroupChar hc),
    partChar_eq_self (isPartChar_of_isGroupChar hd)]
  have hcne := ne_underscore_of_isGroupChar hc
  have hdne := ne_underscore_of_isGroupChar hd
  by_cases hcdigit : c.isDigit = true <;> by_cases hddigit : d.isDigit = true
  · simp [hcdigit, hddigit]
  · have hne : c ≠ d := by
      rintro rfl
      exact hddigit hcdigit
    simp [hcdigit, hddigit, hne, hdne.symm]
  · have hne : c ≠ d := by
      rintro rfl
      exact hcdigit hddigit
    simp [hcdigit, hddigit, hne, hcne]
  · simp [hcdigit, hddigit]

end BucketVhosts.Host
