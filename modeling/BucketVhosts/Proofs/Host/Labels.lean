import BucketVhosts.Proofs.Host.Name

/-!
# How host names are made up

A host name is one or more labels, each with a point behind it, and a last label of letters. The
scan keeps only the shape of the current label; that this is enough is shown by what each shape asks
of the rest of the label. The parent of a host name with at least two points is a host name again.
-/
namespace BucketVhosts.Host

/-! ## Labels -/

theorem isLetter_iff {c : Char} : isLetter c = true ↔ 'a' ≤ c ∧ c ≤ 'z' := by
  rw [isLetter, Bool.and_eq_true, decide_eq_true_iff, decide_eq_true_iff]

theorem isDigit_iff {c : Char} : isDigit c = true ↔ '0' ≤ c ∧ c ≤ '9' := by
  rw [isDigit, Bool.and_eq_true, decide_eq_true_iff, decide_eq_true_iff]

/-- A lower case ASCII letter or an ASCII digit. -/
def IsGroupChar (c : Char) : Prop :=
  isLetter c = true ∨ isDigit c = true

instance (c : Char) : Decidable (IsGroupChar c) :=
  inferInstanceAs (Decidable (_ ∨ _))

/-- A group is one or more letters and digits. -/
def IsGroup (cs : List Char) : Prop :=
  cs ≠ [] ∧ ∀ c ∈ cs, IsGroupChar c

/-- A label is a group and further ones, each with a hyphen before it. -/
def IsLabel (cs : List Char) : Prop :=
  ∃ (first : List Char) (others : List (List Char)),
    IsGroup first ∧ (∀ group ∈ others, IsGroup group) ∧ cs = first ++ others.flatMap ('-' :: ·)

/-- The last label is two or more letters. -/
def IsLastLabel (cs : List Char) : Prop :=
  2 ≤ cs.length ∧ ∀ c ∈ cs, isLetter c = true

/-- A host name is one or more labels, each with a point behind it, and a last label. -/
def IsHostName (s : String) : Prop :=
  ∃ labels last, labels ≠ [] ∧ (∀ label ∈ labels, IsLabel label) ∧ IsLastLabel last ∧
    s.toList = labels.flatMap (· ++ ['.']) ++ last

/-- What is left of a label inside of a group: the rest of the group and further ones. -/
def IsLabelRest (cs : List Char) : Prop :=
  ∃ (first : List Char) (others : List (List Char)),
    (∀ c ∈ first, IsGroupChar c) ∧ (∀ group ∈ others, IsGroup group) ∧
      cs = first ++ others.flatMap ('-' :: ·)

theorem IsGroupChar.ne_hyphen {c : Char} (h : IsGroupChar c) : c ≠ '-' := by
  rintro rfl
  exact absurd h (by decide)

theorem not_isLabel_nil : ¬IsLabel [] := by
  rintro ⟨first, others, hfirst, _, h⟩
  exact hfirst.1 (List.append_eq_nil_iff.mp h.symm).1

theorem isLabel_cons_iff {c : Char} {cs : List Char} :
    IsLabel (c :: cs) ↔ IsGroupChar c ∧ IsLabelRest cs := by
  constructor
  · rintro ⟨first, others, ⟨hfirst, hchars⟩, hothers, h⟩
    obtain ⟨d, first, rfl⟩ := List.exists_cons_of_ne_nil hfirst
    obtain ⟨rfl, rfl⟩ := List.cons_eq_cons.mp h
    rw [List.forall_mem_cons] at hchars
    exact ⟨hchars.1, first, others, hchars.2, hothers, rfl⟩
  · rintro ⟨hc, first, others, hchars, hothers, rfl⟩
    exact ⟨c :: first, others, ⟨by simp, List.forall_mem_cons.mpr ⟨hc, hchars⟩⟩, hothers, rfl⟩

theorem isLabelRest_nil : IsLabelRest [] :=
  ⟨[], [], by simp, by simp, rfl⟩

/-- A label goes on with the group, or with a hyphen and what is a label again. -/
theorem isLabelRest_cons_iff {c : Char} {cs : List Char} :
    IsLabelRest (c :: cs) ↔ IsGroupChar c ∧ IsLabelRest cs ∨ c = '-' ∧ IsLabel cs := by
  constructor
  · rintro ⟨first, others, hchars, hothers, h⟩
    cases first with
    | nil =>
        cases others with
        | nil => cases h
        | cons group others =>
            obtain ⟨rfl, rfl⟩ := List.cons_eq_cons.mp h
            rw [List.forall_mem_cons] at hothers
            exact .inr ⟨rfl, group, others, hothers.1, hothers.2, rfl⟩
    | cons d first =>
        obtain ⟨rfl, rfl⟩ := List.cons_eq_cons.mp h
        rw [List.forall_mem_cons] at hchars
        exact .inl ⟨hchars.1, first, others, hchars.2, hothers, rfl⟩
  · rintro (⟨hc, first, others, hchars, hothers, rfl⟩ | ⟨rfl, group, others, hgroup, hothers, rfl⟩)
    · exact ⟨c :: first, others, List.forall_mem_cons.mpr ⟨hc, hchars⟩, hothers, rfl⟩
    · exact ⟨[], group :: others, by simp, List.forall_mem_cons.mpr ⟨hgroup, hothers⟩, rfl⟩

/-! ## What each shape asks for -/

namespace LabelShape
variable {shape : LabelShape} {c : Char} {cs : List Char}

/-- The shape of the label after some more characters, if the label may go on with them. -/
def after (shape : LabelShape) (cs : List Char) : Option LabelShape :=
  cs.foldlM next shape

theorem after_cons (shape : LabelShape) (c : Char) (cs : List Char) :
    shape.after (c :: cs) = (shape.next c).bind fun next => next.after cs :=
  List.foldlM_cons

/-- What completes a label of the shape: inside of a group its rest, otherwise a group first. -/
def IsCompletedBy (shape : LabelShape) (cs : List Char) : Prop :=
  if shape.isComplete = true then IsLabelRest cs else IsLabel cs

theorem next_of_isGroupChar (shape : LabelShape) (h : IsGroupChar c) :
    ∃ reached, shape.next c = some reached ∧ reached.isComplete = true := by
  rw [next.eq_def]
  by_cases hletter : isLetter c = true
  · cases shape <;> simp [hletter, isComplete]
  · have hdigit : isDigit c = true := h.resolve_left hletter
    simp [hletter, hdigit, isComplete]

theorem next_hyphen : shape.next '-' = if shape.isComplete = true then some .hyphen else none := by
  cases shape <;> rfl

theorem next_other (hgroup : ¬IsGroupChar c) (hhyphen : c ≠ '-') : shape.next c = none := by
  rw [IsGroupChar, not_or] at hgroup
  rw [next.eq_def]
  simp [hgroup, hhyphen]

/-- The characters complete the label. -/
theorem isCompletedBy_iff :
    (∃ reached, shape.after cs = some reached ∧ reached.isComplete = true) ↔
      shape.IsCompletedBy cs := by
  induction cs generalizing shape with
  | nil =>
      cases shape <;>
        simp [after, isComplete, IsCompletedBy, not_isLabel_nil, isLabelRest_nil]
  | cons c cs ih =>
      rw [after_cons, IsCompletedBy, isLabelRest_cons_iff, isLabel_cons_iff]
      by_cases hgroup : IsGroupChar c
      · obtain ⟨reached, hnext, hcomplete⟩ := next_of_isGroupChar shape hgroup
        rw [hnext, Option.bind_some, ih, IsCompletedBy, if_pos hcomplete]
        simp [hgroup, hgroup.ne_hyphen]
      · by_cases hhyphen : c = '-'
        · subst hhyphen
          rw [next_hyphen]
          split
          · rw [Option.bind_some, ih]
            simp [IsCompletedBy, hgroup, isComplete]
          · simp [hgroup]
        · rw [next_other hgroup hhyphen]
          simp [hgroup, hhyphen]

/-- How many letters are missing in a label of the shape, when it is to be the last one. -/
def missingLetters : LabelShape → Option Nat
  | .empty => some 2
  | .letter => some 1
  | .letters => some 0
  | .groups | .hyphen => none

/-- A label with anything but letters is not the last one. -/
theorem missingLetters_of_next {reached : LabelShape} (hletter : ¬isLetter c = true)
    (h : shape.next c = some reached) : reached.missingLetters = none := by
  by_cases hhyphen : c = '-'
  · subst hhyphen
    rw [next_hyphen] at h
    split at h
    · cases h
      rfl
    · cases h
  · by_cases hdigit : isDigit c = true
    · rw [next.eq_def, if_neg hletter, if_pos hdigit] at h
      cases h
      rfl
    · rw [next_other (not_or.mpr ⟨hletter, hdigit⟩) hhyphen] at h
      cases h

/-- The shape of the last label is reached by the missing letters, and by any further ones. -/
theorem after_eq_letters_iff :
    shape.after cs = some .letters ↔
      ∃ missing, shape.missingLetters = some missing ∧ missing ≤ cs.length ∧
        ∀ c ∈ cs, isLetter c = true := by
  induction cs generalizing shape with
  | nil => cases shape <;> simp [after, missingLetters]
  | cons c cs ih =>
      rw [after_cons, List.forall_mem_cons]
      by_cases hletter : isLetter c = true
      · cases shape <;> simp [next, hletter, ih, missingLetters]
      -- Any other character leads to a shape that no letters make up for.
      · cases hnext : shape.next c with
        | none => simp [hletter]
        | some reached =>
            rw [Option.bind_some, ih, missingLetters_of_next hletter hnext]
            simp [hletter]

end LabelShape

/-! ## Names -/

theorem not_isGroupChar_point : ¬IsGroupChar '.' := by decide

theorem point_notMem_isLabel {label : List Char} (h : IsLabel label) : '.' ∉ label := by
  obtain ⟨first, others, ⟨-, hfirst⟩, hothers, rfl⟩ := h
  rw [List.mem_append, List.mem_flatMap, not_or]
  constructor
  · exact fun hmem => not_isGroupChar_point (hfirst _ hmem)
  · rintro ⟨group, hgroup, hmem⟩
    have hmem : '.' ∈ group := by simpa using hmem
    exact not_isGroupChar_point ((hothers group hgroup).2 _ hmem)

theorem point_notMem_isLastLabel {last : List Char} (h : IsLastLabel last) : '.' ∉ last :=
  fun hmem => not_isGroupChar_point (.inl (h.2 _ hmem))

section
variable {shape : LabelShape} {dotted : Bool}

theorem completesName_eq_true_iff {cs : List Char} (h : '.' ∉ cs) :
    completesName shape dotted cs = true ↔ dotted = true ∧ shape.after cs = some .letters := by
  induction cs generalizing shape with
  | nil => simp [completesName, LabelShape.after]
  | cons c cs ih =>
      rw [List.mem_cons, not_or] at h
      rw [completesName, if_neg (Ne.symm h.1), LabelShape.after_cons]
      cases shape.next c with
      | none => simp
      | some reached => exact ih h.2

/-- A label that a point ends has to be complete, and what is behind the point is a name, or its
last label. -/
theorem completesName_point_iff {label rest : List Char} (h : '.' ∉ label) :
    completesName shape dotted (label ++ '.' :: rest) = true ↔
      shape.IsCompletedBy label ∧ completesName .empty true rest = true := by
  rw [← LabelShape.isCompletedBy_iff]
  induction label generalizing shape with
  | nil => simp [completesName, LabelShape.after]
  | cons c label ih =>
      rw [List.mem_cons, not_or] at h
      rw [List.cons_append, completesName, if_neg (Ne.symm h.1), LabelShape.after_cons]
      cases shape.next c with
      | none => simp
      | some reached => exact ih h.2

/-- The labels of a name are read one by one. -/
theorem completesName_empty_iff {cs : List Char} :
    completesName .empty dotted cs = true ↔
      ∃ (labels : List (List Char)) (last : List Char), (dotted = true ∨ labels ≠ []) ∧
        (∀ label ∈ labels, IsLabel label) ∧ IsLastLabel last ∧
          cs = labels.flatMap (· ++ ['.']) ++ last := by
  constructor
  · intro h
    -- On the length: behind the first point is a shorter name, for which a label came before.
    induction hlength : cs.length using Nat.strong_induction_on generalizing cs dotted with
    | _ n ih =>
      subst hlength
      by_cases hpoint : '.' ∈ cs
      · obtain ⟨label, rest, rfl, hlabel⟩ := List.eq_append_cons_of_mem hpoint
        rw [completesName_point_iff hlabel] at h
        obtain ⟨labels, last, -, hlabels, hlast, rfl⟩ := ih rest.length (by simp; omega) h.2 rfl
        refine ⟨label :: labels, last, .inr (by simp), ?_, hlast, by simp⟩
        exact List.forall_mem_cons.mpr ⟨h.1, hlabels⟩
      · rw [completesName_eq_true_iff hpoint, LabelShape.after_eq_letters_iff] at h
        obtain ⟨hdotted, missing, hmissing, hletters⟩ := h
        cases hmissing
        exact ⟨[], cs, .inl hdotted, by simp, hletters, rfl⟩
  · rintro ⟨labels, last, hdotted, hlabels, hlast, rfl⟩
    induction labels generalizing dotted with
    | nil =>
        rw [List.flatMap_nil, List.nil_append, completesName_eq_true_iff
          (point_notMem_isLastLabel hlast), LabelShape.after_eq_letters_iff]
        exact ⟨hdotted.resolve_right (by simp), 2, rfl, hlast⟩
    | cons label labels ih =>
        rw [List.forall_mem_cons] at hlabels
        rw [List.flatMap_cons, List.append_assoc, List.append_assoc, List.singleton_append,
          completesName_point_iff (point_notMem_isLabel hlabels.1)]
        exact ⟨hlabels.1, ih (.inl rfl) hlabels.2⟩

end

/-- **The scan decides whether a text is a host name.** -/
theorem isName_iff {s : String} : isName s = true ↔ IsHostName s := by
  rw [isName, completesName_empty_iff]
  simp [IsHostName]

instance (s : String) : Decidable (IsHostName s) :=
  decidable_of_iff _ isName_iff

/-- Whether a label came before does not matter when a point is still to come. -/
theorem completesName_of_mem {cs : List Char} (h : '.' ∈ cs) (shape : LabelShape) (dotted : Bool) :
    completesName shape dotted cs = completesName shape false cs := by
  obtain ⟨label, rest, rfl, hlabel⟩ := List.eq_append_cons_of_mem h
  rw [Bool.eq_iff_iff, completesName_point_iff hlabel, completesName_point_iff hlabel]

/-- **The parent of a host name** with at least three labels is a host name. -/
theorem isName_parent {domain : String} (h : isName domain = true)
    (hlabels : 3 ≤ (labels domain).length) : isName (parent domain) = true := by
  obtain ⟨label, rest, rfl, hlabel, hpoint⟩ := exists_parent hlabels
  rw [isName, String.toList_ofList, completesName_point_iff hlabel] at h
  rw [parent_ofList hlabel, isName, String.toList_ofList, ← completesName_of_mem hpoint .empty true]
  exact h.2

end BucketVhosts.Host
