import Mathlib.Computability.RegularExpressions
import BucketVhosts.Proofs.Host.Labels

/-!
# Host names as an expression and as pieces

Host names are the words of a regular expression, and they are the texts that come apart at their
points and hyphens into pieces of the right characters. Both ways to say it agree with how a name is
made up of labels, and so with the scan.
-/
namespace BucketVhosts.Host

/-! ## The expression -/

open RegularExpression in
/-- One of the characters. -/
def oneOf (cs : List Char) : RegularExpression Char :=
  (cs.map char).sum

/-- The expression, once or more often. -/
def several (e : RegularExpression Char) : RegularExpression Char :=
  e * e.star

/-- The lower case ASCII letters. -/
def letters : List Char := "abcdefghijklmnopqrstuvwxyz".toList

/-- The ASCII digits. -/
def digits : List Char := "0123456789".toList

/-- The expression of a group, `[a-z0-9]+`. -/
def groupExpression : RegularExpression Char :=
  several (oneOf (letters ++ digits))

/-- The expression of a label, `[a-z0-9]+(-[a-z0-9]+)*`. -/
def labelExpression : RegularExpression Char :=
  groupExpression * (.char '-' * groupExpression).star

/-- The expression of host names, `([a-z0-9]+(-[a-z0-9]+)*\.)+[a-z]{2,}`. -/
def nameExpression : RegularExpression Char :=
  several (labelExpression * .char '.') * (oneOf letters ^ 2 * (oneOf letters).star)

/-! ## Characters -/

/-- Whether all characters of a class are listed is told by their codes. -/
theorem mem_of_toNat {cs : List Char} {c low high : Char}
    (hall : ∀ n ∈ List.range (high.toNat + 1), low.toNat ≤ n → Char.ofNat n ∈ cs)
    (hlow : low ≤ c) (hhigh : c ≤ high) : c ∈ cs := by
  rw [Char.le_def, UInt32.le_iff_toNat_le] at hlow hhigh
  have hc := hall c.toNat (List.mem_range.mpr (Nat.lt_succ_of_le hhigh)) hlow
  rwa [Char.ofNat_toNat] at hc

theorem mem_letters_iff {c : Char} : c ∈ letters ↔ isLetter c = true := by
  constructor
  · have hall : letters.all isLetter = true := by decide +kernel
    exact List.all_eq_true.mp hall c
  · rw [isLetter_iff]
    rintro ⟨hlow, hhigh⟩
    exact mem_of_toNat (by decide +kernel) hlow hhigh

theorem mem_digits_iff {c : Char} : c ∈ digits ↔ isDigit c = true := by
  constructor
  · have hall : digits.all isDigit = true := by decide +kernel
    exact List.all_eq_true.mp hall c
  · rw [isDigit_iff]
    rintro ⟨hlow, hhigh⟩
    exact mem_of_toNat (by decide +kernel) hlow hhigh

/-! ## Words of expressions -/

section
variable {e : RegularExpression Char} {cs : List Char}

theorem mem_char_iff {c : Char} : cs ∈ (RegularExpression.char c).matches' ↔ cs = [c] :=
  Iff.rfl

theorem mem_oneOf_iff {chars : List Char} :
    cs ∈ (oneOf chars).matches' ↔ ∃ c, c ∈ chars ∧ cs = [c] := by
  rw [oneOf]
  induction chars with
  | nil => simp [Language.notMem_zero]
  | cons c rest ih =>
      rw [List.map_cons, List.sum_cons, RegularExpression.matches'_add, Language.mem_add, ih,
        mem_char_iff]
      simp

variable {α : Type} {P : α → Prop} {f : α → List Char}

/-- Words that each have a form come from a list of what they are the forms of. -/
theorem forall_mem_matches_iff (he : ∀ cs, cs ∈ e.matches' ↔ ∃ a, P a ∧ cs = f a)
    (words : List (List Char)) :
    (∀ word ∈ words, word ∈ e.matches') ↔ ∃ as : List α, (∀ a ∈ as, P a) ∧ words = as.map f := by
  induction words with
  | nil => simp
  | cons word words ih =>
      rw [List.forall_mem_cons, he, ih]
      constructor
      · rintro ⟨⟨a, ha, rfl⟩, as, has, rfl⟩
        exact ⟨a :: as, List.forall_mem_cons.mpr ⟨ha, has⟩, rfl⟩
      · rintro ⟨as, has, hwords⟩
        obtain ⟨a, as, rfl, rfl, rfl⟩ := List.map_eq_cons_iff.mp hwords.symm
        rw [List.forall_mem_cons] at has
        exact ⟨⟨a, has.1, rfl⟩, as, has.2, rfl⟩

/-- A repetition is made of any number of forms. -/
theorem mem_star_iff (he : ∀ cs, cs ∈ e.matches' ↔ ∃ a, P a ∧ cs = f a) :
    cs ∈ e.star.matches' ↔ ∃ as : List α, (∀ a ∈ as, P a) ∧ cs = as.flatMap f := by
  rw [RegularExpression.matches'_star, Language.mem_kstar]
  constructor
  · rintro ⟨words, rfl, hwords⟩
    obtain ⟨as, has, rfl⟩ := (forall_mem_matches_iff he words).mp hwords
    exact ⟨as, has, rfl⟩
  · rintro ⟨as, has, rfl⟩
    exact ⟨as.map f, rfl, (forall_mem_matches_iff he _).mpr ⟨as, has, rfl⟩⟩

theorem mem_several_iff (he : ∀ cs, cs ∈ e.matches' ↔ ∃ a, P a ∧ cs = f a) :
    cs ∈ (several e).matches' ↔
      ∃ as : List α, as ≠ [] ∧ (∀ a ∈ as, P a) ∧ cs = as.flatMap f := by
  rw [several, RegularExpression.matches'_mul, Language.mem_mul]
  constructor
  · rintro ⟨first, hfirst, rest, hrest, rfl⟩
    obtain ⟨a, ha, rfl⟩ := (he first).mp hfirst
    obtain ⟨as, has, rfl⟩ := (mem_star_iff he).mp hrest
    exact ⟨a :: as, by simp, List.forall_mem_cons.mpr ⟨ha, has⟩, rfl⟩
  · rintro ⟨as, hne, has, rfl⟩
    obtain ⟨a, as, rfl⟩ := List.exists_cons_of_ne_nil hne
    rw [List.forall_mem_cons] at has
    exact ⟨f a, (he _).mpr ⟨a, has.1, rfl⟩, as.flatMap f, (mem_star_iff he).mpr ⟨as, has.2, rfl⟩,
      rfl⟩

end

section
variable {cs : List Char}

theorem mem_groupExpression_iff : cs ∈ groupExpression.matches' ↔ IsGroup cs := by
  rw [groupExpression, mem_several_iff fun cs => mem_oneOf_iff, IsGroup]
  simp only [List.mem_append, mem_letters_iff, mem_digits_iff, List.flatMap_singleton']
  constructor
  · rintro ⟨_, hne, hchars, rfl⟩
    exact ⟨hne, hchars⟩
  · rintro ⟨hne, hchars⟩
    exact ⟨cs, hne, hchars, rfl⟩

theorem mem_labelExpression_iff : cs ∈ labelExpression.matches' ↔ IsLabel cs := by
  have hother (cs : List Char) :
      cs ∈ (RegularExpression.char '-' * groupExpression).matches' ↔
        ∃ group, IsGroup group ∧ cs = '-' :: group := by
    rw [RegularExpression.matches'_mul, Language.mem_mul]
    simp only [mem_char_iff, mem_groupExpression_iff, exists_eq_left, List.singleton_append,
      eq_comm]
  rw [labelExpression, RegularExpression.matches'_mul, Language.mem_mul, IsLabel]
  simp only [mem_groupExpression_iff, mem_star_iff hother]
  constructor
  · rintro ⟨first, hfirst, _, ⟨others, hothers, rfl⟩, rfl⟩
    exact ⟨first, others, hfirst, hothers, rfl⟩
  · rintro ⟨first, others, hfirst, hothers, rfl⟩
    exact ⟨first, hfirst, _, ⟨others, hothers, rfl⟩, rfl⟩

/-- Two letters, and any number of further ones. -/
theorem mem_lastExpression_iff :
    cs ∈ (oneOf letters ^ 2 * (oneOf letters).star).matches' ↔ IsLastLabel cs := by
  rw [RegularExpression.matches'_mul, RegularExpression.matches'_pow, sq, mul_assoc]
  simp only [Language.mem_mul, mem_oneOf_iff, mem_star_iff fun cs => mem_oneOf_iff,
    mem_letters_iff, List.flatMap_singleton']
  constructor
  · rintro ⟨_, ⟨c, hc, rfl⟩, _, ⟨_, ⟨d, hd, rfl⟩, _, ⟨rest, hrest, rfl⟩, rfl⟩, rfl⟩
    exact ⟨by simp, by simpa using ⟨hc, hd, hrest⟩⟩
  · rintro ⟨hlength, hletters⟩
    match cs, hlength, hletters with
    | c :: d :: rest, _, hletters =>
        simp only [List.forall_mem_cons] at hletters
        exact ⟨[c], ⟨c, hletters.1, rfl⟩, d :: rest,
          ⟨[d], ⟨d, hletters.2.1, rfl⟩, rest, ⟨rest, hletters.2.2, rfl⟩, rfl⟩, rfl⟩

/-- A host name is a word of the expression. -/
theorem mem_nameExpression_iff {s : String} :
    s.toList ∈ nameExpression.matches' ↔ IsHostName s := by
  have hlabel (cs : List Char) :
      cs ∈ (labelExpression * RegularExpression.char '.').matches' ↔
        ∃ label, IsLabel label ∧ cs = label ++ ['.'] := by
    rw [RegularExpression.matches'_mul, Language.mem_mul]
    simp only [mem_char_iff, mem_labelExpression_iff, exists_eq_left, eq_comm]
  rw [nameExpression, RegularExpression.matches'_mul, Language.mem_mul, IsHostName]
  simp only [mem_several_iff hlabel, mem_lastExpression_iff]
  constructor
  · rintro ⟨_, ⟨labels, hne, hlabels, rfl⟩, last, hlast, hs⟩
    exact ⟨labels, last, hne, hlabels, hlast, hs.symm⟩
  · rintro ⟨labels, last, hne, hlabels, hlast, hs⟩
    exact ⟨_, ⟨labels, hne, hlabels, rfl⟩, last, hlast, hs.symm⟩

end

/-! ## Pieces -/

/-- The first piece stands alone, and the separator comes before every other one. -/
theorem intercalate_cons (c : Char) (first : List Char) (others : List (List Char)) :
    [c].intercalate (first :: others) = first ++ others.flatMap (c :: ·) := by
  induction others generalizing first with
  | nil => simp
  | cons other others ih =>
      rw [List.intercalate_cons_cons, ih]
      simp

/-- The last piece stands alone, and the separator comes behind every other one. -/
theorem intercalate_concat (c : Char) (pieces : List (List Char)) (last : List Char) :
    [c].intercalate (pieces ++ [last]) = pieces.flatMap (· ++ [c]) ++ last := by
  induction pieces with
  | nil => simp
  | cons piece pieces ih =>
      obtain ⟨next, rest, hnext⟩ : ∃ next rest, pieces ++ [last] = next :: rest :=
        List.exists_cons_of_ne_nil (by simp)
      rw [List.cons_append, hnext, List.intercalate_cons_cons, ← hnext, ih]
      simp

/-- A label is cut at its hyphens into groups. -/
theorem isLabel_iff_splitOn {cs : List Char} :
    IsLabel cs ↔ ∀ group ∈ cs.splitOn '-', IsGroup group := by
  constructor
  · rintro ⟨first, others, hfirst, hothers, rfl⟩
    have hgroups : ∀ group ∈ first :: others, IsGroup group :=
      List.forall_mem_cons.mpr ⟨hfirst, hothers⟩
    have hhyphen : ∀ group ∈ first :: others, '-' ∉ group := fun group hgroup hmem =>
      ((hgroups group hgroup).2 _ hmem).ne_hyphen rfl
    rw [← intercalate_cons, List.splitOn_intercalate _ hhyphen (by simp)]
    exact hgroups
  · intro hgroups
    obtain ⟨first, others, hsplit⟩ := List.exists_cons_of_ne_nil (List.splitOn_ne_nil '-' cs)
    rw [hsplit, List.forall_mem_cons] at hgroups
    refine ⟨first, others, hgroups.1, hgroups.2, ?_⟩
    rw [← intercalate_cons, ← hsplit, List.intercalate_splitOn]

/-- A host name is cut at its points into labels and a last label. -/
theorem isHostName_iff_splitOn {s : String} :
    IsHostName s ↔ ∃ labels last, s.toList.splitOn '.' = labels ++ [last] ∧ labels ≠ [] ∧
      (∀ label ∈ labels, IsLabel label) ∧ IsLastLabel last := by
  constructor
  · rintro ⟨labels, last, hne, hlabels, hlast, hs⟩
    have hpoint : ∀ piece ∈ labels ++ [last], '.' ∉ piece := by
      rw [List.forall_mem_append, List.forall_mem_singleton]
      exact ⟨fun label hlabel => point_notMem_isLabel (hlabels label hlabel),
        point_notMem_isLastLabel hlast⟩
    refine ⟨labels, last, ?_, hne, hlabels, hlast⟩
    rw [hs, ← intercalate_concat, List.splitOn_intercalate _ hpoint (by simp)]
  · rintro ⟨labels, last, hsplit, hne, hlabels, hlast⟩
    refine ⟨labels, last, hne, hlabels, hlast, ?_⟩
    rw [← intercalate_concat, ← hsplit, List.intercalate_splitOn]

/-- **The scan accepts what the expression matches**, and that is every text that is cut at its
points into at least two labels, the last one of two or more letters, and each other one cut at its
hyphens into pieces of letters and digits that are not empty. -/
theorem isName_iff_pieces (s : String) :
    (isName s = true ↔ s.toList ∈ nameExpression.matches') ∧
      (isName s = true ↔ ∃ labels last, s.toList.splitOn '.' = labels ++ [last] ∧ labels ≠ [] ∧
        (2 ≤ last.length ∧ ∀ c ∈ last, 'a' ≤ c ∧ c ≤ 'z') ∧
        ∀ label ∈ labels, ∀ piece ∈ label.splitOn '-',
          piece ≠ [] ∧ ∀ c ∈ piece, 'a' ≤ c ∧ c ≤ 'z' ∨ '0' ≤ c ∧ c ≤ '9') := by
  refine ⟨isName_iff.trans mem_nameExpression_iff.symm, ?_⟩
  rw [isName_iff, isHostName_iff_splitOn]
  simp only [isLabel_iff_splitOn, IsGroup, IsGroupChar, IsLastLabel, isLetter_iff, isDigit_iff]
  constructor
  · rintro ⟨labels, last, hsplit, hne, hlabels, hlast⟩
    exact ⟨labels, last, hsplit, hne, hlast, hlabels⟩
  · rintro ⟨labels, last, hsplit, hne, hlast, hlabels⟩
    exact ⟨labels, last, hsplit, hne, hlabels, hlast⟩

example : isName "www.a-1.example\n" = false := by decide +kernel

end BucketVhosts.Host
