import Mathlib.Data.List.Forall2
import BucketVhosts.Location.Pattern
import BucketVhosts.Proofs.Host.Name
import BucketVhosts.Proofs.Nginx.Expression
import BucketVhosts.Proofs.Nginx.Word

/-!
# What patterns stand for

The regular expression of a pattern is found in exactly the paths that are the pattern with texts
for its stars. Between quotes, where NGINX reads backslashes once more, the expression stays what it
is unless the pattern has a backslash.
-/
namespace BucketVhosts.Location
open Nginx (Sign Item MatchesHere Finds readSigns itemsOf readExpression exists_cut_iff)

/-! ## The text of the expression -/

/-- How a character of a pattern is written in its expression. -/
def spelling (c : Char) : List Char :=
  if c = '*' then ['.', '*'] else escapeChar c

/-- A star is written as a point and a star, a special character behind a backslash, and any other
one as it is. -/
theorem spelling_cases (c : Char) :
    c = '*' ∧ spelling c = ['.', '*'] ∨
      c ≠ '*' ∧ specialChars.contains c = true ∧ spelling c = ['\\', c] ∨
        c ≠ '*' ∧ specialChars.contains c = false ∧ spelling c = [c] := by
  rw [spelling, escapeChar]
  by_cases hstar : c = '*'
  · exact .inl ⟨hstar, if_pos hstar⟩
  · cases hspecial : specialChars.contains c with
    | true => exact .inr (.inl ⟨hstar, rfl, if_neg hstar⟩)
    | false => exact .inr (.inr ⟨hstar, rfl, if_neg hstar⟩)

theorem ne_backslash_of_plain {c : Char} (h : specialChars.contains c = false) : c ≠ '\\' := by
  rintro rfl
  exact absurd h (by decide)

theorem ne_quote_of_special {c : Char} (h : specialChars.contains c = true) : c ≠ '"' := by
  rintro rfl
  exact absurd h (by decide)

/-- Replacing what is between the occurrences of a character, and the occurrences themselves. -/
theorem intercalate_splitOn_map (c : Char) (separator : List Char) (f : Char → List Char)
    (cs : List Char) :
    separator.intercalate ((cs.splitOn c).map fun piece => piece.flatMap f) =
      cs.flatMap fun d => if d = c then separator else f d := by
  induction cs with
  | nil => simp [List.splitOn_nil, List.intercalate]
  | cons d rest ih =>
      rw [List.splitOn_cons_eq_if_modifyHead, List.flatMap_cons, ← ih]
      obtain ⟨piece, pieces, hpieces⟩ := List.exists_cons_of_ne_nil (List.splitOn_ne_nil c rest)
      rw [hpieces]
      by_cases hd : d = c
      · simp [hd, List.intercalate]
      · cases pieces with
        | nil => simp [hd, List.intercalate]
        | cons next pieces => simp [hd, List.intercalate]

theorem toList_regex (pattern : String) :
    (regex pattern).toList = '^' :: pattern.toList.flatMap spelling ++ ['$'] := by
  have hstart : "^".toList = ['^'] := by simp
  have hany : ".*".toList = ['.', '*'] := by simp
  have hend : "$".toList = ['$'] := by simp
  have hpieces : (((Text.split '*' pattern).map escape).map String.toList) =
      (pattern.toList.splitOn '*').map fun piece => piece.flatMap escapeChar := by
    simp [Text.split, escape, Function.comp_def]
  rw [regex, Text.join, String.toList_append, String.toList_append, String.toList_intercalate,
    hstart, hany, hend, hpieces, intercalate_splitOn_map]
  rfl

/-! ## Reading the expression -/

/-- The signs that a character of a pattern becomes. -/
def signs (c : Char) : List Sign :=
  if c = '*' then [.atom .any, .star] else [.atom (.only c)]

/-- The part that a character of a pattern becomes. -/
def item (c : Char) : Item :=
  if c = '*' then .many .any else .once (.only c)

/-- No letter or digit is special, so a backslash before a special character is read as that
character. -/
theorem isAlphanum_of_special {c : Char} (h : specialChars.contains c = true) :
    c.isAlphanum = false := by
  have hall : specialChars.all fun c => !c.isAlphanum := by decide
  rw [List.all_eq_true] at hall
  simpa using hall c (by simpa using h)

theorem readSigns_special {c : Char} (h : specialChars.contains c = true) (rest : List Char) :
    readSigns ('\\' :: c :: rest) = (readSigns rest).map (.atom (.only c) :: ·) := by
  rw [readSigns, isAlphanum_of_special h, if_neg (by simp)]

/-- A character that is not special is no sign of another construct. -/
theorem readSigns_plain {c : Char} (h : specialChars.contains c = false) (rest : List Char) :
    readSigns (c :: rest) = (readSigns rest).map (.atom (.only c) :: ·) := by
  simp only [specialChars, List.contains_eq_mem, decide_eq_false_iff_not, List.mem_cons,
    not_or] at h
  rw [readSigns]
  · simp [Nginx.isOtherSign, Nginx.signOf, h]
  · rintro d tail rfl
    simp at h

theorem readSigns_spelling (c : Char) (rest : List Char) :
    readSigns (spelling c ++ rest) = (readSigns rest).map (signs c ++ ·) := by
  rcases spelling_cases c with ⟨rfl, hspelling⟩ | ⟨hstar, hspecial, hspelling⟩ |
    ⟨hstar, hplain, hspelling⟩
  · rw [hspelling]
    simp [readSigns, Nginx.isOtherSign, Nginx.signOf, signs, Function.comp_def]
  · rw [hspelling, signs, if_neg hstar]
    exact readSigns_special hspecial rest
  · rw [hspelling, signs, if_neg hstar]
    exact readSigns_plain hplain rest

theorem readSigns_flatMap_spelling (cs rest : List Char) :
    readSigns (cs.flatMap spelling ++ rest) = (readSigns rest).map (cs.flatMap signs ++ ·) := by
  induction cs with
  | nil => simp
  | cons c cs ih =>
      rw [List.flatMap_cons, List.append_assoc, readSigns_spelling, ih, Option.map_map]
      simp [Function.comp_def]

/-- Behind the signs of a pattern no star stands that is not its own. -/
theorem itemsOf_atom {a : Nginx.Atom} {rest : List Sign} (h : rest.head? ≠ some .star) :
    itemsOf (.atom a :: rest) = (itemsOf rest).map (.once a :: ·) := by
  cases rest with
  | nil => rfl
  | cons sign rest =>
      cases sign with
      | star => exact absurd rfl h
      | _ => rfl

theorem head?_flatMap_signs_ne (cs : List Char) :
    (cs.flatMap signs ++ [Sign.finish]).head? ≠ some .star := by
  cases cs with
  | nil => simp
  | cons c cs =>
      by_cases hstar : c = '*'
      · simp [signs, hstar]
      · simp [signs, hstar]

theorem itemsOf_flatMap_signs (cs : List Char) :
    itemsOf (cs.flatMap signs ++ [.finish]) = some (cs.map item ++ [.finish]) := by
  induction cs with
  | nil => rfl
  | cons c cs ih =>
      rw [List.flatMap_cons, List.append_assoc, List.map_cons, signs, item]
      by_cases hstar : c = '*'
      · rw [if_pos hstar, if_pos hstar, List.cons_append, List.singleton_append, itemsOf, ih]
        rfl
      · rw [if_neg hstar, if_neg hstar, List.singleton_append,
          itemsOf_atom (head?_flatMap_signs_ne cs), ih]
        rfl

/-- The parts of the expression are those of the characters between the two anchors. -/
theorem readExpression_regex (pattern : String) :
    readExpression (regex pattern).toList =
      some (.start :: pattern.toList.map item ++ [.finish]) := by
  have hend : readSigns ['$'] = some [.finish] := by decide
  have hplain : readSigns ('^' :: (pattern.toList.flatMap spelling ++ ['$'])) =
      some (.start :: (pattern.toList.flatMap signs ++ [.finish])) := by
    rw [readSigns]
    · rw [readSigns_flatMap_spelling, hend]
      rfl
    · rintro c tail h
      cases h
  rw [toList_regex, List.cons_append, readExpression, hplain, Option.bind_some, itemsOf,
    itemsOf_flatMap_signs]
  rfl

/-! ## Wildcards -/

/-- The text is the pattern with some text, which may be empty, for each star. -/
def Fits (pattern text : List Char) : Prop :=
  ∃ parts, List.Forall₂ (fun c part => c = '*' ∨ part = [c]) pattern parts ∧ text = parts.flatten

theorem fits_nil_iff {text : List Char} : Fits [] text ↔ text = [] := by
  simp [Fits]

theorem fits_cons_iff {c : Char} {pattern text : List Char} :
    Fits (c :: pattern) text ↔
      ∃ part rest, text = part ++ rest ∧ (c = '*' ∨ part = [c]) ∧ Fits pattern rest := by
  constructor
  · rintro ⟨parts, hparts, rfl⟩
    obtain ⟨part, others, hfirst, hothers, rfl⟩ := List.forall₂_cons_left_iff.mp hparts
    exact ⟨part, others.flatten, rfl, hfirst, others, hothers, rfl⟩
  · rintro ⟨part, rest, rfl, hfirst, others, hothers, rfl⟩
    exact ⟨part :: others, .cons hfirst hothers, rfl⟩

instance decideFits : (pattern text : List Char) → Decidable (Fits pattern text)
  | [], _ => decidable_of_iff _ fits_nil_iff.symm
  | c :: pattern, text =>
    haveI := decideFits pattern
    decidable_of_iff (∃ part ∈ text.inits, (c = '*' ∨ part = [c]) ∧
      Fits pattern (text.drop part.length)) (by rw [fits_cons_iff, exists_cut_iff])

/-- The parts of a pattern match what fits it, up to the end. -/
theorem matchesHere_iff_fits {pattern text : List Char} (hline : '\n' ∉ text) (atStart : Bool) :
    MatchesHere (pattern.map item ++ [.finish]) atStart text ↔ Fits pattern text := by
  -- A star takes part of the path, so both sides are cut at the same place. Whether the start of
  -- the path has been left does not matter: only the first anchor asks for it.
  induction pattern generalizing text atStart with
  | nil =>
      have hlast : text ≠ ['\n'] := by
        rintro rfl
        simp at hline
      simp [MatchesHere, fits_nil_iff, hlast]
  | cons c pattern ih =>
      rw [List.map_cons, List.cons_append, item, fits_cons_iff]
      by_cases hstar : c = '*'
      · rw [if_pos hstar, MatchesHere]
        constructor
        · rintro ⟨taken, rest, rfl, -, hrest⟩
          rw [List.mem_append, not_or] at hline
          exact ⟨taken, rest, rfl, .inl hstar, (ih hline.2 _).mp hrest⟩
        · rintro ⟨part, rest, rfl, -, hrest⟩
          rw [List.mem_append, not_or] at hline
          refine ⟨part, rest, rfl, ?_, (ih hline.2 _).mpr hrest⟩
          intro d hd
          have hne : d ≠ '\n' := fun h => hline.1 (h ▸ hd)
          simpa [Nginx.Atom.admits] using hne
      · rw [if_neg hstar, MatchesHere]
        constructor
        · rintro ⟨d, rest, rfl, hd, hrest⟩
          obtain rfl : d = c := by simpa [Nginx.Atom.admits] using hd
          rw [List.mem_cons, not_or] at hline
          exact ⟨[d], rest, rfl, .inr rfl, (ih hline.2 _).mp hrest⟩
        · rintro ⟨part, rest, rfl, hpart, hrest⟩
          obtain rfl : part = [c] := hpart.resolve_left hstar
          rw [List.singleton_append, List.mem_cons, not_or] at hline
          exact ⟨c, rest, rfl, by simp [Nginx.Atom.admits], (ih hline.2 _).mpr hrest⟩

/-- **The expression of a pattern is found in exactly the paths that fit the pattern.** -/
theorem finds_regex_iff_fits {pattern path : String} (hline : '\n' ∉ path.toList) :
    Finds (regex pattern).toList path.toList ↔ Fits pattern.toList path.toList := by
  rw [Finds, readExpression_regex]
  constructor
  · rintro ⟨items, hitems, before, after, hpath, hmatch⟩
    cases hitems
    obtain ⟨hstart, hmatch⟩ := hmatch
    obtain rfl : before = [] := by simpa using hstart
    obtain rfl : path.toList = after := hpath
    exact (matchesHere_iff_fits hline _).mp hmatch
  · intro hfits
    exact ⟨_, rfl, [], path.toList, rfl, rfl, (matchesHere_iff_fits hline _).mpr hfits⟩

/-- A point of a pattern is only found as a point. -/
theorem finds_regex_scripts :
    '\n' ∉ "/lib/a.min.js".toList ∧ Finds (regex "/*.js").toList "/lib/a.min.js".toList ∧
      '\n' ∉ "/lib/ajs".toList ∧ ¬Finds (regex "/*.js").toList "/lib/ajs".toList := by
  have hline : '\n' ∉ "/lib/a.min.js".toList := by decide +kernel
  have hother : '\n' ∉ "/lib/ajs".toList := by decide +kernel
  refine ⟨hline, (finds_regex_iff_fits hline).mpr (by decide +kernel), hother, ?_⟩
  rw [finds_regex_iff_fits hother]
  decide +kernel

/-! ## The expression between quotes -/

/-- What is left of a character's spelling when the backslashes in it are read as those of a quoted
word: only a backslash that protects a backslash is lost. -/
def quotedSpelling (c : Char) : List Char :=
  if c = '\\' then ['\\'] else spelling c

/-- What the expression of a pattern is read as between quotes. -/
def quotedRegex (pattern : String) : List Char :=
  '^' :: pattern.toList.flatMap quotedSpelling ++ ['$']

theorem pairMeaning_special {c : Char} (h : specialChars.contains c = true) :
    Nginx.pairMeaning c = if c = '\\' then ['\\'] else ['\\', c] := by
  have hall : specialChars.all fun c =>
      Nginx.pairMeaning c = if c = '\\' then ['\\'] else ['\\', c] := by decide
  rw [List.all_eq_true] at hall
  simpa using hall c (by simpa using h)

theorem meaning_spelling (c : Char) (rest : List Char) :
    Nginx.meaning (spelling c ++ rest) = quotedSpelling c ++ Nginx.meaning rest := by
  rw [quotedSpelling]
  rcases spelling_cases c with ⟨rfl, hspelling⟩ | ⟨_, hspecial, hspelling⟩ |
    ⟨_, hplain, hspelling⟩
  · rw [hspelling]
    rfl
  · rw [hspelling, ← pairMeaning_special hspecial]
    rfl
  · have hne := ne_backslash_of_plain hplain
    rw [hspelling, if_neg hne]
    exact Nginx.meaning_cons hne rest

theorem meaning_regex (pattern : String) :
    Nginx.meaning (regex pattern).toList = quotedRegex pattern := by
  rw [quotedRegex, toList_regex, List.cons_append, Nginx.meaning_cons (by decide), List.cons_append]
  congr 1
  induction pattern.toList with
  | nil => rfl
  | cons c cs ih =>
      rw [List.flatMap_cons, List.append_assoc, meaning_spelling, ih, List.flatMap_cons,
        List.append_assoc]

theorem stopsBehind_spelling (c : Char) (rest : List Char) :
    Nginx.stopsBehind (· = '"') false (spelling c ++ rest) =
      Nginx.stopsBehind (· = '"') false rest := by
  rcases spelling_cases c with ⟨rfl, hspelling⟩ | ⟨_, hspecial, hspelling⟩ |
    ⟨_, hplain, hspelling⟩
  · rw [hspelling, List.cons_append, Nginx.stopsBehind_cons (by decide), List.singleton_append,
      Nginx.stopsBehind_cons (by decide)]
  · rw [hspelling, List.cons_append, List.singleton_append, Nginx.stopsBehind_pair (by decide)]
    simp [ne_quote_of_special hspecial]
  · rw [hspelling, List.singleton_append, Nginx.stopsBehind_cons (ne_backslash_of_plain hplain)]

/-- No quote of the expression is protected, nor is its end. -/
theorem stopsBehind_regex (pattern : String) :
    Nginx.stopsBehind (· = '"') false (regex pattern).toList = true := by
  rw [toList_regex, List.cons_append, Nginx.stopsBehind_cons (by decide)]
  induction pattern.toList with
  | nil => rfl
  | cons c cs ih => rw [List.flatMap_cons, List.append_assoc, stopsBehind_spelling, ih]

/-- Every backslash of a pattern is written as two and read as one. -/
theorem length_flatMap_spelling (cs : List Char) :
    (cs.flatMap spelling).length = (cs.flatMap quotedSpelling).length + cs.count '\\' := by
  induction cs with
  | nil => rfl
  | cons c cs ih =>
      rw [List.flatMap_cons, List.flatMap_cons, List.length_append, List.length_append, ih,
        quotedSpelling]
      by_cases hbackslash : c = '\\'
      · subst hbackslash
        have hlength : (spelling '\\').length = 2 := by decide
        rw [if_pos rfl, hlength, List.length_singleton, List.count_cons_self]
        omega
      · rw [if_neg hbackslash, List.count_cons_of_ne hbackslash]
        omega

theorem quotedRegex_eq_iff (pattern : String) :
    quotedRegex pattern = (regex pattern).toList ↔ '\\' ∉ pattern.toList := by
  rw [quotedRegex, toList_regex]
  constructor
  · intro h
    have hlength := congrArg List.length h
    simp only [List.length_cons, List.length_append, length_flatMap_spelling] at hlength
    exact List.count_eq_zero.mp (by omega)
  · intro h
    have hsame : ∀ c ∈ pattern.toList, quotedSpelling c = spelling c := by
      intro c hc
      have hne : c ≠ '\\' := fun heq => h (heq ▸ hc)
      rw [quotedSpelling, if_neg hne]
    rw [List.flatMap_congr hsame]

/-- The expression has no quote but those of the pattern. -/
theorem quote_notMem_regex {pattern : String} (h : '"' ∉ pattern.toList) :
    '"' ∉ (regex pattern).toList := by
  have hspelling : ∀ c ∈ pattern.toList, '"' ∉ spelling c := by
    intro c hc
    have hne : '"' ≠ c := fun heq => h (heq ▸ hc)
    rcases spelling_cases c with ⟨_, hspelling⟩ | ⟨_, _, hspelling⟩ | ⟨_, _, hspelling⟩
    · simp [hspelling]
    · simp [hspelling, hne]
    · simp [hspelling, hne]
  rw [toList_regex]
  simpa using hspelling

/-- **The expression of a pattern between quotes** ends at the closing quote, and is read with one
backslash for each two that stand for a backslash of the pattern. -/
theorem nextWord_quoted_regex {pattern : String} (h : '"' ∉ pattern.toList) (after : List Char) :
    Nginx.nextWord false ('"' :: (regex pattern).toList ++ '"' :: after) =
      some (quotedRegex pattern, after) := by
  have hfree : ∀ c ∈ (regex pattern).toList, decide (c = '"') = false := by
    intro c hc
    rw [decide_eq_false_iff_not]
    rintro rfl
    exact quote_notMem_regex h hc
  have hprotect := Nginx.protect_eq_self hfree
  have hread : Nginx.nextWord false
      ('"' :: Nginx.protect (· = '"') (regex pattern).toList ++ '"' :: after) = some (_, after) :=
    Nginx.nextWord_quoted_eq_some_iff.mpr ⟨stopsBehind_regex pattern, rfl⟩
  rwa [hprotect, meaning_regex] at hread

end BucketVhosts.Location
