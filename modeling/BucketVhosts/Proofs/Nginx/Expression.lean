import Mathlib.Data.List.Infix

/-!
# Regular expressions

How NGINX finds the regular expression of a location in a path. Only what patterns are turned into
is read here: anchors, single characters, the point, and the star behind one of these. A text with
any other construct is no such expression, so that nothing is said of its meaning.
-/
namespace BucketVhosts.Nginx

/-- What a character of the path is compared with. -/
inductive Atom where
  /-- Every character but the line feed. -/
  | any
  | only (c : Char)
  deriving DecidableEq, Repr

/-- Whether a character is one that is asked for. -/
def Atom.admits : Atom → Char → Bool
  | .any, c => c ≠ '\n'
  | .only d, c => c = d

/-- A part of an expression. -/
inductive Item where
  | start
  | finish
  | once (atom : Atom)
  | many (atom : Atom)
  deriving DecidableEq, Repr

/-! ## Reading -/

/-- A sign of an expression. -/
inductive Sign where
  | start
  | finish
  | star
  | atom (atom : Atom)
  deriving DecidableEq, Repr

/-- Whether a character starts or ends a construct that is not read here. -/
def isOtherSign (c : Char) : Bool :=
  ['(', ')', '[', ']', '\x7b', '\x7d', '?', '+', '|', '\\'].contains c

/-- The sign that a character is without a backslash before it. -/
def signOf (c : Char) : Sign :=
  if c = '^' then .start
  else if c = '$' then .finish
  else if c = '*' then .star
  else if c = '.' then .atom .any
  else .atom (.only c)

/-- The signs of a text. Behind a backslash a character stands for itself unless it is a letter or
digit, which would stand for a class or a place. -/
def readSigns : List Char → Option (List Sign)
  | [] => some []
  | '\\' :: c :: rest =>
    if c.isAlphanum then none else (readSigns rest).map (.atom (.only c) :: ·)
  | c :: rest => if isOtherSign c then none else (readSigns rest).map (signOf c :: ·)

/-- The parts that signs make up. A star belongs to the atom before it. -/
def itemsOf : List Sign → Option (List Item)
  | [] => some []
  | .start :: rest => (itemsOf rest).map (.start :: ·)
  | .finish :: rest => (itemsOf rest).map (.finish :: ·)
  | .atom a :: .star :: rest => (itemsOf rest).map (.many a :: ·)
  | .atom a :: rest => (itemsOf rest).map (.once a :: ·)
  | .star :: _ => none

/-- The parts of an expression. -/
def readExpression (text : List Char) : Option (List Item) :=
  (readSigns text).bind itemsOf

/-! ## Matching -/

/-- The text begins with what the parts ask for in turn. `atStart` tells whether nothing of the
path is before the text. The end of the path is also in front of a line feed that ends it. -/
def MatchesHere : List Item → Bool → List Char → Prop
  | [], _, _ => True
  | .start :: items, atStart, text => atStart = true ∧ MatchesHere items atStart text
  | .finish :: items, atStart, text => (text = [] ∨ text = ['\n']) ∧ MatchesHere items atStart text
  | .once a :: items, _, text =>
    ∃ c rest, text = c :: rest ∧ a.admits c = true ∧ MatchesHere items false rest
  | .many a :: items, atStart, text =>
    ∃ taken rest, text = taken ++ rest ∧ (∀ c ∈ taken, a.admits c = true) ∧
      MatchesHere items (atStart && taken.isEmpty) rest

/-- The expression is found in the path: its parts match from some place on. -/
def Finds (expression path : List Char) : Prop :=
  ∃ items, readExpression expression = some items ∧
    ∃ before after, path = before ++ after ∧ MatchesHere items before.isEmpty after

/-! ## Matching can be decided -/

/-- The ways to cut a list in two are given by its beginnings. -/
theorem exists_cut_iff {α : Type} {l : List α} {p : List α → List α → Prop} :
    (∃ taken rest, l = taken ++ rest ∧ p taken rest) ↔
      ∃ taken ∈ l.inits, p taken (l.drop taken.length) := by
  constructor
  · rintro ⟨taken, rest, rfl, hp⟩
    exact ⟨taken, (List.mem_inits _ _).mpr (List.prefix_append _ _), by simpa using hp⟩
  · rintro ⟨taken, hmem, hp⟩
    obtain ⟨rest, rfl⟩ := (List.mem_inits _ _).mp hmem
    exact ⟨taken, rest, rfl, by simpa using hp⟩

instance decideMatchesHere : (items : List Item) → (atStart : Bool) → (text : List Char) →
    Decidable (MatchesHere items atStart text)
  | [], _, _ => .isTrue trivial
  | .start :: items, atStart, text =>
    haveI := decideMatchesHere items atStart text
    inferInstanceAs (Decidable (atStart = true ∧ MatchesHere items atStart text))
  | .finish :: items, atStart, text =>
    haveI := decideMatchesHere items atStart text
    inferInstanceAs (Decidable ((text = [] ∨ text = ['\n']) ∧ MatchesHere items atStart text))
  | .once _ :: _, _, [] => .isFalse fun ⟨_, _, h, _⟩ => nomatch h
  | .once a :: items, _, c :: rest =>
    haveI := decideMatchesHere items false rest
    decidable_of_iff (a.admits c = true ∧ MatchesHere items false rest)
      ⟨fun h => ⟨c, rest, rfl, h⟩, fun ⟨_, _, h, hrest⟩ => by cases h; exact hrest⟩
  | .many a :: items, atStart, text =>
    haveI := decideMatchesHere items
    haveI (taken : List Char) : Decidable (∀ c ∈ taken, a.admits c = true) :=
      List.decidableBAll _ _
    decidable_of_iff (∃ taken ∈ text.inits, (∀ c ∈ taken, a.admits c = true) ∧
      MatchesHere items (atStart && taken.isEmpty) (text.drop taken.length))
      (by rw [MatchesHere, exists_cut_iff])

instance (expression path : List Char) : Decidable (Finds expression path) :=
  decidable_of_iff (∃ items ∈ readExpression expression, ∃ before ∈ path.inits,
    MatchesHere items before.isEmpty (path.drop before.length))
    (by simp only [Finds, exists_cut_iff, Option.mem_def])

end BucketVhosts.Nginx
