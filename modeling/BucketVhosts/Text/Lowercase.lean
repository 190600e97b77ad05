import BucketVhosts.Text.CaseData

/-!
# Full lowercasing

Every character has its own lowercase form except capital sigma, whose form depends on its place:
at the end of a word it is the final sigma. Host names and header names are compared by their
lowercase forms.
-/
namespace BucketVhosts.Text

/-- Whether a code point lies in one of the ranges. -/
def inRanges (ranges : List (Nat × Nat)) (n : Nat) : Bool :=
  ranges.any fun r => r.1 ≤ n && n ≤ r.2

/-- The lowercase form of a character that does not depend on its neighbours. U+0130 becomes `i`
and a combining dot; every other form is one character. -/
def lowerChar (c : Char) : List Char :=
  let n := c.toNat
  if n < 0x80 then [c.toLower]
  else if n = 0x130 then ['i', Char.ofNat 0x307]
  else
    match lowerRuns.find? fun r => r.1 ≤ n && n ≤ r.2.1 && (n - r.1) % r.2.2.1 == 0 with
    | some (_, _, _, shift) => [Char.ofNat (n + shift).toNat]
    | none => [c]

/-- The first character that case rules do not look through. -/
def firstUnignored (cs : List Char) : Option Char :=
  cs.find? fun c => !inRanges caseIgnorableRanges c.toNat

/-- Whether the first character that case rules do not look through has letter case. -/
def facesCased (cs : List Char) : Bool :=
  match firstUnignored cs with
  | some c => inRanges casedRanges c.toNat
  | none => false

/-- Lowercases the characters in order; `before` holds the ones already passed, nearest first. A
capital sigma ends a word when a cased character precedes it and none follows. -/
def lowerFrom (before : List Char) : List Char → List Char
  | [] => []
  | c :: rest =>
    let form :=
      if c.toNat = 0x3A3 then
        [Char.ofNat (if facesCased before && !facesCased rest then 0x3C2 else 0x3C3)]
      else lowerChar c
    form ++ lowerFrom (c :: before) rest

/-- The lowercase form of a text. -/
def lower (s : String) : String :=
  .ofList (lowerFrom [] s.toList)

end BucketVhosts.Text
