import BucketVhosts.Text.Blank
import BucketVhosts.Text.Lowercase

/-!
# Host names

A host name is labels separated by points. The last label is two or more lower case letters; every
other one is groups of lower case letters and digits separated by single hyphens, and there is at
least one such. Names are read from left to right with the shape of the current label as the only
memory. Two names are the same host when their keys are equal.
-/
namespace BucketVhosts.Host

/-- What has been read of the current label. -/
inductive LabelShape where
  | empty
  /-- One letter. -/
  | letter
  /-- Two or more letters. -/
  | letters
  /-- Complete groups with a digit or a hyphen among them. -/
  | groups
  /-- A hyphen was last. -/
  | hyphen
  deriving DecidableEq, Repr

/-- Whether a character is a lower case ASCII letter. -/
def isLetter (c : Char) : Bool := 'a' ≤ c && c ≤ 'z'

/-- Whether a character is an ASCII digit. -/
def isDigit (c : Char) : Bool := '0' ≤ c && c ≤ '9'

/-- The shape of the label after one more character, if the label may go on with it. -/
def LabelShape.next (shape : LabelShape) (c : Char) : Option LabelShape :=
  if isLetter c then
    match shape with
    | .empty => some .letter
    | .letter | .letters => some .letters
    | .groups | .hyphen => some .groups
  else if isDigit c then some .groups
  else if c = '-' then
    match shape with
    | .empty | .hyphen => none
    | .letter | .letters | .groups => some .hyphen
  else none

/-- Whether a label may end here. -/
def LabelShape.isComplete : LabelShape → Bool
  | .letter | .letters | .groups => true
  | .empty | .hyphen => false

/-- Whether the rest of a name completes it, given the shape of the current label and whether a
label came before it. -/
def completesName (shape : LabelShape) (dotted : Bool) : List Char → Bool
  | [] => dotted && shape = .letters
  | c :: rest =>
    if c = '.' then shape.isComplete && completesName .empty true rest
    else
      match shape.next c with
      | some shape => completesName shape dotted rest
      | none => false

/-- Whether a text is a host name. -/
def isName (s : String) : Bool :=
  completesName .empty false s.toList

/-- What two writings of one host have in common: the lowercase form without surrounding white
space. -/
def key (s : String) : String :=
  Text.lower (Text.trim s)

end BucketVhosts.Host
