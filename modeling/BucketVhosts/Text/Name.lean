import BucketVhosts.Text.Lowercase
import BucketVhosts.Text.NameData

/-!
# Names

A name starts with a letter or `_` and goes on with letters, digits, marks and `_`, of any script.
A word is cut out of a text by a wider rule, so that a word need not be a name.
-/
namespace BucketVhosts.Text

/-- Whether a name can start with the character. -/
def isNameStart (c : Char) : Bool :=
  if c.toNat < 0x80 then c.isAlpha || c = '_' else inRanges nameStartRuns c.toNat

/-- Whether a name can go on with the character. -/
def isNameChar (c : Char) : Bool :=
  isNameStart c || c.isDigit || inRanges nameInnerRuns c.toNat

/-- Whether the character is part of a word. -/
def isWordChar (c : Char) : Bool :=
  isNameChar c || inRanges strayNumberRuns c.toNat

/-- Whether a word is a name. -/
def isName : List Char → Bool
  | [] => false
  | c :: rest => isNameStart c && rest.all isNameChar

end BucketVhosts.Text
