/-!
# Halves of surrogate pairs

An escape in a document can name half of a surrogate pair. A half is no character and has no form
in UTF-8, but a text may hold it, and messages name it by its code point. In a text the character
`halfOffset` code points further on, which is for private use, stands for it. So texts that hold
one of these characters, U+10D800 to U+10DFFF, themselves cannot be told from texts with halves:
they are outside of what is said here, and count as texts with halves.
-/
namespace BucketVhosts.Text

/-- How far the character that stands for a half is from it. -/
def halfOffset : Nat := 0x100000

/-- Whether a code point is half of a surrogate pair. -/
def isHalfCode (n : Nat) : Bool :=
  0xD800 ≤ n && n < 0xE000

/-- The character that stands for a half. -/
def halfChar (n : Nat) : Char :=
  Char.ofNat (n + halfOffset)

/-- The character of a code point. -/
def ofCode (n : Nat) : Char :=
  if isHalfCode n then halfChar n else Char.ofNat n

/-- Whether a character stands for a half. -/
def isHalf (c : Char) : Bool :=
  isHalfCode (c.toNat - halfOffset)

/-- The code point that a character of a text stands for. -/
def code (c : Char) : Nat :=
  if isHalf c then c.toNat - halfOffset else c.toNat

/-- Whether a text holds a half, so that it has no form in UTF-8. -/
def hasHalf (s : String) : Bool :=
  s.toList.any isHalf

/-- The characters that show one of a text where only UTF-8 will do: a half is shown by a
replacement for each of the three bytes it would take. -/
def replaceHalf (c : Char) : List Char :=
  if isHalf c then List.replicate 3 '\ufffd' else [c]

/-- The text with its halves replaced. -/
def replaceHalves (s : String) : String :=
  .ofList (s.toList.flatMap replaceHalf)

end BucketVhosts.Text
