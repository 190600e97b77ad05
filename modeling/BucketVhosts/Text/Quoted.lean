import BucketVhosts.Text.Half
import BucketVhosts.Text.Printable

/-!
# Quoted text in messages

Messages show a text between quotes so that its ends and its invisible characters can be seen. The
quotes are single, or double when the text holds a single quote and no double one. A backslash and
the chosen quote are escaped by a backslash, line feed, carriage return and tab have letters, and
any other character that is not printable is written by its code point in the shortest of the
three widths that fit.
-/
namespace BucketVhosts.Text

/-- The low `width` hexadecimal digits of `n`, in lower case. -/
def hexDigits : (width : Nat) → (n : Nat) → List Char
  | 0, _ => []
  | width + 1, n => hexDigits width (n / 16) ++ [Nat.digitChar (n % 16)]

/-- The quote to use around a text. -/
def quoteMark (cs : List Char) : Char :=
  if cs.contains '\'' && !cs.contains '"' then '"' else '\''

/-- A code point in hexadecimal, in the shortest of the three widths that fit. -/
def escapeCode (n : Nat) : List Char :=
  if n < 0x100 then '\\' :: 'x' :: hexDigits 2 n
  else if n < 0x10000 then '\\' :: 'u' :: hexDigits 4 n
  else '\\' :: 'U' :: hexDigits 8 n

/-- A character as it is written between the quotes `mark`. -/
def quoteChar (mark c : Char) : List Char :=
  if c = '\\' || c = mark then ['\\', c]
  else if c = '\n' then ['\\', 'n']
  else if c = '\r' then ['\\', 'r']
  else if c = '\t' then ['\\', 't']
  else if isPrintable c then [c]
  else escapeCode (code c)

/-- A text between quotes, with its quotes, backslashes and unprintable characters escaped. -/
def quote (s : String) : String :=
  let cs := s.toList
  let mark := quoteMark cs
  .ofList (mark :: (cs.flatMap (quoteChar mark) ++ [mark]))

/-- A byte as it is written between the quotes `mark`: ASCII as in text, the rest in hexadecimal. -/
def quoteByte (mark : Char) (b : UInt8) : List Char :=
  if b.toNat < 0x7F then quoteChar mark (Char.ofNat b.toNat)
  else '\\' :: 'x' :: hexDigits 2 b.toNat

/-- Bytes between quotes, marked by a leading `b`. -/
def quoteBytes (bytes : List UInt8) : String :=
  let mark := quoteMark (bytes.map fun b => Char.ofNat b.toNat)
  .ofList ('b' :: mark :: (bytes.flatMap (quoteByte mark) ++ [mark]))

end BucketVhosts.Text
