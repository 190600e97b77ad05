import BucketVhosts.Data.Stop

/-!
# Places in a YAML text

A cursor is a place in a text with its line and column. Lines end with a line feed, U+0085, U+2028
or U+2029; the text has no carriage returns. Past the end there are only NUL characters, which
cannot stand in the text itself.
-/
namespace BucketVhosts.Yaml
open Data (Stop)

/-- A place in a text. -/
structure Cursor where
  rest : List Char
  index : Nat := 0
  line : Nat := 0
  column : Nat := 0
  deriving Repr

/-- Whether a character ends a line. -/
def isBreak (c : Char) : Bool :=
  c = '\n' || c = '\x85' || c = '\u2028' || c = '\u2029'

/-- Whether a character ends a line or the text. -/
def isBreakOrEnd (c : Char) : Bool :=
  isBreak c || c = '\x00'

/-- Whether a character is a space or ends a line or the text. -/
def isSpaceOrEnd (c : Char) : Bool :=
  c = ' ' || isBreakOrEnd c

/-- Whether a character is a space or a tab or ends a line or the text. -/
def isBlankOrEnd (c : Char) : Bool :=
  c = '\t' || isSpaceOrEnd c

/-- Whether a character may stand in a YAML text. -/
def isAllowed (c : Char) : Bool :=
  let n := c.toNat
  n = 0x09 || n = 0x0A || n = 0x0D || (0x20 ≤ n && n ≤ 0x7E) || n = 0x85 ||
    (0xA0 ≤ n && n ≤ 0xFFFD) || 0x10000 ≤ n

namespace Cursor

/-- The character here. -/
def peek (c : Cursor) : Char :=
  c.rest.headD '\x00'

/-- The character some places further. -/
def peekAt (n : Nat) (c : Cursor) : Char :=
  c.rest.getD n '\x00'

/-- The cursor one character further. -/
def step (c : Cursor) : Cursor :=
  match c.rest with
  | [] => c
  | ch :: rest =>
    if isBreak ch then ⟨rest, c.index + 1, c.line + 1, 0⟩
    else ⟨rest, c.index + 1, c.line, if ch = '\uFEFF' then c.column else c.column + 1⟩

/-- The cursor some characters further. -/
def forward : (n : Nat) → Cursor → Cursor
  | 0, c => c
  | n + 1, c => forward n c.step

/-- The characters from here on that satisfy a condition, and the cursor after them. -/
def takeWhile (p : Char → Bool) (c : Cursor) : List Char × Cursor :=
  let taken := c.rest.takeWhile p
  (taken, c.forward taken.length)

/-- The cursor after the characters that satisfy a condition. -/
def skipWhile (p : Char → Bool) (c : Cursor) : Cursor :=
  (c.takeWhile p).2

/-- The cursor after spaces. -/
def skipSpaces (c : Cursor) : Cursor :=
  c.skipWhile (· = ' ')

/-- The cursor after a comment that starts here. -/
def skipComment (c : Cursor) : Cursor :=
  if c.peek = '#' then c.skipWhile fun ch => !isBreakOrEnd ch else c

/-- What the line end here reads as, nothing if there is none, and the cursor after it. -/
def lineBreak (c : Cursor) : List Char × Cursor :=
  let ch := c.peek
  if ch = '\n' || ch = '\x85' then (['\n'], c.step)
  else if isBreak ch then ([ch], c.step)
  else ([], c)

/-- Whether one of the marks between documents stands here, whatever the column. -/
def atDocumentMark (c : Cursor) : Bool :=
  ("---".toList.isPrefixOf c.rest || "...".toList.isPrefixOf c.rest) && isBlankOrEnd (c.peekAt 3)

/-- Goes to the end of a line on which only a comment may still stand, and past it. -/
def restOfLine (c : Cursor) : Except Stop Cursor :=
  let c := c.skipSpaces.skipComment
  if isBreakOrEnd c.peek then .ok c.lineBreak.2 else .error .invalid

end Cursor
end BucketVhosts.Yaml
