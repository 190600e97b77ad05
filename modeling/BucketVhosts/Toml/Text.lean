import BucketVhosts.Data.Stop

/-!
# TOML strings

A string stands between quotes, on one line between one quote each and on several between three.
Between double quotes a backslash starts an escape; between single quotes every character stands
for itself.
-/
namespace BucketVhosts.Toml
open Data (Stop)

/-- Whether a character is white space within a line. -/
def isSpace (c : Char) : Bool :=
  c = ' ' || c = '\t'

/-- Whether a character is white space or ends a line. -/
def isSpaceOrBreak (c : Char) : Bool :=
  isSpace c || c = '\n'

/-- Whether a character is a control character other than a tab. -/
def isControl (c : Char) : Bool :=
  (c.toNat < 0x20 && c ≠ '\t') || c.toNat = 0x7F

/-- Whether a character may not stand in a string. Strings of several lines may hold line feeds. -/
def isForbidden (multiline : Bool) (c : Char) : Bool :=
  isControl c && !(multiline && c = '\n')

/-- Drops white space within a line. -/
def skipSpaces (cs : List Char) : List Char :=
  cs.dropWhile isSpace

/-- Whether a text starts with another one. -/
def startsWith (s : String) (cs : List Char) : Bool :=
  s.toList.isPrefixOf cs

/-- Drops a comment, which may hold no control characters. -/
def skipComment (cs : List Char) : Except Stop (List Char) :=
  match cs with
  | '#' :: rest =>
    if (rest.takeWhile (· ≠ '\n')).any isControl then .error .invalid
    else .ok (rest.dropWhile (· ≠ '\n'))
  | cs => .ok cs

/-- The character of an escape letter. -/
def escape? : Char → Option Char
  | 'b' => some '\x08'
  | 't' => some '\t'
  | 'n' => some '\n'
  | 'f' => some '\x0c'
  | 'r' => some '\r'
  | '"' => some '"'
  | '\\' => some '\\'
  | _ => none

/-- The character whose code point hexadecimal digits spell. -/
def readCodePoint (width : Nat) (cs : List Char) : Except Stop (List Char × List Char) :=
  let digits := cs.take width
  let n := (Integer.ofDigits? 16 digits).getD 0
  if digits.length = width && digits.all Text.isHexDigit && n.isValidChar then
    .ok ([Char.ofNat n], cs.drop width)
  else .error .invalid

/-- The characters that an escape after its backslash stands for. In a string of several lines an
escaped line end stands for nothing, together with the white space and line ends after it. -/
def readEscape (multiline : Bool) : List Char → Except Stop (List Char × List Char)
  | [] => .error .invalid
  | c :: rest =>
    if multiline && isSpaceOrBreak c then
      match skipSpaces (c :: rest) with
      | [] => .ok ([], [])
      | '\n' :: rest => .ok ([], rest.dropWhile isSpaceOrBreak)
      | _ => .error .invalid
    else if c = 'u' then readCodePoint 4 rest
    else if c = 'U' then readCodePoint 8 rest
    else
      match escape? c with
      | some e => .ok ([e], rest)
      | none => .error .invalid

/-- A string between double quotes, from after the opening ones on. -/
def readBasic (multiline : Bool) : (fuel : Nat) → List Char → Except Stop (List Char × List Char)
  | 0, _ => .error .invalid
  | fuel + 1, cs =>
    match cs with
    | [] => .error .invalid
    | '\\' :: rest => do
      let (chars, rest) ← readEscape multiline rest
      let (more, rest) ← readBasic multiline fuel rest
      .ok (chars ++ more, rest)
    | c :: rest =>
      if c = '"' && !multiline then .ok ([], rest)
      else if c = '"' && startsWith "\"\"" rest then .ok ([], rest.drop 2)
      else if isForbidden multiline c then .error .invalid
      else do
        let (more, rest) ← readBasic multiline fuel rest
        .ok (c :: more, rest)

/-- A string between single quotes, from after the opening ones on. -/
def readLiteral (multiline : Bool) : List Char → Except Stop (List Char × List Char)
  | [] => .error .invalid
  | c :: rest =>
    if c = '\'' && (!multiline || startsWith "''" rest) then
      .ok ([], if multiline then rest.drop 2 else rest)
    else if isForbidden multiline c then .error .invalid
    else do
      let (more, rest) ← readLiteral multiline rest
      .ok (c :: more, rest)

/-- Up to two more quotes that belong to the string before the closing ones. -/
def takeExtraQuotes (quote : Char) (cs : List Char) : List Char × List Char :=
  let extra := (cs.take 2).takeWhile (· = quote)
  (extra, cs.drop extra.length)

/-- A string of several lines, from after its opening quotes on. A line end right after them does
not count. -/
def readMultiline (quote : Char) (cs : List Char) : Except Stop (String × List Char) := do
  let cs := match cs with
    | '\n' :: rest => rest
    | cs => cs
  let (chars, rest) ←
    if quote = '"' then readBasic true (cs.length + 1) cs else readLiteral true cs
  let (extra, rest) := takeExtraQuotes quote rest
  .ok (.ofList (chars ++ extra), rest)

/-- A string on one line, from after its opening quote on. -/
def readOneLine (quote : Char) (cs : List Char) : Except Stop (String × List Char) := do
  let (chars, rest) ←
    if quote = '"' then readBasic false (cs.length + 1) cs else readLiteral false cs
  .ok (.ofList chars, rest)

end BucketVhosts.Toml
