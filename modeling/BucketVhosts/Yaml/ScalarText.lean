import BucketVhosts.Yaml.Token

/-!
# The text of YAML scalars

Plain scalars end where something else could start; quoted scalars end at their quote; block
scalars end where the indentation does. In all of them a single line end reads as a space where
lines are folded, and empty lines read as line feeds.
-/
namespace BucketVhosts.Yaml
open Data (Stop)

/-! ## Plain scalars -/

/-- The line ends from here on, with spaces between them dropped. Nothing is given if a mark
between documents stands after one of them. -/
def plainBreaks : (fuel : Nat) → Cursor → Option (List Char) × Cursor
  | 0, c => (some [], c)
  | fuel + 1, c =>
    if c.peek = ' ' then plainBreaks fuel c.step
    else if isBreak c.peek then
      let (chars, c) := c.lineBreak
      if c.atDocumentMark then (none, c)
      else
        let (rest, c) := plainBreaks fuel c
        (rest.map (chars ++ ·), c)
    else (some [], c)

/-- What is between two words of a plain scalar, whether a line ended there, and the cursor after
it. Nothing is given if the scalar ends here. -/
def plainSpaces (c : Cursor) : List Char × Bool × Cursor :=
  let (spaces, c) := c.takeWhile (· = ' ')
  if isBreak c.peek then
    let (first, c) := c.lineBreak
    if c.atDocumentMark then ([], true, c)
    else
      let (breaks, c) := plainBreaks c.rest.length c
      match breaks with
      | none => ([], true, c)
      | some breaks =>
        let fold := if first ≠ ['\n'] then first else if breaks.isEmpty then [' '] else []
        (fold ++ breaks, true, c)
  else (spaces, false, c)

/-- Whether a plain scalar ends before the first of these characters. -/
def endsPlain (inFlow : Bool) : List Char → Bool
  | [] => true
  | ch :: rest =>
    isBlankOrEnd ch ||
      (ch = ':' &&
        let next := rest.headD '\x00'
        isBlankOrEnd next || (inFlow && ",[]\x7b\x7d".toList.contains next)) ||
      (inFlow && ",?[]\x7b\x7d".toList.contains ch)

/-- The characters up to the end of a word of a plain scalar. -/
def plainWord (inFlow : Bool) : List Char → List Char
  | [] => []
  | ch :: rest => if endsPlain inFlow (ch :: rest) then [] else ch :: plainWord inFlow rest

/-- A plain scalar after the characters in `gap`, whether a key may come next (`allowKey` before
the first word), and the cursor after it. `indent` is the least column of its lines outside of
flow collections. -/
def plainFrom (inFlow : Bool) (indent : Int) :
    (fuel : Nat) → (gap : List Char) → (allowKey : Bool) → Cursor → List Char × Bool × Cursor
  | 0, _, allowKey, c => ([], allowKey, c)
  | fuel + 1, gap, allowKey, c =>
    let word := if c.peek = '#' then [] else plainWord inFlow c.rest
    if word.isEmpty then ([], allowKey, c)
    else
      let c := c.forward word.length
      let (spaces, lineEnded, c) := plainSpaces c
      if spaces.isEmpty || c.peek = '#' || (!inFlow && (c.column : Int) < indent) then
        (gap ++ word, lineEnded, c)
      else
        let (more, allowKey, c) := plainFrom inFlow indent fuel spaces lineEnded c
        (gap ++ word ++ more, allowKey, c)

/-! ## Quoted scalars -/

/-- The character of an escape. -/
def escape? : Char → Option Char
  | '0' => some '\x00'
  | 'a' => some '\x07'
  | 'b' => some '\x08'
  | 't' | '\t' => some '\t'
  | 'n' => some '\n'
  | 'v' => some '\x0b'
  | 'f' => some '\x0c'
  | 'r' => some '\r'
  | 'e' => some '\x1b'
  | ' ' => some ' '
  | '"' => some '"'
  | '\\' => some '\\'
  | '/' => some '/'
  | 'N' => some '\x85'
  | '_' => some '\xa0'
  | 'L' => some '\u2028'
  | 'P' => some '\u2029'
  | _ => none

/-- The number of digits of an escape by code point. -/
def escapeWidth? : Char → Option Nat
  | 'x' => some 2
  | 'u' => some 4
  | 'U' => some 8
  | _ => none

/-- What a code point is in a text. -/
def charOf (n : Nat) : Except Stop Char :=
  if n < 0x110000 then .ok (Text.ofCode n)
  else if n < twoTo 31 then .error (.fault (.value .notCodePoint))
  else .error (.fault .overflow)

/-- The line ends in a quoted scalar from here on, with white space between them dropped. -/
def quotedBreaks : (fuel : Nat) → Cursor → Except Stop (List Char × Cursor)
  | 0, c => .ok ([], c)
  | fuel + 1, c =>
    if c.atDocumentMark then .error .invalid
    else
      let c := c.skipWhile fun ch => ch = ' ' || ch = '\t'
      if isBreak c.peek then do
        let (chars, c) := c.lineBreak
        let (rest, c) ← quotedBreaks fuel c
        .ok (chars ++ rest, c)
      else .ok ([], c)

/-- White space in a quoted scalar: kept within a line, folded around line ends. -/
def quotedSpaces (c : Cursor) : Except Stop (List Char × Cursor) :=
  let (spaces, c) := c.takeWhile fun ch => ch = ' ' || ch = '\t'
  if c.peek = '\x00' then .error .invalid
  else if isBreak c.peek then do
    let (first, c) := c.lineBreak
    let (breaks, c) ← quotedBreaks (c.rest.length + 1) c
    let fold := if first ≠ ['\n'] then first else if breaks.isEmpty then [' '] else []
    .ok (fold ++ breaks, c)
  else .ok (spaces, c)

/-- What an escape after its backslash stands for. An escaped line end joins two lines. -/
def quotedEscape (c : Cursor) : Except Stop (List Char × Cursor) :=
  match escape? c.peek with
  | some e => .ok ([e], c.step)
  | none =>
    match escapeWidth? c.peek with
    | some width =>
      let digits := c.step.rest.take width
      if digits.length = width && digits.all Text.isHexDigit then do
        let char ← charOf ((Integer.ofDigits? 16 digits).getD 0)
        .ok ([char], c.forward (width + 1))
      else .error .invalid
    | none =>
      if isBreak c.peek then do
        let c := c.lineBreak.2
        let (breaks, c) ← quotedBreaks (c.rest.length + 1) c
        .ok (breaks, c)
      else .error .invalid

/-- A quoted scalar from after its opening quote on, and the cursor after its closing one. -/
def quotedFrom (double : Bool) : (fuel : Nat) → Cursor → Except Stop (List Char × Cursor)
  | 0, _ => .error .invalid
  | fuel + 1, c => do
    let ch := c.peek
    if isBlankOrEnd ch then
      let (chars, c) ← quotedSpaces c
      let (rest, c) ← quotedFrom double fuel c
      .ok (chars ++ rest, c)
    else if !double && ch = '\'' then
      if c.peekAt 1 = '\'' then
        let (rest, c) ← quotedFrom double fuel (c.forward 2)
        .ok ('\'' :: rest, c)
      else .ok ([], c.step)
    else if double && ch = '"' then .ok ([], c.step)
    else if double && ch = '\\' then
      let (chars, c) ← quotedEscape c.step
      let (rest, c) ← quotedFrom double fuel c
      .ok (chars ++ rest, c)
    else
      let (rest, c) ← quotedFrom double fuel c.step
      .ok (ch :: rest, c)

/-! ## Block scalars -/

/-- What becomes of the line ends at the end of a block scalar. -/
inductive Chomping where
  | strip
  | clip
  | keep
  deriving DecidableEq, Repr

/-- The chomping that a sign stands for. -/
def Chomping.ofSign? : Char → Option Chomping
  | '+' => some .keep
  | '-' => some .strip
  | _ => none

/-- The indentation that a digit stands for. Zero is none. -/
def takeIncrement (c : Cursor) : Except Stop (Option Nat × Cursor) :=
  if c.peek.isDigit then
    let n := c.peek.toNat - '0'.toNat
    if n = 0 then .error .invalid else .ok (some n, c.step)
  else .ok (none, c)

/-- The signs after the mark of a block scalar, in either order. -/
def blockHeader (c : Cursor) : Except Stop (Chomping × Option Nat × Cursor) := do
  let (chomping, increment, c) ←
    match Chomping.ofSign? c.peek with
    | some chomping => do
      let (increment, c) ← takeIncrement c.step
      pure (chomping, increment, c)
    | none => do
      let (increment, c) ← takeIncrement c
      match increment, Chomping.ofSign? c.peek with
      | some _, some chomping => pure (chomping, increment, c.step)
      | _, _ => pure (Chomping.clip, increment, c)
  if isSpaceOrEnd c.peek then
    let c ← c.restOfLine
    .ok (chomping, increment, c)
  else .error .invalid

/-- The empty lines from here on and the greatest column that is reached on one of them. -/
def blockIndentation : (fuel : Nat) → (widest : Nat) → Cursor → List Char × Nat × Cursor
  | 0, widest, c => ([], widest, c)
  | fuel + 1, widest, c =>
    if c.peek = ' ' then
      let c := c.step
      blockIndentation fuel (max widest c.column) c
    else if isBreak c.peek then
      let (chars, c) := c.lineBreak
      let (rest, widest, c) := blockIndentation fuel widest c
      (chars ++ rest, widest, c)
    else ([], widest, c)

/-- Goes over spaces, but not beyond a column. -/
def skipIndent (indent : Nat) (c : Cursor) : Cursor :=
  c.forward ((c.rest.takeWhile (· = ' ')).take (indent - c.column)).length

/-- The empty lines from here on, and the cursor at the next line's text. -/
def blockBreaks (indent : Nat) : (fuel : Nat) → Cursor → List Char × Cursor
  | 0, c => ([], c)
  | fuel + 1, c =>
    let c := skipIndent indent c
    if isBreak c.peek then
      let (chars, c) := c.lineBreak
      let (rest, c) := blockBreaks indent fuel c
      (chars ++ rest, c)
    else ([], c)

/-- The lines of a block scalar from here on, after the line ends in `breaks`. -/
def blockLines (folded : Bool) (chomping : Chomping) (indent : Nat) :
    (fuel : Nat) → (breaks : List Char) → Cursor → List Char × Cursor
  | 0, _, c => ([], c)
  | fuel + 1, breaks, c =>
    let isText (c : Cursor) : Bool := c.column = indent && c.peek ≠ '\x00'
    let isIndented (c : Cursor) : Bool := c.peek = ' ' || c.peek = '\t'
    if !isText c then ([], c)
    else
      let startsIndented := isIndented c
      let (line, c) := c.takeWhile fun ch => !isBreakOrEnd ch
      let (ending, c) := c.lineBreak
      let (after, c) := blockBreaks indent (c.rest.length + 1) c
      if isText c then
        let fold :=
          if folded && ending = ['\n'] && !startsIndented && !isIndented c then
            if after.isEmpty then [' '] else []
          else ending
        let (rest, c) := blockLines folded chomping indent fuel after c
        (breaks ++ line ++ fold ++ rest, c)
      else
        let tail := match chomping with
          | .strip => []
          | .clip => ending
          | .keep => ending ++ after
        (breaks ++ line ++ tail, c)

/-- A block scalar from after its mark on. `parent` is the indentation of the block around it. -/
def blockScalar (folded : Bool) (parent : Int) (c : Cursor) :
    Except Stop (List Char × Cursor) := do
  let (chomping, increment, c) ← blockHeader c
  let least := (max (parent + 1) 1).toNat
  let fuel := c.rest.length + 1
  let (breaks, indent, c) :=
    match increment with
    | none =>
      let (breaks, widest, c) := blockIndentation fuel 0 c
      (breaks, max least widest, c)
    | some n =>
      let indent := least + n - 1
      let (breaks, c) := blockBreaks indent fuel c
      (breaks, indent, c)
  if c.column = indent && c.peek ≠ '\x00' then
    .ok (blockLines folded chomping indent fuel breaks c)
  else .ok (if chomping = .keep then breaks else [], c)

end BucketVhosts.Yaml
