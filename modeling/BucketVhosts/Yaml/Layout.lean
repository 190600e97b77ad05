import BucketVhosts.Yaml.ScalarText
import BucketVhosts.Yaml.Tag

/-!
# The tokens of a YAML text

Tokens are read from left to right. Outside of flow collections the column of a token decides how
many blocks end before it and whether one starts. That a token is a key is known only at the colon
after it, so the place of what may be a key is remembered, and the key's own token is put there
when the colon comes. A key that needs no mark of its own is on one line and at most 1024
characters long.
-/
namespace BucketVhosts.Yaml
open Data (Stop)

/-- What may turn out to be a key. -/
structure PossibleKey where
  /-- The depth of flow collections around it. -/
  depth : Nat
  /-- How many tokens come before it. -/
  place : Nat
  /-- Whether nothing but a key can stand there. -/
  isRequired : Bool
  index : Nat
  line : Nat
  column : Nat
  deriving Repr

/-- What has been read of a text. -/
structure Layout where
  cursor : Cursor
  tokens : Array Token := #[]
  /-- The depth of flow collections. -/
  depth : Nat := 0
  /-- The column of the current block. -/
  indent : Int := -1
  /-- The columns of the blocks around it, innermost first. -/
  outer : List Int := []
  /-- Whether a key may start here. -/
  allowKey : Bool := true
  keys : List PossibleKey := []

namespace Layout

/-- The most characters between the start of a key and its colon. -/
def maxKeyLength : Nat := 1024

/-- Adds a token. -/
def push (token : Token) (s : Layout) : Layout :=
  { s with tokens := s.tokens.push token }

/-- Puts a token at a place. -/
def insert (place : Nat) (token : Token) (s : Layout) : Layout :=
  { s with tokens := s.tokens.insertIdxIfInBounds place token }

/-- Goes some characters on. -/
def forward (n : Nat) (s : Layout) : Layout :=
  { s with cursor := s.cursor.forward n }

/-- The column here. -/
def column (s : Layout) : Int := s.cursor.column

/-- Goes over white space, comments and line ends. A line end allows a key. -/
def skipToToken : (fuel : Nat) → Layout → Layout
  | 0, s => s
  | fuel + 1, s =>
    let c := s.cursor.skipSpaces.skipComment
    if isBreak c.peek then
      skipToToken fuel
        { s with cursor := c.lineBreak.2, allowKey := s.allowKey || s.depth = 0 }
    else { s with cursor := c }

/-- Whether a possible key is on an earlier line or too far back. -/
def isStale (s : Layout) (k : PossibleKey) : Bool :=
  k.line ≠ s.cursor.line || maxKeyLength < s.cursor.index - k.index

/-- Forgets possible keys that are on an earlier line or too far back. -/
def dropStaleKeys (s : Layout) : Except Stop Layout :=
  if s.keys.any fun k => s.isStale k && k.isRequired then .error .invalid
  else .ok { s with keys := s.keys.filter fun k => !s.isStale k }

/-- Forgets the possible key at the current depth. -/
def dropKey (s : Layout) : Except Stop Layout :=
  if s.keys.any fun k => k.depth = s.depth && k.isRequired then .error .invalid
  else .ok { s with keys := s.keys.filter fun k => k.depth ≠ s.depth }

/-- Remembers that the next token may be a key. -/
def saveKey (s : Layout) : Except Stop Layout :=
  if s.allowKey then do
    let s ← s.dropKey
    .ok { s with keys := s.keys ++
      [{ depth := s.depth, place := s.tokens.size,
         isRequired := s.depth = 0 && s.indent = s.column,
         index := s.cursor.index, line := s.cursor.line, column := s.cursor.column }] }
  else .ok s

/-- Ends the blocks that are further in than a column. -/
def unwindTo (column : Int) : (outer : List Int) → Layout → Layout
  | [], s => s
  | next :: outer, s =>
    if column < s.indent then
      unwindTo column outer ({ s with indent := next, outer }.push .blockEnd)
    else s

/-- Ends the blocks that are further in than a column, unless a flow collection is open. -/
def unwind (column : Int) (s : Layout) : Layout :=
  if s.depth = 0 then unwindTo column s.outer s else s

/-- Starts a block at a column that is further in; whether it did. -/
def indentTo (column : Int) (s : Layout) : Bool × Layout :=
  if s.indent < column then (true, { s with outer := s.indent :: s.outer, indent := column })
  else (false, s)

/-- Starts a block at the current column if that is further in. -/
def openBlock (token : Token) (s : Layout) : Layout :=
  match s.indentTo s.column with
  | (true, s) => s.push token
  | (false, s) => s

/-- Ends all blocks before a mark or directive in the first column. -/
def closeAll (s : Layout) : Except Stop Layout := do
  let s ← (s.unwind (-1)).dropKey
  .ok { s with allowKey := false }

/-- Reads a mark between documents. -/
def readDocumentMark (token : Token) (s : Layout) : Except Stop Layout := do
  let s ← s.closeAll
  .ok ((s.forward 3).push token)

/-- Reads the start of a flow collection. -/
def readFlowStart (token : Token) (s : Layout) : Except Stop Layout := do
  let s ← s.saveKey
  .ok (({ s with depth := s.depth + 1, allowKey := true }.forward 1).push token)

/-- Reads the end of a flow collection, of which one must be open. -/
def readFlowEnd (token : Token) (s : Layout) : Except Stop Layout := do
  let s ← s.dropKey
  if s.depth = 0 then .error .invalid
  else .ok (({ s with depth := s.depth - 1, allowKey := false }.forward 1).push token)

/-- Reads a comma between the entries of a flow collection. -/
def readFlowEntry (s : Layout) : Except Stop Layout := do
  let s ← ({ s with allowKey := true } : Layout).dropKey
  .ok ((s.forward 1).push .flowEntry)

/-- Reads the dash of an entry of a block sequence. -/
def readBlockEntry (s : Layout) : Except Stop Layout := do
  if s.depth = 0 && !s.allowKey then .error .invalid
  else
    let s := if s.depth = 0 then s.openBlock .blockSequenceStart else s
    let s ← ({ s with allowKey := true } : Layout).dropKey
    .ok ((s.forward 1).push .blockEntry)

/-- Reads the question mark of a key. -/
def readKey (s : Layout) : Except Stop Layout := do
  if s.depth = 0 && !s.allowKey then .error .invalid
  else
    let s := if s.depth = 0 then s.openBlock .blockMappingStart else s
    let s ← ({ s with allowKey := s.depth = 0 } : Layout).dropKey
    .ok ((s.forward 1).push .key)

/-- Reads the colon before a value, which makes a key of what may be one. -/
def readValue (s : Layout) : Except Stop Layout := do
  match s.keys.find? fun k => k.depth = s.depth with
  | some key =>
    let s := { s with keys := s.keys.filter fun k => k.depth ≠ s.depth }
    let s := s.insert key.place .key
    let s :=
      if s.depth = 0 then
        match s.indentTo key.column with
        | (true, s) => s.insert key.place .blockMappingStart
        | (false, s) => s
      else s
    .ok (({ s with allowKey := false }.forward 1).push .value)
  | none =>
    if s.depth = 0 && !s.allowKey then .error .invalid
    else
      let s := if s.depth = 0 then s.openBlock .blockMappingStart else s
      let s ← ({ s with allowKey := s.depth = 0 } : Layout).dropKey
      .ok ((s.forward 1).push .value)

/-- Reads a token that may be a key and after which none can start. -/
def readPossibleKey (read : Cursor → Except Stop (Token × Cursor)) (s : Layout) :
    Except Stop Layout := do
  let s ← s.saveKey
  let (token, cursor) ← read s.cursor
  .ok ({ s with cursor, allowKey := false }.push token)

/-- Reads a block scalar, after which a key can start. -/
def readBlockScalar (folded : Bool) (s : Layout) : Except Stop Layout := do
  let s ← ({ s with allowKey := true } : Layout).dropKey
  let (chars, cursor) ← blockScalar folded s.indent s.cursor.step
  .ok ({ s with cursor }.push (.scalar (.ofList chars) false))

/-- Reads a quoted scalar. -/
def readQuoted (double : Bool) (c : Cursor) : Except Stop (Token × Cursor) := do
  let (chars, c) ← quotedFrom double (c.rest.length + 1) c.step
  .ok (.scalar (.ofList chars) false, c)

/-- Reads a plain scalar, after which a key can start if a line ended. -/
def readPlain (s : Layout) : Except Stop Layout := do
  let s ← s.saveKey
  let c := s.cursor
  let (chars, allowKey, cursor) :=
    plainFrom (0 < s.depth) (s.indent + 1) (c.rest.length + 1) [] false c
  .ok ({ s with cursor, allowKey }.push (.scalar (.ofList chars) true))

/-- Whether a plain scalar starts here. -/
def startsPlain (s : Layout) : Bool :=
  let ch := s.cursor.peek
  !(isBlankOrEnd ch || "-?:,[]\x7b\x7d#&*!|>'\"%@`".toList.contains ch) ||
    (!isBlankOrEnd (s.cursor.peekAt 1) &&
      (ch = '-' || (s.depth = 0 && (ch = '?' || ch = ':'))))

/-- Whether the mark between documents that starts with this character is here. -/
def atMark (ch : Char) (s : Layout) : Bool :=
  s.cursor.column = 0 && s.cursor.peek = ch && s.cursor.atDocumentMark

/-- Reads the next token or tokens. -/
def readNext (s : Layout) : Except Stop Layout := do
  let c := s.cursor
  let ch := c.peek
  let isSeparated := isBlankOrEnd (c.peekAt 1)
  if ch = '%' && c.column = 0 then
    let s ← s.closeAll
    let (directive, cursor) ← readDirective s.cursor
    .ok ({ s with cursor }.push (.directive directive))
  else if s.atMark '-' then s.readDocumentMark .documentStart
  else if s.atMark '.' then s.readDocumentMark .documentEnd
  else if ch = '[' then s.readFlowStart .flowSequenceStart
  else if ch = '\x7b' then s.readFlowStart .flowMappingStart
  else if ch = ']' then s.readFlowEnd .flowSequenceEnd
  else if ch = '\x7d' then s.readFlowEnd .flowMappingEnd
  else if ch = ',' then s.readFlowEntry
  else if ch = '-' && isSeparated then s.readBlockEntry
  else if ch = '?' && (0 < s.depth || isSeparated) then s.readKey
  else if ch = ':' && (0 < s.depth || isSeparated) then s.readValue
  else if ch = '*' then
    s.readPossibleKey fun c => do
      let (name, c) ← readAnchor c
      .ok (.alias name, c)
  else if ch = '&' then
    s.readPossibleKey fun c => do
      let (name, c) ← readAnchor c
      .ok (.anchor name, c)
  else if ch = '!' then
    s.readPossibleKey fun c => do
      let (name, c) ← readTag c
      .ok (.tag name, c)
  else if ch = '|' && s.depth = 0 then s.readBlockScalar false
  else if ch = '>' && s.depth = 0 then s.readBlockScalar true
  else if ch = '\'' then s.readPossibleKey (readQuoted false)
  else if ch = '"' then s.readPossibleKey (readQuoted true)
  else if s.startsPlain then s.readPlain
  else .error .invalid

/-- Reads the end of the text. -/
def readEnd (s : Layout) : Except Stop Layout := do
  let s ← (s.unwind (-1)).dropKey
  .ok (s.push .streamEnd)

/-- Stops reading. Tokens from the first possible key on are not known yet, because a token of its
own may have to come before it. -/
def stop (reason : Stop) (s : Layout) : Layout :=
  let pending := s.keys.filter fun k => !s.isStale k
  let known := (pending.map PossibleKey.place).foldl min s.tokens.size
  { s with tokens := s.tokens.extract 0 known }.push (.stop reason)

/-- Reads on to the next token or tokens, the last of which is the end of the text. -/
def readStep (s : Layout) : Except Stop Layout := do
  let s ← (s.skipToToken (s.cursor.rest.length + 1)).dropStaleKeys
  let s := s.unwind s.column
  if s.cursor.rest.isEmpty then s.readEnd else s.readNext

/-- Reads all tokens from here on. If reading stops early the last token says why. -/
def readAll : (fuel : Nat) → Layout → Layout
  | 0, s => s.stop .invalid
  | fuel + 1, s =>
    match s.readStep with
    | .error reason => s.stop reason
    | .ok next => if next.tokens.back? = some .streamEnd then next else readAll fuel next

end Layout

/-- The tokens of a text whose lines end with line feeds. A byte order mark at the very start is
passed over. -/
def tokens (text : List Char) : List Token :=
  if text.all isAllowed then
    let start : Cursor := { rest := text }
    let start := if start.peek = '\uFEFF' then start.step else start
    (Layout.readAll (text.length + 2) { cursor := start }).tokens.toList
  else [.stop .invalid]

end BucketVhosts.Yaml
