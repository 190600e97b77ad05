import BucketVhosts.Yaml.Token

/-!
# Tags, anchors and directives in a YAML text

A tag is written in full between angle brackets, or as a handle and what follows it. Directives
stand before a document and may give handles another meaning.
-/
namespace BucketVhosts.Yaml
open Data (Stop)

/-- Whether a character may stand in a handle, an anchor or the name of a directive. -/
def isWordChar (c : Char) : Bool :=
  c.isAlphanum || c = '-' || c = '_'

/-- Whether a character may stand in a tag. -/
def isTagChar (c : Char) : Bool :=
  c.isAlphanum || "-;/?:@&=+$,_.!~*'()[]%".toList.contains c

/-- The bytes that escapes from here on stand for, and what follows them. -/
def escapedBytes : (fuel : Nat) → List Char → Except Stop (List UInt8 × List Char)
  | 0, cs => .ok ([], cs)
  | fuel + 1, cs =>
    match cs with
    | '%' :: rest => do
      let digits := rest.take 2
      match digits.length = 2 && digits.all Char.isAlphanum, Integer.ofDigits? 16 digits with
      | true, some n =>
        let (bytes, rest) ← escapedBytes fuel (rest.drop 2)
        .ok (UInt8.ofNat n :: bytes, rest)
      | _, _ => .error .invalid
    | cs => .ok ([], cs)

/-- The characters of a tag from here on, with escapes replaced, and what follows them. -/
def tagChars : (fuel : Nat) → List Char → Except Stop (List Char × List Char)
  | 0, cs => .ok ([], cs)
  | fuel + 1, cs =>
    match cs with
    | [] => .ok ([], [])
    | '%' :: _ => do
      let (bytes, rest) ← escapedBytes cs.length cs
      match String.fromUTF8? ⟨bytes.toArray⟩ with
      | some s => do
        let (chars, rest) ← tagChars fuel rest
        .ok (s.toList ++ chars, rest)
      | none => .error .invalid
    | c :: rest =>
      if isTagChar c then do
        let (chars, rest) ← tagChars fuel rest
        .ok (c :: chars, rest)
      else .ok ([], c :: rest)

/-- The text of a tag from here on, which must not be empty. -/
def tagText (c : Cursor) : Except Stop (String × Cursor) := do
  let (chars, rest) ← tagChars (c.rest.length + 1) c.rest
  if rest.length = c.rest.length then .error .invalid
  else .ok (.ofList chars, c.forward (c.rest.length - rest.length))

/-- The handle here: one exclamation mark alone, or a word between two. -/
def tagHandle (c : Cursor) : Except Stop (String × Cursor) :=
  if c.peek ≠ '!' then .error .invalid
  else if c.peekAt 1 = ' ' then .ok ("!", c.step)
  else
    let (word, after) := c.step.takeWhile isWordChar
    if after.peek = '!' then .ok (.ofList ('!' :: (word ++ ['!'])), after.step)
    else .error .invalid

/-- Whether the characters up to the next space or line end hold an exclamation mark. -/
def hasHandle (cs : List Char) : Bool :=
  (cs.takeWhile fun c => !isSpaceOrEnd c).contains '!'

/-- The tag here. -/
def readTag (c : Cursor) : Except Stop (TagName × Cursor) := do
  let next := c.peekAt 1
  let (name, c) ←
    if next = '<' then do
      let (suffix, c) ← tagText (c.forward 2)
      if c.peek = '>' then pure (⟨none, suffix⟩, c.step) else .error .invalid
    else if isBlankOrEnd next then pure (⟨none, "!"⟩, c.step)
    else if hasHandle c.step.rest then do
      let (handle, c) ← tagHandle c
      let (suffix, c) ← tagText c
      pure (⟨some handle, suffix⟩, c)
    else do
      let (suffix, c) ← tagText c.step
      pure (⟨some "!", suffix⟩, c)
  if isSpaceOrEnd c.peek then .ok (name, c) else .error .invalid

/-- The name of the anchor or alias whose mark is here. -/
def readAnchor (c : Cursor) : Except Stop (String × Cursor) :=
  let (name, c) := c.step.takeWhile isWordChar
  let next := c.peek
  if name.isEmpty then .error .invalid
  else if isBlankOrEnd next || "?:,]\x7d%@`".toList.contains next then .ok (.ofList name, c)
  else .error .invalid

/-- The number here. -/
def readVersionNumber (c : Cursor) : Except Stop (Nat × Cursor) :=
  let (digits, c) := c.takeWhile Char.isDigit
  match Integer.ofDigits? 10 digits with
  | some n => .ok (n, c)
  | none => .error .invalid

/-- The value of a directive of this name. -/
def directiveValue (name : String) (c : Cursor) : Except Stop (Directive × Cursor) := do
  if name = "YAML" then
    let (major, c) ← readVersionNumber c.skipSpaces
    if c.peek ≠ '.' then .error .invalid
    else
      let (_, c) ← readVersionNumber c.step
      if isSpaceOrEnd c.peek then .ok (.version major, c) else .error .invalid
  else if name = "TAG" then
    let (handle, c) ← tagHandle c.skipSpaces
    if c.peek ≠ ' ' then .error .invalid
    else
      let (start, c) ← tagText c.skipSpaces
      if isSpaceOrEnd c.peek then .ok (.tag handle start, c) else .error .invalid
  else .ok (.other, c.skipWhile fun ch => !isBreakOrEnd ch)

/-- The directive here. -/
def readDirective (c : Cursor) : Except Stop (Directive × Cursor) := do
  let (name, c) := c.step.takeWhile isWordChar
  if name.isEmpty || !isSpaceOrEnd c.peek then .error .invalid
  else
    let (directive, c) ← directiveValue (.ofList name) c
    let c ← c.restOfLine
    .ok (directive, c)

end BucketVhosts.Yaml
