import BucketVhosts.Limits
import BucketVhosts.Toml.Scalar

/-!
# TOML documents

A document is a list of statements: a key with its value, a table to go on with, or an array of
tables to add one to. A table is described in one place only: it is declared once, what a dotted
key has made is not declared later, and arrays and tables written as values take nothing more.
-/
namespace BucketVhosts.Toml
open Data

/-! ## Keys -/

/-- Whether a character may stand in a key without quotes. -/
def isKeyChar (c : Char) : Bool :=
  c.isAlphanum || c = '-' || c = '_'

/-- One part of a dotted key. -/
def readKeyPart (cs : List Char) : Except Stop (String × List Char) :=
  match cs with
  | '"' :: rest => readOneLine '"' rest
  | '\'' :: rest => readOneLine '\'' rest
  | cs =>
    let word := cs.takeWhile isKeyChar
    if word.isEmpty then .error .invalid else .ok (.ofList word, cs.dropWhile isKeyChar)

/-- The parts of a dotted key, with white space around the points. -/
def readKey : (fuel : Nat) → List Char → Except Stop (List String × List Char)
  | 0, _ => .error .invalid
  | fuel + 1, cs => do
    let (part, cs) ← readKeyPart cs
    match skipSpaces cs with
    | '.' :: rest => do
      let (parts, rest) ← readKey fuel (skipSpaces rest)
      .ok (part :: parts, rest)
    | rest => .ok ([part], rest)

/-! ## Tables -/

/-- The entries of a table. -/
abbrev Entries := List (Value × Value)

/-- Whether a value takes nothing more once it is written. -/
def isCollection : Value → Bool
  | .mapping _ | .list _ => true
  | _ => false

/-- Changes the table that a path leads to. Tables that are missing on the way are made. With
`intoArrays` an array of tables leads to its last one. -/
def changeAt (intoArrays : Bool) (change : Entries → Except Stop Entries) :
    List String → Entries → Except Stop Entries
  | [], entries => change entries
  | key :: path, entries =>
    match Value.field? key entries with
    | none => do
      let inner ← changeAt intoArrays change path []
      .ok (Value.put (.text key) (.mapping inner) entries)
    | some (.mapping inner) => do
      let inner ← changeAt intoArrays change path inner
      .ok (Value.put (.text key) (.mapping inner) entries)
    | some (.list items) =>
      match intoArrays, items.getLast? with
      | true, some (.mapping inner) => do
        let inner ← changeAt intoArrays change path inner
        .ok (Value.put (.text key) (.list (items.dropLast ++ [.mapping inner])) entries)
      | _, _ => .error .invalid
    | some _ => .error .invalid

/-- Adds an entry under a new key. -/
def addEntry (key : String) (v : Value) (entries : Entries) : Except Stop Entries :=
  if (Value.field? key entries).isSome then .error .invalid
  else .ok (entries ++ [(.text key, v)])

/-- Adds a table to the array under a key. -/
def addTable (key : String) (entries : Entries) : Except Stop Entries :=
  match Value.field? key entries with
  | none => .ok (entries ++ [(.text key, .list [.mapping []])])
  | some (.list items) =>
    .ok (Value.put (.text key) (.list (items ++ [.mapping []])) entries)
  | some _ => .error .invalid

/-- Whether a path is one of those given or leads through one of them. -/
def isWithin (paths : List (List String)) (path : List String) : Bool :=
  paths.any fun p => p.isPrefixOf path

/-! ## Values -/

/-- Drops white space, line ends and comments. -/
def skipBetween : (fuel : Nat) → List Char → Except Stop (List Char)
  | 0, cs => .ok cs
  | fuel + 1, cs => do
    let rest ← skipComment (cs.dropWhile isSpaceOrBreak)
    if rest.length = cs.length then .ok rest else skipBetween fuel rest

/-- A value that is not a collection. -/
def readScalar (cs : List Char) : Except Stop (Value × List Char) :=
  if startsWith "true" cs then .ok (.bool true, cs.drop 4)
  else if startsWith "false" cs then .ok (.bool false, cs.drop 5)
  else
    match readDate? cs with
    | some (v, rest) => v.map fun v => (v, rest)
    | none =>
      match readTime? cs with
      | some (time, rest) => .ok (.time time, rest)
      | none =>
        match readNumber? cs with
        | some (v, rest) => v.map fun v => (v, rest)
        | none =>
          match readSpecial? cs with
          | some found => .ok found
          | none => .error .invalid

/-- What an array takes of the room for nesting. -/
def arrayCost : Nat := 2

/-- What an inline table takes of the room for nesting. -/
def tableCost : Nat := 3

/-- The room for nesting that is left inside a collection. -/
def nest (cost room : Nat) : Except Stop Nat :=
  if room < cost then .error (.fault .tooDeep) else .ok (room - cost)

mutual

/-- A value, with the room for nesting that is left for it. -/
def readValue : (fuel room : Nat) → List Char → Except Stop (Value × List Char)
  | 0, _, _ => .error .invalid
  | fuel + 1, room, cs =>
    match cs with
    | '"' :: '"' :: '"' :: rest => do
      let (s, rest) ← readMultiline '"' rest
      .ok (.text s, rest)
    | '\'' :: '\'' :: '\'' :: rest => do
      let (s, rest) ← readMultiline '\'' rest
      .ok (.text s, rest)
    | '"' :: rest => do
      let (s, rest) ← readOneLine '"' rest
      .ok (.text s, rest)
    | '\'' :: rest => do
      let (s, rest) ← readOneLine '\'' rest
      .ok (.text s, rest)
    | '[' :: rest => do
      let room ← nest arrayCost room
      let (items, rest) ← readItems fuel room (← skipBetween (rest.length + 1) rest)
      .ok (.list items, rest)
    | '\x7b' :: rest =>
      match skipSpaces rest with
      | '\x7d' :: rest => .ok (.mapping [], rest)
      | rest => do
        let (entries, rest) ← readEntries fuel (← nest tableCost room) [] [] rest
        .ok (.mapping entries, rest)
    | cs => readScalar cs

/-- The items of an array up to its closing bracket. A comma may follow the last one. -/
def readItems : (fuel room : Nat) → List Char → Except Stop (List Value × List Char)
  | 0, _, _ => .error .invalid
  | fuel + 1, room, cs =>
    match cs with
    | ']' :: rest => .ok ([], rest)
    | cs => do
      let (v, rest) ← readValue fuel room cs
      match ← skipBetween (rest.length + 1) rest with
      | ']' :: rest => .ok ([v], rest)
      | ',' :: rest => do
        let (items, rest) ← readItems fuel room (← skipBetween (rest.length + 1) rest)
        .ok (v :: items, rest)
      | _ => .error .invalid

/-- The entries of an inline table up to its closing brace, added to those before them. `frozen`
are the paths of the collections among them. -/
def readEntries : (fuel room : Nat) → (frozen : List (List String)) → Entries → List Char →
    Except Stop (Entries × List Char)
  | 0, _, _, _, _ => .error .invalid
  | fuel + 1, room, frozen, entries, cs => do
    let (key, v, rest) ← readPair fuel room cs
    if isWithin frozen key then .error .invalid
    else
      let entries ← changeAt false (addEntry (key.getLastD "") v) key.dropLast entries
      match skipSpaces rest with
      | '\x7d' :: rest => .ok (entries, rest)
      | ',' :: rest =>
        readEntries fuel room (if isCollection v then key :: frozen else frozen) entries
          (skipSpaces rest)
      | _ => .error .invalid

/-- A key and its value. -/
def readPair : (fuel room : Nat) → List Char → Except Stop (List String × Value × List Char)
  | 0, _, _ => .error .invalid
  | fuel + 1, room, cs => do
    let (key, rest) ← readKey (cs.length + 1) cs
    match rest with
    | '=' :: rest => do
      let (v, rest) ← readValue fuel room (skipSpaces rest)
      .ok (key, v, rest)
    | _ => .error .invalid

end

/-! ## Statements -/

/-- A document as far as it has been read. -/
structure Progress where
  entries : Entries := []
  /-- The table that keys are added to. -/
  table : List String := []
  /-- The tables that may not be declared any more. -/
  declared : List (List String) := []
  /-- Tables made by dotted keys of the current table, which may not be declared later. -/
  dotted : List (List String) := []
  /-- The collections written as values. -/
  frozen : List (List String) := []

namespace Progress

/-- Goes on to another table. -/
def leaveTable (p : Progress) : Progress :=
  { p with declared := p.dotted ++ p.declared, dotted := [] }

/-- The paths to the tables that a dotted key leads through. -/
def through (p : Progress) (key : List String) : List (List String) :=
  (List.range (key.length - 1)).map fun n => p.table ++ key.take (n + 1)

/-- Adds a key with its value to the current table. -/
def addPair (key : List String) (v : Value) (p : Progress) : Except Stop Progress := do
  let path := p.table ++ key
  let through := p.through key
  if through.any p.declared.contains then .error .invalid
  else if isWithin p.frozen path.dropLast then .error .invalid
  else
    let entries ← changeAt true (addEntry (path.getLastD "") v) path.dropLast p.entries
    .ok { p with
      entries
      dotted := through ++ p.dotted
      frozen := if isCollection v then path :: p.frozen else p.frozen }

/-- Declares a table and goes to it. -/
def openTable (key : List String) (p : Progress) : Except Stop Progress := do
  if p.declared.contains key || isWithin p.frozen key then .error .invalid
  else
    let entries ← changeAt true .ok key p.entries
    .ok { p with entries, table := key, declared := key :: p.declared }

/-- Adds a table to an array and goes to it. What was declared below the array's last table may
be declared again. -/
def openItem (key : List String) (p : Progress) : Except Stop Progress := do
  if isWithin p.frozen key then .error .invalid
  else
    let entries ← changeAt true (addTable (key.getLastD "")) key.dropLast p.entries
    let isOutside (path : List String) : Bool := !key.isPrefixOf path
    .ok { p with
      entries
      table := key
      declared := key :: p.declared.filter isOutside
      frozen := p.frozen.filter isOutside }

end Progress

/-- Reads one statement, which may be empty. -/
def readStatement [Limits] (p : Progress) (cs : List Char) : Except Stop (Progress × List Char) :=
  match cs with
  | [] => .ok (p, [])
  | '\n' :: _ => .ok (p, cs)
  | '#' :: _ => .ok (p, cs)
  | '[' :: '[' :: rest => do
    let p := p.leaveTable
    let (key, rest) ← readKey (rest.length + 1) (skipSpaces rest)
    let p ← p.openItem key
    match rest with
    | ']' :: ']' :: rest => .ok (p, skipSpaces rest)
    | _ => .error .invalid
  | '[' :: rest => do
    let p := p.leaveTable
    let (key, rest) ← readKey (rest.length + 1) (skipSpaces rest)
    let p ← p.openTable key
    match rest with
    | ']' :: rest => .ok (p, skipSpaces rest)
    | _ => .error .invalid
  | cs => do
    let (key, v, rest) ← readPair (3 * cs.length + 3) Limits.tomlNesting cs
    let p ← p.addPair key v
    .ok (p, skipSpaces rest)

/-- Reads statements, each on lines of its own. -/
def readStatements [Limits] : (fuel : Nat) → Progress → List Char → Except Stop Progress
  | 0, p, _ => .ok p
  | fuel + 1, p, cs => do
    let (p, rest) ← readStatement p (skipSpaces cs)
    match ← skipComment rest with
    | [] => .ok p
    | '\n' :: rest => readStatements fuel p rest
    | _ => .error .invalid

/-- The value that a text whose lines end with line feeds is as a TOML document. -/
def read [Limits] (text : List Char) : Except Stop Value := do
  let p ← readStatements (text.length + 1) {} text
  .ok (.mapping p.entries)

end BucketVhosts.Toml
