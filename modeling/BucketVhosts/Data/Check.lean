import BucketVhosts.Data.Value

/-!
# Checking values

A check reads a typed value out of a document value. It reports every problem it finds, each with
the path to the place where it is, in the order of the fields and items it reads.
-/
namespace BucketVhosts.Data

/-- A step from a value to one of its parts. -/
inductive Step where
  | key (name : String)
  | position (n : Int)
  deriving DecidableEq, Repr

/-- What is wrong with a value. -/
inductive Cause where
  | missing
  | notText
  | brokenText
  | notInteger
  | integerSpelling
  | integerSize
  | fraction
  | notFinite
  | below (least : Int)
  | above (greatest : Int)
  | notGreater (bound : Int)
  | notList
  | notTuple
  | notMapping
  /-- Not a mapping where a record of this kind is expected. -/
  | notRecord (kind : String)
  | notVariant
  | notPath
  deriving DecidableEq, Repr

/-- The short name of a cause. -/
def Cause.code : Cause → String
  | .missing => "missing"
  | .notText => "string_type"
  | .brokenText => "string_unicode"
  | .notInteger => "int_type"
  | .integerSpelling => "int_parsing"
  | .integerSize => "int_parsing_size"
  | .fraction => "int_from_float"
  | .notFinite => "finite_number"
  | .below _ => "greater_than_equal"
  | .above _ => "less_than_equal"
  | .notGreater _ => "greater_than"
  | .notList => "list_type"
  | .notTuple => "tuple_type"
  | .notMapping => "dict_type"
  | .notRecord _ => "model_type"
  | .notVariant => "enum"
  | .notPath => "path_type"

/-- The wording of a cause. -/
def Cause.message : Cause → String
  | .missing => "Field required"
  | .notText => "Input should be a valid string"
  | .brokenText => "Input should be a valid string, unable to parse raw data as a unicode string"
  | .notInteger => "Input should be a valid integer"
  | .integerSpelling => "Input should be a valid integer, unable to parse string as an integer"
  | .integerSize => "Unable to parse input string as an integer, exceeded maximum size"
  | .fraction => "Input should be a valid integer, got a number with a fractional part"
  | .notFinite => "Input should be a finite number"
  | .below n => "Input should be greater than or equal to " ++ Integer.text n
  | .above n => "Input should be less than or equal to " ++ Integer.text n
  | .notGreater n => "Input should be greater than " ++ Integer.text n
  | .notList => "Input should be a valid list"
  | .notTuple => "Input should be a valid tuple"
  | .notMapping => "Input should be a valid dictionary"
  | .notRecord kind => "Input should be a valid dictionary or instance of " ++ kind
  | .notVariant => "Input should be 'simple' or 'relaxed'"
  | .notPath => "Input is not a valid path for <class 'pathlib.Path'>"

/-- A problem and the path to it. -/
structure Problem where
  path : List Step
  cause : Cause
  deriving DecidableEq, Repr

/-- The outcome of a check: a value, or all problems in order. -/
abbrev Checked (α : Type) := Except (List Problem) α

namespace Checked

/-- Fails with one problem at the value itself. -/
def fail {α : Type} (cause : Cause) : Checked α :=
  .error [⟨[], cause⟩]

/-- The same outcome for a part that `step` leads to. -/
def under {α : Type} (step : Step) : Checked α → Checked α
  | .ok a => .ok a
  | .error problems => .error (problems.map fun p => { p with path := step :: p.path })

/-- Both values, or the problems of the first check and then those of the second. -/
def both {α β : Type} : Checked α → Checked β → Checked (α × β)
  | .ok a, .ok b => .ok (a, b)
  | .error p, .ok _ => .error p
  | .ok _, .error q => .error q
  | .error p, .error q => .error (p ++ q)

/-- Checks each item under its position, counting from `index`. -/
def each {α β : Type} (check : α → Checked β) (index : Nat) : List α → Checked (List β)
  | [] => .ok []
  | a :: rest =>
    ((check a).under (.position index) |>.both (each check (index + 1) rest)).map
      fun (b, bs) => b :: bs

end Checked

namespace Value

/-- The step to the entry of a key: its text, its number if it is an integer or a truth value of
machine size, and otherwise the key as messages show it. -/
def step : Value → Step
  | .text s => .key (Text.replaceHalves s)
  | .bool b => .position (if b then 1 else 0)
  | .int n => if isWord n then .position n else .key (Integer.text n)
  | v => .key v.shown

/-- Reads text. Bytes that are UTF-8 count as text. -/
def checkText : Value → Checked String
  | .text s => .ok s
  | .bytes content =>
    match String.fromUTF8? ⟨content.toArray⟩ with
    | some s => .ok s
    | none => .fail .brokenText
  | _ => .fail .notText

/-- The most characters that an integer may be spelled with. -/
def maxSpelling : Nat := 4300

/-- What remains of a number behind the zeros that lead it, and the underscores among them. The
character before a point or the end stays. -/
def afterZeros? (last : Char) : List Char → Option (List Char)
  | [] => some [last]
  | c :: rest =>
    if c = '0' || c = '_' then afterZeros? c rest
    else if c.isDigit || c = '-' then some (c :: rest)
    else if c = '.' then some (last :: c :: rest)
    else none

/-- A number without the zeros that lead it. It must start with a digit, or with a minus sign behind
which another number starts. -/
def dropZeros? : (isSigned : Bool) → List Char → Option (List Char)
  | isSigned, '0' :: rest => (afterZeros? '0' rest).map fun cs => if isSigned then '-' :: cs else cs
  | false, '-' :: rest => dropZeros? true rest
  | isSigned, c :: rest =>
    if c.isDigit then some (if isSigned then '-' :: c :: rest else c :: rest) else none
  | _, [] => none

/-- A number without a point that only zeros follow. -/
def dropFraction (cs : List Char) : List Char :=
  let whole := cs.takeWhile (· ≠ '.')
  match cs.drop whole.length with
  | _ :: zeros => if !zeros.isEmpty && zeros.all (· = '0') then whole else cs
  | [] => cs

/-- A number without its underscores. They stand alone and inside it. -/
def dropUnderscores? (cs : List Char) : Option (List Char) :=
  let groups := cs.splitOn '_'
  if groups.any List.isEmpty then none else some groups.flatten

/-- The integer that ASCII digits behind an optional minus sign spell. No zero may lead others. -/
def bareInteger? (cs : List Char) : Option Int :=
  let (isNegative, digits) := match cs with
    | '-' :: rest => (true, rest)
    | cs => (false, cs)
  let isPadded := digits.head? = some '0' && 1 < digits.length
  if maxSpelling < cs.length || isPadded || !digits.all Char.isDigit then none
  else (Integer.ofDigits? 10 digits).map (Integer.withSign isNegative)

/-- The integer that a text spells. White space around it, a plus sign and leading zeros count for
nothing, nor does a point with zeros only, nor single underscores between digits. -/
def spelledInteger? (cs : List Char) : Option Int := do
  let cs := match Text.trimWhile Text.isPlainBlank cs with
    | '+' :: '-' :: _ => []
    | '+' :: rest => rest
    | cs => cs
  let cs ← dropZeros? false cs
  let cs ← dropUnderscores? (dropFraction cs)
  bareInteger? cs

/-- Whether a text starts with an integer of too many characters. -/
def startsTooLong (cs : List Char) : Bool :=
  let (sign, digits) := match cs with
    | '-' :: rest => (1, rest)
    | cs => (0, cs)
  digits.head? ≠ some '0' && maxSpelling < sign + (digits.takeWhile Char.isDigit).length

/-- Reads the integer that a text spells. -/
def checkSpelledInteger (s : String) : Checked Int :=
  if Text.hasHalf s then .fail .brokenText
  else if startsTooLong s.toList then .fail .integerSize
  else
    match spelledInteger? s.toList with
    | some n => .ok n
    | none => .fail .integerSpelling

/-- Reads the integer that a floating point number is. -/
def checkWholeReal (x : Binary64) : Checked Int :=
  if !x.isFinite then .fail .notFinite
  else
    match x.toInt? with
    | none => .fail .fraction
    | some n => if leastWord < n && isWord n then .ok n else .fail .integerSize

/-- Reads an integer. Truth values count as 1 and 0, and a number without a fraction or a text
that spells an integer is accepted. -/
def checkInteger : Value → Checked Int
  | .int n => .ok n
  | .bool b => .ok (if b then 1 else 0)
  | .real x => checkWholeReal x
  | .text s => checkSpelledInteger s
  | .bytes content =>
    match String.fromUTF8? ⟨content.toArray⟩ with
    | some s => checkSpelledInteger s
    | none => .fail .integerSpelling
  | _ => .fail .notInteger

/-- Reads a list, each item by `check`. Tuples and sets count as lists. -/
def checkList {α : Type} (check : Value → Checked α) : Value → Checked (List α)
  | .list items | .tuple items | .set items => .each check 0 items
  | _ => .fail .notList

/-- Reads a tuple, each item by `check`. Lists and sets count as tuples. -/
def checkTuple {α : Type} (check : Value → Checked α) : Value → Checked (List α)
  | .list items | .tuple items | .set items => .each check 0 items
  | _ => .fail .notTuple

/-- Reads a record of a kind from the entries of a mapping. -/
def checkRecord {α : Type} (kind : String) (check : List (Value × Value) → Checked α) :
    Value → Checked α
  | .mapping entries => check entries
  | _ => .fail (.notRecord kind)

/-- Reads what may be null. -/
def checkOptional {α : Type} (check : Value → Checked α) : Value → Checked (Option α)
  | .null => .ok none
  | v => (check v).map some

/-- What a check reads, if it finds no problem. -/
def check? {α : Type} (check : Value → Checked α) (v : Value) : Option α :=
  match check v with
  | .ok a => some a
  | .error _ => none

end Value

/-- Reads a field that must be present. The first of its names that is present is used. -/
def required {α : Type} (names : List String) (check : Value → Checked α)
    (entries : List (Value × Value)) : Checked α :=
  match names.find? fun name => (Value.field? name entries).isSome with
  | some name => (check ((Value.field? name entries).getD .null)).under (.key name)
  | none => .under (.key (names.headD "")) (.fail .missing)

/-- Reads a field that takes a default value if it is absent. -/
def withDefault {α : Type} (name : String) (default : α) (check : Value → Checked α)
    (entries : List (Value × Value)) : Checked α :=
  match Value.field? name entries with
  | some v => (check v).under (.key name)
  | none => .ok default

end BucketVhosts.Data
