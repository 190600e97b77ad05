import BucketVhosts.Number.Integer

/-!
# Arguments of actions

A tag such as `[@click=open('a', 1)]` starts a stretch of text with an action. Its arguments are
constants: numbers, texts, names of constants, tuples, sets and mappings of them. The screen does
not act, so that of the arguments only their form matters: a constant that cannot be read makes the
whole line unreadable.
-/
namespace BucketVhosts.Screen.Argument

/-- The form of a constant, as far as it decides where the constant can stand. -/
inductive Form where
  /-- A number, which may have a sign and may be imaginary. -/
  | number (signed imaginary : Bool)
  /-- Another constant that can be a member of a set. -/
  | fixed
  /-- A set or a mapping, which cannot. -/
  | collection
  deriving DecidableEq, Repr

/-- Whether a constant can be a member of a set or a key of a mapping. -/
def Form.isMember (form : Form) : Bool :=
  form ≠ .collection

/-- A constant and what follows it. -/
abbrev Step := Option (Form × List Char)

/-- Whether a character belongs to the names and numbers of constants. -/
def isWordChar (c : Char) : Bool :=
  c.isAlphanum || c = '_'

/-- What follows the white space at the front. -/
def skip (cs : List Char) : List Char :=
  cs.dropWhile fun c => c = ' ' || c = '\t' || c = '\n' || c = '\x0c'

/-! ## Numbers -/

/-- Digits with single underscores between them. -/
def isDigits (isDigit : Char → Bool) (cs : List Char) : Bool :=
  (cs.splitOn '_').all fun part => !part.isEmpty && part.all isDigit

/-- The characters of a number at the front: those of words, points, and a sign that an exponent
has. -/
def takeNumber (before : Char) : List Char → List Char
  | [] => []
  | c :: rest =>
    let isSign := (c = '+' || c = '-') && (before = 'e' || before = 'E')
    if isWordChar c || c = '.' || isSign then c :: takeNumber c rest else []

/-- Whether a text is an integer in base ten. Zero may be repeated, but does not lead. -/
def isWhole (cs : List Char) : Bool :=
  isDigits Char.isDigit cs &&
    (cs.head? ≠ some '0' || cs.all fun c => c = '0' || c = '_') &&
    (cs.filter Char.isDigit).length ≤ Integer.maxDigits

/-- Whether a text is a number with a point or an exponent. -/
def isReal (cs : List Char) : Bool :=
  let digits (part : List Char) := isDigits Char.isDigit part
  let isMantissa (part : List Char) : Bool :=
    match part.splitOn '.' with
    | [whole] => digits whole
    | [[], fraction] => digits fraction
    | [whole, []] => digits whole
    | [whole, fraction] => digits whole && digits fraction
    | _ => false
  let mantissa := cs.takeWhile fun c => c ≠ 'e' && c ≠ 'E'
  match cs.drop mantissa.length with
  | [] => isMantissa mantissa
  | _ :: '+' :: exponent | _ :: '-' :: exponent => isMantissa mantissa && digits exponent
  | _ :: exponent => isMantissa mantissa && digits exponent

/-- The form of a number that a text spells. -/
def numberForm? (cs : List Char) : Option Form :=
  let isReals : Bool := cs.any fun c => c = '.' || c = 'e' || c = 'E'
  let based (isDigit : Char → Bool) (digits : List Char) : Option Form :=
    let digits := if digits.head? = some '_' then digits.drop 1 else digits
    if isDigits isDigit digits then some (.number false false) else none
  match cs with
  | '0' :: 'x' :: digits | '0' :: 'X' :: digits => based Text.isHexDigit digits
  | '0' :: 'o' :: digits | '0' :: 'O' :: digits => based (fun c => '0' ≤ c && c ≤ '7') digits
  | '0' :: 'b' :: digits | '0' :: 'B' :: digits => based (fun c => c = '0' || c = '1') digits
  | cs =>
    match cs.getLast? with
    | some 'j' | some 'J' =>
      if isReal cs.dropLast then some (.number false true) else none
    | _ =>
      if (if isReals then isReal cs else isWhole cs) then some (.number false false) else none

/-! ## Texts -/

/-- How a text in quotes is read. -/
structure Quoting where
  mark : Char
  raw : Bool
  bytes : Bool

/-- What follows an escape after its backslash, if it can be read. -/
def skipEscape? (bytes : Bool) (cs : List Char) : Option (List Char) :=
  let hex (count limit : Nat) (rest : List Char) : Option (List Char) :=
    let digits := rest.take count
    let value := digits.foldl (fun n c => n * 16 + (if c.isDigit then c.toNat - 48 else
      (c.toNat - 'A'.toNat) % 32 + 10)) 0
    if digits.length = count && digits.all Text.isHexDigit && value < limit then
      some (rest.drop count) else none
  match cs with
  | [] => none
  | 'x' :: rest => hex 2 256 rest
  | c :: rest =>
    if bytes then some rest
    else if c = 'u' then hex 4 0x10000 rest
    else if c = 'U' then hex 8 0x110000 rest
    else if c = 'N' then none
    else some rest

/-- What follows a text whose opening quotes were read; a long one ends at three quotes and can go
over several lines. -/
def skipText? (q : Quoting) (long : Bool) : (fuel : Nat) → List Char → Option (List Char)
  | 0, _ => none
  | _ + 1, [] => none
  | fuel + 1, c :: rest =>
    if c = q.mark then
      if !long then some rest
      else if rest.take 2 = [q.mark, q.mark] then some (rest.drop 2)
      else skipText? q long fuel rest
    else if c = '\\' then
      if q.raw then skipText? q long fuel (rest.drop 1)
      else (skipEscape? q.bytes rest).bind (skipText? q long fuel)
    else if c = '\n' && !long then none
    else if q.bytes && 127 < c.toNat then none
    else skipText? q long fuel rest

/-- Whether a text in quotes stands at the front, with the letters before its quotes. -/
def quoting? (cs : List Char) : Option (Quoting × List Char) :=
  let letters := cs.takeWhile isWordChar
  let raw (bytes : Bool) (isRaw : Bool) : Option (Quoting × List Char) :=
    match cs.drop letters.length with
    | '"' :: rest => some (⟨'"', isRaw, bytes⟩, rest)
    | '\'' :: rest => some (⟨'\'', isRaw, bytes⟩, rest)
    | _ => none
  match String.ofList (letters.map Char.toLower) with
  | "" | "u" => raw false false
  | "r" => raw false true
  | "b" => raw true false
  | "br" | "rb" => raw true true
  | _ => none

/-- What follows a text after its opening quote. -/
def skipQuoted? (q : Quoting) (rest : List Char) : Option (List Char) :=
  if rest.take 2 = [q.mark, q.mark] then skipText? q true (rest.length + 1) (rest.drop 2)
  else skipText? q false (rest.length + 1) rest

/-- What follows texts that stand side by side. All are bytes, or none are. -/
def skipTexts? (bytes : Bool) : (fuel : Nat) → List Char → Option (List Char)
  | 0, _ => none
  | fuel + 1, cs =>
    match quoting? (skip cs) with
    | none => some cs
    | some (q, rest) =>
      if q.bytes ≠ bytes then none else (skipQuoted? q rest).bind (skipTexts? bytes fuel)

/-! ## Constants -/

/-- A constant that is one word or text, and what follows it. -/
def word? (cs : List Char) : Step :=
  match quoting? cs with
  | some (q, _) => (skipTexts? q.bytes cs.length cs).map fun rest => (.fixed, rest)
  | none =>
    let isNumber : Bool := match cs with
      | '.' :: d :: _ => d.isDigit
      | c :: _ => c.isDigit
      | [] => false
    if isNumber then
      let number := takeNumber ' ' cs
      (numberForm? number).map fun form => (form, cs.drop number.length)
    else if cs.take 3 = ['.', '.', '.'] then some (.fixed, cs.drop 3)
    else
      let name := cs.takeWhile isWordChar
      let rest := cs.drop name.length
      match String.ofList name with
      | "True" | "False" | "None" => some (.fixed, rest)
      | "set" =>
        match skip rest with
        | '(' :: rest =>
          match skip rest with
          | ')' :: rest => some (.collection, rest)
          | _ => none
        | _ => none
      | _ => none

/-- A sign before a number. -/
def sign : Form → Option Form
  | .number false imaginary => some (.number true imaginary)
  | _ => none

/-- The sum of two numbers is a constant if the first is real and the second is imaginary and has
no sign. -/
def sum : Form → Form → Option Form
  | .number _ false, .number false true => some .fixed
  | _, _ => none

/-- The form of a pair of parentheses around constants. -/
def tuple (forms : List Form) (comma : Bool) : Option Form :=
  match forms with
  | [form] => if comma && form.isMember then some .fixed else if comma then some .collection
    else some form
  | forms => some (if forms.all Form.isMember then .fixed else .collection)

/-- Whether constants between braces make a set or a mapping, where each has the value after its
colon if there is one. -/
def braces (entries : List (Form × Option Form)) : Option Form :=
  if entries.all (fun e => e.1.isMember) &&
    (entries.all (fun e => e.2.isSome) || entries.all fun e => e.2.isNone) then some .collection
  else none

mutual

/-- A constant without an operator between two. -/
def unit? (fuel : Nat) (cs : List Char) : Step :=
  match fuel with
  | 0 => none
  | fuel + 1 =>
    match skip cs with
    | '+' :: rest | '-' :: rest =>
      (unit? fuel rest).bind fun (form, rest) => (sign form).map fun form => (form, rest)
    | '(' :: rest =>
      match items? fuel rest with
      | some (entries, comma, ')' :: rest) =>
        if entries.all fun e => e.2.isNone then
          (tuple (entries.map Prod.fst) comma).map fun form => (form, rest)
        else none
      | _ => none
    | '{' :: rest =>
      match items? fuel rest with
      | some (entries, _, '}' :: rest) => (braces entries).map fun form => (form, rest)
      | _ => none
    | cs => word? cs

/-- A constant, or the sum or difference of two. -/
def constant? (fuel : Nat) (cs : List Char) : Step :=
  match fuel with
  | 0 => none
  | fuel + 1 =>
    (unit? fuel cs).bind fun (form, rest) =>
      match skip rest with
      | '+' :: right | '-' :: right =>
        (unit? fuel right).bind fun (other, rest) => (sum form other).map fun form => (form, rest)
      | rest => some (form, rest)

/-- Constants with commas between them, whether there was a comma, and what follows. Each may have
a value after a colon. -/
def items? (fuel : Nat) (cs : List Char) :
    Option (List (Form × Option Form) × Bool × List Char) :=
  match fuel with
  | 0 => none
  | fuel + 1 =>
    match skip cs with
    | [] => some ([], false, [])
    | ')' :: rest => some ([], false, ')' :: rest)
    | '}' :: rest => some ([], false, '}' :: rest)
    | cs =>
      (constant? fuel cs).bind fun (form, rest) =>
        let entry : Option ((Form × Option Form) × List Char) := match skip rest with
          | ':' :: rest => (constant? fuel rest).map fun (value, rest) => ((form, some value), rest)
          | rest => some ((form, none), rest)
        entry.bind fun (entry, rest) =>
          match skip rest with
          | ',' :: rest =>
            (items? fuel rest).map fun (entries, _, rest) => (entry :: entries, true, rest)
          | rest => some ([entry], false, rest)

end

/-- Whether a text is a constant, or several with commas between them. -/
def isConstant (cs : List Char) : Bool :=
  match items? (4 * cs.length + 4) cs with
  | some (entries, _, []) =>
    !entries.isEmpty && entries.all fun e => e.2.isNone
  | _ => false

/-- Whether the text of an action can be read. Behind the action's name stand its arguments in
parentheses, or nothing; a text of another form has to be a constant itself. -/
def isReadable (text : List Char) : Bool :=
  let cs := Text.trimWhile Text.isBlank text
  let rest := cs.dropWhile fun c => isWordChar c || c = '.' || (127 < c.toNat && !Text.isBlank c)
  match rest with
  | [] => true
  | '(' :: _ =>
    if rest.getLast? = some ')' && !rest.contains '\n' then isConstant rest else isConstant cs
  | _ => isConstant cs

end BucketVhosts.Screen.Argument
