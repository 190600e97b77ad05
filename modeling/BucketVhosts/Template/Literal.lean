import BucketVhosts.Number.Reading
import BucketVhosts.Template.Fault
import BucketVhosts.Text.CharName
import BucketVhosts.Text.Quoted

/-!
# Template literals

Numbers and quoted texts in the tags of templates. Digits may have single underscores between them.
A backslash in a text starts an escape; one that starts none stands for itself, and a character
beyond ASCII after it is then written by its code point.
-/
namespace BucketVhosts.Template

/-! ## Quoted texts -/

/-- The text up to the closing quote, in which a backslash protects the next character, and what
follows the quote. -/
def untilQuote (quote : Char) : List Char → Option (List Char × List Char)
  | [] => none
  | '\\' :: c :: rest => (untilQuote quote rest).map fun (body, after) => ('\\' :: c :: body, after)
  | c :: rest =>
    if c = quote then some ([], rest)
    else if c = '\\' then none
    else (untilQuote quote rest).map fun (body, after) => (c :: body, after)

/-- The character of an escape letter. -/
def escapeLetter? : Char → Option Char
  | 'n' => some '\n'
  | 't' => some '\t'
  | 'r' => some '\r'
  | 'a' => some '\x07'
  | 'b' => some '\x08'
  | 'f' => some '\x0c'
  | 'v' => some '\x0b'
  | '\\' => some '\\'
  | '\'' => some '\''
  | '"' => some '"'
  | _ => none

/-- The number of digits of an escape by code point, with the form that messages show. -/
def escapeWidth? : Char → Option (Nat × String)
  | 'x' => some (2, "xXX")
  | 'u' => some (4, "uXXXX")
  | 'U' => some (8, "UXXXXXXXX")
  | _ => none

/-- The character of a code point that an escape gives. -/
def escapedChar (code : Nat) : Except SyntaxFault Char :=
  if code < 0x110000 then .ok (Text.ofCode code) else .error .illegalCode

/-- The character named between braces at the front, and how many characters that takes. -/
def namedEscape : List Char → Except SyntaxFault (Char × Nat)
  | '\x7b' :: rest =>
    let name := rest.takeWhile (· ≠ '\x7d')
    if name.isEmpty || name.length = rest.length then .error .malformedName
    else
      match Text.charNamed? name with
      | some c => .ok (c, name.length + 2)
      | none => .error .unknownName
  | _ => .error .malformedName

/-- What the escape with these characters after its backslash stands for, and how many of them
belong to it. -/
def escape : List Char → Except SyntaxFault (List Char × Nat)
  | [] => .ok (['\\'], 0)
  | '\n' :: _ => .ok ([], 1)
  | 'N' :: rest => do
    let (c, taken) ← namedEscape rest
    .ok ([c], taken + 1)
  | next :: rest =>
    match escapeLetter? next, escapeWidth? next with
    | some c, _ => .ok ([c], 1)
    | none, some (width, form) =>
      let digits := rest.take width
      if digits.length = width && digits.all Text.isHexDigit then do
        let c ← escapedChar ((Integer.ofDigits? 16 digits).getD 0)
        .ok ([c], 1 + width)
      else .error (.shortEscape form)
    | none, none =>
      let octal := ((next :: rest).take 3).takeWhile fun d => '0' ≤ d && d ≤ '7'
      if !octal.isEmpty then
        .ok ([Text.ofCode ((Integer.ofDigits? 8 octal).getD 0)], octal.length)
      else if next.toNat < 0x80 then .ok (['\\', next], 1)
      else .ok (Text.escapeCode next.toNat, 1)

/-- Replaces escapes. The next `skip` characters belong to an escape already replaced. -/
def unescape (skip : Nat) : List Char → Except SyntaxFault (List Char)
  | [] => .ok []
  | c :: rest =>
    if 0 < skip then unescape (skip - 1) rest
    else if c ≠ '\\' then (unescape 0 rest).map (c :: ·)
    else do
      let (cs, taken) ← escape rest
      (unescape taken rest).map (cs ++ ·)

/-! ## Numbers -/

/-- Whether a character is a decimal digit of any script. -/
def isDigit (c : Char) : Bool :=
  (Text.digitValue? c).isSome

/-- The digits at the front, single underscores before them dropped. -/
def takeDigits (isDigit : Char → Bool) : List Char → List Char × List Char
  | [] => ([], [])
  | '_' :: c :: rest =>
    if isDigit c then
      let (digits, after) := takeDigits isDigit rest
      (c :: digits, after)
    else ([], '_' :: c :: rest)
  | c :: rest =>
    if isDigit c then
      let (digits, after) := takeDigits isDigit rest
      (c :: digits, after)
    else ([], c :: rest)

/-- The base of a number that a letter after a leading zero names. -/
def baseOf? (c : Char) : Option Nat :=
  match c.toLower with
  | 'b' => some 2
  | 'o' => some 8
  | 'x' => some 16
  | _ => none

/-- Whether a number in a base may have the digit. Digits of other scripts have a place only where
all ten of a script do. -/
def isDigitOf (base : Nat) (c : Char) : Bool :=
  if base < 10 then c.isDigit && c.toNat < '0'.toNat + base
  else isDigit c || (base = 16 && Text.isHexDigit c)

/-- The base and the digits of the integer at the front, and what follows it. A number may not
start with zeros that stand for nothing, so zeros in front of other digits are a number of their
own. -/
def integer? : List Char → Option (Nat × List Char × List Char)
  | '0' :: rest =>
    let marked := do
      let base ← rest.head?.bind baseOf?
      let (digits, after) := takeDigits (isDigitOf base) (rest.drop 1)
      if digits.isEmpty then none else some (base, digits, after)
    marked.getD (10, takeDigits (· = '0') ('0' :: rest))
  | c :: rest => if c.isDigit then some (10, takeDigits isDigit (c :: rest)) else none
  | [] => none

/-- The digits at the front, the first of which no underscore precedes. -/
def group? (cs : List Char) : Option (List Char × List Char) :=
  if cs.head?.any isDigit then some (takeDigits isDigit cs) else none

/-- The fraction at the front with its point, and what follows it. -/
def fraction? : List Char → Option (List Char × List Char)
  | '.' :: rest => (group? rest).map fun (digits, after) => ('.' :: digits, after)
  | _ => none

/-- The exponent at the front with its letter and sign, and what follows it. -/
def exponent? : List Char → Option (List Char × List Char)
  | c :: rest =>
    if c ≠ 'e' && c ≠ 'E' then none
    else
      let sign := rest.take 1 |>.filter fun s => s = '+' || s = '-'
      (group? (rest.drop sign.length)).map fun (digits, after) => ('e' :: sign ++ digits, after)
  | [] => none

/-- The text of the real number at the front without its underscores, and what follows it. It has
a fraction, an exponent or both. -/
def real? (cs : List Char) : Option (List Char × List Char) := do
  let (whole, rest) ← group? cs
  match fraction? rest with
  | some (fraction, rest) =>
    match exponent? rest with
    | some (exponent, rest) => return (whole ++ fraction ++ exponent, rest)
    | none => return (whole ++ fraction, rest)
  | none =>
    let (exponent, rest) ← exponent? rest
    return (whole ++ exponent, rest)

end BucketVhosts.Template
