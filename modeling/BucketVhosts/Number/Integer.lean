import BucketVhosts.Text.Blank
import BucketVhosts.Text.Digit

/-!
# Integers as text

Writing integers in decimal, and reading them in any base up to 36.
-/
namespace BucketVhosts.Integer

/-- A natural number in decimal. -/
def ofNat (n : Nat) : String :=
  .ofList (Nat.toDigits 10 n)

/-- An integer in decimal, with a minus sign if it is negative. -/
def text : Int → String
  | .ofNat n => ofNat n
  | .negSucc n => "-" ++ ofNat (n + 1)

/-- The most digits of an integer that is read from decimal digits. -/
def maxDigits : Nat := 4300

/-- The value of a digit: a decimal digit of any script, or a letter from `a` for ten on. -/
def digit? (base : Nat) (c : Char) : Option Nat :=
  let value :=
    match Text.digitValue? c with
    | some d => some d
    | none =>
      if 'a' ≤ c && c ≤ 'z' then some (c.toNat - 'a'.toNat + 10)
      else if 'A' ≤ c && c ≤ 'Z' then some (c.toNat - 'A'.toNat + 10)
      else none
  value.filter (· < base)

/-- The number that digits spell, most significant first, continuing from `acc`. -/
def ofDigitsFrom? (base : Nat) (acc : Nat) : List Char → Option Nat
  | [] => some acc
  | c :: rest => (digit? base c).bind fun d => ofDigitsFrom? base (acc * base + d) rest

/-- The number that a non-empty string of digits spells. -/
def ofDigits? (base : Nat) (digits : List Char) : Option Nat :=
  if digits.isEmpty then none else ofDigitsFrom? base 0 digits

/-- Takes an optional sign off the front: whether the number is negative, and the rest. -/
def takeSign : List Char → Bool × List Char
  | '-' :: rest => (true, rest)
  | '+' :: rest => (false, rest)
  | cs => (false, cs)

/-- Drops the mark `0b`, `0o` or `0x` that may stand before digits in base 2, 8 or 16. -/
def dropBaseMark (base : Nat) (cs : List Char) : List Char :=
  match base, cs with
  | 2, '0' :: 'b' :: rest | 2, '0' :: 'B' :: rest => rest
  | 8, '0' :: 'o' :: rest | 8, '0' :: 'O' :: rest => rest
  | 16, '0' :: 'x' :: rest | 16, '0' :: 'X' :: rest => rest
  | _, cs => cs

/-- Negates if asked. -/
def withSign (negative : Bool) (n : Nat) : Int :=
  if negative then -(n : Int) else n

/-- Reads an integer in the given base: white space around it, a sign and, in bases 2, 8 and 16,
the base's mark are allowed. -/
def read? (base : Nat) (s : String) : Option Int :=
  let (negative, rest) := takeSign (Text.trimWhile Text.isPlainBlank s.toList)
  (ofDigits? base (dropBaseMark base rest)).map (withSign negative)

end BucketVhosts.Integer
