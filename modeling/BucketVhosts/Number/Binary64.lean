import BucketVhosts.Number.Power

/-!
# Binary floating point numbers of 64 bits

Numbers with 53 significant binary digits, kept as an exact `mantissa * 2 ^ exponent`. Every
operation computes the exact rational result and rounds it once, to the nearest number and on a
tie to the even mantissa.
-/
namespace BucketVhosts

/-- A floating point number. A finite one has a mantissa below `2 ^ 53` and an exponent of at least
-1074; unless the exponent is -1074 the mantissa is at least `2 ^ 52`. -/
inductive Binary64 where
  | finite (negative : Bool) (mantissa : Nat) (exponent : Int)
  | infinite (negative : Bool)
  | nan
  deriving DecidableEq, Repr

namespace Binary64

/-- The least exponent. -/
def minExponent : Int := -1074

/-- The greatest exponent. -/
def maxExponent : Int := 971

/-- Zero with a sign. -/
def zero (negative : Bool) : Binary64 := .finite negative 0 minExponent

/-- The numerator and denominator of `num / den / 2 ^ e`. -/
def scale (num den : Nat) (e : Int) : Nat × Nat :=
  if 0 ≤ e then (num, den * twoTo e.toNat) else (num * twoTo (-e).toNat, den)

/-- The exponent at which the quotient of two positive numbers has 53 binary digits, or the least
exponent if that is greater. -/
def exponentFor (num den : Nat) : Int :=
  let e := max ((num.log2 : Int) - den.log2 - 52) minExponent
  let (n, d) := scale num den e
  if n / d < twoTo 52 then max (e - 1) minExponent else e

/-- A quotient rounded to the nearest natural number, on a tie to the even one. -/
def roundQuotient (num den : Nat) : Nat :=
  let q := num / den
  let r := num % den
  if den < 2 * r || (2 * r = den && q % 2 = 1) then q + 1 else q

/-- The number nearest to `num / den`, infinite if the quotient is too large. -/
def ofRatio (negative : Bool) (num den : Nat) : Binary64 :=
  if num = 0 then zero negative
  else
    let e := exponentFor num den
    let (n, d) := scale num den e
    let m := roundQuotient n d
    let (m, e) := if m = twoTo 53 then (twoTo 52, e + 1) else (m, e)
    if maxExponent < e then .infinite negative else .finite negative m e

/-- The number nearest to `digits * 10 ^ exponent`. Exponents that are out of range whatever the
digits are decided without computing the power. -/
def ofDecimal (negative : Bool) (digits : Nat) (exponent : Int) : Binary64 :=
  let places : Int := (Nat.toDigits 10 digits).length + exponent
  if digits = 0 then zero negative
  else if 400 < places then .infinite negative
  else if places < -400 then zero negative
  else if 0 ≤ exponent then ofRatio negative (digits * tenTo exponent.toNat) 1
  else ofRatio negative digits (tenTo (-exponent).toNat)

/-- The magnitude of a finite number as a fraction. -/
def toFraction (mantissa : Nat) (exponent : Int) : Nat × Nat :=
  if 0 ≤ exponent then (mantissa * twoTo exponent.toNat, 1) else (mantissa, twoTo (-exponent).toNat)

/-- The number with the opposite sign. -/
def neg : Binary64 → Binary64
  | .finite s m e => .finite (!s) m e
  | .infinite s => .infinite !s
  | .nan => .nan

/-- The sum, rounded. -/
def add : Binary64 → Binary64 → Binary64
  | .nan, _ | _, .nan => .nan
  | .infinite s, .infinite t => if s = t then .infinite s else .nan
  | .infinite s, _ | _, .infinite s => .infinite s
  | .finite s m e, .finite t k f =>
    let (a, b) := toFraction m e
    let (c, d) := toFraction k f
    let x : Int := (if s then -(a : Int) else a) * d
    let y : Int := (if t then -(c : Int) else c) * b
    if x + y = 0 then zero (s && t) else ofRatio (x + y < 0) (x + y).natAbs (b * d)

/-- The product, rounded. -/
def mul : Binary64 → Binary64 → Binary64
  | .nan, _ | _, .nan => .nan
  | .infinite s, .infinite t => .infinite (s ≠ t)
  | .infinite s, .finite t m _ | .finite t m _, .infinite s =>
    if m = 0 then .nan else .infinite (s ≠ t)
  | .finite s m e, .finite t k f =>
    let (a, b) := toFraction m e
    let (c, d) := toFraction k f
    ofRatio (s ≠ t) (a * c) (b * d)

/-- The integer that a number is, if it is one. -/
def toInt? : Binary64 → Option Int
  | .finite s m e =>
    let (n, d) := toFraction m e
    if n % d = 0 then some (if s then -((n / d : Nat) : Int) else (n / d : Nat)) else none
  | _ => none

/-- Whether a number is neither infinite nor undefined. -/
def isFinite : Binary64 → Bool
  | .finite .. => true
  | _ => false

end Binary64
end BucketVhosts
