import BucketVhosts.Number.Binary64
import BucketVhosts.Number.Integer

/-!
# The shortest decimal text of a floating point number

The text of a number has the fewest digits that read back as the number, and among those the
nearest. It is positional from `10 ^ -4` up to below `10 ^ 16` and then always has a point;
elsewhere it is in scientific form with an exponent of at least two digits.
-/
namespace BucketVhosts.Binary64

/-- The fractions, over a common denominator, between which everything rounds to the number:
lower end, value, upper end, denominator. A power of two has a nearer neighbour below. -/
def roundingInterval (mantissa : Nat) (exponent : Int) : Nat × Nat × Nat × Nat :=
  let (n, d) := toFraction mantissa exponent
  let (n, d) := (n * 4, d * 4)
  let (u, v) := toFraction 1 exponent
  let halfGap := u * 2 * (d / (4 * v))
  let below := if mantissa = twoTo 52 && minExponent < exponent then halfGap / 2 else halfGap
  (n - below, n, n + halfGap, d)

/-- The place of the decimal point: the least `k` with `num / den < 10 ^ k`, searched upward. -/
def pointPlace (num den : Nat) : Int :=
  let up := (Nat.toDigits 10 (num / den)).length
  if den ≤ num then up
  else
    let inverse := (Nat.toDigits 10 (den / num)).length
    -- `10 ^ (inverse - 1) ≤ den / num < 10 ^ inverse`, so the place is one of two
    if den ≤ num * tenTo (inverse - 1) then 1 - (inverse - 1 : Int) else 1 - (inverse : Int)

/-- The nearest number of `count` digits to `value / den`, as digits before the decimal exponent
`place - count`, if it lies in the interval from `low` to `high`. -/
def candidate? (low value high den : Nat) (closed : Bool) (place : Int) (count : Nat) :
    Option Nat :=
  let shift := (count : Int) - place
  let grow (x : Nat) : Nat := if 0 ≤ shift then x * tenTo shift.toNat else x
  let unit : Nat := if 0 ≤ shift then den else den * tenTo (-shift).toNat
  let down := grow value / unit
  let fits (c : Nat) : Bool :=
    if closed then grow low ≤ c * unit && c * unit ≤ grow high
    else grow low < c * unit && c * unit < grow high
  let nearest := roundQuotient (grow value) unit
  if fits nearest then some nearest
  else if fits down then some down
  else if fits (down + 1) then some (down + 1)
  else none

/-- The shortest digits of a positive number and the place of its decimal point. Seventeen digits
always suffice. -/
def shortestDigits (mantissa : Nat) (exponent : Int) : List Char × Int :=
  let (low, value, high, den) := roundingInterval mantissa exponent
  let place := pointPlace value den
  let found := (List.range 17).findSome? fun k =>
    candidate? low value high den (mantissa % 2 = 0) place (k + 1)
      |>.map fun digits => (digits, k + 1)
  let (digits, count) := found.getD (0, 1)
  let text := Nat.toDigits 10 digits
  (Text.dropEndWhile (· = '0') text, place + ((text.length : Int) - count))

/-- A positive number from its digits and the place of the decimal point. -/
def layOut (digits : List Char) (place : Int) : List Char :=
  if -4 < place && place ≤ 16 then
    if place ≤ 0 then '0' :: '.' :: (List.replicate (-place).toNat '0' ++ digits)
    else
      let whole := digits.take place.toNat
      let fraction := digits.drop place.toNat
      whole ++ List.replicate (place.toNat - whole.length) '0' ++
        '.' :: (if fraction.isEmpty then ['0'] else fraction)
  else
    let e := place - 1
    let exponent := Nat.toDigits 10 e.natAbs
    let padded := if exponent.length < 2 then '0' :: exponent else exponent
    digits.take 1 ++ (if digits.length ≤ 1 then [] else '.' :: digits.drop 1) ++
      'e' :: (if e < 0 then '-' else '+') :: padded

/-- The text of a number. -/
def text : Binary64 → String
  | .nan => "nan"
  | .infinite negative => if negative then "-inf" else "inf"
  | .finite negative m e =>
    let body :=
      if m = 0 then ['0', '.', '0']
      else
        let (digits, place) := shortestDigits m e
        layOut digits place
    .ofList (if negative then '-' :: body else body)

end BucketVhosts.Binary64
