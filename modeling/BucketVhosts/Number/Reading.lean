import BucketVhosts.Number.Binary64
import BucketVhosts.Number.Integer

/-!
# Reading decimal numbers

The floating point number that a text spells: a sign, digits with or without a point, and an
exponent; or one of the names of the numbers that are not finite, in any letter case.
-/
namespace BucketVhosts.Binary64

/-- The digits at the front, of any script, and what follows them. -/
def takeDecimal : List Char → List Nat × List Char
  | [] => ([], [])
  | c :: rest =>
    match Text.digitValue? c with
    | some d =>
      let (digits, after) := takeDecimal rest
      (d :: digits, after)
    | none => ([], c :: rest)

/-- The number that digits spell. -/
def ofDigits (digits : List Nat) : Nat :=
  digits.foldl (fun n d => n * 10 + d) 0

/-- The exponent that the end of a number spells, zero if there is nothing. -/
def readExponent? : List Char → Option Int
  | [] => some 0
  | c :: rest =>
    if c = 'e' || c = 'E' then
      let (negative, rest) := Integer.takeSign rest
      let (digits, after) := takeDecimal rest
      if digits.isEmpty || !after.isEmpty then none
      else some (Integer.withSign negative (ofDigits digits))
    else none

/-- The number that digits, a point and an exponent spell. -/
def readDecimal? (negative : Bool) (cs : List Char) : Option Binary64 :=
  let (whole, rest) := takeDecimal cs
  let (fraction, rest) := match rest with
    | '.' :: rest => takeDecimal rest
    | rest => ([], rest)
  if whole.isEmpty && fraction.isEmpty then none
  else
    (readExponent? rest).map fun e =>
      .ofDecimal negative (ofDigits (whole ++ fraction)) (e - fraction.length)

/-- The number that a text spells. White space around it is allowed. -/
def read? (s : String) : Option Binary64 :=
  let (negative, rest) := Integer.takeSign (Text.trimWhile Text.isPlainBlank s.toList)
  match String.ofList (rest.map Char.toLower) with
  | "inf" | "infinity" => some (.infinite negative)
  | "nan" => some .nan
  | _ => readDecimal? negative rest

end BucketVhosts.Binary64
