import BucketVhosts.Data.Stop
import BucketVhosts.Data.Value
import BucketVhosts.Number.Reading
import BucketVhosts.Text.Lowercase
import BucketVhosts.Yaml.Kind

/-!
# Values of YAML scalars

The value of a scalar of a given kind. A tag can give a kind to any text, so that a text may turn
out to be no value of its kind.
-/
namespace BucketVhosts.Yaml
open Data

/-- The integer in a base that a text spells. -/
def integerOf (base : Nat) (cs : List Char) : Except Stop Int :=
  let s := String.ofList cs
  let bare := (Integer.takeSign (Text.trimWhile Text.isPlainBlank cs)).2
  let digits := bare.takeWhile fun c => (Text.digitValue? c).isSome
  if base = 10 && Integer.maxDigits < digits.length then
    .error (.fault (.value (.tooManyDigits digits.length)))
  else
    match Integer.read? base s with
    | some n => .ok n
    | none => .error (.fault (.value (.notInteger base s)))

/-- The parts of a number to base sixty, in order. -/
def sixtieths {α : Type} (read : List Char → Except Stop α) :
    List (List Char) → Except Stop (List α)
  | [] => .ok []
  | part :: rest => do
    let n ← read part
    let ns ← sixtieths read rest
    .ok (n :: ns)

/-- The sign of a number, and its text without it and without underscores. There must be some. -/
def unsigned (cs : List Char) : Except Stop (Bool × List Char) :=
  let cs := cs.filter (· ≠ '_')
  if cs.isEmpty then .error (.fault .noSuchPosition) else .ok (Integer.takeSign cs)

/-- The integer without sign that a text spells. -/
def magnitude (cs : List Char) : Except Stop Int :=
  match cs with
  | [] => .error (.fault .noSuchPosition)
  | ['0'] => .ok 0
  | '0' :: 'b' :: rest => integerOf 2 rest
  | '0' :: 'x' :: rest => integerOf 16 rest
  | '0' :: _ => integerOf 8 cs
  | cs =>
    if cs.contains ':' then do
      let parts ← sixtieths (integerOf 10) (cs.splitOn ':')
      .ok (parts.foldl (fun n part => n * 60 + part) 0)
    else integerOf 10 cs

/-- The integer that a text is. -/
def intValue (cs : List Char) : Except Stop Value := do
  let (negative, cs) ← unsigned cs
  let n ← magnitude cs
  .ok (.int (if negative then -n else n))

/-- The floating point number that a text spells. -/
def realOf (cs : List Char) : Except Stop Binary64 :=
  match Binary64.read? (.ofList cs) with
  | some x => .ok x
  | none => .error (.fault (.value (.notReal (.ofList cs))))

/-- The sum of the parts of a number to base sixty, from the last one on, the first of them being
worth `worth`. What a part is worth must be a floating point number itself. -/
def sumSixtieths (sum : Binary64) (worth : Nat) : List Binary64 → Except Stop Binary64
  | [] => .ok sum
  | part :: rest =>
    let factor := Binary64.ofRatio false worth 1
    if factor.isFinite then sumSixtieths (sum.add (part.mul factor)) (worth * 60) rest
    else .error (.fault .overflow)

/-- The floating point number that a text is. -/
def realValue (cs : List Char) : Except Stop Value := do
  let (negative, cs) ← unsigned (Text.lower (.ofList cs)).toList
  let x ←
    match String.ofList cs with
    | ".inf" => pure (.infinite false)
    | ".nan" => pure .nan
    | _ =>
      if cs.contains ':' then do
        let parts ← sixtieths realOf (cs.splitOn ':')
        sumSixtieths (.zero false) 1 parts.reverse
      else realOf cs
  .ok (.real (if negative then x.neg else x))

/-- The truth value that a text is. -/
def boolValue (s : String) : Except Stop Value :=
  match Text.lower s with
  | "yes" | "true" | "on" => .ok (.bool true)
  | "no" | "false" | "off" => .ok (.bool false)
  | _ => .error (.fault .noSuchKey)

/-- The date or time that a text is. -/
def stampValue (cs : List Char) : Except Stop Value :=
  let cs := if cs.getLast? = some '\n' then cs.dropLast else cs
  match StampFields.read? cs with
  | none => .error (.fault .noSuchPart)
  | some fields =>
    match fields.moment with
    | .error fault => .error (.fault (.value (.moment fault)))
    | .ok (.inl date) => .ok (.date date)
    | .ok (.inr time) => .ok (.dateTime time)

/-! ## Bytes -/

/-- The value of a digit to base 64. -/
def digit64? (c : Char) : Option Nat :=
  if c.isUpper then some (c.toNat - 'A'.toNat)
  else if c.isLower then some (c.toNat - 'a'.toNat + 26)
  else if c.isDigit then some (c.toNat - '0'.toNat + 52)
  else if c = '+' then some 62
  else if c = '/' then some 63
  else none

/-- The bytes that digits to base 64 spell. `place` is the number of digits since the last whole
group of four, `carry` the bits of the last digit that are still due, and `pads` the number of
padding characters since the last digit. Other characters are passed over. -/
def decode64 (place carry pads : Nat) : List Char → Except Stop (List UInt8)
  | [] => if place = 0 then .ok [] else .error .invalid
  | c :: rest =>
    if c = '=' then
      if 2 ≤ place then
        if 4 ≤ place + (pads + 1) then .ok [] else decode64 place carry (pads + 1) rest
      else decode64 place carry pads rest
    else
      match digit64? c with
      | none => decode64 place carry pads rest
      | some d =>
        match place with
        | 0 => decode64 1 d 0 rest
        | 1 => (decode64 2 (d % 16) 0 rest).map (UInt8.ofNat (carry * 4 + d / 16) :: ·)
        | 2 => (decode64 3 (d % 4) 0 rest).map (UInt8.ofNat (carry * 16 + d / 4) :: ·)
        | _ => (decode64 0 0 0 rest).map (UInt8.ofNat (carry * 64 + d) :: ·)

/-- The bytes that a text spells. -/
def bytesValue (cs : List Char) : Except Stop Value :=
  if cs.all fun c => c.toNat < 0x80 then (decode64 0 0 0 cs).map .bytes else .error .invalid

/-- Whether a text is a spelling of the number that is not equal to itself. All numbers that are
spelled so are one, while any other such number is one of its own. -/
def isCommonNan (text : String) : Bool :=
  let cs := (Text.lower text).toList.filter (· ≠ '_')
  (Integer.takeSign cs).2 = ".nan".toList

/-- The value of a scalar of a kind. -/
def scalarValue (kind : Kind) (text : String) : Except Stop Value :=
  let cs := text.toList
  match kind with
  | .null => .ok .null
  | .bool => boolValue text
  | .int => intValue cs
  | .real => realValue cs
  | .timestamp => stampValue cs
  | .binary => bytesValue cs
  | .text => .ok (.text text)
  | _ => .error .invalid

end BucketVhosts.Yaml
