import BucketVhosts.Data.Value
import BucketVhosts.Number.Reading
import BucketVhosts.Toml.Text

/-!
# TOML numbers, dates and times

Numbers may have underscores between digits. A date may have a time after a `T` or a space, and a
time an offset from universal time.
-/
namespace BucketVhosts.Toml
open Data

/-- The ASCII digits of a base at the front, without the single underscores between them. -/
def takeDigits (base : Nat) : List Char → List Char × List Char
  | [] => ([], [])
  | '_' :: c :: rest => ([], '_' :: c :: rest)
  | c :: rest =>
    if isDigitOf c then
      match rest with
      | '_' :: d :: after =>
        if isDigitOf d then
          let (digits, after) := takeDigits base (d :: after)
          (c :: digits, after)
        else ([c], rest)
      | rest =>
        let (digits, after) := takeDigits base rest
        (c :: digits, after)
    else ([], c :: rest)
where
  /-- Whether a character is an ASCII digit of the base. -/
  isDigitOf (c : Char) : Bool :=
    c.toNat < 0x80 && (Integer.digit? base c).isSome

/-- The base that a letter after a zero announces. -/
def baseOf? : Char → Option Nat
  | 'x' => some 16
  | 'b' => some 2
  | 'o' => some 8
  | _ => none

/-- The integer after a zero and the letter of its base. -/
def readBased? : List Char → Option (Value × List Char)
  | '0' :: letter :: rest => do
    let base ← baseOf? letter
    let (digits, after) := takeDigits base rest
    let n ← Integer.ofDigits? base digits
    some (.int n, after)
  | _ => none

/-- The fraction at the front: the point with its digits, or nothing. -/
def takeFraction (cs : List Char) : List Char × List Char :=
  match cs with
  | '.' :: rest =>
    let (digits, after) := takeDigits 10 rest
    if digits.isEmpty then ([], cs) else ('.' :: digits, after)
  | cs => ([], cs)

/-- The exponent at the front: the letter with its sign and digits, or nothing. -/
def takeExponent (cs : List Char) : List Char × List Char :=
  match cs with
  | e :: rest =>
    if e = 'e' || e = 'E' then
      let sign := (rest.take 1).takeWhile fun c => c = '+' || c = '-'
      let (digits, after) := takeDigits 10 (rest.drop sign.length)
      if digits.isEmpty then ([], cs) else (e :: (sign ++ digits), after)
    else ([], cs)
  | [] => ([], [])

/-- The whole digits of a number: a zero alone, or digits that do not start with one. -/
def takeWhole (cs : List Char) : List Char × List Char :=
  match cs with
  | '0' :: rest => (['0'], rest)
  | cs => takeDigits 10 cs

/-- The number at the front, if there is one. -/
def readNumber? (cs : List Char) : Option (Except Stop Value × List Char) :=
  match readBased? cs with
  | some (v, after) => some (.ok v, after)
  | none =>
    let sign := (cs.take 1).takeWhile fun c => c = '+' || c = '-'
    let (whole, rest) := takeWhole (cs.drop sign.length)
    if whole.isEmpty then none
    else
      let (fraction, rest) := takeFraction rest
      let (exponent, rest) := takeExponent rest
      if fraction.isEmpty && exponent.isEmpty then
        if Integer.maxDigits < whole.length then
          some (.error (.fault (.value (.tooManyDigits whole.length))), rest)
        else
          let n := (Integer.ofDigits? 10 whole).getD 0
          some (.ok (.int (Integer.withSign (sign = ['-']) n)), rest)
      else
        let x := (Binary64.read? (.ofList (sign ++ whole ++ fraction ++ exponent))).getD .nan
        some (.ok (.real x), rest)

/-- The number that is not finite at the front, if there is one. -/
def readSpecial? (cs : List Char) : Option (Value × List Char) :=
  let sign := (cs.take 1).takeWhile fun c => c = '+' || c = '-'
  let rest := cs.drop sign.length
  if startsWith "inf" rest then some (.real (.infinite (sign = ['-'])), rest.drop 3)
  else if startsWith "nan" rest then some (.real .nan, rest.drop 3)
  else none

/-! ## Dates and times -/

/-- The number of exactly `width` digits at the front that lies in a range, if there is one. -/
def takeField? (width least most : Nat) (cs : List Char) : Option (Nat × List Char) := do
  let digits := cs.take width
  if digits.length = width && digits.all Char.isDigit then
    let n ← Integer.ofDigits? 10 digits
    if least ≤ n && n ≤ most then some (n, cs.drop width) else none
  else none

/-- Takes one character. -/
def takeChar? (c : Char) : List Char → Option (List Char)
  | [] => none
  | d :: rest => if c = d then some rest else none

/-- The microseconds of the fraction at the front, zero if there is none. Digits after the sixth
are dropped. -/
def takeMicroseconds (cs : List Char) : Nat × List Char :=
  match cs with
  | '.' :: rest =>
    let digits := rest.takeWhile Char.isDigit
    if digits.isEmpty then (0, cs)
    else
      let kept := digits.take 6
      ((Integer.ofDigits? 10 (kept ++ List.replicate (6 - kept.length) '0')).getD 0,
        rest.dropWhile Char.isDigit)
  | cs => (0, cs)

/-- The time of day at the front, if there is one. -/
def readTime? (cs : List Char) : Option (TimeOfDay × List Char) := do
  let (hour, cs) ← takeField? 2 0 23 cs
  let cs ← takeChar? ':' cs
  let (minute, cs) ← takeField? 2 0 59 cs
  let cs ← takeChar? ':' cs
  let (second, cs) ← takeField? 2 0 59 cs
  let (microsecond, cs) := takeMicroseconds cs
  some ({ hour, minute, second, microsecond }, cs)

/-- The offset at the front, in minutes, if there is one. -/
def takeOffset? (cs : List Char) : Option (Int × List Char) :=
  match cs with
  | 'Z' :: rest | 'z' :: rest => some (0, rest)
  | sign :: rest =>
    if sign = '+' || sign = '-' then do
      let (hours, rest) ← takeField? 2 0 23 rest
      let rest ← takeChar? ':' rest
      let (minutes, rest) ← takeField? 2 0 59 rest
      some (Integer.withSign (sign = '-') (hours * 60 + minutes), rest)
    else none
  | [] => none

/-- The fields of the date at the front, if there are any. -/
def takeDate? (cs : List Char) : Option (Nat × Nat × Nat × List Char) := do
  let (year, cs) ← takeField? 4 0 9999 cs
  let cs ← takeChar? '-' cs
  let (month, cs) ← takeField? 2 1 12 cs
  let cs ← takeChar? '-' cs
  let (day, cs) ← takeField? 2 1 31 cs
  some (year, month, day, cs)

/-- The time with its offset that follows a date, if there is one. -/
def takeDateTime? (cs : List Char) : Option (TimeOfDay × Option Int × List Char) :=
  match cs with
  | c :: rest =>
    if c = 'T' || c = 't' || c = ' ' then do
      let (time, rest) ← readTime? rest
      match takeOffset? rest with
      | some (minutes, rest) => some (time, some minutes, rest)
      | none => some (time, none, rest)
    else none
  | [] => none

/-- The date at the front with its time, if there is one. It must be in the calendar. -/
def readDate? (cs : List Char) : Option (Except Stop Value × List Char) := do
  let (year, month, day, rest) ← takeDate? cs
  match Date.make year month day, takeDateTime? rest with
  | .error _, _ => some (.error .invalid, rest)
  | .ok date, none => some (.ok (.date date), rest)
  | .ok date, some (time, offset, rest) => some (.ok (.dateTime ⟨date, time, offset⟩), rest)

end BucketVhosts.Toml
