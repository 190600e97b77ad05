import BucketVhosts.Data.Moment
import BucketVhosts.Number.Integer

/-!
# Timestamps in YAML texts

A date of year, month and day, with or without a time of day after a `T` or white space, and a
time zone.
-/
namespace BucketVhosts.Yaml

/-- The fields of a time of day with its zone as they are written. -/
structure TimeFields where
  hour : Nat
  minute : Nat
  second : Nat
  /-- The digits after the point. -/
  fraction : List Char
  /-- The offset from universal time in minutes. -/
  offset : Option Int

/-- The fields of a timestamp as they are written. -/
structure StampFields where
  year : Nat
  month : Nat
  day : Nat
  /-- Whether month and day have two digits each. -/
  isPadded : Bool
  time : Option TimeFields

/-- The ASCII digits at the front, of which there must be `least` to `most`, as a number with the
count of the digits. -/
def takeNumber? (least most : Nat) (cs : List Char) : Option (Nat × Nat × List Char) :=
  let digits := (cs.take most).takeWhile Char.isDigit
  if digits.length < least then none
  else (Integer.ofDigits? 10 digits).map fun n => (n, digits.length, cs.drop digits.length)

/-- Takes one character. -/
def takeChar? (c : Char) : List Char → Option (List Char)
  | [] => none
  | d :: rest => if c = d then some rest else none

/-- The offset that the end of a timestamp spells, if there is one. -/
def takeZone? (cs : List Char) : Option (Option Int) :=
  let zone := cs.dropWhile fun c => c = ' ' || c = '\t'
  match zone with
  | [] => if cs.isEmpty then some none else none
  | ['Z'] => some (some 0)
  | sign :: rest =>
    if sign = '+' || sign = '-' then do
      let (hours, _, rest) ← takeNumber? 1 2 rest
      let minutes ← match rest with
        | [] => some 0
        | ':' :: rest =>
          match takeNumber? 2 2 rest with
          | some (n, _, []) => some n
          | _ => none
        | _ => none
      let total : Int := hours * 60 + minutes
      some (some (if sign = '-' then -total else total))
    else none

/-- The time that follows the date of a timestamp. -/
def takeTime? (cs : List Char) : Option TimeFields := do
  let (hour, _, cs) ← takeNumber? 1 2 cs
  let cs ← takeChar? ':' cs
  let (minute, _, cs) ← takeNumber? 2 2 cs
  let cs ← takeChar? ':' cs
  let (second, _, cs) ← takeNumber? 2 2 cs
  let (fraction, cs) := match cs with
    | '.' :: rest => (rest.takeWhile Char.isDigit, rest.dropWhile Char.isDigit)
    | cs => ([], cs)
  let offset ← takeZone? cs
  some { hour, minute, second, fraction, offset }

/-- What separates a time from its date is dropped; there must be something. -/
def dropSeparator? : List Char → Option (List Char)
  | [] => none
  | c :: rest =>
    if c = 'T' || c = 't' then some rest
    else if c = ' ' || c = '\t' then some (rest.dropWhile fun c => c = ' ' || c = '\t')
    else none

/-- The fields of the timestamp that a text is. -/
def StampFields.read? (cs : List Char) : Option StampFields := do
  let (year, _, cs) ← takeNumber? 4 4 cs
  let cs ← takeChar? '-' cs
  let (month, monthWidth, cs) ← takeNumber? 1 2 cs
  let cs ← takeChar? '-' cs
  let (day, dayWidth, cs) ← takeNumber? 1 2 cs
  let isPadded := monthWidth = 2 && dayWidth = 2
  if cs.isEmpty then some { year, month, day, isPadded, time := none }
  else
    let time ← takeTime? (← dropSeparator? cs)
    some { year, month, day, isPadded, time := some time }

/-- The microseconds that the digits after the point spell; further digits are dropped. -/
def microseconds (fraction : List Char) : Nat :=
  let digits := fraction.take 6
  (Integer.ofDigits? 10 (digits ++ List.replicate (6 - digits.length) '0')).getD 0

/-- The date, with the time if there is one, that fields name. -/
def StampFields.moment (f : StampFields) :
    Except Data.MomentFault (Data.Date ⊕ Data.DateTime) := do
  match f.time with
  | none => return .inl (← Data.Date.make f.year f.month f.day)
  | some t => do
    let offset ← match t.offset with
      | none => pure none
      | some minutes => (Data.checkOffset minutes).map some
    let date ← Data.Date.make f.year f.month f.day
    let time ← Data.TimeOfDay.make t.hour t.minute t.second (microseconds t.fraction)
    return .inr ⟨date, time, offset⟩

end BucketVhosts.Yaml
