import BucketVhosts.Number.Integer

/-!
# Dates and times

Calendar dates of the years 1 to 9999, times of day to the microsecond, and offsets from universal
time of less than a day. A constructor checks its fields from the largest unit to the smallest and
names the first that is out of range.
-/
namespace BucketVhosts.Data

/-- Why the fields of a date or time name none. -/
inductive MomentFault where
  | year (n : Nat)
  | month
  | day
  | hour
  | minute
  | second
  /-- An offset of a day or more, in minutes. -/
  | offset (minutes : Int)
  deriving DecidableEq, Repr

/-- A span of whole minutes as days and seconds, the seconds being those past the last whole day
before it. -/
def spanText (minutes : Int) : String :=
  let days := minutes.fdiv 1440
  let seconds := (minutes.fmod 1440) * 60
  let parts :=
    (if days = 0 then [] else ["days=" ++ Integer.text days]) ++
    (if seconds = 0 then [] else ["seconds=" ++ Integer.text seconds])
  "datetime.timedelta(" ++ ", ".intercalate (if parts.isEmpty then ["0"] else parts) ++ ")"

/-- The wording of a fault. -/
def MomentFault.message : MomentFault → String
  | .year n => "year " ++ Integer.ofNat n ++ " is out of range"
  | .month => "month must be in 1..12"
  | .day => "day is out of range for month"
  | .hour => "hour must be in 0..23"
  | .minute => "minute must be in 0..59"
  | .second => "second must be in 0..59"
  | .offset minutes =>
    "offset must be a timedelta strictly between -timedelta(hours=24) and timedelta(hours=24), not "
      ++ spanText minutes ++ "."

/-- Whether a year has a 29th of February. -/
def isLeap (year : Nat) : Bool :=
  year % 4 = 0 && (year % 100 ≠ 0 || year % 400 = 0)

/-- The number of days of a month. -/
def daysInMonth (year month : Nat) : Nat :=
  if month = 2 then if isLeap year then 29 else 28
  else if month = 4 || month = 6 || month = 9 || month = 11 then 30
  else 31

/-- A calendar date. -/
structure Date where
  year : Nat
  month : Nat
  day : Nat
  deriving DecidableEq, Repr

/-- The date with these fields, if there is one. -/
def Date.make (year month day : Nat) : Except MomentFault Date :=
  if year < 1 || 9999 < year then .error (.year year)
  else if month < 1 || 12 < month then .error .month
  else if day < 1 || daysInMonth year month < day then .error .day
  else .ok ⟨year, month, day⟩

/-- The number of days from the first of January of year 1 to the date. -/
def Date.dayNumber (d : Date) : Nat :=
  let y := d.year - 1
  let before := (List.range (d.month - 1)).foldl (fun n m => n + daysInMonth d.year (m + 1)) 0
  y * 365 + y / 4 - y / 100 + y / 400 + before + (d.day - 1)

/-- A time of day. -/
structure TimeOfDay where
  hour : Nat
  minute : Nat
  second : Nat
  microsecond : Nat
  deriving DecidableEq, Repr

/-- The time with these fields, if there is one. -/
def TimeOfDay.make (hour minute second microsecond : Nat) : Except MomentFault TimeOfDay :=
  if 23 < hour then .error .hour
  else if 59 < minute then .error .minute
  else if 59 < second then .error .second
  else .ok ⟨hour, minute, second, microsecond⟩

/-- A date with a time, local unless it has an offset from universal time, in minutes. -/
structure DateTime where
  date : Date
  time : TimeOfDay
  offset : Option Int
  deriving DecidableEq, Repr

/-- Checks that an offset is less than a day either way. -/
def checkOffset (minutes : Int) : Except MomentFault Int :=
  if -1440 < minutes && minutes < 1440 then .ok minutes else .error (.offset minutes)

/-- Microseconds of universal time since the start of year 1, for a time with an offset. -/
def DateTime.instant? (t : DateTime) : Option Int :=
  t.offset.map fun minutes =>
    let seconds : Int :=
      ((t.date.dayNumber * 24 + t.time.hour) * 60 + t.time.minute : Nat) * 60 + t.time.second
        - minutes * 60
    seconds * 1000000 + t.time.microsecond

/-- Whether two times are the same: the same instant if both have offsets, the same fields if
neither has one. -/
def DateTime.same (s t : DateTime) : Bool :=
  match s.instant?, t.instant? with
  | some a, some b => a = b
  | none, none => s = t
  | _, _ => false

/-- A date in constructor form. -/
def Date.text (d : Date) : String :=
  "datetime.date(" ++ ", ".intercalate ([d.year, d.month, d.day].map Integer.ofNat) ++ ")"

/-- An offset in constructor form. -/
def offsetText (minutes : Int) : String :=
  if minutes = 0 then "datetime.timezone.utc" else "datetime.timezone(" ++ spanText minutes ++ ")"

/-- A date with a time in constructor form, which leaves out seconds and microseconds that are
zero. -/
def DateTime.text (t : DateTime) : String :=
  let d := t.date
  let base := [d.year, d.month, d.day, t.time.hour, t.time.minute]
  let fields :=
    if t.time.microsecond ≠ 0 then base ++ [t.time.second, t.time.microsecond]
    else if t.time.second ≠ 0 then base ++ [t.time.second]
    else base
  let zone := match t.offset with
    | none => []
    | some minutes => ["tzinfo=" ++ offsetText minutes]
  "datetime.datetime(" ++ ", ".intercalate (fields.map Integer.ofNat ++ zone) ++ ")"

end BucketVhosts.Data
