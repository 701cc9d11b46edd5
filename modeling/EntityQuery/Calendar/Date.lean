import EntityQuery.Number.Integer

/-!
# Dates and times of day

Dates of the Gregorian calendar from year 1 to 9999. `Date.ordinal` counts days, day 1 being the
first of January of year 1, and `Date.ofOrdinal?` reads the count back.
-/

namespace EntityQuery.Calendar

open Number (paddedText)

/-- Whether a year has 366 days. -/
def isLeap (year : Nat) : Bool := year % 4 = 0 && (year % 100 ≠ 0 || year % 400 = 0)

/-- The days of a month. -/
def daysInMonth (year month : Nat) : Nat :=
  match month with
  | 2 => if isLeap year then 29 else 28
  | 4 | 6 | 9 | 11 => 30
  | _ => 31

/-- The dates in use. -/
def ValidDate (year month day : Nat) : Prop :=
  1 ≤ year ∧ year ≤ 9999 ∧ 1 ≤ month ∧ month ≤ 12 ∧ 1 ≤ day ∧ day ≤ daysInMonth year month

instance (y m d : Nat) : Decidable (ValidDate y m d) := by unfold ValidDate; infer_instance

/-- A date. -/
structure Date where
  year : Nat
  month : Nat
  day : Nat
  valid : ValidDate year month day
  deriving DecidableEq

/-- A time of day to the microsecond. -/
structure TimeOfDay where
  hour : Nat
  minute : Nat
  second : Nat
  microsecond : Nat
  valid : hour ≤ 23 ∧ minute ≤ 59 ∧ second ≤ 59 ∧ microsecond ≤ 999999
  deriving DecidableEq

/-- A date and a time of day, with the distance from universal time in microseconds if known. -/
structure DateTime where
  date : Date
  time : TimeOfDay
  offset : Option Int
  deriving DecidableEq

/-- The date with the given parts. -/
def Date.of? (year month day : Nat) : Option Date :=
  if h : ValidDate year month day then some ⟨year, month, day, h⟩ else none

/-- The time with the given parts. -/
def TimeOfDay.of? (hour minute second microsecond : Nat) : Option TimeOfDay :=
  if h : hour ≤ 23 ∧ minute ≤ 59 ∧ second ≤ 59 ∧ microsecond ≤ 999999 then
    some ⟨hour, minute, second, microsecond, h⟩
  else none

/-- The first moment of a day. -/
def TimeOfDay.midnight : TimeOfDay := ⟨0, 0, 0, 0, by decide⟩

/-- The days before a year. -/
def daysBeforeYear (year : Nat) : Nat :=
  let y := year - 1
  365 * y + y / 4 - y / 100 + y / 400

/-- The days of a year before a month. -/
def daysBeforeMonth (year month : Nat) : Nat :=
  (List.range (month - 1)).foldl (fun days i => days + daysInMonth year (i + 1)) 0

/-- The number of a date, counted from 1 on the first of January of year 1. -/
def Date.ordinal (d : Date) : Nat :=
  daysBeforeYear d.year + daysBeforeMonth d.year d.month + d.day

/-- Month and day at a count of days from the first of January. -/
def monthDay (year : Nat) (month rest : Nat) : Nat → Nat × Nat
  | 0 => (month, rest + 1)
  | fuel + 1 =>
    if rest < daysInMonth year month then (month, rest + 1)
    else monthDay year (month + 1) (rest - daysInMonth year month) fuel

/-- Year and count of days from its first of January, at a count of days from year 1. The year
is at most one off from what the mean length of a year suggests. -/
def yearDay (days : Nat) : Nat × Nat :=
  let guess := days * 400 / 146097 + 1
  let year :=
    if days < daysBeforeYear guess then guess - 1
    else if daysBeforeYear (guess + 1) ≤ days then guess + 1
    else guess
  (year, days - daysBeforeYear year)

/-- The date with the given number. -/
def Date.ofOrdinal? (n : Nat) : Option Date :=
  if n = 0 then none
  else
    let (year, rest) := yearDay (n - 1)
    let (month, day) := monthDay year 1 rest 12
    Date.of? year month day

/-- The number of the first of January 1970. -/
def epochOrdinal : Nat := 719163

/-- Seconds since midnight. -/
def TimeOfDay.seconds (t : TimeOfDay) : Nat := t.hour * 3600 + t.minute * 60 + t.second

/-- Seconds between the start of 1970 and a moment, both read on the same clock. -/
def DateTime.clockSeconds (t : DateTime) : Int :=
  ((t.date.ordinal : Int) - epochOrdinal) * 86400 + t.time.seconds

/-- The moment at a number of seconds since the start of 1970, on one clock. -/
def DateTime.ofClockSeconds? (s : Int) : Option DateTime := do
  let days := Int.fdiv s 86400 + epochOrdinal
  let rest := (Int.fmod s 86400).toNat
  let date ← if days < 0 then none else Date.ofOrdinal? days.toNat
  let time ← TimeOfDay.of? (rest / 3600) (rest / 60 % 60) (rest % 60) 0
  pure ⟨date, time, none⟩

/-! ## Text -/

/-- Two digits. -/
def two (n : Nat) : String := paddedText 2 n

/-- `hour:minute:second`. -/
def TimeOfDay.clockText (t : TimeOfDay) : String :=
  two t.hour ++ ":" ++ two t.minute ++ ":" ++ two t.second

/-- The fraction of a second, if there is one. -/
def fractionText (microsecond : Nat) : String :=
  if microsecond = 0 then "" else "." ++ paddedText 6 microsecond

/-- The time with its fraction of a second. -/
def TimeOfDay.text (t : TimeOfDay) : String := t.clockText ++ fractionText t.microsecond

/-- `year-month-day` with four digits for the year. -/
def Date.text (d : Date) : String :=
  paddedText 4 d.year ++ "-" ++ two d.month ++ "-" ++ two d.day

/-- `year-month-day` with as many digits as the year has. -/
def Date.shortText (d : Date) : String :=
  Number.natText d.year ++ "-" ++ two d.month ++ "-" ++ two d.day

/-- The distance from universal time. -/
def offsetText (offset : Int) : String :=
  let n := offset.natAbs
  let seconds := n / 1000000
  (if offset < 0 then "-" else "+") ++ two (seconds / 3600) ++ ":" ++ two (seconds / 60 % 60)
    ++ (if n % 60000000 = 0 then ""
        else ":" ++ two (seconds % 60) ++ fractionText (n % 1000000))

/-- Date, separator, time and offset. -/
def DateTime.textWith (separator : String) (t : DateTime) : String :=
  t.date.text ++ separator ++ t.time.text ++ (t.offset.map offsetText).getD ""

/-- Date and time without fraction and offset; the year is not padded. -/
def DateTime.shortText (separator : String) (t : DateTime) : String :=
  t.date.shortText ++ separator ++ t.time.clockText

end EntityQuery.Calendar
