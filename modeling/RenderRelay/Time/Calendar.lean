import RenderRelay.Text.Search
import RenderRelay.Number.Shortest

/-! # The calendar

Moments are counted in milliseconds since the start of 1970, in universal time.

* `Moment.ofMillis` splits a count into date and time of day, by the proleptic Gregorian
  calendar: years of 400 years' cycles, counted from March.
* `Moment.iso` writes a moment as `2023-11-14T22:13:20`, with the milliseconds behind it if
  there are any. -/

namespace RenderRelay

open Number

/-- A date and a time of day. -/
structure Moment where
  year : Int
  month : Nat
  day : Nat
  hour : Nat
  minute : Nat
  second : Nat
  milli : Nat
deriving DecidableEq, Repr

namespace Moment

/-- Year, month and day of a day counted from the start of 1970. -/
def dateOfDays (days : Int) : Int × Nat × Nat :=
  let shifted := days + 719468
  let era := Int.fdiv shifted 146097
  let dayOfEra := (shifted - era * 146097).toNat
  let yearOfEra :=
    (dayOfEra - dayOfEra / 1460 + dayOfEra / 36524 - dayOfEra / 146096) / 365
  let dayOfYear := dayOfEra - (365 * yearOfEra + yearOfEra / 4 - yearOfEra / 100)
  let fromMarch := (5 * dayOfYear + 2) / 153
  let day := dayOfYear - (153 * fromMarch + 2) / 5 + 1
  let month := if fromMarch < 10 then fromMarch + 3 else fromMarch - 9
  let year := yearOfEra + era * 400 + (if month ≤ 2 then 1 else 0)
  (year, month, day)

/-- The moment of a count of milliseconds. -/
def ofMillis (millis : Int) : Moment :=
  let days := Int.fdiv millis 86400000
  let rest := (millis - days * 86400000).toNat
  let (year, month, day) := dateOfDays days
  ⟨year, month, day, rest / 3600000, rest / 60000 % 60, rest / 1000 % 60, rest % 1000⟩

/-- The day of the week, Sunday being zero. -/
def weekday (millis : Int) : Nat := (Int.fmod (Int.fdiv millis 86400000 + 4) 7).toNat

/-- The day of the year, counted from one. -/
def dayOfYear (moment : Moment) : Nat :=
  let leap := decide (moment.year % 4 = 0 ∧ (moment.year % 100 ≠ 0 ∨ moment.year % 400 = 0))
  let before := [0, 31, 59, 90, 120, 151, 181, 212, 243, 273, 304, 334].getD (moment.month - 1) 0
  before + moment.day + (if leap && decide (2 < moment.month) then 1 else 0)

/-- A number with zeros before it. -/
def padded (width n : Nat) : String :=
  let digits := natDigits n
  String.ofList (List.replicate (width - digits.length) '0' ++ digits)

/-- The date as `2023-11-14`. -/
def dateText (moment : Moment) : String :=
  padded 4 moment.year.toNat ++ "-" ++ padded 2 moment.month ++ "-" ++ padded 2 moment.day

/-- The time of day as `22:13:20`. -/
def timeText (moment : Moment) : String :=
  padded 2 moment.hour ++ ":" ++ padded 2 moment.minute ++ ":" ++ padded 2 moment.second

/-- The moment with a `T` between date and time; milliseconds are written with six digits. -/
def iso (moment : Moment) : String :=
  moment.dateText ++ "T" ++ moment.timeText ++
    (if moment.milli = 0 then "" else "." ++ padded 3 moment.milli ++ "000")

end Moment

end RenderRelay
