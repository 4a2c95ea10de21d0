import ServiceSupervisor.Duration

/-!
The proleptic Gregorian calendar over days and milliseconds since 1970-01-01T00:00:00Z.

* `Timestamp`: an instant of the wall clock in milliseconds;
* `isLeapYear`, `daysInMonth`: the lengths of years and months;
* `Date.ofDay` and `Date.toDay`: the civil date of a day number and back;
* `weekday`: the day of the week, Sunday being 1;
* `Timestamp.iso` and `Timestamp.ofIso?`: the written form `YYYY-MM-DDTHH:MM:SS.mmmZ`.
-/

namespace ServiceSupervisor

/-- Whether February has 29 days in a year. -/
def isLeapYear (year : Nat) : Bool := year % 4 = 0 && (year % 100 ≠ 0 || year % 400 = 0)

/-- The number of days of a month of a year. -/
def daysInMonth (year month : Nat) : Nat :=
  if month = 2 then if isLeapYear year then 29 else 28
  else if month = 4 ∨ month = 6 ∨ month = 9 ∨ month = 11 then 30
  else 31

/-- A civil date. -/
structure Date where
  /-- The year. -/
  year : Int
  /-- The month, January being 1. -/
  month : Nat
  /-- The day of the month, from 1. -/
  day : Nat
deriving DecidableEq, Repr, Inhabited

namespace Date

/-- The civil date of a day number.  Years are counted from March, so that the leap day ends its
year, in eras of 400 years (146097 days). -/
def ofDay (number : Int) : Date :=
  let shifted := number + 719468
  let era := shifted / 146097
  let dayOfEra := (shifted % 146097).toNat
  let yearOfEra := (dayOfEra - dayOfEra / 1460 + dayOfEra / 36524 - dayOfEra / 146096) / 365
  let dayOfYear := dayOfEra - (365 * yearOfEra + yearOfEra / 4 - yearOfEra / 100)
  let marchMonth := (5 * dayOfYear + 2) / 153
  let month := if marchMonth < 10 then marchMonth + 3 else marchMonth - 9
  { year := (yearOfEra : Int) + era * 400 + (if month ≤ 2 then 1 else 0)
    month := month
    day := dayOfYear - (153 * marchMonth + 2) / 5 + 1 }

/-- The day number of a civil date. -/
def toDay (d : Date) : Int :=
  let year := if d.month ≤ 2 then d.year - 1 else d.year
  let era := year / 400
  let yearOfEra := (year % 400).toNat
  let marchMonth := if d.month > 2 then d.month - 3 else d.month + 9
  let dayOfYear := (153 * marchMonth + 2) / 5 + d.day - 1
  let dayOfEra := yearOfEra * 365 + yearOfEra / 4 - yearOfEra / 100 + dayOfYear
  era * 146097 + (dayOfEra : Int) - 719468

end Date

/-- The day of the week of a day number, Sunday being 1. -/
def weekday (number : Int) : Nat := ((number + 4) % 7).toNat + 1

/-- An instant of the wall clock, in milliseconds since 1970-01-01T00:00:00Z. -/
abbrev Timestamp := Int

/-- A number with at least `width` digits, zeros in front. -/
def padded (width n : Nat) : String :=
  let digits := toString n
  String.ofList (List.replicate (width - digits.length) '0') ++ digits

namespace Timestamp

/-- The written form `YYYY-MM-DDTHH:MM:SS.mmmZ`. -/
def iso (t : Timestamp) : String :=
  let date := Date.ofDay (t / 86400000)
  let rest := (t % 86400000).toNat
  padded 4 date.year.toNat ++ "-" ++ padded 2 date.month ++ "-" ++ padded 2 date.day ++ "T"
    ++ padded 2 (rest / 3600000) ++ ":" ++ padded 2 (rest / 60000 % 60) ++ ":"
    ++ padded 2 (rest / 1000 % 60) ++ "." ++ padded 3 (rest % 1000) ++ "Z"

/-- The timestamp with this written form; the fraction of the second may be absent. -/
def ofIso? (text : String) : Option Timestamp := do
  let digits (from_ count : Nat) : Option Nat :=
    let part := (text.toList.drop from_).take count
    if part.length = count ∧ part.all Char.isDigit then (String.ofList part).toNat? else none
  let year ← digits 0 4
  let month ← digits 5 2
  let day ← digits 8 2
  let hour ← digits 11 2
  let minute ← digits 14 2
  let second ← digits 17 2
  let millis := (digits 20 3).getD 0
  let dayNumber := Date.toDay ⟨year, month, day⟩
  some (dayNumber * 86400000 + ((hour * 60 + minute) * 60 + second : Nat) * 1000 + millis)

end Timestamp

end ServiceSupervisor
