import ServiceSupervisor.Calendar

/-!
Recurring fire times.

* `Schedule`: the seconds, minutes, hours, days of the month, months, week days and years at which
  a job fires, each as a list of values in increasing order;
* `Schedule.Fires`: the whole seconds at which a schedule fires;
* `Schedule.next`: the first such second strictly after a cursor, if the schedule names the year of
  the cursor.

Both day fields must match.  The years are those from 1970 to 2100, so the days searched are those
numbered from 0 up to `Schedule.dayLimit`.

A cursor in a year that the schedule does not name keeps its month, its day and its time of day
when it moves to the next year that the schedule names (`Schedule.enterYear`).  So a fire time that
is earlier in that year than the cursor is in its own is passed over.
-/

namespace ServiceSupervisor

/-- The values at which a job fires, field by field, each in increasing order. -/
structure Schedule where
  /-- The seconds of the minute. -/
  seconds : List Nat
  /-- The minutes of the hour. -/
  minutes : List Nat
  /-- The hours of the day. -/
  hours : List Nat
  /-- The days of the month, from 1. -/
  daysOfMonth : List Nat
  /-- The months, January being 1. -/
  months : List Nat
  /-- The days of the week, Sunday being 1. -/
  weekdays : List Nat
  /-- The years. -/
  years : List Nat
deriving DecidableEq, Repr, Inhabited

namespace Schedule

/-- The number of days from 1970 to 2100, the years that a schedule can name. -/
def dayLimit : Nat := 47847

/-- Whether the schedule fires on the day with this number. -/
def onDay (s : Schedule) (day : Nat) : Bool :=
  let date := Date.ofDay day
  s.years.contains date.year.toNat && s.months.contains date.month
    && s.daysOfMonth.contains date.day && s.weekdays.contains (weekday day)

/-- Whether the schedule fires at this second of the day. -/
def atTime (s : Schedule) (time : Nat) : Bool :=
  s.hours.contains (time / 3600) && s.minutes.contains (time / 60 % 60)
    && s.seconds.contains (time % 60)

/-- The schedule fires at second `second` since 1970. -/
def Fires (s : Schedule) (second : Nat) : Prop :=
  second / 86400 < dayLimit ∧ s.onDay (second / 86400) = true ∧ s.atTime (second % 86400) = true

instance (s : Schedule) (second : Nat) : Decidable (s.Fires second) := by
  unfold Fires; infer_instance

/-- The first fire time of a day at or after the given second of that day.  Hours and minutes that
lie wholly before it are passed over. -/
def firstTime (s : Schedule) (least : Nat) : Option Nat :=
  s.hours.findSome? fun hour =>
    if hour * 3600 + 3599 < least then none
    else s.minutes.findSome? fun minute =>
      if hour * 3600 + minute * 60 + 59 < least then none
      else s.seconds.findSome? fun second =>
        let time := hour * 3600 + minute * 60 + second
        if time < least then none else some time

/-- The first of the `count` days from `day` on on which the schedule fires. -/
def firstDay (s : Schedule) (day : Nat) : Nat → Option Nat
  | 0 => none
  | count + 1 => if s.onDay day then some day else s.firstDay (day + 1) count

/-- The first fire time on a day after the given one. -/
def firstAfterDay (s : Schedule) (day : Nat) : Option Nat := do
  let later ← s.firstDay (day + 1) (dayLimit - (day + 1))
  let time ← s.firstTime 0
  some (later * 86400 + time)

/-- The first fire time of the given day at or after the given second of that day. -/
def firstOnDay (s : Schedule) (day least : Nat) : Option Nat :=
  if day < dayLimit ∧ s.onDay day = true then
    (s.firstTime least).map fun time => day * 86400 + time
  else none

/-- The first fire time at or after the given second since 1970. -/
def firstAt (s : Schedule) (second : Nat) : Option Nat :=
  s.firstOnDay (second / 86400) (second % 86400) <|> s.firstAfterDay (second / 86400)

/-- The second at which the search for a fire time begins, in a year that the schedule names: in a
later year the month, the day and the time of day stay.  On a leap day they become the end of
February, at the same time of day if the schedule names the 29th and at its beginning if not. -/
def enterYear (s : Schedule) (second : Int) : Option Nat :=
  let date := Date.ofDay (second / 86400)
  let time := (second % 86400).toNat
  (s.years.find? fun (year : Nat) => decide (date.year ≤ year)).map fun (year : Nat) =>
    if date.year = year then second.toNat
    else
      if date.month = 2 ∧ date.day = 29 ∧ ¬isLeapYear year then
        (Date.toDay ⟨year, 2, 28⟩).toNat * 86400
          + (if s.daysOfMonth.contains 29 then time else 0)
      else (Date.toDay ⟨year, date.month, date.day⟩).toNat * 86400 + time

/-- The next fire time after the cursor; a fire time is a whole second. -/
def next (s : Schedule) (cursor : Timestamp) : Option Timestamp := do
  let start ← s.enterYear (cursor / 1000 + 1)
  let second ← s.firstAt start
  some ((second : Timestamp) * 1000)

end Schedule

end ServiceSupervisor
