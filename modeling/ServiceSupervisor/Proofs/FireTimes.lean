import Mathlib.Tactic.ByContra
import ServiceSupervisor.Scheduler

/-!
The next fire time comes after the cursor.

* `Date.le_toDay`: a date in a later year is a later day;
* `Schedule.le_enterYear`: the search for a fire time does not begin before the cursor, also when it
  begins in a later year;
* `Schedule.le_firstAt`: it does not end before it began;
* `Schedule.lt_next`: so the fire time is after the cursor;
* `Scheduler.loopReady_stepLoop`: so a loop that has gone on has to wait, or has ended.
-/

namespace ServiceSupervisor

/-! ### Days and years -/

namespace Date

/-- The number of days before a year that begins in March. -/
def daysBefore (year : Int) : Int :=
  year / 400 * 146097
    + ((year % 400).toNat * 365 + (year % 400).toNat / 4 - (year % 400).toNat / 100 : Nat)

/-- Such a year has 365 days at least. -/
lemma daysBefore_add_one (year : Int) : daysBefore year + 365 ≤ daysBefore (year + 1) := by
  rw [daysBefore, daysBefore]
  omega

lemma daysBefore_lt {year later : Int} (h : year < later) :
    daysBefore year + 365 ≤ daysBefore later := by
  obtain ⟨n, rfl⟩ : ∃ n : Nat, later = year + 1 + n := ⟨(later - (year + 1)).toNat, by omega⟩
  clear h
  induction n with
  | zero => simpa using daysBefore_add_one year
  | succ n ih =>
      have hstep := daysBefore_add_one (year + 1 + n)
      have hassoc : year + 1 + (n + 1 : Nat) = year + 1 + n + 1 := by omega
      rw [hassoc]
      omega

/-- The year that began in the last March. -/
def marchYear (year : Int) (month : Nat) : Int := if month ≤ 2 then year - 1 else year

/-- The day of that year, from 0. -/
def dayOfYear (month day : Nat) : Nat :=
  (153 * (if month > 2 then month - 3 else month + 9) + 2) / 5 + day - 1

/-- A date is a day of such a year. -/
lemma toDay_eq (year : Int) (month day : Nat) :
    toDay ⟨year, month, day⟩
      = daysBefore (marchYear year month) + dayOfYear month day - 719468 := by
  rw [toDay, daysBefore, marchYear, dayOfYear]
  dsimp only
  omega

/-- The year of an era to which a day of the era belongs, if each four years had 1460 days, with the
corrections for longer ones. -/
def yearOfEra (dayOfEra : Nat) : Nat :=
  (dayOfEra - dayOfEra / 1460 + dayOfEra / 36524 - dayOfEra / 146096) / 365

/-- A day lies in the year that it is said to lie in, or on the day after its end. -/
lemma le_yearOfEra {dayOfEra : Nat} (h : dayOfEra < 146097) :
    yearOfEra dayOfEra < 400 ∧ dayOfEra
      ≤ 365 * yearOfEra dayOfEra + yearOfEra dayOfEra / 4 - yearOfEra dayOfEra / 100 + 366 := by
  have hyear : yearOfEra dayOfEra
      = (dayOfEra - dayOfEra / 1460 + dayOfEra / 36524 - dayOfEra / 146096) / 365 := rfl
  generalize yearOfEra dayOfEra = year at hyear ⊢
  have hlt : year < 400 := by omega
  have hcentury : dayOfEra / 36524 ≤ year / 100 + 1 := by omega
  have hleap : dayOfEra / 1460 ≤ year / 4 + 1 := by omega
  omega

/-- The month of a day of a year that begins in March. -/
def monthOf (dayOfYear : Nat) : Nat :=
  if (5 * dayOfYear + 2) / 153 < 10 then (5 * dayOfYear + 2) / 153 + 3
  else (5 * dayOfYear + 2) / 153 - 9

/-- The day of the month of a day of a year that begins in March. -/
def dayOf (dayOfYear : Nat) : Nat := dayOfYear - (153 * ((5 * dayOfYear + 2) / 153) + 2) / 5 + 1

/-- The date of a day of a year is a day of that year again, and not before it. -/
lemma le_dayOfYear (year : Int) (day : Nat) (h : day ≤ 366) :
    day ≤ dayOfYear (monthOf day) (dayOf day) ∧
      marchYear (year + if monthOf day ≤ 2 then 1 else 0) (monthOf day) = year := by
  rw [dayOfYear, dayOf, marchYear]
  constructor
  · rw [monthOf]
    split <;> split <;> omega
  · split <;> omega

/-- The day of its year on which a day of an era lies. -/
def dayInYear (dayOfEra : Nat) : Nat :=
  dayOfEra
    - (365 * yearOfEra dayOfEra + yearOfEra dayOfEra / 4 - yearOfEra dayOfEra / 100)

/-- The date of a day, by era, year and month. -/
lemma ofDay_eq (number : Int) : ∃ (era : Int) (dayOfEra : Nat), dayOfEra < 146097 ∧
    number = era * 146097 + dayOfEra - 719468 ∧
      ofDay number = ⟨yearOfEra dayOfEra + era * 400
        + (if monthOf (dayInYear dayOfEra) ≤ 2 then 1 else 0),
          monthOf (dayInYear dayOfEra), dayOf (dayInYear dayOfEra)⟩ :=
  ⟨(number + 719468) / 146097, ((number + 719468) % 146097).toNat, by omega, by omega, rfl⟩

/-- The date of a day is not before it. -/
lemma le_daysBefore (number : Int) :
    number ≤ daysBefore (marchYear (ofDay number).year (ofDay number).month)
      + dayOfYear (ofDay number).month (ofDay number).day - 719468 := by
  obtain ⟨era, dayOfEra, hlt, hnumber, hdate⟩ := ofDay_eq number
  obtain ⟨hyear, hle⟩ := le_yearOfEra hlt
  obtain ⟨hday, hmarch⟩ := le_dayOfYear (yearOfEra dayOfEra + era * 400) (dayInYear dayOfEra)
    (by rw [dayInYear]; omega)
  have hbefore : daysBefore (yearOfEra dayOfEra + era * 400) + dayInYear dayOfEra
      ≥ era * 146097 + dayOfEra := by
    have hera : (yearOfEra dayOfEra + era * 400) / 400 = era := by omega
    have hyear' : ((yearOfEra dayOfEra + era * 400) % 400).toNat = yearOfEra dayOfEra := by omega
    rw [daysBefore, dayInYear, hera, hyear']
    omega
  rw [hdate]
  dsimp only
  rw [hmarch]
  omega

/-- **A date in a later year is a later day**, by 365 days at least. -/
lemma le_toDay (number year : Int) (h : (ofDay number).year < year) :
    number + 365 ≤ toDay ⟨year, (ofDay number).month, (ofDay number).day⟩ := by
  have hle := le_daysBefore number
  have hmarch : marchYear (ofDay number).year (ofDay number).month
      < marchYear year (ofDay number).month := by
    rw [marchYear, marchYear]
    split <;> omega
  have hlater := daysBefore_lt hmarch
  rw [toDay_eq]
  omega

end Date

/-! ### Schedules -/

namespace Schedule

variable (s : Schedule)

/-- The search for a fire time does not begin before the second at which it is asked for. -/
lemma le_enterYear {second : Int} {start : Nat} (h : s.enterYear second = some start) :
    second ≤ start := by
  obtain ⟨year, hyear, hstart⟩ := Option.map_eq_some_iff.mp h
  have hle : (Date.ofDay (second / 86400)).year ≤ year := by
    simpa using List.find?_some hyear
  by_cases hsame : (Date.ofDay (second / 86400)).year = year
  · rw [if_pos hsame] at hstart
    omega
  · have hlater := Date.le_toDay (second / 86400) year (by omega)
    rw [if_neg hsame] at hstart
    split at hstart
    · rename_i hleap
      -- The leap day has become the day before it.
      rw [hleap.1, hleap.2.1, Date.toDay_eq] at hlater
      rw [Date.toDay_eq] at hstart
      have hbefore : Date.dayOfYear 2 28 + 1 = Date.dayOfYear 2 29 := rfl
      omega
    · omega

/-- The search within a day does not go back. -/
lemma le_firstTime {least time : Nat} (h : s.firstTime least = some time) : least ≤ time := by
  obtain ⟨hour, -, hhour⟩ := List.exists_of_findSome?_eq_some h
  obtain ⟨-, hhour⟩ := Option.ite_none_left_eq_some.mp hhour
  obtain ⟨minute, -, hminute⟩ := List.exists_of_findSome?_eq_some hhour
  obtain ⟨-, hminute⟩ := Option.ite_none_left_eq_some.mp hminute
  obtain ⟨second, -, hsecond⟩ := List.exists_of_findSome?_eq_some hminute
  obtain ⟨hle, htime⟩ := Option.ite_none_left_eq_some.mp hsecond
  have heq := Option.some.inj htime
  omega

/-- The search over days does not go back. -/
lemma le_firstDay {day later count : Nat} (h : s.firstDay day count = some later) :
    day ≤ later := by
  induction count generalizing day with
  | zero => cases h
  | succ count ih =>
      rw [firstDay] at h
      split at h
      · exact Nat.le_of_eq (Option.some.inj h)
      · have hle := ih h
        omega

/-- The search for a fire time does not end before it began. -/
lemma le_firstAt {start second : Nat} (h : s.firstAt start = some second) : start ≤ second := by
  rw [firstAt] at h
  cases hday : s.firstOnDay (start / 86400) (start % 86400) with
  | some found =>
      have hfound : found = second := by simpa only [hday, Option.orElse_eq_orElse,
        Option.orElse_some, Option.some.injEq] using h
      obtain ⟨-, hday⟩ := Option.ite_none_right_eq_some.mp hday
      obtain ⟨time, htime, heq⟩ := Option.map_eq_some_iff.mp hday
      have hle := s.le_firstTime htime
      omega
  | none =>
      have hafter : s.firstAfterDay (start / 86400) = some second := by simpa [hday] using h
      obtain ⟨later, hlater, htime⟩ := Option.bind_eq_some_iff.mp hafter
      obtain ⟨time, -, hfound⟩ := Option.bind_eq_some_iff.mp htime
      have hle := s.le_firstDay hlater
      have heq := Option.some.inj hfound
      omega

/-- **The next fire time comes after the cursor.** -/
theorem lt_next {cursor fire : Int} (h : s.next cursor = some fire) : cursor < fire := by
  obtain ⟨start, hstart, h⟩ := Option.bind_eq_some_iff.mp h
  obtain ⟨second, hsecond, h⟩ := Option.bind_eq_some_iff.mp h
  have hle := s.le_enterYear hstart
  have hle' := s.le_firstAt hsecond
  have heq : (second : Int) * 1000 = fire := Option.some.inj h
  omega

end Schedule

/-! ### Loops -/

namespace Anchor

variable (a : Anchor) (now : Nat)

/-- The wall clock at its own instant is the anchor's. -/
lemma wallAt_instant : a.wallAt a.instant = a.wall := by
  rw [wallAt, Int.sub_self, Int.add_zero]

/-- What comes after now on the wall clock comes after now. -/
lemma lt_instantOf {fire : Timestamp} (h : a.wallAt now < fire) : now < a.instantOf fire := by
  have hlater : ∀ (wall fire : Int) (instant : Nat), wall + ((now : Int) - instant) < fire →
      now < instant + (fire - wall).toNat := by
    omega
  exact hlater a.wall fire a.instant h

end Anchor

namespace Scheduler

variable (s : Scheduler) (place now : Nat) (job : ScheduledJob) (anchor : Anchor)

/-- A loop that looks up a fire time no earlier than its wall clock has to wait for it. -/
lemma loopReady_seek {cursor : Timestamp} (h : anchor.wallAt now ≤ cursor) :
    s.loopReady now ⟨place, (seek job s.stopping anchor cursor).1⟩ = false := by
  rw [seek]
  cases hnext : job.schedule.next cursor with
  | none => rfl
  | some fire =>
      have hlater : now < anchor.instantOf fire :=
        anchor.lt_instantOf now (Int.lt_of_le_of_lt h (job.schedule.lt_next hnext))
      cases hstopping : s.stopping with
      | true => rfl
      | false => simpa [loopReady, hstopping] using hlater

/-- So does one whose run has ended. -/
lemma loopReady_finishRun (fire : Timestamp) (outcome : JobOutcome) :
    s.loopReady now ⟨place, (finishRun job s.stopping anchor fire outcome now).1⟩ = false := by
  have hseek := loopReady_seek s place now job anchor (Int.le_max_right fire (anchor.wallAt now))
  cases outcome with
  | completed => exact hseek
  | failed error => exact hseek
  | panicked => rfl

/-- One whose run has begun works, unless the run has ended at once. -/
lemma loopReady_beginRun (fire : Timestamp) :
    s.loopReady now ⟨place, (beginRun job s.stopping anchor fire now).1⟩ = false := by
  rw [beginRun]
  dsimp only
  split
  · exact loopReady_finishRun s place now job anchor fire _
  · rename_i hwork
    simp only [loopReady, decide_eq_false_iff_not]
    omega

/-- **A loop that has gone on has to wait, or has ended.** -/
theorem loopReady_stepLoop {l : JobLoop} (h : s.loopReady now l = true) (wall : Timestamp)
    (fires : Bool) :
    s.loopReady now { l with state := (s.stepLoop now wall fires l).1 } = false := by
  rw [stepLoop]
  cases hjob : s.jobs[l.job]? with
  | none => rfl
  | some job =>
      rw [loopReady] at h
      cases hstate : l.state with
      | ended => rfl
      | unbegun =>
          have hwall := Anchor.wallAt_instant ⟨wall, now⟩
          exact loopReady_seek s l.job now job ⟨wall, now⟩ (Int.le_of_eq hwall)
      | waiting anchor fire =>
          simp only [hstate, Bool.or_eq_true, decide_eq_true_eq] at h
          dsimp only
          split
          · rfl
          · rename_i hgoes
            have hdue : anchor.instantOf fire ≤ now := by
              by_contra hnot
              simp [h.resolve_right hnot, hnot] at hgoes
            rw [if_pos (by simpa using hdue)]
            exact loopReady_beginRun s l.job now job anchor fire
      | working anchor fire done outcome =>
          simp only [hstate, decide_eq_true_eq] at h
          simp only [if_pos h]
          exact loopReady_finishRun s l.job now job anchor fire outcome

end Scheduler

end ServiceSupervisor
