import Mathlib.Order.Bounds.Basic
import Mathlib.Order.Monotone.Basic
import Mathlib.Order.Nat
import ServiceSupervisor.Proofs.FireTimes

/-!
The next fire time is the first one.

A schedule whose fields are in order is searched block by block: the seconds of a minute, the
minutes of an hour, the hours of a day, the days.  In each block the first candidate is the least,
and all candidates of a block come before those of the next (`isLeast_findSome?`).

* `Schedule.Ordered`: the fields are in order, as those of every expression are
  (`Schedule.ordered_of_parse?`);
* `Schedule.Ordered.firstAt_eq_some_iff`: the search from a second on finds the first second at
  which the schedule fires;
* `Schedule.FindsFirst`: from a wall time on, the next fire time after a cursor is the first;
* `Schedule.Ordered.findsFirst`: so it is from every wall time on after whose year the schedule
  leaves out no year before its last.
-/

namespace ServiceSupervisor

/-! ### The first of several blocks -/

/-- Where no least candidate is found there is no candidate. -/
lemma notMem_of_eq_none {found : Option Nat} {block : Set Nat}
    (h : ∀ t, found = some t ↔ IsLeast block t) (hnone : found = none) (t : Nat) : t ∉ block := by
  intro ht
  classical
  have hsome := (h _).mpr (Set.Nonempty.isLeast_natFind ⟨t, ht⟩)
  rw [hnone] at hsome
  cases hsome

/-- The first hit in a list is the least candidate, if each entry finds the least candidate of its
block and the blocks come in the order of the entries. -/
lemma isLeast_findSome? {l : List Nat} (hl : l.Pairwise (· < ·)) {f : Nat → Option Nat}
    {block : Nat → Set Nat} (hf : ∀ x ∈ l, ∀ t, f x = some t ↔ IsLeast (block x) t)
    (horder : ∀ x ∈ l, ∀ y ∈ l, x < y → ∀ t ∈ block x, ∀ t' ∈ block y, t < t') (t : Nat) :
    l.findSome? f = some t ↔ IsLeast {t | ∃ x ∈ l, t ∈ block x} t := by
  induction l with
  | nil => simp [IsLeast]
  | cons x l ih =>
      obtain ⟨hx, hl⟩ := List.pairwise_cons.mp hl
      have hfx := hf x List.mem_cons_self
      have ih := ih hl (fun y hy => hf y (List.mem_cons_of_mem x hy))
        fun y hy z hz => horder y (List.mem_cons_of_mem x hy) z (List.mem_cons_of_mem x hz)
      rw [List.findSome?_cons]
      cases hfound : f x with
      | some found =>
          have hleast := (hfx found).mp hfound
          -- What the first block finds comes before all the other blocks.
          have hall : IsLeast {t | ∃ y ∈ x :: l, t ∈ block y} found := by
            refine ⟨⟨x, List.mem_cons_self, hleast.1⟩, ?_⟩
            rintro t' ⟨y, hy, ht'⟩
            rcases List.mem_cons.mp hy with rfl | hy
            · exact hleast.2 ht'
            · exact Nat.le_of_lt (horder x List.mem_cons_self y (List.mem_cons_of_mem x hy)
                (hx y hy) found hleast.1 t' ht')
          simp only [Option.some.injEq]
          exact ⟨fun h => h ▸ hall, fun h => hall.unique h⟩
      | none =>
          have hsame : {t | ∃ y ∈ x :: l, t ∈ block y} = {t | ∃ y ∈ l, t ∈ block y} := by
            ext t'
            simp [notMem_of_eq_none hfx hfound t']
          rw [hsame]
          exact ih

/-! ### Years -/

namespace Date

lemma yearOfEra_le_succ (day : Nat) (h : day + 1 < 146097) :
    yearOfEra day ≤ yearOfEra (day + 1) := by
  rw [yearOfEra, yearOfEra]
  omega

lemma monthOf_le_two_iff {day : Nat} (h : day ≤ 366) : monthOf day ≤ 2 ↔ 306 ≤ day := by
  rw [monthOf]
  split <;> omega

lemma year_le_succ (number : Int) : (ofDay number).year ≤ (ofDay (number + 1)).year := by
  obtain ⟨era, day, hday, hnumber, hdate⟩ := ofDay_eq number
  obtain ⟨era', day', hday', hnumber', hdate'⟩ := ofDay_eq (number + 1)
  have hmonth : ∀ {d}, d < 146097 → (monthOf (dayInYear d) ≤ 2 ↔ 306 ≤ dayInYear d) := fun hd =>
    monthOf_le_two_iff (by have := (le_yearOfEra hd).2; rw [dayInYear]; omega)
  rw [hdate, hdate']
  dsimp only
  by_cases hsame : era' = era
  · have hnext : day' = day + 1 := by omega
    subst hsame hnext
    have hle := yearOfEra_le_succ day hday'
    split
    · -- January and February are followed by themselves or by a year that begins in March.
      rename_i hearly
      rw [hmonth hday, dayInYear] at hearly
      split
      · omega
      · rename_i hlate
        rw [hmonth hday', dayInYear] at hlate
        omega
    · split <;> omega
  · have hlast : era' = era + 1 ∧ day = 146096 ∧ day' = 0 := by omega
    obtain ⟨rfl, rfl, rfl⟩ := hlast
    have hlast : yearOfEra 146096 = 399 := rfl
    have hfirst : yearOfEra 0 = 0 := rfl
    rw [hlast, hfirst]
    split <;> split <;> omega

/-- A later day lies in no earlier year. -/
lemma year_le_year {earlier later : Int} (h : earlier ≤ later) :
    (ofDay earlier).year ≤ (ofDay later).year :=
  monotone_int_of_le_succ year_le_succ h

end Date

namespace Schedule

/-- The values of each field come in increasing order, and those of the time of day are in range. -/
structure Ordered (s : Schedule) : Prop where
  seconds : s.seconds.Pairwise (· < ·)
  seconds_lt : ∀ second ∈ s.seconds, second < 60
  minutes : s.minutes.Pairwise (· < ·)
  minutes_lt : ∀ minute ∈ s.minutes, minute < 60
  hours : s.hours.Pairwise (· < ·)
  hours_lt : ∀ hour ∈ s.hours, hour < 24
  years : s.years.Pairwise (· < ·)

variable {s : Schedule}

/-- The times of day in a minute, not before a least one, at which the schedule fires. -/
def inMinute (s : Schedule) (least hour minute : Nat) : Set Nat :=
  {t | ∃ second ∈ s.seconds, t ∈ {t | t = hour * 3600 + minute * 60 + second ∧ least ≤ t}}

/-- Those in an hour. -/
def inHour (s : Schedule) (least hour : Nat) : Set Nat :=
  {t | ∃ minute ∈ s.minutes, t ∈ s.inMinute least hour minute}

/-- Those of the whole day. -/
lemma Ordered.inHour_eq (ho : s.Ordered) (least : Nat) :
    {t | ∃ hour ∈ s.hours, t ∈ s.inHour least hour}
      = {t | t < 86400 ∧ s.atTime t = true ∧ least ≤ t} := by
  ext t
  simp only [atTime, Bool.and_eq_true, List.contains_iff_mem, Set.mem_ofPred_eq, inHour, inMinute]
  -- A time of day is its hour, its minute and its second.
  constructor
  · rintro ⟨hour, hhour, minute, hminute, second, hsecond, rfl, hle⟩
    have hlt := ho.hours_lt hour hhour
    have hlt' := ho.minutes_lt minute hminute
    have hlt'' := ho.seconds_lt second hsecond
    have hhour' : (hour * 3600 + minute * 60 + second) / 3600 = hour := by omega
    have hminute' : (hour * 3600 + minute * 60 + second) / 60 % 60 = minute := by omega
    have hsecond' : (hour * 3600 + minute * 60 + second) % 60 = second := by omega
    rw [hhour', hminute', hsecond']
    exact ⟨by omega, ⟨⟨hhour, hminute⟩, hsecond⟩, hle⟩
  · rintro ⟨-, ⟨⟨hhour, hminute⟩, hsecond⟩, hle⟩
    exact ⟨_, hhour, _, hminute, _, hsecond, by omega, hle⟩

/-- The search over the seconds of a minute. -/
lemma Ordered.isLeast_inMinute (ho : s.Ordered) (least hour minute t : Nat) :
    (s.seconds.findSome? fun second =>
      let time := hour * 3600 + minute * 60 + second
      if time < least then none else some time) = some t
      ↔ IsLeast (s.inMinute least hour minute) t := by
  refine isLeast_findSome? ho.seconds (fun second _ t => ?_) ?_ t
  · rw [Option.ite_none_left_eq_some, Option.some.injEq]
    constructor
    · rintro ⟨hle, rfl⟩
      exact ⟨⟨rfl, Nat.le_of_not_lt hle⟩, fun t ht => Nat.le_of_eq ht.1.symm⟩
    · rintro ⟨⟨rfl, hle⟩, -⟩
      exact ⟨Nat.not_lt_of_le hle, rfl⟩
  · rintro x - y - hxy t ⟨rfl, -⟩ t' ⟨rfl, -⟩
    omega

/-- The search over the minutes of an hour, which passes over those that are too early. -/
lemma Ordered.isLeast_inHour (ho : s.Ordered) (least hour t : Nat) :
    (s.minutes.findSome? fun minute =>
      if hour * 3600 + minute * 60 + 59 < least then none
      else s.seconds.findSome? fun second =>
        let time := hour * 3600 + minute * 60 + second
        if time < least then none else some time) = some t
      ↔ IsLeast (s.inHour least hour) t := by
  refine isLeast_findSome? ho.minutes (fun minute _ t => ?_) ?_ t
  · rw [Option.ite_none_left_eq_some, ho.isLeast_inMinute]
    refine and_iff_right_of_imp ?_
    rintro ⟨⟨second, hsecond, rfl, hle⟩, -⟩
    have hlt := ho.seconds_lt second hsecond
    omega
  · rintro x - y - hxy t ⟨second, hsecond, rfl, -⟩ t' ⟨second', -, rfl, -⟩
    have hlt := ho.seconds_lt second hsecond
    omega

/-- The search within a day finds the first time of day at which the schedule fires. -/
lemma Ordered.firstTime_eq_some_iff (ho : s.Ordered) (least time : Nat) :
    s.firstTime least = some time
      ↔ IsLeast {t | t < 86400 ∧ s.atTime t = true ∧ least ≤ t} time := by
  rw [← ho.inHour_eq]
  refine isLeast_findSome? ho.hours (fun hour _ t => ?_) ?_ time
  · rw [Option.ite_none_left_eq_some, ho.isLeast_inHour]
    refine and_iff_right_of_imp ?_
    rintro ⟨⟨minute, hminute, second, hsecond, rfl, hle⟩, -⟩
    have hlt := ho.minutes_lt minute hminute
    have hlt' := ho.seconds_lt second hsecond
    omega
  · rintro x - y - hxy t ⟨minute, hminute, second, hsecond, rfl, -⟩ t'
      ⟨minute', -, second', -, rfl, -⟩
    have hlt := ho.minutes_lt minute hminute
    have hlt' := ho.seconds_lt second hsecond
    omega

/-- The search over days finds the first day on which the schedule fires. -/
lemma firstDay_eq_some_iff (day count later : Nat) : s.firstDay day count = some later ↔
    IsLeast {d | day ≤ d ∧ d < day + count ∧ s.onDay d = true} later := by
  induction count generalizing day with
  | zero =>
      simp only [firstDay, reduceCtorEq, false_iff]
      rintro ⟨⟨hle, hlt, -⟩, -⟩
      omega
  | succ count ih =>
      rw [firstDay]
      cases hday : s.onDay day with
      | true =>
          have hleast : IsLeast {d | day ≤ d ∧ d < day + (count + 1) ∧ s.onDay d = true} day :=
            ⟨⟨Nat.le_refl day, by omega, hday⟩, fun d hd => hd.1⟩
          simp only [if_true, Option.some.injEq]
          exact ⟨fun h => h ▸ hleast, fun h => hleast.unique h⟩
      | false =>
          have hsame : {d | day ≤ d ∧ d < day + (count + 1) ∧ s.onDay d = true}
              = {d | day + 1 ≤ d ∧ d < day + 1 + count ∧ s.onDay d = true} := by
            ext d
            constructor
            · rintro ⟨hle, hlt, hd⟩
              have hne : d ≠ day := by
                rintro rfl
                rw [hday] at hd
                cases hd
              exact ⟨by omega, by omega, hd⟩
            · rintro ⟨hle, hlt, hd⟩
              exact ⟨by omega, by omega, hd⟩
          rw [hsame, ← ih (day + 1)]
          simp

/-- A second of a day is the day and a time of day. -/
lemma fires_join_iff {day time : Nat} (h : time < 86400) : s.Fires (day * 86400 + time)
    ↔ day < dayLimit ∧ s.onDay day = true ∧ s.atTime time = true := by
  have hdiv : (day * 86400 + time) / 86400 = day := by omega
  have hmod : (day * 86400 + time) % 86400 = time := by omega
  rw [Fires, hdiv, hmod]

/-- What the search finds on a day. -/
lemma Ordered.firstOnDay_eq_some_iff (ho : s.Ordered) (day least x : Nat) :
    s.firstOnDay day least = some x
      ↔ IsLeast {x | s.Fires x ∧ x / 86400 = day ∧ day * 86400 + least ≤ x} x := by
  have htime := ho.firstTime_eq_some_iff least
  rw [firstOnDay, Option.ite_none_right_eq_some, Option.map_eq_some_iff]
  constructor
  · rintro ⟨⟨hlt, hday⟩, time, hfound, rfl⟩
    obtain ⟨⟨hbound, hat, hle⟩, hlower⟩ := (htime time).mp hfound
    refine ⟨⟨(fires_join_iff hbound).mpr ⟨hlt, hday, hat⟩, by omega, by omega⟩, ?_⟩
    rintro x ⟨⟨-, -, hat⟩, hday, hle⟩
    have hge := hlower ⟨Nat.mod_lt x (by omega), hat, by omega⟩
    omega
  · rintro ⟨⟨⟨hlt, hday, hat⟩, rfl, hle⟩, hlower⟩
    refine ⟨⟨hlt, hday⟩, x % 86400, (htime _).mpr ⟨⟨by omega, hat, by omega⟩, ?_⟩, by omega⟩
    rintro time ⟨hbound, hat, hle⟩
    have hge := hlower ⟨(fires_join_iff hbound).mpr ⟨hlt, hday, hat⟩, by omega, by omega⟩
    omega

/-- What the search finds after a day. -/
lemma Ordered.firstAfterDay_eq_some_iff (ho : s.Ordered) (day x : Nat) :
    s.firstAfterDay day = some x ↔ IsLeast {x | s.Fires x ∧ day < x / 86400} x := by
  have htime := ho.firstTime_eq_some_iff 0
  refine Option.bind_eq_some_iff.trans ?_
  constructor
  · rintro ⟨later, hlater, hrest⟩
    obtain ⟨time, hfound, hx⟩ := Option.bind_eq_some_iff.mp hrest
    obtain rfl := Option.some.inj hx
    obtain ⟨⟨hle, hlt, hday⟩, hlower⟩ := (firstDay_eq_some_iff _ _ _).mp hlater
    obtain ⟨⟨hbound, hat, -⟩, hlowest⟩ := (htime time).mp hfound
    refine ⟨⟨(fires_join_iff hbound).mpr ⟨by omega, hday, hat⟩, by omega⟩, ?_⟩
    rintro x ⟨⟨hlt', hday', hat'⟩, hafter⟩
    have hge := hlower ⟨hafter, by omega, hday'⟩
    have hge' := hlowest ⟨Nat.mod_lt x (by omega), hat', Nat.zero_le _⟩
    omega
  · rintro ⟨⟨⟨hlt, hday, hat⟩, hafter⟩, hlower⟩
    -- Any day and any time of day on which it fires make a second at which it fires.
    have hjoin : ∀ d time, day < d → d < dayLimit → s.onDay d = true → time < 86400 →
        s.atTime time = true → x ≤ d * 86400 + time :=
      fun d time hd hlimit hday hbound hat =>
        hlower ⟨(fires_join_iff hbound).mpr ⟨hlimit, hday, hat⟩, by omega⟩
    refine ⟨x / 86400, (firstDay_eq_some_iff _ _ _).mpr ⟨⟨hafter, by omega, hday⟩, ?_⟩,
      Option.bind_eq_some_iff.mpr ⟨x % 86400, (htime _).mpr ⟨⟨by omega, hat, Nat.zero_le _⟩, ?_⟩,
        congrArg some (by omega)⟩⟩
    · rintro d ⟨hd, hlimit, hday'⟩
      have hle := hjoin d (x % 86400) hd (by omega) hday' (by omega) hat
      omega
    · rintro time ⟨hbound, hat', -⟩
      have hle := hjoin (x / 86400) time hafter hlt hday hbound hat'
      omega

/-- **The search finds the first second from its start on** at which the schedule fires. -/
lemma Ordered.firstAt_eq_some_iff (ho : s.Ordered) (start x : Nat) :
    s.firstAt start = some x ↔ IsLeast {x | s.Fires x ∧ start ≤ x} x := by
  have honDay := fun x => ho.firstOnDay_eq_some_iff (start / 86400) (start % 86400) x
  have hafter := ho.firstAfterDay_eq_some_iff (start / 86400)
  rw [firstAt]
  cases hday : s.firstOnDay (start / 86400) (start % 86400) with
  | some found =>
      obtain ⟨⟨hfires, hsame, hle⟩, hlower⟩ := (honDay found).mp hday
      have hleast : IsLeast {x | s.Fires x ∧ start ≤ x} found := by
        refine ⟨⟨hfires, by omega⟩, ?_⟩
        rintro x ⟨hfires', hle'⟩
        by_cases hsame' : x / 86400 = start / 86400
        · exact hlower ⟨hfires', hsame', by omega⟩
        · omega
      simp only [Option.orElse_eq_orElse, Option.orElse_some, Option.some.injEq]
      exact ⟨fun h => h ▸ hleast, fun h => hleast.unique h⟩
  | none =>
      -- Nothing is left on the day of the start.
      have hempty : ∀ x, s.Fires x → start ≤ x → start / 86400 < x / 86400 := by
        intro x hfires hle
        by_contra hnot
        exact notMem_of_eq_none honDay hday x ⟨hfires, by omega, by omega⟩
      have hsets : {x | s.Fires x ∧ start ≤ x} = {x | s.Fires x ∧ start / 86400 < x / 86400} := by
        ext x
        exact ⟨fun h => ⟨h.1, hempty x h.1 h.2⟩, fun h => ⟨h.1, by have := h.2; omega⟩⟩
      rw [hsets, ← hafter x]
      rfl

/-- The schedule fires at a wall time. -/
def Matches (s : Schedule) (m : Int) : Prop := ∃ second : Nat, m = second * 1000 ∧ s.Fires second

/-- From a wall time on, the next fire time after a cursor is the first wall time after the cursor
at which the schedule fires. -/
def FindsFirst (s : Schedule) (start : Int) : Prop :=
  ∀ cursor, start ≤ cursor → ∀ fire,
    s.next cursor = some fire ↔ IsLeast {m | s.Matches m ∧ cursor < m} fire

/-- The year of a second since 1970. -/
def yearOf (second : Int) : Int := (Date.ofDay (second / 86400)).year

/-- The schedule names all years from one year on up to the last that it names. -/
def Unbroken (s : Schedule) (first : Int) : Prop :=
  ∀ year : Nat, first ≤ year → (∃ later ∈ s.years, year ≤ later) → year ∈ s.years

lemma yearOf_le {earlier later : Int} (h : earlier ≤ later) : yearOf earlier ≤ yearOf later :=
  Date.year_le_year (by omega)

lemma le_yearOf (second : Int) (h : 0 ≤ second) : 1970 ≤ yearOf second := yearOf_le h

/-- What fires lies in a year that the schedule names. -/
lemma Fires.year_mem {x : Nat} (h : s.Fires x) : ∃ year ∈ s.years, yearOf x = year := by
  obtain ⟨-, hday, -⟩ := h
  simp only [onDay, Bool.and_eq_true, List.contains_iff_mem] at hday
  have h1970 := le_yearOf x (by omega)
  have hcast : ((x / 86400 : Nat) : Int) = (x : Int) / 86400 := by omega
  refine ⟨_, hday.1.1.1, ?_⟩
  rw [yearOf, ← hcast] at h1970 ⊢
  omega

/-- In a year that the schedule names the search begins where it is asked to. -/
lemma Ordered.enterYear_of_mem (ho : s.Ordered) {second year : Nat} (hyear : year ∈ s.years)
    (heq : yearOf second = year) : s.enterYear second = some second := by
  have hfind : s.years.find? (fun y : Nat => decide (yearOf second ≤ y)) = some year := by
    obtain ⟨i, hi, hget⟩ := List.mem_iff_getElem.mp hyear
    refine List.find?_eq_some_iff_getElem.mpr ⟨by simp [heq], i, hi, hget, fun j hj => ?_⟩
    have hlt := List.pairwise_iff_getElem.mp ho.years j i (by omega) hi hj
    simp only [heq, Bool.not_eq_true', decide_eq_false_iff_not]
    omega
  refine Option.map_eq_some_iff.mpr ⟨year, hfind, ?_⟩
  rw [if_pos (show (Date.ofDay ((second : Int) / 86400)).year = year from heq), Int.toNat_natCast]

/-- After the last of these years it does not begin. -/
lemma enterYear_eq_none {second : Nat} (h : ∀ year ∈ s.years, (year : Int) < yearOf second) :
    s.enterYear second = none := by
  refine Option.map_eq_none_iff.mpr (List.find?_eq_none.mpr fun year hyear => ?_)
  have hlt : (year : Int) < yearOf second := h year hyear
  have hnot : ¬ yearOf second ≤ year := by omega
  simpa [yearOf] using hnot

/-- **The next fire time is the first one**, if the schedule names all years from that of the start
on up to the last that it names. -/
theorem Ordered.findsFirst (ho : s.Ordered) {start : Int} (hstart : 0 ≤ start)
    (hyears : s.Unbroken (yearOf (start / 1000))) : s.FindsFirst start := by
  intro cursor hcursor fire
  obtain ⟨second, hsecond⟩ : ∃ second : Nat, cursor / 1000 + 1 = second :=
    ⟨(cursor / 1000 + 1).toNat, by omega⟩
  have hlater : yearOf (start / 1000) ≤ yearOf second := yearOf_le (by omega)
  have hnext : s.next cursor = some fire
      ↔ ∃ x, (s.enterYear second).bind s.firstAt = some x ∧ (x : Int) * 1000 = fire := by
    rw [next, hsecond]
    cases s.enterYear second with
    | none => simp
    | some first => simp [Option.bind_eq_some_iff]
  have hfirst : ∀ x : Nat, (s.enterYear second).bind s.firstAt = some x
      ↔ IsLeast {x | s.Fires x ∧ second ≤ x} x := by
    intro x
    by_cases hnamed : ∃ year ∈ s.years, yearOf second ≤ year
    · obtain ⟨year, hyear, hle⟩ := hnamed
      have hmem := hyears (yearOf second).toNat (by omega) ⟨year, hyear, by omega⟩
      have hpositive := le_yearOf second (by omega)
      rw [ho.enterYear_of_mem hmem (by omega)]
      exact ho.firstAt_eq_some_iff second x
    · have hpast : ∀ year ∈ s.years, (year : Int) < yearOf second := fun year hyear =>
        Int.lt_of_not_ge fun hle => hnamed ⟨year, hyear, hle⟩
      rw [enterYear_eq_none hpast]
      simp only [Option.bind_none, reduceCtorEq, false_iff]
      rintro ⟨⟨hfires, hle⟩, -⟩
      obtain ⟨year, hyear, heq⟩ := hfires.year_mem
      have hle' : yearOf second ≤ yearOf x := yearOf_le (by omega)
      have hlt := hpast year hyear
      omega
  rw [hnext]
  constructor
  · rintro ⟨x, hx, rfl⟩
    obtain ⟨⟨hfires, hle⟩, hlower⟩ := (hfirst x).mp hx
    refine ⟨⟨⟨x, rfl, hfires⟩, by omega⟩, ?_⟩
    rintro m ⟨⟨y, rfl, hy⟩, hlt⟩
    have hge := hlower ⟨hy, by omega⟩
    omega
  · rintro ⟨⟨⟨x, rfl, hfires⟩, hlt⟩, hlower⟩
    refine ⟨x, (hfirst x).mpr ⟨⟨hfires, by omega⟩, ?_⟩, rfl⟩
    rintro y ⟨hy, hle⟩
    have hge := hlower (a := (y : Int) * 1000) ⟨⟨y, rfl, hy⟩, by omega⟩
    omega

/-! ### Schedules that an expression denotes -/

/-- The values of a field, in increasing order and in its range. -/
structure InRange (kind : FieldKind) (values : List Nat) : Prop where
  increasing : values.Pairwise (· < ·)
  le_greatest : ∀ value ∈ values, value ≤ kind.greatest

lemma inRange_all (kind : FieldKind) : InRange kind kind.all := by
  have hincreasing : (FieldKind.span kind.least kind.greatest).Pairwise (· < ·) :=
    List.pairwise_map.mpr (List.pairwise_lt_range.imp fun h => Nat.add_lt_add_left h _)
  refine ⟨hincreasing, fun value hvalue => ?_⟩
  obtain ⟨offset, hoffset, rfl⟩ := List.mem_map.mp hvalue
  have hlt := List.mem_range.mp hoffset
  omega

lemma InRange.filter {kind : FieldKind} {values : List Nat} (h : InRange kind values)
    (p : Nat → Bool) : InRange kind (values.filter p) :=
  ⟨h.increasing.filter p, fun value hvalue => h.le_greatest value (List.mem_filter.mp hvalue).1⟩

lemma InRange.singleton {kind : FieldKind} {value : Nat} (h : value ≤ kind.greatest) :
    InRange kind [value] :=
  ⟨List.pairwise_singleton _ _, by simpa using h⟩

/-- The fields of the time of day and the year are enough. -/
lemma ordered_of_inRange (hseconds : InRange .second s.seconds)
    (hminutes : InRange .minute s.minutes) (hhours : InRange .hour s.hours)
    (hyears : InRange .year s.years) : s.Ordered where
  seconds := hseconds.increasing
  seconds_lt second h := Nat.lt_succ_of_le (hseconds.le_greatest second h)
  minutes := hminutes.increasing
  minutes_lt minute h := Nat.lt_succ_of_le (hminutes.le_greatest minute h)
  hours := hhours.increasing
  hours_lt hour h := Nat.lt_succ_of_le (hhours.le_greatest hour h)
  years := hyears.increasing

/-- A field that has been read has its values in order. -/
lemma inRange_of_readField {kind : FieldKind} {text rest : List Char} {values : List Nat}
    (h : readField kind text = some (values, rest)) : InRange kind values := by
  obtain ⟨⟨item, rest'⟩, -, h⟩ := Option.bind_eq_some_iff.mp h
  obtain ⟨found, hfound, h⟩ := Option.bind_eq_some_iff.mp h
  obtain ⟨rfl, -⟩ := Prod.mk.inj (Option.some.inj h)
  obtain ⟨lists, -, hfilter⟩ := Option.bind_eq_some_iff.mp hfound
  obtain rfl := Option.some.inj hfilter
  exact (inRange_all kind).filter _

lemma ordered_of_readFields {text : List Char} (h : readFields text = some s) : s.Ordered := by
  obtain ⟨⟨seconds, rest₁⟩, hseconds, h⟩ := Option.bind_eq_some_iff.mp h
  obtain ⟨⟨minutes, rest₂⟩, hminutes, h⟩ := Option.bind_eq_some_iff.mp h
  obtain ⟨⟨hours, rest₃⟩, hhours, h⟩ := Option.bind_eq_some_iff.mp h
  obtain ⟨⟨days, rest₄⟩, -, h⟩ := Option.bind_eq_some_iff.mp h
  obtain ⟨⟨months, rest₅⟩, -, h⟩ := Option.bind_eq_some_iff.mp h
  obtain ⟨⟨weekdays, rest₆⟩, -, h⟩ := Option.bind_eq_some_iff.mp h
  have hyears : InRange .year ((readField .year rest₆).getD (FieldKind.year.all, rest₆)).1 := by
    cases hread : readField .year rest₆ with
    | none => exact inRange_all .year
    | some result => exact inRange_of_readField hread
  obtain ⟨-, hs⟩ := Option.ite_none_right_eq_some.mp h
  obtain rfl := Option.some.inj hs
  exact ordered_of_inRange (inRange_of_readField hseconds) (inRange_of_readField hminutes)
    (inRange_of_readField hhours) hyears

lemma ordered_of_shorthand {word : String} (h : (word, s) ∈ shorthands) : s.Ordered := by
  have hzero : ∀ kind : FieldKind, InRange kind [0] := fun kind => .singleton (Nat.zero_le _)
  obtain ⟨hseconds, hminutes, hhours, hyears⟩ : s.seconds = [0] ∧ s.minutes = [0] ∧
      (s.hours = [0] ∨ s.hours = FieldKind.hour.all) ∧ s.years = FieldKind.year.all := by
    simp only [shorthands, List.mem_cons, Prod.mk.injEq, List.not_mem_nil, or_false] at h
    rcases h with ⟨-, rfl⟩ | ⟨-, rfl⟩ | ⟨-, rfl⟩ | ⟨-, rfl⟩ | ⟨-, rfl⟩ <;> simp [hourly]
  refine ordered_of_inRange (hseconds ▸ hzero _) (hminutes ▸ hzero _) ?_ (hyears ▸ inRange_all _)
  rcases hhours with heq | heq
  · exact heq ▸ hzero _
  · exact heq ▸ inRange_all _

/-- **Every schedule that an expression denotes has its fields in order.** -/
theorem ordered_of_parse? {expression : String} (h : parse? expression = some s) : s.Ordered := by
  rw [parse?] at h
  split at h
  · rename_i schedule hlookup
    obtain rfl := Option.some.inj h
    obtain ⟨before, after, hsplit, -⟩ := List.lookup_eq_some_iff.mp hlookup
    exact ordered_of_shorthand (hsplit ▸ List.mem_append_right before List.mem_cons_self)
  · exact ordered_of_readFields h

/-- A schedule for all years leaves none out. -/
lemma unbroken_of_years {first : Int} (hyears : s.years = FieldKind.year.all)
    (hfirst : 1970 ≤ first) : s.Unbroken first := by
  rw [Unbroken, hyears]
  rintro year hle ⟨later, hlater, hyear⟩
  have hgreatest := (inRange_all .year).le_greatest later hlater
  refine List.mem_map.mpr ⟨year - FieldKind.year.least, List.mem_range.mpr ?_, ?_⟩ <;>
    simp only [FieldKind.least, FieldKind.greatest] at hgreatest ⊢ <;> omega

/-- The schedule of an expression that leaves the years open always finds the first fire time. -/
theorem findsFirst_of_parse? {expression : String} (h : parse? expression = some s)
    (hyears : s.years = FieldKind.year.all) {start : Int} (hstart : 0 ≤ start) :
    s.FindsFirst start :=
  (ordered_of_parse? h).findsFirst hstart
    (unbroken_of_years hyears (le_yearOf (start / 1000) (by omega)))

end Schedule

end ServiceSupervisor
