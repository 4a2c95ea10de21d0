import ServiceSupervisor.Proofs.FireTimes
import ServiceSupervisor.Scheduler.Usage

/-!
What one loop of a recurring job does.

* `Schedule.Follows`: each run of a loop begins on time at the next fire time after the end of the
  one before.  So the runs do not overlap (`Schedule.Follows.pairwise`), and by the loop's own clock
  each begins exactly at its fire time (`Schedule.Follows.wallAt_time`);
* `Course.Fits`: what a loop is doing fits what it has done so far;
* `Course.Fits.step`: a poll of the loop keeps it so.
-/

namespace ServiceSupervisor

/-! ### Anchors -/

namespace Anchor

variable (a : Anchor)

lemma wallAt_instantOf {m : Int} (h : a.wall ≤ m) : a.wallAt (a.instantOf m) = m := by
  have hsum : ∀ (wall m : Int) (instant : Nat), wall ≤ m →
      wall + (((instant + (m - wall).toNat : Nat) : Int) - instant) = m := by
    omega
  exact hsum a.wall m a.instant h

lemma wallAt_add (instant span : Nat) : a.wallAt (instant + span) = a.wallAt instant + span := by
  have hsum : ∀ (wall : Int) (start : Nat),
      wall + (((instant + span : Nat) : Int) - start)
        = wall + ((instant : Int) - start) + span := by
    omega
  exact hsum a.wall a.instant

lemma wallAt_lt_wallAt_iff {earlier later : Nat} :
    a.wallAt earlier < a.wallAt later ↔ earlier < later := by
  have hshift : ∀ (wall : Int) (start : Nat),
      wall + ((earlier : Int) - start) < wall + ((later : Int) - start) ↔ earlier < later := by
    omega
  exact hshift a.wall a.instant

lemma wallAt_le_wallAt_iff {earlier later : Nat} :
    a.wallAt earlier ≤ a.wallAt later ↔ earlier ≤ later := by
  rw [← Int.not_lt, wallAt_lt_wallAt_iff, Nat.not_lt]

/-- The cursor of a loop that has begun some runs, the latest first: its anchor, and later the end
of the latest run. -/
def cursor (a : Anchor) : List Firing → Timestamp
  | [] => a.wall
  | r :: _ => r.wallEnd

end Anchor

/-! ### The runs of a loop -/

lemma Firing.fire_le_wallEnd (r : Firing) : r.fire ≤ r.wallEnd := by
  have hle : ∀ (fire : Int) (span : Nat), fire ≤ fire + span := by omega
  exact hle r.fire r.run.work.millis

/-- The runs of a loop, the latest first: each begins on time at the next fire time after the end of
the one before, and none after a panic. -/
inductive Schedule.Follows (s : Schedule) (a : Anchor) : List Firing → Prop
  | nil : s.Follows a []
  | cons {r : Firing} {rs : List Firing} (h : s.Follows a rs) (hcalm : ∀ e ∈ rs, ¬e.panics)
      (hnext : s.next (a.cursor rs) = some r.fire) (htime : r.time = a.instantOf r.fire) :
      s.Follows a (r :: rs)

namespace Schedule.Follows

variable {s : Schedule} {a : Anchor} {rs : List Firing}

lemma wall_le_cursor (h : s.Follows a rs) : a.wall ≤ a.cursor rs := by
  induction h with
  | nil => exact Int.le_refl _
  | @cons r rs h hcalm hnext htime ih =>
      calc a.wall ≤ a.cursor rs := ih
        _ ≤ r.fire := Int.le_of_lt (s.lt_next hnext)
        _ ≤ r.wallEnd := r.fire_le_wallEnd

/-- Every run begins after the anchor. -/
lemma wall_lt_fire (h : s.Follows a rs) {r : Firing} (hr : r ∈ rs) : a.wall < r.fire := by
  induction h with
  | nil => cases hr
  | cons h hcalm hnext htime ih =>
      rcases List.mem_cons.mp hr with rfl | hr
      · exact Int.lt_of_le_of_lt h.wall_le_cursor (s.lt_next hnext)
      · exact ih hr

/-- By the anchor it begins exactly at its fire time. -/
lemma wallAt_time (h : s.Follows a rs) {r : Firing} (hr : r ∈ rs) : a.wallAt r.time = r.fire := by
  have hlt := h.wall_lt_fire hr
  induction h with
  | nil => cases hr
  | cons h hcalm hnext htime ih =>
      rcases List.mem_cons.mp hr with rfl | hr
      · rw [htime, a.wallAt_instantOf (Int.le_of_lt hlt)]
      · exact ih hr

lemma wallAt_endTime (h : s.Follows a rs) {r : Firing} (hr : r ∈ rs) :
    a.wallAt r.endTime = r.wallEnd := by
  rw [Firing.endTime, a.wallAt_add, h.wallAt_time hr, Firing.wallEnd]

/-- Every run is over by the cursor. -/
lemma wallEnd_le_cursor (h : s.Follows a rs) {r : Firing} (hr : r ∈ rs) :
    r.wallEnd ≤ a.cursor rs := by
  induction h with
  | nil => cases hr
  | @cons r' rs h hcalm hnext htime ih =>
      rcases List.mem_cons.mp hr with rfl | hr
      · exact Int.le_refl _
      · calc r.wallEnd ≤ a.cursor rs := ih hr
          _ ≤ r'.fire := Int.le_of_lt (s.lt_next hnext)
          _ ≤ r'.wallEnd := r'.fire_le_wallEnd

/-- **The runs of a loop do not overlap**: each is over before the next one begins. -/
lemma pairwise (h : s.Follows a rs) :
    rs.Pairwise fun later earlier => earlier.wallEnd < later.fire := by
  induction h with
  | nil => exact .nil
  | cons h hcalm hnext htime ih =>
      exact .cons (fun r hr => Int.lt_of_le_of_lt (h.wallEnd_le_cursor hr) (s.lt_next hnext)) ih

/-- What is past by the wall clock is past. -/
lemma endTime_le (h : s.Follows a rs) {r : Firing} (hr : r ∈ rs) {now : Nat}
    (hle : r.wallEnd ≤ a.wallAt now) : r.endTime ≤ now := by
  rw [← h.wallAt_endTime hr] at hle
  exact a.wallAt_le_wallAt_iff.mp hle

lemma pairwise_time (h : s.Follows a rs) :
    rs.Pairwise fun later earlier => earlier.endTime < later.time := by
  refine h.pairwise.imp_of_mem fun hlater hearlier hlt => ?_
  rw [← h.wallAt_endTime hearlier, ← h.wallAt_time hlater] at hlt
  exact a.wallAt_lt_wallAt_iff.mp hlt

end Schedule.Follows

/-! ### What a loop is doing -/

/-- What a loop is doing fits what it has done so far.  Its origin is the reading of the clocks when
it was started. -/
inductive Course.Fits (s : Schedule) (origin : Anchor) (now : Nat) (stopping : Bool) (c : Course) :
    LoopState → Prop
  | unbegun (hanchor : c.anchor = none) (hruns : c.runs = []) (hnow : now = origin.instant) :
      c.Fits s origin now stopping .unbegun
  | waiting {fire : Timestamp} (hanchor : c.anchor = some origin)
      (hfollows : s.Follows origin c.runs) (hcalm : ∀ r ∈ c.runs, ¬r.panics)
      (hover : origin.cursor c.runs ≤ origin.wallAt now)
      (hnext : s.next (origin.cursor c.runs) = some fire) (hnow : now ≤ origin.instantOf fire) :
      c.Fits s origin now stopping (.waiting origin fire)
  | working {r : Firing} {rs : List Firing} (hanchor : c.anchor = some origin)
      (hruns : c.runs = r :: rs) (hfollows : s.Follows origin (r :: rs)) (htime : r.time ≤ now)
      (hnow : now ≤ r.endTime) :
      c.Fits s origin now stopping (.working origin r.fire r.endTime r.run.outcome)
  | ended (hanchor : c.anchor = some origin) (hfollows : s.Follows origin c.runs)
      (hover : origin.cursor c.runs ≤ origin.wallAt now)
      (hend : stopping = true ∨ s.next (origin.cursor c.runs) = none ∨ ∃ r ∈ c.runs, r.panics) :
      c.Fits s origin now stopping .ended

namespace Course.Fits

variable {origin : Anchor} {now : Nat} {stopping : Bool} {c : Course} {job : ScheduledJob}

/-- A loop whose last run is over looks up its next fire time. -/
lemma seek (hanchor : c.anchor = some origin) (hfollows : job.schedule.Follows origin c.runs)
    (hcalm : ∀ r ∈ c.runs, ¬r.panics) (hnow : origin.cursor c.runs = origin.wallAt now) :
    c.Fits job.schedule origin now stopping
      (Scheduler.seek job stopping origin (origin.cursor c.runs)).1 := by
  rw [Scheduler.seek]
  cases hnext : job.schedule.next (origin.cursor c.runs) with
  | none => exact .ended hanchor hfollows (Int.le_of_eq hnow) (.inr (.inl hnext))
  | some fire =>
      cases stopping with
      | true => exact .ended hanchor hfollows (Int.le_of_eq hnow) (.inl rfl)
      | false =>
          have hlt := origin.lt_instantOf now (hnow ▸ job.schedule.lt_next hnext)
          exact .waiting hanchor hfollows hcalm (Int.le_of_eq hnow) hnext (Nat.le_of_lt hlt)

/-- A loop whose run ends goes on from the end of the run, unless the run has panicked. -/
lemma finishRun {r : Firing} {rs : List Firing} (hanchor : c.anchor = some origin)
    (hruns : c.runs = r :: rs) (hfollows : job.schedule.Follows origin (r :: rs))
    (hover : r.endTime = now) :
    c.Fits job.schedule origin now stopping
      (Scheduler.finishRun job stopping origin r.fire r.run.outcome now).1 := by
  have hcursor : max r.fire (origin.wallAt now) = origin.cursor c.runs := by
    rw [← hover, hfollows.wallAt_endTime List.mem_cons_self, hruns]
    exact Int.max_eq_right r.fire_le_wallEnd
  have hnow : origin.cursor c.runs = origin.wallAt now := by
    rw [← hover, hfollows.wallAt_endTime List.mem_cons_self, hruns]
    rfl
  have hcalm : ¬r.panics → ∀ e ∈ c.runs, ¬e.panics := by
    intro hr e he
    cases hfollows with
    | cons h hcalm hnext htime =>
        rw [hruns] at he
        rcases List.mem_cons.mp he with rfl | he
        · exact hr
        · exact hcalm e he
  rw [← hruns] at hfollows
  have hseek : ¬r.panics → c.Fits job.schedule origin now stopping
      (Scheduler.seek job stopping origin (max r.fire (origin.wallAt now))).1 := fun hr =>
    hcursor ▸ seek hanchor hfollows (hcalm hr) hnow
  cases houtcome : r.run.outcome with
  | completed => exact hseek (by simp [Firing.panics, houtcome])
  | failed error => exact hseek (by simp [Firing.panics, houtcome])
  | panicked =>
      exact .ended hanchor hfollows (Int.le_of_eq hnow)
        (.inr (.inr ⟨r, hruns ▸ List.mem_cons_self, houtcome⟩))

/-- A loop that begins a run works, unless the run takes no time and ends at once. -/
lemma beginRun {r : Firing} {rs : List Firing} (hanchor : c.anchor = some origin)
    (hruns : c.runs = r :: rs) (hfollows : job.schedule.Follows origin (r :: rs))
    (htime : r.time = now) (hrun : r.run = job.job.run (job.runs + 1)) :
    c.Fits job.schedule origin now stopping
      (Scheduler.beginRun job stopping origin r.fire now).1 := by
  rw [Scheduler.beginRun, ← hrun]
  dsimp only
  split
  · rename_i hnone
    exact finishRun hanchor hruns hfollows (by rw [Firing.endTime, hnone, htime, Nat.add_zero])
  · rw [← htime]
    exact .working hanchor hruns hfollows (Nat.le_refl _) (Nat.le_add_right _ _)

section Ended

variable {s : Schedule} {state : LoopState}

/-- The runs of a loop follow its schedule. -/
lemma follows (h : c.Fits s origin now stopping state) : s.Follows origin c.runs := by
  cases h with
  | unbegun hanchor hruns hnow => exact hruns ▸ .nil
  | waiting hanchor hfollows hcalm hover hnext hnow => exact hfollows
  | working hanchor hruns hfollows htime hnow => exact hruns ▸ hfollows
  | ended hanchor hfollows hover hend => exact hfollows

/-- A loop that has begun has taken its anchor. -/
lemma anchor_eq (h : c.Fits s origin now stopping state) (hbegun : state ≠ .unbegun) :
    c.anchor = some origin := by
  cases h with
  | unbegun hanchor hruns hnow => exact absurd rfl hbegun
  | waiting hanchor hfollows hcalm hover hnext hnow => exact hanchor
  | working hanchor hruns hfollows htime hnow => exact hanchor
  | ended hanchor hfollows hover hend => exact hanchor

/-- When a loop has ended all its runs are over. -/
lemma endTime_le (h : c.Fits s origin now stopping .ended) {r : Firing} (hr : r ∈ c.runs) :
    r.endTime ≤ now := by
  cases h with
  | ended hanchor hfollows hover hend =>
      exact hfollows.endTime_le hr (Int.le_trans (hfollows.wallEnd_le_cursor hr) hover)

end Ended

section Later

variable {s : Schedule} {sched : Scheduler} {l : JobLoop}

/-- A loop may be told to stop at any time. -/
lemma mono {stopping' : Bool} {state : LoopState} (h : c.Fits s origin now stopping state)
    (hstop : stopping = true → stopping' = true) : c.Fits s origin now stopping' state := by
  cases h with
  | unbegun hanchor hruns hnow => exact .unbegun hanchor hruns hnow
  | waiting hanchor hfollows hcalm hover hnext hnow =>
      exact .waiting hanchor hfollows hcalm hover hnext hnow
  | working hanchor hruns hfollows htime hnow => exact .working hanchor hruns hfollows htime hnow
  | ended hanchor hfollows hover hend => exact .ended hanchor hfollows hover (hend.imp_left hstop)

/-- Time passes for a loop that cannot go on, up to the instant for which it waits. -/
lemma pass {span : Nat} (h : c.Fits s origin now stopping l.state)
    (hr : sched.loopReady now l = false)
    (hwake : ∀ wake, Scheduler.loopWake l = some wake → now + span ≤ wake) :
    c.Fits s origin (now + span) stopping l.state := by
  rw [Scheduler.loopReady] at hr
  rw [Scheduler.loopWake] at hwake
  have hlater : origin.wallAt now ≤ origin.wallAt (now + span) :=
    origin.wallAt_le_wallAt_iff.mpr (Nat.le_add_right now span)
  generalize l.state = state at h hr hwake
  cases h with
  | unbegun hanchor hruns hnow => cases hr
  | waiting hanchor hfollows hcalm hover hnext hnow =>
      exact .waiting hanchor hfollows hcalm (Int.le_trans hover hlater) hnext (hwake _ rfl)
  | working hanchor hruns hfollows htime hnow =>
      exact .working hanchor hruns hfollows (Nat.le_trans htime (Nat.le_add_right now span))
        (hwake _ rfl)
  | ended hanchor hfollows hover hend =>
      exact .ended hanchor hfollows (Int.le_trans hover hlater) hend

end Later

end Course.Fits

namespace Course

variable {s : Scheduler} {now : Nat} {wall : Timestamp} {fires : Bool} {l : JobLoop} {c : Course}
  {job : ScheduledJob} {origin : Anchor}

/-- A poll of a loop leaves its runs alone, or it adds one that begins now, for the fire time for
which the loop waited. -/
lemma runs_extend :
    (s.stepLoop now wall fires l).2.1 = false ∧ (c.extend s now wall fires l).runs = c.runs ∨
      (s.stepLoop now wall fires l).2.1 = true ∧ ∃ job anchor fire, s.jobs[l.job]? = some job ∧
        l.state = .waiting anchor fire ∧ (c.extend s now wall fires l).runs
          = ⟨now, fire, job.job.run (job.runs + 1)⟩ :: c.runs := by
  cases hjob : s.jobs[l.job]? with
  | none => exact .inl ⟨by rw [Scheduler.stepLoop, hjob], by rw [extend, hjob]⟩
  | some job =>
      cases hstate : l.state with
      | unbegun =>
          exact .inl ⟨by simp only [Scheduler.stepLoop, hjob, hstate],
            by simp only [extend, hjob, hstate]⟩
      | ended =>
          exact .inl ⟨by simp only [Scheduler.stepLoop, hjob, hstate],
            by simp only [extend, hjob, hstate]⟩
      | working anchor fire done outcome =>
          refine .inl ⟨?_, by simp only [extend, hjob, hstate]⟩
          simp only [Scheduler.stepLoop, hjob, hstate]
          split <;> rfl
      | waiting anchor fire =>
          cases hbegins : (s.stepLoop now wall fires l).2.1 with
          | false => exact .inl ⟨rfl, by simp [extend, hjob, hstate, hbegins]⟩
          | true =>
              exact .inr ⟨rfl, job, anchor, fire, rfl, rfl, by simp [extend, hjob, hstate, hbegins]⟩

@[simp] lemma call_extend : (c.extend s now wall fires l).call = c.call := by
  rw [extend]
  split
  · rfl
  · split <;> rfl
  · rfl

/-- **A poll keeps what a loop is doing in step with what it has done.** -/
theorem Fits.step (hjob : s.jobs[l.job]? = some job) (hr : s.loopReady now l = true)
    (h : c.Fits job.schedule origin now s.stopping l.state)
    (hwall : now = origin.instant → wall = origin.wall) :
    (c.extend s now wall fires l).Fits job.schedule origin now s.stopping
      (s.stepLoop now wall fires l).1 := by
  obtain ⟨place, state⟩ := l
  cases h with
  | unbegun hanchor hruns hnow =>
      obtain rfl : origin = ⟨wall, now⟩ := by rw [hnow, hwall hnow]
      simp only [extend, Scheduler.stepLoop, hjob]
      have hcursor : Anchor.cursor ⟨wall, now⟩ c.runs = wall := by rw [hruns]; rfl
      have hseek : Course.Fits job.schedule ⟨wall, now⟩ now s.stopping
          { c with anchor := some ⟨wall, now⟩ }
          (Scheduler.seek job s.stopping ⟨wall, now⟩ (Anchor.cursor ⟨wall, now⟩ c.runs)).1 :=
        seek rfl (by rw [hruns]; exact .nil) (by simp [hruns])
          (hcursor.trans (Anchor.wallAt_instant ⟨wall, now⟩).symm)
      rwa [hcursor] at hseek
  | @waiting fire hanchor hfollows hcalm hover hnext hnow =>
      simp only [Scheduler.loopReady, Bool.or_eq_true, decide_eq_true_eq] at hr
      simp only [extend, Scheduler.stepLoop, hjob]
      by_cases hstop : (s.stopping && !(decide (origin.instantOf fire ≤ now) && fires)) = true
      · -- The loop has been told to stop, and it notices this.
        simp only [hstop, if_true, Bool.false_eq_true, if_false]
        exact .ended hanchor hfollows hover (.inl (Bool.and_eq_true_iff.mp hstop).1)
      · have hdue : origin.instantOf fire ≤ now := by
          by_contra hnot
          simp [hr.resolve_right hnot, hnot] at hstop
        have htime : now = origin.instantOf fire := Nat.le_antisymm hnow hdue
        simp only [hdue, decide_true] at hstop ⊢
        rw [if_neg hstop]
        exact beginRun (c := { c with runs := ⟨now, fire, job.job.run (job.runs + 1)⟩ :: c.runs })
          (r := ⟨now, fire, job.job.run (job.runs + 1)⟩) hanchor rfl
          (.cons hfollows hcalm hnext htime) rfl rfl
  | @working r rs hanchor hruns hfollows htime hnow =>
      have hdone : r.endTime ≤ now := of_decide_eq_true hr
      simp only [extend, Scheduler.stepLoop, hjob, hdone, if_true]
      exact finishRun hanchor hruns hfollows (Nat.le_antisymm hdone hnow)
  | ended hanchor hfollows hover hend => cases hr

end Course

end ServiceSupervisor
