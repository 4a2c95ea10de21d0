import ServiceSupervisor.Proofs.FirstFireTime
import ServiceSupervisor.Proofs.InUse

/-!
The fire times of a loop, to the millisecond and to the last.

As long as nothing tells a loop to stop it begins a run exactly at those wall times at which its
schedule fires and at which no earlier run is in progress.  A loop that waits has its next fire time
ahead; a loop that works passes over what comes before the end of its run; and a loop that has ended
has nothing left to fire (`Course.Fits.wallAt_lt_of_cursor_lt`).  So nothing between the anchor and
the present is lost.

* `Schedule.Follows.exists_fire_of_le`: up to the cursor every fire time has begun a run, unless a
  run was in progress;
* `Usage.Account`: what the loop of a job does on behalf of a call;
* `Usage.fires_exactly`: each call of the entry routine has one loop for each job, with that
  account.
-/

namespace ServiceSupervisor

namespace Schedule

variable {s : Schedule} {a : Anchor} {rs : List Firing} {start cursor m : Int}

/-- Where there is no next fire time, none is left. -/
lemma FindsFirst.next_eq_none_iff (h : s.FindsFirst start) (hcursor : start ≤ cursor) :
    s.next cursor = none ↔ ∀ m, s.Matches m → m ≤ cursor := by
  constructor
  · rintro hnone m ⟨second, rfl, hfires⟩
    by_contra hlt
    classical
    -- Of the seconds that are left there is a first one.
    have hmem : second ∈ {x : Nat | s.Fires x ∧ cursor < x * 1000} := ⟨hfires, Int.not_le.mp hlt⟩
    obtain ⟨⟨hfound, hafter⟩, hlower⟩ := Set.Nonempty.isLeast_natFind ⟨second, hmem⟩
    have hnext := (h cursor hcursor _).mpr ⟨⟨⟨_, rfl, hfound⟩, hafter⟩, fun m hm => by
      obtain ⟨⟨x, rfl, hx⟩, hlt⟩ := hm
      have hle := hlower ⟨hx, hlt⟩
      omega⟩
    rw [hnone] at hnext
    cases hnext
  · intro hnone
    refine Option.eq_none_iff_forall_ne_some.mpr fun fire hfire => ?_
    obtain ⟨⟨hm, hlt⟩, -⟩ := (h cursor hcursor fire).mp hfire
    exact absurd (hnone fire hm) (Int.not_le.mpr hlt)

namespace Follows

lemma matches_fire (h : s.Follows a rs) (hfirst : s.FindsFirst a.wall) {r : Firing} (hr : r ∈ rs) :
    s.Matches r.fire := by
  induction h with
  | nil => cases hr
  | cons h hcalm hnext htime ih =>
      rcases List.mem_cons.mp hr with rfl | hr
      · exact ((hfirst _ h.wall_le_cursor _).mp hnext).1.1
      · exact ih hr

/-- Up to the cursor a wall time at which the schedule fires has begun a run, unless it came while
one was in progress. -/
lemma exists_fire_of_le (h : s.Follows a rs) (hfirst : s.FindsFirst a.wall) (hm : s.Matches m)
    (hwall : a.wall < m) (hle : m ≤ a.cursor rs) :
    (∃ r ∈ rs, r.fire = m) ∨ ∃ r ∈ rs, r.fire < m ∧ m ≤ r.wallEnd := by
  induction h with
  | nil => exact absurd hle (Int.not_le.mpr hwall)
  | @cons r rs h hcalm hnext htime ih =>
      rcases Int.lt_or_le (a.cursor rs) m with hlt | hge
      · have hle' := ((hfirst _ h.wall_le_cursor _).mp hnext).2 ⟨hm, hlt⟩
        rcases Int.lt_or_eq_of_le hle' with hlt' | heq
        · exact .inr ⟨r, List.mem_cons_self, hlt', hle⟩
        · exact .inl ⟨r, List.mem_cons_self, heq⟩
      · rcases ih hge with ⟨e, he, hfire⟩ | ⟨e, he, hfire⟩
        · exact .inl ⟨e, List.mem_cons_of_mem r he, hfire⟩
        · exact .inr ⟨e, List.mem_cons_of_mem r he, hfire⟩

/-- No run begins while another one is in progress. -/
lemma not_covered (h : s.Follows a rs) {r e : Firing} (hr : r ∈ rs) (he : e ∈ rs)
    (hlt : e.fire < r.fire) : e.wallEnd < r.fire := by
  obtain ⟨i, hi, rfl⟩ := List.mem_iff_getElem.mp hr
  obtain ⟨k, hk, rfl⟩ := List.mem_iff_getElem.mp he
  have hapart := List.pairwise_iff_getElem.mp h.pairwise
  rcases Nat.lt_trichotomy i k with hik | rfl | hki
  · exact hapart i k hi hk hik
  · exact absurd hlt (Int.lt_irrefl _)
  · -- The one that fires first is the earlier one.
    have hafter : rs[i].fire < rs[k].fire :=
      Int.lt_of_le_of_lt (Firing.fire_le_wallEnd _) (hapart k i hk hi hki)
    exact absurd hafter (Int.lt_asymm hlt)

end Follows

end Schedule

namespace Course.Fits

variable {s : Schedule} {origin : Anchor} {now : Nat} {c : Course} {l : JobLoop}

/-- What a loop has left behind its cursor is still to come, or it is not left at all. -/
lemma wallAt_lt_of_cursor_lt (sched : Scheduler) (h : c.Fits s origin now false l.state)
    (hcalm : ∀ r ∈ c.runs, ¬r.panics) (hfirst : s.FindsFirst origin.wall) {m : Int}
    (hm : s.Matches m) (hlt : origin.cursor c.runs < m) :
    origin.wallAt now ≤ m ∧ (sched.loopReady now l = false → origin.wallAt now < m) := by
  rw [Scheduler.loopReady]
  generalize l.state = state at h
  cases h with
  | unbegun hanchor hruns hnow =>
      have hwall : origin.wallAt now = origin.cursor c.runs := by
        rw [hnow, hruns, Anchor.wallAt_instant]
        rfl
      exact ⟨Int.le_of_lt (hwall ▸ hlt), fun _ => hwall ▸ hlt⟩
  | @waiting fire hanchor hfollows hcalm' hover hnext hnow =>
      have hfire := (hfirst _ hfollows.wall_le_cursor fire).mp hnext
      have hinstant : origin.wallAt (origin.instantOf fire) = fire := origin.wallAt_instantOf
        (Int.le_of_lt (Int.lt_of_le_of_lt hfollows.wall_le_cursor hfire.1.2))
      have hle : fire ≤ m := hfire.2 ⟨hm, hlt⟩
      rw [← hinstant] at hle
      refine ⟨Int.le_trans (origin.wallAt_le_wallAt_iff.mpr hnow) hle, fun hr => ?_⟩
      have hnot := of_decide_eq_false (Bool.or_eq_false_iff.mp hr).2
      exact Int.lt_of_lt_of_le (origin.wallAt_lt_wallAt_iff.mpr (Nat.lt_of_not_le hnot)) hle
  | @working r rs hanchor hruns hfollows htime hnow =>
      have hover : origin.wallAt now ≤ origin.cursor c.runs := by
        rw [hruns, Anchor.cursor, ← hfollows.wallAt_endTime List.mem_cons_self]
        exact origin.wallAt_le_wallAt_iff.mpr hnow
      have hwall := Int.lt_of_le_of_lt hover hlt
      exact ⟨Int.le_of_lt hwall, fun _ => hwall⟩
  | ended hanchor hfollows hover hend =>
      rcases hend with hstop | hnone | ⟨r, hr, hpanics⟩
      · cases hstop
      · have hle := (hfirst.next_eq_none_iff hfollows.wall_le_cursor).mp hnone m hm
        exact absurd hlt (Int.not_lt.mpr hle)
      · exact absurd hpanics (hcalm r hr)

/-- **A loop has ended exactly if no run is in progress and no fire time is left.** -/
lemma ended_iff {sched : Scheduler} (h : c.Fits s origin now false l.state)
    (hcalm : ∀ r ∈ c.runs, ¬r.panics) (hfirst : s.FindsFirst origin.wall)
    (hr : sched.loopReady now l = false) :
    l.state = .ended ↔
      (∀ r ∈ c.runs, r.endTime ≤ now) ∧ ∀ m, s.Matches m → m ≤ origin.wallAt now := by
  have hleft := fun {m : Int} hm hlt =>
    (h.wallAt_lt_of_cursor_lt sched hcalm hfirst (m := m) hm hlt).2 hr
  rw [Scheduler.loopReady] at hr
  generalize l.state = state at h hr
  constructor
  · rintro rfl
    refine ⟨fun r hr => h.endTime_le hr, fun m hm => ?_⟩
    cases h with
    | ended hanchor hfollows hover hend =>
        rcases hend with hstop | hnone | ⟨r, hr, hpanics⟩
        · cases hstop
        · have hle := (hfirst.next_eq_none_iff hfollows.wall_le_cursor).mp hnone m hm
          exact Int.le_trans hle hover
        · exact absurd hpanics (hcalm r hr)
  · rintro ⟨hover, hnone⟩
    cases h with
    | unbegun hanchor hruns hnow => cases hr
    | @waiting fire hanchor hfollows hcalm' hover hnext hnow =>
        have hfire := ((hfirst _ hfollows.wall_le_cursor fire).mp hnext).1
        exact absurd (hnone fire hfire.1) (Int.not_le.mpr (hleft hfire.1 hfire.2))
    | @working r rs hanchor hruns hfollows htime hnow =>
        have hdone : r.endTime ≤ now := hover r (hruns ▸ List.mem_cons_self)
        exact absurd hdone (of_decide_eq_false hr)
    | ended hanchor hfollows hover hend => rfl

end Course.Fits

namespace Usage

variable {jobs : List Job} {wallClock : Nat → Timestamp} {u u' : Usage}

/-! ### Before any teardown -/

/-- Only the entry routine has been called, and nothing has told the loops to stop. -/
def Untorn (u : Usage) : Prop :=
  (∀ c ∈ u.calls, c.operation = .run) ∧ u.scheduler.stopping = false

/-- The steps that nobody has to make do not tear anything down. -/
lemma Untorn.step {label : Label} (h : Untorn u) (hsound : Sound jobs wallClock u)
    (hown : label.isOwn = true) (hu : Step (.ofJobs jobs) u label u') : Untorn u' := by
  cases hu with
  | call operation => cases hown
  | cancel place => cases hown
  | @poll place c hc hr =>
      have hmem := List.mem_of_getElem? hc
      have hpoll := poll_pollCall place hsound.schedulers_eq hsound.length_eq
        (hsound.calls c hmem) hr
      refine ⟨fun call hcall => ?_, ?_⟩
      · rw [hpoll.calls_eq] at hcall
        rcases List.mem_or_eq_of_mem_set hcall with hcall | rfl
        · exact h.1 call hcall
        · exact h.1 c hmem
      · rw [hpoll.stopping_eq (h.1 c hmem), h.2]
  | @loop number l fires hl hr =>
      have hpoll := loopPoll_pollLoop hsound.schedulers_eq hl fires
      exact ⟨hpoll.calls_eq ▸ h.1, hpoll.stopping_eq.trans h.2⟩
  | pass hr => exact h

lemma Untorn.goesTo (h : Untorn u) (hsound : Sound jobs wallClock u)
    (hgoes : GoesTo (.ofJobs jobs) u u') : Untorn u' := by
  obtain ⟨labels, howns, hu⟩ := hgoes
  induction labels generalizing u with
  | nil => exact Option.some.inj hu ▸ h
  | cons label labels ih =>
      obtain ⟨next, hnext, hu⟩ := Option.bind_eq_some_iff.mp hu
      have hstep := step?_eq_some_iff.mp hnext
      exact ih (h.step hsound (howns label List.mem_cons_self) hstep) (hsound.step hstep)
        (fun x hx => howns x (List.mem_cons_of_mem label hx)) hu

/-! ### The account -/

/-- What the loop of a job does on behalf of a call, to the millisecond and to the last run. -/
structure Account (u : Usage) (origin : Anchor) (job : ScheduledJob) (l : JobLoop) (c : Course) :
    Prop where
  /-- The loop takes its own anchor when it is started. -/
  anchored : l.state ≠ .unbegun → c.anchor = some origin
  /-- Its runs are runs of the job, and each is on record. -/
  recorded : ∀ r ∈ c.runs, (∃ n, r.run = job.job.run n) ∧
    ∃ phase, ⟨r.time, phase, .jobNoted 0 (.begun job.place job.job.name)⟩ ∈ u.world.trace
  /-- Each begins exactly at a wall time at which the schedule fires. -/
  punctual : ∀ r ∈ c.runs, r.time ≤ u.world.now ∧ origin.wallAt r.time = r.fire ∧
    origin.wall < r.fire ∧ job.schedule.Matches r.fire
  /-- They do not overlap. -/
  apart : c.runs.Pairwise fun later earlier => earlier.endTime < later.time
  /-- A wall time at which the schedule fires begins a run exactly if none is in progress then. -/
  complete : ∀ m, job.schedule.Matches m → origin.wall < m →
    (m < origin.wallAt u.world.now ∨
      m = origin.wallAt u.world.now ∧ u.scheduler.loopReady u.world.now l = false) →
    ((∃ r ∈ c.runs, r.fire = m) ↔ ¬∃ r ∈ c.runs, r.fire < m ∧ m ≤ r.wallEnd)
  /-- The loop has ended exactly if no run is in progress and no such wall time is left. -/
  ends : u.scheduler.loopReady u.world.now l = false →
    (l.state = .ended ↔ (∀ r ∈ c.runs, r.endTime ≤ u.world.now) ∧
      ∀ m, job.schedule.Matches m → m ≤ origin.wallAt u.world.now)

/-- A loop that fires a job without panics has such an account, as long as nothing has told it to
stop. -/
lemma Drives.account {l : JobLoop} {c : Course} {job : ScheduledJob} {call : Call}
    (h : u.Drives jobs wallClock l c job call) (hstop : u.scheduler.stopping = false)
    (hcalm : ∀ n, (job.job.run n).outcome ≠ .panicked)
    (hfirst : job.schedule.FindsFirst (wallClock call.made)) :
    u.Account (call.origin wallClock) job l c := by
  have hfits := h.fits
  rw [hstop] at hfits
  have hfollows := hfits.follows
  have hfirst' : job.schedule.FindsFirst (call.origin wallClock).wall := hfirst
  have hquiet : ∀ r ∈ c.runs, ¬r.panics := fun r hr hpanics => by
    obtain ⟨-, ⟨n, hrun⟩, -⟩ := h.begun r hr
    exact hcalm n (hrun ▸ hpanics)
  have hleft := fun {m : Int} hm hlt =>
    hfits.wallAt_lt_of_cursor_lt u.scheduler hquiet hfirst' (m := m) hm hlt
  refine ⟨fun hbegun => hfits.anchor_eq hbegun, fun r hr => ?_, fun r hr => ?_, ?_,
    fun m hm hwall hpast => ?_, fun hready => ?_⟩
  · obtain ⟨-, hrun, phase, hrecord⟩ := h.begun r hr
    exact ⟨hrun, phase, (Trace.mem_about.mp hrecord).1⟩
  · exact ⟨(h.begun r hr).1, hfollows.wallAt_time hr, hfollows.wall_lt_fire hr,
      hfollows.matches_fire hfirst' hr⟩
  · exact hfollows.pairwise_time
  · constructor
    · rintro ⟨r, hr, rfl⟩ ⟨e, he, hlt, hle⟩
      exact absurd hle (Int.not_le.mpr (hfollows.not_covered hr he hlt))
    · intro hfree
      have hcursor : m ≤ (call.origin wallClock).cursor c.runs := by
        by_contra hlt
        obtain ⟨hle, hready⟩ := hleft hm (Int.not_le.mp hlt)
        rcases hpast with hpast | ⟨rfl, hpast⟩
        · exact absurd hpast (Int.not_lt.mpr hle)
        · exact absurd (hready hpast) (Int.lt_irrefl _)
      exact (hfollows.exists_fire_of_le hfirst' hm hwall hcursor).resolve_right hfree
  · exact hfits.ended_iff hquiet hfirst' hready

/-- **A loop begins a run at every fire time at which the job is idle, on time, and at no other.**
As long as nothing is torn down, nothing has to be done for time to go on. -/
theorem fires_exactly (jobs : List Job) (wallClock : Nat → Timestamp) (labels : List Label)
    {u : Usage}
    (hu : (start (.ofJobs jobs) wallClock).steps? (.ofJobs jobs) labels = some u)
    (hstop : u.scheduler.stopping = false) {place : Nat} {call : Call}
    (hcall : u.calls[place]? = some call) (hstarted : call.isStarted = true) {j : Nat}
    {job : ScheduledJob} (hjob : (Scheduler.ofJobs jobs).jobs[j]? = some job)
    (hcalm : ∀ n, (job.job.run n).outcome ≠ .panicked)
    (hfirst : job.schedule.FindsFirst (wallClock call.made)) :
    (∃ (number : Nat) (l : JobLoop) (c : Course), u.scheduler.loops[number]? = some l ∧
      u.courses[number]? = some c ∧ l.job = j ∧ c.call = place ∧
      u.Account (call.origin wallClock) job l c ∧
      ∀ (number' : Nat) (l' : JobLoop) (c' : Course), u.scheduler.loops[number']? = some l' →
        u.courses[number']? = some c' → l'.job = j → c'.call = place → number' = number) ∧
    (Untorn u → ∀ span, ∃ u', GoesTo (.ofJobs jobs) u u' ∧ u'.world.now = u.world.now + span ∧
      u'.isQuiet = true ∧ u'.scheduler.stopping = false) := by
  have hsound := sound_of_steps hu
  constructor
  · obtain ⟨number, l, c, hl, hc, hj, hplace, hdrives⟩ := hsound.exists_loop hcall hstarted hjob
    refine ⟨number, l, c, hl, hc, hj, hplace, hdrives.account hstop hcalm hfirst, ?_⟩
    intro number' l' c' hl' hc' hj' hplace'
    exact hsound.number_unique hl' hc' hl hc (hj'.trans hj.symm) (hplace'.trans hplace.symm)
  · intro huntorn span
    obtain ⟨u', hgoes, -, hnow, hquiet⟩ := hsound.goes_on span
    exact ⟨u', hgoes, hnow, hquiet, (huntorn.goesTo hsound hgoes).2⟩

/-- An afternoon of the ticker. -/
def tickerSteps : List Label :=
  [.call .run, .poll 0, .loop 0 true, .pass 500, .loop 0 true, .pass 2500, .loop 0 true, .pass 500,
    .loop 0 true]

/-- The ticker, started half a second past three, begins a run at one second past and, since that
one is in progress at two and at three seconds past, the next at four. -/
theorem account_of_ticker : ∃ u call,
    (start (.ofJobs [ticker]) afternoon).steps? (.ofJobs [ticker]) tickerSteps = some u ∧
    u.calls[0]? = some call ∧ u.runs.map (·.time) = [3500, 500] ∧
    (∃ (number : Nat) (l : JobLoop) (c : Course), u.scheduler.loops[number]? = some l ∧
      u.courses[number]? = some c ∧ l.job = 0 ∧ c.call = 0 ∧
      u.Account (call.origin afternoon) ⟨ticker, tickerSchedule, 0, 0⟩ l c ∧
      ∀ (number' : Nat) (l' : JobLoop) (c' : Course), u.scheduler.loops[number']? = some l' →
        u.courses[number']? = some c' → l'.job = 0 → c'.call = 0 → number' = number) ∧
    (Untorn u → ∀ span, ∃ u', GoesTo (.ofJobs [ticker]) u u' ∧
      u'.world.now = u.world.now + span ∧ u'.isQuiet = true ∧ u'.scheduler.stopping = false) := by
  have hparse : Schedule.parse? ticker.expression = some tickerSchedule := rfl
  have hcalm : ∀ n, (ticker.run n).outcome ≠ .panicked := by
    intro n
    by_cases hn : n = 1 <;> simp [ticker, hn]
  exact ⟨_, _, rfl, rfl, rfl, fires_exactly [ticker] afternoon tickerSteps rfl rfl rfl rfl rfl hcalm
    (Schedule.findsFirst_of_parse? hparse rfl (by decide))⟩

end Usage

end ServiceSupervisor
