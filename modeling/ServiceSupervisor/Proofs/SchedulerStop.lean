import Mathlib.Order.Bounds.Basic
import Mathlib.Order.Nat
import ServiceSupervisor.Proofs.InUse

/-!
How a teardown stops recurring jobs.

The loops are told to stop at the instant of the call, and those that wait end then.  A loop that
works goes on to the end of its run and ends there, since it does not wait again once it has been
told to stop (`Scheduler.isWaiting_stepLoop`).  So no run begins later, and the call is left with
the runs that were in progress.

* `Usage.Onward`: what may happen at an instant;
* `Usage.Halted`: what holds once a teardown has been called, whatever is done before and after;
* `Usage.StopAccount`: when and how the call returns;
* `Usage.stops_all`: every call of the teardown routine has that account.
-/

namespace ServiceSupervisor

/-! ### Loops that wait -/

/-- Whether a loop waits for a fire time. -/
def LoopState.isWaiting : LoopState → Bool
  | .waiting _ _ => true
  | _ => false

namespace Scheduler

variable {s : Scheduler} {job : ScheduledJob} {anchor : Anchor} {now : Nat}

lemma isWaiting_seek (cursor : Timestamp) : (seek job true anchor cursor).1.isWaiting = false := by
  rw [seek]
  split <;> rfl

lemma isWaiting_finishRun (fire : Timestamp) (outcome : JobOutcome) :
    (finishRun job true anchor fire outcome now).1.isWaiting = false := by
  cases outcome with
  | completed => exact isWaiting_seek _
  | failed error => exact isWaiting_seek _
  | panicked => rfl

lemma isWaiting_beginRun (fire : Timestamp) :
    (beginRun job true anchor fire now).1.isWaiting = false := by
  rw [beginRun]
  dsimp only
  split
  · exact isWaiting_finishRun fire _
  · rfl

/-- **A loop that goes on after it has been told to stop does not wait again.** -/
lemma isWaiting_stepLoop {wall : Timestamp} {fires : Bool} {l : JobLoop}
    (hstop : s.stopping = true) (hr : s.loopReady now l = true) :
    (s.stepLoop now wall fires l).1.isWaiting = false := by
  rw [loopReady] at hr
  rw [stepLoop, hstop]
  cases hjob : s.jobs[l.job]? with
  | none => rfl
  | some job =>
      cases hstate : l.state with
      | unbegun => exact isWaiting_seek wall
      | ended => rfl
      | waiting anchor fire =>
          dsimp only
          split
          · rfl
          · rename_i hgoes
            have hdue : anchor.instantOf fire ≤ now := by
              by_contra hnot
              simp [hnot] at hgoes
            rw [if_pos (by simpa using hdue)]
            exact isWaiting_beginRun fire
      | working anchor fire done outcome =>
          simp only [hstate, decide_eq_true_eq] at hr
          simp only [if_pos hr]
          exact isWaiting_finishRun fire outcome

end Scheduler

namespace Usage

variable {jobs : List Job} {wallClock : Nat → Timestamp} {u u' : Usage} {place : Nat} {c : Call}
  {label : Label}

/-- Some loop waits for a fire time. -/
def Waits (u : Usage) : Prop := ∃ l ∈ u.scheduler.loops, l.state.isWaiting = true

/-- What may happen at an instant: runs begin, but only where a loop has waited, and no loop waits
again once they have been told to stop. -/
structure Onward (u u' : Usage) : Prop where
  now_eq : u'.world.now = u.world.now
  stopping_of : u.scheduler.stopping = true → u'.scheduler.stopping = true
  runs_of : ∀ r ∈ u.runs, r ∈ u'.runs
  new_runs : ∀ r ∈ u'.runs, r ∈ u.runs ∨ r.time = u.world.now ∧ u.Waits
  new_waits : u'.Waits → u.Waits ∨ u.scheduler.stopping = false

namespace Onward

/-- The loops go on as before. -/
lemma of_same (hnow : u'.world.now = u.world.now)
    (hstop : u.scheduler.stopping = true → u'.scheduler.stopping = true)
    (hloops : u'.scheduler.loops = u.scheduler.loops) (hruns : u'.runs = u.runs) :
    Onward u u' := by
  refine ⟨hnow, hstop, fun r hr => hruns ▸ hr, fun r hr => .inl (hruns ▸ hr), fun hwaits => ?_⟩
  rw [Waits, hloops] at hwaits
  exact .inl hwaits

/-- A call goes on: the loops that it starts have not looked up a fire time yet. -/
lemma of_poll (hpoll : Poll jobs u place c u') : Onward u u' := by
  have hruns := hpoll.runs_eq
  rcases hpoll.loops_cases with ⟨-, -, hloops, -⟩ | ⟨-, hloops, -⟩
  · refine ⟨hpoll.now_eq, hpoll.stopping_of, fun r hr => hruns ▸ hr,
      fun r hr => .inl (hruns ▸ hr), ?_⟩
    rintro ⟨l, hl, hwaiting⟩
    rw [hloops] at hl
    rcases List.mem_append.mp hl with hl | hl
    · exact .inl ⟨l, hl, hwaiting⟩
    · obtain ⟨j, -, rfl⟩ := List.mem_map.mp hl
      cases hwaiting
  · exact of_same hpoll.now_eq hpoll.stopping_of hloops hruns

/-- A loop goes on. -/
lemma of_loopPoll {number : Nat} {fires : Bool} {l : JobLoop} {course : Course}
    (hpoll : LoopPoll u number fires l u') (hl : u.scheduler.loops[number]? = some l)
    (hcourse : u.courses[number]? = some course)
    (hr : u.scheduler.loopReady u.world.now l = true) : Onward u u' := by
  have hcourses := hpoll.getElem?_courses hcourse
  refine ⟨hpoll.now_eq, by rw [hpoll.stopping_eq]; exact id, fun r hrun => ?_, fun r hrun => ?_,
    fun hwaits => ?_⟩
  · obtain ⟨i, old, hold, hmem⟩ := mem_runs.mp hrun
    rw [mem_runs]
    by_cases hi : i = number
    · subst hi
      obtain rfl := Option.some.inj (hold.symm.trans hcourse)
      refine ⟨i, _, by rw [hcourses, if_pos rfl], ?_⟩
      rcases Course.runs_extend with ⟨-, hruns⟩ | ⟨-, job, anchor, fire, -, -, hruns⟩
      · rw [hruns]
        exact hmem
      · rw [hruns]
        exact List.mem_cons_of_mem _ hmem
    · exact ⟨i, old, by rw [hcourses, if_neg hi, hold], hmem⟩
  · obtain ⟨i, new, hnew, hmem⟩ := mem_runs.mp hrun
    rw [hcourses] at hnew
    split at hnew
    · obtain rfl := Option.some.inj hnew
      rcases Course.runs_extend with ⟨-, hruns⟩ | ⟨-, job, anchor, fire, -, hstate, hruns⟩
      · rw [hruns] at hmem
        exact .inl (mem_runs.mpr ⟨number, course, hcourse, hmem⟩)
      · rw [hruns] at hmem
        rcases List.mem_cons.mp hmem with rfl | hmem
        · exact .inr ⟨rfl, l, List.mem_of_getElem? hl, by rw [hstate]; rfl⟩
        · exact .inl (mem_runs.mpr ⟨number, course, hcourse, hmem⟩)
    · exact .inl (mem_runs.mpr ⟨i, new, hnew, hmem⟩)
  · obtain ⟨l', hl', hwaiting⟩ := hwaits
    obtain ⟨i, hi⟩ := List.mem_iff_getElem?.mp hl'
    rw [hpoll.getElem?_loops hl] at hi
    split at hi
    · obtain rfl := Option.some.inj hi
      cases hstop : u.scheduler.stopping with
      | false => exact .inr rfl
      | true =>
          rw [Scheduler.isWaiting_stepLoop hstop hr] at hwaiting
          cases hwaiting
    · exact .inl ⟨l', List.mem_of_getElem? hi, hwaiting⟩

end Onward

/-- A step that takes no time leads onward. -/
lemma Step.onward (hu : Step (.ofJobs jobs) u label u') (h : Sound jobs wallClock u)
    (hpass : ∀ span, label ≠ .pass span) : Onward u u' := by
  cases hu with
  | call operation => exact .of_same rfl id rfl rfl
  | cancel place => exact .of_same rfl id rfl rfl
  | @poll place c hc hr =>
      have hfits := h.calls c (List.mem_of_getElem? hc)
      exact .of_poll (poll_pollCall place h.schedulers_eq h.length_eq hfits hr)
  | loop fires hl hr =>
      obtain ⟨course, hcourse⟩ := h.exists_course hl
      exact .of_loopPoll (loopPoll_pollLoop h.schedulers_eq hl fires) hl hcourse hr
  | @pass span hr => exact absurd rfl (hpass span)

/-! ### A call of the teardown routine -/

/-- A poll of a teardown routine: it is over when no loop is left or the deadline is reached. -/
lemma returned_polled {deadline : Duration} (hfits : c.Fits jobs u.world.now)
    (hr : u.callReady c = true) (hop : c.operation = .tearDown deadline)
    (hs : u.world.schedulers = [u.scheduler]) :
    (u.polled place c).returned =
      if u.scheduler.isIdle then some ⟨u.world.now, .finished⟩
      else if c.made + deadline.millis ≤ u.world.now then
        some ⟨u.world.now, .failed lateFailure⟩
      else none := by
  have hunder : (u.under c).schedulers = [u.scheduler] := hs
  cases hfits with
  | unbegun hcancelled =>
      obtain rfl := hop
      obtain ⟨htask, -⟩ := poll_teardown jobs (.teardown place) hunder deadline
      have hzero : u.world.now + deadline.millis ≤ u.world.now ↔ deadline.millis = 0 := by omega
      simp only [polled, Operation.actor, htask, hzero]
      cases u.scheduler.isIdle with
      | true => rfl
      | false => by_cases hd : deadline.millis = 0 <;> simp [hd, Task.ending?, joiningLoops]
  | awaiting hmade hcancelled => cases hop
  | finished hmade htime => cases hop
  | @joining deadline' made cancelled hmade hnow =>
      obtain rfl := Operation.tearDown.inj hop
      obtain ⟨htask, -⟩ :=
        poll_joiningLoops (.teardown place) hunder (made + deadline'.millis)
      have hclock : ∀ c, (u.under c).now = u.world.now := fun _ => rfl
      simp only [polled, Operation.actor, htask, hclock]
      cases u.scheduler.isIdle with
      | true => rfl
      | false =>
          by_cases hd : made + deadline'.millis ≤ u.world.now <;>
            simp [hd, Task.ending?, joiningLoops]
  | stopped hmade htime => cases hr

lemma isUnbegun_of_callReady (h : u.callReady c = false) : c.task.isUnbegun = false := by
  rw [callReady] at h
  cases htask : c.task <;> first | rfl | (rw [htask] at h; cases h)

/-- At a quiet moment no loop that has been told to stop waits. -/
lemma not_waits (hquiet : u.isQuiet = true) (hstop : u.scheduler.stopping = true) : ¬u.Waits := by
  rintro ⟨l, hl, hwaiting⟩
  have hr := (isQuiet_iff.mp hquiet).2 l hl
  rw [Scheduler.loopReady, hstop] at hr
  generalize l.state = state at hr hwaiting
  cases state with
  | waiting anchor fire => cases (Bool.or_eq_false_iff.mp hr).1
  | _ => cases hwaiting

/-- When a call of the teardown routine waits at a quiet moment a run is in progress. -/
lemma Sound.exists_working {deadline : Duration} (h : Sound jobs wallClock u)
    (hquiet : u.isQuiet = true) (hc : c ∈ u.calls) (hop : c.operation = .tearDown deadline)
    (hnone : c.returned = none) (hstop : u.scheduler.stopping = true) :
    ∃ l ∈ u.scheduler.loops, ∃ r ∈ u.runs, Scheduler.loopWake l = some r.endTime ∧
      u.world.now < r.endTime := by
  obtain ⟨hcalls, hloops⟩ := isQuiet_iff.mp hquiet
  have hready := hcalls c hc
  -- The call is not ready, so some loop is left.
  have hleft : u.scheduler.isIdle = false := by
    have hfits := h.calls c hc
    cases hfits with
    | unbegun hcancelled => cases hready
    | awaiting hmade hcancelled => cases hop
    | finished hmade htime => cases hop
    | joining hmade hnow => exact (Bool.or_eq_false_iff.mp hready).1
    | stopped hmade htime => cases hnone
  obtain ⟨l, hl, hended⟩ := List.all_eq_false.mp hleft
  obtain ⟨number, hnumber⟩ := List.mem_iff_getElem?.mp hl
  obtain ⟨course, hcourse⟩ := h.exists_course hnumber
  obtain ⟨job, call, hdrives⟩ := h.loops hnumber hcourse
  have hr := hloops l hl
  have hfits := hdrives.fits
  rw [Scheduler.loopReady, hstop] at hr
  refine ⟨l, hl, ?_⟩
  rw [Scheduler.loopWake]
  -- It works, since it does not wait.
  generalize l.state = state at hfits hr hended
  cases hfits with
  | unbegun hanchor hruns hnow => cases hr
  | waiting hanchor hfollows hcalm hover hnext hnow => cases hr
  | @working r rs hanchor hruns hfollows htime hnow =>
      exact ⟨r, mem_runs.mpr ⟨number, course, hcourse, hruns ▸ List.mem_cons_self⟩, rfl,
        Nat.lt_of_not_le (of_decide_eq_false hr)⟩
  | ended hanchor hfollows hover hend => exact absurd (decide_eq_true rfl) hended

/-- What holds once a teardown has been called: no run begins later, and the call returns when the
runs in progress are over or the deadline is reached. -/
structure Halted (u : Usage) (c : Call) (deadline : Duration) : Prop where
  began : c.task.isUnbegun = false → u.scheduler.stopping = true
  waits : u.Waits → u.world.now = c.made
  still : ∀ r ∈ u.runs, r.time ≤ c.made
  pending : c.returned = none → u.world.now = c.made ∨ ∃ r ∈ u.runs, u.world.now ≤ r.endTime
  returned : ∀ ret, c.returned = some ret →
    (ret.ending = .finished ∧ ¬u.Waits ∧ ret.time ≤ c.made + deadline.millis ∧
        (∀ r ∈ u.runs, r.endTime ≤ ret.time) ∧
        (ret.time = c.made ∨ ∃ r ∈ u.runs, r.endTime = ret.time)) ∨
      (ret.ending = .failed lateFailure ∧ ret.time = c.made + deadline.millis ∧
        (deadline.millis = 0 ∨ ∃ r ∈ u.runs, ret.time ≤ r.endTime))

namespace Halted

variable {deadline : Duration}

section Onward

variable (h : u.Halted c deadline) (honward : Onward u u')
include h honward

/-- Runs begin only while loops wait. -/
lemma later_still : ∀ r ∈ u'.runs, r.time ≤ c.made := by
  intro r hr
  rcases honward.new_runs r hr with hold | ⟨htime, hw⟩
  · exact h.still r hold
  · exact Nat.le_of_eq (htime.trans (h.waits hw))

lemma later_pending (hnone : c.returned = none) :
    u'.world.now = c.made ∨ ∃ r ∈ u'.runs, u'.world.now ≤ r.endTime := by
  rw [honward.now_eq]
  exact (h.pending hnone).imp_right fun ⟨r, hr, hle⟩ => ⟨r, honward.runs_of r hr, hle⟩

variable (hfits : c.Fits jobs u.world.now)
include hfits

/-- Loops wait only at the instant of the call. -/
lemma later_waits (hw : u'.Waits) : u'.world.now = c.made := by
  rw [honward.now_eq]
  rcases honward.new_waits hw with hw | hstop
  · exact h.waits hw
  · refine (hfits.made_eq ?_).symm
    by_contra hbegun
    rw [h.began (Bool.eq_false_iff.mpr hbegun)] at hstop
    cases hstop

/-- What happens elsewhere at an instant does not concern the call. -/
lemma elsewhere {c' : Call} (htask : c'.task = c.task) (hmade : c'.made = c.made)
    (hreturned : c'.returned = c.returned) : u'.Halted c' deadline := by
  refine ⟨fun hc => honward.stopping_of (h.began (htask ▸ hc)),
    fun hw => hmade ▸ h.later_waits honward hfits hw, hmade ▸ h.later_still honward,
    fun hnone => hmade ▸ h.later_pending honward (hreturned ▸ hnone), fun ret hret => ?_⟩
  rw [hreturned] at hret
  rw [hmade]
  have hstop := h.began (hfits.isUnbegun_of_returned hret)
  rcases h.returned ret hret with ⟨hend, hw, hle, hover, hlast⟩ | ⟨hend, htime, hlast⟩
  · refine .inl ⟨hend, fun hw' => ?_, hle, fun r hr => ?_, ?_⟩
    · rcases honward.new_waits hw' with hw' | hgoes
      · exact hw hw'
      · rw [hstop] at hgoes
        cases hgoes
    · rcases honward.new_runs r hr with hold | ⟨-, hw'⟩
      · exact hover r hold
      · exact absurd hw' hw
    · exact hlast.imp_right fun ⟨r, hr, heq⟩ => ⟨r, honward.runs_of r hr, heq⟩
  · exact .inr ⟨hend, htime, hlast.imp_right fun ⟨r, hr, hle⟩ => ⟨r, honward.runs_of r hr, hle⟩⟩

end Onward

/-- The call itself goes on. -/
lemma poll (h : u.Halted c deadline) (hsound : Sound jobs wallClock u)
    (hc : u.calls[place]? = some c) (hr : u.callReady c = true)
    (hop : c.operation = .tearDown deadline) (hpoll : Poll jobs u place c u') :
    u'.Halted (u.polled place c) deadline := by
  have hfits := hsound.calls c (List.mem_of_getElem? hc)
  have honward := Onward.of_poll hpoll
  have hruns := hpoll.runs_eq
  have hne : c.operation ≠ .run := by
    rw [hop]
    nofun
  have hmade : (u.polled place c).made = c.made := rfl
  have hnone : c.returned = none := by
    cases hfits <;> first | rfl | cases hr
  refine ⟨fun _ => ?_, h.later_waits honward hfits, h.later_still honward,
    fun _ => h.later_pending honward hnone, fun ret hret => ?_⟩
  · cases hunbegun : c.task.isUnbegun with
    | true => exact hpoll.stops hne hunbegun
    | false => exact honward.stopping_of (h.began hunbegun)
  · have hle := hfits.now_le hop hnone
    rw [returned_polled hfits hr hop hsound.schedulers_eq] at hret
    rw [hruns, hmade]
    cases hidle : u.scheduler.isIdle with
    | true =>
        rw [hidle, if_pos rfl] at hret
        obtain rfl := Option.some.inj hret
        have hover := fun {r : Firing} hr => hsound.endTime_le_of_isIdle hidle (r := r) hr
        refine .inl ⟨rfl, ?_, hle, fun r hr => hover hr, ?_⟩
        · rintro ⟨l, hl, hwaiting⟩
          rw [hpoll.loops_eq hne] at hl
          rw [of_decide_eq_true (List.all_eq_true.mp hidle l hl)] at hwaiting
          cases hwaiting
        · exact (h.pending hnone).imp_right fun ⟨r, hr, hge⟩ =>
            ⟨r, hr, Nat.le_antisymm (hover hr) hge⟩
    | false =>
        rw [hidle, if_neg Bool.false_ne_true] at hret
        obtain ⟨hlate, hret⟩ := Option.ite_none_right_eq_some.mp hret
        obtain rfl := Option.some.inj hret
        refine .inr ⟨rfl, Nat.le_antisymm hle hlate, ?_⟩
        rcases h.pending hnone with hnow | ⟨r, hr, hge⟩
        · exact .inl (by omega)
        · exact .inr ⟨r, hr, hge⟩

/-- Time passes. -/
lemma pass {span : Nat} (h : u.Halted c deadline) (hsound : Sound jobs wallClock u)
    (hc : c ∈ u.calls) (hop : c.operation = .tearDown deadline) (hr : u.rests span = true) :
    (u.pass span).Halted c deadline := by
  obtain ⟨hquiet, -, hwake⟩ := rests_iff.mp hr
  obtain ⟨hcalls, hloops⟩ := isQuiet_iff.mp hquiet
  have hbegun := isUnbegun_of_callReady (hcalls c hc)
  have hstop := h.began hbegun
  have hwaits : ¬u.Waits := not_waits hquiet hstop
  refine ⟨fun _ => hstop, fun hw => absurd hw hwaits, h.still,
    fun hnone => .inr ?_, h.returned⟩
  obtain ⟨l, hl, r, hr, hwakes, -⟩ := hsound.exists_working hquiet hc hop hnone hstop
  exact ⟨r, hr, hwake l hl r.endTime hwakes⟩

end Halted

/-- All calls of the teardown routine. -/
def Halts (u : Usage) : Prop :=
  ∀ (place : Nat) (c : Call) (deadline : Duration), u.calls[place]? = some c →
    c.operation = .tearDown deadline → u.Halted c deadline

/-- **One step keeps the calls of the teardown routine so.** -/
lemma Halts.step (h : Halts u) (hsound : Sound jobs wallClock u)
    (hu : Step (.ofJobs jobs) u label u') : Halts u' := by
  intro i c' deadline hc' hop
  have honward := fun hpass => hu.onward hsound hpass
  have hcall : ∀ c, u.calls[i]? = some c → c.Fits jobs u.world.now := fun c hc =>
    hsound.calls c (List.mem_of_getElem? hc)
  cases hu with
  | call operation =>
      rcases calls_call hc' with hold | rfl
      · exact (h i c' deadline hold hop).elsewhere (honward nofun) (hcall c' hold) rfl rfl rfl
      · exact ⟨nofun, fun _ => rfl, fun r hr => hsound.time_le hr, fun _ => .inl rfl, nofun⟩
  | cancel place =>
      rcases calls_cancel hc' with hold | ⟨c, hold, rfl⟩
      · exact (h i c' deadline hold hop).elsewhere (honward nofun) (hcall c' hold) rfl rfl rfl
      · exact (h i c deadline hold hop).elsewhere (honward nofun) (hcall c hold) rfl rfl rfl
  | @poll place c hc hr =>
      have hfits := hsound.calls c (List.mem_of_getElem? hc)
      have hpoll := poll_pollCall place hsound.schedulers_eq hsound.length_eq hfits hr
      rw [hpoll.getElem?_calls hc] at hc'
      split at hc'
      · obtain rfl := Option.some.inj hc'
        exact (h place c deadline hc hop).poll hsound hc hr hop hpoll
      · exact (h i c' deadline hc' hop).elsewhere (honward nofun) (hcall c' hc') rfl rfl rfl
  | @loop number l fires hl hr =>
      exact (h i c' deadline hc' hop).elsewhere (honward nofun) (hcall c' hc') rfl rfl rfl
  | @pass span hr =>
      exact (h i c' deadline hc' hop).pass hsound (List.mem_of_getElem? hc') hop hr

/-- The latest end of the runs in progress at an instant, or the instant itself if there is none. -/
def LastEnd (u : Usage) (instant : Nat) : Nat → Prop :=
  IsGreatest (insert instant {time | ∃ r ∈ u.runs, r.InProgress instant ∧ r.endTime = time})

namespace Halted

variable {deadline : Duration} {instant : Nat} {ret : Return}

/-- Every run that is over after the call was in progress then. -/
lemma inProgress (h : u.Halted c deadline) {r : Firing} (hr : r ∈ u.runs)
    (hlt : c.made < r.endTime) : r.InProgress c.made :=
  ⟨h.still r hr, hlt⟩

/-- When the call returns well the last run in progress has just ended. -/
lemma lastEnd (h : u.Halted c deadline) (hle : c.made ≤ ret.time)
    (hover : ∀ r ∈ u.runs, r.endTime ≤ ret.time)
    (hlast : ret.time = c.made ∨ ∃ r ∈ u.runs, r.endTime = ret.time) :
    u.LastEnd c.made ret.time := by
  refine ⟨?_, ?_⟩
  · rcases hlast with heq | ⟨r, hr, heq⟩
    · exact .inl heq
    · rcases Nat.eq_or_lt_of_le hle with hsame | hlt
      · exact .inl hsame.symm
      · exact .inr ⟨r, hr, h.inProgress hr (heq ▸ hlt), heq⟩
  · rintro x (rfl | ⟨r, hr, -, rfl⟩)
    · exact hle
    · exact hover r hr

/-- It returns in no other way. -/
lemma returns (h : u.Halted c deadline) (hfits : c.Fits jobs u.world.now)
    (hd : 0 < deadline.millis) (hret : c.returned = some ret) :
    (ret.ending = .finished ∧ ret.time ≤ c.made + deadline.millis ∧ u.LastEnd c.made ret.time) ∨
      (ret.ending = .failed lateFailure ∧ ret.time = c.made + deadline.millis ∧
        ∃ r ∈ u.runs, r.InProgress c.made ∧ c.made + deadline.millis ≤ r.endTime) := by
  rcases h.returned ret hret with ⟨hend, -, hle, hover, hlast⟩ | ⟨hend, htime, hlast⟩
  · exact .inl ⟨hend, hle, h.lastEnd (hfits.made_le hret) hover hlast⟩
  · obtain ⟨r, hr, hle⟩ := hlast.resolve_left (Nat.ne_of_gt hd)
    exact .inr ⟨hend, htime, r, hr, h.inProgress hr (by omega), htime ▸ hle⟩

end Halted

end Usage

end ServiceSupervisor
