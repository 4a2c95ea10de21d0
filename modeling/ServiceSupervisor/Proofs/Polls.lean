import ServiceSupervisor.Proofs.Courses
import ServiceSupervisor.Proofs.Effects

/-!
The steps of a component with recurring jobs in use.

* `Usage.Call.Fits`: where a call of its entry routine or of its teardown routine stands;
* `Usage.Poll`, `Usage.poll_pollCall`: what a poll of a call does to the loops;
* `Usage.LoopPoll`, `Usage.loopPoll_pollLoop`: what a poll of a loop does, and that it records
  exactly the run that it begins;
* `Usage.Step`: all that one step can do (`Usage.step?_eq_some_iff`).
-/

namespace ServiceSupervisor

@[simp] lemma World.schedulers_emit (w : World) (event : Event) :
    (w.emit event).schedulers = w.schedulers := rfl

/-! ### Starts on record -/

/-- Whether a note says that a run of a job begins. -/
def JobNote.isStart : JobNote → Bool
  | .begun _ _ => true
  | _ => false

/-- Whether an event is the beginning of a run of a job. -/
def Event.isStart : Event → Bool
  | .jobNoted _ note => note.isStart
  | _ => false

namespace Scheduler

variable (s : Scheduler) (job : ScheduledJob) (stopping : Bool) (anchor : Anchor) (now : Nat)

lemma starts_seek (cursor : Timestamp) :
    (seek job stopping anchor cursor).2.filter JobNote.isStart = [] := by
  rw [seek]
  split <;> rfl

lemma starts_finishRun (fire : Timestamp) (outcome : JobOutcome) :
    (finishRun job stopping anchor fire outcome now).2.filter JobNote.isStart = [] := by
  have hseek := starts_seek job stopping anchor (max fire (anchor.wallAt now))
  cases outcome with
  | completed => exact hseek
  | failed error => exact hseek
  | panicked => rfl

lemma starts_beginRun (fire : Timestamp) :
    (beginRun job stopping anchor fire now).2.filter JobNote.isStart
      = [.begun job.place job.job.name] := by
  rw [beginRun]
  dsimp only
  split
  · exact congrArg (List.cons _) (starts_finishRun job stopping anchor now fire _)
  · rfl

/-- **A poll of a loop notes the beginning of a run exactly if it begins one.** -/
lemma starts_stepLoop (wall : Timestamp) (fires : Bool) (l : JobLoop) :
    (s.stepLoop now wall fires l).2.2.filter JobNote.isStart
      = match s.jobs[l.job]? with
        | some job =>
          if (s.stepLoop now wall fires l).2.1 then [.begun job.place job.job.name] else []
        | none => [] := by
  rw [stepLoop]
  cases hjob : s.jobs[l.job]? with
  | none => rfl
  | some job =>
      cases hstate : l.state with
      | unbegun => exact starts_seek job s.stopping ⟨wall, now⟩ wall
      | ended => rfl
      | waiting anchor fire =>
          dsimp only
          split
          · rfl
          · split
            · exact starts_beginRun job s.stopping anchor now fire
            · rfl
      | working anchor fire done outcome =>
          dsimp only
          split
          · exact starts_finishRun job s.stopping anchor now fire outcome
          · rfl

end Scheduler

/-- A poll of a loop, where there are no other recurring jobs. -/
lemma World.pollLoop_singleton {w : World} {s : Scheduler} {number : Nat} {l : JobLoop}
    (hs : w.schedulers = [s]) (hl : s.loops[number]? = some l) (fires : Bool) :
    w.pollLoop 0 number fires = { w with
      schedulers := [{ s with
        loops := s.loops.set number { l with
          state := (s.stepLoop w.now (w.wallClock w.now) fires l).1 }
        jobs := if (s.stepLoop w.now (w.wallClock w.now) fires l).2.1 then
            s.jobs.modify l.job .countRun
          else s.jobs }]
      trace := ((s.stepLoop w.now (w.wallClock w.now) fires l).2.2.map fun note =>
        ⟨w.now, w.phase, .jobNoted 0 note⟩).reverse ++ w.trace } := by
  have hscheduler : w.scheduler 0 = s := by rw [scheduler, hs]; rfl
  rw [pollLoop, hscheduler, Scheduler.pollLoop, hl]
  simp [emitAll_eq, updateScheduler, hs, Function.comp_def]

namespace Usage

/-! ### Polls of the routines -/

/-- The task of an entry routine that waits for its cancellation. -/
def awaitingCancel : Task := .awaiting (.note (.jobs .cancelled) .done)

/-- The failure of a teardown that has waited for the loops in vain. -/
def lateFailure : Failure := { root := "scheduler stop timed out" }

/-- The task of a teardown routine that waits for the loops up to an instant. -/
def joiningLoops (until_ : Nat) : Task :=
  .joining until_ (.note (.jobs .stopped) .done) (.stop (.failed lateFailure))

/-- What a poll of a routine of the component does to the world: there are other recurring jobs, and
no run of a job begins. -/
structure Handled (w w' : World) (s : Scheduler) : Prop where
  schedulers_eq : w'.schedulers = [s]
  starts_eq : w'.trace.about Event.isStart = w.trace.about Event.isStart

section Routines

variable (jobs : List Job) (actor : Actor) {w : World} {s : Scheduler}

/-- The entry routine starts the loops, and then waits for its cancellation. -/
lemma poll_entry (hs : w.schedulers = [s]) :
    ((Task.unbegun (Operation.run.routine (.ofJobs jobs))).poll actor 0 w).1
        = (if w.cancelled then .ended .finished else awaitingCancel) ∧
      Handled w ((Task.unbegun (Operation.run.routine (.ofJobs jobs))).poll actor 0 w).2
        s.start := by
  cases hc : w.cancelled <;> refine ⟨?_, ?_, ?_⟩ <;>
    simp [Task.poll, Operation.routine, Component.ofJobs, Routine.exec, Routine.done,
      World.updateScheduler, hc, hs, awaitingCancel, Event.isStart, JobNote.isStart]

lemma poll_awaitingCancel (hs : w.schedulers = [s]) :
    (awaitingCancel.poll actor 0 w).1 = (if w.cancelled then .ended .finished else awaitingCancel) ∧
      Handled w (awaitingCancel.poll actor 0 w).2 s := by
  cases hc : w.cancelled <;> refine ⟨?_, ?_, ?_⟩ <;>
    simp [awaitingCancel, Task.poll, Routine.exec, Routine.done, hc, hs, Event.isStart]

/-- The teardown routine stops the loops, and then waits for those that are left. -/
lemma poll_teardown (hs : w.schedulers = [s]) (deadline : Duration) :
    ((Task.unbegun ((Operation.tearDown deadline).routine (.ofJobs jobs))).poll actor 0 w).1
        = (if s.isIdle then .ended .finished
          else if deadline.millis = 0 then .ended (.failed lateFailure)
          else joiningLoops (w.now + deadline.millis)) ∧
      Handled w ((Task.unbegun ((Operation.tearDown deadline).routine (.ofJobs jobs))).poll actor 0
        w).2 s.stop := by
  have hidle : s.stop.isIdle = s.isIdle := rfl
  cases hi : s.isIdle <;> by_cases hd : deadline.millis = 0 <;> refine ⟨?_, ?_, ?_⟩ <;>
    simp [Task.poll, Operation.routine, Component.ofJobs, Routine.exec, Routine.done,
      World.updateScheduler, World.scheduler, hs, hidle, hi, hd, joiningLoops, lateFailure,
      Event.isStart]

lemma poll_joiningLoops (hs : w.schedulers = [s]) (until_ : Nat) :
    ((joiningLoops until_).poll actor 0 w).1
        = (if s.isIdle then .ended .finished
          else if until_ ≤ w.now then .ended (.failed lateFailure) else joiningLoops until_) ∧
      Handled w ((joiningLoops until_).poll actor 0 w).2 s := by
  cases hi : s.isIdle <;> by_cases hd : until_ ≤ w.now <;> refine ⟨?_, ?_, ?_⟩ <;>
    simp [Task.poll, Routine.exec, Routine.done, World.scheduler, hs, hi, hd, joiningLoops,
      lateFailure, Event.isStart]

end Routines

/-! ### The calls -/

/-- Where a call of a component with recurring jobs stands. -/
inductive Call.Fits (jobs : List Job) (now : Nat) : Call → Prop
  | unbegun {operation : Operation} {cancelled : Option Nat}
      (hcancelled : cancelled = none ∨ cancelled = some now) :
      Fits jobs now ⟨operation, now, cancelled, .unbegun (operation.routine (.ofJobs jobs)), none⟩
  | awaiting {made : Nat} {cancelled : Option Nat} (hmade : made ≤ now)
      (hcancelled : cancelled = none ∨ cancelled = some now) :
      Fits jobs now ⟨.run, made, cancelled, awaitingCancel, none⟩
  | finished {made time : Nat} (hmade : made ≤ time) (htime : time ≤ now) :
      Fits jobs now ⟨.run, made, some time, .ended .finished, some ⟨time, .finished⟩⟩
  | joining {deadline : Duration} {made : Nat} {cancelled : Option Nat} (hmade : made ≤ now)
      (hnow : now ≤ made + deadline.millis) :
      Fits jobs now
        ⟨.tearDown deadline, made, cancelled, joiningLoops (made + deadline.millis), none⟩
  | stopped {deadline : Duration} {made time : Nat} {cancelled : Option Nat} {ending : Ending}
      (hmade : made ≤ time) (htime : time ≤ now) :
      Fits jobs now ⟨.tearDown deadline, made, cancelled, .ended ending, some ⟨time, ending⟩⟩

namespace Call.Fits

variable {jobs : List Job} {now : Nat} {c : Call}

/-- A call that has not begun has just been made. -/
lemma made_eq (h : c.Fits jobs now) (hunbegun : c.task.isUnbegun = true) : c.made = now := by
  cases h <;> first | rfl | cases hunbegun

/-- A call that has returned has begun. -/
lemma isUnbegun_of_returned (h : c.Fits jobs now) {ret : Return} (hret : c.returned = some ret) :
    c.task.isUnbegun = false := by
  cases h <;> first | rfl | cases hret

/-- A call does not return before it is made. -/
lemma made_le (h : c.Fits jobs now) {ret : Return} (hret : c.returned = some ret) :
    c.made ≤ ret.time := by
  cases h with
  | finished hmade htime => exact Option.some.inj hret ▸ hmade
  | stopped hmade htime => exact Option.some.inj hret ▸ hmade
  | _ => cases hret

/-- A call of the teardown routine waits no longer than its deadline. -/
lemma now_le {deadline : Duration} (h : c.Fits jobs now) (hop : c.operation = .tearDown deadline)
    (hnone : c.returned = none) : now ≤ c.made + deadline.millis := by
  cases h with
  | unbegun hcancelled => exact Nat.le_add_right _ _
  | awaiting hmade hcancelled => cases hop
  | finished hmade htime => cases hnone
  | joining hmade hnow =>
      obtain rfl := Operation.tearDown.inj hop
      exact hnow
  | stopped hmade htime => cases hnone

/-- The token of a call may be cancelled at any time. -/
lemma cancel (h : c.Fits jobs now) :
    (c.cancel now).Fits jobs now := by
  cases h with
  | unbegun hcancelled => exact .unbegun (.inr (by rcases hcancelled with rfl | rfl <;> rfl))
  | awaiting hmade hcancelled =>
      exact .awaiting hmade (.inr (by rcases hcancelled with rfl | rfl <;> rfl))
  | finished hmade htime => exact .finished hmade htime
  | joining hmade hnow => exact .joining hmade hnow
  | stopped hmade htime => exact .stopped hmade htime

/-- Time passes for a call that cannot go on, up to the instant for which it waits. -/
lemma pass {w : World} {span : Nat} (h : c.Fits jobs w.now)
    (hr : c.task.ready { w with cancelled := c.cancelled.isSome } 0 = false)
    (hwake : ∀ wake, c.task.wake = some wake → w.now + span ≤ wake) :
    c.Fits jobs (w.now + span) := by
  have hlater := Nat.le_add_right w.now span
  cases h with
  | unbegun hcancelled => cases hr
  | awaiting hmade hcancelled =>
      rcases hcancelled with rfl | rfl
      · exact .awaiting (Nat.le_trans hmade hlater) (.inl rfl)
      · cases hr
  | finished hmade htime => exact .finished hmade (Nat.le_trans htime hlater)
  | joining hmade hnow => exact .joining (Nat.le_trans hmade hlater) (hwake _ rfl)
  | stopped hmade htime => exact .stopped hmade (Nat.le_trans htime hlater)

end Call.Fits

/-- The records of the runs that have begun. -/
def starts (u : Usage) : Trace := u.world.trace.about Event.isStart

/-- Whether a call has started loops: it is one of the entry routine, and it has begun. -/
def Call.isStarted (c : Call) : Bool := c.operation == .run && !c.task.isUnbegun

/-- The call after a poll. -/
def polled (u : Usage) (place : Nat) (c : Call) : Call :=
  let task := (c.task.poll (c.operation.actor place) 0 (u.under c)).1
  { c with task, returned := task.ending?.map fun ending => ⟨u.world.now, ending⟩ }

variable {jobs : List Job} {u : Usage} {place : Nat} {c : Call}

variable (place) (c) in
lemma calls_pollCall : (u.pollCall place c).calls = u.calls.set place (u.polled place c) := by
  have hripples := (c.task.poll_spec (c.operation.actor place) 0 (u.under c)).2
  simp only [pollCall, polled, hripples.now_eq]
  rfl

/-- A poll of a call: it goes on, and it starts loops, lets them be or stops them. -/
structure Poll (jobs : List Job) (u : Usage) (place : Nat) (c : Call) (u' : Usage) : Prop where
  now_eq : u'.world.now = u.world.now
  wallClock_eq : u'.world.wallClock = u.world.wallClock
  starts_eq : u'.starts = u.starts
  calls_eq : u'.calls = u.calls.set place (u.polled place c)
  fits : (u.polled place c).Fits jobs u.world.now
  begun : (u.polled place c).task.isUnbegun = false
  schedulers_eq : u'.world.schedulers = [u'.scheduler]
  stops : c.operation ≠ .run → c.task.isUnbegun = true → u'.scheduler.stopping = true
  effect : (c.operation = .run ∧ c.task.isUnbegun = true ∧ u'.scheduler = u.scheduler.start ∧
        u'.courses = u.courses ++ List.replicate u.scheduler.jobs.length { call := place }) ∨
      ((c.operation = .run → c.isStarted = true) ∧
        (u'.scheduler = u.scheduler ∨ c.operation ≠ .run ∧ u'.scheduler = u.scheduler.stop) ∧
          u'.courses = u.courses)

variable {u' : Usage} {s : Scheduler}

/-- What a poll that leaves the loops alone does to the courses. -/
lemma courses_pollCall (hlength : u.courses.length = s.loops.length)
    (hs : (u.pollCall place c).world.schedulers = [s]) :
    (u.pollCall place c).courses = u.courses := by
  have hscheduler : (c.task.poll (c.operation.actor place) 0 (u.under c)).2.schedulers = [s] := hs
  simp [pollCall, World.scheduler, hscheduler, hlength]

/-- What a poll that starts the loops does to them. -/
lemma courses_pollCall_start (hlength : u.courses.length = u.scheduler.loops.length)
    (hs : (u.pollCall place c).world.schedulers = [u.scheduler.start]) :
    (u.pollCall place c).courses
      = u.courses ++ List.replicate u.scheduler.jobs.length { call := place } := by
  have hscheduler : (c.task.poll (c.operation.actor place) 0 (u.under c)).2.schedulers
    = [u.scheduler.start] := hs
  simp [pollCall, World.scheduler, hscheduler, hlength, Scheduler.start]

variable (place) in
/-- **A call of a component with recurring jobs goes on as the component prescribes.** -/
theorem poll_pollCall (hs : u.world.schedulers = [u.scheduler])
    (hlength : u.courses.length = u.scheduler.loops.length)
    (hfits : c.Fits jobs u.world.now) (hr : u.callReady c = true) :
    Poll jobs u place c (u.pollCall place c) := by
  have hunder : (u.under c).schedulers = [u.scheduler] := hs
  have hscheduler : (u.under c).scheduler 0 = u.scheduler := rfl
  obtain ⟨hbegun, hripples⟩ := c.task.poll_spec (c.operation.actor place) 0 (u.under c)
  -- What is left to show is where the call stands and what becomes of the loops.
  have hpoll : ∀ s, Handled (u.under c) (c.task.poll (c.operation.actor place) 0 (u.under c)).2 s →
      (u.polled place c).Fits jobs u.world.now →
      (c.operation ≠ .run → c.task.isUnbegun = true → s = u.scheduler.stop) →
      (c.operation = .run ∧ c.task.isUnbegun = true ∧ s = u.scheduler.start ∨
        (c.operation = .run → c.isStarted = true) ∧
          (s = u.scheduler ∨ c.operation ≠ .run ∧ s = u.scheduler.stop)) →
      Poll jobs u place c (u.pollCall place c) := by
    intro s hhandled hfits hstops heffect
    have hworld : (u.pollCall place c).world.schedulers = [s] := hhandled.schedulers_eq
    obtain rfl : (u.pollCall place c).scheduler = s := by
      rw [scheduler, World.scheduler, hworld]
      rfl
    refine ⟨hripples.now_eq, hripples.wallClock_eq, hhandled.starts_eq, calls_pollCall place c,
      hfits, hbegun, hworld, fun hop hunbegun => by rw [hstops hop hunbegun]; rfl, ?_⟩
    rcases heffect with ⟨hop, hunbegun, hs⟩ | ⟨hop, hs⟩
    · exact .inl ⟨hop, hunbegun, hs, courses_pollCall_start hlength (hs ▸ hworld)⟩
    · refine .inr ⟨hop, hs, courses_pollCall ?_ hworld⟩
      rcases hs with hs | ⟨-, hs⟩
      · rw [hs, hlength]
      · rw [hs, hlength]
        rfl
  cases hfits with
  | @unbegun operation cancelled hcancelled =>
      cases operation with
      | run =>
          obtain ⟨htask, hhandled⟩ := poll_entry jobs (.entry place) hunder
          refine hpoll _ hhandled ?_ (fun hop => absurd rfl hop) (.inl ⟨rfl, rfl, rfl⟩)
          simp only [polled, Operation.actor, htask]
          rcases hcancelled with rfl | rfl
          · exact .awaiting (Nat.le_refl _) (.inl rfl)
          · exact .finished (Nat.le_refl _) (Nat.le_refl _)
      | tearDown deadline =>
          obtain ⟨htask, hhandled⟩ := poll_teardown jobs (.teardown place) hunder deadline
          refine hpoll _ hhandled ?_ (fun _ _ => rfl) (.inr ⟨nofun, .inr ⟨nofun, rfl⟩⟩)
          simp only [polled, Operation.actor, htask]
          split
          · exact .stopped (Nat.le_refl _) (Nat.le_refl _)
          · split
            · exact .stopped (Nat.le_refl _) (Nat.le_refl _)
            · exact .joining (Nat.le_refl _) (Nat.le_add_right _ _)
  | awaiting hmade hcancelled =>
      obtain ⟨htask, hhandled⟩ := poll_awaitingCancel (.entry place) hunder
      refine hpoll _ hhandled ?_ (fun hop => absurd rfl hop) (.inr ⟨fun _ => rfl, .inl rfl⟩)
      simp only [polled, Operation.actor, htask]
      rcases hcancelled with rfl | rfl
      · cases hr
      · exact .finished hmade (Nat.le_refl _)
  | finished hmade htime => cases hr
  | @joining deadline made cancelled hmade hnow =>
      obtain ⟨htask, hhandled⟩ :=
        poll_joiningLoops (.teardown place) hunder (made + deadline.millis)
      refine hpoll _ hhandled ?_ (fun _ => nofun) (.inr ⟨nofun, .inl rfl⟩)
      simp only [polled, Operation.actor, htask]
      split
      · exact .stopped hmade (Nat.le_refl _)
      · split
        · exact .stopped hmade (Nat.le_refl _)
        · exact .joining hmade hnow
  | stopped hmade htime => cases hr

lemma isStarted_polled (h : Poll jobs u place c u') :
    (u.polled place c).isStarted = (c.operation == .run) := by
  rw [Call.isStarted, h.begun, Bool.not_false, Bool.and_true]
  rfl

namespace Poll

lemma jobs_eq (h : Poll jobs u place c u') : u'.scheduler.jobs = u.scheduler.jobs := by
  rcases h.effect with ⟨-, -, hs, -⟩ | ⟨-, hs | ⟨-, hs⟩, -⟩
  · rw [hs, Scheduler.start]
  · rw [hs]
  · rw [hs, Scheduler.stop]

/-- Loops that have been told to stop are not told otherwise. -/
lemma stopping_of (h : Poll jobs u place c u') (hstop : u.scheduler.stopping = true) :
    u'.scheduler.stopping = true := by
  rcases h.effect with ⟨-, -, hs, -⟩ | ⟨-, hs | ⟨-, hs⟩, -⟩
  · rwa [hs, Scheduler.start]
  · rwa [hs]
  · rw [hs, Scheduler.stop]

/-- The entry routine does not tell the loops to stop. -/
lemma stopping_eq (h : Poll jobs u place c u') (hop : c.operation = .run) :
    u'.scheduler.stopping = u.scheduler.stopping := by
  rcases h.effect with ⟨-, -, hs, -⟩ | ⟨-, hs | ⟨hne, -⟩, -⟩
  · rw [hs, Scheduler.start]
  · rw [hs]
  · exact absurd hop hne

/-- A poll starts one loop per job, or it leaves the loops alone. -/
lemma loops_cases (h : Poll jobs u place c u') :
    (c.operation = .run ∧ c.task.isUnbegun = true ∧
        u'.scheduler.loops = u.scheduler.loops
          ++ (List.range u.scheduler.jobs.length).map (fun job => ⟨job, .unbegun⟩) ∧
        u'.courses = u.courses ++ List.replicate u.scheduler.jobs.length { call := place }) ∨
      ((c.operation = .run → c.isStarted = true) ∧ u'.scheduler.loops = u.scheduler.loops ∧
        u'.courses = u.courses) := by
  rcases h.effect with ⟨hop, hunbegun, hs, hcourses⟩ | ⟨hop, hs, hcourses⟩
  · exact .inl ⟨hop, hunbegun, by rw [hs, Scheduler.start], hcourses⟩
  · refine .inr ⟨hop, ?_, hcourses⟩
    rcases hs with hs | ⟨-, hs⟩
    · rw [hs]
    · rw [hs, Scheduler.stop]

/-- The teardown routine leaves them alone. -/
lemma loops_eq (h : Poll jobs u place c u') (hop : c.operation ≠ .run) :
    u'.scheduler.loops = u.scheduler.loops := by
  rcases h.loops_cases with ⟨hrun, -⟩ | ⟨-, hloops, -⟩
  · exact absurd hrun hop
  · exact hloops

lemma getElem?_calls (h : Poll jobs u place c u') (hc : u.calls[place]? = some c) (i : Nat) :
    u'.calls[i]? = if i = place then some (u.polled place c) else u.calls[i]? := by
  rw [h.calls_eq, List.getElem?_set]
  by_cases hi : place = i
  · rw [if_pos hi, if_pos hi.symm, if_pos (List.getElem?_eq_some_iff.mp hc).1]
  · rw [if_neg hi, if_neg (Ne.symm hi)]

end Poll

lemma mem_runs {r : Firing} :
    r ∈ u.runs ↔ ∃ (number : Nat) (c : Course), u.courses[number]? = some c ∧ r ∈ c.runs := by
  rw [runs, List.mem_flatMap]
  constructor
  · rintro ⟨c, hc, hr⟩
    obtain ⟨number, hc⟩ := List.mem_iff_getElem?.mp hc
    exact ⟨number, c, hc, hr⟩
  · rintro ⟨number, c, hc, hr⟩
    exact ⟨c, List.mem_of_getElem? hc, hr⟩

/-- No run begins. -/
lemma Poll.runs_eq (h : Poll jobs u place c u') : u'.runs = u.runs := by
  have hnew : ∀ n, (List.replicate n ({ call := place } : Course)).flatMap (·.runs) = [] :=
    fun n => List.flatMap_eq_nil_iff.mpr fun course hcourse => by
      rw [(List.mem_replicate.mp hcourse).2]
  rcases h.effect with ⟨-, -, -, hcourses⟩ | ⟨-, -, hcourses⟩
  · rw [runs, hcourses, List.flatMap_append, hnew, List.append_nil, runs]
  · rw [runs, hcourses, runs]

/-! ### The loops -/

/-- What a poll makes of a loop, whether a run begins, and what is logged. -/
abbrev stepped (u : Usage) (fires : Bool) (l : JobLoop) : LoopState × Bool × List JobNote :=
  u.scheduler.stepLoop u.world.now (u.world.wallClock u.world.now) fires l

/-- What a poll of a loop makes of its course. -/
abbrev extended (u : Usage) (fires : Bool) (l : JobLoop) (c : Course) : Course :=
  c.extend u.scheduler u.world.now (u.world.wallClock u.world.now) fires l

/-- A poll of a loop: it goes on, and at most it begins a run. -/
structure LoopPoll (u : Usage) (number : Nat) (fires : Bool) (l : JobLoop) (u' : Usage) : Prop where
  now_eq : u'.world.now = u.world.now
  wallClock_eq : u'.world.wallClock = u.world.wallClock
  calls_eq : u'.calls = u.calls
  schedulers_eq : u'.world.schedulers = [u'.scheduler]
  stopping_eq : u'.scheduler.stopping = u.scheduler.stopping
  loops_eq : u'.scheduler.loops
    = u.scheduler.loops.set number { l with state := (u.stepped fires l).1 }
  jobs_eq : u'.scheduler.jobs =
    if (u.stepped fires l).2.1 then u.scheduler.jobs.modify l.job .countRun else u.scheduler.jobs
  courses_eq : u'.courses = u.courses.modify number (u.extended fires l)
  starts_eq : ∀ job, u.scheduler.jobs[l.job]? = some job → u'.starts =
    if (u.stepped fires l).2.1 then
      ⟨u.world.now, u.world.phase, .jobNoted 0 (.begun job.place job.job.name)⟩ :: u.starts
    else u.starts

namespace LoopPoll

variable {number : Nat} {fires : Bool} {l : JobLoop}

lemma getElem?_loops (h : LoopPoll u number fires l u') (hl : u.scheduler.loops[number]? = some l)
    (i : Nat) : u'.scheduler.loops[i]?
      = if i = number then some { l with state := (u.stepped fires l).1 }
        else u.scheduler.loops[i]? := by
  rw [h.loops_eq, List.getElem?_set]
  by_cases hi : number = i
  · rw [if_pos hi, if_pos hi.symm, if_pos (List.getElem?_eq_some_iff.mp hl).1]
  · rw [if_neg hi, if_neg (Ne.symm hi)]

lemma getElem?_courses {c : Course} (h : LoopPoll u number fires l u')
    (hc : u.courses[number]? = some c) (i : Nat) :
    u'.courses[i]? = if i = number then some (u.extended fires l c) else u.courses[i]? := by
  rw [h.courses_eq, List.getElem?_modify]
  by_cases hi : number = i
  · simp [hi.symm, hc]
  · simp [hi, Ne.symm hi]

/-- A poll leaves each loop its job and the call that started it. -/
lemma shares_eq {c : Course} (h : LoopPoll u number fires l u')
    (hl : u.scheduler.loops[number]? = some l) (hc : u.courses[number]? = some c) :
    (u'.scheduler.loops.map (·.job)).zip (u'.courses.map (·.call))
      = (u.scheduler.loops.map (·.job)).zip (u.courses.map (·.call)) := by
  have hloops : u'.scheduler.loops.map (·.job) = u.scheduler.loops.map (·.job) := by
    refine List.ext_getElem? fun i => ?_
    rw [List.getElem?_map, List.getElem?_map, h.getElem?_loops hl]
    split
    · rename_i hi
      rw [hi, hl]
      rfl
    · rfl
  have hcourses : u'.courses.map (·.call) = u.courses.map (·.call) := by
    refine List.ext_getElem? fun i => ?_
    rw [List.getElem?_map, List.getElem?_map, h.getElem?_courses hc]
    split
    · rename_i hi
      rw [hi, hc, Option.map_some, Course.call_extend]
      rfl
    · rfl
  rw [hloops, hcourses]

/-- What has been recorded stays on record. -/
lemma mem_starts {job : ScheduledJob} (h : LoopPoll u number fires l u')
    (hjob : u.scheduler.jobs[l.job]? = some job) {x : Record} (hx : x ∈ u.starts) :
    x ∈ u'.starts := by
  rw [h.starts_eq job hjob]
  split
  · exact List.mem_cons_of_mem _ hx
  · exact hx

end LoopPoll

/-- **A loop goes on, and records the run that it begins.** -/
theorem loopPoll_pollLoop {number : Nat} {l : JobLoop} (hs : u.world.schedulers = [u.scheduler])
    (hl : u.scheduler.loops[number]? = some l) (fires : Bool) :
    LoopPoll u number fires l (u.pollLoop number fires l) := by
  have hworld := World.pollLoop_singleton hs hl fires
  have hscheduler : (u.pollLoop number fires l).world.schedulers
      = [(u.pollLoop number fires l).scheduler] := by
    rw [scheduler, World.scheduler, pollLoop, hworld]
    rfl
  have hparts := hscheduler.symm.trans (congrArg World.schedulers hworld)
  obtain ⟨hjobs, hloops, hstopping⟩ := Scheduler.mk.inj (List.cons.inj hparts).1
  have hripples := u.world.pollLoop_ripples 0 number fires
  refine ⟨hripples.now_eq, hripples.wallClock_eq, rfl, hscheduler, hstopping, hloops, hjobs, rfl,
    fun job hjob => ?_⟩
  have hnotes : ∀ notes : List JobNote, Trace.about Event.isStart ((notes.map fun note =>
      (⟨u.world.now, u.world.phase, .jobNoted 0 note⟩ : Record)).reverse)
        = ((notes.filter JobNote.isStart).map fun note =>
          ⟨u.world.now, u.world.phase, .jobNoted 0 note⟩).reverse := fun notes => by
    rw [Trace.about, List.filter_reverse, List.filter_map]
    rfl
  rw [starts, pollLoop, hworld, Trace.about_append, hnotes, Scheduler.starts_stepLoop, hjob]
  dsimp only
  split <;> rfl

/-! ### Steps -/

section Calls

variable {component : Component} {operation : Operation} {i : Nat}

lemma getElem?_calls_call (h : u.calls[i]? = some c) :
    (u.call component operation).calls[i]? = some c := by
  rw [call, List.getElem?_append_left (List.getElem?_eq_some_iff.mp h).1, h]

/-- The calls after one more: it stands at the end. -/
lemma calls_call (h : (u.call component operation).calls[i]? = some c) : u.calls[i]? = some c ∨
    c = ⟨operation, u.world.now, none, .unbegun (operation.routine component), none⟩ := by
  rw [call, List.getElem?_append] at h
  split at h
  · exact .inl h
  · exact .inr (List.mem_singleton.mp (List.mem_of_getElem? h))

variable (place) in
lemma getElem?_calls_cancel (h : u.calls[i]? = some c) :
    (u.cancel place).calls[i]? = some c ∨
      (u.cancel place).calls[i]? = some (c.cancel u.world.now) := by
  rw [cancel, List.getElem?_modify, h]
  by_cases hi : place = i
  · exact .inr (by rw [hi]; simp)
  · exact .inl (by simp [hi])

/-- The calls after a cancellation: it is one of theirs. -/
lemma calls_cancel (h : (u.cancel place).calls[i]? = some c) : u.calls[i]? = some c ∨
    ∃ old, u.calls[i]? = some old ∧ c = old.cancel u.world.now := by
  rw [cancel, List.getElem?_modify] at h
  obtain ⟨old, hold, rfl⟩ := Option.map_eq_some_iff.mp h
  by_cases hi : place = i
  · exact .inr ⟨old, hold, if_pos hi⟩
  · exact .inl (by rw [if_neg hi, hold])

lemma getElem?_pollCall_self (hc : u.calls[place]? = some c) :
    (u.pollCall place c).calls[place]? = some (u.polled place c) := by
  rw [calls_pollCall, List.getElem?_set_self (List.getElem?_eq_some_iff.mp hc).1]

lemma getElem?_pollCall_ne (hi : place ≠ i) :
    (u.pollCall place c).calls[i]? = u.calls[i]? := by
  rw [calls_pollCall, List.getElem?_set_ne hi]

end Calls

/-- What one step does. -/
inductive Step (component : Component) (u : Usage) : Label → Usage → Prop
  | call (operation : Operation) : Step component u (.call operation) (u.call component operation)
  | cancel (place : Nat) : Step component u (.cancel place) (u.cancel place)
  | poll {place : Nat} {c : Call} (hc : u.calls[place]? = some c) (hr : u.callReady c = true) :
      Step component u (.poll place) (u.pollCall place c)
  | loop {number : Nat} {l : JobLoop} (fires : Bool) (hl : u.scheduler.loops[number]? = some l)
      (hr : u.scheduler.loopReady u.world.now l = true) :
      Step component u (.loop number fires) (u.pollLoop number fires l)
  | pass {span : Nat} (hr : u.rests span = true) : Step component u (.pass span) (u.pass span)

theorem step?_eq_some_iff {component : Component} {label : Label} :
    u.step? component label = some u' ↔ Step component u label u' := by
  constructor
  · intro hu
    cases label with
    | call operation =>
        obtain rfl := Option.some.inj hu
        exact .call operation
    | cancel place =>
        obtain rfl := Option.some.inj hu
        exact .cancel place
    | poll place =>
        obtain ⟨c, hc, hu⟩ := Option.bind_eq_some_iff.mp hu
        obtain ⟨hr, hu⟩ := Option.ite_none_right_eq_some.mp hu
        obtain rfl := Option.some.inj hu
        exact .poll hc hr
    | loop number fires =>
        obtain ⟨l, hl, hu⟩ := Option.bind_eq_some_iff.mp hu
        obtain ⟨hr, hu⟩ := Option.ite_none_right_eq_some.mp hu
        obtain rfl := Option.some.inj hu
        exact .loop fires hl hr
    | pass span =>
        obtain ⟨hr, hu⟩ := Option.ite_none_right_eq_some.mp hu
        obtain rfl := Option.some.inj hu
        exact .pass hr
  · rintro (operation | place | ⟨hc, hr⟩ | ⟨fires, hl, hr⟩ | hr)
    · rfl
    · rfl
    · simp [step?, hc, hr]
    · simp [step?, hl, hr]
    · simp [step?, hr]

/-- What it is that cannot go on at a quiet moment. -/
theorem isQuiet_iff : u.isQuiet = true ↔ (∀ c ∈ u.calls, u.callReady c = false) ∧
    ∀ l ∈ u.scheduler.loops, u.scheduler.loopReady u.world.now l = false := by
  simp [isQuiet]

/-- Time passes at a quiet moment, and not beyond what something waits for. -/
theorem rests_iff {span : Nat} : u.rests span = true ↔ u.isQuiet = true ∧
    (∀ c ∈ u.calls, ∀ wake, c.task.wake = some wake → u.world.now + span ≤ wake) ∧
      ∀ l ∈ u.scheduler.loops, ∀ wake, Scheduler.loopWake l = some wake →
        u.world.now + span ≤ wake := by
  simp only [rests, wakes, Bool.and_eq_true, List.all_append, List.all_eq_true, List.mem_filterMap,
    decide_eq_true_eq, forall_exists_index, and_imp]
  refine and_congr_right fun _ => and_congr ?_ ?_
  · exact ⟨fun h c hc wake hwake => h wake c hc hwake, fun h wake c hc hwake => h c hc wake hwake⟩
  · exact ⟨fun h l hl wake hwake => h wake l hl hwake, fun h wake l hl hwake => h l hl wake hwake⟩

end Usage

end ServiceSupervisor
