import ServiceSupervisor.Proofs.Phases

/-!
Runs without alarms.

A routine raises an alarm when it cancels the shared token or raises a termination signal.  Once the
shutdown has begun nobody is left to hear it: the token is cancelled already, and the supervisor
does not look at its listener again.  So whatever happens then happens in the same way when all
routines keep calm.

* `Routine.calm`, `World.calm`, `Run.calm`: a routine, a world and a run without alarms, and without
  their traces;
* `Routine.exec_calm`, `Task.advance_calm`: a calm routine does what the routine does, as long as
  the token is cancelled;
* `Teardown.proceed_calm`, `Startup.poll_calm`: likewise for the coordinator of the teardown and for
  the entry routines;
* `Run.Late`: the shutdown has begun and the token is cancelled;
* `Run.step?_calm`: a step of a late run, the delivery of signals apart, is a step of the calm one.
-/

namespace ServiceSupervisor

/-! ### Alarms -/

/-- Whether a note tells of a signal that the routine has raised, or has not dared to raise. -/
def Note.isAlarm : Note → Bool
  | .raised _ | .raiseSkipped _ => true
  | _ => false

/-- Whether an event is a routine's cancellation of the shared token or its raising of a signal. -/
def Event.isAlarm : Event → Bool
  | .cancelled (some _) => true
  | .noted _ _ note => note.isAlarm
  | _ => false

/-- The routine without its alarms. -/
def Routine.calm : Routine → Routine
  | .stop ending => .stop ending
  | .hang => .hang
  | .sleep span next => .sleep span next.calm
  | .pause next => .pause next.calm
  | .awaitCancel next => .awaitCancel next.calm
  | .sleepOrCancel span late cancelled => .sleepOrCancel span late.calm cancelled.calm
  | .cancel next => next.calm
  | .ifCancelled yes no => .ifCancelled yes.calm no.calm
  | .note left next => if left.isAlarm then next.calm else .note left next.calm
  | .raise _ next => next.calm
  | .startJobs next => .startJobs next.calm
  | .stopJobs next => .stopJobs next.calm
  | .awaitJobs span idle late => .awaitJobs span idle.calm late.calm

/-- A component whose routines raise no alarm. -/
def Component.calm (c : Component) : Component :=
  { c with entry := c.entry.calm, teardown := fun deadline => (c.teardown deadline).calm }

/-- The registration of a component whose routines raise no alarm. -/
def Registration.calm (r : Registration) : Registration := { r with component := r.component.calm }

/-- The same registrations, of components whose routines raise no alarm. -/
def Registry.calm (r : Registry) : Registry := ⟨r.entries.map Registration.calm⟩

/-- The same application, with components whose routines raise no alarm. -/
def Application.calm (app : Application) : Application := { app with registry := app.registry.calm }

/-- The task of a routine without its alarms. -/
def Task.calm : Task → Task
  | .unbegun routine => .unbegun routine.calm
  | .asleep until_ next => .asleep until_ next.calm
  | .paused next => .paused next.calm
  | .awaiting next => .awaiting next.calm
  | .racing until_ late cancelled => .racing until_ late.calm cancelled.calm
  | .joining until_ idle late => .joining until_ idle.calm late.calm
  | .hung => .hung
  | .ended ending => .ended ending

/-- The tasks of a registration whose entry routine raises no alarm. -/
def EntryTask.calm : EntryTask → EntryTask
  | .unspawned routine => .unspawned routine.calm
  | .watched task => .watched task.calm
  | .reported ending => .reported ending
  | .unwatched task => .unwatched task.calm

/-- The entry routines without their alarms. -/
def Startup.calm (s : Startup) : Startup := { s with entries := s.entries.map EntryTask.calm }

/-- A teardown routine without its alarms. -/
def TeardownTask.calm (t : TeardownTask) : TeardownTask := { t with task := t.task.calm }

/-- The teardown routines without their alarms. -/
def Teardown.calm (t : Teardown) : Teardown := { t with tasks := t.tasks.map TeardownTask.calm }

/-- The world without alarms: no signal is raised or pending, and none is on record. -/
def World.calm (w : World) : World :=
  { w with
    signals := w.signals.silenced
    trace := w.trace.about fun e => !e.isAlarm }

/-- The run without alarms. -/
def Run.calm (r : Run) : Run :=
  { r with world := r.world.calm, startup := r.startup.calm, teardown := r.teardown.calm }

/-! ### The world -/

namespace World

variable (w : World)

/-- What is not an alarm stays on record. -/
lemma calm_emit {event : Event} (he : event.isAlarm = false) :
    (w.emit event).calm = w.calm.emit event := by
  simp [calm, emit, he]

/-- An alarm does not. -/
lemma calm_emit_alarm {event : Event} (he : event.isAlarm = true) :
    (w.emit event).calm = w.calm := by
  simp [calm, emit, he]

lemma calm_emitAll {events : List Event} (he : ∀ event ∈ events, event.isAlarm = false) :
    (w.emitAll events).calm = w.calm.emitAll events := by
  induction events generalizing w with
  | nil => rfl
  | cons event events ih =>
      have hcons : ∀ w : World, w.emitAll (event :: events) = (w.emit event).emitAll events :=
        fun _ => rfl
      rw [hcons, hcons, ih _ fun e hmem => he e (List.mem_cons_of_mem event hmem),
        w.calm_emit (he event List.mem_cons_self)]

lemma calm_enter (phase : Phase) : (w.enter phase).calm = w.calm.enter phase :=
  calm_emit { w with phase := phase } rfl

/-- To cancel the token once more changes nothing. -/
lemma calm_cancel (hc : w.cancelled = true) (actor : Actor) :
    (w.cancel (some actor)).calm = w.calm := by
  rw [cancel, calm_emit_alarm _ rfl, ← hc]

lemma calm_raise (signal : Signal) :
    World.calm { w with signals := w.signals.raise signal } = w.calm := by
  rw [calm, calm, Signals.silenced_raise]

lemma calm_deliver : World.calm { w with signals := w.signals.deliver } = w.calm := by
  rw [calm, calm, Signals.silenced_deliver]

lemma calm_drop (number : Nat) :
    World.calm { w with signals := w.signals.drop number }
      = { w.calm with signals := w.calm.signals.drop number } := by
  rw [calm, Signals.silenced_drop]
  rfl

/-- The recurring jobs do not depend on alarms. -/
lemma calm_pollLoop (owner number : Nat) (fires : Bool) :
    (w.pollLoop owner number fires).calm = w.calm.pollLoop owner number fires := by
  refine calm_emitAll _ fun event he => ?_
  obtain ⟨note, -, rfl⟩ := List.mem_map.mp he
  rfl

end World

/-! ### Routines and tasks -/

section Tasks

variable (actor : Actor) (owner : Nat)

/-- **A routine that keeps calm does what it does otherwise**, as long as the token is cancelled. -/
theorem Routine.exec_calm (routine : Routine) (w : World) (hc : w.cancelled = true) :
    routine.calm.exec actor owner w.calm
      = ((routine.exec actor owner w).1.calm, (routine.exec actor owner w).2.calm) := by
  have hcalm : w.calm.cancelled = true := hc
  induction routine generalizing w with
  | stop ending => rfl
  | hang => rfl
  | pause next ih => rfl
  | sleep span next ih =>
      rw [calm, exec, exec]
      by_cases hspan : span.millis = 0
      · rw [if_pos hspan, if_pos hspan, ih w hc hcalm]
      · rw [if_neg hspan, if_neg hspan]
        rfl
  | awaitCancel next ih =>
      rw [calm, exec, exec, if_pos hc, if_pos hcalm, ih w hc hcalm]
  | sleepOrCancel span late cancelled ihl ihc =>
      rw [calm, exec, exec, if_pos hc, if_pos hcalm, ihc w hc hcalm]
  | cancel next ih =>
      rw [calm, exec, ← ih (w.cancel (some actor)) rfl rfl, w.calm_cancel hc]
  | ifCancelled yes no ihy ihn =>
      rw [calm, exec, exec, if_pos hc, if_pos hcalm, ihy w hc hcalm]
  | note left next ih =>
      rw [calm, exec, ← ih (w.emit (.noted actor owner left)) hc hcalm]
      by_cases halarm : left.isAlarm = true
      · have hevent : (Event.noted actor owner left).isAlarm = true := halarm
        rw [if_pos halarm, w.calm_emit_alarm hevent]
      · have hevent : (Event.noted actor owner left).isAlarm = false := Bool.eq_false_iff.mpr halarm
        rw [if_neg halarm, exec, w.calm_emit hevent]
  | raise signal next ih =>
      -- The dispositions decide whether the signal is raised; either way the calm world forgets it.
      rw [calm, exec]
      split
      · rw [← ih (w.emit _) hc hcalm, w.calm_emit_alarm rfl]
      · rw [← ih (World.emit { w with signals := w.signals.raise signal } _) hc hcalm,
          World.calm_emit_alarm _ rfl, w.calm_raise]
  | startJobs next ih =>
      have hrest := ih ((w.updateScheduler owner Scheduler.start).emit
        (.jobNoted owner (.started (w.scheduler owner).jobs.length))) hc hcalm
      rw [World.calm_emit _ rfl] at hrest
      exact hrest
  | stopJobs next ih => exact ih (w.updateScheduler owner Scheduler.stop) hc hcalm
  | awaitJobs span idle late ihi ihl =>
      rw [calm, exec, exec]
      show (if (w.scheduler owner).isIdle then _ else _) = _
      by_cases hidle : (w.scheduler owner).isIdle = true
      · rw [if_pos hidle, if_pos hidle, ihi w hc hcalm]
      · rw [if_neg hidle, if_neg hidle]
        by_cases hspan : span.millis = 0
        · rw [if_pos hspan, if_pos hspan, ihl w hc hcalm]
        · rw [if_neg hspan, if_neg hspan]
          rfl

namespace Task

variable (task : Task) (w : World)

@[simp] lemma ready_calm : task.calm.ready w.calm owner = task.ready w owner := by
  cases task <;> rfl

@[simp] lemma wake_calm : task.calm.wake = task.wake := by
  cases task <;> rfl

@[simp] lemma ending?_calm : task.calm.ending? = task.ending? := by
  cases task <;> rfl

@[simp] lemma hasEnded_calm : task.calm.hasEnded = task.hasEnded := by
  cases task <;> rfl

lemma poll_calm (hc : w.cancelled = true) :
    task.calm.poll actor owner w.calm
      = ((task.poll actor owner w).1.calm, (task.poll actor owner w).2.calm) := by
  have hcalm : w.calm.cancelled = true := hc
  cases task with
  | unbegun routine => exact routine.exec_calm actor owner w hc
  | paused next => exact next.exec_calm actor owner w hc
  | asleep until_ next =>
      rw [calm, poll, poll]
      show (if until_ ≤ w.now then _ else _) = _
      by_cases hdue : until_ ≤ w.now
      · rw [if_pos hdue, if_pos hdue, next.exec_calm actor owner w hc]
      · rw [if_neg hdue, if_neg hdue]
        rfl
  | awaiting next =>
      rw [calm, poll, poll, if_pos hc, if_pos hcalm, next.exec_calm actor owner w hc]
  | racing until_ late cancelled =>
      rw [calm, poll, poll, if_pos hc, if_pos hcalm, cancelled.exec_calm actor owner w hc]
  | joining until_ idle late =>
      rw [calm, poll, poll]
      show (if (w.scheduler owner).isIdle then _ else if until_ ≤ w.now then _ else _) = _
      by_cases hidle : (w.scheduler owner).isIdle = true
      · rw [if_pos hidle, if_pos hidle, idle.exec_calm actor owner w hc]
      · rw [if_neg hidle, if_neg hidle]
        by_cases hdue : until_ ≤ w.now
        · rw [if_pos hdue, if_pos hdue, late.exec_calm actor owner w hc]
        · rw [if_neg hdue, if_neg hdue]
          rfl
  | hung => rfl
  | ended ending => rfl

lemma announce_calm {begins : Event} (hb : begins.isAlarm = false) :
    task.calm.announce begins w.calm = (task.announce begins w).calm := by
  cases task with
  | unbegun routine => exact (w.calm_emit hb).symm
  | _ => rfl

lemma cancelled_announce (begins : Event) : (task.announce begins w).cancelled = w.cancelled := by
  cases task <;> rfl

/-- The beginning and the end of a task are no alarms. -/
lemma advance_calm (begins : Event) (ends : Ending → Event) (hb : begins.isAlarm = false)
    (he : ∀ ending, (ends ending).isAlarm = false) (hc : w.cancelled = true) :
    task.calm.advance begins ends actor owner w.calm
      = ((task.advance begins ends actor owner w).1.calm,
          (task.advance begins ends actor owner w).2.calm) := by
  rw [advance, advance, hasEnded_calm]
  by_cases hended : task.hasEnded = true
  · rw [if_pos hended, if_pos hended]
  · rw [if_neg hended, if_neg hended, task.announce_calm w hb,
      task.poll_calm actor owner _ ((task.cancelled_announce w begins).trans hc)]
    generalize task.poll actor owner (task.announce begins w) = polled
    simp only [ending?_calm]
    cases polled.1.ending? with
    | none => rfl
    | some ending => exact congrArg _ (polled.2.calm_emit (he ending)).symm

end Task

end Tasks

/-! ### Registries -/

namespace Registry

variable (registry : Registry) (index : Nat)

@[simp] lemma getElem?_calm :
    registry.calm.entries[index]? = registry.entries[index]?.map Registration.calm :=
  List.getElem?_map ..

@[simp] lemma size_calm : registry.calm.size = registry.size := List.length_map ..

@[simp] lemma nameAt_calm : registry.calm.nameAt index = registry.nameAt index := by
  rw [nameAt, getElem?_calm, Option.map_map]
  rfl

end Registry

/-! ### Entry routines -/

namespace EntryTask

variable (task : EntryTask)

@[simp] lemma ready_calm (w : World) (owner : Nat) :
    task.calm.ready w.calm owner = task.ready w owner := by
  cases task <;> first | rfl | exact Task.ready_calm ..

@[simp] lemma watchReady_calm : task.calm.watchReady = task.watchReady := by
  cases task <;> first | rfl | exact Task.hasEnded_calm ..

@[simp] lemma wake_calm : task.calm.wake = task.wake := by
  cases task <;> first | rfl | exact Task.wake_calm ..

@[simp] lemma isReported_calm : task.calm.isReported = task.isReported := by
  cases task <;> rfl

@[simp] lemma task_calm : task.calm.task = task.task.calm := by
  cases task <;> rfl

@[simp] lemma withTask_calm (polled : Task) :
    task.calm.withTask polled.calm = (task.withTask polled).calm := by
  cases task <;> rfl

end EntryTask

namespace Startup

variable (registry : Registry) (index : Nat) (s : Startup) (w : World)

@[simp] lemma getElem?_calm : s.calm.entries[index]? = s.entries[index]?.map EntryTask.calm :=
  List.getElem?_map ..

@[simp] lemma allReported_calm : s.calm.allReported = s.allReported := by
  rw [allReported, calm, List.all_map, allReported]
  exact congrArg _ (funext EntryTask.isReported_calm)

@[simp] lemma hasPending_calm : s.calm.hasPending = s.hasPending := by
  rw [hasPending, allReported_calm]
  rfl

@[simp] lemma watchReady_calm : s.calm.watchReady index = s.watchReady index := by
  rw [watchReady, getElem?_calm, watchReady]
  cases s.entries[index]? with
  | none => rfl
  | some task => exact task.watchReady_calm

@[simp] lemma ready_calm : s.calm.ready registry.calm w.calm index = s.ready registry w index := by
  rw [ready, getElem?_calm, Registry.getElem?_calm, ready]
  cases registry.entries[index]? with
  | none => rfl
  | some entry =>
      cases s.entries[index]? with
      | none => rfl
      | some task => exact task.ready_calm w entry.instanceId

@[simp] lemma wakes_calm : s.calm.wakes = s.wakes := by
  rw [wakes, calm, List.filterMap_map, wakes]
  exact congrArg (List.filterMap · s.entries) (funext EntryTask.wake_calm)

lemma watch_calm :
    s.calm.watch registry.calm index w.calm
      = ((s.watch registry index w).1.calm, (s.watch registry index w).2.calm) := by
  rw [watch, getElem?_calm, Registry.getElem?_calm, watch]
  cases registry.entries[index]? with
  | none => rfl
  | some entry =>
      cases s.entries[index]? with
      | none => rfl
      | some task =>
          cases task with
          | unspawned routine =>
              refine Prod.ext ?_ (w.calm_emit rfl).symm
              simp [EntryTask.calm, Task.calm, calm, List.map_set]
          | watched task =>
              cases task with
              | ended ending =>
                  refine Prod.ext ?_ (w.calm_emit rfl).symm
                  simp only [EntryTask.calm, calm, List.map_set]
                  rfl
              | _ => rfl
          | reported ending => rfl
          | unwatched task => rfl

lemma poll_calm (hc : w.cancelled = true) :
    s.calm.poll registry.calm index w.calm
      = ((s.poll registry index w).1.calm, (s.poll registry index w).2.calm) := by
  rw [poll, getElem?_calm, Registry.getElem?_calm, poll]
  cases registry.entries[index]? with
  | none => rfl
  | some entry =>
      cases s.entries[index]? with
      | none => rfl
      | some task =>
          simp only [Option.map_some, EntryTask.ready_calm, EntryTask.task_calm]
          show (if task.ready w entry.instanceId then _ else _) = _
          by_cases hr : task.ready w entry.instanceId = true
          · have hadv := task.task.advance_calm (.entry index) entry.instanceId w
              (.entryBegun index) (.entryEnded index) rfl (fun _ => rfl) hc
            simp [hr, Registration.calm, hadv, calm, List.map_set]
          · simp [hr]

end Startup

/-! ### Teardowns -/

namespace Teardown

variable (registry : Registry) (fallback : Duration) (t : Teardown) (w : World)

@[simp] lemma awaited_calm :
    t.calm.awaited = t.awaited.map fun awaited => (awaited.1.calm, awaited.2) := by
  rw [awaited, calm, awaited]
  cases t.awaitingUntil with
  | none => rfl
  | some until_ => simp [List.getLast?_map]; cases t.tasks.getLast? <;> rfl

@[simp] lemma isOver_calm : t.calm.isOver = t.isOver := by
  rw [isOver, awaited_calm, Option.isNone_map]
  rfl

@[simp] lemma outcome?_calm (task : TeardownTask) (until_ : Nat) :
    outcome? task.calm until_ w.calm = outcome? task until_ w := by
  rw [outcome?, TeardownTask.calm, Task.ending?_calm]
  rfl

lemma settle_calm (task : TeardownTask) (outcome : Outcome) :
    settle registry.calm task.calm outcome t.calm w.calm
      = ((settle registry task outcome t w).1.calm, (settle registry task outcome t w).2.calm) := by
  refine Prod.ext ?_ (w.calm_emit rfl).symm
  simp [settle, calm, TeardownTask.calm]

lemma spawnFrom_calm (index : Nat) :
    spawnFrom registry.calm fallback index t.calm w.calm
      = ((spawnFrom registry fallback index t w).1.calm,
          (spawnFrom registry fallback index t w).2.calm) := by
  induction index generalizing t w with
  | zero => rfl
  | succ index ih =>
      rw [spawnFrom, Registry.getElem?_calm, spawnFrom]
      cases registry.entries[index]? with
      | none => exact ih t w
      | some entry =>
          generalize htask : (⟨index, entry.effectiveDeadline fallback,
            .unbegun (entry.component.teardown (entry.effectiveDeadline fallback))⟩ : TeardownTask)
              = task
          have hcalm : (⟨index, entry.calm.effectiveDeadline fallback,
              .unbegun (entry.calm.component.teardown (entry.calm.effectiveDeadline fallback))⟩ :
                TeardownTask) = task.calm := by
            rw [← htask]
            rfl
          have htasks : calm { t with tasks := t.tasks ++ [task] }
              = ⟨t.calm.tasks ++ [task.calm], t.remaining, t.awaitingUntil, t.reports⟩ := by
            simp [calm]
          have hworld : (w.emit (.teardownSpawned index (entry.effectiveDeadline fallback))).calm
              = w.calm.emit (.teardownSpawned index (entry.calm.effectiveDeadline fallback)) :=
            w.calm_emit rfl
          simp only [Option.map_some, htask, hcalm]
          show (if (entry.effectiveDeadline fallback).millis = 0 then _ else _) = _
          -- With no time at all the task is settled at once, and the next one is spawned.
          by_cases hd : (entry.effectiveDeadline fallback).millis = 0
          · have hsettle := settle_calm registry { t with tasks := t.tasks ++ [task] }
              (w.emit (.teardownSpawned index (entry.effectiveDeadline fallback))) task .timedOut
            rw [htasks, hworld] at hsettle
            rw [if_pos hd, if_pos hd]
            exact (congrArg (fun p => spawnFrom registry.calm fallback index p.1 p.2) hsettle).trans
              (ih _ _)
          · rw [if_neg hd, if_neg hd, hworld]
            exact Prod.ext (by simp [calm]; rfl) rfl

lemma proceed_calm :
    t.calm.proceed registry.calm fallback w.calm
      = ((t.proceed registry fallback w).1.calm, (t.proceed registry fallback w).2.calm) := by
  rw [proceed, awaited_calm, proceed]
  cases t.awaited with
  | none => exact spawnFrom_calm registry fallback t w t.remaining
  | some awaited =>
      obtain ⟨task, until_⟩ := awaited
      simp only [Option.map_some, outcome?_calm]
      cases outcome? task until_ w with
      | none => rfl
      | some outcome =>
          simp only [settle_calm]
          exact spawnFrom_calm ..

@[simp] lemma ready_calm : t.calm.ready w.calm = t.ready w := by
  rw [ready, awaited_calm, ready]
  cases t.awaited with
  | none => rfl
  | some awaited => exact congrArg Option.isSome (outcome?_calm w awaited.1 awaited.2)

@[simp] lemma owner_calm (task : TeardownTask) :
    owner registry.calm task.calm = owner registry task := by
  rw [owner, Registry.getElem?_calm, Option.map_map]
  rfl

@[simp] lemma getElem?_calm (number : Nat) :
    t.calm.tasks[number]? = t.tasks[number]?.map TeardownTask.calm :=
  List.getElem?_map ..

@[simp] lemma taskReady_calm (number : Nat) :
    t.calm.taskReady registry.calm w.calm number = t.taskReady registry w number := by
  rw [taskReady, getElem?_calm, taskReady]
  cases t.tasks[number]? with
  | none => rfl
  | some task =>
      show task.task.calm.ready w.calm (owner registry.calm task.calm) = _
      rw [owner_calm, Task.ready_calm]

@[simp] lemma taskWakes_calm : t.calm.taskWakes = t.taskWakes := by
  rw [taskWakes, calm, List.filterMap_map, taskWakes]
  exact congrArg (List.filterMap · t.tasks) (funext fun task => task.task.wake_calm)

lemma pollTask_calm (number : Nat) (hc : w.cancelled = true) :
    t.calm.pollTask registry.calm number w.calm
      = ((t.pollTask registry number w).1.calm, (t.pollTask registry number w).2.calm) := by
  rw [pollTask, getElem?_calm, pollTask]
  cases t.tasks[number]? with
  | none => rfl
  | some task =>
      have hadv := task.task.advance_calm (.teardown task.index) (owner registry task) w
        (.teardownBegun task.index task.deadline) (.teardownEnded task.index) rfl (fun _ => rfl) hc
      simp only [Option.map_some, owner_calm]
      simp only [TeardownTask.calm, hadv]
      simp [calm, TeardownTask.calm, List.map_set]

end Teardown

/-! ### Runs -/

namespace Run

variable {app : Application} {r r' : Run}

/-- The shutdown has begun: the supervisor has left the wait, the token is cancelled, and the
coordinator is at rest. -/
structure Late (r : Run) : Prop where
  chosen : r.chosen?.isSome = true
  cancelled : r.world.cancelled = true
  parked : r.Parked

/-- What has begun is not taken back by a move. -/
lemma Move.late (hm : Move app r r') (hr : r.chosen?.isSome = true)
    (hc : r.world.cancelled = true) :
    r'.chosen?.isSome = true ∧ r'.world.cancelled = true := by
  cases hm with
  | launch hc' => simp [chosen?, hc'] at hr
  | skim hc' he hok => simp [chosen?, hc'] at hr
  | fail hc' he hf => simp [chosen?, hc'] at hr
  | trigger prefers hc' hd => simp [chosen?, hc'] at hr
  | collect hc' => exact ⟨rfl, hc⟩
  | judge hc' he hp => exact ⟨rfl, by rw [World.emitAll_eq]; exact hc⟩
  | coordinate hc' hm =>
      refine ⟨hr, ?_⟩
      cases hm <;> exact hc
  | @finish first hc' ho =>
      obtain ⟨signals, heq⟩ := finish_eq first r
      rw [heq]
      exact ⟨rfl, hc⟩
  | spawnEntry he ht => exact ⟨hr, hc⟩
  | reportExit he ht => exact ⟨hr, hc⟩
  | entry he ht hr' hp => exact ⟨hr, (EntryTask.advances_of_ready hr' hp).cancelled_of hc⟩
  | teardown ht hr' hp => exact ⟨hr, (Task.advances_of_ready hr' hp).cancelled_of hc⟩
  | job fires hr' => exact ⟨hr, (World.pollLoop_ripples _ _ _ fires).cancelled_of hc⟩
  | deliver hw => exact ⟨hr, hc⟩
  | tick hq hp hn => exact ⟨hr, hc⟩

/-- A late run stays late. -/
lemma Late.step {label : Label} (hl : r.Late) (h : r.step? app label = some r') : r'.Late := by
  obtain ⟨hmoves, hparked⟩ := step?_moves app hl.parked h
  have hkept : r'.chosen?.isSome = true ∧ r'.world.cancelled = true := by
    clear h hparked
    induction hmoves with
    | refl => exact ⟨hl.chosen, hl.cancelled⟩
    | tail _ hm ih => exact hm.late ih.1 ih.2
  exact ⟨hkept.1, hkept.2, hparked⟩

variable (app r)

/-! ### The supervisor of a late run -/

lemma dropListener_calm : r.calm.dropListener = r.dropListener.calm := by
  obtain hl | ⟨number, hl⟩ := Option.eq_none_or_eq_some r.listener
  · have hl' : r.calm.listener = none := hl
    simp only [dropListener, hl, hl']
  · have hl' : r.calm.listener = some number := hl
    simp only [dropListener, hl, hl']
    simp only [calm, World.calm_drop]

lemma finish_calm (first : Option Culprit) : r.calm.finish first = (r.finish first).calm := by
  have hworld : ((r.world.enter .stopped).emit
      (.finished r.teardown.clean r.teardown.reports.length)).calm
        = (r.world.calm.enter .stopped).emit
          (.finished r.teardown.clean r.teardown.reports.length) := by
    rw [World.calm_emit _ rfl, World.calm_enter]
  rw [finish, finish, ← dropListener_calm]
  simp only [calm, hworld]
  rfl

lemma tearDown_calm (first : Option Culprit) :
    r.calm.tearDown app.calm first = (r.tearDown app first).calm := by
  have hproceed : r.calm.teardown.proceed app.calm.registry app.calm.shutdownTimeout r.calm.world
      = ((r.teardown.proceed app.registry app.shutdownTimeout r.world).1.calm,
          (r.teardown.proceed app.registry app.shutdownTimeout r.world).2.calm) :=
    Teardown.proceed_calm app.registry app.shutdownTimeout r.teardown r.world
  rw [tearDown, tearDown, hproceed]
  generalize r.teardown.proceed app.registry app.shutdownTimeout r.world = after
  simp only [Teardown.isOver_calm]
  by_cases ho : after.1.isOver = true
  · rw [if_pos ho, if_pos ho, ← finish_calm]
    rfl
  · rw [if_neg ho, if_neg ho]
    rfl

lemma drain_calm (first : Option Culprit) (drained : List Exit) :
    r.calm.drain app.calm first drained = (r.drain app first drained).calm := by
  have hpending : ({ r.calm.startup with exits := [] } : Startup).hasPending
      = ({ r.startup with exits := [] } : Startup).hasPending :=
    Startup.hasPending_calm { r.startup with exits := [] }
  rw [drain, drain]
  simp only [hpending]
  by_cases hp : ({ r.startup with exits := [] } : Startup).hasPending = true
  · rw [if_pos hp, if_pos hp]
    rfl
  · have hworld : ∀ (first : Option Culprit) drained,
        (r.world.emitAll (reportFailures first drained).2).calm
          = r.world.calm.emitAll (reportFailures first drained).2 :=
      fun first drained =>
        r.world.calm_emitAll (forall_reportFailures first drained fun _ _ => rfl)
    have hbegin : r.calm.teardown.begin_ app.calm.registry
        = (r.teardown.begin_ app.registry).calm := by
      simp [Teardown.begin_, Teardown.calm, Application.calm, calm]
    rw [if_neg hp, if_neg hp, ← tearDown_calm]
    simp only [calm, hworld] at hbegin ⊢
    rw [hbegin]
    rfl

/-- A supervisor that has left the wait does not look at signals again. -/
lemma supervise_calm (hr : r.chosen?.isSome = true) (patience : Nat) (prefers : Signal) :
    r.calm.supervise app.calm patience prefers = (r.supervise app patience prefers).calm := by
  have hcontrol : r.calm.control = r.control := rfl
  rw [chosen?] at hr
  rw [supervise, supervise, hcontrol]
  cases hc : r.control with
  | draining first drained => exact drain_calm app r first drained
  | stopping first => exact tearDown_calm app r first
  | returned first => rfl
  | idle => simp [hc] at hr
  | waiting => simp [hc] at hr
  | abandoned => simp [hc] at hr
  | byHand => simp [hc] at hr

/-! ### The steps of a late run -/

lemma supervisorReady_calm (hr : r.chosen?.isSome = true) :
    r.calm.supervisorReady app.calm = r.supervisorReady app := by
  have hcontrol : r.calm.control = r.control := rfl
  rw [chosen?] at hr
  rw [supervisorReady, supervisorReady, hcontrol]
  cases hc : r.control with
  | draining first drained => simp [calm]; rfl
  | stopping first => exact Teardown.ready_calm r.teardown r.world
  | returned first => rfl
  | idle => simp [hc] at hr
  | waiting => simp [hc] at hr
  | abandoned => simp [hc] at hr
  | byHand => simp [hc] at hr

/-- Nothing can go on exactly if nothing can in the calm run and no signal waits for its
delivery. -/
lemma isQuiet_eq (hr : r.chosen?.isSome = true) :
    r.isQuiet app = (r.calm.isQuiet app.calm && r.world.signals.waiting.isEmpty) := by
  have hlength : r.calm.startup.entries.length = r.startup.entries.length := List.length_map ..
  have htasks : r.calm.teardown.tasks.length = r.teardown.tasks.length := List.length_map ..
  have hwatches : r.calm.readyWatches = r.readyWatches := by
    rw [readyWatches, readyWatches, hlength]
    exact List.filter_congr fun index _ => r.startup.watchReady_calm index
  have hentries : r.calm.readyEntries app.calm = r.readyEntries app := by
    rw [readyEntries, readyEntries, hlength]
    exact List.filter_congr fun index _ => r.startup.ready_calm app.registry index r.world
  have hteardowns : r.calm.readyTeardowns app.calm = r.readyTeardowns app := by
    rw [readyTeardowns, readyTeardowns, htasks]
    exact List.filter_congr fun number _ => r.teardown.taskReady_calm app.registry r.world number
  have hloops : r.calm.readyLoops = r.readyLoops := rfl
  have hwaiting : r.calm.world.signals.waiting.isEmpty = true := rfl
  rw [isQuiet, isQuiet, supervisorReady_calm app r hr, hwatches, hentries, hteardowns, hloops,
    hwaiting, Bool.and_true]

@[simp] lemma wakes_calm : r.calm.wakes app.calm = r.wakes app := by
  rw [wakes, wakes]
  simp [calm]
  rfl

/-- **A step of a late run is a step of the calm one**, unless it delivers signals; the clock moves
when no signal waits for its delivery. -/
theorem step?_calm (hl : r.Late) {label : Label} (hne : label ≠ .deliver)
    (hw : label = .tick → r.world.signals.waiting.isEmpty = true) :
    r.calm.step? app.calm label = (r.step? app label).map calm := by
  cases label with
  | supervisor patience prefers =>
      rw [step?, step?, supervisorReady_calm app r hl.chosen]
      split
      · rw [supervise_calm app r hl.chosen]
        rfl
      · rfl
  | watch index =>
      have hready : r.calm.startup.watchReady index = r.startup.watchReady index :=
        r.startup.watchReady_calm index
      have hwatch : r.calm.startup.watch app.calm.registry index r.calm.world
          = ((r.startup.watch app.registry index r.world).1.calm,
              (r.startup.watch app.registry index r.world).2.calm) :=
        r.startup.watch_calm app.registry index r.world
      rw [step?, step?, hready, hwatch]
      split <;> rfl
  | entry index =>
      have hready : r.calm.startup.ready app.calm.registry r.calm.world index
          = r.startup.ready app.registry r.world index :=
        r.startup.ready_calm app.registry index r.world
      have hpoll : r.calm.startup.poll app.calm.registry index r.calm.world
          = ((r.startup.poll app.registry index r.world).1.calm,
              (r.startup.poll app.registry index r.world).2.calm) :=
        r.startup.poll_calm app.registry index r.world hl.cancelled
      rw [step?, step?, hready, hpoll]
      split <;> rfl
  | teardown number =>
      have hready : r.calm.teardown.taskReady app.calm.registry r.calm.world number
          = r.teardown.taskReady app.registry r.world number :=
        r.teardown.taskReady_calm app.registry r.world number
      have hpoll : r.calm.teardown.pollTask app.calm.registry number r.calm.world
          = ((r.teardown.pollTask app.registry number r.world).1.calm,
              (r.teardown.pollTask app.registry number r.world).2.calm) :=
        r.teardown.pollTask_calm app.registry r.world number hl.cancelled
      rw [step?, step?, hready, hpoll]
      split <;> rfl
  | job owner number fires =>
      have hpoll : r.calm.world.pollLoop owner number fires
          = (r.world.pollLoop owner number fires).calm :=
        (r.world.calm_pollLoop owner number fires).symm
      have hready : r.calm.readyLoops = r.readyLoops := rfl
      rw [step?, step?, hready, hpoll]
      split <;> rfl
  | deliver => exact absurd rfl hne
  | tick =>
      -- Nothing waits for its delivery in the calm run, so its clock could move too early.
      have hquiet : r.isQuiet app = r.calm.isQuiet app.calm := by
        rw [isQuiet_eq app r hl.chosen, hw rfl, Bool.and_true]
      rw [step?, step?, hquiet, nextWake, wakes_calm, ← nextWake]
      split
      · rw [Option.map_map]
        rfl
      · rfl

end Run

end ServiceSupervisor
