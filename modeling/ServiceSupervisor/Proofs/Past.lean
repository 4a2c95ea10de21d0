import ServiceSupervisor.Proofs.Reached

/-!
Nothing reads the record.

What has happened is written down and never looked at, so whatever happened before a step, the step
is the same.

* `World.withPast`, `Run.withPast`: the same world and the same run after a different past;
* `Routine.exec_withPast`, `Task.advance_withPast`: a routine goes on in the same way;
* `Teardown.proceed_withPast`, `Startup.poll_withPast`: so do the coordinator of the teardown and
  the entry routines;
* `Run.step?_withPast`, `Run.steps?_withPast`: so does a whole run.
-/

namespace ServiceSupervisor

/-! ### The world -/

namespace World

/-- The same world, in which all this has happened before. -/
def withPast (past : Trace) (w : World) : World := { w with trace := w.trace ++ past }

variable (past : Trace) (w : World)

/-- What happens next is written down in front. -/
lemma emit_withPast (event : Event) :
    (w.withPast past).emit event = (w.emit event).withPast past := rfl

lemma emitAll_withPast (events : List Event) :
    (w.withPast past).emitAll events = (w.emitAll events).withPast past := by
  induction events generalizing w with
  | nil => rfl
  | cons event events ih => exact ih (w.emit event)

lemma pollLoop_withPast (owner number : Nat) (fires : Bool) :
    (w.withPast past).pollLoop owner number fires
      = (w.pollLoop owner number fires).withPast past :=
  emitAll_withPast past (w.updateScheduler owner fun _ => _) _

end World

/-! ### Routines and tasks -/

section Tasks

variable (past : Trace) (w : World) (actor : Actor) (owner : Nat)

/-- **A routine acts in the same way whatever has happened before.** -/
theorem Routine.exec_withPast (routine : Routine) :
    routine.exec actor owner (w.withPast past)
      = ((routine.exec actor owner w).1, (routine.exec actor owner w).2.withPast past) := by
  induction routine generalizing w with
  | stop ending => rfl
  | hang => rfl
  | pause next ih => rfl
  | sleep span next ih =>
      rw [exec, exec]
      split
      · exact ih w
      · rfl
  | awaitCancel next ih =>
      rw [exec, exec]
      show (if w.cancelled then _ else _) = _
      split
      · exact ih w
      · rfl
  | sleepOrCancel span late cancelled ihl ihc =>
      rw [exec, exec]
      show (if w.cancelled then _ else _) = _
      split
      · exact ihc w
      · split
        · exact ihl w
        · rfl
  | cancel next ih => exact ih (w.cancel (some actor))
  | ifCancelled yes no ihy ihn =>
      rw [exec, exec]
      show (if w.cancelled then _ else _) = _
      split
      · exact ihy w
      · exact ihn w
  | note left next ih => exact ih (w.emit (.noted actor owner left))
  | raise signal next ih =>
      have heffect : (w.withPast past).signals.effect signal = w.signals.effect signal := rfl
      rw [exec, exec, heffect]
      cases w.signals.effect signal with
      | fatal => exact ih (w.emit (.noted actor owner (.raiseSkipped signal)))
      | raised =>
          exact ih ({ w with signals := w.signals.raise signal }.emit
            (.noted actor owner (.raised signal)))
  | startJobs next ih =>
      exact ih ((w.updateScheduler owner Scheduler.start).emit
        (.jobNoted owner (.started (w.scheduler owner).jobs.length)))
  | stopJobs next ih => exact ih (w.updateScheduler owner Scheduler.stop)
  | awaitJobs span idle late ihi ihl =>
      rw [exec, exec]
      show (if (w.scheduler owner).isIdle then _ else _) = _
      split
      · exact ihi w
      · split
        · exact ihl w
        · rfl

namespace Task

variable (task : Task)

lemma poll_withPast :
    task.poll actor owner (w.withPast past)
      = ((task.poll actor owner w).1, (task.poll actor owner w).2.withPast past) := by
  cases task with
  | unbegun routine => exact routine.exec_withPast past w actor owner
  | paused next => exact next.exec_withPast past w actor owner
  | asleep until_ next =>
      rw [poll, poll]
      show (if until_ ≤ w.now then _ else _) = _
      split
      · exact next.exec_withPast past w actor owner
      · rfl
  | awaiting next =>
      rw [poll, poll]
      show (if w.cancelled then _ else _) = _
      split
      · exact next.exec_withPast past w actor owner
      · rfl
  | racing until_ late cancelled =>
      rw [poll, poll]
      show (if w.cancelled then _ else if until_ ≤ w.now then _ else _) = _
      split
      · exact cancelled.exec_withPast past w actor owner
      · split
        · exact late.exec_withPast past w actor owner
        · rfl
  | joining until_ idle late =>
      rw [poll, poll]
      show (if (w.scheduler owner).isIdle then _ else if until_ ≤ w.now then _ else _) = _
      split
      · exact idle.exec_withPast past w actor owner
      · split
        · exact late.exec_withPast past w actor owner
        · rfl
  | hung => rfl
  | ended ending => rfl

lemma announce_withPast (begins : Event) :
    task.announce begins (w.withPast past) = (task.announce begins w).withPast past := by
  cases task <;> rfl

lemma advance_withPast (begins : Event) (ends : Ending → Event) :
    task.advance begins ends actor owner (w.withPast past)
      = ((task.advance begins ends actor owner w).1,
          (task.advance begins ends actor owner w).2.withPast past) := by
  rw [advance, advance, announce_withPast, poll_withPast]
  generalize task.poll actor owner (task.announce begins w) = polled
  split
  · rfl
  · cases hend : polled.1.ending? with
    | none => simp only [hend]
    | some ending =>
        simp only [hend]
        rfl

end Task

end Tasks

/-! ### Entry routines and teardowns -/

namespace Startup

variable (past : Trace) (registry : Registry) (index : Nat) (s : Startup) (w : World)

lemma watch_withPast :
    s.watch registry index (w.withPast past)
      = ((s.watch registry index w).1, (s.watch registry index w).2.withPast past) := by
  rw [watch, watch]
  split <;> rfl

lemma poll_withPast :
    s.poll registry index (w.withPast past)
      = ((s.poll registry index w).1, (s.poll registry index w).2.withPast past) := by
  rw [poll, poll]
  split
  case h_1 entry task he ht =>
      rw [Task.advance_withPast]
      show (if task.ready w entry.instanceId then _ else _) = _
      split <;> rfl
  case h_2 => rfl

end Startup

namespace Teardown

variable (past : Trace) (registry : Registry) (fallback : Duration) (t : Teardown) (w : World)

lemma settle_withPast (task : TeardownTask) (outcome : Outcome) :
    settle registry task outcome t (w.withPast past)
      = ((settle registry task outcome t w).1,
          (settle registry task outcome t w).2.withPast past) := rfl

lemma spawnFrom_withPast (index : Nat) :
    spawnFrom registry fallback index t (w.withPast past)
      = ((spawnFrom registry fallback index t w).1,
          (spawnFrom registry fallback index t w).2.withPast past) := by
  induction index generalizing t w with
  | zero => rfl
  | succ index ih =>
      rw [spawnFrom, spawnFrom]
      cases registry.entries[index]? with
      | none => exact ih t w
      | some entry =>
          dsimp only
          by_cases hd : (entry.effectiveDeadline fallback).millis = 0
          · rw [if_pos hd, if_pos hd, World.emit_withPast, settle_withPast]
            exact ih _ _
          · rw [if_neg hd, if_neg hd]
            rfl

lemma proceed_withPast :
    t.proceed registry fallback (w.withPast past)
      = ((t.proceed registry fallback w).1, (t.proceed registry fallback w).2.withPast past) := by
  rw [proceed, proceed]
  cases t.awaited with
  | none => exact spawnFrom_withPast past registry fallback t w t.remaining
  | some awaited =>
      obtain ⟨task, until_⟩ := awaited
      have houtcome : outcome? task until_ (w.withPast past) = outcome? task until_ w := rfl
      dsimp only
      rw [houtcome]
      cases outcome? task until_ w with
      | none => rfl
      | some outcome =>
          dsimp only
          rw [settle_withPast]
          exact spawnFrom_withPast past registry fallback _ _ _

lemma pollTask_withPast (number : Nat) :
    t.pollTask registry number (w.withPast past)
      = ((t.pollTask registry number w).1, (t.pollTask registry number w).2.withPast past) := by
  rw [pollTask, pollTask]
  split
  · rfl
  · rw [Task.advance_withPast]

end Teardown

/-! ### Runs -/

namespace Run

/-- The same run, in which all this has happened before. -/
def withPast (past : Trace) (r : Run) : Run := { r with world := r.world.withPast past }

/-- The same run with nothing on record. -/
def unrecorded (r : Run) : Run := { r with world := { r.world with trace := [] } }

variable (past : Trace) (app : Application) (r : Run)

lemma dropListener_withPast :
    (r.withPast past).dropListener = r.dropListener.withPast past := by
  have hlistener : (r.withPast past).listener = r.listener := rfl
  rw [dropListener, dropListener, hlistener]
  cases r.listener <;> rfl

lemma finish_withPast (first : Option Culprit) :
    (r.withPast past).finish first = (r.finish first).withPast past :=
  dropListener_withPast past { r with
    world := (r.world.enter .stopped).emit
      (.finished r.teardown.clean r.teardown.reports.length)
    control := .returned first }

lemma tearDown_withPast (first : Option Culprit) :
    (r.withPast past).tearDown app first = (r.tearDown app first).withPast past := by
  have hproceed : (r.withPast past).teardown.proceed app.registry app.shutdownTimeout
      (r.withPast past).world = _ :=
    r.teardown.proceed_withPast past app.registry app.shutdownTimeout r.world
  rw [tearDown, tearDown, hproceed]
  generalize r.teardown.proceed app.registry app.shutdownTimeout r.world = after
  obtain ⟨t, w⟩ := after
  dsimp only
  by_cases hover : t.isOver = true
  · rw [if_pos hover, if_pos hover, ← finish_withPast]
    rfl
  · rw [if_neg hover, if_neg hover]
    rfl

lemma drain_withPast (first : Option Culprit) (drained : List Exit) :
    (r.withPast past).drain app first drained = (r.drain app first drained).withPast past := by
  have hstartup : (r.withPast past).startup = r.startup := rfl
  rw [drain, drain, hstartup]
  dsimp only
  by_cases hpending : ({ r.startup with exits := [] } : Startup).hasPending = true
  · rw [if_pos hpending, if_pos hpending]
    rfl
  · rw [if_neg hpending, if_neg hpending]
    generalize reportFailures first (drained ++ r.startup.exits) = judged
    have hreports := r.world.emitAll_withPast past judged.2
    rw [← tearDown_withPast]
    exact congrArg (fun w => tearDown app judged.1 { r with
      startup := { r.startup with exits := [] }
      world := w
      teardown := r.teardown.begin_ app.registry }) hreports

/-! ### The poll of the supervisor -/

lemma observeSignal_withPast (prefers : Signal) :
    (r.withPast past).observeSignal prefers = (r.observeSignal prefers).withPast past := by
  have hlistener : (r.withPast past).listener = r.listener := rfl
  have hsignals : (r.withPast past).world.signals = r.world.signals := rfl
  rw [observeSignal, observeSignal, hlistener, hsignals]
  cases r.listener.bind fun number => r.world.signals.receive number prefers <;> rfl

lemma sense_withPast (prefers : Signal) (sight : Sight) :
    (r.withPast past).sense prefers sight = (r.sense prefers sight).withPast past := by
  cases sight with
  | nothing => rfl
  | failed culprit => rfl
  | triggered =>
      rw [sense, observeSignal_withPast]
      rfl

lemma attend_withPast (patience : Nat) (prefers : Signal) :
    (r.withPast past).attend app patience prefers
      = (r.attend app patience prefers).withPast past := by
  have hlook : look ((r.withPast past).triggerDue app) patience (r.withPast past).startup.exits
      = look (r.triggerDue app) patience r.startup.exits := rfl
  rw [attend, attend, hlook, ← sense_withPast]
  rfl

lemma collect_withPast : (r.withPast past).collect = r.collect.withPast past := by
  have hcontrol : (r.withPast past).control = r.control := rfl
  rw [collect, collect, hcontrol]
  cases r.control <;> rfl

lemma launch_withPast : (r.withPast past).launch app = (r.launch app).withPast past := by
  rw [launch, launch, installListener, installListener]
  cases app.trigger <;> rfl

lemma gather_withPast (patience : Nat) (prefers : Signal) :
    (r.withPast past).gather app patience prefers
      = (r.gather app patience prefers).withPast past := by
  have hcontrol : (r.withPast past).control = r.control := rfl
  rw [gather, gather, hcontrol]
  cases r.control with
  | idle => rw [launch_withPast, attend_withPast, collect_withPast]
  | waiting => rw [attend_withPast, collect_withPast]
  | _ => exact collect_withPast past r

lemma conclude_withPast : (r.withPast past).conclude app = (r.conclude app).withPast past := by
  have hcontrol : (r.withPast past).control = r.control := rfl
  rw [conclude, conclude, hcontrol]
  cases r.control with
  | draining first drained => exact drain_withPast past app r first drained
  | _ => rfl

lemma supervise_withPast (patience : Nat) (prefers : Signal) :
    (r.withPast past).supervise app patience prefers
      = (r.supervise app patience prefers).withPast past := by
  have hbefore : r.isGathering = true → (r.withPast past).supervise app patience prefers
      = (r.supervise app patience prefers).withPast past := by
    intro h
    have h' : (r.withPast past).isGathering = true := h
    rw [supervise_eq h', supervise_eq h, gather_withPast, conclude_withPast]
  have hcontrol : (r.withPast past).control = r.control := rfl
  rw [supervise, supervise, hcontrol] at hbefore ⊢
  cases hc : r.control with
  | idle => simpa only [isGathering, hc, forall_const] using hbefore
  | waiting => simpa only [isGathering, hc, forall_const] using hbefore
  | draining first drained => exact drain_withPast past app r first drained
  | stopping first => exact tearDown_withPast past app r first
  | returned first => rfl
  | abandoned => rfl
  | byHand =>
      have hproceed : (r.withPast past).teardown.proceed app.registry app.shutdownTimeout
          (r.withPast past).world = _ :=
        r.teardown.proceed_withPast past app.registry app.shutdownTimeout r.world
      simp only [hproceed]
      rfl

/-! ### Schedules -/

/-- **A step of a schedule is the same whatever has happened before.** -/
theorem step?_withPast (label : Label) :
    (r.withPast past).step? app label = (r.step? app label).map (withPast past) := by
  cases label with
  | supervisor patience prefers =>
      have hready : (r.withPast past).supervisorReady app = r.supervisorReady app := rfl
      rw [step?, step?, hready, supervise_withPast]
      split <;> rfl
  | watch index =>
      have hready : (r.withPast past).startup.watchReady index = r.startup.watchReady index := rfl
      have hwatch : (r.withPast past).startup.watch app.registry index (r.withPast past).world
          = _ := r.startup.watch_withPast past app.registry index r.world
      rw [step?, step?, hready, hwatch]
      split <;> rfl
  | entry index =>
      have hready : (r.withPast past).startup.ready app.registry (r.withPast past).world index
          = r.startup.ready app.registry r.world index := rfl
      have hpoll : (r.withPast past).startup.poll app.registry index (r.withPast past).world = _ :=
        r.startup.poll_withPast past app.registry index r.world
      rw [step?, step?, hready, hpoll]
      split <;> rfl
  | teardown number =>
      have hready : (r.withPast past).teardown.taskReady app.registry (r.withPast past).world number
          = r.teardown.taskReady app.registry r.world number := rfl
      have hpoll : (r.withPast past).teardown.pollTask app.registry number (r.withPast past).world
          = _ := r.teardown.pollTask_withPast past app.registry r.world number
      rw [step?, step?, hready, hpoll]
      split <;> rfl
  | job owner number fires =>
      have hready : (r.withPast past).readyLoops = r.readyLoops := rfl
      have hpoll : (r.withPast past).world.pollLoop owner number fires = _ :=
        r.world.pollLoop_withPast past owner number fires
      rw [step?, step?, hready, hpoll]
      split <;> rfl
  | deliver =>
      have hsignals : (r.withPast past).world.signals = r.world.signals := rfl
      rw [step?, step?, hsignals]
      split <;> rfl
  | tick =>
      have hquiet : (r.withPast past).isQuiet app = r.isQuiet app := rfl
      have hwake : (r.withPast past).nextWake app = r.nextWake app := rfl
      rw [step?, step?, hquiet, hwake]
      split
      · rw [Option.map_map]
        rfl
      · rfl

/-- **So is a whole schedule.** -/
theorem steps?_withPast (labels : List Label) :
    (r.withPast past).steps? app labels = (r.steps? app labels).map (withPast past) := by
  induction labels generalizing r with
  | nil => rfl
  | cons label labels ih =>
      rw [steps?, steps?, step?_withPast]
      cases r.step? app label with
      | none => rfl
      | some next => exact ih next

end Run

end ServiceSupervisor
