import ServiceSupervisor.World

/-!
Routines in execution.

* `Task`: a routine that has not begun, waits for something, or has ended;
* `Routine.exec`: a routine acts until it has to wait;
* `Task.ready`, `Task.poll`: a task that can go on, and does, until it has to wait again;
* `Task.advance`: the same, with its beginning and its end as events;
* `Task.wake`: the instant at which a waiting task goes on by itself.

A wait that is already over does not end a poll: a sleep of no length, or a wait for a
cancellation that has come, is passed at once.
-/

namespace ServiceSupervisor

/-- A routine in execution. -/
inductive Task
  /-- It has not been polled yet. -/
  | unbegun (routine : Routine)
  /-- It sleeps until an instant. -/
  | asleep (until_ : Nat) (next : Routine)
  /-- It waits for something that another task does at the same instant. -/
  | paused (next : Routine)
  /-- It waits to be cancelled. -/
  | awaiting (next : Routine)
  /-- It waits to be cancelled or for an instant. -/
  | racing (until_ : Nat) (late cancelled : Routine)
  /-- It waits for its recurring jobs to be idle or for an instant. -/
  | joining (until_ : Nat) (idle late : Routine)
  /-- It waits for ever. -/
  | hung
  /-- It has ended. -/
  | ended (ending : Ending)
deriving DecidableEq, Repr, Inhabited

/-- A routine acts until it has to wait or ends. -/
def Routine.exec (actor : Actor) (owner : Nat) : Routine → World → Task × World
  | .stop ending, w => (.ended ending, w)
  | .hang, w => (.hung, w)
  | .sleep span next, w =>
    if span.millis = 0 then next.exec actor owner w else (.asleep (w.now + span.millis) next, w)
  | .pause next, w => (.paused next, w)
  | .awaitCancel next, w =>
    if w.cancelled then next.exec actor owner w else (.awaiting next, w)
  | .sleepOrCancel span late cancelled, w =>
    if w.cancelled then cancelled.exec actor owner w
    else if span.millis = 0 then late.exec actor owner w
    else (.racing (w.now + span.millis) late cancelled, w)
  | .cancel next, w => next.exec actor owner (w.cancel (some actor))
  | .ifCancelled yes no, w =>
    if w.cancelled then yes.exec actor owner w else no.exec actor owner w
  | .note left next, w => next.exec actor owner (w.emit (.noted actor owner left))
  | .raise signal next, w =>
    match w.signals.effect signal with
    | .fatal => next.exec actor owner (w.emit (.noted actor owner (.raiseSkipped signal)))
    | .raised =>
      next.exec actor owner
        ({ w with signals := w.signals.raise signal }.emit (.noted actor owner (.raised signal)))
  | .startJobs next, w =>
    let started := w.updateScheduler owner Scheduler.start
    next.exec actor owner
      (started.emit (.jobNoted owner (.started (w.scheduler owner).jobs.length)))
  | .stopJobs next, w => next.exec actor owner (w.updateScheduler owner Scheduler.stop)
  | .awaitJobs span idle late, w =>
    if (w.scheduler owner).isIdle then idle.exec actor owner w
    else if span.millis = 0 then late.exec actor owner w
    else (.joining (w.now + span.millis) idle late, w)

namespace Task

/-- Whether a task has ended. -/
def hasEnded : Task → Bool
  | ended _ => true
  | _ => false

/-- How a task has ended. -/
def ending? : Task → Option Ending
  | ended ending => some ending
  | _ => none

/-- Whether a poll makes a task go on. -/
def ready (w : World) (owner : Nat) : Task → Bool
  | unbegun _ | paused _ => true
  | asleep until_ _ => decide (until_ ≤ w.now)
  | awaiting _ => w.cancelled
  | racing until_ _ _ => w.cancelled || decide (until_ ≤ w.now)
  | joining until_ _ _ => (w.scheduler owner).isIdle || decide (until_ ≤ w.now)
  | hung | ended _ => false

/-- The instant at which a waiting task goes on by itself. -/
def wake : Task → Option Nat
  | asleep until_ _ | racing until_ _ _ | joining until_ _ _ => some until_
  | _ => none

/-- A task goes on until it has to wait again; one that is not ready stays as it is.  Of a
cancellation and the end of a sleep at the same instant the cancellation counts. -/
def poll (actor : Actor) (owner : Nat) : Task → World → Task × World
  | unbegun routine, w => routine.exec actor owner w
  | asleep until_ next, w =>
    if until_ ≤ w.now then next.exec actor owner w else (asleep until_ next, w)
  | paused next, w => next.exec actor owner w
  | awaiting next, w => if w.cancelled then next.exec actor owner w else (awaiting next, w)
  | racing until_ late cancelled, w =>
    if w.cancelled then cancelled.exec actor owner w
    else if until_ ≤ w.now then late.exec actor owner w
    else (racing until_ late cancelled, w)
  | joining until_ idle late, w =>
    if (w.scheduler owner).isIdle then idle.exec actor owner w
    else if until_ ≤ w.now then late.exec actor owner w
    else (joining until_ idle late, w)
  | hung, w => (hung, w)
  | ended ending, w => (ended ending, w)

/-- What happens when a task is polled that has not begun yet. -/
def announce (begins : Event) (task : Task) (w : World) : World :=
  match task with
  | unbegun _ => w.emit begins
  | _ => w

/-- A task goes on until it has to wait again; its beginning and its end are events. -/
def advance (begins : Event) (ends : Ending → Event) (actor : Actor) (owner : Nat) (task : Task)
    (w : World) : Task × World :=
  if task.hasEnded then (task, w)
  else
    let (polled, w) := task.poll actor owner (task.announce begins w)
    match polled.ending? with
    | none => (polled, w)
    | some ending => (polled, w.emit (ends ending))

/-- A bound on the number of polls that can make a task go on. -/
def remaining : Task → Nat
  | unbegun routine => routine.depth + 1
  | asleep _ next | paused next | awaiting next => next.depth + 1
  | racing _ late cancelled => max late.depth cancelled.depth + 1
  | joining _ idle late => max idle.depth late.depth + 1
  | hung | ended _ => 0

end Task

end ServiceSupervisor
