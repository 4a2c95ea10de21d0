import ServiceSupervisor.Task

/-!
The teardown of a registry: one registration at a time, the last registered first.

* `Teardown.proceed`: the coordinator goes on until it has to wait;
* `Teardown.pollTask`: one teardown routine goes on;
* `TeardownReport`: what is reported of each registration.

Each teardown runs as a task of its own under its effective deadline.  One that overruns is left
running, and the coordinator goes on to the next registration.  The coordinator looks at the task
before it looks at the clock, and looks for the first time right after spawning it, so a deadline
of no length is over before the teardown has begun.
-/

namespace ServiceSupervisor

/-- What is reported of one teardown. -/
structure TeardownReport where
  /-- The registered name. -/
  name : String
  /-- The effective deadline. -/
  deadline : Duration
  /-- How the wait for it ended. -/
  outcome : Outcome
deriving DecidableEq, Repr, Inhabited

/-- A teardown routine in execution. -/
structure TeardownTask where
  /-- The place of the registration. -/
  index : Nat
  /-- The deadline that the routine was given. -/
  deadline : Duration
  /-- The routine. -/
  task : Task
deriving DecidableEq, Repr, Inhabited

/-- The progress of a teardown. -/
structure Teardown where
  /-- All teardown routines spawned, in order. -/
  tasks : List TeardownTask
  /-- The registrations below this place have not been torn down yet. -/
  remaining : Nat
  /-- The instant until which the task spawned last is waited for. -/
  awaitingUntil : Option Nat
  /-- The reports made, in order. -/
  reports : List TeardownReport
deriving DecidableEq, Repr, Inhabited

namespace Teardown

/-- Nothing has been torn down. -/
def empty : Teardown := ⟨[], 0, none, []⟩

/-- All registrations are to be torn down. -/
def begin_ (t : Teardown) (registry : Registry) : Teardown :=
  { t with remaining := registry.size, awaitingUntil := none }

/-- The task that is waited for and the instant until which it is. -/
def awaited (t : Teardown) : Option (TeardownTask × Nat) := do
  let until_ ← t.awaitingUntil
  let task ← t.tasks.getLast?
  some (task, until_)

/-- Whether every registration has been reported. -/
def isOver (t : Teardown) : Bool := t.remaining = 0 && t.awaited.isNone

/-- The number of clean teardowns. -/
def clean (t : Teardown) : Nat := (t.reports.filter (·.outcome = .completed)).length

/-! ### The coordinator -/

/-- The wait for the task spawned last is over. -/
def settle (registry : Registry) (task : TeardownTask) (outcome : Outcome) (t : Teardown)
    (w : World) : Teardown × World :=
  ({ t with
      awaitingUntil := none
      reports := t.reports ++ [⟨registry.nameAt task.index, task.deadline, outcome⟩] },
    w.emit (.teardownReported task.index task.deadline outcome))

/-- The registrations below `remaining` are torn down from the last on, until one has to be waited
for. -/
def spawnFrom (registry : Registry) (fallback : Duration) :
    Nat → Teardown → World → Teardown × World
  | 0, t, w => ({ t with remaining := 0 }, w)
  | index + 1, t, w =>
    match registry.entries[index]? with
    | none => spawnFrom registry fallback index t w
    | some entry =>
      let deadline := entry.effectiveDeadline fallback
      let task : TeardownTask := ⟨index, deadline, .unbegun (entry.component.teardown deadline)⟩
      let w := w.emit (.teardownSpawned index deadline)
      let t := { t with tasks := t.tasks ++ [task] }
      if deadline.millis = 0 then
        let (t, w) := settle registry task .timedOut t w
        spawnFrom registry fallback index t w
      else
        ({ t with remaining := index, awaitingUntil := some (w.now + deadline.millis) }, w)

/-- The outcome of the wait for a task, if it is over: the task has ended, or its time is up. -/
def outcome? (task : TeardownTask) (until_ : Nat) (w : World) : Option Outcome :=
  match task.task.ending? with
  | some ending => some (.ofEnding ending)
  | none => if until_ ≤ w.now then some .timedOut else none

/-- The coordinator goes on until it has to wait or every registration has been reported. -/
def proceed (registry : Registry) (fallback : Duration) (t : Teardown) (w : World) :
    Teardown × World :=
  match t.awaited with
  | none => spawnFrom registry fallback t.remaining t w
  | some (task, until_) =>
    match outcome? task until_ w with
    | none => (t, w)
    | some outcome =>
      let (t, w) := settle registry task outcome t w
      spawnFrom registry fallback t.remaining t w

/-- Whether the coordinator can go on. -/
def ready (t : Teardown) (w : World) : Bool :=
  match t.awaited with
  | none => false
  | some (task, until_) => (outcome? task until_ w).isSome

/-! ### The teardown routines -/

/-- The instance that a teardown routine belongs to. -/
def owner (registry : Registry) (task : TeardownTask) : Nat :=
  (registry.entries[task.index]?.map (·.instanceId)).getD 0

/-- Whether a poll makes a teardown routine go on. -/
def taskReady (registry : Registry) (t : Teardown) (w : World) (number : Nat) : Bool :=
  match t.tasks[number]? with
  | some task => task.task.ready w (owner registry task)
  | none => false

/-- One teardown routine goes on until it has to wait. -/
def pollTask (registry : Registry) (number : Nat) (t : Teardown) (w : World) : Teardown × World :=
  match t.tasks[number]? with
  | none => (t, w)
  | some task =>
    let (polled, w) :=
      task.task.advance (.teardownBegun task.index task.deadline) (.teardownEnded task.index)
        (.teardown task.index) (owner registry task) w
    ({ t with tasks := t.tasks.set number { task with task := polled } }, w)

/-- The instants at which waiting teardown routines go on by themselves. -/
def taskWakes (t : Teardown) : List Nat := t.tasks.filterMap (·.task.wake)

end Teardown

end ServiceSupervisor
