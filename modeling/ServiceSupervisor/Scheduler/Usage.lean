import ServiceSupervisor.Task

/-!
A component in use: its routines are called at any time, in any order and side by side.

* `Firing`: a run of a job that a loop has begun;
* `Course`: what a loop of recurring jobs has done so far;
* `Usage.Call`: a call of the entry routine or of the teardown routine, with a token of its own;
* `Usage`: the component's world, the calls and the courses;
* `Usage.step?`: a routine is called, the token of a call is cancelled, a call or a loop goes on, or
  time passes.

Time passes only when nothing can go on, and not beyond an instant for which something waits.
-/

namespace ServiceSupervisor

/-- A run of a job that a loop has begun. -/
structure Firing where
  /-- The instant at which it began. -/
  time : Nat
  /-- The fire time for which it began. -/
  fire : Timestamp
  /-- How long it works and how it ends. -/
  run : JobRun
deriving DecidableEq, Repr, Inhabited

namespace Firing

/-- The instant at which the run is over. -/
def endTime (f : Firing) : Nat := f.time + f.run.work.millis

/-- The wall time at which it is over, by the clock by which it began on time. -/
def wallEnd (f : Firing) : Timestamp := f.fire + f.run.work.millis

/-- Whether the run panics. -/
def panics (f : Firing) : Prop := f.run.outcome = .panicked

/-- The run is in progress at an instant. -/
def InProgress (f : Firing) (instant : Nat) : Prop := f.time ≤ instant ∧ instant < f.endTime

end Firing

/-- What a loop has done so far. -/
structure Course where
  /-- The place of the call that started it. -/
  call : Nat
  /-- Its anchor, once it has begun. -/
  anchor : Option Anchor := none
  /-- The runs that it has begun, latest first. -/
  runs : List Firing := []
deriving DecidableEq, Repr, Inhabited

/-- A poll of a loop goes into its course: the loop may have begun, or have begun a run. -/
def Course.extend (s : Scheduler) (now : Nat) (wall : Timestamp) (fires : Bool) (l : JobLoop)
    (c : Course) : Course :=
  match s.jobs[l.job]?, l.state with
  | some _, .unbegun => { c with anchor := some ⟨wall, now⟩ }
  | some job, .waiting _ fire =>
    if (s.stepLoop now wall fires l).2.1 then
      { c with runs := ⟨now, fire, job.job.run (job.runs + 1)⟩ :: c.runs }
    else c
  | _, _ => c

namespace Usage

/-- What is called. -/
inductive Operation
  /-- The entry routine. -/
  | run
  /-- The teardown routine, with its deadline. -/
  | tearDown (deadline : Duration)
deriving DecidableEq, Repr, Inhabited

/-- The routine of the component that is called. -/
def Operation.routine (component : Component) : Operation → Routine
  | run => component.entry
  | tearDown deadline => component.teardown deadline

/-- Which routine acts in the call at a place. -/
def Operation.actor (place : Nat) : Operation → Actor
  | run => .entry place
  | tearDown _ => .teardown place

/-- How and when a call returned. -/
structure Return where
  /-- The instant. -/
  time : Nat
  /-- How the routine ended. -/
  ending : Ending
deriving DecidableEq, Repr, Inhabited

/-- A call of a routine. -/
structure Call where
  /-- What has been called. -/
  operation : Operation
  /-- The instant of the call. -/
  made : Nat
  /-- When the token of the call was cancelled first. -/
  cancelled : Option Nat
  /-- The routine in execution. -/
  task : Task
  /-- The return, once there is one. -/
  returned : Option Return
deriving DecidableEq, Repr, Inhabited

/-- The token of a call is cancelled. -/
def Call.cancel (now : Nat) (c : Call) : Call :=
  { c with cancelled := c.cancelled <|> some now }

/-- One step of a usage. -/
inductive Label
  /-- A routine is called. -/
  | call (operation : Operation)
  /-- The token of the call at this place is cancelled. -/
  | cancel (place : Nat)
  /-- The call at this place is polled. -/
  | poll (place : Nat)
  /-- The loop with this number is polled; `fires` settles a tie between its fire time and its
  stop. -/
  | loop (number : Nat) (fires : Bool)
  /-- So much time passes. -/
  | pass (span : Nat)
deriving DecidableEq, Repr, Inhabited

/-- Whether a step is one that the tasks and the clock take by themselves. -/
def Label.isOwn : Label → Bool
  | call _ | cancel _ => false
  | poll _ | loop _ _ | pass _ => true

end Usage

/-- A component in use. -/
structure Usage where
  /-- The world, with the recurring jobs of the component as those of instance 0. -/
  world : World
  /-- The calls, those that have returned included. -/
  calls : List Usage.Call
  /-- What each loop has done so far. -/
  courses : List Course
deriving Inhabited

namespace Usage

/-- A component before its first use. -/
def start (component : Component) (wallClock : Nat → Timestamp) : Usage where
  world := .ofRegistry ⟨[{ component, instanceId := 0, explicit := none }]⟩ .fresh wallClock
  calls := []
  courses := []

/-- The recurring jobs of the component. -/
def scheduler (u : Usage) : Scheduler := u.world.scheduler 0

/-- All runs that have begun. -/
def runs (u : Usage) : List Firing := u.courses.flatMap (·.runs)

/-! ### Calls and cancellations -/

/-- A routine is called. -/
def call (component : Component) (operation : Operation) (u : Usage) : Usage :=
  { u with
    calls := u.calls ++ [{
      operation
      made := u.world.now
      cancelled := none
      task := .unbegun (operation.routine component)
      returned := none }] }

/-- The token of the call at a place is cancelled. -/
def cancel (place : Nat) (u : Usage) : Usage :=
  { u with calls := u.calls.modify place (.cancel u.world.now) }

/-! ### Polls -/

/-- The world as a call sees it, with the token of the call. -/
def under (u : Usage) (c : Call) : World := { u.world with cancelled := c.cancelled.isSome }

/-- Whether a poll makes a call go on. -/
def callReady (u : Usage) (c : Call) : Bool := c.task.ready (u.under c) 0

/-- The call at a place goes on until it has to wait or returns.  Loops that it starts have not done
anything yet. -/
def pollCall (place : Nat) (c : Call) (u : Usage) : Usage :=
  let (task, world) := c.task.poll (c.operation.actor place) 0 (u.under c)
  { world := { world with cancelled := u.world.cancelled }
    calls := u.calls.set place
      { c with task, returned := task.ending?.map fun ending => ⟨world.now, ending⟩ }
    courses := u.courses ++
      List.replicate ((world.scheduler 0).loops.length - u.courses.length) { call := place } }

/-- The loop with a number goes on as far as it can. -/
def pollLoop (number : Nat) (fires : Bool) (l : JobLoop) (u : Usage) : Usage :=
  { u with
    world := u.world.pollLoop 0 number fires
    courses := u.courses.modify number
      (.extend u.scheduler u.world.now (u.world.wallClock u.world.now) fires l) }

/-! ### The clock -/

/-- Whether nothing can go on at this instant. -/
def isQuiet (u : Usage) : Bool :=
  u.calls.all (!u.callReady ·) && u.scheduler.loops.all (!u.scheduler.loopReady u.world.now ·)

/-- The instants at which something goes on by itself. -/
def wakes (u : Usage) : List Nat :=
  u.calls.filterMap (·.task.wake) ++ u.scheduler.loops.filterMap Scheduler.loopWake

/-- Whether so much time can pass. -/
def rests (span : Nat) (u : Usage) : Bool :=
  u.isQuiet && u.wakes.all fun wake => decide (u.world.now + span ≤ wake)

/-- Time passes. -/
def pass (span : Nat) (u : Usage) : Usage :=
  { u with world := { u.world with now := u.world.now + span } }

/-! ### Steps -/

/-- The state after one step; `none` if that step is not possible. -/
def step? (component : Component) (u : Usage) : Label → Option Usage
  | .call operation => some (u.call component operation)
  | .cancel place => some (u.cancel place)
  | .poll place => do
    let c ← u.calls[place]?
    if u.callReady c then some (u.pollCall place c) else none
  | .loop number fires => do
    let l ← u.scheduler.loops[number]?
    if u.scheduler.loopReady u.world.now l then some (u.pollLoop number fires l) else none
  | .pass span => if u.rests span then some (u.pass span) else none

/-- The state after several steps; `none` if one of them is not possible. -/
def steps? (component : Component) : Usage → List Label → Option Usage
  | u, [] => some u
  | u, label :: labels => do (← u.step? component label).steps? component labels

end Usage

end ServiceSupervisor
