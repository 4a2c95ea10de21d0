import ServiceSupervisor.Payload
import ServiceSupervisor.Supervisor

/-!
Runs in which payloads are disposed of.

Whoever learns that a routine has panicked owns what the panic carries, and disposes of it once it
has been put into words: the watching task for an entry routine, the coordinator for a teardown it
waits for.  `Run` leaves the disposal out, and most payloads go quietly.  That of a volatile payload
is a panic of its own, in a task that no one expects to panic.

* `Run.watchResidue?`, `Run.teardownResidue?`: what a watching task panics with, or the supervisor,
  if it disposes of a volatile payload;
* `Exposed`: a run together with what such panics have done to it;
* `Exposed.fall`: a watching task has panicked, and the exit that it was about to report is lost;
* `Exposed.escape`: the supervisor has panicked, and the panic comes out of the run;
* `Exposed.step?`, `Exposed.steps?`: a step, and a schedule.

A panic with a text goes quietly, so it is the other payloads that tell runs apart.  A routine ends
once, and thus panics once: what those other panics carry is given by routine.
-/

namespace ServiceSupervisor

/-- What the disposal of a routine's panic panics with, where a panic without a text carries the
given payload. -/
def Ending.residue? (payload : Payload) : Ending → Option Payload
  | .panicked none => payload.residue?
  | .panicked (some _) | .failed _ | .finished => none

namespace Run

/-- What the watching task at a place panics with when it is polled. -/
def watchResidue? (payloads : Actor → Payload) (r : Run) (index : Nat) : Option Payload :=
  match r.startup.entries[index]? with
  | some (.watched (.ended ending)) => ending.residue? (payloads (.entry index))
  | _ => none

/-- The teardown that the coordinator is about to report and dispose of, and what it panics with
then. -/
def teardownResidue? (payloads : Actor → Payload) (r : Run) : Option (TeardownTask × Payload) :=
  match r.control with
  | .stopping _ | .byHand => do
    let awaited ← r.teardown.awaited
    let ending ← awaited.1.task.ending?
    let residue ← ending.residue? (payloads (.teardown awaited.1.index))
    return (awaited.1, residue)
  | .idle | .waiting | .draining _ _ | .returned _ | .abandoned => none

/-- Whether the supervisor waits for exits. -/
def awaitsExits (r : Run) : Bool :=
  match r.control with
  | .waiting | .draining _ _ => true
  | .idle | .stopping _ | .returned _ | .abandoned | .byHand => false

end Run

/-- A watching task that has panicked, before the supervisor learns of it. -/
structure Fallen where
  /-- The number of exits that were reported before and are still to be handed out. -/
  behind : Nat
  /-- What its panic carries. -/
  payload : Payload
deriving DecidableEq, Repr, Inhabited

/-- A run together with what the disposal of payloads has done to it. -/
structure Exposed where
  /-- The run. -/
  run : Run
  /-- The watching tasks that have panicked and of which the supervisor has not learned, in the
  order of their panics. -/
  fallen : List Fallen := []
  /-- The registrations whose exits are lost. -/
  lost : List Nat := []
  /-- What the panic carries that has come out of the run. -/
  escaped : Option Payload := none

namespace Exposed

/-- A run to which nothing has been done. -/
def ofRun (run : Run) : Exposed := { run }

/-- Before the run. -/
def initial (app : Application) (signals : Signals) (wallClock : Nat → Timestamp) : Exposed :=
  .ofRun (.initial app signals wallClock)

/-- No disposal has panicked. -/
def Intact (e : Exposed) : Prop := e.lost = [] ∧ e.escaped = none

/-! ### The watching tasks -/

/-- A watching task panics: no exit is reported, and nothing is waited for at this place any
more. -/
def fall (e : Exposed) (index : Nat) (payload : Payload) : Exposed :=
  { e with
    run := { e.run with startup := { e.run.startup with
      entries := e.run.startup.entries.set index (.reported (.panicked none)) } }
    fallen := e.fallen ++ [⟨e.run.startup.exits.length, payload⟩]
    lost := e.lost ++ [index] }

/-! ### The supervisor -/

/-- The supervisor panics: the run is dropped, and the panic comes out of it. -/
def escape (e : Exposed) (payload : Payload) : Exposed :=
  { e with run := e.run.abandon, fallen := [], escaped := some payload }

/-- The supervisor learns of a watching task whose own payload is volatile, after the exits that
were reported before it: it may have found a reason to shut down by then. -/
def meetFallen (app : Application) (patience : Nat) (prefers : Signal) (behind : Nat) (r : Run) :
    Run :=
  let shutDown (r : Run) (event : Event) : Run :=
    { r with world := ((r.world.emit event).enter .shuttingDown).cancel }
  match r.control with
  | .waiting =>
    let due := r.triggerDue app && decide (patience ≤ behind)
    match (Run.look due patience (r.startup.exits.take behind)).1 with
    | .nothing => r
    | .failed culprit => shutDown r (.failureReported .beforeShutdown culprit)
    | .triggered => shutDown (r.observeSignal prefers) .shutdownRequested
  | _ => r

/-- Whether a poll makes the supervisor go on. -/
def supervisorReady (app : Application) (e : Exposed) : Bool :=
  e.run.supervisorReady app || (e.run.awaitsExits && !e.fallen.isEmpty)

/-- One poll of the supervisor.  It disposes of what the watching tasks have panicked with as it
takes the exits, and of what a teardown has panicked with as soon as that has been logged. -/
def supervise (app : Application) (payloads : Actor → Payload) (patience : Nat) (prefers : Signal)
    (e : Exposed) : Exposed :=
  match e.run.teardownResidue? payloads,
      e.fallen.findSome? fun f => f.payload.residue?.map (f.behind, ·) with
  | some (task, residue), _ =>
    let world := e.run.world.emit (.teardownReported task.index task.deadline (.panicked none))
    { e with run := { e.run with world } }.escape residue
  | none, some (behind, residue) =>
    { e with run := meetFallen app patience prefers behind e.run }.escape residue
  | none, none => { e with run := e.run.supervise app patience prefers, fallen := [] }

/-! ### Schedules -/

/-- The same run after a step that disposes of nothing. -/
def stepQuietly (app : Application) (e : Exposed) (label : Run.Label) : Option Exposed :=
  (e.run.step? app label).map fun run => { e with run }

/-- The state after one step of a schedule; `none` if that step is not possible. -/
def step? (app : Application) (payloads : Actor → Payload) (e : Exposed) :
    Run.Label → Option Exposed
  | .supervisor patience prefers =>
    if e.supervisorReady app then some (e.supervise app payloads patience prefers) else none
  | .watch index =>
    match e.run.watchResidue? payloads index with
    | some residue => some (e.fall index residue)
    | none => e.stepQuietly app (.watch index)
  | .tick => if e.supervisorReady app then none else e.stepQuietly app .tick
  | .entry index => e.stepQuietly app (.entry index)
  | .teardown number => e.stepQuietly app (.teardown number)
  | .job owner number fires => e.stepQuietly app (.job owner number fires)
  | .deliver => e.stepQuietly app .deliver

/-- The state after a schedule; `none` if some step of it is not possible. -/
def steps? (app : Application) (payloads : Actor → Payload) :
    Exposed → List Run.Label → Option Exposed
  | e, [] => some e
  | e, label :: labels => do (← e.step? app payloads label).steps? app payloads labels

end Exposed

end ServiceSupervisor
