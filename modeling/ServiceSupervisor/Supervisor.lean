import ServiceSupervisor.Startup
import ServiceSupervisor.Teardown

/-!
The supervised run of an application.

* `Application`: a registry, the default teardown deadline and what ends the run;
* `Run`: the state of a run, from launch through drain and teardown to the result;
* `Label`, `Run.step?`: one poll of one task, or one step of the clock.  Every list of labels is a
  schedule, and the clock moves only when nothing can go on;
* `Run.supervise`: one poll of the supervisor, which goes on until it has to wait.

The supervisor waits for the external trigger or the first failed entry routine, cancels the shared
token, waits for every entry routine, and then tears all registrations down.  Its result is the
failure that triggered the shutdown, or else the first failure it saw while draining.
-/

namespace ServiceSupervisor

/-- What ends a run from outside. -/
inductive Trigger
  /-- Nothing does. -/
  | never
  /-- It fires at an instant. -/
  | atInstant (instant : Nat)
  /-- A termination signal does. -/
  | signals
deriving DecidableEq, Repr, Inhabited

/-- An application. -/
structure Application where
  /-- The registered components. -/
  registry : Registry
  /-- The teardown deadline of components that have none of their own. -/
  shutdownTimeout : Duration := ⟨30000⟩
  /-- What ends the run from outside. -/
  trigger : Trigger

/-- What the supervisor is doing. -/
inductive Control
  /-- It has not begun. -/
  | idle
  /-- It waits for the trigger or a failed entry routine. -/
  | waiting
  /-- It waits for every entry routine and keeps the exits it has taken. -/
  | draining (first : Option Culprit) (drained : List Exit)
  /-- It tears the registrations down. -/
  | stopping (first : Option Culprit)
  /-- It has returned. -/
  | returned (first : Option Culprit)
  /-- It has been dropped before it returned. -/
  | abandoned
  /-- There is none: the caller takes the exits and begins the teardown, which then goes on. -/
  | byHand
deriving DecidableEq, Repr, Inhabited

/-- The state of a run. -/
structure Run where
  /-- The world. -/
  world : World
  /-- The entry routines. -/
  startup : Startup
  /-- The teardown. -/
  teardown : Teardown
  /-- The supervisor. -/
  control : Control
  /-- The number of the run's listener for termination signals, while it has one. -/
  listener : Option Nat
deriving Inhabited

namespace Run

/-- The state before the supervisor begins. -/
def initial (app : Application) (signals : Signals) (wallClock : Nat → Timestamp) : Run where
  world := .ofRegistry app.registry signals wallClock
  startup := .empty
  teardown := .empty
  control := .idle
  listener := none

/-- The result, once the supervisor has returned: the component at fault, if any. -/
def result? (r : Run) : Option (Option Culprit) :=
  match r.control with
  | .returned first => some first
  | _ => none

/-! ### The end of the run -/

/-- The listener of the run is dropped. -/
def dropListener (r : Run) : Run :=
  match r.listener with
  | none => r
  | some number =>
    { r with
      listener := none
      world := { r.world with signals := r.world.signals.drop number } }

/-- The supervisor returns. -/
def finish (first : Option Culprit) (r : Run) : Run :=
  let world := (r.world.enter .stopped).emit
    (.finished r.teardown.clean r.teardown.reports.length)
  { r with world, control := .returned first }.dropListener

/-- The teardown goes on; when it is over the supervisor returns. -/
def tearDown (app : Application) (first : Option Culprit) (r : Run) : Run :=
  let (teardown, world) := r.teardown.proceed app.registry app.shutdownTimeout r.world
  let r := { r with teardown, world, control := .stopping first }
  if teardown.isOver then r.finish first else r

/-! ### The drain -/

/-- The failures among drained exits are reported: the first one is the result of the run, unless
there is a result already. -/
def reportFailures : Option Culprit → List Exit → Option Culprit × List Event
  | first, [] => (first, [])
  | first, exit :: exits =>
    match exit.culprit? with
    | none => reportFailures first exits
    | some culprit =>
      let lateness := if first.isNone then .whileDraining else .afterRequest
      let (first, events) := reportFailures (first <|> some culprit) exits
      (first, .failureReported lateness culprit :: events)

/-- The supervisor takes the exits there are; when no entry routine is left it reports the failures
and begins the teardown. -/
def drain (app : Application) (first : Option Culprit) (drained : List Exit) (r : Run) : Run :=
  let drained := drained ++ r.startup.exits
  let startup := { r.startup with exits := [] }
  if startup.hasPending then
    { r with startup, control := .draining first drained }
  else
    let (first, events) := reportFailures first drained
    { r with
      startup
      world := r.world.emitAll events
      teardown := r.teardown.begin_ app.registry }.tearDown app first

/-- The shutdown begins: the phase changes, and then the shared token is cancelled. -/
def shutDown (app : Application) (first : Option Culprit) (r : Run) : Run :=
  { r with world := (r.world.enter .shuttingDown).cancel }.drain app first []

/-! ### The wait for the trigger -/

/-- What a look at the trigger and the exits shows. -/
inductive Sight
  /-- The trigger has fired. -/
  | triggered
  /-- An entry routine has failed. -/
  | failed (culprit : Culprit)
  /-- Neither. -/
  | nothing
deriving DecidableEq, Repr, Inhabited

/-- The supervisor looks at the trigger and the exits, which it takes one by one up to the first
failure.  If the trigger has fired as well, `patience` exits are taken before it is seen. -/
def look (due : Bool) : Nat → List Exit → Sight × List Exit
  | _, [] => (if due then .triggered else .nothing, [])
  | patience, exit :: exits =>
    if due && patience == 0 then (.triggered, exit :: exits)
    else
      match exit.culprit? with
      | some culprit => (.failed culprit, exits)
      | none => look due (patience - 1) exits

/-- Whether the trigger has fired. -/
def triggerDue (app : Application) (r : Run) : Bool :=
  match app.trigger with
  | .never => false
  | .atInstant instant => decide (instant ≤ r.world.now)
  | .signals =>
    match r.listener with
    | some number => !(r.world.signals.pending number).isEmpty
    | none => false

/-- A pending termination signal is taken and reported. -/
def observeSignal (prefers : Signal) (r : Run) : Run :=
  match r.listener.bind fun number => r.world.signals.receive number prefers with
  | none => r
  | some (signal, signals) =>
    { r with world := ({ r.world with signals }).emit (.signalObserved signal) }

/-- The supervisor acts on what it has seen. -/
def react (app : Application) (prefers : Signal) (sight : Sight) (r : Run) : Run :=
  match sight with
  | .nothing => { r with control := .waiting }
  | .failed culprit =>
    { r with world := r.world.emit (.failureReported .beforeShutdown culprit) }.shutDown app
      (some culprit)
  | .triggered =>
    let r := r.observeSignal prefers
    { r with world := r.world.emit .shutdownRequested }.shutDown app none

/-- The supervisor waits for the trigger or the first failure. -/
def awaitTrigger (app : Application) (patience : Nat) (prefers : Signal) (r : Run) : Run :=
  let (sight, exits) := look (r.triggerDue app) patience r.startup.exits
  { r with startup := { r.startup with exits } }.react app prefers sight

/-! ### The launch -/

/-- Listeners are installed, if a termination signal is to end the run. -/
def installListener (app : Application) (r : Run) : Run :=
  match app.trigger with
  | .signals =>
    let signals := r.world.signals.install
    { r with
      listener := some r.world.signals.listeners.length
      world := ({ r.world with signals }).emit (.listening signals.live) }
  | _ => r

/-- All entry routines are launched, and the wait begins. -/
def launch (app : Application) (r : Run) : Run :=
  let r := r.installListener app
  { r with
    startup := .launch app.registry
    control := .waiting
    world := ((r.world.enter .starting).enter .running).emit (.launched app.registry.size) }

/-! ### Polls and schedules -/

/-- One poll of the supervisor. -/
def supervise (app : Application) (patience : Nat) (prefers : Signal) (r : Run) : Run :=
  match r.control with
  | .idle => (r.launch app).awaitTrigger app patience prefers
  | .waiting => r.awaitTrigger app patience prefers
  | .draining first drained => r.drain app first drained
  | .stopping first => r.tearDown app first
  | .byHand =>
    let (teardown, world) := r.teardown.proceed app.registry app.shutdownTimeout r.world
    { r with teardown, world }
  | .returned _ | .abandoned => r

/-- Whether a poll makes the supervisor go on. -/
def supervisorReady (app : Application) (r : Run) : Bool :=
  match r.control with
  | .idle => true
  | .waiting => r.triggerDue app || !r.startup.exits.isEmpty
  | .draining _ _ => !r.startup.exits.isEmpty || !r.startup.hasPending
  | .stopping _ | .byHand => r.teardown.ready r.world
  | .returned _ | .abandoned => false

/-- One step of a schedule. -/
inductive Label
  /-- The supervisor is polled.  If its trigger has fired it takes `patience` exits first, and of
  two pending signals it takes the preferred one. -/
  | supervisor (patience : Nat) (prefers : Signal)
  /-- The task that watches the entry routine of the registration at this place is polled. -/
  | watch (index : Nat)
  /-- The entry routine of the registration at this place is polled. -/
  | entry (index : Nat)
  /-- The teardown routine spawned at this place is polled. -/
  | teardown (number : Nat)
  /-- The loop of a recurring job is polled; `fires` settles a tie between its fire time and its
  stop. -/
  | job (owner number : Nat) (fires : Bool)
  /-- The runtime delivers the signals that have been raised. -/
  | deliver
  /-- The clock moves to the next instant at which something can go on. -/
  | tick
deriving DecidableEq, Repr, Inhabited

/-- The loops that a poll makes go on, by instance and number. -/
def readyLoops (r : Run) : List (Nat × Nat) :=
  r.world.schedulers.zipIdx.flatMap fun (scheduler, owner) =>
    scheduler.loops.zipIdx.filterMap fun (l, number) =>
      if scheduler.loopReady r.world.now l then some (owner, number) else none

/-- The watching tasks that a poll makes go on. -/
def readyWatches (r : Run) : List Nat :=
  (List.range r.startup.entries.length).filter r.startup.watchReady

/-- The entry routines that a poll makes go on. -/
def readyEntries (app : Application) (r : Run) : List Nat :=
  (List.range r.startup.entries.length).filter (r.startup.ready app.registry r.world)

/-- The teardown routines that a poll makes go on. -/
def readyTeardowns (app : Application) (r : Run) : List Nat :=
  (List.range r.teardown.tasks.length).filter (r.teardown.taskReady app.registry r.world)

/-- Whether nothing can go on at this instant. -/
def isQuiet (app : Application) (r : Run) : Bool :=
  !r.supervisorReady app && r.readyWatches.isEmpty && (r.readyEntries app).isEmpty
    && (r.readyTeardowns app).isEmpty && r.readyLoops.isEmpty && r.world.signals.waiting.isEmpty

/-- The instants for which the supervisor waits. -/
def supervisorWakes (app : Application) (r : Run) : List Nat :=
  match r.control, app.trigger with
  | .waiting, .atInstant instant => [instant]
  | .stopping _, _ | .byHand, _ => r.teardown.awaitingUntil.toList
  | _, _ => []

/-- The instants at which something goes on by itself. -/
def wakes (app : Application) (r : Run) : List Nat :=
  r.supervisorWakes app ++ r.startup.wakes ++ r.teardown.taskWakes
    ++ r.world.schedulers.flatMap fun scheduler => scheduler.loops.filterMap Scheduler.loopWake

/-- The first instant at which something goes on by itself. -/
def nextWake (app : Application) (r : Run) : Option Nat := (r.wakes app).min?

/-- The clock shows a later instant. -/
def atInstant (r : Run) (instant : Nat) : Run :=
  { r with world := { r.world with now := max r.world.now instant } }

/-- The state after one step of a schedule; `none` if that step is not possible. -/
def step? (app : Application) (r : Run) : Label → Option Run
  | .supervisor patience prefers =>
    if r.supervisorReady app then some (r.supervise app patience prefers) else none
  | .watch index =>
    if r.startup.watchReady index then
      let (startup, world) := r.startup.watch app.registry index r.world
      some { r with startup, world }
    else none
  | .entry index =>
    if r.startup.ready app.registry r.world index then
      let (startup, world) := r.startup.poll app.registry index r.world
      some { r with startup, world }
    else none
  | .teardown number =>
    if r.teardown.taskReady app.registry r.world number then
      let (teardown, world) := r.teardown.pollTask app.registry number r.world
      some { r with teardown, world }
    else none
  | .job owner number fires =>
    if r.readyLoops.contains (owner, number) then
      some { r with world := r.world.pollLoop owner number fires }
    else none
  | .deliver =>
    if r.world.signals.waiting.isEmpty then none
    else some { r with world := { r.world with signals := r.world.signals.deliver } }
  | .tick => if r.isQuiet app then (r.nextWake app).map r.atInstant else none

/-- The state after a schedule; `none` if some step of it is not possible. -/
def steps? (app : Application) : Run → List Label → Option Run
  | r, [] => some r
  | r, label :: labels => do (← r.step? app label).steps? app labels

/-! ### The usual schedule -/

/-- Whether the supervisor can go on because of the clock alone. -/
def supervisorDue (app : Application) (r : Run) : Bool :=
  match r.control, app.trigger with
  | .idle, _ => true
  | .waiting, .atInstant instant => decide (instant ≤ r.world.now)
  | .stopping _, _ | .byHand, _ =>
    match r.teardown.awaitingUntil with
    | some until_ => decide (until_ ≤ r.world.now)
    | none => false
  | _, _ => false

/-- The usual next step.  A supervisor that the clock has woken comes first, then the tasks in
order, then the delivery of signals, then a supervisor that a task has woken, and the clock when
nothing can go on.  A loop that has been told to stop does not fire. -/
def usual (app : Application) (r : Run) : Label :=
  if r.supervisorDue app then .supervisor 0 .interrupt
  else
    match r.readyWatches, r.readyEntries app, r.readyTeardowns app, r.readyLoops with
    | index :: _, _, _, _ => .watch index
    | _, index :: _, _, _ => .entry index
    | _, _, number :: _, _ => .teardown number
    | _, _, _, (owner, number) :: _ => .job owner number false
    | _, _, _, _ =>
      if !r.world.signals.waiting.isEmpty then .deliver
      else if r.supervisorReady app then .supervisor 0 .interrupt
      else .tick

/-- A bound on the number of steps before the clock passes an instant: at each instant every task
is polled a few times at most. -/
def budget (app : Application) (r : Run) (limit : Nat) : Nat :=
  (limit + 2) * (4 * (4 * app.registry.size + r.teardown.tasks.length
    + r.world.schedulers.foldl (fun total scheduler => total + scheduler.loops.length) 0
    + app.registry.entries.foldl (fun total entry => total + entry.component.jobs.length) 0 + 4))

/-- The usual schedule until the goal is reached or the clock would reach `limit`. -/
def follow (app : Application) (limit : Nat) (goal : Run → Bool) : Nat → Run → Run
  | 0, r => r
  | fuel + 1, r =>
    if goal r then r
    else
      match r.usual app with
      | .tick =>
        match r.nextWake app with
        | some instant =>
          if instant < limit then (r.atInstant instant).follow app limit goal fuel else r
        | none => r
      | label =>
        match r.step? app label with
        | some next => next.follow app limit goal fuel
        | none => r

/-- The usual schedule before the given instant, until the goal is reached. -/
def before (app : Application) (limit : Nat) (goal : Run → Bool) (r : Run) : Run :=
  r.follow app limit goal (r.budget app limit)

/-- The run up to its return or to the end of an observer's patience.  At that instant the
supervisor is looked at once more. -/
def observe (app : Application) (horizon : Nat) (r : Run) : Run :=
  let r := r.before app horizon (·.result?.isSome)
  if r.result?.isSome then r
  else
    let r := r.atInstant horizon
    if r.supervisorReady app then r.supervise app 0 .interrupt else r

/-- The supervisor is dropped, unless it has returned. -/
def abandon (r : Run) : Run :=
  if r.result?.isSome then r
  else { r.dropListener with control := .abandoned, startup := r.startup.abandon }

/-- What still goes on in the given span after the run. -/
def linger (app : Application) (span : Duration) (r : Run) : Run :=
  if span.millis = 0 then r
  else r.before app (r.world.now + span.millis + 1) fun _ => false

/-! ### Runs without a supervisor -/

/-- The entry routines of a registry, launched by hand. -/
def launchByHand (app : Application) (cancelled : Bool) (r : Run) : Run :=
  { r with
    startup := .launch app.registry
    control := .byHand
    world := { r.world with cancelled := cancelled } }

/-- Time passes, and everything due up to its end happens. -/
def pass (app : Application) (span : Duration) (r : Run) : Run :=
  let limit := r.world.now + span.millis
  (r.before app (limit + 1) fun _ => false).atInstant limit

/-- The next exit, waited for up to a limit; `none` if it does not come, or if none is left. -/
def nextExit (app : Application) (limit : Duration) (r : Run) : Option Exit × Run :=
  let until_ := r.world.now + limit.millis
  let r :=
    if r.startup.hasPending then r.before app until_ (!·.startup.exits.isEmpty) else r
  match r.startup.takeExit with
  | some (exit, startup) => (some exit, { r with startup })
  | none => (none, if r.startup.hasPending then r.atInstant until_ else r)

/-- All exits that are left, waited for up to a limit; `none` if some do not come, and then those
already taken are lost. -/
def drainExits (app : Application) (limit : Duration) (r : Run) : Option (List Exit) × Run :=
  let until_ := r.world.now + limit.millis
  let r := r.before app until_ (·.startup.allReported)
  let emptied := { r with startup := { r.startup with exits := [] } }
  if r.startup.allReported then (some r.startup.exits, emptied)
  else (none, emptied.atInstant until_)

/-- A teardown of the whole registry is called by hand and goes on until it has to wait. -/
def callTeardown (app : Application) (r : Run) : Run :=
  let (teardown, world) :=
    (r.teardown.begin_ app.registry).proceed app.registry app.shutdownTimeout r.world
  { r with teardown, world, control := .byHand }

/-- A teardown of the whole registry by hand, up to its last report. -/
def tearDownByHand (app : Application) (limit : Nat) (r : Run) : Run :=
  (r.callTeardown app).before app limit (·.teardown.isOver)

end Run

end ServiceSupervisor
