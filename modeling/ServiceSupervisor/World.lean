import ServiceSupervisor.Component

/-!
The world that tasks run in, and the trace of what happens in it.

* `Phase`: the stages of a supervised run;
* `Event`, `Record`, `Trace`: everything that happens, with its instant and the phase visible then;
* `World`: the virtual clock, the shared cancellation token, the process's signals, the recurring
  jobs of every instance, and the trace so far.

Every report is a view of the trace, so one trace tells all of them apart or finds them equal.
-/

namespace ServiceSupervisor

/-- The stages of a supervised run. -/
inductive Phase
  | idle | starting | running | shuttingDown | stopped
deriving DecidableEq, Repr, Inhabited

/-- The name of a phase. -/
def Phase.name : Phase → String
  | idle => "Idle"
  | starting => "Starting"
  | running => "Running"
  | shuttingDown => "ShuttingDown"
  | stopped => "Stopped"

/-- Which routine of which registration acts. -/
inductive Actor
  /-- The entry routine of the registration at this place. -/
  | entry (index : Nat)
  /-- The teardown routine of the registration at this place. -/
  | teardown (index : Nat)
deriving DecidableEq, Repr, Inhabited

/-- How one teardown was reported. -/
inductive Outcome
  | completed
  | failed (failure : Failure)
  | panicked (payload : Option String)
  | timedOut
deriving DecidableEq, Repr, Inhabited

/-- The outcome of a teardown that ended in time. -/
def Outcome.ofEnding : Ending → Outcome
  | .finished => completed
  | .failed failure => failed failure
  | .panicked payload => panicked payload

/-- The text that is reported with an outcome: an error with all its contexts, or a panic. -/
def Outcome.text? : Outcome → Option String
  | failed failure => some failure.chain
  | panicked payload => some (describePanic payload)
  | completed | timedOut => none

/-- When the supervisor learned of a component's failure. -/
inductive Lateness
  /-- The failure triggered the shutdown. -/
  | beforeShutdown
  /-- It is the first failure of a drain that something else triggered. -/
  | whileDraining
  /-- Another failure had been seen before. -/
  | afterRequest
deriving DecidableEq, Repr, Inhabited

/-- Everything that happens. -/
inductive Event
  /-- A component is registered. -/
  | registering (name : String) (explicit : Option Duration)
  /-- A phase is entered. -/
  | entered (phase : Phase)
  /-- Listeners for termination signals have been installed; so many live now. -/
  | listening (live : Nat)
  /-- All entry routines have been launched. -/
  | launched (components : Nat)
  /-- A termination signal has been observed. -/
  | signalObserved (signal : Signal)
  /-- The external trigger has fired. -/
  | shutdownRequested
  /-- The shared token is cancelled, by a routine or by whoever launched them. -/
  | cancelled (actor : Option Actor)
  /-- The supervisor reports a failed entry routine. -/
  | failureReported (lateness : Lateness) (culprit : Culprit)
  /-- The task of an entry routine is spawned. -/
  | entrySpawned (index : Nat)
  /-- An entry routine begins. -/
  | entryBegun (index : Nat)
  /-- An entry routine has ended. -/
  | entryEnded (index : Nat) (ending : Ending)
  /-- The end of an entry routine has been reported to the supervisor. -/
  | exitReported (index : Nat) (ending : Ending)
  /-- A teardown is spawned and waited for. -/
  | teardownSpawned (index : Nat) (deadline : Duration)
  /-- A teardown routine begins. -/
  | teardownBegun (index : Nat) (deadline : Duration)
  /-- A teardown routine has ended. -/
  | teardownEnded (index : Nat) (ending : Ending)
  /-- The wait for a teardown is over. -/
  | teardownReported (index : Nat) (deadline : Duration) (outcome : Outcome)
  /-- The run is over; `clean` of the `total` teardowns completed. -/
  | finished (clean total : Nat)
  /-- A routine leaves a note. -/
  | noted (actor : Actor) (owner : Nat) (note : Note)
  /-- The recurring jobs of an instance leave a note. -/
  | jobNoted (owner : Nat) (note : JobNote)
deriving DecidableEq, Repr, Inhabited

/-- An event with its instant and the phase visible then. -/
structure Record where
  /-- The instant, in milliseconds. -/
  time : Nat
  /-- The phase visible at that instant. -/
  phase : Phase
  /-- The event. -/
  event : Event
deriving DecidableEq, Repr, Inhabited

/-- What has happened, latest first. -/
abbrev Trace := List Record

/-- The world that tasks run in. -/
structure World where
  /-- The virtual clock, in milliseconds. -/
  now : Nat
  /-- The visible phase. -/
  phase : Phase
  /-- Whether the shared token is cancelled. -/
  cancelled : Bool
  /-- The signals of the process. -/
  signals : Signals
  /-- The recurring jobs, by instance. -/
  schedulers : List Scheduler
  /-- What the wall clock shows at each instant. -/
  wallClock : Nat → Timestamp
  /-- What has happened, latest first. -/
  trace : Trace
deriving Inhabited

namespace World

/-- Something happens now. -/
def emit (w : World) (event : Event) : World :=
  { w with trace := ⟨w.now, w.phase, event⟩ :: w.trace }

/-- Several things happen now, in order. -/
def emitAll (w : World) (events : List Event) : World := events.foldl emit w

/-- A phase is entered. -/
def enter (w : World) (phase : Phase) : World := ({ w with phase := phase }).emit (.entered phase)

/-- The shared token is cancelled, by a routine or by whoever launched them. -/
def cancel (w : World) (actor : Option Actor := none) : World :=
  ({ w with cancelled := true }).emit (.cancelled actor)

/-- The recurring jobs of an instance. -/
def scheduler (w : World) (owner : Nat) : Scheduler := w.schedulers[owner]?.getD .empty

/-- The recurring jobs of an instance change. -/
def updateScheduler (w : World) (owner : Nat) (f : Scheduler → Scheduler) : World :=
  { w with schedulers := w.schedulers.modify owner f }

/-- The loop of an instance with the given number goes on as far as it can. -/
def pollLoop (w : World) (owner number : Nat) (fires : Bool) : World :=
  let (scheduler, notes) := (w.scheduler owner).pollLoop w.now (w.wallClock w.now) fires number
  (w.updateScheduler owner fun _ => scheduler).emitAll (notes.map (.jobNoted owner))

/-- The recurring jobs of every instance of a registry, before any has begun. -/
def schedulersOf (registry : Registry) : List Scheduler :=
  registry.entries.zipIdx.map fun (entry, index) =>
    if entry.instanceId = index then .ofJobs entry.component.jobs else .empty

/-- What is logged while a registry is filled. -/
def registrationEvents (registry : Registry) : List Event :=
  registry.entries.zipIdx.flatMap fun (entry, index) =>
    (if entry.instanceId = index then
      (Scheduler.admissionNotes entry.component.jobs).map (.jobNoted entry.instanceId)
     else [])
      ++ [.registering entry.name entry.explicit]

/-- The world in which a registry has just been filled. -/
def ofRegistry (registry : Registry) (signals : Signals) (wallClock : Nat → Timestamp) : World :=
  let w : World :=
    { now := 0, phase := .idle, cancelled := false, signals, wallClock, trace := []
      schedulers := schedulersOf registry }
  w.emitAll (registrationEvents registry)

end World

end ServiceSupervisor
