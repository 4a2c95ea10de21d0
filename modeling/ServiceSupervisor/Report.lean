import ServiceSupervisor.Log
import ServiceSupervisor.Supervisor

/-!
Reports on a run, as views of its trace.

* `Happening`: what an instance has recorded about itself;
* `Run.moments`, `Run.teardownOrder`, `Run.drainedBeforeTeardown`: the history of the instances;
* `Run.supervisorLog`, `Run.listenerLog`, `Run.taskLog`, `Run.jobLog`, `Run.probeLog`: the log lines
  of each kind, earliest first.
-/

namespace ServiceSupervisor

/-- What an instance has recorded about itself. -/
inductive Happening
  /-- Its entry routine has begun. -/
  | started
  /-- Its entry routine has returned. -/
  | exited (ok : Bool)
  /-- A teardown has begun. -/
  | teardownStarted (deadline : Duration)
  /-- A teardown has returned. -/
  | teardownFinished (ok : Bool)
  /-- A routine has left a note. -/
  | noted (note : Note)
deriving DecidableEq, Repr, Inhabited

/-- A happening with its instance, its instant and the phase visible then. -/
structure Moment where
  /-- The instance. -/
  owner : Nat
  /-- The instant, in milliseconds. -/
  time : Nat
  /-- The phase visible at that instant. -/
  phase : Phase
  /-- What has happened. -/
  happening : Happening
deriving DecidableEq, Repr, Inhabited

namespace Registry

/-- The instance registered at a place. -/
def ownerAt (r : Registry) (index : Nat) : Nat :=
  (r.entries[index]?.map (·.instanceId)).getD index

end Registry

/-- What an instance has recorded in a record; a routine that panics does not return. -/
def Record.moment? (registry : Registry) (r : Record) : Option Moment :=
  let at_ (index : Nat) (happening : Happening) : Option Moment :=
    some ⟨registry.ownerAt index, r.time, r.phase, happening⟩
  match r.event with
  | .entryBegun index => at_ index .started
  | .entryEnded index ending =>
    if ending.returned then at_ index (.exited (ending = .finished)) else none
  | .teardownBegun index deadline => at_ index (.teardownStarted deadline)
  | .teardownEnded index ending =>
    if ending.returned then at_ index (.teardownFinished (ending = .finished)) else none
  | .noted _ owner note => some ⟨owner, r.time, r.phase, .noted note⟩
  | _ => none

/-- Whether every element with the first property stands before every element with the second;
`none` if one of the two properties has no element. -/
def allBefore? {α : Type} (first second : α → Bool) (xs : List α) : Option Bool :=
  if xs.any first && xs.any second then some (!(xs.dropWhile (!second ·)).any first) else none

namespace Run

/-- The records of a run, earliest first. -/
def records (r : Run) : List Record := r.world.trace.reverse

/-- What the given instances have recorded, earliest first. -/
def moments (app : Application) (recorded : List Nat) (r : Run) : List Moment :=
  (r.records.filterMap (Record.moment? app.registry)).filter fun m => recorded.contains m.owner

/-- The given instances in the order in which their teardowns began. -/
def teardownOrder (app : Application) (recorded : List Nat) (r : Run) : List Nat :=
  (r.moments app recorded).filterMap fun m =>
    match m.happening with
    | .teardownStarted _ => some m.owner
    | _ => none

/-- Whether every return of an entry routine came before every beginning of a teardown; `none` if
there is none of one kind. -/
def drainedBeforeTeardown (app : Application) (recorded : List Nat) (r : Run) : Option Bool :=
  allBefore?
    (fun m => match m.happening with | .exited _ => true | _ => false)
    (fun m => match m.happening with | .teardownStarted _ => true | _ => false)
    (r.moments app recorded)

/-! ### Log lines -/

/-- What the registration and the supervisor have logged, in order. -/
def supervisorLog (app : Application) (span : Option String) (r : Run) : List LogLine :=
  r.records.filterMap (Record.supervisorLine? app.registry span)

/-- What has been logged about listeners for termination signals, earliest first. -/
def listenerLog (r : Run) : List LogLine := r.records.filterMap Record.listenerLine?

/-- What the tasks of the entry routines have logged, with their places, earliest first. -/
def taskLog (app : Application) (r : Run) : List (Nat × LogLine) :=
  r.records.filterMap (Record.taskLine? app.registry)

/-- What recurring jobs have logged, earliest first. -/
def jobLog (r : Run) : List LogLine := r.records.filterMap Record.jobLine?

/-- What probes have logged, earliest first. -/
def probeLog (r : Run) : List LogLine := r.records.filterMap Record.probeLine?

end Run

end ServiceSupervisor
