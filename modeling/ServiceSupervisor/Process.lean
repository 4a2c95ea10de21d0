import ServiceSupervisor.Supervisor

/-!
A process that runs several applications.

* `Process.Call`: one call that runs an application, with the state of its run;
* `Process`: the signals of the process and the calls that it makes;
* `Process.step?`: one poll of a task of one call, a signal from outside, the delivery of signals,
  or the passage of time.

A call is idle until its first poll, so calls follow each other or overlap as the schedule has it.
The signals belong to the process.  A call goes on from its run under them (`Process.Call.under`)
and hands them back (`Process.put`); those that its run was given at first are not looked at.
-/

namespace ServiceSupervisor

namespace Process

/-- One call that runs an application. -/
structure Call where
  /-- The application. -/
  app : Application
  /-- The state of the run. -/
  run : Run

/-- One step of a process. -/
inductive Label
  /-- A task of the call at this place is polled. -/
  | call (place : Nat) (label : Run.Label)
  /-- A signal comes from outside. -/
  | raise (signal : Signal)
  /-- The runtime delivers the signals that have been raised. -/
  | deliver
  /-- So much time passes. -/
  | pass (span : Nat)
deriving DecidableEq, Repr, Inhabited

namespace Call

/-- The run under the signals of the process. -/
def under (c : Call) (signals : Signals) : Run :=
  { c.run with world := { c.run.world with signals } }

/-- The call once its run has gone on, without the signals. -/
def resume (c : Call) (r : Run) : Call :=
  { c with run := { r with world := { r.world with signals := c.run.world.signals } } }

/-- Whether the run has a listener for termination signals. -/
def listens (c : Call) : Bool := c.run.listener.isSome

/-- Whether nothing in a call that has been polled can go on, and nothing does so by itself before
the end of the span. -/
def rests (signals : Signals) (span : Nat) (c : Call) : Bool :=
  c.run.control = .idle ||
    ((c.under signals).isQuiet c.app
      && (c.run.wakes c.app).all fun wake => decide (c.run.world.now + span ≤ wake))

/-- Time passes.  The clock of a call starts with its first poll. -/
def pass (span : Nat) (c : Call) : Call :=
  if c.run.control = .idle then c else { c with run := c.run.atInstant (c.run.world.now + span) }

end Call

end Process

/-- The state of a process. -/
structure Process where
  /-- The signals. -/
  signals : Signals
  /-- The calls, those not polled yet and those that have returned included. -/
  calls : List Process.Call
  /-- Whether a signal has ended the process. -/
  killed : Bool
deriving Inhabited

namespace Process

/-- A process with the given dispositions, before the first poll of any of its calls. -/
def start (inherited : PerSignal Disposition) (apps : List Application)
    (wallClock : Nat → Nat → Timestamp) : Process where
  signals := .ofDispositions inherited
  calls := apps.mapIdx fun place app =>
    ⟨app, .initial app (.ofDispositions inherited) (wallClock place)⟩
  killed := false

/-- The run of the call at a place has gone on, and the signals with it. -/
def put (place : Nat) (c : Call) (r : Run) (p : Process) : Process :=
  { p with signals := r.world.signals, calls := p.calls.set place (c.resume r) }

/-- A task of the call at a place is polled.  The delivery of signals and the clock are not matters
of one call. -/
def poll (place : Nat) (label : Run.Label) (p : Process) : Option Process :=
  match label with
  | .deliver | .tick => none
  | label => do
    let c ← p.calls[place]?
    let r ← (c.under p.signals).step? c.app label
    some (p.put place c r)

/-- A signal comes from outside. -/
def raise (signal : Signal) (p : Process) : Process :=
  match p.signals.effect signal with
  | .fatal => { p with killed := true }
  | .raised => { p with signals := p.signals.raise signal }

/-- Whether so much time can pass. -/
def rests (span : Nat) (p : Process) : Bool :=
  p.signals.waiting.isEmpty && p.calls.all (·.rests p.signals span)

/-- The state after one step of a process; `none` if that step is not possible. -/
def step? (p : Process) (label : Label) : Option Process :=
  if p.killed then none
  else
    match label with
    | .call place label => p.poll place label
    | .raise signal => some (p.raise signal)
    | .deliver =>
      if p.signals.waiting.isEmpty then none else some { p with signals := p.signals.deliver }
    | .pass span =>
      if p.rests span then some { p with calls := p.calls.map (·.pass span) } else none

/-- The state after some steps; `none` if one of them is not possible. -/
def steps? : Process → List Label → Option Process
  | p, [] => some p
  | p, label :: labels => do (← p.step? label).steps? labels

end Process

end ServiceSupervisor
