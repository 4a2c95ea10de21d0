import ServiceSupervisor.Task

/-!
The entry routines of a registry, run side by side.

* `EntryTask`: the entry routine of one registration and the task that watches it;
* `Startup.launch`: one watching task per registration, none of which has been polled;
* `Startup.watch`: a watching task spawns its entry routine, and later reports its end, which joins
  the exits in the order of the reports;
* `Startup.poll`: one of the entry routines goes on;
* `Startup.takeExit`: the oldest exit that has not been handed out.

An entry routine runs in a task of its own, so that a panic ends that task alone and is reported as
an error of its component.
-/

namespace ServiceSupervisor

/-- How one entry routine ended. -/
structure Exit where
  /-- The place of the registration. -/
  index : Nat
  /-- The registered name. -/
  name : String
  /-- How it ended. -/
  ending : Ending
  /-- The instant at which it was reported. -/
  time : Nat
deriving DecidableEq, Repr, Inhabited

namespace Exit

/-- The failure of an entry routine, a panic being one. -/
def failure? (e : Exit) : Option Failure := e.ending.failure?

/-- The component that failed, if it did. -/
def culprit? (e : Exit) : Option Culprit := e.failure?.map (⟨e.name, ·⟩)

end Exit

/-- The entry routine of one registration and the task that watches it. -/
inductive EntryTask
  /-- The watching task has not been polled yet, and the routine has no task. -/
  | unspawned (routine : Routine)
  /-- The watching task waits for the routine's task. -/
  | watched (task : Task)
  /-- The watching task has reported how the routine ended. -/
  | reported (ending : Ending)
  /-- The watching task has been dropped, and nobody waits for the routine's task. -/
  | unwatched (task : Task)
deriving DecidableEq, Repr, Inhabited

namespace EntryTask

/-- The task of the routine. -/
def task : EntryTask → Task
  | unspawned routine => .unbegun routine
  | watched task | unwatched task => task
  | reported ending => .ended ending

/-- The task of the routine goes on. -/
def withTask (polled : Task) : EntryTask → EntryTask
  | watched _ => watched polled
  | unwatched _ => unwatched polled
  | task => task

/-- Whether the end of the routine has been reported. -/
def isReported : EntryTask → Bool
  | reported _ => true
  | _ => false

/-- The instant at which the routine goes on by itself. -/
def wake : EntryTask → Option Nat
  | watched task | unwatched task => task.wake
  | unspawned _ | reported _ => none

/-- Whether a poll makes the routine go on. -/
def ready (w : World) (owner : Nat) : EntryTask → Bool
  | watched task | unwatched task => task.ready w owner
  | unspawned _ | reported _ => false

/-- Whether a poll makes the watching task go on. -/
def watchReady : EntryTask → Bool
  | unspawned _ => true
  | watched task => task.hasEnded
  | reported _ | unwatched _ => false

/-- The watching task is dropped: a routine without a task of its own never gets one. -/
def abandon : EntryTask → EntryTask
  | unspawned _ => unwatched .hung
  | watched task => unwatched task
  | task => task

end EntryTask

/-- The entry routines of a registry and those of their exits not handed out yet. -/
structure Startup where
  /-- The two tasks of each registration. -/
  entries : List EntryTask
  /-- The exits not handed out, oldest first. -/
  exits : List Exit
deriving DecidableEq, Repr, Inhabited

namespace Startup

/-- Nothing has been launched. -/
def empty : Startup := ⟨[], []⟩

/-- One watching task per registration, none of which has been polled. -/
def launch (registry : Registry) : Startup :=
  ⟨registry.entries.map fun entry => .unspawned entry.component.entry, []⟩

/-- The tasks of the entry routines. -/
def tasks (s : Startup) : List Task := s.entries.map EntryTask.task

/-- Whether every entry routine has ended and been reported. -/
def allReported (s : Startup) : Bool := s.entries.all EntryTask.isReported

/-- Whether some exit has not been handed out. -/
def hasPending (s : Startup) : Bool := !s.exits.isEmpty || !s.allReported

/-- The oldest exit not handed out. -/
def takeExit (s : Startup) : Option (Exit × Startup) :=
  match s.exits with
  | [] => none
  | exit :: exits => some (exit, { s with exits })

/-! ### The watching tasks -/

/-- Whether a poll makes a watching task go on. -/
def watchReady (s : Startup) (index : Nat) : Bool :=
  match s.entries[index]? with
  | some task => task.watchReady
  | none => false

/-- A watching task spawns its entry routine, or reports how it ended. -/
def watch (registry : Registry) (index : Nat) (s : Startup) (w : World) : Startup × World :=
  match registry.entries[index]?, s.entries[index]? with
  | some _, some (.unspawned routine) =>
    ({ s with entries := s.entries.set index (.watched (.unbegun routine)) },
      w.emit (.entrySpawned index))
  | some entry, some (.watched (.ended ending)) =>
    (⟨s.entries.set index (.reported ending), s.exits ++ [⟨index, entry.name, ending, w.now⟩]⟩,
      w.emit (.exitReported index ending))
  | _, _ => (s, w)

/-! ### The entry routines -/

/-- Whether a poll makes an entry routine go on. -/
def ready (registry : Registry) (s : Startup) (w : World) (index : Nat) : Bool :=
  match registry.entries[index]?, s.entries[index]? with
  | some entry, some task => task.ready w entry.instanceId
  | _, _ => false

/-- One entry routine goes on until it has to wait; one that is not ready stays as it is. -/
def poll (registry : Registry) (index : Nat) (s : Startup) (w : World) : Startup × World :=
  match registry.entries[index]?, s.entries[index]? with
  | some entry, some task =>
    if task.ready w entry.instanceId then
      let (polled, w) :=
        task.task.advance (.entryBegun index) (.entryEnded index) (.entry index) entry.instanceId w
      ({ s with entries := s.entries.set index (task.withTask polled) }, w)
    else (s, w)
  | _, _ => (s, w)

/-- The instants at which waiting entry routines go on by themselves. -/
def wakes (s : Startup) : List Nat := s.entries.filterMap EntryTask.wake

/-- All watching tasks are dropped. -/
def abandon (s : Startup) : Startup := { s with entries := s.entries.map EntryTask.abandon }

end Startup

end ServiceSupervisor
