import ServiceSupervisor.Supervisor

/-!
The exits of entry routines that were launched by hand, and whoever takes them.

* `Consumer.Call`: the call that waits, if there is one: for the next exit, or for all that are
  left;
* `Consumer.Answer`: what a call has returned;
* `Consumer`: the run of the entry routines with the calls and the answers so far;
* `Consumer.step?`: a task or the clock goes on, or the consumer calls, is woken, drops a call that
  waits for the next exit, or cancels the shared token.

A call that waits for the next exit has taken nothing, so that nothing is lost when it is dropped.
A drain keeps what it has taken to itself until it returns; it is never dropped.
-/

namespace ServiceSupervisor

namespace Consumer

/-- What the consumer waits for. -/
inductive Call
  /-- Nothing: no call is under way. -/
  | none
  /-- The next exit. -/
  | next
  /-- All exits that are left, of which these have come. -/
  | drain (collected : List Exit)
deriving DecidableEq, Repr, Inhabited

/-- What a call has returned. -/
inductive Answer
  /-- The next exit; `none` if none is left. -/
  | next (exit : Option Exit)
  /-- All exits that were left. -/
  | drained (exits : List Exit)
deriving DecidableEq, Repr, Inhabited

/-- The exits that an answer hands out. -/
def Answer.exits : Answer → List Exit
  | next exit => exit.toList
  | drained exits => exits

/-- One step of a consumer. -/
inductive Label
  /-- A task or the clock goes on. -/
  | run (label : Run.Label)
  /-- The next exit is asked for. -/
  | next
  /-- All exits that are left are asked for. -/
  | drain
  /-- The call that waits is polled again. -/
  | resume
  /-- The call that waits for the next exit is dropped. -/
  | drop
  /-- The shared token is cancelled. -/
  | cancel
deriving DecidableEq, Repr, Inhabited

end Consumer

/-- Whoever takes the exits of entry routines that were launched by hand. -/
structure Consumer where
  /-- The run of the entry routines. -/
  run : Run
  /-- The call that waits. -/
  call : Consumer.Call
  /-- The answers so far, earliest first. -/
  answers : List Consumer.Answer
deriving Inhabited

namespace Consumer

/-- The entry routines have been launched, and nothing has been asked for. -/
def launch (app : Application) (signals : Signals) (wallClock : Nat → Timestamp)
    (cancelled : Bool) : Consumer where
  run := (Run.initial app signals wallClock).launchByHand app cancelled
  call := .none
  answers := []

/-- A call returns. -/
def answer (answer : Answer) (c : Consumer) : Consumer :=
  { c with call := .none, answers := c.answers ++ [answer] }

/-- One poll of a call for the next exit. -/
def pollNext (c : Consumer) : Consumer :=
  match c.run.startup.takeExit with
  | some (exit, startup) =>
    { c with run := { c.run with startup } }.answer (.next (some exit))
  | none => if c.run.startup.hasPending then { c with call := .next } else c.answer (.next none)

/-- One poll of a drain that has collected some exits. -/
def pollDrain (collected : List Exit) (c : Consumer) : Consumer :=
  let collected := collected ++ c.run.startup.exits
  let startup := { c.run.startup with exits := [] }
  let c := { c with run := { c.run with startup } }
  if startup.hasPending then { c with call := .drain collected } else c.answer (.drained collected)

/-- The state after one step; `none` if that step is not possible. -/
def step? (app : Application) (c : Consumer) : Label → Option Consumer
  | .run label => (c.run.step? app label).map fun run => { c with run }
  | .next => if c.call = .none then some c.pollNext else none
  | .drain => if c.call = .none then some (c.pollDrain []) else none
  | .resume =>
    match c.call with
    | .none => none
    | .next => some c.pollNext
    | .drain collected => some (c.pollDrain collected)
  | .drop => if c.call = .next then some { c with call := .none } else none
  | .cancel => some { c with run := { c.run with world := c.run.world.cancel } }

/-- The state after several steps; `none` if one of them is not possible. -/
def steps? (app : Application) : Consumer → List Label → Option Consumer
  | c, [] => some c
  | c, label :: labels => do (← c.step? app label).steps? app labels

end Consumer

end ServiceSupervisor
