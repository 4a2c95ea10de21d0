import ServiceSupervisor.Failure
import ServiceSupervisor.Scheduler
import ServiceSupervisor.Signals

/-!
What a component does, as a tree of the actions it takes on the world around it.

* `Routine`: a tree of actions.  A node either acts at once and goes on, or waits;
* `Note`: what a routine leaves in the report about itself;
* `Routine.ofScript`: the routine of a list of steps, the form in which test components are given.
-/

namespace ServiceSupervisor

/-- What a probe leaves in the report about itself. -/
inductive ProbeNote
  /-- It begins to dial its target. -/
  | dialled (target : String)
  /-- Its target has answered. -/
  | reachable (probe target : String)
  /-- It has been torn down. -/
  | stopped (probe : String)
deriving DecidableEq, Repr, Inhabited

/-- What a routine leaves in the report about itself. -/
inductive Note
  /-- It has observed the cancellation it waited for. -/
  | cancelObserved
  /-- It has looked whether it is cancelled. -/
  | cancelLooked (value : Bool)
  /-- It has got so far. -/
  | marked (text : String)
  /-- It has raised a signal. -/
  | raised (signal : Signal)
  /-- It has not raised a signal that would end the process. -/
  | raiseSkipped (signal : Signal)
  /-- It has logged something about its recurring jobs. -/
  | jobs (note : JobNote)
  /-- It has noted something about the dependency that it probes. -/
  | probe (note : ProbeNote)
deriving DecidableEq, Repr, Inhabited

/-- A tree of actions.  A run is finite and sees finitely many actions of a routine, so to it a
routine that goes on for ever is one that hangs later. -/
inductive Routine
  /-- It ends. -/
  | stop (ending : Ending)
  /-- It waits for ever. -/
  | hang
  /-- It waits, deaf to cancellation. -/
  | sleep (span : Duration) (next : Routine)
  /-- It waits for something that another task does at the same instant. -/
  | pause (next : Routine)
  /-- It waits until it is cancelled. -/
  | awaitCancel (next : Routine)
  /-- It waits until it is cancelled or the span is over, whichever comes first. -/
  | sleepOrCancel (span : Duration) (late cancelled : Routine)
  /-- It cancels the shared token itself. -/
  | cancel (next : Routine)
  /-- It looks whether it is cancelled. -/
  | ifCancelled (yes no : Routine)
  /-- It leaves a note. -/
  | note (note : Note) (next : Routine)
  /-- It raises a signal, unless that would end the process. -/
  | raise (signal : Signal) (next : Routine)
  /-- It begins one loop for each of its recurring jobs. -/
  | startJobs (next : Routine)
  /-- It tells the loops of its recurring jobs to stop. -/
  | stopJobs (next : Routine)
  /-- It waits until none of those loops is left or the span is over. -/
  | awaitJobs (span : Duration) (idle late : Routine)
deriving DecidableEq, Repr, Inhabited

namespace Routine

/-- The routine that ends well at once. -/
def done : Routine := stop .finished

/-- The number of actions on the longest path. -/
def depth : Routine → Nat
  | stop _ | hang => 0
  | sleep _ next | pause next | awaitCancel next | cancel next | note _ next | raise _ next
  | startJobs next | stopJobs next => next.depth + 1
  | sleepOrCancel _ late cancelled => max late.depth cancelled.depth + 1
  | ifCancelled yes no => max yes.depth no.depth + 1
  | awaitJobs _ idle late => max idle.depth late.depth + 1

end Routine

/-! ### Scripts -/

/-- One step of a script. -/
inductive Step
  /-- It waits, deaf to cancellation. -/
  | sleep (span : Duration)
  /-- It waits for the cancellation and notes it. -/
  | waitCancel
  /-- It goes on after a span; cancelled before that, it notes it and returns. -/
  | sleepOrCancel (span : Duration)
  /-- It cancels the shared token. -/
  | cancel
  /-- It notes whether it is cancelled. -/
  | isCancelled
  /-- It notes a text. -/
  | mark (text : String)
  /-- It returns an error. -/
  | fail (failure : Failure)
  /-- It panics. -/
  | panic (payload : Option String)
  /-- It returns. -/
  | ret
  /-- It never returns. -/
  | hang
  /-- It raises a signal and notes whether it did. -/
  | raise (signal : Signal)
deriving DecidableEq, Repr, Inhabited

/-- The routine of a script; at its end it returns. -/
def Routine.ofScript : List Step → Routine
  | [] => .done
  | .sleep span :: steps => .sleep span (ofScript steps)
  | .waitCancel :: steps => .awaitCancel (.note .cancelObserved (ofScript steps))
  | .sleepOrCancel span :: steps =>
    .sleepOrCancel span (ofScript steps) (.note .cancelObserved .done)
  | .cancel :: steps => .cancel (ofScript steps)
  | .isCancelled :: steps =>
    let next := ofScript steps
    .ifCancelled (.note (.cancelLooked true) next) (.note (.cancelLooked false) next)
  | .mark text :: steps => .note (.marked text) (ofScript steps)
  | .fail failure :: _ => .stop (.failed failure)
  | .panic payload :: _ => .stop (.panicked payload)
  | .ret :: _ => .done
  | .hang :: _ => .hang
  | .raise signal :: steps => .raise signal (ofScript steps)

end ServiceSupervisor
