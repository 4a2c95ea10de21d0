import ServiceSupervisor.Schedule.Expression

/-!
Recurring jobs.

* `Job`: a named piece of work with a schedule expression, whose runs are numbered from 1;
* `Scheduler`: the jobs with a valid expression and the loops that fire them;
* `Scheduler.start`, `Scheduler.stop`: one loop per job begins; no loop fires again;
* `Scheduler.pollLoop`: one loop goes on as far as it can.

A loop pins the wall clock to the virtual clock when it begins (`Anchor`).  It looks up the first
fire time after its cursor, waits for it, runs the job, and moves its cursor to the later of that
fire time and its wall clock, so that fire times missed during a run are skipped.  A loop ends
when no fire time is left, when a run panics, or when it waits and the scheduler has been stopped.
-/

namespace ServiceSupervisor

/-- How one run of a job ends. -/
inductive JobOutcome
  | completed
  | failed (error : String)
  | panicked
deriving DecidableEq, Repr, Inhabited

/-- One run of a job: how long it works and how it ends. -/
structure JobRun where
  /-- How long the run works. -/
  work : Duration
  /-- How it ends. -/
  outcome : JobOutcome
deriving DecidableEq, Repr, Inhabited

/-- A named piece of recurring work. -/
structure Job where
  /-- The name. -/
  name : String
  /-- The schedule expression. -/
  expression : String
  /-- The run with the given number, the first being 1. -/
  run : Nat → JobRun

instance : Inhabited Job := ⟨⟨"", "", fun _ => default⟩⟩

/-- A job whose expression denotes a schedule. -/
structure ScheduledJob where
  /-- The job. -/
  job : Job
  /-- Its fire times. -/
  schedule : Schedule
  /-- Its place among all jobs given, the skipped ones included. -/
  place : Nat
  /-- How many of its runs have begun. -/
  runs : Nat := 0
deriving Inhabited

/-- One more run of the job has begun. -/
def ScheduledJob.countRun (s : ScheduledJob) : ScheduledJob := { s with runs := s.runs + 1 }

/-- A reading of the wall clock together with the instant at which it was taken. -/
structure Anchor where
  /-- The wall clock. -/
  wall : Timestamp
  /-- The instant, in milliseconds of virtual time. -/
  instant : Nat
deriving DecidableEq, Repr, Inhabited

namespace Anchor

/-- The wall clock at an instant, going on from the anchor. -/
def wallAt (a : Anchor) (instant : Nat) : Timestamp := a.wall + ((instant : Int) - a.instant)

/-- The instant of a wall time, the anchor's own for wall times before it. -/
def instantOf (a : Anchor) (wall : Timestamp) : Nat := a.instant + (wall - a.wall).toNat

end Anchor

/-- What a loop is doing. -/
inductive LoopState
  /-- It has not been polled yet. -/
  | unbegun
  /-- It waits for a fire time. -/
  | waiting (anchor : Anchor) (fire : Timestamp)
  /-- It runs the job until an instant. -/
  | working (anchor : Anchor) (fire : Timestamp) (done : Nat) (outcome : JobOutcome)
  /-- It has ended. -/
  | ended
deriving DecidableEq, Repr, Inhabited

/-- The loop of one job. -/
structure JobLoop where
  /-- The job's position in the scheduler. -/
  job : Nat
  /-- What the loop is doing. -/
  state : LoopState
deriving DecidableEq, Repr, Inhabited

/-- What is logged about recurring jobs. -/
inductive JobNote
  /-- A job has been accepted. -/
  | accepted (job expression : String)
  /-- A job's expression denotes no schedule. -/
  | skipped (job expression : String)
  /-- The entry routine has begun with so many jobs. -/
  | started (jobs : Nat)
  /-- The entry routine has observed the cancellation. -/
  | cancelled
  /-- All loops have ended in time. -/
  | stopped
  /-- A run of the job at this place begins. -/
  | begun (place : Nat) (job : String)
  /-- A run has ended well. -/
  | completed (job : String)
  /-- A run has ended in an error. -/
  | failed (job error : String)
  /-- A job has no fire time left. -/
  | exhausted (job : String)
deriving DecidableEq, Repr, Inhabited

/-- The accepted jobs and the loops that fire them. -/
structure Scheduler where
  /-- The accepted jobs, in order. -/
  jobs : List ScheduledJob
  /-- All loops ever begun. -/
  loops : List JobLoop
  /-- Whether the loops have been told to stop. -/
  stopping : Bool
deriving Inhabited

namespace Scheduler

/-- A scheduler without jobs. -/
def empty : Scheduler := ⟨[], [], false⟩

/-- The scheduler of a list of jobs: those whose expression denotes no schedule are skipped. -/
def ofJobs (jobs : List Job) : Scheduler :=
  { empty with jobs := jobs.zipIdx.filterMap fun (job, place) =>
      (Schedule.parse? job.expression).map fun schedule => { job, schedule, place } }

/-- What is logged when a scheduler is made from a list of jobs. -/
def admissionNotes (jobs : List Job) : List JobNote :=
  jobs.map fun job =>
    if (Schedule.parse? job.expression).isSome then .accepted job.name job.expression
    else .skipped job.name job.expression

/-- The names of the accepted jobs. -/
def jobNames (s : Scheduler) : List String := s.jobs.map (·.job.name)

/-! ### Loops -/

/-- One more loop per job. -/
def start (s : Scheduler) : Scheduler :=
  { s with loops := s.loops ++ (List.range s.jobs.length).map fun job => ⟨job, .unbegun⟩ }

/-- The loops are told to stop; runs in progress go on. -/
def stop (s : Scheduler) : Scheduler := { s with stopping := true }

/-- No loop is left. -/
def isIdle (s : Scheduler) : Bool := s.loops.all (·.state = .ended)

/-- A loop looks up the first fire time after its cursor.  A loop that has been told to stop ends
instead of waiting. -/
def seek (job : ScheduledJob) (stopping : Bool) (anchor : Anchor) (cursor : Timestamp) :
    LoopState × List JobNote :=
  match job.schedule.next cursor with
  | none => (.ended, [.exhausted job.job.name])
  | some fire => (if stopping then .ended else .waiting anchor fire, [])

/-- A run ends, and the loop goes on unless the run panicked. -/
def finishRun (job : ScheduledJob) (stopping : Bool) (anchor : Anchor) (fire : Timestamp)
    (outcome : JobOutcome) (now : Nat) : LoopState × List JobNote :=
  let cursor := max fire (anchor.wallAt now)
  match outcome with
  | .completed =>
    let (state, notes) := seek job stopping anchor cursor
    (state, .completed job.job.name :: notes)
  | .failed error =>
    let (state, notes) := seek job stopping anchor cursor
    (state, .failed job.job.name error :: notes)
  | .panicked => (.ended, [])

/-- A run begins; one that takes no time also ends. -/
def beginRun (job : ScheduledJob) (stopping : Bool) (anchor : Anchor) (fire : Timestamp)
    (now : Nat) : LoopState × List JobNote :=
  let run := job.job.run (job.runs + 1)
  if run.work.millis = 0 then
    let (state, notes) := finishRun job stopping anchor fire run.outcome now
    (state, .begun job.place job.job.name :: notes)
  else
    (.working anchor fire (now + run.work.millis) run.outcome, [.begun job.place job.job.name])

/-- Whether a poll makes a loop go on. -/
def loopReady (s : Scheduler) (now : Nat) (l : JobLoop) : Bool :=
  match l.state with
  | .unbegun => true
  | .waiting anchor fire => s.stopping || decide (anchor.instantOf fire ≤ now)
  | .working _ _ done _ => decide (done ≤ now)
  | .ended => false

/-- The instant for which a loop waits. -/
def loopWake (l : JobLoop) : Option Nat :=
  match l.state with
  | .waiting anchor fire => some (anchor.instantOf fire)
  | .working _ _ done _ => some done
  | _ => none

/-- The next state of a loop, whether a run begins, and what is logged.  When the loop has been
told to stop at the instant of a fire time, `fires` says which of the two it notices. -/
def stepLoop (s : Scheduler) (now : Nat) (wall : Timestamp) (fires : Bool) (l : JobLoop) :
    LoopState × Bool × List JobNote :=
  match s.jobs[l.job]? with
  | none => (.ended, false, [])
  | some job =>
    match l.state with
    | .unbegun =>
      let (state, notes) := seek job s.stopping ⟨wall, now⟩ wall
      (state, false, notes)
    | .waiting anchor fire =>
      let due : Bool := decide (anchor.instantOf fire ≤ now)
      if s.stopping && !(due && fires) then (.ended, false, [])
      else if due then
        let (state, notes) := beginRun job s.stopping anchor fire now
        (state, true, notes)
      else (l.state, false, [])
    | .working anchor fire done outcome =>
      if done ≤ now then
        let (state, notes) := finishRun job s.stopping anchor fire outcome now
        (state, false, notes)
      else (l.state, false, [])
    | .ended => (.ended, false, [])

/-- The loop with this number goes on as far as it can. -/
def pollLoop (s : Scheduler) (now : Nat) (wall : Timestamp) (fires : Bool) (number : Nat) :
    Scheduler × List JobNote :=
  match s.loops[number]? with
  | none => (s, [])
  | some l =>
    let (state, begins, notes) := s.stepLoop now wall fires l
    ({ s with
        loops := s.loops.set number { l with state }
        jobs := if begins then s.jobs.modify l.job ScheduledJob.countRun else s.jobs },
      notes)

end Scheduler

end ServiceSupervisor
