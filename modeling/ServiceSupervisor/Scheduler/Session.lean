import ServiceSupervisor.Scheduler.Usage

/-!
A component of recurring jobs worked by hand on a virtual clock.

* `Session`: the component in use and the call of its entry routine whose result is still to be
  collected;
* `Session.run`, `Session.cancel`, `Session.advance`, `Session.tearDown`: the operations.

Every operation is a sequence of steps of the component in use, and lets everything happen that is
due by its end.  Loops go on before calls, so a loop that ends when the time of a teardown is over
has ended in time.
-/

namespace ServiceSupervisor.Scheduler

/-- A component of recurring jobs worked by hand. -/
structure Session where
  /-- The component. -/
  component : Component
  /-- Its use so far. -/
  usage : Usage
  /-- The place of the call of the entry routine whose result is still to be collected. -/
  running : Option Nat := none

namespace Session

/-- A component of the given jobs at the instant 0. -/
def ofJobs (jobs : List Job) (wallClock : Nat → Timestamp) : Session where
  component := .ofJobs jobs
  usage := .start (.ofJobs jobs) wallClock

/-- The instant. -/
def now (s : Session) : Nat := s.usage.world.now

/-- A step, if it is possible. -/
def take (label : Usage.Label) (s : Session) : Session :=
  { s with usage := (s.usage.step? s.component label).getD s.usage }

/-- How the call at a place has returned, if it has. -/
def ending? (s : Session) (place : Nat) : Option Ending :=
  s.usage.calls[place]?.bind fun call => call.returned.map (·.ending)

/-- The step of a loop or a call that can go on. -/
def ready? (s : Session) : Option Usage.Label :=
  let u := s.usage
  match u.scheduler.loops.findIdx? (u.scheduler.loopReady u.world.now) with
  | some number => some (.loop number false)
  | none => (u.calls.findIdx? u.callReady).map .poll

/-- Loops and calls go on until the goal is reached or everything due up to the instant `limit` has
happened. -/
def follow (limit : Nat) (goal : Session → Bool) : Nat → Session → Session
  | 0, s => s
  | fuel + 1, s =>
    if goal s then s
    else
      match s.ready? with
      | some label => (s.take label).follow limit goal fuel
      | none =>
        match s.usage.wakes.min? with
        | some instant =>
          if instant ≤ limit then (s.take (.pass (instant - s.now))).follow limit goal fuel else s
        | none => s

/-- A bound on the steps up to an instant: a loop fires at most once a second, and each run takes
two polls and two steps of the clock at most; a call takes a few polls. -/
def budget (s : Session) (limit : Nat) : Nat :=
  (limit + 2) * (4 * (s.usage.scheduler.loops.length + s.component.jobs.length
    + s.usage.calls.length + 1))

/-- Everything due up to the instant `limit` happens, unless the goal is reached before. -/
def upTo (s : Session) (limit : Nat) (goal : Session → Bool) : Session :=
  s.follow limit goal (s.budget limit)

/-- Everything due now happens. -/
def settle (s : Session) : Session := s.upTo s.now fun _ => false

/-- Time passes. -/
def advance (s : Session) (span : Duration) : Session :=
  let limit := s.now + span.millis
  let s := s.upTo limit fun _ => false
  s.take (.pass (limit - s.now))

/-- The entry routine is called, with a new token. -/
def run (s : Session) : Session :=
  { (s.take (.call .run)).settle with running := some s.usage.calls.length }

/-- The token of the latest call of the entry routine is cancelled; its result is `none` if it has
been collected already. -/
def cancel (s : Session) : Option Ending × Session :=
  match s.running with
  | none => (none, s)
  | some place =>
    let s := (s.take (.cancel place)).settle
    (s.ending? place, { s with running := none })

/-- The teardown routine is called and waited for. -/
def tearDown (s : Session) (deadline : Duration) : Option Ending × Session :=
  let place := s.usage.calls.length
  let called := s.take (.call (.tearDown deadline))
  let s := (called.upTo (s.now + deadline.millis) fun s => (s.ending? place).isSome).settle
  (s.ending? place, s)

end Session

end ServiceSupervisor.Scheduler
