import ServiceSupervisor.Http.Server

/-!
A server component worked by hand, on a network.

* `Session`: the server, its state and the calls whose results are still to be collected;
* `Session.request`: a request that is sent over the network;
* `Session.run`, `Session.cancel`, `Session.awaitRun`: the entry routine;
* `Session.tearDown`, `Session.beginTeardown`, `Session.awaitTeardown`: the teardown routine.

Every operation lets everything happen that can go on.
-/

namespace ServiceSupervisor.Http

/-- A server component worked by hand. -/
structure Session where
  /-- The server. -/
  server : Server
  /-- The network between it and its clients. -/
  network : Network
  /-- Why it cannot listen, if it cannot. -/
  fault : Option SystemError
  /-- Its state. -/
  state : ServerState := {}
  /-- The call of the entry routine whose result is still to be collected. -/
  running : Option Nat := none
  /-- The call of the teardown routine whose result is still to be collected. -/
  stopping : Option Nat := none

namespace Session

/-- A step, if it is possible. -/
def take (label : Label) (s : Session) : Session :=
  { s with state := (s.state.step? s.server label).getD s.state }

/-- The server task ends well, once it has been told to stop and every request is answered. -/
def endTask (s : Session) : Session :=
  if s.state.stopping && s.state.allAnswered then s.take (.endTask .finished) else s

/-- Everything happens that can go on: cancelled calls first, then the server task, and then those
that wait for it. -/
def settle (s : Session) : Session :=
  let wakeRuns (s : Session) : Session :=
    (List.range s.state.runs.length).foldl (fun s number => s.take (.wakeRun number true)) s
  let s := (wakeRuns s).endTask
  (List.range s.state.teardowns.length).foldl (fun s number => s.take (.wakeTeardown number))
    (wakeRuns s)

/-- Whether a client can connect, once the server listens. -/
def reached? (s : Session) : Option Bool :=
  s.state.bound.map fun address =>
    match s.network.connect address with
    | .accepts _ => true
    | .fails _ _ | .silent => false

/-- A request is sent and its reply waited for; there is none if the connection is refused. -/
def request (request : Request) (s : Session) : Option Reply × Session :=
  if s.reached? = some true then
    let number := s.state.requests.length
    let s := s.take (.accept request)
    match (s.state.requests[number]?).bind Accepted.due? with
    | none => (none, s)
    | some (due, _) =>
      let s := (s.take (.pass ⟨due - s.state.now⟩)).take (.answer number)
      (((s.state.requests[number]?).bind (·.answer)).map (·.2), s)
  else (none, s)

/-- How a call of the entry routine has ended. -/
def runEnding? (s : Session) (number : Nat) : Option Ending :=
  (s.state.runs[number]?).bind RunCall.ending?

/-- How a call of the teardown routine has ended. -/
def teardownEnding? (s : Session) (number : Nat) : Option Ending :=
  (s.state.teardowns[number]?).bind TeardownCall.ending?

/-- The entry routine is called; its result, if it ends at once. -/
def run (cancelled : Bool) (s : Session) : Option Ending × Session :=
  let number := s.state.runs.length
  let outcome : Listening :=
    match s.fault with
    | some fault => .refused fault
    | none => .bound s.server.address
  let s := ((s.take (.run cancelled)).take (.listen number outcome)).settle
  match s.runEnding? number with
  | some ending => (some ending, s)
  | none => (none, { s with running := some number })

/-- The result of the call of the entry routine that is still to be collected. -/
def awaitRun (s : Session) : Option Ending × Session :=
  match s.running.bind s.runEnding? with
  | some ending => (some ending, { s with running := none })
  | none => (none, s)

/-- The call of the entry routine that is still to be collected is cancelled; its result. -/
def cancel (s : Session) : Option Ending × Session :=
  match s.running with
  | some number => (s.take (.cancel number)).settle.awaitRun
  | none => (none, s)

/-- The teardown routine is called; whether it has ended at once. -/
def beginTeardown (deadline : Duration) (s : Session) : Bool × Session :=
  let number := s.state.teardowns.length
  let s := { (s.take (.teardown deadline)).settle with stopping := some number }
  ((s.teardownEnding? number).isSome, s)

/-- The result of the call of the teardown routine that is still to be collected. -/
def awaitTeardown (s : Session) : Option Ending × Session :=
  match s.stopping.bind s.teardownEnding? with
  | some ending => (some ending, { s with stopping := none })
  | none => (none, s)

/-- The teardown routine is called and waited for. -/
def tearDown (deadline : Duration) (s : Session) : Option Ending × Session :=
  let kept := s.stopping
  let (ending, s) := (s.beginTeardown deadline).2.awaitTeardown
  (ending, { s with stopping := kept })

end Session

end ServiceSupervisor.Http
