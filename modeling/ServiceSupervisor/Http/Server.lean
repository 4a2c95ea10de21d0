import ServiceSupervisor.Component
import ServiceSupervisor.Http.Routes
import ServiceSupervisor.Json
import ServiceSupervisor.Network

/-!
The HTTP server component.

* `Server`: the settings that it is built with;
* `ServerState`: its cells, its server task, the calls of its routines and its requests;
* `Label`, `ServerState.step?`: one step of one of them.  Every list of labels is an
  interleaving of any number of calls and requests;
* `Server.component`: the component as a supervisor sees it.

The first call of the entry routine takes the routes, listens and starts the server task; a later
one finds no routes and fails.  A cancelled call leaves the server task to the teardown: requests
are answered until the teardown tells the task to stop.  The task then accepts no request.  When it
ends, and how, is left open: a list of labels may let it end at any time.
-/

namespace ServiceSupervisor.Http

/-- A server component. -/
structure Server where
  /-- The address to listen on. -/
  address : SocketAddress
  /-- The routes of the application. -/
  routes : Routes := {}
  /-- The time that a request may take. -/
  requestTimeout : Duration := .ofSecs 30
  /-- The teardown deadline that it prefers. -/
  teardownDeadline : Duration := .ofSecs 10

/-! ### State -/

/-- What becomes of an attempt to listen. -/
inductive Listening
  /-- There is a listener, on this address. -/
  | bound (address : SocketAddress)
  /-- There is none. -/
  | refused (fault : SystemError)
  /-- There is a listener, but its address cannot be found out. -/
  | nameless (fault : SystemError)
deriving DecidableEq, Repr

/-- The task that accepts requests and answers them. -/
inductive ServerTask
  | unspawned
  | running
  | ended (ending : Ending)
deriving DecidableEq, Repr, Inhabited

/-- How the server task has ended. -/
def ServerTask.ending? : ServerTask → Option Ending
  | ended ending => some ending
  | _ => none

/-- How far a call of the entry routine has got. -/
inductive RunStage
  /-- It has the routes and is about to listen. -/
  | claimed
  /-- It waits for its cancellation or the end of the server task. -/
  | waiting
  /-- It has ended. -/
  | ended (ending : Ending)
deriving DecidableEq, Repr, Inhabited

/-- A call of the entry routine. -/
structure RunCall where
  /-- How far it has got. -/
  stage : RunStage
  /-- Whether its token is cancelled. -/
  cancelled : Bool
deriving DecidableEq, Repr, Inhabited

/-- How a call of the entry routine has ended. -/
def RunCall.ending? (call : RunCall) : Option Ending :=
  match call.stage with
  | .ended ending => some ending
  | _ => none

/-- A call of the teardown routine. -/
inductive TeardownCall
  /-- It waits for the end of the server task, up to an instant. -/
  | waiting (until_ : Nat)
  /-- It has ended. -/
  | ended (ending : Ending)
deriving DecidableEq, Repr, Inhabited

/-- How a call of the teardown routine has ended. -/
def TeardownCall.ending? : TeardownCall → Option Ending
  | ended ending => some ending
  | waiting _ => none

/-- A request that the server task has accepted. -/
structure Accepted where
  /-- The request. -/
  request : Request
  /-- The instant at which it came. -/
  arrival : Nat
  /-- What its handler makes of it within the time it has. -/
  course : Course
  /-- The reply to it and the instant of that, once there is one. -/
  answer : Option (Nat × Reply)
deriving DecidableEq, Repr, Inhabited

/-- The reply to an accepted request and the instant at which it is due. -/
def Accepted.due? (a : Accepted) : Option (Nat × Reply) :=
  a.course.reply?.map fun (after, reply) => (a.arrival + after.millis, reply)

/-- A server component at work. -/
structure ServerState where
  /-- The clock, in milliseconds. -/
  now : Nat := 0
  /-- Whether a call has taken the routes. -/
  claimed : Bool := false
  /-- Whether the server says that it is ready. -/
  ready : Bool := false
  /-- The address that it listens or has listened on. -/
  bound : Option SocketAddress := none
  /-- The instant at which it began to serve. -/
  started : Nat := 0
  /-- Whether the server task has been told to stop. -/
  stopping : Bool := false
  /-- The server task. -/
  task : ServerTask := .unspawned
  /-- Whether the server task is kept for a teardown to wait for. -/
  handle : Bool := false
  /-- The calls of the entry routine, earliest first. -/
  runs : List RunCall := []
  /-- The calls of the teardown routine, earliest first. -/
  teardowns : List TeardownCall := []
  /-- The requests accepted so far, earliest first. -/
  requests : List Accepted := []
deriving DecidableEq, Repr, Inhabited

namespace ServerState

/-! ### Health -/

/-- The status of the readiness route. -/
def readiness (s : ServerState) : Response := .ofStatus (if s.ready then 200 else 503)

/-- The report of the health route. -/
def health (s : ServerState) : Response :=
  .json (Json.compact (.obj [("state", .str (if s.ready then "ready" else "draining")),
    ("uptime_secs", .nat ((s.now - s.started) / 1000))]))

/-- The routes that every server has. -/
def healthRoutes (s : ServerState) : Routes where
  routes := [⟨"GET", "/healthz", fun _ => .now (.ofStatus 200)⟩,
    ⟨"GET", "/readyz", fun _ => .now s.readiness⟩,
    ⟨"GET", "/health", fun _ => .now s.health⟩]

/-- What the server makes of a request within the time it has. -/
def courseOf (server : Server) (s : ServerState) (request : Request) : Course :=
  ((server.routes.merge s.healthRoutes).serve request).limited server.requestTimeout

/-! ### Calls of the entry routine -/

/-- The failure of a call that comes too late. -/
def alreadyStarted : Failure := { root := "http server already started" }

/-- The failure of a call whose server task has panicked. -/
def taskFailed (payload : Option String) : Failure :=
  { root := "HTTP server task failed: " ++ describePanic payload }

/-- The failure of a call of the entry routine whose server task has ended by itself. -/
def unexpectedEnd : Ending → Failure
  | .finished => { root := "HTTP server exited unexpectedly" }
  | .failed failure => failure.wrap "HTTP server error"
  | .panicked payload => taskFailed payload

/-- The failure of a call that could not listen. -/
def listenFailure (address : SocketAddress) (fault : SystemError) : Failure :=
  { root := fault.message, contexts := ["HTTP server listen error on " ++ address.render] }

/-- The text of the panic about a route that there is already. -/
def clashText (route : String × String) : String :=
  "Overlapping method route. Handler for `" ++ route.1 ++ " " ++ route.2 ++ "` already exists"

/-- A call of the entry routine gets so far. -/
def setRun (s : ServerState) (number : Nat) (stage : RunStage) : ServerState :=
  { s with runs := s.runs.modify number fun call => { call with stage } }

/-- A call of the entry routine begins: it takes the routes, or fails if they are taken. -/
def beginRun (cancelled : Bool) (s : ServerState) : ServerState :=
  let stage : RunStage := if s.claimed then .ended (.failed alreadyStarted) else .claimed
  { s with claimed := true, runs := s.runs ++ [⟨stage, cancelled⟩] }

/-- A call that has the routes listens and starts the server task.  A route of the application
that is also a health route is found out only after it listens. -/
def listen (server : Server) (number : Nat) (outcome : Listening) (s : ServerState) :
    ServerState :=
  match outcome with
  | .refused fault => s.setRun number (.ended (.failed (listenFailure server.address fault)))
  | .nameless fault => s.setRun number (.ended (.failed { root := fault.message }))
  | .bound address =>
    let s := { s with bound := some address }
    match server.routes.clash? s.healthRoutes with
    | some route => s.setRun number (.ended (.panicked (some (clashText route))))
    | none =>
      { s with ready := true, started := s.now, task := .running }.setRun number .waiting

/-- A call is cancelled. -/
def cancelRun (number : Nat) (s : ServerState) : ServerState :=
  { s with runs := s.runs.modify number fun call => { call with cancelled := true } }

/-- A call that waits goes on: cancelled, it keeps the server task for the teardown; if the server
task has ended, it fails.  `prefers` settles the choice when both are so. -/
def wakeRun (number : Nat) (prefers : Bool) (s : ServerState) : Option ServerState :=
  match s.runs[number]? with
  | some ⟨.waiting, cancelled⟩ =>
    match s.task.ending? with
    | none =>
      if cancelled then some ({ s with handle := true }.setRun number (.ended .finished)) else none
    | some ending =>
      if cancelled && prefers then
        some ({ s with handle := true }.setRun number (.ended .finished))
      else
        some ({ s with ready := false }.setRun number (.ended (.failed (unexpectedEnd ending))))
  | _ => none

/-! ### Calls of the teardown routine -/

/-- The failure of a teardown that takes too long. -/
def stopTimedOut : Failure := { root := "HTTP server shutdown timed out" }

/-- How a teardown ends whose server task has ended in time. -/
def stopEnding : Ending → Ending
  | .finished => .finished
  | .failed failure => .failed (failure.wrap "HTTP server shutdown error")
  | .panicked payload => .failed (taskFailed payload)

/-- A call of the teardown routine begins: the server is not ready any more and is told to stop.
Without a server task that is kept for it the call is over. -/
def beginTeardown (deadline : Duration) (s : ServerState) : ServerState :=
  let call : TeardownCall :=
    if s.handle then .waiting (s.now + deadline.millis) else .ended .finished
  { s with ready := false, stopping := true, handle := false, teardowns := s.teardowns ++ [call] }

/-- A call of the teardown routine that waits goes on when the server task has ended or its time
is over. -/
def wakeTeardown (number : Nat) (s : ServerState) : Option ServerState :=
  let finish (ending : Ending) : ServerState :=
    { s with teardowns := s.teardowns.set number (.ended ending) }
  match s.teardowns[number]? with
  | some (.waiting until_) =>
    match s.task.ending? with
    | some ending => some (finish (stopEnding ending))
    | none => if until_ ≤ s.now then some (finish (.failed stopTimedOut)) else none
  | _ => none

/-! ### The server task -/

/-- Whether every accepted request is answered. -/
def allAnswered (s : ServerState) : Bool := s.requests.all (·.answer.isSome)

/-- The server task accepts a request, unless it has been told to stop. -/
def accept (server : Server) (request : Request) (s : ServerState) : Option ServerState :=
  if s.task = .running ∧ ¬s.stopping then
    some { s with
      requests := s.requests ++ [⟨request, s.now, s.courseOf server request, none⟩] }
  else none

/-- An accepted request is answered when its reply is due. -/
def answer (number : Nat) (s : ServerState) : Option ServerState := do
  let accepted ← s.requests[number]?
  let (due, reply) ← accepted.due?
  if accepted.answer.isNone ∧ due ≤ s.now then
    some { s with
      requests := s.requests.set number { accepted with answer := some (s.now, reply) } }
  else none

/-- The server task ends. -/
def endTask (ending : Ending) (s : ServerState) : Option ServerState :=
  if s.task = .running then some { s with task := .ended ending } else none

/-- The texts logged about panics of handlers, in the order of the requests. -/
def panicLog (s : ServerState) : List String :=
  s.requests.filterMap fun accepted =>
    if accepted.answer.isSome then accepted.course.panicText? else none

/-! ### Steps -/

/-- The instants at which a request is due or the time of a teardown is over. -/
def wakes (s : ServerState) : List Nat :=
  (s.requests.filterMap fun accepted =>
    if accepted.answer.isSome then none else accepted.due?.map (·.1))
    ++ s.teardowns.filterMap fun
      | .waiting until_ => some until_
      | .ended _ => none

end ServerState

/-- One step of a server. -/
inductive Label
  /-- A call of the entry routine begins. -/
  | run (cancelled : Bool)
  /-- A call tries to listen. -/
  | listen (number : Nat) (outcome : Listening)
  /-- A call is cancelled. -/
  | cancel (number : Nat)
  /-- A call of the entry routine goes on. -/
  | wakeRun (number : Nat) (prefers : Bool)
  /-- A call of the teardown routine begins. -/
  | teardown (deadline : Duration)
  /-- A call of the teardown routine goes on. -/
  | wakeTeardown (number : Nat)
  /-- A request comes. -/
  | accept (request : Request)
  /-- A request is answered. -/
  | answer (number : Nat)
  /-- The server task ends. -/
  | endTask (ending : Ending)
  /-- Time passes, but never beyond an instant at which something is due. -/
  | pass (span : Duration)
deriving DecidableEq, Repr

namespace ServerState

/-- The state after one step; `none` if that step is not possible. -/
def step? (server : Server) (s : ServerState) : Label → Option ServerState
  | .run cancelled => some (s.beginRun cancelled)
  | .listen number outcome =>
    match s.runs[number]? with
    | some ⟨.claimed, _⟩ => some (s.listen server number outcome)
    | _ => none
  | .cancel number => some (s.cancelRun number)
  | .wakeRun number prefers => s.wakeRun number prefers
  | .teardown deadline => some (s.beginTeardown deadline)
  | .wakeTeardown number => s.wakeTeardown number
  | .accept request => s.accept server request
  | .answer number => s.answer number
  | .endTask ending => s.endTask ending
  | .pass span =>
    if s.wakes.all (s.now + span.millis ≤ ·) then some { s with now := s.now + span.millis }
    else none

/-- The state after several steps; `none` if one of them is not possible. -/
def steps? (server : Server) : ServerState → List Label → Option ServerState
  | s, [] => some s
  | s, label :: labels => do (← s.step? server label).steps? server labels

end ServerState

namespace Server

/-- The name in every report. -/
def name : String := "http_server"

/-- The component as a supervisor sees it, on a network and without requests: it fails at once if
it cannot listen, and there is nothing that its teardown would have to wait for. -/
def component (server : Server) (network : Network) : Component where
  name := name
  advertised := some server.teardownDeadline
  entry :=
    match network.listenFault? server.address with
    | some fault => .stop (.failed (ServerState.listenFailure server.address fault))
    | none => .awaitCancel .done
  teardown := fun _ => .done

end Server

end ServiceSupervisor.Http
