import ServiceSupervisor.Configuration
import ServiceSupervisor.Http.Server
import ServiceSupervisor.Probe
import ServiceSupervisor.Supervisor

/-!
The service that a configuration describes.

* `Configuration.registry`: its components on a network: the probes, then the scheduler, then the
  HTTP server.  They are torn down in the reverse order, the dependencies last;
* `Configuration.app`: the supervised application, which a termination signal ends;
* `Configuration.outcome?`: the result of a run in which signals are raised once it is running.
-/

namespace ServiceSupervisor.Configuration

/-- The job that shows that the service is alive. -/
def heartbeat (expression : String) : Job where
  name := "heartbeat"
  expression := expression
  run := fun _ => ⟨.zero, .completed⟩

/-- The component of a probe with its explicit deadline. -/
def probeEntry (network : Network) (s : ProbeSettings) : Component × Option Duration :=
  (Probe.component ⟨s.name, s.address, s.connectTimeout⟩ network, s.teardownTimeout)

/-- The component of the scheduler with its explicit deadline, if there is a scheduler. -/
def schedulerEntry (s : SchedulerSettings) : List (Component × Option Duration) :=
  if s.enabled then [(.ofJobs [heartbeat s.heartbeatSchedule], s.teardownTimeout)] else []

/-- The component of the HTTP server with its explicit deadline, if there is a server and its
address can be read. -/
def httpEntry (network : Network) (s : HttpSettings) : List (Component × Option Duration) :=
  match s.enabled, SocketAddress.parse? s.address with
  | true, some address =>
    let server : Http.Server := { address, requestTimeout := s.requestTimeout }
    [(server.component network, s.teardownTimeout)]
  | _, _ => []

/-- The components of the service with their explicit deadlines, in the order of registration. -/
def entries (c : Configuration) (network : Network) : List (Component × Option Duration) :=
  c.probes.map (probeEntry network) ++ schedulerEntry c.scheduler ++ httpEntry network c.http

/-- The components of the service. -/
def registry (c : Configuration) (network : Network) : Registry :=
  ⟨(c.entries network).zipIdx.map fun ((component, explicit), index) =>
    { component, instanceId := index, explicit }⟩

/-- The supervised application. -/
def app (c : Configuration) (network : Network) : Application where
  registry := c.registry network
  shutdownTimeout := c.shutdownTimeout
  trigger := .signals

/-- The result of the service: the component at fault, if any.  The signals are raised once it is
running; there is no result if it still runs at the given instant. -/
def outcome? (c : Configuration) (network : Network) (wallClock : Nat → Timestamp)
    (raised : List Signal) (horizon : Nat) : Option (Option Culprit) :=
  let app := c.app network
  let launched := (Run.initial app .fresh wallClock).supervise app 0 .interrupt
  let signals := raised.foldl Signals.raise launched.world.signals
  let run := { launched with world := { launched.world with signals } }.observe app horizon
  run.result?

end ServiceSupervisor.Configuration
