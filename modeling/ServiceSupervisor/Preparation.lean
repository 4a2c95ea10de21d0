import ServiceSupervisor.Service

/-!
What lies between the settings and the run of the service.

* `Configuration.startupDelay`: the delay in front of the start, drawn from the range of the
  settings;
* `Configuration.assemble`: the components of the service, registered one after another;
* `Configuration.prepare`: both, one after the other.

The settings have been looked at before, but each step looks at them again by itself: the draw
panics on a range without numbers, and the address of the server is read a second time.
-/

namespace ServiceSupervisor

/-- Why a service does not come to its run. -/
inductive PreparationFault
  /-- A number is to be drawn from a range that has none. -/
  | emptyRange (least greatest : Nat)
  /-- A setting cannot be used. -/
  | unusable (fault : ConfigurationFault)
deriving DecidableEq, Repr

/-- One more component, a new instance, with its explicit deadline. -/
def Registry.enlist (r : Registry) (entry : Component × Option Duration) : Registry :=
  r.register { component := entry.1, instanceId := r.size, explicit := entry.2 }

namespace Configuration

/-- The delay in front of the start.  `draw` is what comes of a draw from a range, given its least
and its greatest number; nothing is drawn when there is no delay. -/
def startupDelay (draw : Nat → Nat → Nat) (c : Configuration) :
    Except PreparationFault Duration :=
  let (least, greatest) := c.jitter
  if greatest.millis = 0 then .ok .zero
  else if greatest.millis < least.millis then .error (.emptyRange least.millis greatest.millis)
  else .ok ⟨draw least.millis greatest.millis⟩

/-- The registry of the service, which is filled from the probes on: the dependencies first, so that
they are torn down last. -/
def assemble (network : Network) (c : Configuration) : Except PreparationFault Registry := do
  let probes := c.probes.foldl (fun registry s => registry.enlist (probeEntry network s)) .empty
  let scheduled :=
    if c.scheduler.enabled then
      probes.enlist (.ofJobs [heartbeat c.scheduler.heartbeatSchedule], c.scheduler.teardownTimeout)
    else probes
  if c.http.enabled then
    let address ← c.http.socketAddress.mapError .unusable
    let server : Http.Server := { address, requestTimeout := c.http.requestTimeout }
    return scheduled.enlist (server.component network, c.http.teardownTimeout)
  else return scheduled

/-- The delay in front of the start and the application that is run after it. -/
def prepare (draw : Nat → Nat → Nat) (network : Network) (c : Configuration) :
    Except PreparationFault (Duration × Application) := do
  let delay ← c.startupDelay draw
  let registry ← c.assemble network
  return (delay, { registry, shutdownTimeout := c.shutdownTimeout, trigger := .signals })

end Configuration

end ServiceSupervisor
