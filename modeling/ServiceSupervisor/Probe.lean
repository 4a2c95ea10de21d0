import ServiceSupervisor.Component
import ServiceSupervisor.Network

/-!
Probes: components that check whether a dependency of the service can be reached.

* `Probe.entry`: the entry routine, given what becomes of its attempt to connect: it dials, fails
  if the attempt fails or takes too long, and else waits for its cancellation;
* `Probe.component`: the component of a probe on a network.

A probe that is cancelled already does not dial, and a cancellation that comes first hides a
failure.  The attempt may take as long as its timeout and no longer.
-/

namespace ServiceSupervisor

/-- A probe of a dependency. -/
structure Probe where
  /-- The name in every report. -/
  name : String
  /-- The target to dial. -/
  target : String
  /-- The time that an attempt to connect may take. -/
  connectTimeout : Duration
deriving DecidableEq, Repr

namespace Probe

/-- The failure of an attempt to connect. -/
def dialFailure (p : Probe) (cause : String) : Failure :=
  { root := "dial " ++ p.target ++ ": " ++ cause }

/-- Why an attempt took too long. -/
def timeoutCause (p : Probe) : String :=
  "timed out after " ++ toString p.connectTimeout.millis ++ "ms"

/-- A wait after which a routine goes on, unless it is cancelled before that; then it is over. -/
def unlessCancelled (span : Duration) (next : Routine) : Routine :=
  .sleepOrCancel span next .done

/-- What a probe does once its target has answered. -/
def stayUp (p : Probe) : Routine :=
  .note (.probe (.reachable p.name p.target)) (.awaitCancel .done)

/-- What a probe does while it waits for an answer. -/
def await (p : Probe) (answer : Answer) : Routine :=
  let late := unlessCancelled p.connectTimeout (.stop (.failed (p.dialFailure p.timeoutCause)))
  match answer with
  | .accepts after =>
    if after.millis ≤ p.connectTimeout.millis then unlessCancelled after p.stayUp else late
  | .fails after cause =>
    if after.millis ≤ p.connectTimeout.millis then
      unlessCancelled after (.stop (.failed (p.dialFailure cause)))
    else late
  | .silent => late

/-- The entry routine of a probe, given what becomes of its attempt to connect. -/
def entry (p : Probe) (answer : Answer) : Routine :=
  .ifCancelled .done (.note (.probe (.dialled p.target)) (p.await answer))

/-- The component of a probe on a network.  It advertises no teardown deadline and has nothing to
tear down. -/
def component (p : Probe) (network : Network) : Component where
  name := p.name
  entry := p.entry (network.dial p.target)
  teardown := fun _ => .note (.probe (.stopped p.name)) .done

end Probe

end ServiceSupervisor
