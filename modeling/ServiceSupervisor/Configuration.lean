import ServiceSupervisor.Duration
import ServiceSupervisor.ServiceError
import ServiceSupervisor.SocketAddress
import ServiceSupervisor.Schedule.Expression
import ServiceSupervisor.Json

/-!
The configuration of a service.

* `Configuration`: the settings, whose defaults are the defaults of the structures;
* `Configuration.validate`: the first reason, in a fixed order, why the settings are not usable;
* `Configuration.toJson`: the settings in the order of their declaration;
* `Configuration.jitter`: the range of the delay in front of the start.

Settings of a part that is not enabled are not looked at.
-/

namespace ServiceSupervisor

/-! ### Settings -/

/-- The settings of the HTTP server. -/
structure HttpSettings where
  /-- Whether there is a server. -/
  enabled : Bool := true
  /-- The address to listen on. -/
  address : String := "0.0.0.0:8080"
  /-- The time that a request may take, in seconds. -/
  requestTimeoutSecs : Nat := 30
  /-- The teardown deadline of the server, in seconds. -/
  teardownTimeoutSecs : Option Nat := none
deriving DecidableEq, Repr, Inhabited

/-- The settings of the scheduler. -/
structure SchedulerSettings where
  /-- Whether there is a scheduler. -/
  enabled : Bool := true
  /-- When the heartbeat fires: a schedule expression. -/
  heartbeatSchedule : String := "0 * * * * *"
  /-- The teardown deadline of the scheduler, in seconds. -/
  teardownTimeoutSecs : Option Nat := none
deriving DecidableEq, Repr, Inhabited

/-- The settings of a probe.  Name and address have no default. -/
structure ProbeSettings where
  /-- The name of the dependency. -/
  name : String
  /-- Its address. -/
  address : String
  /-- The time that a connection attempt may take, in milliseconds. -/
  connectTimeoutMs : Nat := 5000
  /-- The teardown deadline of the probe, in seconds. -/
  teardownTimeoutSecs : Option Nat := none
deriving DecidableEq, Repr, Inhabited

/-- The settings of a service. -/
structure Configuration where
  /-- What is logged. -/
  logLevel : String := "info"
  /-- The default of the teardown deadlines, in seconds. -/
  shutdownTimeoutSecs : Nat := 30
  /-- The least delay in front of the start, in milliseconds. -/
  startupJitterMinMs : Nat := 0
  /-- The greatest delay in front of the start, in milliseconds. -/
  startupJitterMaxMs : Nat := 0
  /-- The HTTP server. -/
  http : HttpSettings := {}
  /-- The scheduler. -/
  scheduler : SchedulerSettings := {}
  /-- The probes, in the order in which they start. -/
  probes : List ProbeSettings := []
deriving DecidableEq, Repr, Inhabited

/-! ### Validation -/

/-- Why settings are not usable. -/
inductive ConfigurationFault
  | noShutdownTimeout
  | jitterReversed (least greatest : Nat)
  | badAddress (address : String)
  | noRequestTimeout
  | badSchedule (expression : String)
  | probeIncomplete
deriving DecidableEq, Repr

namespace ConfigurationFault

/-- The report of a fault. -/
def message : ConfigurationFault → String
  | noShutdownTimeout => "shutdown_timeout_secs must be greater than zero"
  | jitterReversed least greatest =>
    "startup_jitter_min_ms (" ++ toString least ++ ") exceeds startup_jitter_max_ms ("
      ++ toString greatest ++ ")"
  | badAddress address =>
    "http.address " ++ Text.quoted address ++ ": invalid socket address syntax"
  | noRequestTimeout => "http.request_timeout_secs must be greater than zero"
  | badSchedule expression =>
    "scheduler.heartbeat_schedule " ++ Text.quoted expression ++ ": "
      ++ Schedule.invalidExpression
  | probeIncomplete => "probes need both a name and an address"

/-- The error that a service reports. -/
def error (fault : ConfigurationFault) : ServiceError := .config fault.message

end ConfigurationFault

namespace HttpSettings

/-- The address to listen on. -/
def socketAddress (s : HttpSettings) : Except ConfigurationFault SocketAddress :=
  match SocketAddress.parse? s.address with
  | some address => .ok address
  | none => .error (.badAddress s.address)

/-- The first fault of the settings. -/
def validate (s : HttpSettings) : Except ConfigurationFault Unit := do
  if s.enabled then
    discard s.socketAddress
    if s.requestTimeoutSecs = 0 then throw .noRequestTimeout

/-- The time that a request may take. -/
def requestTimeout (s : HttpSettings) : Duration := .ofSecs s.requestTimeoutSecs

/-- The teardown deadline of the server. -/
def teardownTimeout (s : HttpSettings) : Option Duration := s.teardownTimeoutSecs.map .ofSecs

/-- The settings in the order of their declaration. -/
def toJson (s : HttpSettings) : Json :=
  .obj [("enabled", .bool s.enabled), ("address", .str s.address),
    ("request_timeout_secs", .nat s.requestTimeoutSecs),
    ("teardown_timeout_secs", .ofOption (s.teardownTimeoutSecs.map .nat))]

end HttpSettings

namespace SchedulerSettings

/-- The first fault of the settings. -/
def validate (s : SchedulerSettings) : Except ConfigurationFault Unit := do
  if s.enabled ∧ (Schedule.parse? s.heartbeatSchedule).isNone then
    throw (.badSchedule s.heartbeatSchedule)

/-- The teardown deadline of the scheduler. -/
def teardownTimeout (s : SchedulerSettings) : Option Duration := s.teardownTimeoutSecs.map .ofSecs

/-- The settings in the order of their declaration. -/
def toJson (s : SchedulerSettings) : Json :=
  .obj [("enabled", .bool s.enabled), ("heartbeat_schedule", .str s.heartbeatSchedule),
    ("teardown_timeout_secs", .ofOption (s.teardownTimeoutSecs.map .nat))]

end SchedulerSettings

namespace ProbeSettings

/-- The first fault of the settings. -/
def validate (s : ProbeSettings) : Except ConfigurationFault Unit :=
  if s.name.isEmpty ∨ s.address.isEmpty then throw .probeIncomplete else .ok ()

/-- The time that a connection attempt may take. -/
def connectTimeout (s : ProbeSettings) : Duration := ⟨s.connectTimeoutMs⟩

/-- The teardown deadline of the probe. -/
def teardownTimeout (s : ProbeSettings) : Option Duration := s.teardownTimeoutSecs.map .ofSecs

/-- The settings in the order of their declaration. -/
def toJson (s : ProbeSettings) : Json :=
  .obj [("name", .str s.name), ("address", .str s.address),
    ("connect_timeout_ms", .nat s.connectTimeoutMs),
    ("teardown_timeout_secs", .ofOption (s.teardownTimeoutSecs.map .nat))]

end ProbeSettings

namespace Configuration

/-- The first fault of the settings. -/
def validate (c : Configuration) : Except ConfigurationFault Unit := do
  if c.shutdownTimeoutSecs = 0 then throw .noShutdownTimeout
  if c.startupJitterMaxMs < c.startupJitterMinMs then
    throw (.jitterReversed c.startupJitterMinMs c.startupJitterMaxMs)
  c.http.validate
  c.scheduler.validate
  c.probes.forM (·.validate)

/-- The default of the teardown deadlines. -/
def shutdownTimeout (c : Configuration) : Duration := .ofSecs c.shutdownTimeoutSecs

/-- The least and the greatest delay in front of the start.  There is none when the greatest is
zero, and a least delay beyond the greatest counts as the greatest. -/
def jitter (c : Configuration) : Duration × Duration :=
  (⟨min c.startupJitterMinMs c.startupJitterMaxMs⟩, ⟨c.startupJitterMaxMs⟩)

/-- The settings in the order of their declaration. -/
def toJson (c : Configuration) : Json :=
  .obj [("log_level", .str c.logLevel), ("shutdown_timeout_secs", .nat c.shutdownTimeoutSecs),
    ("startup_jitter_min_ms", .nat c.startupJitterMinMs),
    ("startup_jitter_max_ms", .nat c.startupJitterMaxMs), ("http", c.http.toJson),
    ("scheduler", c.scheduler.toJson), ("probes", .arr (c.probes.map (·.toJson)))]

end Configuration

end ServiceSupervisor
