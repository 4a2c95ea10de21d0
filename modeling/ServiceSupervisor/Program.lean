import ServiceSupervisor.CommandLine
import ServiceSupervisor.Configuration.File
import ServiceSupervisor.Service

/-!
The program: from the arguments to the exit.

* `Machine`: what the program sees of the machine that it runs on;
* `Plan`: what it does once arguments and configuration have been read;
* `Program.plan`: the plan, or the exit that makes one unnecessary;
* `Program.run`: the exit of the whole program, with the service supervised on a virtual clock.

Options go over the configuration file, and what comes of both must be usable.
-/

namespace ServiceSupervisor

/-- What the program sees of the machine that it runs on. -/
structure Machine where
  /-- The variables of the environment. -/
  environment : String → Option String
  /-- What a path leads to. -/
  file : String → FileContent
  /-- The network. -/
  network : Network
  /-- What the wall clock shows at each instant. -/
  wallClock : Nat → Timestamp

/-- The exit of the program. -/
structure ProgramExit where
  /-- The exit code. -/
  code : Nat
  /-- What it has printed. -/
  output : String := ""
  /-- The report of an error. -/
  report : Option String := none
  /-- Whether the service has been shut down in an orderly way. -/
  shutdownComplete : Bool := false
deriving DecidableEq, Repr, Inhabited

namespace ProgramExit

/-- The exit after something has been printed. -/
def printed (output : String) : ProgramExit := { code := 0, output }

/-- The exit on arguments that cannot be understood. -/
def ofUsageError (error : CommandLine.UsageError) : ProgramExit :=
  { code := 2, report := some ("error: " ++ error.message) }

/-- The exit on an error. -/
def ofError (error : ServiceError) : ProgramExit :=
  { code := 1, report := some ("Error: " ++ error.message) }

/-- The exit on the result of the service. -/
def ofResult : Option Culprit → ProgramExit
  | none => { code := 0, shutdownComplete := true }
  | some culprit => ofError (.componentFailed culprit)

end ProgramExit

namespace Configuration

/-- The configuration with what the options say. -/
def withOptions (c : Configuration) (o : CommandLine.Options) : Configuration :=
  { c with
    logLevel := o.logLevel.getD c.logLevel
    shutdownTimeoutSecs := o.shutdownTimeout.getD c.shutdownTimeoutSecs }

/-- The configuration that options ask for, which must be usable. -/
def ofOptions (machine : Machine) (o : CommandLine.Options) :
    Except ServiceError Configuration := do
  let path := defaultPath (machine.environment "XDG_CONFIG_HOME")
    ((machine.environment "HOME").getD "")
  let c := (← resolve (o.config.map machine.file) (machine.file path)).withOptions o
  c.validate.mapError ConfigurationFault.error
  return c

end Configuration

/-- What the program does once arguments and configuration have been read. -/
inductive Plan
  /-- It exits. -/
  | exit (result : ProgramExit)
  /-- It runs the service. -/
  | serve (configuration : Configuration)
deriving Repr

namespace Program

/-- What the program does with options. -/
def planOptions (machine : Machine) (o : CommandLine.Options) : Plan :=
  match Configuration.ofOptions machine o with
  | .error error => .exit (.ofError error)
  | .ok c => if o.printConfig then .exit (.printed (c.toJson.pretty ++ "\n")) else .serve c

/-- What the program does with arguments. -/
def plan (machine : Machine) (arguments : List String) : Plan :=
  match CommandLine.Request.parse machine.environment arguments with
  | .error error => .exit (.ofUsageError error)
  | .ok .help => .exit (.printed (CommandLine.helpText machine.environment))
  | .ok (.run options) => planOptions machine options

/-- The exit of the program.  Signals are raised once the service runs; there is no exit if it
still runs at the given instant. -/
def run (machine : Machine) (arguments : List String) (raised : List Signal) (horizon : Nat) :
    Option ProgramExit :=
  match plan machine arguments with
  | .exit result => some result
  | .serve c => (c.outcome? machine.network machine.wallClock raised horizon).map .ofResult

end Program

end ServiceSupervisor
