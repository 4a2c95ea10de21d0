import ServiceSupervisor.Failure
import ServiceSupervisor.SystemError

/-!
What a service can fail with.

* `ServiceError`: a component failed, or something around the components did;
* `ServiceError.message`: the report, which begins with what failed, a component apart;
* `ServiceError.ofFailure`, `ServiceError.ofSystemError`: errors that come from elsewhere.
-/

namespace ServiceSupervisor

/-- What a service can fail with. -/
inductive ServiceError
  /-- The entry routine of a component failed. -/
  | componentFailed (culprit : Culprit)
  /-- The termination signals could not be listened to. -/
  | signal (message : String)
  /-- The configuration is not usable. -/
  | config (message : String)
  /-- A file could not be read. -/
  | io (message : String)
  /-- Anything else. -/
  | internal (message : String)
deriving DecidableEq, Repr

namespace ServiceError

/-- The report of an error.  A failed component speaks for itself: its name is not part of the
report. -/
def message : ServiceError → String
  | componentFailed culprit => culprit.failure.message
  | signal message => "Signal handler error: " ++ message
  | config message => "Config error: " ++ message
  | io message => "IO error: " ++ message
  | internal message => "Internal error: " ++ message

/-- The component that failed, if one did. -/
def culprit? : ServiceError → Option Culprit
  | componentFailed culprit => some culprit
  | _ => none

/-- A failure that no component stands for, of which the outermost text is kept. -/
def ofFailure (failure : Failure) : ServiceError := .internal failure.message

/-- An error of the operating system. -/
def ofSystemError (error : SystemError) : ServiceError := .io error.message

end ServiceError

end ServiceSupervisor
