import ServiceSupervisor.Configuration
import ServiceSupervisor.Document

/-!
Reading a configuration from a document.

* `Dialect`: what the format of the document decides: how its numbers are written in reports, and
  whether a list may have more items than a record has fields;
* `DecodeError`: why a document is not a configuration;
* `RecordType`: how a kind of record is read: the names of its fields in the order of their
  declaration, and what the value of each does;
* `RecordType.read`: a record from a table, whose entries are laid over a start value one after
  another, or from a list, whose items stand for the fields in their order;
* `Configuration.decode`: the whole configuration, laid over the defaults.

Keys that name no field are passed over.  The first entry that cannot be read decides the error.
-/

namespace ServiceSupervisor

/-- What the format of a document decides. -/
structure Dialect where
  /-- How numbers are written in reports. -/
  floats : Binary64.FloatFormat
  /-- Whether a list that stands for a record may not have further items. -/
  exactLists : Bool

namespace Dialect

/-- The dialect of TOML documents. -/
def toml : Dialect := ⟨.positional, false⟩

/-- The dialect of JSON documents. -/
def json : Dialect := ⟨.scientific, true⟩

end Dialect

/-! ### Errors -/

/-- What a value was expected to be. -/
inductive Expected
  | unsigned
  | text
  | flag
  | sequence
  | record (name : String)
deriving DecidableEq, Repr

/-- The name of what was expected. -/
def Expected.name : Expected → String
  | unsigned => "u64"
  | text => "a string"
  | flag => "a boolean"
  | sequence => "a sequence"
  | record name => "struct " ++ name

/-- Why a document is not a configuration. -/
inductive DecodeError
  /-- A value of the wrong kind. -/
  | wrongKind (found : Value) (expected : Expected)
  /-- A negative number for a field that takes none. -/
  | negative (value : Int)
  /-- A record without a field that has no default. -/
  | missing (field : String)
  /-- A list that stands for a record and ends in front of a field that has no default. -/
  | tooShort (length : Nat) (record : String) (fields : Nat)
  /-- A list that stands for a record and has further items. -/
  | tooLong (length : Nat)
deriving Repr

/-- What a value is, in a report. -/
def Value.kind (d : Dialect) : Value → String
  | .null => "null"
  | .bool value => "boolean `" ++ (if value then "true" else "false") ++ "`"
  | .int value => "integer `" ++ toString value ++ "`"
  | .float value => "floating point `" ++ value.write d.floats ++ "`"
  | .text value => "string " ++ Text.quoted value
  | .list _ => "sequence"
  | .datetime | .table _ => "map"

/-- The report of an error. -/
def DecodeError.message (d : Dialect) : DecodeError → String
  | wrongKind found expected =>
    "invalid type: " ++ found.kind d ++ ", expected " ++ expected.name
  | negative value => "invalid value: integer `" ++ toString value ++ "`, expected u64"
  | missing field => "missing field `" ++ field ++ "`"
  | tooShort length record fields =>
    "invalid length " ++ toString length ++ ", expected struct " ++ record ++ " with "
      ++ toString fields ++ " elements"
  | tooLong length =>
    "invalid length " ++ toString length ++ ", expected fewer elements in array"

/-- A value, or why there is none. -/
abbrev Decoded (α : Type) := Except DecodeError α

/-! ### Scalars and lists -/

namespace Value

/-- A number that is not negative. -/
def asUnsigned : Value → Decoded Nat
  | .int value => if value < 0 then .error (.negative value) else .ok value.toNat
  | value => .error (.wrongKind value .unsigned)

/-- A text. -/
def asText : Value → Decoded String
  | .text value => .ok value
  | value => .error (.wrongKind value .text)

/-- A truth value. -/
def asFlag : Value → Decoded Bool
  | .bool value => .ok value
  | value => .error (.wrongKind value .flag)

/-- The items of a list. -/
def asList : Value → Decoded (List Value)
  | .list items => .ok items
  | value => .error (.wrongKind value .sequence)

/-- A value that may be absent. -/
def asOption {α : Type} (read : Value → Decoded α) : Value → Decoded (Option α)
  | .null => .ok none
  | value => (read value).map some

end Value

/-! ### Records -/

/-- How a kind of record is read. -/
structure RecordType (α : Type) where
  /-- The name of the kind. -/
  name : String
  /-- The names of the fields, in the order of their declaration. -/
  fields : List String
  /-- How many of the fields, from the first on, have no default. -/
  required : Nat := 0
  /-- What the value of a field does to the record. -/
  set : α → String → Value → Decoded α

namespace RecordType

/-- The entries laid over a record, one after another. -/
def overlay {α : Type} (r : RecordType α) (start : α) (entries : List (String × Value)) :
    Decoded α :=
  entries.foldlM (fun made entry => r.set made entry.1 entry.2) start

/-- A record from a value.  A date is a table whose one entry names no field. -/
def read {α : Type} (r : RecordType α) (d : Dialect) (start : α) : Value → Decoded α
  | .table entries => r.overlay start entries
  | .datetime => .ok start
  | .list items => do
    let made ← r.overlay start (r.fields.zip items)
    if items.length < r.required then
      throw (.tooShort items.length r.name r.fields.length)
    if d.exactLists ∧ r.fields.length < items.length then throw (.tooLong items.length)
    return made
  | value => .error (.wrongKind value (.record r.name))

end RecordType

/-! ### The records of a configuration -/

/-- The settings of the HTTP server. -/
def HttpSettings.record : RecordType HttpSettings where
  name := "HttpConfig"
  fields := ["enabled", "address", "request_timeout_secs", "teardown_timeout_secs"]
  set s
    | "enabled", value => return { s with enabled := ← value.asFlag }
    | "address", value => return { s with address := ← value.asText }
    | "request_timeout_secs", value => return { s with requestTimeoutSecs := ← value.asUnsigned }
    | "teardown_timeout_secs", value =>
      return { s with teardownTimeoutSecs := ← value.asOption Value.asUnsigned }
    | _, _ => return s

/-- The settings of the scheduler. -/
def SchedulerSettings.record : RecordType SchedulerSettings where
  name := "SchedulerConfig"
  fields := ["enabled", "heartbeat_schedule", "teardown_timeout_secs"]
  set s
    | "enabled", value => return { s with enabled := ← value.asFlag }
    | "heartbeat_schedule", value => return { s with heartbeatSchedule := ← value.asText }
    | "teardown_timeout_secs", value =>
      return { s with teardownTimeoutSecs := ← value.asOption Value.asUnsigned }
    | _, _ => return s

/-- The settings of a probe as far as they have been read. -/
structure ProbeDraft where
  /-- The name. -/
  name : Option String := none
  /-- The address. -/
  address : Option String := none
  /-- The time that a connection attempt may take, in milliseconds. -/
  connectTimeoutMs : Nat := 5000
  /-- The teardown deadline, in seconds. -/
  teardownTimeoutSecs : Option Nat := none

namespace ProbeDraft

/-- The settings of a probe as far as they have been read. -/
def record : RecordType ProbeDraft where
  name := "ProbeConfig"
  fields := ["name", "address", "connect_timeout_ms", "teardown_timeout_secs"]
  required := 2
  set s
    | "name", value => return { s with name := some (← value.asText) }
    | "address", value => return { s with address := some (← value.asText) }
    | "connect_timeout_ms", value => return { s with connectTimeoutMs := ← value.asUnsigned }
    | "teardown_timeout_secs", value =>
      return { s with teardownTimeoutSecs := ← value.asOption Value.asUnsigned }
    | _, _ => return s

/-- The settings, if the two fields without a default have been read. -/
def finish (s : ProbeDraft) : Decoded ProbeSettings :=
  match s.name, s.address with
  | some name, some address =>
    .ok { name, address, connectTimeoutMs := s.connectTimeoutMs,
          teardownTimeoutSecs := s.teardownTimeoutSecs }
  | none, _ => .error (.missing "name")
  | _, none => .error (.missing "address")

end ProbeDraft

/-- The settings of a probe. -/
def ProbeSettings.decode (d : Dialect) (value : Value) : Decoded ProbeSettings := do
  (← ProbeDraft.record.read d {} value).finish

namespace Configuration

/-- The settings of a service. -/
def record (d : Dialect) : RecordType Configuration where
  name := "AppConfig"
  fields := ["log_level", "shutdown_timeout_secs", "startup_jitter_min_ms",
    "startup_jitter_max_ms", "http", "scheduler", "probes"]
  set c
    | "log_level", value => return { c with logLevel := ← value.asText }
    | "shutdown_timeout_secs", value =>
      return { c with shutdownTimeoutSecs := ← value.asUnsigned }
    | "startup_jitter_min_ms", value => return { c with startupJitterMinMs := ← value.asUnsigned }
    | "startup_jitter_max_ms", value => return { c with startupJitterMaxMs := ← value.asUnsigned }
    | "http", value => return { c with http := ← HttpSettings.record.read d {} value }
    | "scheduler", value =>
      return { c with scheduler := ← SchedulerSettings.record.read d {} value }
    | "probes", value =>
      return { c with probes := ← (← value.asList).mapM (ProbeSettings.decode d) }
    | _, _ => return c

/-- The configuration that a document holds: its entries laid over the defaults. -/
def decode (d : Dialect) (document : Value) : Decoded Configuration :=
  (record d).read d {} document

end Configuration

end ServiceSupervisor
