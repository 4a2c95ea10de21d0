import ServiceSupervisor.Startup
import ServiceSupervisor.Teardown

/-!
Log lines, as views of the trace.

* `LogLine`: a line with its instant, level, span, message and fields;
* `Record.supervisorLine?`: what the supervisor and the registration log;
* `Record.listenerLine?`: what is logged about listeners for termination signals;
* `Record.taskLine?`: what the tasks of the entry routines log;
* `JobNote.line`: what the recurring jobs log.
-/

namespace ServiceSupervisor

/-- How grave a line is. -/
inductive Level
  | debug | info | warn | error
deriving DecidableEq, Repr, Inhabited

/-- The name of a level. -/
def Level.name : Level → String
  | debug => "DEBUG"
  | info => "INFO"
  | warn => "WARN"
  | error => "ERROR"

/-- The value of a field. -/
inductive FieldValue
  | text (value : String)
  | number (value : Nat)
deriving DecidableEq, Repr, Inhabited

/-- A log line. -/
structure LogLine where
  /-- The instant, in milliseconds. -/
  time : Nat
  /-- How grave it is. -/
  level : Level
  /-- The span in which it is logged. -/
  span : Option String := none
  /-- The message. -/
  message : String
  /-- The fields. -/
  fields : List (String × FieldValue)
deriving DecidableEq, Repr, Inhabited

namespace LogLine

/-- The text of a field, if the line has it. -/
def text? (line : LogLine) (field : String) : Option String :=
  match line.fields.lookup field with
  | some (.text value) => some value
  | _ => none

end LogLine

/-- The explicit deadline of a registration, as it is logged. -/
def describeExplicit : Option Duration → String
  | none => "None"
  | some deadline => "Some(" ++ deadline.compact ++ ")"

/-- The line that a failed teardown gets, if any. -/
def Outcome.fault? (outcome : Outcome) (name : String) (deadline : Duration) :
    Option (Level × String × List (String × FieldValue)) :=
  match outcome with
  | .completed => none
  | .failed failure =>
    some (.error, "Stop error", [("component", .text name), ("error", .text failure.message)])
  | .panicked payload =>
    some (.error, "Stop panicked",
      [("component", .text name), ("error", .text (describePanic payload))])
  | .timedOut =>
    some (.warn, "Stop timed out",
      [("component", .text name), ("timeout_ms", .number deadline.millis64)])

/-- The level and message of a reported failure. -/
def Lateness.line : Lateness → Level × String
  | beforeShutdown => (.error, "Component error before shutdown")
  | whileDraining => (.error, "Component failed while draining")
  | afterRequest => (.warn, "Component failed after shutdown was requested")

namespace Record

/-- The registration's and the supervisor's line about an event; the supervisor logs in `span`. -/
def supervisorLine? (registry : Registry) (span : Option String) (r : Record) : Option LogLine :=
  match r.event with
  | .registering name explicit =>
    some { time := r.time, level := .debug, message := "Registering component"
           fields := [("name", .text name),
             ("teardown_deadline", .text (describeExplicit explicit))] }
  | .launched components =>
    some { time := r.time, level := .info, span, message := "Application running"
           fields := [("components", .number components)] }
  | .signalObserved signal =>
    some { time := r.time, level := .info, span, message := "Termination signal observed"
           fields := [("signal", .text signal.name)] }
  | .shutdownRequested =>
    some { time := r.time, level := .info, span, message := "Shutdown signal received"
           fields := [] }
  | .failureReported lateness culprit =>
    let (level, message) := lateness.line
    some { time := r.time, level, span, message
           fields := [("component", .text culprit.component),
             ("error", .text culprit.failure.message)] }
  | .teardownSpawned index deadline =>
    some { time := r.time, level := .info, span, message := "Stopping component"
           fields := [("component", .text (registry.nameAt index)),
             ("timeout_ms", .number deadline.millis64)] }
  | .teardownReported index deadline outcome =>
    (outcome.fault? (registry.nameAt index) deadline).map fun (level, message, fields) =>
      { time := r.time, level, span, message, fields }
  | .finished clean total =>
    some { time := r.time, level := .info, span, message := "Application stopped"
           fields := [("clean", .number clean), ("total", .number total)] }
  | _ => none

/-- The line about new listeners for termination signals. -/
def listenerLine? (r : Record) : Option LogLine :=
  match r.event with
  | .listening live =>
    some { time := r.time, level := .debug, message := "Termination listeners installed"
           fields := [("live", .number live)] }
  | _ => none

/-- The line of an entry routine's task about an event, with the place of its registration. -/
def taskLine? (registry : Registry) (r : Record) : Option (Nat × LogLine) :=
  match r.event with
  | .entrySpawned index =>
    some (index, { time := r.time, level := .info, message := "Starting component"
                   fields := [("component", .text (registry.nameAt index)),
                     ("index", .number index)] })
  | .exitReported index ending =>
    let own : List (String × FieldValue) :=
      [("component", .text (registry.nameAt index)), ("index", .number index)]
    match ending.failure? with
    | none =>
      some (index, { time := r.time, level := .debug, message := "Component returned"
                     fields := own })
    | some failure =>
      some (index, { time := r.time, level := .error, message := "Component failed"
                     fields := own ++ [("error", .text failure.message)] })
  | _ => none

end Record

namespace JobNote

/-- The line of a note about recurring jobs. -/
def line (time : Nat) : JobNote → LogLine
  | accepted job expression =>
    { time, level := .info, message := "Job registered"
      fields := [("job", .text job), ("schedule", .text expression)] }
  | skipped job expression =>
    { time, level := .warn, message := "Failed to register job, skipping"
      fields := [("job", .text job), ("schedule", .text expression),
        ("error", .text Schedule.invalidExpression)] }
  | started jobs =>
    { time, level := .debug, message := "Scheduler started", fields := [("jobs", .number jobs)] }
  | cancelled =>
    { time, level := .debug, message := "Scheduler component context cancelled", fields := [] }
  | stopped => { time, level := .debug, message := "Scheduler stopped", fields := [] }
  | begun _ job =>
    { time, level := .info, message := "Job started", fields := [("job", .text job)] }
  | completed job =>
    { time, level := .info, message := "Job completed successfully"
      fields := [("job", .text job)] }
  | failed job error =>
    { time, level := .error, message := "Job execution failed"
      fields := [("job", .text job), ("error", .text error)] }
  | exhausted job =>
    { time, level := .info, message := "Job schedule has no further fire times"
      fields := [("job", .text job)] }

end JobNote

/-- The line about recurring jobs in a record, if it is one. -/
def Record.jobLine? (r : Record) : Option LogLine :=
  match r.event with
  | .jobNoted _ note | .noted _ _ (.jobs note) => some (note.line r.time)
  | _ => none

/-- The line of a note about a probed dependency, if it is logged. -/
def ProbeNote.line? (time : Nat) : ProbeNote → Option LogLine
  | dialled _ => none
  | reachable probe target =>
    some { time, level := .info, message := "Dependency reachable"
           fields := [("component", .text probe), ("target", .text target)] }
  | stopped probe =>
    some { time, level := .debug, message := "Probe stopped"
           fields := [("component", .text probe)] }

/-- The line about a probed dependency in a record, if it is one. -/
def Record.probeLine? (r : Record) : Option LogLine :=
  match r.event with
  | .noted _ _ (.probe note) => note.line? r.time
  | _ => none

end ServiceSupervisor
