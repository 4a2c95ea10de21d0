import ServiceSupervisor.Program

/-!
The command line program: it reads its arguments, its environment and the configuration files that
they may lead to, and prints what the program answers.

The service itself runs on a virtual clock and an isolated network, and the end of the standard
input stands for the termination signal.
-/

open ServiceSupervisor

/-- What a path leads to. -/
def readPath (path : String) : IO FileContent := do
  try
    let bytes ← IO.FS.readBinFile path
    return match String.fromUTF8? bytes with
      | some text => .text text
      | none => .binary
  catch error =>
    return match error with
      | .noFileOrDirectory .. => .missing
      | _ => .directory

/-- The variables of the environment that the program looks at. -/
def watched : List String :=
  ["APP_CONFIG", "LOG_LEVEL", "SHUTDOWN_TIMEOUT", "XDG_CONFIG_HOME", "HOME"]

/-- What the program sees of the machine: the variables, and the files that arguments or variables
name. -/
def observeMachine (arguments : List String) : IO Machine := do
  let mut environment : List (String × String) := []
  for variable_ in watched do
    if let some value ← IO.getEnv variable_ then
      environment := (variable_, value) :: environment
  let home := (environment.lookup "HOME").getD ""
  let atDefault := Configuration.defaultPath (environment.lookup "XDG_CONFIG_HOME") home
  let behindEquals := arguments.map fun argument => "=".intercalate ((argument.splitOn "=").drop 1)
  let mut files : List (String × FileContent) := []
  for path in atDefault :: (environment.map (·.2) ++ arguments ++ behindEquals) do
    files := (path, ← readPath path) :: files
  return {
    environment := fun name => environment.lookup name
    file := fun path => (files.lookup path).getD .missing
    network := .isolated
    wallClock := fun _ => 0 }

/-- The program. -/
def main (arguments : List String) : IO UInt32 := do
  let machine ← observeMachine arguments
  let result ←
    match Program.plan machine arguments with
    | .exit result => pure (some result)
    | .serve c =>
      discard (← IO.getStdin).getLine
      pure ((c.outcome? machine.network machine.wallClock [.terminate] 60000).map .ofResult)
  match result with
  | none => return 1
  | some result =>
    IO.print result.output
    if let some report := result.report then IO.eprintln report
    return UInt32.ofNat result.code
