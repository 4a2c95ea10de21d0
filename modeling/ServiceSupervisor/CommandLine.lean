import ServiceSupervisor.Configuration

/-!
The command line of the service.

* `Setting`, `Flag`: the options that take a value and those that do not;
* `Options`: what the arguments and the environment ask for;
* `UsageError`: why arguments cannot be understood;
* `Request.parse`: what a list of arguments asks for: a run with options, or the help;
* `helpText`: what is printed then.

An option that has been given waits for its value, which is looked at only when the next option
begins or the arguments end: an argument that is out of place is reported before a value that
cannot be read.  What no argument gives is taken from the environment.
-/

namespace ServiceSupervisor.CommandLine

/-! ### Options -/

/-- The options that take a value. -/
inductive Setting
  | config | logLevel | shutdownTimeout
deriving DecidableEq, Repr, Inhabited

namespace Setting

/-- All of them, in the order of the help. -/
def all : List Setting := [config, logLevel, shutdownTimeout]

/-- The name on the command line, without its hyphens. -/
def name : Setting → String
  | config => "config"
  | logLevel => "log-level"
  | shutdownTimeout => "shutdown-timeout"

/-- The variable of the environment, which also names the value in the help. -/
def variable_ : Setting → String
  | config => "APP_CONFIG"
  | logLevel => "LOG_LEVEL"
  | shutdownTimeout => "SHUTDOWN_TIMEOUT"

/-- The name of the value. -/
def valueName : Setting → String
  | config => "CONFIG"
  | logLevel => "LOG_LEVEL"
  | shutdownTimeout => "SHUTDOWN_TIMEOUT"

/-- What the option is for. -/
def help : Setting → String
  | config => "TOML config file. Defaults to the per-user config dir if present"
  | logLevel => ""
  | shutdownTimeout => "Default per-component teardown budget in seconds"

/-- The form of the option in reports and in the help. -/
def usage (s : Setting) : String := "--" ++ s.name ++ " <" ++ s.valueName ++ ">"

end Setting

/-- The options that take no value. -/
inductive Flag
  | printConfig | help
deriving DecidableEq, Repr, Inhabited

namespace Flag

/-- All of them, in the order of the help. -/
def all : List Flag := [printConfig, help]

/-- The name on the command line, without its hyphens. -/
def name : Flag → String
  | printConfig => "print-config"
  | help => "help"

/-- The form of the option in reports. -/
def usage (f : Flag) : String := "--" ++ f.name

end Flag

/-- What the arguments and the environment ask for. -/
structure Options where
  /-- The configuration file. -/
  config : Option String := none
  /-- What is logged. -/
  logLevel : Option String := none
  /-- The default of the teardown deadlines, in seconds. -/
  shutdownTimeout : Option Nat := none
  /-- Whether the configuration is printed and nothing else is done. -/
  printConfig : Bool := false
deriving DecidableEq, Repr, Inhabited

/-! ### Errors -/

/-- Why a text is not a number of 64 bits without a sign. -/
inductive NumberFault
  | empty | badDigit | tooLarge
deriving DecidableEq, Repr

/-- The report of such a fault. -/
def NumberFault.message : NumberFault → String
  | empty => "cannot parse integer from empty string"
  | badDigit => "invalid digit found in string"
  | tooLarge => "number too large to fit in target type"

/-- Why arguments cannot be understood. -/
inductive UsageError
  /-- An argument that is out of place. -/
  | unexpectedArgument (argument : String)
  /-- An option without its value. -/
  | valueMissing (setting : Setting)
  /-- A value that is not a number. -/
  | badNumber (setting : Setting) (value : String) (fault : NumberFault)
  /-- A value for an option that takes none. -/
  | unexpectedValue (flag : Flag) (value : String)
  /-- An option that is given twice; its form. -/
  | repeated (usage : String)
deriving DecidableEq, Repr

/-- The report of an error. -/
def UsageError.message : UsageError → String
  | unexpectedArgument argument => "unexpected argument '" ++ argument ++ "' found"
  | valueMissing setting =>
    "a value is required for '" ++ setting.usage ++ "' but none was supplied"
  | badNumber setting value fault =>
    "invalid value '" ++ value ++ "' for '" ++ setting.usage ++ "': " ++ fault.message
  | unexpectedValue flag value =>
    "unexpected value '" ++ value ++ "' for '" ++ flag.usage ++ "' found; no more were expected"
  | repeated usage => "the argument '" ++ usage ++ "' cannot be used multiple times"

/-! ### Values -/

/-- The number that digits stand for, in front of which the given one has been read; the first
fault from the left is reported. -/
def readDigits : Nat → List Char → Except NumberFault Nat
  | value, [] => .ok value
  | value, c :: rest =>
    if !c.isDigit then .error .badDigit
    else
      let value := value * 10 + (c.toNat - '0'.toNat)
      if value < 0x10000000000000000 then readDigits value rest else .error .tooLarge

/-- The number that a text stands for; a plus sign may precede it. -/
def readNumber (text : String) : Except NumberFault Nat :=
  match text.toList with
  | [] => .error .empty
  | ['+'] => .error .badDigit
  | '+' :: digits => readDigits 0 digits
  | digits => readDigits 0 digits

/-- The options with a value for a setting.  A file has a name that is not empty. -/
def Options.put (o : Options) (setting : Setting) (value : String) : Except UsageError Options :=
  match setting with
  | .config =>
    if value.isEmpty then .error (.valueMissing setting) else .ok { o with config := some value }
  | .logLevel => .ok { o with logLevel := some value }
  | .shutdownTimeout =>
    match readNumber value with
    | .ok seconds => .ok { o with shutdownTimeout := some seconds }
    | .error fault => .error (.badNumber setting value fault)

/-- Whether a setting has a value. -/
def Options.has (o : Options) : Setting → Bool
  | .config => o.config.isSome
  | .logLevel => o.logLevel.isSome
  | .shutdownTimeout => o.shutdownTimeout.isSome

/-! ### Arguments -/

/-- The arguments read so far. -/
structure Draft where
  /-- The options whose values have been looked at. -/
  options : Options := {}
  /-- The option that waits for its value, or for the end of it. -/
  pending : Option (Setting × Option String) := none

namespace Draft

/-- A setting gets its value, or the report that it has none. -/
def assign (d : Draft) (setting : Setting) (value : Option String) : Except UsageError Draft :=
  match value with
  | none => .error (.valueMissing setting)
  | some value =>
    if d.options.has setting then .error (.repeated setting.usage)
    else do return { d with options := ← d.options.put setting value }

/-- The value of the option that waits for it is looked at. -/
def settle (d : Draft) : Except UsageError Draft :=
  match d.pending with
  | none => .ok d
  | some (setting, value) => { d with pending := none }.assign setting value

/-- The configuration is to be printed. -/
def print (d : Draft) : Except UsageError Draft :=
  if d.options.printConfig then .error (.repeated Flag.printConfig.usage)
  else .ok { d with options := { d.options with printConfig := true } }

end Draft

/-- What an argument is. -/
inductive Argument
  /-- The end of all options. -/
  | separator
  /-- A name behind two hyphens, and the value behind its first equals sign if there is one. -/
  | long (name : String) (value : Option String)
  /-- The first letter behind one hyphen. -/
  | short (letter : Char)
  /-- Anything else. -/
  | plain (text : String)
deriving DecidableEq, Repr

/-- What an argument is. -/
def Argument.ofText (text : String) : Argument :=
  match text.toList with
  | ['-', '-'] => separator
  | '-' :: '-' :: rest =>
    let name := rest.takeWhile (· ≠ '=')
    match rest.dropWhile (· ≠ '=') with
    | _ :: value => long (String.ofList name) (some (String.ofList value))
    | [] => long (String.ofList name) none
  | '-' :: letter :: _ => short letter
  | _ => plain text

/-- What a command line asks for. -/
inductive Request
  /-- The help. -/
  | help
  /-- The service, with options. -/
  | run (options : Options)
deriving DecidableEq, Repr

/-- The draft after all arguments; `none` if they ask for help. -/
def readArguments : Draft → List String → Except UsageError (Option Draft)
  | d, [] => return some (← d.settle)
  | d, text :: rest =>
    match Argument.ofText text with
    | .separator =>
      match rest with
      | [] => return some (← d.settle)
      | text :: _ => .error (.unexpectedArgument text)
    | .short letter =>
      if letter = 'h' then do
        discard d.settle
        return none
      else .error (.unexpectedArgument (String.ofList ['-', letter]))
    | .plain text =>
      match d.pending with
      | some (setting, none) => readArguments { d with pending := some (setting, some text) } rest
      | _ => .error (.unexpectedArgument text)
    | .long name value =>
      match Setting.all.find? (·.name = name), Flag.all.find? (·.name = name), value with
      | some setting, _, some value => do
        readArguments (← (← d.settle).assign setting (some value)) rest
      | some setting, _, none => do
        readArguments { ← d.settle with pending := some (setting, none) } rest
      | none, some flag, some value => .error (.unexpectedValue flag value)
      | none, some .help, none => do
        discard d.settle
        return none
      | none, some .printConfig, none => do readArguments (← (← d.settle).print) rest
      | none, none, _ => .error (.unexpectedArgument ("--" ++ name))

/-- The options with the values of the environment where no argument gives one. -/
def Options.fill (environment : String → Option String) (o : Options) :
    Except UsageError Options :=
  Setting.all.foldlM
    (fun o setting =>
      match environment setting.variable_ with
      | some value => if o.has setting then .ok o else o.put setting value
      | none => .ok o)
    o

/-- What a list of arguments and an environment ask for. -/
def Request.parse (environment : String → Option String) (arguments : List String) :
    Except UsageError Request := do
  match ← readArguments {} arguments with
  | none => return .help
  | some d => return .run (← d.options.fill environment)

/-! ### Help -/

/-- The width of a line of the help. -/
def lineWidth : Nat := 100

/-- The indentation of what an option is for. -/
def helpIndent : Nat := 10

/-- Words put on lines: each goes on the last line if it fits there. -/
def fillLines (width : Nat) (words : List String) : List String :=
  let lines := words.foldl
    (fun (lines : List String) word =>
      match lines with
      | [] => [word]
      | line :: before =>
        if line.length + 1 + word.length ≤ width then (line ++ " " ++ word) :: before
        else word :: line :: before)
    []
  lines.reverse

/-- A text in lines of the help, each indented. -/
def helpLines (text : String) : String :=
  let indent := String.ofList (List.replicate helpIndent ' ')
  let lines := fillLines (lineWidth - helpIndent) (text.splitOn " ")
  String.join (lines.map fun line => indent ++ line ++ "\n")

/-- The lines of a setting, with what its variable holds. -/
def settingHelp (environment : String → Option String) (s : Setting) : String :=
  let value := (environment s.variable_).getD ""
  let about := "[env: " ++ s.variable_ ++ "=" ++ value ++ "]"
  "      " ++ s.usage ++ "\n"
    ++ helpLines (if s.help.isEmpty then about else s.help ++ " " ++ about)

/-- What is printed on a request for help. -/
def helpText (environment : String → Option String) : String :=
  "Runs a set of service components under one lifecycle supervisor\n\n"
    ++ "Usage: app-lifecycle [OPTIONS]\n\nOptions:\n"
    ++ String.join (Setting.all.map (settingHelp environment))
    ++ "      --print-config\n" ++ helpLines ""
    ++ "  -h, --help\n" ++ helpLines "Print help"

end ServiceSupervisor.CommandLine
