import ServiceSupervisor.Configuration.Decode
import ServiceSupervisor.Toml

/-!
Configuration files.

* `FileContent`: what a path leads to;
* `Configuration.ofToml`: the configuration that a TOML text holds;
* `Configuration.load`: the configuration of a file, which must be usable;
* `Configuration.resolve`: the file that is named, else the one at the default path, else the
  defaults.
-/

namespace ServiceSupervisor

/-- What a path leads to. -/
inductive FileContent
  /-- Nothing. -/
  | missing
  /-- A directory. -/
  | directory
  /-- A file whose bytes are no text. -/
  | binary
  /-- A file with a text. -/
  | text (content : String)
deriving DecidableEq, Repr

/-- The text of a file. -/
def FileContent.read : FileContent → Except ServiceError String
  | missing => .error (.ofSystemError .fileNotFound)
  | directory => .error (.ofSystemError .isDirectory)
  | binary => .error (.io "stream did not contain valid UTF-8")
  | text content => .ok content

namespace Configuration

/-- The configuration that a TOML text holds, usable or not. -/
def ofToml (text : String) : Except ServiceError Configuration :=
  match Toml.parse? text with
  | none => .error (.config "TOML parse error")
  | some document =>
    (decode .toml document).mapError fun error => .config (error.message .toml)

/-- The configuration of a file, which must be usable. -/
def load (file : FileContent) : Except ServiceError Configuration := do
  let c ← ofToml (← file.read)
  c.validate.mapError ConfigurationFault.error
  return c

/-- The configuration of the file that is named, else of the file at the default path if there is
anything, else the defaults. -/
def resolve (named : Option FileContent) (atDefault : FileContent) :
    Except ServiceError Configuration :=
  match named, atDefault with
  | some file, _ => load file
  | none, .missing => .ok {}
  | none, file => load file

/-- The default path: under the directory for configuration files if its path is absolute, else
under `.config` in the home directory. -/
def defaultPath (configHome : Option String) (home : String) : String :=
  let directory :=
    match configHome with
    | some path => if path.startsWith "/" then path else home ++ "/.config"
    | none => home ++ "/.config"
  directory ++ "/app-lifecycle/config.toml"

end Configuration

end ServiceSupervisor
