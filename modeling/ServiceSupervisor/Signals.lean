/-!
Termination signals and their scoped listeners.

* `Signal`, `Disposition`: the two signals that end a service and what the process does on one;
* `Signals`: the dispositions of the process, the table of those to put back and the listeners;
* `Signals.install`, `Signals.drop`: a listener begins and ends to live.  While one lives the
  process hands both signals to the runtime; the end of the last one puts back what was there
  before the first;
* `Signals.raise`, `Signals.deliver`, `Signals.receive`: a raised signal waits until the runtime
  delivers it to every listener that lives then, and a listener reports each pending kind once.

The runtime installs its own handler once per process and never removes it, so the handler found
after the first installation is remembered and applied again on every later one.
-/

namespace ServiceSupervisor

/-- The signals that end a service. -/
inductive Signal
  | interrupt
  | terminate
deriving DecidableEq, Repr, Inhabited

namespace Signal

/-- The signals handled here, in the order in which they are looked at. -/
def all : List Signal := [interrupt, terminate]

/-- The name of a signal. -/
def name : Signal → String
  | interrupt => "SIGINT"
  | terminate => "SIGTERM"

/-- The signal with this name. -/
def ofName? (text : String) : Option Signal := all.find? (·.name = text)

end Signal

/-- What the process does on a signal. -/
inductive Disposition
  /-- The signal ends the process. -/
  | default
  /-- The signal has no effect. -/
  | ignored
  /-- A handler of the process's own runs; handlers are told apart by number. -/
  | foreign (handler : Nat)
  /-- The runtime's handler tells every listener. -/
  | listening
deriving DecidableEq, Repr, Inhabited

/-- One value for each signal. -/
structure PerSignal (α : Type) where
  /-- The value for the interrupt signal. -/
  interrupt : α
  /-- The value for the terminate signal. -/
  terminate : α
deriving DecidableEq, Repr, Inhabited

namespace PerSignal

variable {α : Type}

/-- The value for one signal. -/
def get (values : PerSignal α) : Signal → α
  | .interrupt => values.interrupt
  | .terminate => values.terminate

/-- The values with the one for a signal replaced. -/
def set (values : PerSignal α) (value : α) : Signal → PerSignal α
  | .interrupt => { values with interrupt := value }
  | .terminate => { values with terminate := value }

/-- The same value for both signals. -/
def both (value : α) : PerSignal α := ⟨value, value⟩

end PerSignal

/-- The table entry of one signal: what to put back, and what to apply while a listener lives. -/
structure Remembered where
  /-- The signal. -/
  signal : Signal
  /-- Its disposition before the first installation. -/
  inherited : Disposition
  /-- The disposition that the first installation left. -/
  listener : Option Disposition
deriving DecidableEq, Repr, Inhabited

/-- One listener: whether it lives, and which kinds are pending. -/
structure Listener where
  /-- Whether it has not been dropped. -/
  alive : Bool
  /-- The kinds delivered since they were last reported. -/
  pending : PerSignal Bool
deriving DecidableEq, Repr, Inhabited

/-- The signal state of a process. -/
structure Signals where
  /-- The dispositions in force. -/
  current : PerSignal Disposition
  /-- Whether the runtime has installed its handler. -/
  registered : PerSignal Bool
  /-- The number of listeners that count as alive. -/
  live : Nat
  /-- The dispositions to put back. -/
  table : List Remembered
  /-- All listeners ever installed, by number. -/
  listeners : List Listener
  /-- The kinds raised since the runtime last delivered them. -/
  undelivered : PerSignal Bool
deriving DecidableEq, Repr, Inhabited

namespace Signals

/-- A process that has not installed any listener. -/
def ofDispositions (inherited : PerSignal Disposition) : Signals where
  current := inherited
  registered := .both false
  live := 0
  table := []
  listeners := []
  undelivered := .both false

/-- The state of a process with default dispositions. -/
def fresh : Signals := ofDispositions (.both .default)

/-! ### Installing and dropping listeners -/

/-- The table with an entry for a signal, which keeps the disposition found when it was first
made. -/
def remember (s : Signals) (signal : Signal) : Signals :=
  if s.table.all (·.signal ≠ signal) then
    { s with table := s.table ++ [⟨signal, s.current.get signal, none⟩] }
  else s

/-- The runtime listens for a signal: its handler is put in place the first time only. -/
def register (s : Signals) (signal : Signal) : Signals :=
  if s.registered.get signal then s
  else { s with
    registered := s.registered.set true signal
    current := s.current.set .listening signal }

/-- One table entry is armed: what the first installation left is remembered, and later applied
again. -/
def armEntry (current : PerSignal Disposition) (entry : Remembered) :
    Remembered × PerSignal Disposition :=
  match entry.listener with
  | some disposition => (entry, current.set disposition entry.signal)
  | none => ({ entry with listener := some (current.get entry.signal) }, current)

/-- All table entries are armed, in order. -/
def armAll : List Remembered → PerSignal Disposition → List Remembered × PerSignal Disposition
  | [], current => ([], current)
  | entry :: entries, current =>
    let (armed, current) := armEntry current entry
    let (rest, current) := armAll entries current
    (armed :: rest, current)

/-- All table entries are armed and one more listener counts as alive. -/
def arm (s : Signals) : Signals :=
  let (table, current) := armAll s.table s.current
  { s with table, current, live := s.live + 1 }

/-- A new listener, with nothing pending; it gets the next number. -/
def install (s : Signals) : Signals :=
  let prepared := Signal.all.foldl register (Signal.all.foldl remember s)
  let armed := prepared.arm
  { armed with listeners := armed.listeners ++ [⟨true, .both false⟩] }

/-- The inherited dispositions are put back. -/
def restore (s : Signals) : Signals :=
  { s with current := s.table.foldl (fun current e => current.set e.inherited e.signal) s.current }

/-- One listener fewer counts as alive; after the last one the inherited dispositions are back. -/
def disarm (s : Signals) : Signals :=
  let s := { s with live := s.live - 1 }
  if s.live > 0 then s else s.restore

/-- Whether the listener with this number lives. -/
def isAlive (s : Signals) (number : Nat) : Bool := (s.listeners[number]?.map (·.alive)).getD false

/-- The listener with this number ends, if it lives. -/
def drop (s : Signals) (number : Nat) : Signals :=
  if s.isAlive number then
    { s.disarm with listeners := s.listeners.modify number ({ · with alive := false }) }
  else s

/-! ### Raising and receiving signals -/

/-- What a raised signal does to the process. -/
inductive Effect
  /-- It ends the process. -/
  | fatal
  /-- It has been raised, and every listener that lives has been told if the runtime listens. -/
  | raised
deriving DecidableEq, Repr, Inhabited

/-- The effect of a signal under the disposition in force. -/
def effect (s : Signals) (signal : Signal) : Effect :=
  match s.current.get signal with
  | .default => .fatal
  | _ => .raised

/-- A signal is raised: the runtime's handler keeps it for delivery. -/
def raise (s : Signals) (signal : Signal) : Signals :=
  match s.current.get signal with
  | .listening => { s with undelivered := s.undelivered.set true signal }
  | _ => s

/-- A listener that lives has a signal pending. -/
def notify (l : Listener) (signal : Signal) : Listener :=
  if l.alive then { l with pending := l.pending.set true signal } else l

/-- The kinds that wait for delivery. -/
def waiting (s : Signals) : List Signal := Signal.all.filter s.undelivered.get

/-- The runtime delivers what has been raised to every listener that lives. -/
def deliver (s : Signals) : Signals :=
  { s with
    undelivered := .both false
    listeners := s.listeners.map fun l => s.waiting.foldl notify l }

/-- The kinds that a listener has pending. -/
def pending (s : Signals) (number : Nat) : List Signal :=
  match s.listeners[number]? with
  | some l => if l.alive then Signal.all.filter l.pending.get else []
  | none => []

/-- A listener reports one pending kind. -/
def report (s : Signals) (number : Nat) (signal : Signal) : Signals :=
  { s with listeners :=
      s.listeners.modify number fun l => { l with pending := l.pending.set false signal } }

/-- A listener reports a pending kind, the first one unless the other is preferred; `none` if it
has to wait. -/
def receive (s : Signals) (number : Nat) (prefers : Signal) : Option (Signal × Signals) :=
  match s.pending number with
  | [] => none
  | first :: rest =>
    let signal := if rest.contains prefers then prefers else first
    some (signal, s.report number signal)

/-- A listener waits for a signal: when nothing is pending, what has been raised is delivered. -/
def await (s : Signals) (number : Nat) : Option (Signal × Signals) :=
  s.receive number .interrupt <|> s.deliver.receive number .interrupt

/-- A listener waits again and again, until it would have to go on waiting.  Each of the two kinds
can be pending and raised once more, so four reports are the most. -/
def awaitAll (number : Nat) : Nat → Signals → List Signal × Signals
  | 0, s => ([], s)
  | bound + 1, s =>
    match s.await number with
    | none => ([], s)
    | some (signal, s) =>
      let (signals, s) := awaitAll number bound s
      (signal :: signals, s)

end Signals

end ServiceSupervisor
