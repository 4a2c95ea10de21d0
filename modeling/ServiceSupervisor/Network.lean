import ServiceSupervisor.Duration
import ServiceSupervisor.SocketAddress
import ServiceSupervisor.SystemError

/-!
The network as a service sees it.

* `Answer`: what becomes of an attempt to connect;
* `Network`: what becomes of listening on an address, of connecting to one, and of looking up the
  name of a host;
* `Network.dial`: an attempt to connect to a target, which is an address or the name of a host
  with a number behind its last colon;
* `Network.isolated`: a machine without any connection.
-/

namespace ServiceSupervisor

/-- What becomes of an attempt to connect. -/
inductive Answer
  /-- The target accepts after a span. -/
  | accepts (after : Duration)
  /-- The attempt fails after a span, for a reason. -/
  | fails (after : Duration) (cause : String)
  /-- The target never answers. -/
  | silent
deriving DecidableEq, Repr, Inhabited

namespace Answer

/-- An attempt that fails at once. -/
def refused (cause : String) : Answer := .fails .zero cause

/-- The span after which the attempt is over. -/
def after? : Answer → Option Duration
  | accepts after | fails after _ => some after
  | silent => none

end Answer

/-- The network as a service sees it. -/
structure Network where
  /-- Why an address cannot be listened on, if it cannot. -/
  listenFault? : SocketAddress → Option SystemError
  /-- What becomes of an attempt to connect to an address. -/
  connect : SocketAddress → Answer
  /-- What becomes of an attempt to connect to a host that has a name. -/
  lookup : String → Nat → Answer

namespace Network

/-- A text at its last colon. -/
def splitAtLastColon (target : List Char) : Option (List Char × List Char) :=
  let reversed := target.reverse
  match reversed.dropWhile (· ≠ ':') with
  | [] => none
  | _ :: host => some (host.reverse, (reversed.takeWhile (· ≠ ':')).reverse)

/-- The number behind the last colon of a target; a plus sign may precede it. -/
def portNumber? (text : List Char) : Option Nat :=
  let digits :=
    match text with
    | '+' :: rest => rest
    | _ => text
  match SocketAddress.readNumber 10 Char.isDigit 0x10000 digits with
  | some (number, []) => some number
  | _ => none

/-- An attempt to connect to a target: an address, or else the name of a host with a number
behind its last colon. -/
def dial (n : Network) (target : String) : Answer :=
  match SocketAddress.parse? target with
  | some address => n.connect address
  | none =>
    match splitAtLastColon target.toList with
    | none => .refused "invalid socket address"
    | some (host, digits) =>
      match portNumber? digits with
      | none => .refused "invalid port value"
      | some number => n.lookup (String.ofList host) number

/-! ### A machine without any connection -/

/-- Whether an address belongs to the machine itself, or stands for all that do. -/
def isOwn : SocketAddress → Bool
  | .v4 octets _ => octets.head? = some 127 || octets = [0, 0, 0, 0]
  | .v6 groups _ _ => groups = List.replicate 8 0 || groups = List.replicate 7 0 ++ [1]

/-- Whether the name of a host needs no look-up: it is an address, or the machine itself. -/
def isKnown (host : String) : Bool :=
  host = "localhost" || (SocketAddress.parse? (host ++ ":0")).isSome
    || (SocketAddress.parse? ("[" ++ host ++ "]:0")).isSome

/-- A machine without any connection: it can listen on its own addresses, it reaches no address,
and it finds no name. -/
def isolated : Network where
  listenFault? address := if isOwn address then none else some .addressNotAvailable
  connect _ := .refused SystemError.networkUnreachable.message
  lookup host _ :=
    if isKnown host then .refused SystemError.networkUnreachable.message
    else
      .refused "failed to lookup address information: Temporary failure in name resolution"

end Network

end ServiceSupervisor
