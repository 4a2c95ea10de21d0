import ServiceSupervisor.Text.Reader
import ServiceSupervisor.Text.Quoted

/-!
Addresses of network services.

* `SocketAddress`: a host of version 4 or 6 with the number behind its last colon;
* `SocketAddress.parse?`: the address that a text denotes;
* `SocketAddress.render`: the shortest text of an address.
-/

namespace ServiceSupervisor

/-- The address of a network service. -/
inductive SocketAddress
  /-- A host of four octets. -/
  | v4 (octets : List Nat) (portNumber : Nat)
  /-- A host of eight groups of sixteen bits, with the scope in which it is meant. -/
  | v6 (groups : List Nat) (scope portNumber : Nat)
deriving DecidableEq, Repr

namespace SocketAddress

open Text (Reader readChar digitsValue isHexDigit hexDigits)

/-! ### Reading -/

/-- A number of one or more digits. -/
def readNumber (base : Nat) (isDigit : Char → Bool) (below : Nat) : Reader Nat := fun text =>
  let digits := text.takeWhile isDigit
  let value := digitsValue base digits
  if digits.isEmpty || below ≤ value then none else some (value, text.dropWhile isDigit)

/-- An octet: at most three digits, without a leading zero. -/
def readOctet : Reader Nat := fun text =>
  let digits := text.takeWhile Char.isDigit
  if 3 < digits.length || (digits.head? = some '0' && 1 < digits.length) then none
  else readNumber 10 Char.isDigit 256 text

/-- A host of four octets. -/
def readHost4 : Reader (List Nat) := fun text => do
  let (a, rest) ← readOctet text
  let rest ← readChar '.' rest
  let (b, rest) ← readOctet rest
  let rest ← readChar '.' rest
  let (c, rest) ← readOctet rest
  let rest ← readChar '.' rest
  let (d, rest) ← readOctet rest
  some ([a, b, c, d], rest)

/-- A group of at most four hexadecimal digits. -/
def readGroup : Reader Nat := fun text =>
  if 4 < (text.takeWhile isHexDigit).length then none
  else readNumber 16 isHexDigit 0x10000 text

/-- Octets in pairs. -/
def pairOctets : List Nat → List Nat
  | a :: b :: rest => (a * 256 + b) :: pairOctets rest
  | _ => []

/-- As many groups as there are, up to a limit, with colons between them.  A host of four octets
may stand for the last two groups; whether one does is the second result. -/
def readGroups : Nat → Bool → List Char → List Nat × Bool × List Char
  | 0, _, text => ([], false, text)
  | left + 1, first, text =>
    let start := if first then some text else readChar ':' text
    match (if 0 < left then start.bind readHost4 else none) with
    | some (octets, rest) => (pairOctets octets, true, rest)
    | none =>
      match start.bind readGroup with
      | none => ([], false, text)
      | some (group, rest) =>
        let (groups, embedded, rest) := readGroups left false rest
        (group :: groups, embedded, rest)

/-- A host of eight groups, where two colons stand for one or more groups of zeros. -/
def readHost6 : Reader (List Nat) := fun text => do
  let (front, embedded, rest) := readGroups 8 true text
  if front.length = 8 then some (front, rest)
  else if embedded then none
  else
    let rest ← readChar ':' rest
    let rest ← readChar ':' rest
    let (back, _, rest) := readGroups (7 - front.length) true rest
    some (front ++ List.replicate (8 - front.length - back.length) 0 ++ back, rest)

/-- The number behind the last colon. -/
def readPortNumber : Reader Nat := fun text => do
  readNumber 10 Char.isDigit 0x10000 (← readChar ':' text)

/-- The scope of a host, after a percent sign; without one it is zero. -/
def readScope (text : List Char) : Nat × List Char :=
  (((readChar '%' text).bind (readNumber 10 Char.isDigit 0x100000000))).getD (0, text)

/-- An address of either kind. -/
def read : Reader SocketAddress
  | '[' :: text => do
    let (groups, rest) ← readHost6 text
    let (scope, rest) := readScope rest
    let rest ← readChar ']' rest
    let (number, rest) ← readPortNumber rest
    some (.v6 groups scope number, rest)
  | text => do
    let (octets, rest) ← readHost4 text
    let (number, rest) ← readPortNumber rest
    some (.v4 octets number, rest)

/-- The address that a text denotes. -/
def parse? (text : String) : Option SocketAddress := do
  let (address, rest) ← read text.toList
  if rest.isEmpty then some address else none

/-! ### Writing -/

/-- The text of a host of four octets. -/
def renderOctets (octets : List Nat) : String := ".".intercalate (octets.map toString)

/-- The text of groups, with colons between them. -/
def renderGroups (groups : List Nat) : String := ":".intercalate (groups.map hexDigits)

/-- The number of zeros at the front. -/
def leadingZeros (groups : List Nat) : Nat := (groups.takeWhile (· = 0)).length

/-- The first of the longest runs of zeros: its start and its length. -/
def longestZeros (groups : List Nat) : Nat × Nat :=
  (List.range groups.length).foldl
    (fun best start =>
      let length := leadingZeros (groups.drop start)
      if best.2 < length then (start, length) else best)
    (0, 0)

/-- The text of a host of eight groups.  Two colons stand for the longest run of at least two
groups of zeros; a host that stands for four octets shows them. -/
def renderHost6 (groups : List Nat) : String :=
  match groups with
  | [0, 0, 0, 0, 0, 0xffff, a, b] =>
    "::ffff:" ++ renderOctets [a / 256, a % 256, b / 256, b % 256]
  | _ =>
    let (start, length) := longestZeros groups
    if length < 2 then renderGroups groups
    else renderGroups (groups.take start) ++ "::" ++ renderGroups (groups.drop (start + length))

/-- The text of an address. -/
def render : SocketAddress → String
  | v4 octets number => renderOctets octets ++ ":" ++ toString number
  | v6 groups scope number =>
    let scope := if scope = 0 then "" else "%" ++ toString scope
    "[" ++ renderHost6 groups ++ scope ++ "]:" ++ toString number

end SocketAddress

end ServiceSupervisor
