/-!
What a panic carries.

* `Payload`: a text, some other value, or a value whose disposal panics again;
* `Payload.text?`, `Payload.residue?`: what a report can say of it, and what is left when it is
  disposed of.

Whoever catches a panic owns its payload and disposes of it in the end.  Most payloads go quietly.
The disposal of a volatile one is a panic of whoever disposes of it, with a payload of its own.
-/

namespace ServiceSupervisor

/-- What a panic carries. -/
inductive Payload
  /-- A text. -/
  | text (content : String)
  /-- A value that is no text. -/
  | value
  /-- A value that is no text, and whose disposal panics. -/
  | volatile (residue : Payload)
deriving DecidableEq, Repr, Inhabited

namespace Payload

/-- The text, if it is one. -/
def text? : Payload → Option String
  | text content => some content
  | value | volatile _ => none

/-- What the panic of its disposal carries, if the disposal panics. -/
def residue? : Payload → Option Payload
  | volatile residue => some residue
  | text _ | value => none

end Payload

end ServiceSupervisor
