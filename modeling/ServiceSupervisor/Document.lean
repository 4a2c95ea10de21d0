import ServiceSupervisor.Binary64.Shortest
import ServiceSupervisor.Json

/-!
Documents: the values that a configuration is read from, whatever format they were written in.

* `Value`: a tree of tables, lists and scalars; the entries of a table keep their order;
* `Value.ofJson`: the tree of a JSON value.
-/

namespace ServiceSupervisor

/-- A value of a document. -/
inductive Value
  /-- The absence of a value, written out. -/
  | null
  | bool (value : Bool)
  | int (value : Int)
  | float (value : Binary64)
  | text (value : String)
  /-- A date, a time or both; no configuration key takes one, so only its kind is kept. -/
  | datetime
  | list (items : List Value)
  | table (entries : List (String × Value))
deriving Repr, Inhabited

namespace Value

mutual

/-- The tree of a JSON value. -/
def ofJson : Json → Value
  | .null => null
  | .bool value => bool value
  | .int value => int value
  | .str value => text value
  | .arr items => list (ofItems items)
  | .obj members => table (ofMembers members)

/-- The trees of the items of an array. -/
def ofItems : List Json → List Value
  | [] => []
  | item :: items => ofJson item :: ofItems items

/-- The trees of the members of an object. -/
def ofMembers : List (String × Json) → List (String × Value)
  | [] => []
  | (name, value) :: members => (name, ofJson value) :: ofMembers members

end

end Value

end ServiceSupervisor
