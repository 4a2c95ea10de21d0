import ServiceSupervisor.Document

/-!
The tree of tables that a TOML document builds up.

* `Node`: a value that is complete, a table that may still grow, or an array of tables;
* `Origin`: what made a table, which decides what may still be added to it;
* `editAt`: an edit of the table at the end of a path; the tables on the way are made as needed;
* `Entries.insert?`: one `key = value`, where the key may have a path in front of it.

A table with a header of its own is complete for dotted keys, a table made by dotted keys is
complete for headers, and no key is given twice.
-/

namespace ServiceSupervisor.Toml

/-- What made a table. -/
inductive Origin
  /-- A header of its own; the document itself and the elements of an array count as such. -/
  | header
  /-- The path of a header that lies deeper. -/
  | path
  /-- A dotted key. -/
  | dotted
deriving DecidableEq, Repr

/-- A part of the tree. -/
inductive Node
  | leaf (value : Value)
  | table (origin : Origin) (entries : List (String × Node))
  | tables (elements : List (List (String × Node)))

/-- The entries of a table, in the order in which they were given. -/
abbrev Entries := List (String × Node)

namespace Entries

/-- The entries with another node at a key that they have. -/
def replace (entries : Entries) (key : String) (node : Node) : Entries :=
  entries.map fun entry => if entry.1 = key then (key, node) else entry

/-- The entries without a key. -/
def without (entries : Entries) (key : String) : Entries :=
  entries.filter fun entry => entry.1 ≠ key

/-- The entries with one more at the end, if the key is new. -/
def append? (entries : Entries) (key : String) (node : Node) : Option Entries :=
  if (entries.lookup key).isSome then none else some (entries ++ [(key, node)])

end Entries

/-- An edit of the table at the end of a path.  A path leads through the last element of an array
of tables and never through a complete value; the path of a dotted key does not lead through a
table that has a header. -/
def editAt {α : Type} (dotted : Bool) (edit : Origin → Entries → Option (α × Entries)) :
    List String → Origin → Entries → Option (α × Entries)
  | [], origin, entries => edit origin entries
  | key :: path, _, entries =>
    match entries.lookup key with
    | none => do
      let origin : Origin := if dotted then .dotted else .path
      let (result, made) ← editAt dotted edit path origin []
      some (result, entries ++ [(key, .table origin made)])
    | some (.leaf _) => none
    | some (.table origin inner) =>
      if dotted && origin = .header then none
      else do
        let (result, edited) ← editAt dotted edit path origin inner
        some (result, entries.replace key (.table origin edited))
    | some (.tables elements) => do
      let (result, edited) ← editAt dotted edit path .header (← elements.getLast?)
      some (result, entries.replace key (.tables (elements.dropLast ++ [edited])))

/-- The entries with one more `key = value`; the path in front of the key must lead to a table
that dotted keys made. -/
def Entries.insert? (entries : Entries) (path : List String) (key : String) (value : Value) :
    Option Entries := do
  let add (origin : Origin) (inner : Entries) : Option (Unit × Entries) :=
    if path.isEmpty || origin = .dotted then (inner.append? key (.leaf value)).map (((), ·))
    else none
  let (_, edited) ← editAt true add path .header entries
  some edited

/-! ### Values -/

mutual

/-- The value of a part of the tree. -/
def Node.value : Node → Value
  | .leaf value => value
  | .table _ entries => .table (entryValues entries)
  | .tables elements => .list (elementValues elements)

/-- The values of the entries of a table. -/
def entryValues : List (String × Node) → List (String × Value)
  | [] => []
  | (key, node) :: entries => (key, node.value) :: entryValues entries

/-- The values of the elements of an array of tables. -/
def elementValues : List (List (String × Node)) → List Value
  | [] => []
  | entries :: elements => .table (entryValues entries) :: elementValues elements

end

/-! ### Documents in progress -/

/-- Where the entries that are being read will go. -/
inductive Place
  /-- To the document itself. -/
  | root
  /-- To the table of a header. -/
  | table (path : List String) (key : String)
  /-- To a new element of an array of tables. -/
  | element (path : List String) (key : String)
deriving DecidableEq, Repr

/-- A document in progress: the tables that are complete and the entries since the last header. -/
structure Draft where
  /-- The tables in front of the last header. -/
  root : Entries := []
  /-- The entries since the last header. -/
  current : Entries := []
  /-- Where they will go. -/
  place : Place := .root

namespace Draft

/-- The whole tree, with the entries since the last header in their place. -/
def finish? (d : Draft) : Option Entries :=
  match d.place with
  | .root => some d.current
  | .table path key => do
    let add (_ : Origin) (entries : Entries) : Option (Unit × Entries) :=
      (entries.append? key (.table .header d.current)).map (((), ·))
    let (_, root) ← editAt false add path .header d.root
    some root
  | .element path key => do
    let add (_ : Origin) (entries : Entries) : Option (Unit × Entries) :=
      match entries.lookup key with
      | none => some ((), entries ++ [(key, .tables [d.current])])
      | some (.tables elements) =>
        some ((), entries.replace key (.tables (elements ++ [d.current])))
      | some _ => none
    let (_, root) ← editAt false add path .header d.root
    some root

/-- The draft after a header of a table.  A table that the path of a deeper header made keeps its
entries and moves to the end. -/
def openTable? (d : Draft) (path : List String) (key : String) : Option Draft := do
  let take (_ : Origin) (entries : Entries) : Option (Entries × Entries) :=
    match entries.lookup key with
    | none => some ([], entries)
    | some (.table .path inner) => some (inner, entries.without key)
    | some _ => none
  let (current, root) ← editAt false take path .header (← d.finish?)
  some { root, current, place := .table path key }

/-- The draft after a header of an array of tables. -/
def openElement? (d : Draft) (path : List String) (key : String) : Option Draft := do
  let claim (_ : Origin) (entries : Entries) : Option (Unit × Entries) :=
    match entries.lookup key with
    | none => some ((), entries ++ [(key, .tables [])])
    | some (.tables _) => some ((), entries)
    | some _ => none
  let (_, root) ← editAt false claim path .header (← d.finish?)
  some { root, current := [], place := .element path key }

/-- The draft after one more `key = value`. -/
def insert? (d : Draft) (path : List String) (key : String) (value : Value) : Option Draft := do
  some { d with current := ← d.current.insert? path key value }

end Draft

end ServiceSupervisor.Toml
