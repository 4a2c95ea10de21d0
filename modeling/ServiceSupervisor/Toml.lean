import ServiceSupervisor.Toml.Lexeme
import ServiceSupervisor.Toml.Tree

/-!
Reading TOML documents.

* `Toml.readValue`: a value, with the arrays and inline tables in it;
* `Toml.readLine`: one line of a document: blank, a header, or `key = value`;
* `Toml.parse?`: the value tree of a whole document.
-/

namespace ServiceSupervisor.Toml

open Text (Reader readChar readText)

/-- The path and the last part of a key. -/
def splitKey (parts : List String) : Option (List String × String) :=
  parts.getLast?.map fun key => (parts.dropLast, key)

/-- The items of an array, up to its closing bracket; the text itself bounds their number. -/
def readItems (readItem : Reader Value) : Nat → Reader (List Value)
  | 0, _ => none
  | bound + 1, text =>
    match skipFiller false text with
    | ']' :: rest => some ([], rest)
    | text => do
      let (item, rest) ← readItem text
      match skipFiller false rest with
      | ',' :: rest =>
        let (items, rest) ← readItems readItem bound rest
        some (item :: items, rest)
      | ']' :: rest => some ([item], rest)
      | _ => none

/-- A key, an equals sign and a value, with the blanks around them. -/
def readPair (readItem : Reader Value) : Reader ((List String × String) × Value) := fun text => do
  let (parts, rest) ← readKey text
  let rest ← readChar '=' rest
  let (value, rest) ← readItem (skipBlanks rest)
  some ((← splitKey parts, value), skipBlanks rest)

/-- The pairs of an inline table, of which there is one at least, up to its closing brace; the
text itself bounds their number. -/
def readPairs (readItem : Reader Value) : Nat → Entries → Reader Entries
  | 0, _, _ => none
  | bound + 1, entries, text => do
    let (((path, key), value), rest) ← readPair readItem text
    let entries ← entries.insert? path key value
    match rest with
    | ',' :: rest => readPairs readItem bound entries rest
    | '\x7d' :: rest => some (entries, rest)
    | _ => none

/-- An inline table, after its opening brace. -/
def readInline (readItem : Reader Value) : Reader Value := fun text =>
  match skipBlanks text with
  | '\x7d' :: rest => some (.table [], rest)
  | text => do
    let (entries, rest) ← readPairs readItem text.length [] text
    some (.table (entryValues entries), rest)

/-- A value whose arrays and inline tables nest at most so deep. -/
def readValue : Nat → Reader Value
  | 0, '[' :: _ | 0, '\x7b' :: _ => none
  | depth + 1, '[' :: rest =>
    (readItems (readValue depth) (rest.length + 1) rest).map fun (items, rest) =>
      (.list items, rest)
  | depth + 1, '\x7b' :: rest => readInline (readValue depth) rest
  | _, text => readScalar text

/-! ### Lines -/

/-- A key in brackets, after the opening ones, up to the end of the line. -/
def readHeader (closing : String) (text : List Char) :
    Option ((List String × String) × List Char) := do
  let (parts, rest) ← readKey text
  let rest ← readText closing.toList rest
  some (← splitKey parts, ← readLineEnd rest)

/-- One line of a document, which is not empty. -/
def readLine (d : Draft) (text : List Char) : Option (Draft × List Char) :=
  match skipBlanks text with
  | '[' :: '[' :: rest => do
    let ((path, key), rest) ← readHeader "]]" rest
    some (← d.openElement? path key, rest)
  | '[' :: rest => do
    let ((path, key), rest) ← readHeader "]" rest
    some (← d.openTable? path key, rest)
  | text =>
    match readLineEnd text with
    | some rest => some (d, rest)
    | none => do
      let (((path, key), value), rest) ← readPair (readValue deepest) text
      some (← d.insert? path key value, ← readLineEnd rest)

/-- All lines of a document; the text itself bounds their number. -/
def readLines : Nat → Draft → List Char → Option Draft
  | _, d, [] => some d
  | 0, _, _ => none
  | bound + 1, d, text => do
    let (d, rest) ← readLine d text
    readLines bound d rest

/-- The value tree of a document, which a byte order mark may precede. -/
def parse? (document : String) : Option Value := do
  let text :=
    match document.toList with
    | '\ufeff' :: rest => rest
    | text => text
  let draft ← readLines text.length {} text
  some (.table (entryValues (← draft.finish?)))

end ServiceSupervisor.Toml
