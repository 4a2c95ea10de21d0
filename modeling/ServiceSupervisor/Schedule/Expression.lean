import ServiceSupervisor.Schedule
import ServiceSupervisor.Text.Reader

/-!
Schedule expressions: `sec min hour day-of-month month day-of-week [year]`, or one of the words
`@yearly`, `@monthly`, `@weekly`, `@daily` and `@hourly`.

* `FieldKind`: the seven fields with their ranges and the names of months and week days;
* `Item`: one member of a comma list; `Item.values?` gives the values it stands for;
* `Schedule.parse?`: the schedule that an expression denotes.

Blanks separate the fields but are not needed where a field cannot go on: `** * * * * *` has six
fields.  A number or a name takes the blanks around it, a star or a question mark does not.  Of
two readings the first of the grammar's alternatives that fits is taken, and a comma list ends
before a comma that no member follows.
-/

namespace ServiceSupervisor.Schedule

open Text (Reader readChar digitsValue)

/-! ### Fields -/

/-- The fields of an expression. -/
inductive FieldKind
  | second | minute | hour | dayOfMonth | month | weekday | year
deriving DecidableEq, Repr

namespace FieldKind

/-- The least value of a field. -/
def least : FieldKind → Nat
  | second | minute | hour => 0
  | dayOfMonth | month | weekday => 1
  | year => 1970

/-- The greatest value of a field. -/
def greatest : FieldKind → Nat
  | second | minute => 59
  | hour => 23
  | dayOfMonth => 31
  | month => 12
  | weekday => 7
  | year => 2100

/-- Whether a value is in the range of the field. -/
def admits (kind : FieldKind) (value : Nat) : Bool := kind.least ≤ value && value ≤ kind.greatest

/-- All values from `low` to `high`, in increasing order. -/
def span (low high : Nat) : List Nat := (List.range (high + 1 - low)).map (low + ·)

/-- All values of a field. -/
def all (kind : FieldKind) : List Nat := span kind.least kind.greatest

/-- The names of the months, in order. -/
def monthNames : List (List String) :=
  [["jan", "january"], ["feb", "february"], ["mar", "march"], ["apr", "april"], ["may"],
   ["jun", "june"], ["jul", "july"], ["aug", "august"], ["sep", "september"], ["oct", "october"],
   ["nov", "november"], ["dec", "december"]]

/-- The names of the week days, from Sunday on. -/
def weekdayNames : List (List String) :=
  [["sun", "sunday"], ["mon", "monday"], ["tue", "tues", "tuesday"], ["wed", "wednesday"],
   ["thu", "thurs", "thursday"], ["fri", "friday"], ["sat", "saturday"]]

/-- The value that a name stands for, in any case of its letters. -/
def ofName? (kind : FieldKind) (name : String) : Option Nat :=
  let lower := name.toLower
  match kind with
  | month => (monthNames.findIdx? (·.contains lower)).map (· + 1)
  | weekday => (weekdayNames.findIdx? (·.contains lower)).map (· + 1)
  | _ => none

/-- Whether a question mark may stand for all values: in the two day fields. -/
def takesAny : FieldKind → Bool
  | dayOfMonth | weekday => true
  | _ => false

end FieldKind

/-! ### Members of a comma list -/

/-- What the values of a member start from. -/
inductive Base
  /-- All values. -/
  | all
  /-- The values between two numbers. -/
  | range (low high : Nat)
  /-- One number. -/
  | point (value : Nat)
  /-- The values between two names. -/
  | namedRange (low high : String)
deriving DecidableEq, Repr

/-- One member of a comma list. -/
inductive Item
  /-- A set of values. -/
  | plain (base : Base)
  /-- Every `step`-th value of a set, starting with its least. -/
  | every (base : Base) (step : Nat)
  /-- One name. -/
  | named (name : String)
deriving DecidableEq, Repr

/-- The values between two ends, if both are in range and in order. -/
def between? (kind : FieldKind) (low high : Nat) : Option (List Nat) :=
  if kind.admits low ∧ kind.admits high ∧ low ≤ high then some (FieldKind.span low high) else none

/-- The values that a set stands for. -/
def Base.values? (kind : FieldKind) : Base → Option (List Nat)
  | .all => some kind.all
  | .range low high => between? kind low high
  | .point value => if kind.admits value then some [value] else none
  | .namedRange low high => do between? kind (← kind.ofName? low) (← kind.ofName? high)

/-- The values that a set gives when it is stepped through: one number then reaches up to the
greatest value of the field. -/
def Base.stepped? (kind : FieldKind) : Base → Option (List Nat)
  | .point value => between? kind value kind.greatest
  | base => base.values? kind

/-- Every `step`-th member of a list, starting with its first. -/
def everyNth (step : Nat) (values : List Nat) : List Nat :=
  values.zipIdx.filterMap fun (value, index) => if index % step = 0 then some value else none

/-- The values that a member stands for, if all of it is in range. -/
def Item.values? (kind : FieldKind) : Item → Option (List Nat)
  | .plain base => base.values? kind
  | .every base step =>
    if step = 0 then none else (base.stepped? kind).map (everyNth step)
  | .named name => (kind.ofName? name).map ([·])

/-- The values of a whole field, in increasing order and each once. -/
def fieldValues? (kind : FieldKind) (items : List Item) : Option (List Nat) := do
  let values ← items.mapM (Item.values? kind)
  some (kind.all.filter fun value => values.any (·.contains value))

/-! ### Reading -/

/-- The blanks between fields. -/
def isBlank (c : Char) : Bool := c = ' ' || c = '\t' || c = '\r' || c = '\n'

/-- The text without its leading blanks. -/
def skipBlanks (text : List Char) : List Char := text.dropWhile isBlank

/-- One or more characters of a class, with the blanks around them. -/
def readWord (p : Char → Bool) : Reader (List Char) := fun text =>
  let start := skipBlanks text
  let word := start.takeWhile p
  if word.isEmpty then none else some (word, skipBlanks (start.dropWhile p))

/-- A number below 2 ^ 32, with the blanks around it. -/
def readOrdinal : Reader Nat := fun text => do
  let (digits, rest) ← readWord Char.isDigit text
  let value := digitsValue 10 digits
  if value < 0x100000000 then some (value, rest) else none

/-- A name, with the blanks around it. -/
def readName : Reader String := fun text => do
  let (letters, rest) ← readWord Char.isAlpha text
  some (String.ofList letters, rest)

/-- Two words with a hyphen between them. -/
def readRange {α : Type} (word : Reader α) : Reader (α × α) := fun text => do
  let (low, rest) ← word text
  let rest ← readChar '-' rest
  let (high, rest) ← word rest
  some ((low, high), rest)

/-- A set of values. -/
def readBase (takesAny : Bool) : Reader Base := fun text =>
  let star : Option (Base × List Char) := (readChar '*' text).map ((.all, ·))
  let any : Option (Base × List Char) :=
    if takesAny then (readChar '?' text).map ((.all, ·)) else none
  any <|> star
    <|> (readRange readOrdinal text).map (fun ((low, high), rest) => (.range low high, rest))
    <|> (readOrdinal text).map (fun (value, rest) => (.point value, rest))
    <|> (readRange readName text).map (fun ((low, high), rest) => (.namedRange low high, rest))

/-- A set of values with a step. -/
def readEvery (takesAny : Bool) : Reader Item := fun text => do
  let (base, rest) ← readBase takesAny text
  let rest ← readChar '/' rest
  let (step, rest) ← readOrdinal rest
  some (.every base step, rest)

/-- One member of a comma list. -/
def readItem (takesAny : Bool) : Reader Item := fun text =>
  readEvery takesAny text
    <|> (readBase takesAny text).map (fun (base, rest) => (.plain base, rest))
    <|> (readName text).map (fun (name, rest) => (.named name, rest))

/-- The further members of a comma list; the text itself bounds their number. -/
def readMoreItems (takesAny : Bool) : Nat → List Char → List Item × List Char
  | 0, text => ([], text)
  | bound + 1, text =>
    match readChar ',' text >>= readItem takesAny with
    | none => ([], text)
    | some (item, rest) =>
      let (items, rest) := readMoreItems takesAny bound rest
      (item :: items, rest)

/-- A field: a comma list whose members are all in range, with the blanks around it. -/
def readField (kind : FieldKind) : Reader (List Nat) := fun text => do
  let (item, rest) ← readItem kind.takesAny (skipBlanks text)
  let (items, rest) := readMoreItems kind.takesAny rest.length rest
  let values ← fieldValues? kind (item :: items)
  some (values, skipBlanks rest)

/-- The six fields and the year, which may be absent, up to the end of the text. -/
def readFields (text : List Char) : Option Schedule := do
  let (seconds, rest) ← readField .second text
  let (minutes, rest) ← readField .minute rest
  let (hours, rest) ← readField .hour rest
  let (daysOfMonth, rest) ← readField .dayOfMonth rest
  let (months, rest) ← readField .month rest
  let (weekdays, rest) ← readField .weekday rest
  let (years, rest) := (readField .year rest).getD (FieldKind.year.all, rest)
  if rest.isEmpty then
    some { seconds, minutes, hours, daysOfMonth, months, weekdays, years }
  else none

/-- The schedule that fires at the start of every hour of every day. -/
def hourly : Schedule where
  seconds := [0]
  minutes := [0]
  hours := FieldKind.hour.all
  daysOfMonth := FieldKind.dayOfMonth.all
  months := FieldKind.month.all
  weekdays := FieldKind.weekday.all
  years := FieldKind.year.all

/-- The schedules that have a word of their own. -/
def shorthands : List (String × Schedule) :=
  [("@yearly", { hourly with hours := [0], daysOfMonth := [1], months := [1] }),
   ("@monthly", { hourly with hours := [0], daysOfMonth := [1] }),
   ("@weekly", { hourly with hours := [0], weekdays := [1] }),
   ("@daily", { hourly with hours := [0] }),
   ("@hourly", hourly)]

/-- The text without the blanks at both ends. -/
def trimBlanks (text : List Char) : List Char :=
  (skipBlanks (skipBlanks text).reverse).reverse

/-- The schedule that an expression denotes. -/
def parse? (expression : String) : Option Schedule :=
  match shorthands.lookup (String.ofList (trimBlanks expression.toList)) with
  | some schedule => some schedule
  | none => readFields expression.toList

/-- The report on an expression that denotes no schedule. -/
def invalidExpression : String := "Invalid expression: Invalid cron expression."

end ServiceSupervisor.Schedule
