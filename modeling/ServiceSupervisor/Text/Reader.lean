/-!
Readers: functions that take what they read from the front of a text and give the rest.

* `Reader`: the type; a reader that finds nothing that it reads gives nothing;
* `readChar`, `readText`: one given character, one given word;
* `digitValue`, `digitsValue`: what digits stand for, in any base up to sixteen.
-/

namespace ServiceSupervisor.Text

/-- A reader takes what it reads from the front of the text and gives the rest. -/
abbrev Reader (α : Type) := List Char → Option (α × List Char)

/-- The rest after one given character. -/
def readChar (expected : Char) : List Char → Option (List Char)
  | [] => none
  | c :: rest => if c = expected then some rest else none

/-- The rest after a given word. -/
def readText : List Char → List Char → Option (List Char)
  | [], text => some text
  | expected :: word, text => (readChar expected text).bind (readText word)

/-- One character of a class. -/
def readOne (p : Char → Bool) : Reader Char
  | [] => none
  | c :: rest => if p c then some (c, rest) else none

/-- A given number of characters of a class. -/
def readExactly (p : Char → Bool) : Nat → Reader (List Char)
  | 0, text => some ([], text)
  | count + 1, text => do
    let (c, rest) ← readOne p text
    let (cs, rest) ← readExactly p count rest
    some (c :: cs, rest)

/-- A character in front of what a reader reads. -/
def before (c : Char) (read : Option (List Char × List Char)) : Option (List Char × List Char) :=
  read.map fun (text, rest) => (c :: text, rest)

/-! ### Digits -/

/-- The value of a digit, letters of either case counting from ten on. -/
def digitValue (c : Char) : Nat :=
  if c.isDigit then c.toNat - '0'.toNat
  else if c.isLower then c.toNat - 'a'.toNat + 10
  else c.toNat - 'A'.toNat + 10

/-- Whether a character is a hexadecimal digit of either case. -/
def isHexDigit (c : Char) : Bool :=
  c.isDigit || ('a' ≤ c && c ≤ 'f') || ('A' ≤ c && c ≤ 'F')

/-- The number that a list of digits of a base stands for. -/
def digitsValue (base : Nat) (digits : List Char) : Nat :=
  digits.foldl (fun value c => value * base + digitValue c) 0

/-- The character of a code point, if it is one: neither a surrogate nor out of range. -/
def charOf? (codePoint : Nat) : Option Char :=
  if codePoint.isValidChar then some (Char.ofNat codePoint) else none

end ServiceSupervisor.Text
