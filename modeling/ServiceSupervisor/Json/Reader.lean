import ServiceSupervisor.Text.Reader
import ServiceSupervisor.Document

/-!
Reading JSON documents.

* `Json.readString`, `Json.readNumber`: the two scalars with a grammar of their own;
* `Value.ofJsonText?`: the value tree of a document.

An integer that fits in 64 bits, with or without a sign, is an integer, and any other number a
floating-point number.  The entries of a table are in the order of their names; of two entries
with one name the later counts.
-/

namespace ServiceSupervisor

namespace Json

open Text (Reader before readChar readText readOne digitsValue isHexDigit charOf?)

/-- A blank between the parts of a document. -/
def isBlank (c : Char) : Bool := c = ' ' || c = '\t' || c = '\n' || c = '\r'

/-- The text without its leading blanks. -/
def skipBlanks (text : List Char) : List Char := text.dropWhile isBlank

/-! ### Strings -/

/-- The character that a one-letter escape stands for. -/
def shortEscape? : Char → Option Char
  | '"' => some '"'
  | '\\' => some '\\'
  | '/' => some '/'
  | 'b' => some '\x08'
  | 'f' => some '\x0c'
  | 'n' => some '\n'
  | 'r' => some '\r'
  | 't' => some '\t'
  | _ => none

/-- The number that four hexadecimal digits stand for. -/
def unit? (digits : List Char) : Option Nat :=
  if digits.all isHexDigit then some (digitsValue 16 digits) else none

/-- The character that two halves of a pair stand for. -/
def pair? (high low : Nat) : Option Char :=
  if 0xd800 ≤ high ∧ high < 0xdc00 ∧ 0xdc00 ≤ low ∧ low < 0xe000 then
    charOf? (0x10000 + (high - 0xd800) * 0x400 + (low - 0xdc00))
  else none

/-- The character of two escapes that are a pair. -/
def escapedPair? (high low : List Char) : Option Char := do pair? (← unit? high) (← unit? low)

/-- The rest of a string, up to its closing quote. -/
def readString : Reader (List Char)
  | '"' :: rest => some ([], rest)
  | '\\' :: 'u' :: a :: b :: c :: d :: '\\' :: 'u' :: e :: f :: g :: h :: rest =>
    match escapedPair? [a, b, c, d] [e, f, g, h] with
    | some char => before char (readString rest)
    | none =>
      ((unit? [a, b, c, d]).bind charOf?).bind fun char =>
        before char (readString ('\\' :: 'u' :: e :: f :: g :: h :: rest))
  | '\\' :: 'u' :: a :: b :: c :: d :: rest =>
    ((unit? [a, b, c, d]).bind charOf?).bind fun char => before char (readString rest)
  | '\\' :: c :: rest => (shortEscape? c).bind fun char => before char (readString rest)
  | c :: rest => if c.toNat < 32 || c = '\\' then none else before c (readString rest)
  | [] => none

/-! ### Numbers -/

/-- One or more digits. -/
def readDigits : Reader (List Char) := fun text =>
  let digits := text.takeWhile Char.isDigit
  if digits.isEmpty then none else some (digits, text.dropWhile Char.isDigit)

/-- The digits of a whole number: a zero has none behind it. -/
def readWhole : Reader (List Char)
  | '0' :: rest => some (['0'], rest)
  | text => readDigits text

/-- The digits behind a decimal point, if there is one. -/
def readFraction : Reader (List Char)
  | '.' :: rest => readDigits rest
  | text => some ([], text)

/-- The exponent behind its letter, if there is one. -/
def readExponent : Reader (Option Int)
  | 'e' :: rest | 'E' :: rest =>
    let (negative, rest) :=
      match rest with
      | '-' :: rest => (true, rest)
      | '+' :: rest => (false, rest)
      | rest => (false, rest)
    (readDigits rest).map fun (digits, rest) =>
      let value : Int := digitsValue 10 digits
      (some (if negative then -value else value), rest)
  | text => some (none, text)

/-- The value of a number without a fraction and an exponent. -/
def wholeValue (negative : Bool) (magnitude : Nat) : Value :=
  if negative then
    if 0 < magnitude ∧ magnitude ≤ 0x8000000000000000 then .int (-magnitude)
    else .float (.ofDecimal true magnitude 0)
  else if magnitude < 0x10000000000000000 then .int magnitude
  else .float (.ofDecimal false magnitude 0)

/-- A number. -/
def readNumber : Reader Value := fun text => do
  let (negative, rest) :=
    match text with
    | '-' :: rest => (true, rest)
    | text => (false, text)
  let (whole, rest) ← readWhole rest
  let (fraction, rest) ← readFraction rest
  let (exponent, rest) ← readExponent rest
  if fraction.isEmpty && exponent.isNone then
    some (wholeValue negative (digitsValue 10 whole), rest)
  else
    let digits := digitsValue 10 (whole ++ fraction)
    match Binary64.ofDecimal negative digits (exponent.getD 0 - fraction.length) with
    | .infinite _ => none
    | value => some (.float value, rest)

/-! ### Values -/

/-- Items with commas between them, up to a closing bracket; the text itself bounds their
number. -/
def readMore {α : Type} (closing : Char) (readItem : Reader α) : Nat → Reader (List α)
  | 0, _ => none
  | bound + 1, text => do
    let (item, rest) ← readItem text
    match skipBlanks rest with
    | ',' :: rest =>
      let (items, rest) ← readMore closing readItem bound rest
      some (item :: items, rest)
    | rest => some ([item], ← readChar closing rest)

/-- Items with commas between them, or none, up to a closing bracket. -/
def readAll {α : Type} (closing : Char) (readItem : Reader α) : Reader (List α) := fun text =>
  match readChar closing (skipBlanks text) with
  | some rest => some ([], rest)
  | none => readMore closing readItem text.length text

/-- A name, a colon and a value. -/
def readMember (readItem : Reader Value) : Reader (String × Value) := fun text => do
  let rest ← readChar '"' (skipBlanks text)
  let (name, rest) ← readString rest
  let rest ← readChar ':' (skipBlanks rest)
  let (value, rest) ← readItem rest
  some ((String.ofList name, value), rest)

/-- Entries in the order of their names, the latest of each name. -/
def inOrder (entries : List (String × Value)) : List (String × Value) :=
  let latest := entries.foldl
    (fun kept entry => kept.filter (·.1 ≠ entry.1) ++ [entry]) []
  latest.mergeSort fun a b => decide (a.1 ≤ b.1)

/-- A value whose arrays and objects nest at most so deep. -/
def readValue : Nat → Reader Value
  | depth, text =>
    match skipBlanks text, depth with
    | '"' :: rest, _ =>
      (readString rest).map fun (value, rest) => (.text (String.ofList value), rest)
    | '[' :: rest, depth + 1 =>
      (readAll ']' (readValue depth) rest).map fun (items, rest) => (.list items, rest)
    | '\x7b' :: rest, depth + 1 =>
      (readAll '\x7d' (readMember (readValue depth)) rest).map fun (entries, rest) =>
        (.table (inOrder entries), rest)
    | 'n' :: rest, _ => (readText "ull".toList rest).map (.null, ·)
    | 't' :: rest, _ => (readText "rue".toList rest).map (.bool true, ·)
    | 'f' :: rest, _ => (readText "alse".toList rest).map (.bool false, ·)
    | text, _ => readNumber text

/-- How deep arrays and objects may nest. -/
def deepest : Nat := 127

end Json

/-- The value tree of a JSON document. -/
def Value.ofJsonText? (document : String) : Option Value := do
  let (value, rest) ← Json.readValue Json.deepest document.toList
  if (Json.skipBlanks rest).isEmpty then some value else none

end ServiceSupervisor
