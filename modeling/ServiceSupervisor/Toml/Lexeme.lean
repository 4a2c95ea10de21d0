import ServiceSupervisor.Calendar
import ServiceSupervisor.Document
import ServiceSupervisor.Text.Reader

/-!
The smallest parts of a TOML document: blanks, comments, line ends, strings, numbers and dates.

* `readString`: the four kinds of strings;
* `readKey`: a dotted key;
* `readScalar`: a value that is neither an array nor an inline table.

A line ends with a line feed, which a carriage return may precede; a carriage return alone is
refused everywhere.  A line end inside a string over several lines is always a line feed.
-/

namespace ServiceSupervisor.Toml

open Text (Reader before readChar readText readOne readExactly digitsValue isHexDigit charOf?)

/-! ### Blanks, comments and line ends -/

/-- A blank within a line. -/
def isBlank (c : Char) : Bool := c = ' ' || c = '\t'

/-- The text without its leading blanks. -/
def skipBlanks (text : List Char) : List Char := text.dropWhile isBlank

/-- A character of a comment: everything but the control characters other than the tab. -/
def isCommentChar (c : Char) : Bool := c = '\t' || (' ' ≤ c && c ≠ '\x7f')

/-- The rest after a line end. -/
def readNewline : List Char → Option (List Char)
  | '\n' :: rest => some rest
  | '\r' :: '\n' :: rest => some rest
  | _ => none

/-- The rest after the end of a line, with the blanks and the comment in front of it; the last
line may end with the text. -/
def readLineEnd (text : List Char) : Option (List Char) :=
  let text :=
    match skipBlanks text with
    | '#' :: rest => rest.dropWhile isCommentChar
    | text => text
  if text.isEmpty then some [] else readNewline text

/-- The text without its leading blanks, line ends and comments, as they may stand between the
items of an array. -/
def skipFiller : Bool → List Char → List Char
  | _, '\n' :: rest => skipFiller false rest
  | _, '\r' :: '\n' :: rest => skipFiller false rest
  | inComment, c :: rest =>
    if inComment then if isCommentChar c then skipFiller true rest else c :: rest
    else if isBlank c then skipFiller false rest
    else if c = '#' then skipFiller true rest
    else c :: rest
  | _, [] => []

/-! ### Strings -/

/-- A character that may stand for itself in a string with escapes. -/
def isBasicChar (c : Char) : Bool := isCommentChar c && c ≠ '"' && c ≠ '\\'

/-- A character that may stand for itself in a string without escapes. -/
def isLiteralChar (c : Char) : Bool := isCommentChar c && c ≠ '\''

/-- The character that a one-letter escape stands for. -/
def shortEscape? : Char → Option Char
  | 'b' => some '\x08'
  | 't' => some '\t'
  | 'n' => some '\n'
  | 'f' => some '\x0c'
  | 'r' => some '\r'
  | '"' => some '"'
  | '\\' => some '\\'
  | _ => none

/-- The character whose code point is given by hexadecimal digits. -/
def codePoint? (digits : List Char) : Option Char :=
  if digits.all isHexDigit then charOf? (digitsValue 16 digits) else none

/-- The rest of a string with escapes, up to its closing quote. -/
def readBasic : Reader (List Char)
  | '"' :: rest => some ([], rest)
  | '\\' :: 'u' :: a :: b :: c :: d :: rest =>
    (codePoint? [a, b, c, d]).bind fun char => before char (readBasic rest)
  | '\\' :: 'U' :: a :: b :: c :: d :: e :: f :: g :: h :: rest =>
    (codePoint? [a, b, c, d, e, f, g, h]).bind fun char => before char (readBasic rest)
  | '\\' :: c :: rest => (shortEscape? c).bind fun char => before char (readBasic rest)
  | c :: rest => if isBasicChar c then before c (readBasic rest) else none
  | [] => none

/-- Whether only blanks stand in front of the end of the line. -/
def endsLine (text : List Char) : Bool := (readNewline (skipBlanks text)).isSome

/-- The rest of a string with escapes over several lines, up to its three closing quotes, which
one or two quotes of the string may precede.  A backslash at the end of a line drops all blanks
and line ends that follow it; `trimming` says that they are being dropped. -/
def readLongBasic (trimming : Bool) : Reader (List Char)
  | '"' :: '"' :: '"' :: '"' :: '"' :: rest => some (['"', '"'], rest)
  | '"' :: '"' :: '"' :: '"' :: rest => some (['"'], rest)
  | '"' :: '"' :: '"' :: rest => some ([], rest)
  | '"' :: rest => before '"' (readLongBasic false rest)
  | '\\' :: 'u' :: a :: b :: c :: d :: rest =>
    (codePoint? [a, b, c, d]).bind fun char => before char (readLongBasic false rest)
  | '\\' :: 'U' :: a :: b :: c :: d :: e :: f :: g :: h :: rest =>
    (codePoint? [a, b, c, d, e, f, g, h]).bind fun char => before char (readLongBasic false rest)
  | '\\' :: c :: rest =>
    if endsLine (c :: rest) then readLongBasic true (c :: rest)
    else (shortEscape? c).bind fun char => before char (readLongBasic false rest)
  | '\r' :: '\n' :: rest | '\n' :: rest =>
    if trimming then readLongBasic true rest else before '\n' (readLongBasic false rest)
  | c :: rest =>
    if trimming && isBlank c then readLongBasic true rest
    else if isBasicChar c then before c (readLongBasic false rest)
    else none
  | [] => none

/-- The rest of a string without escapes, up to its closing quote. -/
def readLiteral (text : List Char) : Option (List Char × List Char) :=
  (readChar '\'' (text.dropWhile isLiteralChar)).map fun rest =>
    (text.takeWhile isLiteralChar, rest)

/-- The rest of a string without escapes over several lines, up to its three closing quotes,
which one or two quotes of the string may precede. -/
def readLongLiteral : Reader (List Char)
  | '\'' :: '\'' :: '\'' :: '\'' :: '\'' :: rest => some (['\'', '\''], rest)
  | '\'' :: '\'' :: '\'' :: '\'' :: rest => some (['\''], rest)
  | '\'' :: '\'' :: '\'' :: rest => some ([], rest)
  | '\'' :: rest => before '\'' (readLongLiteral rest)
  | '\r' :: '\n' :: rest | '\n' :: rest => before '\n' (readLongLiteral rest)
  | c :: rest => if isLiteralChar c then before c (readLongLiteral rest) else none
  | [] => none

/-- The text without the line end right after the opening quotes. -/
def dropNewline (text : List Char) : List Char := (readNewline text).getD text

/-- A string of any of the four kinds. -/
def readString : Reader String := fun text =>
  let read :=
    match text with
    | '"' :: '"' :: '"' :: rest => readLongBasic false (dropNewline rest)
    | '"' :: rest => readBasic rest
    | '\'' :: '\'' :: '\'' :: rest => readLongLiteral (dropNewline rest)
    | '\'' :: rest => readLiteral rest
    | _ => none
  read.map fun (chars, rest) => (String.ofList chars, rest)

/-! ### Keys -/

/-- A character of a key without quotes. -/
def isBareKeyChar (c : Char) : Bool := c.isAlphanum || c = '_' || c = '-'

/-- One part of a key: letters, or a string on one line. -/
def readKeyPart : Reader String := fun text =>
  let read :=
    match text with
    | '"' :: rest => readBasic rest
    | '\'' :: rest => readLiteral rest
    | _ =>
      let word := text.takeWhile isBareKeyChar
      if word.isEmpty then none else some (word, text.dropWhile isBareKeyChar)
  read.map fun (chars, rest) => (String.ofList chars, rest)

/-- The parts of a key, with blanks around each; the text itself bounds their number. -/
def readKeyParts : Nat → Reader (List String)
  | 0, _ => none
  | bound + 1, text => do
    let (part, rest) ← readKeyPart (skipBlanks text)
    match skipBlanks rest with
    | '.' :: rest =>
      let (parts, rest) ← readKeyParts bound rest
      some (part :: parts, rest)
    | rest => some ([part], rest)

/-- How deep keys may go and values may nest. -/
def deepest : Nat := 79

/-- A dotted key, with the blanks around it. -/
def readKey : Reader (List String) := fun text => do
  let (parts, rest) ← readKeyParts text.length text
  if parts.length ≤ deepest then some (parts, rest) else none

/-! ### Numbers -/

/-- Further digits, each of which one underscore may precede. -/
def readMoreDigits (isDigit : Char → Bool) : Reader (List Char)
  | '_' :: c :: rest => if isDigit c then before c (readMoreDigits isDigit rest) else none
  | '_' :: [] => none
  | c :: rest =>
    if isDigit c then before c (readMoreDigits isDigit rest) else some ([], c :: rest)
  | [] => some ([], [])

/-- One or more digits. -/
def readDigits (isDigit : Char → Bool) : Reader (List Char) := fun text => do
  let (first, rest) ← readOne isDigit text
  before first (readMoreDigits isDigit rest)

/-- The digits of a decimal whole number: a zero has none behind it. -/
def readWhole : Reader (List Char)
  | '0' :: rest => some (['0'], rest)
  | text => readDigits Char.isDigit text

/-- A sign, if there is one, and whether it is a minus. -/
def readSign : List Char → Bool × List Char
  | '+' :: rest => (false, rest)
  | '-' :: rest => (true, rest)
  | text => (false, text)

/-- An integer, if it is one of 64 bits with a sign. -/
def integer? (value : Int) : Option Value :=
  if -0x8000000000000000 ≤ value ∧ value < 0x8000000000000000 then some (.int value) else none

/-- A number with a fraction or an exponent.  One too great to be finite is refused, one too small
becomes the negative infinity. -/
def float? (negative : Bool) (digits : List Char) (exponent : Int) : Option Value :=
  match Binary64.ofDecimal negative (digitsValue 10 digits) exponent with
  | .infinite false => none
  | value => some (.float value)

/-- The digits of an exponent after its letter, as a number. -/
def readExponent : Reader Int := fun text => do
  let (negative, rest) := readSign text
  let (digits, rest) ← readDigits Char.isDigit rest
  let value : Int := digitsValue 10 digits
  some (if negative then -value else value, rest)

/-- The rest of a decimal number behind its whole part. -/
def readDecimal (negative : Bool) (whole text : List Char) : Option (Value × List Char) := do
  let (fraction, rest) ←
    match text with
    | '.' :: rest => readDigits Char.isDigit rest
    | _ => some ([], text)
  let exponent ←
    match rest with
    | 'e' :: rest | 'E' :: rest => (readExponent rest).map some
    | _ => some none
  match exponent with
  | some (exponent, rest) =>
    let value ← float? negative (whole ++ fraction) (exponent - fraction.length)
    some (value, rest)
  | none =>
    let value : Int := digitsValue 10 whole
    let value ←
      if fraction.isEmpty then integer? (if negative then -value else value)
      else float? negative (whole ++ fraction) (-fraction.length)
    some (value, rest)

/-- An integer in a base that its first two characters name. -/
def readBased (base : Nat) (isDigit : Char → Bool) (text : List Char) :
    Option (Value × List Char) := do
  let (digits, rest) ← readDigits isDigit text
  let value ← integer? (digitsValue base digits)
  some (value, rest)

/-- An octal digit. -/
def isOctalDigit (c : Char) : Bool := '0' ≤ c && c ≤ '7'

/-- A binary digit. -/
def isBinaryDigit (c : Char) : Bool := c = '0' || c = '1'

/-- A number. -/
def readNumber : Reader Value
  | '0' :: 'x' :: rest => readBased 16 isHexDigit rest
  | '0' :: 'o' :: rest => readBased 8 isOctalDigit rest
  | '0' :: 'b' :: rest => readBased 2 isBinaryDigit rest
  | text =>
    let (negative, rest) := readSign text
    match rest with
    | 'i' :: 'n' :: 'f' :: rest => some (.float (.infinite negative), rest)
    | 'n' :: 'a' :: 'n' :: rest => some (.float .nan, rest)
    | _ => do
      let (whole, rest) ← readWhole rest
      readDecimal negative whole rest

/-! ### Dates and times -/

/-- A number of so many digits, within bounds. -/
def readOrdinal (count low high : Nat) : Reader Nat := fun text => do
  let (digits, rest) ← readExactly Char.isDigit count text
  let value := digitsValue 10 digits
  if low ≤ value ∧ value ≤ high then some (value, rest) else none

/-- The rest after a date. -/
def readDate (text : List Char) : Option (List Char) := do
  let (year, rest) ← readOrdinal 4 0 9999 text
  let rest ← readChar '-' rest
  let (month, rest) ← readOrdinal 2 1 12 rest
  let rest ← readChar '-' rest
  let (_, rest) ← readOrdinal 2 1 (daysInMonth year month) rest
  some rest

/-- The rest after a time of day; a minute may have a leap second. -/
def readTime (text : List Char) : Option (List Char) := do
  let (_, rest) ← readOrdinal 2 0 23 text
  let rest ← readChar ':' rest
  let (_, rest) ← readOrdinal 2 0 59 rest
  let rest ← readChar ':' rest
  let (_, rest) ← readOrdinal 2 0 60 rest
  match rest with
  | '.' :: more => some (if more.head?.any Char.isDigit then more.dropWhile Char.isDigit else rest)
  | _ => some rest

/-- The rest after a distance from the universal time. -/
def readOffset : List Char → Option (List Char)
  | 'Z' :: rest | 'z' :: rest => some rest
  | '+' :: rest | '-' :: rest => do
    let (_, rest) ← readOrdinal 2 0 23 rest
    let rest ← readChar ':' rest
    let (_, rest) ← readOrdinal 2 0 59 rest
    some rest
  | _ => none

/-- The rest after a time of day that follows a date. -/
def readTimeOfDate : List Char → Option (List Char)
  | 'T' :: rest | 't' :: rest | ' ' :: rest => do
    let rest ← readTime rest
    some ((readOffset rest).getD rest)
  | _ => none

/-- A date, a time, or both. -/
def readDateTime : Reader Value := fun text =>
  let dated := (readDate text).map fun rest => (readTimeOfDate rest).getD rest
  (dated <|> readTime text).map (.datetime, ·)

/-! ### Scalars -/

/-- A value that is neither an array nor an inline table. -/
def readScalar : Reader Value := fun text =>
  match text with
  | '"' :: _ | '\'' :: _ => (readString text).map fun (value, rest) => (.text value, rest)
  | 't' :: _ => (readText "true".toList text).map (.bool true, ·)
  | 'f' :: _ => (readText "false".toList text).map (.bool false, ·)
  | _ => readDateTime text <|> readNumber text

end ServiceSupervisor.Toml
