import ServiceSupervisor.Text.Unprintable

/-!
Quoted text for diagnostics: the text stands between double quotes, a quote or a backslash is
preceded by a backslash, line feed, carriage return, tab and NUL have their short escapes, and
every other character that would not show by itself is written as `\u` and its code point in
braces.
-/

namespace ServiceSupervisor.Text

/-- The lower-case hexadecimal digits of a number, `0` for zero. -/
def hexDigits (n : Nat) : String := String.ofList (Nat.toDigits 16 n)

/-- How one character is written between the quotes. -/
def escapeChar (c : Char) : String :=
  if c = '"' then "\\\""
  else if c = '\\' then "\\\\"
  else if c = '\n' then "\\n"
  else if c = '\r' then "\\r"
  else if c = '\t' then "\\t"
  else if c = '\x00' then "\\0"
  else if isUnprintable c then "\\u\x7b" ++ hexDigits c.toNat ++ "\x7d"
  else c.toString

/-- The text between double quotes, with every character escaped where it needs to be. -/
def quoted (s : String) : String :=
  "\"" ++ String.join (s.toList.map escapeChar) ++ "\""

end ServiceSupervisor.Text
