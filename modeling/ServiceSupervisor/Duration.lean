/-!
Spans of virtual time, in whole milliseconds.

* `Duration.seconds`: seconds with exactly three decimals, the form of every reported deadline;
* `Duration.millis64`: the length as a number of 64 bits, the form of a deadline in a log line;
* `Duration.compact`: whole milliseconds below one second, else seconds without trailing zeros,
  the form in which a registration logs its deadline.
-/

namespace ServiceSupervisor

/-- A span of time in whole milliseconds. -/
structure Duration where
  /-- The length in milliseconds. -/
  millis : Nat
deriving DecidableEq, Repr, Inhabited

namespace Duration

/-- The empty span. -/
def zero : Duration := ⟨0⟩

/-- A span of whole seconds. -/
def ofSecs (secs : Nat) : Duration := ⟨secs * 1000⟩

/-- The length in milliseconds as a number of 64 bits. -/
def millis64 (d : Duration) : Nat := d.millis % 0x10000000000000000

/-- The milliseconds of a second, as exactly three digits. -/
def thousandths (ms : Nat) : String :=
  let digits := toString ms
  String.ofList (List.replicate (3 - digits.length) '0') ++ digits

/-- Seconds with exactly three decimals: `30.000`. -/
def seconds (d : Duration) : String :=
  toString (d.millis / 1000) ++ "." ++ thousandths (d.millis % 1000)

/-- The text without its trailing zeros. -/
def trimZeros (digits : String) : String :=
  String.ofList (digits.toList.reverse.dropWhile (· == '0')).reverse

/-- The shortest text: `0ns`, `50ms`, `1.5s`, `30s`. -/
def compact (d : Duration) : String :=
  if d.millis = 0 then "0ns"
  else if d.millis < 1000 then toString d.millis ++ "ms"
  else if d.millis % 1000 = 0 then toString (d.millis / 1000) ++ "s"
  else toString (d.millis / 1000) ++ "." ++ trimZeros (thousandths (d.millis % 1000)) ++ "s"

end Duration

end ServiceSupervisor
