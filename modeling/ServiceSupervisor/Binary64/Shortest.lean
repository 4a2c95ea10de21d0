import ServiceSupervisor.Binary64

/-!
The shortest decimal text of a binary floating-point number.

* `Binary64.Interval`: the decimals that are read as one number;
* `Binary64.shortest`: the fewest digits of a decimal in that interval, and of those the digits
  nearest to the number;
* `Binary64.FloatFormat`: where a format writes an exponent and which way it breaks a tie;
* `Binary64.write`: the text.
-/

namespace ServiceSupervisor.Binary64

/-- The value of a number and the two ends of the interval of all reals that round to it, over
one denominator. -/
structure Interval where
  /-- The lower end. -/
  low : Nat
  /-- The number itself. -/
  value : Nat
  /-- The upper end. -/
  high : Nat
  /-- The common denominator. -/
  den : Nat
  /-- Whether the ends themselves round to the number. -/
  closed : Bool

/-- The interval of a positive mantissa: it reaches half way to the two neighbours, the lower of
which is nearer when the mantissa is a power of two. -/
def intervalOf (mantissa : Nat) (exponent : Int) : Interval :=
  let (power, den) := scaled 2 1 (exponent - 2)
  let below := if mantissa = leastNormal ∧ leastExponent < exponent then 1 else 2
  { low := (4 * mantissa - below) * power
    value := 4 * mantissa * power
    high := (4 * mantissa + 2) * power
    den := den
    closed := mantissa % 2 = 0 }

/-- Whether `digits * 10 ^ place` is in the interval. -/
def Interval.contains (i : Interval) (digits : Nat) (place : Int) : Bool :=
  let (num, den) := scaled 10 digits place
  let position := num * i.den
  if i.closed then i.low * den ≤ position && position ≤ i.high * den
  else i.low * den < position && position < i.high * den

/-- Decimal digits and the power of ten that they are multiplied by. -/
structure Decimal where
  /-- The digits, as a number. -/
  digits : Nat
  /-- The power of ten. -/
  place : Int
deriving DecidableEq, Repr

/-- How a format writes numbers. -/
structure FloatFormat where
  /-- The least position of the decimal point, counted from the first digit, that is written
  without an exponent. -/
  leastPoint : Option Int
  /-- The greatest such position. -/
  greatestPoint : Option Int
  /-- Whether a number half way between two decimals gets the greater one, and else the one with
  an even last digit. -/
  tieUp : Bool

/-- Numbers without an exponent, however long. -/
def FloatFormat.positional : FloatFormat := ⟨none, none, true⟩

/-- Numbers with an exponent below `0.00001` and from `10000000000000000.0` on. -/
def FloatFormat.scientific : FloatFormat := ⟨some (-4), some 16, false⟩

/-- The decimal of a given place that is in the interval and nearest to the number. -/
def Interval.decimalAt? (format : FloatFormat) (i : Interval) (place : Int) : Option Decimal :=
  let (power, down) := scaled 10 1 place
  let below := i.value * down / (i.den * power)
  match i.contains below place, i.contains (below + 1) place with
  | false, false => none
  | true, false => some ⟨below, place⟩
  | false, true => some ⟨below + 1, place⟩
  | true, true =>
    let twice := 2 * (i.value * down % (i.den * power))
    let up :=
      if twice = i.den * power then format.tieUp || below % 2 = 1 else i.den * power < twice
    some ⟨if up then below + 1 else below, place⟩

/-- The position of the first digit of a quotient, counted from the decimal point: a quotient
from one to below ten has its first digit at place zero. -/
def leadingPlace (num den : Nat) : Int :=
  ((Nat.toDigits 10 (num * Nat.pow 10 400 / den)).length : Int) - 401

/-- The fewest digits that are read as the number, and of those the nearest; seventeen digits
always suffice. -/
def shortest (format : FloatFormat) (mantissa : Nat) (exponent : Int) : Decimal :=
  let i := intervalOf mantissa exponent
  let leading := leadingPlace i.value i.den
  ((List.range 17).findSome? fun (more : Nat) =>
    i.decimalAt? format (leading - more)).getD ⟨0, 0⟩

/-- The text without its trailing zeros. -/
def trimZeros (digits : List Char) : List Char := (digits.reverse.dropWhile (· == '0')).reverse

/-- Digits with the decimal point at a position counted from the first of them. -/
def pointAt (digits : List Char) (point : Int) : List Char :=
  if point ≤ 0 then '0' :: '.' :: (List.replicate (-point).toNat '0' ++ digits)
  else if (digits.length : Int) ≤ point then
    digits ++ List.replicate (point.toNat - digits.length) '0' ++ ['.', '0']
  else digits.take point.toNat ++ '.' :: digits.drop point.toNat

/-- Digits with an exponent behind them, which counts from the first digit. -/
def withExponent (digits : List Char) (point : Int) : List Char :=
  let mantissa :=
    match digits with
    | first :: second :: rest => first :: '.' :: second :: rest
    | short => short
  mantissa ++ 'e' :: (toString (point - 1)).toList

/-- The text of a number. -/
def write (format : FloatFormat) : Binary64 → String
  | .nan => "NaN"
  | .infinite negative => if negative then "-inf" else "inf"
  | .finite negative mantissa exponent =>
    let sign := if negative then "-" else ""
    if mantissa = 0 then sign ++ "0.0"
    else
      let decimal := shortest format mantissa exponent
      let written := Nat.toDigits 10 decimal.digits
      let point := (written.length : Int) + decimal.place
      let digits := trimZeros written
      let fits :=
        format.leastPoint.all (· ≤ point) && format.greatestPoint.all (point ≤ ·)
      sign ++ String.ofList (if fits then pointAt digits point else withExponent digits point)

end ServiceSupervisor.Binary64
