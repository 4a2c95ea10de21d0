/-!
Binary floating-point numbers of 64 bits, as exact values.

* `Binary64`: a sign, a mantissa below 2 ^ 53 and a power of two, or an infinity, or no number;
* `Binary64.ofDecimal`: the number nearest to a decimal, a tie going to the even mantissa.

Everything is computed on natural numbers, so no rounding happens but the one that a definition
names.
-/

namespace ServiceSupervisor

/-- A binary floating-point number of 64 bits. -/
inductive Binary64
  /-- The mantissa times a power of two. -/
  | finite (negative : Bool) (mantissa : Nat) (exponent : Int)
  /-- An infinity. -/
  | infinite (negative : Bool)
  /-- No number. -/
  | nan
deriving DecidableEq, Repr, Inhabited

namespace Binary64

/-- The least mantissa with all of its 53 digits: 2 ^ 52. -/
def leastNormal : Nat := 0x10000000000000

/-- The least exponent of a mantissa. -/
def leastExponent : Int := -1074

/-- The greatest exponent of a mantissa. -/
def greatestExponent : Int := 971

/-- A natural number times a power of `base`, as a numerator and a denominator. -/
def scaled (base value : Nat) (exponent : Int) : Nat × Nat :=
  if exponent < 0 then (value, Nat.pow base (-exponent).toNat)
  else (value * Nat.pow base exponent.toNat, 1)

/-- The quotient rounded to the nearest natural number, a half going to the even neighbour. -/
def roundHalfEven (num den : Nat) : Nat :=
  let below := num / den
  let twice := 2 * (num % den)
  if twice < den then below
  else if den < twice then below + 1
  else if below % 2 = 0 then below else below + 1

/-- The exponent of the greatest power of two that is at most a quotient. -/
def floorLog (num den : Nat) : Int :=
  let guess : Int := (num.log2 : Int) - (den.log2 : Int)
  let (power, one) := scaled 2 1 guess
  if num * one < den * power then guess - 1 else guess

/-- The number nearest to a quotient. -/
def nearest (negative : Bool) (num den : Nat) : Binary64 :=
  if num = 0 then .finite negative 0 leastExponent
  else
    let exponent := max (floorLog num den - 52) leastExponent
    let (power, one) := scaled 2 1 exponent
    let mantissa := roundHalfEven (num * one) (den * power)
    let (mantissa, exponent) :=
      if mantissa = 2 * leastNormal then (leastNormal, exponent + 1) else (mantissa, exponent)
    if greatestExponent < exponent then .infinite negative else .finite negative mantissa exponent

/-- The number nearest to `digits * 10 ^ exponent`.  A decimal that is far out of range is never
written out in full. -/
def ofDecimal (negative : Bool) (digits : Nat) (exponent : Int) : Binary64 :=
  let count : Int := (Nat.toDigits 10 digits).length
  if digits = 0 ∨ count + exponent < -400 then .finite negative 0 leastExponent
  else if 400 < exponent then .infinite negative
  else
    let (num, den) := scaled 10 digits exponent
    nearest negative num den

end Binary64

end ServiceSupervisor
