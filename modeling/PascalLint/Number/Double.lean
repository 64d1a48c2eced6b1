import PascalLint.Text.Numeral

/-! Floating-point numbers of double precision.

A finite number is a mantissa below 2^53 times a power of two not below 2^-1074. Reading a decimal
takes the nearest such number, of two equally near the one with the even mantissa, and infinity
when the nearest would need a power of two above 2^971. All arithmetic is exact. -/
namespace PascalLint

inductive Double where
  /-- The number `mantissa * 2 ^ exponent`, or its opposite. -/
  | finite (negative : Bool) (mantissa : Nat) (exponent : Int)
  | infinite (negative : Bool)
  | notANumber
deriving DecidableEq

namespace Double

/-- The least exponent. -/
def leastExponent : Int := -1074

/-- The greatest exponent. -/
def greatestExponent : Int := 971

/-- The least mantissa of a number whose exponent is not the least, 2^52. -/
def leastMantissa : Nat := 4503599627370496

/-- A fraction `num / den` times a power of a base, again as a fraction. -/
def scale (base : Nat) (power : Int) (num den : Nat) : Nat × Nat :=
  if 0 ≤ power then (num * Nat.pow base power.toNat, den)
  else (num, den * Nat.pow base (-power).toNat)

/-- The whole number nearest to a fraction, of two the even one. -/
def roundDiv (num den : Nat) : Nat :=
  let quotient := num / den
  let twice := 2 * (num % den)
  if twice < den || (twice == den && quotient % 2 == 0) then quotient else quotient + 1

/-- The exponent of the number nearest to a positive fraction, before rounding: with it the
mantissa has 53 bits, unless it is the least. -/
def exponentOf (num den : Nat) : Int :=
  let guess : Int := (num.log2 : Int) - den.log2
  let (n, d) := scale 2 (-guess) num den
  let floor := if d ≤ n then guess else guess - 1
  max (floor - 52) leastExponent

/-- The number nearest to a fraction. -/
def ofFraction (negative : Bool) (num den : Nat) : Double :=
  if num = 0 then finite negative 0 leastExponent
  else
    let exponent := exponentOf num den
    let (n, d) := scale 2 (-exponent) num den
    let rounded := roundDiv n d
    let (mantissa, exponent) :=
      if rounded = 2 * leastMantissa then (leastMantissa, exponent + 1) else (rounded, exponent)
    if greatestExponent < exponent then infinite negative else finite negative mantissa exponent

/-- The number nearest to `coefficient * 10 ^ power`. Decimals far beyond the finite numbers on
either side are not worked out. -/
def ofDecimal (negative : Bool) (coefficient : Nat) (power : Int) : Double :=
  let magnitude : Int := power + (Text.ofNat coefficient).length
  if coefficient = 0 || magnitude < -400 then finite negative 0 leastExponent
  else if 400 < magnitude then infinite negative
  else
    let (num, den) := scale 10 power coefficient 1
    ofFraction negative num den

end Double

end PascalLint
