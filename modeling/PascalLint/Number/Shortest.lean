import PascalLint.Number.Double

/-! The shortest decimal that reads back as a given floating-point number.

The decimals that read back form an interval around the number, which includes its ends if the
mantissa is even. Grids of one to seventeen significant digits are tried in turn: the number has
two neighbours on a grid, and the first grid with a neighbour in the interval wins, since if any
point of a grid lies in the interval one of the two neighbours does. Of two neighbours in the
interval the nearer is taken, of two equally near the greater. -/
namespace PascalLint.Double

/-- A decimal `coefficient * 10 ^ power`. -/
structure Decimal where
  coefficient : Nat
  power : Int
deriving DecidableEq

/-- The place of the first significant digit of a fraction above `10 ^ -400`: the greatest `p`
with `10 ^ p` not above it. -/
def leadingPlace (num den : Nat) : Int :=
  ((Text.ofNat (num * Nat.pow 10 400 / den)).length : Int) - 401

/-- The decimal of a number of digits that reads back as `mantissa * 2 ^ exponent`, if there is
one. -/
def withDigits? (mantissa : Nat) (exponent : Int) (digits : Nat) : Option Decimal :=
  let (num, den) := scale 2 exponent mantissa 1
  let power := leadingPlace num den - digits + 1
  -- a quarter of the last bit, in units of the grid
  let (n, d) := scale 2 (exponent - 2) 1 1
  let (n, d) := scale 10 (-power) n d
  let value := 4 * mantissa * n
  let below := if mantissa == leastMantissa && leastExponent < exponent then 1 else 2
  let least := (4 * mantissa - below) * n
  let greatest := (4 * mantissa + 2) * n
  let inside (coefficient : Nat) : Bool :=
    let point := coefficient * d
    if mantissa % 2 == 0 then least ≤ point && point ≤ greatest
    else least < point && point < greatest
  let lower := value / d
  let upper := (value + d - 1) / d
  let upperIsNearer := upper * d - value ≤ value - lower * d
  if inside lower && !(inside upper && upperIsNearer) then some ⟨lower, power⟩
  else if inside upper then some ⟨upper, power⟩
  else none

/-- The shortest decimal for a positive number `mantissa * 2 ^ exponent`. Seventeen digits are
always enough. -/
def shortest (mantissa : Nat) (exponent : Int) : Decimal :=
  ((List.range 17).findSome? fun i => withDigits? mantissa exponent (i + 1)).getD ⟨0, 0⟩

/-- A decimal written with a point and at least one digit on either side of it. -/
def Decimal.positional (x : Decimal) : Text :=
  let digits := Text.ofNat x.coefficient
  let kept := (digits.reverse.dropWhile (· == '0')).reverse
  let power := x.power + (digits.length - kept.length : Nat)
  if 0 ≤ power then kept ++ List.replicate power.toNat '0' ++ ".0".toList
  else
    let places := (-power).toNat
    let padded := List.replicate (places + 1 - kept.length) '0' ++ kept
    padded.take (padded.length - places) ++ '.' :: padded.drop (padded.length - places)

/-- A floating-point number in positional notation, always with a point. -/
def text : Double → Text
  | .notANumber => "NaN".toList
  | .infinite negative => (if negative then ['-'] else []) ++ "inf".toList
  | .finite negative mantissa exponent =>
    (if negative then ['-'] else []) ++
      if mantissa = 0 then "0.0".toList else (shortest mantissa exponent).positional

end PascalLint.Double
