import PascalLint.Text.Basic

/-! Numbers written with digits.

Numbers are printed in base ten without leading zeros. A numeral is read by its digits' values;
a count read from outside has to fit a machine word of 64 bits. -/
namespace PascalLint.Text

/-- The decimal digits of a number. -/
def ofNat (n : Nat) : Text := Nat.toDigits 10 n

def ofInt : Int → Text
  | .ofNat n => ofNat n
  | .negSucc n => '-' :: ofNat (n + 1)

/-- The lower-case hexadecimal digits of a number. -/
def hexOfNat (n : Nat) : Text := Nat.toDigits 16 n

/-- The value of a digit in a base up to sixteen; letters count in either case. -/
def digitValue? (base : Nat) (c : Char) : Option Nat :=
  let value? :=
    if '0' ≤ c && c ≤ '9' then some (c.toNat - '0'.toNat)
    else if 'a' ≤ c && c ≤ 'f' then some (c.toNat - 'a'.toNat + 10)
    else if 'A' ≤ c && c ≤ 'F' then some (c.toNat - 'A'.toNat + 10)
    else none
  value?.filter (· < base)

def isDigitIn (base : Nat) (c : Char) : Bool := (digitValue? base c).isSome

/-- The value of a run of digits; a character that is no digit of the base counts as zero. -/
def valueOf (base : Nat) (digits : Text) : Nat :=
  digits.foldl (fun value c => value * base + (digitValue? base c).getD 0) 0

/-- One more than the greatest count a machine word holds, which is 2^64 - 1. -/
def wordLimit : Nat := 18446744073709551616

/-- The count that a numeral stands for: it has to consist of ASCII digits and fit a machine
word. -/
def count? (numeral : Text) : Option Nat :=
  if numeral.isEmpty || !numeral.all (isDigitIn 10) then none
  else
    let value := valueOf 10 numeral
    if value < wordLimit then some value else none

end PascalLint.Text
