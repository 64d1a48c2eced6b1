import PascalLint.Text.Numeral

/-! Readers, which take what they read from the front of a text. -/
namespace PascalLint.Text

/-- What is read from the front of a text, and the rest. A reader fails where the text does not
begin with what it reads. -/
abbrev Reader (α : Type) := Text → Option (α × Text)

/-- A character in front of what is read after it. Without the character nothing is read. -/
def prepend (c? : Option Char) (read : Option (Text × Text)) : Option (Text × Text) := do
  let c ← c?
  let (text, rest) ← read
  some (c :: text, rest)

/-- The character with a hexadecimal code point. Surrogates are no characters. -/
def ofCodePoint? (digits : Text) : Option Char :=
  let n := valueOf 16 digits
  if digits.all (isDigitIn 16) && n.isValidChar then some (Char.ofNat n) else none

end PascalLint.Text
