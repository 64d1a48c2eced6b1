import PascalLint.Text.Basic

/-! Sets of characters written as ranges of code points.

The properties of the Unicode standard that the linter consults (decimal digits, white space,
letters, printable characters, display width) are tables of this form, one module a property. -/
namespace PascalLint.Text

/-- Ranges of code points, both ends included. -/
abbrev Ranges := List (Nat × Nat)

def Ranges.contains (ranges : Ranges) (c : Char) : Bool :=
  ranges.any fun range => range.1 ≤ c.toNat && c.toNat ≤ range.2

theorem Ranges.contains_eq_true {ranges : Ranges} {c : Char} :
    ranges.contains c = true ↔ ∃ range ∈ ranges, range.1 ≤ c.toNat ∧ c.toNat ≤ range.2 := by
  simp [Ranges.contains]

end PascalLint.Text
