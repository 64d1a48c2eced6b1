import PascalLint.Text.Numeral

/-! Diagnostics, what the linter hands to an editor, and their counts.

Lines are counted from one and columns from zero. The summary of two lists one after the other is
the sum of their summaries (`ofList_append`). -/
namespace PascalLint

/-- How a diagnostic is reported. A suppressed one is a warning that the user has muted. -/
inductive Severity where
  | error
  | warning
  | suppressed
deriving DecidableEq

def Severity.name : Severity → Text
  | .error => "error".toList
  | .warning => "warning".toList
  | .suppressed => "suppressed".toList

/-- A compiler message in the editor's terms. The code is empty unless it is a warning's. -/
structure Diagnostic where
  line : Nat
  column : Nat
  severity : Severity
  text : Text
  code : Text
deriving DecidableEq

namespace Diagnostic

def isError (d : Diagnostic) : Bool := d.severity == .error

def isWarning (d : Diagnostic) : Bool := d.severity == .warning

def isSuppressed (d : Diagnostic) : Bool := d.severity == .suppressed

end Diagnostic

/-- The counts of the status line. -/
structure Summary where
  errors : Nat
  warnings : Nat
deriving DecidableEq

namespace Summary

def ofList (diagnostics : List Diagnostic) : Summary :=
  ⟨diagnostics.countP Diagnostic.isError, diagnostics.countP Diagnostic.isWarning⟩

def total (s : Summary) : Nat := s.errors + s.warnings

instance : Add Summary := ⟨fun a b => ⟨a.errors + b.errors, a.warnings + b.warnings⟩⟩

/-- A number with the noun it counts, which has an `s` unless the number is one. -/
def counted (n : Nat) (noun : Text) : Text :=
  Text.ofNat n ++ [' '] ++ noun ++ (if n = 1 then [] else ['s'])

/-- The status line, such as `1 error, 2 warnings`. -/
def status (s : Summary) : Text :=
  counted s.errors "error".toList ++ ", ".toList ++ counted s.warnings "warning".toList

theorem add_def (a b : Summary) : a + b = ⟨a.errors + b.errors, a.warnings + b.warnings⟩ := rfl

@[simp] theorem ofList_nil : ofList [] = ⟨0, 0⟩ := rfl

theorem ofList_append (a b : List Diagnostic) : ofList (a ++ b) = ofList a + ofList b := by
  simp [ofList, add_def]

end Summary

end PascalLint
