import Mathlib.Data.List.DropRight
import PascalLint.Column

/-! The identifier that ends before the caret.

The line up to the caret ends in a run of word characters, which may be empty (`wordBefore`), with
something before it (`beforeWord`). A corrected column is the length of what stands before a run
that is not empty (`identifierStart_eq`). -/
namespace PascalLint

/-- The word characters that end before the caret. -/
def wordBefore (line : Text) (caret : Nat) : Text := (line.take caret).rtakeWhile Text.isWordChar

/-- What stands before the word characters that end before the caret. -/
def beforeWord (line : Text) (caret : Nat) : Text := (line.take caret).rdropWhile Text.isWordChar

theorem beforeWord_append_wordBefore (line : Text) (caret : Nat) :
    beforeWord line caret ++ wordBefore line caret = line.take caret :=
  List.rdropWhile_append_rtakeWhile

theorem isWordChar_of_mem_wordBefore {line : Text} {caret : Nat} {c : Char}
    (h : c ∈ wordBefore line caret) : Text.isWordChar c = true :=
  List.mem_rtakeWhile_imp h

theorem identifierStart_eq (line : Text) (caret : Nat) : identifierStart line caret =
    if wordBefore line caret = [] then caret
    else match (beforeWord line caret).getLast? with
      | some c => if Text.isAlphanumeric c then caret else (beforeWord line caret).length
      | none => (beforeWord line caret).length := by
  have hrest : (beforeWord line caret).reverse =
      (line.take caret).reverse.dropWhile Text.isWordChar := by
    rw [beforeWord, List.rdropWhile, List.reverse_reverse]
  have hlength : (beforeWord line caret).length + (wordBefore line caret).length =
      (line.take caret).reverse.length := by
    rw [← List.length_append, beforeWord_append_wordBefore, List.length_reverse]
  have hempty : (beforeWord line caret).length = (line.take caret).reverse.length ↔
      wordBefore line caret = [] := by
    rw [← List.length_eq_zero_iff]
    omega
  simp only [identifierStart, ← hrest, List.length_reverse, List.head?_reverse] at hempty ⊢
  exact if_congr hempty rfl rfl

/-- The column of the caret stays, or it is corrected to the beginning of a word. -/
theorem identifierStart_cases (line : Text) (caret : Nat) : identifierStart line caret = caret ∨
    wordBefore line caret ≠ [] ∧ identifierStart line caret = (beforeWord line caret).length := by
  rw [identifierStart_eq]
  split
  · exact .inl rfl
  · rename_i hword
    split
    · split
      · exact .inl rfl
      · exact .inr ⟨hword, rfl⟩
    · exact .inr ⟨hword, rfl⟩

end PascalLint
