import PascalLint.Text.Alphanumeric
import PascalLint.Text.Basic

/-! The column at which an identifier starts.

The compiler puts its caret under the end of the offending token. Editors want the start, so the
word characters that end before the caret are walked back over. A run of word characters that
continues a longer word, because a letter or digit of another script stands right before it, is
no identifier of the language, and the caret's column stays. -/
namespace PascalLint

/-- The column where the identifier that ends before the caret begins, or the caret's column if
no identifier ends there. Both count characters of the line. -/
def identifierStart (line : Text) (caret : Nat) : Nat :=
  let before := (line.take caret).reverse
  let rest := before.dropWhile Text.isWordChar
  if rest.length = before.length then caret
  else match rest.head? with
    | some c => if Text.isAlphanumeric c then caret else rest.length
    | none => rest.length

end PascalLint
