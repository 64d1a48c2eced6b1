/-! Text as the linter handles it, a list of characters.

A text is cut into pieces at the characters of a class, which is how compiler output falls into
lines (`lines`), a list of codes into codes and a search path into folders. A piece is never
lost: there is one more of them than there are separators (`length_pieces`), and lines joined
again by line feeds give the text back (`join_lines`). -/
namespace PascalLint

abbrev Text := List Char

namespace Text

/-- The pieces between the characters of a class; without such a character, the whole text. -/
def pieces (isSeparator : Char → Bool) : Text → List Text
  | [] => [[]]
  | c :: rest =>
    if isSeparator c then [] :: pieces isSeparator rest
    else match pieces isSeparator rest with
      | [] => [[c]]
      | piece :: more => (c :: piece) :: more

def lines (text : Text) : List Text := pieces (· == '\n') text

/-- The texts one after the other, with a separator between neighbours. -/
def join (separator : Text) : List Text → Text
  | [] => []
  | [text] => text
  | text :: more => text ++ separator ++ join separator more

/-- The texts one after the other, each ended by a line feed. -/
def unlines (texts : List Text) : Text := texts.flatMap fun text => text ++ ['\n']

/-- The text without one carriage return at its end, if it has one there. -/
def dropReturn (text : Text) : Text :=
  if text.getLast? = some '\r' then text.dropLast else text

/-- The text filled up with blanks on the right to a given length. -/
def padRight (size : Nat) (text : Text) : Text :=
  text ++ List.replicate (size - text.length) ' '

theorem pieces_ne_nil (isSeparator : Char → Bool) (text : Text) :
    pieces isSeparator text ≠ [] := by
  induction text with
  | nil => simp [pieces]
  | cons c rest ih =>
    rw [pieces]
    split
    · simp
    · split <;> simp

theorem pieces_cons_separator {isSeparator : Char → Bool} {c : Char} (h : isSeparator c = true)
    (rest : Text) : pieces isSeparator (c :: rest) = [] :: pieces isSeparator rest := by
  simp [pieces, h]

theorem pieces_of_forall {isSeparator : Char → Bool} {text : Text}
    (h : ∀ c ∈ text, isSeparator c = false) : pieces isSeparator text = [text] := by
  induction text with
  | nil => rfl
  | cons c rest ih =>
    rw [List.forall_mem_cons] at h
    simp [pieces, h.1, ih h.2]

/-- Cutting a text that holds a separator cuts what stands before it and what stands after. -/
theorem pieces_append_separator {isSeparator : Char → Bool} {c : Char} (h : isSeparator c = true)
    (a b : Text) : pieces isSeparator (a ++ c :: b) =
      pieces isSeparator a ++ pieces isSeparator b := by
  induction a with
  | nil => simp [pieces, h]
  | cons d a ih =>
    rw [List.cons_append, pieces, pieces, ih]
    split
    · rfl
    · match hp : pieces isSeparator a with
      | [] => exact absurd hp (pieces_ne_nil _ _)
      | piece :: more => rfl

/-- There is one more piece than there are separators. -/
theorem length_pieces (isSeparator : Char → Bool) (text : Text) :
    (pieces isSeparator text).length = text.countP isSeparator + 1 := by
  induction text with
  | nil => rfl
  | cons c rest ih =>
    rw [pieces, List.countP_cons]
    split
    · simp_all
    · match hp : pieces isSeparator rest with
      | [] => exact absurd hp (pieces_ne_nil _ _)
      | piece :: more => simp_all

theorem join_cons_of_ne_nil (separator text : Text) {more : List Text} (h : more ≠ []) :
    join separator (text :: more) = text ++ separator ++ join separator more := by
  match more, h with
  | _ :: _, _ => rfl

/-- Lines joined again by line feeds give the text back. -/
theorem join_lines (text : Text) : join ['\n'] (lines text) = text := by
  induction text with
  | nil => rfl
  | cons c rest ih =>
    unfold lines at ih ⊢
    rw [pieces]
    split
    · rename_i h
      rw [join_cons_of_ne_nil _ _ (pieces_ne_nil _ _), ih]
      simp_all
    · match hp : pieces (· == '\n') rest with
      | [] => exact absurd hp (pieces_ne_nil _ _)
      | [piece] =>
        rw [hp] at ih
        exact congrArg (c :: ·) ih
      | piece :: next :: more =>
        rw [hp] at ih
        exact congrArg (c :: ·) ih

end Text

end PascalLint
