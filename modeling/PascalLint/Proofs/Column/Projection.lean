import PascalLint.Proofs.Column.Word

/-! Carets in one line.

Every caret that stands in a word is taken to the place where the word begins
(`identifierStart_of_within`). So correcting a column moves it to the left or not at all, a corrected
column stays where it is, and carets keep their order (`identifierStart_projection`). What stands
after a caret has no say in it. -/
namespace PascalLint

variable {source : Text} {caret start stop : Nat}

/-- A caret in a word that stands alone, its beginning and its end included, is taken to its
beginning. -/
theorem identifierStart_of_within (h : WordBegins source start stop) (hne : start < stop)
    (hstop : stop ≤ source.length) (halone : StandsAlone source start) (hstart : start ≤ caret)
    (hcaret : min caret source.length ≤ stop) : identifierStart source caret = start := by
  have hcut : WordBegins source start (min caret source.length) := h.cut (by omega) hcaret
  rw [identifierStart_of_wordBegins hcut]
  by_cases hlt : start < min caret source.length
  · rw [if_pos ⟨hlt, halone⟩]
  · rw [if_neg fun hword => hlt hword.1]
    omega

/-- The column of the caret stays, or the caret stands in a word that stands alone, or after the word
if it is past the end of the line. -/
theorem identifierStart_eq_or_within (source : Text) (caret : Nat) :
    identifierStart source caret = caret ∨
      ∃ start stop, WordBegins source start stop ∧ start < stop ∧ stop ≤ source.length ∧
        StandsAlone source start ∧ min caret source.length ≤ stop ∧
        identifierStart source caret = start := by
  have hbegins := wordBegins_length_beforeWord source caret
  rw [identifierStart_of_wordBegins hbegins]
  split
  · rename_i hword
    exact .inr ⟨_, _, hbegins, hword.1, Nat.min_le_right _ _, hword.2, Nat.le_refl _, rfl⟩
  · exact .inl rfl

theorem identifierStart_le (source : Text) (caret : Nat) : identifierStart source caret ≤ caret := by
  rw [identifierStart_of_wordBegins (wordBegins_length_beforeWord source caret)]
  split
  · omega
  · exact Nat.le_refl _

/-- Of two carets in one line, the left one is not taken past the right one. -/
theorem monotone_identifierStart (source : Text) : Monotone (identifierStart source) := by
  intro left right hle
  rcases identifierStart_eq_or_within source right with
    hstays | ⟨start, stop, hbegins, hne, hstop, halone, hright, hmoves⟩
  · rw [hstays]
    exact Nat.le_trans (identifierStart_le source left) hle
  · rw [hmoves]
    by_cases hstart : start ≤ left
    · -- The left caret is in the same word.
      have hleft : min left source.length ≤ stop := by omega
      exact Nat.le_of_eq (identifierStart_of_within hbegins hne hstop halone hstart hleft)
    · exact Nat.le_trans (identifierStart_le source left) (by omega)

theorem identifierStart_identifierStart (source : Text) (caret : Nat) :
    identifierStart source (identifierStart source caret) = identifierStart source caret := by
  rcases identifierStart_eq_or_within source caret with
    hstays | ⟨start, stop, hbegins, hne, hstop, halone, -, hmoves⟩
  · rw [hstays, hstays]
  · rw [hmoves]
    exact identifierStart_of_within hbegins hne hstop halone (Nat.le_refl _) (by omega)

theorem identifierStart_append (h : caret ≤ source.length) (after : Text) :
    identifierStart (source ++ after) caret = identifierStart source caret := by
  simp only [identifierStart, List.take_append_of_le_length h]

/-- **Correcting a column is a monotone projection to the left**, and on a line that goes on after the
caret it is what it is on the line up to there. -/
theorem identifierStart_projection (source : Text) :
    (∀ caret, identifierStart source caret ≤ caret) ∧
    (∀ left right, left ≤ right → identifierStart source left ≤ identifierStart source right) ∧
    (∀ caret, identifierStart source (identifierStart source caret) = identifierStart source caret) ∧
    ∀ caret, caret ≤ source.length → ∀ after,
      identifierStart (source ++ after) caret = identifierStart source caret :=
  ⟨identifierStart_le source, fun _ _ hle => monotone_identifierStart source hle,
    identifierStart_identifierStart source, fun _ => identifierStart_append⟩

/-- A word glued to a letter that is not ASCII, where the left caret stays, and a word that goes on
after the line. -/
theorem identifierStart_projection_glued :
    let source := "größe := fo".toList
    5 ≤ 11 ∧ identifierStart source 5 ≤ identifierStart source 11 ∧
      11 ≤ source.length ∧ identifierStart (source ++ "o;".toList) 11 = identifierStart source 11 := by
  intro source
  obtain ⟨-, hmonotone, -, hafter⟩ := identifierStart_projection source
  have hcarets : 5 ≤ 11 := by decide
  have hlength : 11 ≤ source.length := by decide
  exact ⟨hcarets, hmonotone 5 11 hcarets, hlength, hafter 11 hlength "o;".toList⟩

end PascalLint
