import Mathlib.Order.Bounds.Basic
import PascalLint.Proofs.Column

/-! Words by their places in a line.

A word that ends at a place of a line begins at the least place from which on there are only word
characters (`WordBegins`). The column of a caret is corrected to this place if the word is not empty
and not glued to a letter or digit of another script (`identifierStart_of_wordBegins`). A word cut
short begins where the whole one does (`WordBegins.cut`), which is what ties the columns of two carets
in one line together. -/
namespace PascalLint

variable {source : Text} {caret start stop place : Nat}

/-- From one place up to another there are only word characters. -/
def IsWord (source : Text) (start stop : Nat) : Prop :=
  ∀ i, start ≤ i → i < stop → ∃ c ∈ source[i]?, Text.isWordChar c = true

/-- The word that ends at `stop` begins at `start`, the least place from which on there are only word
characters. A word that is empty begins where it ends. -/
def WordBegins (source : Text) (start stop : Nat) : Prop :=
  IsLeast {i | IsWord source i stop} start

/-- No letter or digit of any script stands right before the place. -/
def StandsAlone (source : Text) (place : Nat) : Prop :=
  place = 0 ∨ ∃ c ∈ source[place - 1]?, Text.isAlphanumeric c = false

instance (source : Text) (place : Nat) : Decidable (StandsAlone source place) :=
  inferInstanceAs (Decidable (_ ∨ _))

/-! ### Characters of words -/

namespace Text
variable {c : Char}

/-- Word characters are the ASCII letters and digits and the underscore. -/
theorem isWordChar_iff : isWordChar c = true ↔ (0x41 ≤ c.toNat ∧ c.toNat ≤ 0x5A) ∨
    (0x61 ≤ c.toNat ∧ c.toNat ≤ 0x7A) ∨ (0x30 ≤ c.toNat ∧ c.toNat ≤ 0x39) ∨ c = '_' := by
  have hclass : isWordChar c = (decide ('A'.val ≤ c.val ∧ c.val ≤ 'Z'.val) ||
      (decide ('a'.val ≤ c.val) && decide (c.val ≤ 'z'.val)) ||
      (decide ('0'.val ≤ c.val) && decide (c.val ≤ '9'.val)) || c == '_') := rfl
  rw [hclass]
  simp [UInt32.le_iff_toNat_le, or_assoc]

theorem toNat_lt_of_isWordChar (h : isWordChar c = true) : c.toNat < 0x80 := by
  rcases isWordChar_iff.mp h with h | h | h | rfl
  · omega
  · omega
  · omega
  · decide

/-- Of the letters and digits, those that are ASCII are word characters. -/
theorem isWordChar_of_isAlphanumeric (hlow : c.toNat < 0x80) (h : isAlphanumeric c = true) :
    isWordChar c = true := by
  obtain ⟨range, hrange, hleast, hgreatest⟩ := Ranges.contains_eq_true.mp h
  have hlower : range ∈ alphanumericRanges.filter (·.1 < 0x80) := by
    rw [List.mem_filter, decide_eq_true_eq]
    exact ⟨hrange, by omega⟩
  have hascii : alphanumericRanges.filter (·.1 < 0x80) =
      [(0x30, 0x39), (0x41, 0x5A), (0x61, 0x7A)] := by decide +kernel
  rw [hascii] at hlower
  simp only [List.mem_cons, List.not_mem_nil, or_false] at hlower
  rw [isWordChar_iff]
  rcases hlower with rfl | rfl | rfl
  · exact .inr (.inr (.inl ⟨hleast, hgreatest⟩))
  · exact .inl ⟨hleast, hgreatest⟩
  · exact .inr (.inl ⟨hleast, hgreatest⟩)

end Text

/-! ### Where a word begins -/

theorem WordBegins.unique {start' : Nat} (h : WordBegins source start stop)
    (h' : WordBegins source start' stop) : start = start' :=
  IsLeast.unique h h'

theorem WordBegins.le (h : WordBegins source start stop) : start ≤ stop :=
  h.2 fun _ hj hstop => absurd hj (Nat.not_le.mpr hstop)

/-- A word that is cut short begins at the same place. -/
theorem WordBegins.cut (h : WordBegins source start stop) (hstart : start ≤ place)
    (hstop : place ≤ stop) : WordBegins source start place := by
  refine ⟨fun j hj hplace => h.1 j hj (Nat.lt_of_lt_of_le hplace hstop), fun i hi => ?_⟩
  by_contra hlt
  have hlonger : IsWord source i stop := by
    intro j hj hjstop
    by_cases hplace : j < place
    · exact hi j hj hplace
    · exact h.1 j (by omega) hjstop
  exact hlt (h.2 hlonger)

/-- Before a word there is no word character. -/
theorem WordBegins.isWordChar_eq_false (h : WordBegins source start stop) (hne : start ≠ 0) {c : Char}
    (hc : c ∈ source[start - 1]?) : Text.isWordChar c = false := by
  by_contra hword
  rw [Bool.not_eq_false] at hword
  have hlonger : start ≤ start - 1 := h.2 fun j hj hstop => by
    by_cases hbefore : j = start - 1
    · exact ⟨c, hbefore ▸ hc, hword⟩
    · exact h.1 j (by omega) hstop
  omega

/-- What is glued to a word is a letter or digit that is not ASCII. -/
theorem WordBegins.standsAlone_or_glued (h : WordBegins source start stop)
    (hstop : stop ≤ source.length) : StandsAlone source start ∨
      ∃ c ∈ source[start - 1]?, Text.isAlphanumeric c = true ∧ 0x80 ≤ c.toNat := by
  by_cases hzero : start = 0
  · exact .inl (.inl hzero)
  · have hstart := h.le
    have hlt : start - 1 < source.length := by omega
    have hc : source[start - 1] ∈ source[start - 1]? := List.getElem?_eq_getElem hlt
    cases hletter : Text.isAlphanumeric source[start - 1] with
    | false => exact .inl (.inr ⟨_, hc, hletter⟩)
    | true =>
      refine .inr ⟨_, hc, hletter, Nat.not_lt.mp fun hlow => ?_⟩
      have hword := Text.isWordChar_of_isAlphanumeric hlow hletter
      rw [h.isWordChar_eq_false hzero hc] at hword
      cases hword

theorem length_beforeWord_add (source : Text) (caret : Nat) :
    (beforeWord source caret).length + (wordBefore source caret).length = min caret source.length := by
  rw [← List.length_append, beforeWord_append_wordBefore, List.length_take]

/-- The last of what stands before the word stands right before it. -/
theorem getElem?_beforeWord (hne : beforeWord source caret ≠ []) :
    source[(beforeWord source caret).length - 1]? = some ((beforeWord source caret).getLast hne) := by
  have hpos := List.length_pos_of_ne_nil hne
  obtain ⟨after, hsource⟩ : beforeWord source caret <+: source :=
    (List.rdropWhile_prefix _ _).trans (List.take_prefix caret source)
  have hbefore : (beforeWord source caret ++ after)[(beforeWord source caret).length - 1]? =
      (beforeWord source caret)[(beforeWord source caret).length - 1]? :=
    List.getElem?_append_left (by omega)
  rw [hsource] at hbefore
  rw [hbefore, ← List.getLast?_eq_getElem?, List.getLast?_eq_getLast_of_ne_nil hne]

theorem getElem?_wordBefore (h : place < min caret source.length)
    (hplace : (beforeWord source caret).length ≤ place) :
    source[place]? = (wordBefore source caret)[place - (beforeWord source caret).length]? := by
  rw [← List.getElem?_append_right hplace, beforeWord_append_wordBefore,
    List.getElem?_take_of_lt (by omega)]

/-- What is left when the word is taken off shows where the word begins. -/
theorem wordBegins_length_beforeWord (source : Text) (caret : Nat) :
    WordBegins source (beforeWord source caret).length (min caret source.length) := by
  have hlength := length_beforeWord_add source caret
  refine ⟨fun j hj hstop => ?_, fun i hi => ?_⟩
  · have hplace : j - (beforeWord source caret).length < (wordBefore source caret).length := by omega
    rw [getElem?_wordBefore hstop hj, List.getElem?_eq_getElem hplace]
    exact ⟨_, rfl, isWordChar_of_mem_wordBefore (List.getElem_mem hplace)⟩
  · by_contra hlt
    have hne : beforeWord source caret ≠ [] := List.ne_nil_of_length_pos (by omega)
    obtain ⟨c, hc, hword⟩ := hi ((beforeWord source caret).length - 1) (by omega) (by omega)
    rw [getElem?_beforeWord hne] at hc
    obtain rfl := Option.some.inj hc
    exact List.rdropWhile_last_not _ _ hne hword

theorem standsAlone_length_beforeWord (source : Text) (caret : Nat) :
    StandsAlone source (beforeWord source caret).length ↔
      ∀ c ∈ (beforeWord source caret).getLast?, Text.isAlphanumeric c = false := by
  by_cases hne : beforeWord source caret = []
  · simp [StandsAlone, hne]
  · rw [StandsAlone, getElem?_beforeWord hne, List.getLast?_eq_getLast_of_ne_nil hne]
    simp [hne]

/-- **The corrected column by places.** -/
theorem identifierStart_of_wordBegins (h : WordBegins source start (min caret source.length)) :
    identifierStart source caret =
      if start < min caret source.length ∧ StandsAlone source start then start else caret := by
  obtain rfl := h.unique (wordBegins_length_beforeWord source caret)
  have hlength := length_beforeWord_add source caret
  rw [identifierStart_eq]
  by_cases hword : wordBefore source caret = []
  · rw [hword, List.length_nil] at hlength
    rw [if_pos hword, if_neg fun hlt => by omega]
  · have hpos := List.length_pos_of_ne_nil hword
    have hlt : (beforeWord source caret).length < min caret source.length := by omega
    have halone := standsAlone_length_beforeWord source caret
    rw [if_neg hword]
    cases hlast : (beforeWord source caret).getLast? with
    | none => simp [hlt, halone, hlast]
    | some c => cases hc : Text.isAlphanumeric c <;> simp [hlt, halone, hlast, hc]

end PascalLint
