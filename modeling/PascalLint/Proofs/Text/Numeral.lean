import PascalLint.Text.DecimalDigit
import PascalLint.Text.Numeral

/-! Numerals and what they count.

A numeral is read as a count exactly if it is digits whose decimal value fits a machine word
(`count?_eq`); digits of other scripts and greater values are refused, however many zeros there are in
front. So printed numbers are read back (`count?_ofNat`). -/
namespace PascalLint.Text

theorem digitValue?_of_isDigit {c : Char} (h : c.isDigit = true) :
    digitValue? 10 c = some (c.toNat - '0'.toNat) := by
  have hrange : 48 ≤ c.toNat ∧ c.toNat ≤ 57 := Char.isDigit_iff_toNat.mp h
  have hle : '0' ≤ c ∧ c ≤ '9' := ⟨hrange.1, hrange.2⟩
  have hlt : c.toNat - 48 < 10 := by omega
  simp [digitValue?, hle, hlt]

theorem isDecimalDigit_of_isDigit {c : Char} (h : c.isDigit = true) :
    isDecimalDigit c = true :=
  Ranges.contains_eq_true.mpr ⟨(0x30, 0x39), List.mem_cons_self, Char.isDigit_iff_toNat.mp h⟩

theorem isDigit_of_mem_ofNat {n : Nat} {c : Char} (h : c ∈ ofNat n) : c.isDigit = true :=
  Nat.isDigit_of_mem_toDigits (by decide) (by decide) h

theorem ofNat_ne_nil (n : Nat) : ofNat n ≠ [] := Nat.toDigits_ne_nil

theorem not_mem_ofNat {n : Nat} {c : Char} (h : c.isDigit = false) : c ∉ ofNat n := by
  intro hmem
  rw [isDigit_of_mem_ofNat hmem] at h
  cases h

/-- Different numbers are printed differently. -/
theorem ofNat_inj {m n : Nat} (h : ofNat m = ofNat n) : m = n := by
  have hvalue := congrArg (Nat.ofDigitChars 10 · 0) h
  simpa only [ofNat, Nat.ofDigitChars_ten_toDigits] using hvalue

/-- The value of a run of digits. -/
theorem valueOf_eq_ofDigitChars {digits : Text} (h : ∀ c ∈ digits, c.isDigit = true) :
    valueOf 10 digits = Nat.ofDigitChars 10 digits 0 := by
  suffices ∀ value, digits.foldl (fun value c => value * 10 + (digitValue? 10 c).getD 0) value =
      Nat.ofDigitChars 10 digits value from this 0
  induction digits with
  | nil => intro value; rw [Nat.ofDigitChars_nil]; rfl
  | cons c digits ih =>
    rw [List.forall_mem_cons] at h
    intro value
    rw [List.foldl_cons, Nat.ofDigitChars_cons, digitValue?_of_isDigit h.1, Nat.mul_comm value]
    exact ih h.2 _

theorem isDigitIn_ten (c : Char) : isDigitIn 10 c = c.isDigit := by
  cases h : c.isDigit with
  | true =>
    rw [isDigitIn, digitValue?_of_isDigit h]
    rfl
  | false =>
    have hrange : ¬('0' ≤ c ∧ c ≤ '9') := by
      intro hrange
      rw [Char.isDigit_iff_toNat.mpr hrange] at h
      cases h
    -- a letter counts for ten or more
    simp only [isDigitIn, digitValue?, Bool.and_eq_true, decide_eq_true_eq, if_neg hrange]
    split
    · simp
    · split <;> simp

/-- **A numeral is a count** if it is digits whose value fits a machine word. -/
theorem count?_eq (numeral : Text) : count? numeral =
    if numeral ≠ [] ∧ numeral.all Char.isDigit = true ∧
        Nat.ofDigitChars 10 numeral 0 < wordLimit then
      some (Nat.ofDigitChars 10 numeral 0)
    else none := by
  have hdigits : numeral.all (isDigitIn 10) = numeral.all Char.isDigit := by
    rw [funext isDigitIn_ten]
  rw [count?, hdigits]
  by_cases hne : numeral = []
  · simp [hne]
  by_cases hall : numeral.all Char.isDigit = true
  · have hvalue := valueOf_eq_ofDigitChars (List.all_eq_true.mp hall)
    simp [hne, hall, hvalue]
  · simp [hne, hall]

/-- **A count is read back as it is printed.** -/
theorem count?_ofNat {n : Nat} (h : n < wordLimit) : count? (ofNat n) = some n := by
  have hall : (ofNat n).all Char.isDigit = true :=
    List.all_eq_true.mpr fun c hc => isDigit_of_mem_ofNat hc
  have hvalue : Nat.ofDigitChars 10 (ofNat n) 0 = n := Nat.ofDigitChars_ten_toDigits
  rw [count?_eq, hvalue, if_pos ⟨ofNat_ne_nil n, hall, h⟩]

end PascalLint.Text
