import PascalLint.Text.Basic

/-! The order of texts by the code points of their characters.

Texts compare at the first place where they differ, and a text comes before every longer one that
it begins. The order is strict and any two different texts are ordered (`eq_or_precedes`). -/
namespace PascalLint.Text

/-- Whether a text comes before another. -/
def precedes : Text → Text → Bool
  | _, [] => false
  | [], _ :: _ => true
  | a :: as, b :: bs => decide (a.toNat < b.toNat) || (a == b && precedes as bs)

theorem precedes_irrefl (a : Text) : precedes a a = false := by
  induction a with
  | nil => rfl
  | cons c rest ih => simp [precedes, ih]

theorem precedes_trans {a b c : Text} (hab : precedes a b = true) (hbc : precedes b c = true) :
    precedes a c = true := by
  induction a generalizing b c with
  | nil =>
    cases c with
    | nil => cases b <;> simp [precedes] at hbc
    | cons => rfl
  | cons x a ih =>
    cases b with
    | nil => simp [precedes] at hab
    | cons y b =>
      cases c with
      | nil => simp [precedes] at hbc
      | cons z c =>
        simp only [precedes, Bool.or_eq_true, Bool.and_eq_true, beq_iff_eq,
          decide_eq_true_eq] at hab hbc ⊢
        rcases hab with hxy | ⟨rfl, hab⟩
        · rcases hbc with hyz | ⟨rfl, -⟩
          · exact .inl (Nat.lt_trans hxy hyz)
          · exact .inl hxy
        · rcases hbc with hyz | ⟨rfl, hbc⟩
          · exact .inl hyz
          · exact .inr ⟨rfl, ih hab hbc⟩

theorem precedes_asymm {a b : Text} (h : precedes a b = true) : precedes b a = false := by
  cases hba : precedes b a with
  | false => rfl
  | true => rw [← precedes_irrefl a, precedes_trans h hba]

theorem eq_or_precedes (a b : Text) : a = b ∨ precedes a b = true ∨ precedes b a = true := by
  induction a generalizing b with
  | nil => cases b <;> simp [precedes]
  | cons x a ih =>
    cases b with
    | nil => simp [precedes]
    | cons y b =>
      rcases Nat.lt_trichotomy x.toNat y.toNat with h | h | h
      · simp [precedes, h]
      · have hxy : x = y := Char.toNat_inj.mp h
        subst hxy
        rcases ih b with rfl | h | h <;> simp_all [precedes]
      · simp [precedes, h]

end PascalLint.Text
