import Mathlib.Tactic.SplitIfs
import PascalLint.Text.Order
import PascalLint.Text.Utf8

/-! The order of texts is the order of their bytes.

Texts are compared by the code points of their characters. Encoded in UTF-8 they come in the same
order when they are compared byte by byte: of two characters, the one with the smaller code point has
the smaller byte where their bytes differ first, and neither begins the other
(`utf8EncodeChar_append_lt`). So two texts differ in their bytes within the first character in which
they differ (`precedes_iff_encode_lt`). -/
namespace PascalLint.Utf8

theorem ofNat_lt_ofNat_iff {m n : Nat} (hm : m < 256) (hn : n < 256) :
    UInt8.ofNat m < UInt8.ofNat n ↔ m < n := by
  rw [UInt8.lt_iff_toNat_lt, UInt8.toNat_ofNat_of_lt' hm, UInt8.toNat_ofNat_of_lt' hn]

theorem ofNat_inj_iff {m n : Nat} (hm : m < 256) (hn : n < 256) :
    UInt8.ofNat m = UInt8.ofNat n ↔ m = n := by
  rw [← UInt8.toNat_inj, UInt8.toNat_ofNat_of_lt' hm, UInt8.toNat_ofNat_of_lt' hn]

/-- **The smaller of two characters has the smaller bytes**, whatever follows either. -/
theorem utf8EncodeChar_append_lt {c d : Char} (h : c.toNat < d.toNat) (x y : List UInt8) :
    String.utf8EncodeChar c ++ x < String.utf8EncodeChar d ++ y := by
  have hvalid : d.toNat < 0xD800 ∨ 0xDFFF < d.toNat ∧ d.toNat < 0x110000 := d.valid
  have hval (c : Char) : c.val.toNat = c.toNat := rfl
  simp only [String.utf8EncodeChar, hval]
  generalize c.toNat = m at *
  generalize d.toNat = n at *
  -- The bytes are the digits of the code point in base 64, and digits are compared from the front.
  have hdigit (m n : Nat) : m < n → m / 64 < n / 64 ∨ m / 64 = n / 64 ∧ m % 64 < n % 64 := by omega
  have hlast := hdigit m n h
  have hthird := hdigit (m / 64) (n / 64)
  have hsecond := hdigit (m / 4096) (n / 4096)
  have hfirst : m / 262144 % 8 = m / 262144 ∧ n / 262144 % 8 = n / 262144 := by omega
  simp only [Nat.div_div_eq_div_mul, Nat.reduceMul] at hthird hsecond
  split_ifs
  all_goals
    simp (disch := omega) only [List.cons_append, List.nil_append, List.cons_lt_cons_iff,
      ofNat_lt_ofNat_iff, ofNat_inj_iff]
    omega

theorem encode_lt_of_precedes {a b : Text} (h : Text.precedes a b = true) :
    encode a < encode b := by
  induction a generalizing b with
  | nil =>
    cases b with
    | nil => cases h
    | cons d b =>
      obtain ⟨byte, bytes, hd⟩ := List.exists_cons_of_ne_nil (String.utf8EncodeChar_ne_nil (c := d))
      rw [encode_cons, hd]
      exact List.nil_lt_cons byte _
  | cons c a ih =>
    cases b with
    | nil => cases h
    | cons d b =>
      rw [encode_cons, encode_cons]
      simp only [Text.precedes, Bool.or_eq_true, decide_eq_true_eq, Bool.and_eq_true,
        beq_iff_eq] at h
      rcases h with hlt | ⟨rfl, h⟩
      · exact utf8EncodeChar_append_lt hlt _ _
      · exact List.append_left_lt (ih h)

/-- **Texts come in the order of their bytes.** -/
theorem precedes_iff_encode_lt {a b : Text} :
    Text.precedes a b = true ↔ encode a < encode b := by
  refine ⟨encode_lt_of_precedes, fun h => ?_⟩
  rcases Text.eq_or_precedes a b with rfl | hab | hba
  · exact absurd h (List.lt_irrefl _)
  · exact hab
  · exact absurd h (List.lt_asymm (encode_lt_of_precedes hba))

end PascalLint.Utf8
