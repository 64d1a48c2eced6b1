import Mathlib.Tactic.SplitIfs
import PascalLint.Text.Utf8

/-! The bytes of a character.

A character is a lead byte and the bytes that continue it. Which bytes may continue a lead byte
(`Fits`) and which character they make (`value`) is what the encoding comes to, in both directions
(`exists_isLead`, `utf8EncodeChar_value`). So the decoder takes up either one whole character or the
longest beginning of one, where nothing can be begun with what follows (`go_cases`). -/
namespace PascalLint.Utf8

variable {byte : UInt8} {lead lead' : Lead} {bytes tail tail' rest : List UInt8} {c d : Char}
  {left : Nat} {least greatest : UInt8}

/-! ### Continuation bytes -/

/-- The bytes continue a character: as many as are left, the first of them in a range and the others
in the range of all continuation bytes. -/
def Fits : Nat → UInt8 → UInt8 → List UInt8 → Prop
  | 0, _, _, bytes => bytes = []
  | _ + 1, _, _, [] => False
  | left + 1, least, greatest, byte :: bytes =>
    (least.toNat ≤ byte.toNat ∧ byte.toNat ≤ greatest.toNat) ∧ Fits left 0x80 0xBF bytes

@[simp] theorem fits_succ_cons : Fits (left + 1) least greatest (byte :: tail) ↔
    (least.toNat ≤ byte.toNat ∧ byte.toNat ≤ greatest.toNat) ∧ Fits left 0x80 0xBF tail := Iff.rfl

/-- The code point of the bits of a lead byte with the bytes that continue it. -/
def value (bits : Nat) (tail : List UInt8) : Nat :=
  tail.foldl (fun bits byte => bits * 0x40 + (byte.toNat - 0x80)) bits

theorem value_cons (bits : Nat) (byte : UInt8) (tail : List UInt8) :
    value bits (byte :: tail) = value (bits * 0x40 + (byte.toNat - 0x80)) tail := by
  simp only [value, List.foldl_cons]

@[simp] theorem value_nil (bits : Nat) : value bits [] = bits := rfl

theorem Fits.length_eq (h : Fits left least greatest tail) : tail.length = left := by
  induction tail generalizing left least greatest with
  | nil =>
    cases left with
    | zero => rfl
    | succ => exact h.elim
  | cons byte tail ih =>
    cases left with
    | zero => cases h
    | succ left => rw [List.length_cons, ih h.2]

/-- Bytes that continue a character can be found for every lead byte. -/
theorem exists_fits (left : Nat) (h : least.toNat ≤ greatest.toNat) :
    ∃ tail, Fits left least greatest tail := by
  induction left generalizing least greatest with
  | zero => exact ⟨[], rfl⟩
  | succ left ih =>
    have hrange : (0x80 : UInt8).toNat ≤ (0xBF : UInt8).toNat := by decide
    obtain ⟨tail, htail⟩ := ih hrange
    exact ⟨least :: tail, ⟨Nat.le_refl _, h⟩, htail⟩

theorem Fits.continuation (h : Fits left least greatest tail) (hleast : 0x80 ≤ least.toNat)
    (hgreatest : greatest.toNat ≤ 0xBF) : ∀ byte ∈ tail, 0x80 ≤ byte.toNat ∧ byte.toNat ≤ 0xBF := by
  induction tail generalizing left least greatest with
  | nil => exact List.forall_mem_nil _
  | cons byte tail ih =>
    cases left with
    | zero => cases h
    | succ left =>
      rw [List.forall_mem_cons]
      exact ⟨⟨Nat.le_trans hleast h.1.1, Nat.le_trans h.1.2 hgreatest⟩,
        ih h.2 (by decide) (by decide)⟩

/-- The bytes begin what continues a character but do not end it, and no byte that follows them
continues it further. -/
structure Stops (left : Nat) (least greatest : UInt8) (tail rest : List UInt8) : Prop where
  unfinished : ∃ more, more ≠ [] ∧ Fits left least greatest (tail ++ more)
  stuck : ∀ byte ∈ rest.head?, ∀ more, ¬ Fits left least greatest (tail ++ byte :: more)

theorem Stops.cons (h : Stops left 0x80 0xBF tail rest)
    (hbyte : least.toNat ≤ byte.toNat ∧ byte.toNat ≤ greatest.toNat) :
    Stops (left + 1) least greatest (byte :: tail) rest where
  unfinished := by
    obtain ⟨more, hne, hmore⟩ := h.unfinished
    exact ⟨more, hne, fits_succ_cons.mpr ⟨hbyte, hmore⟩⟩
  stuck := fun next hnext more hfits => h.stuck next hnext more (fits_succ_cons.mp hfits).2

/-- Where nothing is taken up, one byte at least is missing. -/
theorem stops_nil (h : least.toNat ≤ greatest.toNat) (hrest : ∀ byte ∈ rest.head?,
    ¬ (least.toNat ≤ byte.toNat ∧ byte.toNat ≤ greatest.toNat)) :
    Stops (left + 1) least greatest [] rest where
  unfinished := by
    obtain ⟨tail, htail⟩ := exists_fits (left + 1) h
    have hne : tail ≠ [] := by
      rintro rfl
      exact htail
    exact ⟨tail, hne, htail⟩
  stuck := fun next hnext more hfits => hrest next hnext (fits_succ_cons.mp hfits).1

/-- The decoder takes up all bytes that continue a character, or as many as it can. -/
theorem go_cases (bits left : Nat) (least greatest : UInt8) (h : least.toNat ≤ greatest.toNat)
    (bytes : List UInt8) : ∃ tail rest, bytes = tail ++ rest ∧
      (Fits left least greatest tail ∧
          continueWith.go bits left least greatest bytes = (some (value bits tail), rest) ∨
        Stops left least greatest tail rest ∧
          continueWith.go bits left least greatest bytes = (none, rest)) := by
  induction bytes generalizing bits left least greatest with
  | nil =>
    cases left with
    | zero => exact ⟨[], [], rfl, .inl ⟨rfl, rfl⟩⟩
    | succ left => exact ⟨[], [], rfl, .inr ⟨stops_nil h nofun, rfl⟩⟩
  | cons byte bytes ih =>
    cases left with
    | zero => exact ⟨[], byte :: bytes, rfl, .inl ⟨rfl, rfl⟩⟩
    | succ left =>
      rw [continueWith.go]
      by_cases hbyte : least.toNat ≤ byte.toNat ∧ byte.toNat ≤ greatest.toNat
      · have hrange : (decide (least ≤ byte) && decide (byte ≤ greatest)) = true := by
          simpa [UInt8.le_iff_toNat_le] using hbyte
        rw [if_pos hrange]
        obtain ⟨tail, rest, rfl, hgo⟩ :=
          ih (bits * 0x40 + (byte.toNat - 0x80)) left 0x80 0xBF (by decide)
        rw [← value_cons bits] at hgo
        exact ⟨byte :: tail, rest, rfl, hgo.imp (And.imp_left fun hfits => ⟨hbyte, hfits⟩)
          (And.imp_left fun hstops => hstops.cons hbyte)⟩
      · have hrange : ¬ (decide (least ≤ byte) && decide (byte ≤ greatest)) = true := by
          simpa [UInt8.le_iff_toNat_le] using hbyte
        rw [if_neg hrange]
        refine ⟨[], byte :: bytes, rfl, .inr ⟨stops_nil h ?_, rfl⟩⟩
        simpa using hbyte

/-! ### Lead bytes -/

/-- The bytes that begin a character, by how many continue it. -/
inductive IsLead (byte : UInt8) : Lead → Prop
  | one (h : byte.toNat < 0x80) : IsLead byte ⟨byte.toNat, 0, 0x80, 0xBF⟩
  | two (h : 0xC2 ≤ byte.toNat) (h' : byte.toNat < 0xE0) :
      IsLead byte ⟨byte.toNat - 0xC0, 1, 0x80, 0xBF⟩
  | three (h : 0xE0 ≤ byte.toNat) (h' : byte.toNat < 0xF0) :
      IsLead byte ⟨byte.toNat - 0xE0, 2, if byte.toNat = 0xE0 then 0xA0 else 0x80,
        if byte.toNat = 0xED then 0x9F else 0xBF⟩
  | four (h : 0xF0 ≤ byte.toNat) (h' : byte.toNat ≤ 0xF4) :
      IsLead byte ⟨byte.toNat - 0xF0, 3, if byte.toNat = 0xF0 then 0x90 else 0x80,
        if byte.toNat = 0xF4 then 0x8F else 0xBF⟩

theorem lead?_eq_some_iff : lead? byte = some lead ↔ IsLead byte lead := by
  constructor
  · intro h
    simp only [lead?] at h
    split_ifs at h with h1 h2 h3 h4 h5 h6 h7 h8 h9
    all_goals simp only [Option.some.injEq] at h
    all_goals subst h
    · exact .one h1
    · exact .two (by omega) h3
    · simpa [h4] using @IsLead.three byte (by omega) (by omega)
    · simpa [h5] using @IsLead.three byte (by omega) (by omega)
    · simpa [h4, h5] using @IsLead.three byte (by omega) h6
    · simpa [h7] using @IsLead.four byte (by omega) (by omega)
    · have h9 : byte.toNat ≠ 0xF4 := by omega
      simpa [h7, h9] using @IsLead.four byte (by omega) (by omega)
    · simpa [h9] using @IsLead.four byte (by omega) (by omega)
  · intro h
    cases h with
    | one h => grind [lead?]
    | two h h' => grind [lead?]
    | three h h' => grind [lead?]
    | four h h' => grind [lead?]

theorem IsLead.unique (h : IsLead byte lead) (h' : IsLead byte lead') : lead = lead' := by
  rw [← lead?_eq_some_iff] at h h'
  exact Option.some.inj (h.symm.trans h')

/-- The bytes that may continue a lead byte are continuation bytes. -/
theorem IsLead.range (h : IsLead byte lead) : 0x80 ≤ lead.least.toNat ∧
    lead.least.toNat ≤ lead.greatest.toNat ∧ lead.greatest.toNat ≤ 0xBF := by
  cases h with
  | one => dsimp only; decide
  | two => dsimp only; decide
  | three =>
    dsimp only
    split_ifs <;> first | decide | omega
  | four =>
    dsimp only
    split_ifs <;> first | decide | omega

/-- A lead byte is no continuation byte. -/
theorem IsLead.not_continuation (h : IsLead byte lead) :
    ¬ (0x80 ≤ byte.toNat ∧ byte.toNat ≤ 0xBF) := by
  cases h <;> omega

/-! ### Characters -/

/-- The bytes of a character are a lead byte and what continues it. -/
theorem exists_isLead (c : Char) : ∃ byte lead tail, String.utf8EncodeChar c = byte :: tail ∧
    IsLead byte lead ∧ Fits lead.continuations lead.least lead.greatest tail ∧
    value lead.bits tail = c.toNat := by
  have hvalid : c.toNat < 0xD800 ∨ 0xDFFF < c.toNat ∧ c.toNat < 0x110000 := c.valid
  have hval : c.val.toNat = c.toNat := rfl
  simp only [String.utf8EncodeChar, hval]
  generalize c.toNat = n at *
  have hbyte (m : Nat) (h : m < 256) : (UInt8.ofNat m).toNat = m := UInt8.toNat_ofNat_of_lt' h
  have hcontinuation (m : Nat) : (UInt8.ofNat (m % 64 + 128)).toNat = m % 64 + 128 :=
    hbyte _ (by omega)
  split_ifs with h1 h2 h3
  · exact ⟨_, _, _, rfl, .one (by rw [hbyte] <;> omega), rfl, hbyte n (by omega)⟩
  · have hlead : (UInt8.ofNat (n / 64 % 32 + 192)).toNat = n / 64 + 192 := by
      rw [hbyte] <;> omega
    refine ⟨_, _, _, rfl, .two (by omega) (by omega), ?_, ?_⟩
    · simp only [Fits, hcontinuation]
      simp; omega
    · simp only [value_cons, value_nil, hlead, hcontinuation]
      omega
  · have hlead : (UInt8.ofNat (n / 4096 % 16 + 224)).toNat = n / 4096 + 224 := by
      rw [hbyte] <;> omega
    refine ⟨_, _, _, rfl, .three (by omega) (by omega), ?_, ?_⟩
    · simp only [Fits, hcontinuation, hlead]
      split_ifs <;> simp <;> omega
    · simp only [value_cons, value_nil, hlead, hcontinuation]
      omega
  · have hlead : (UInt8.ofNat (n / 262144 % 8 + 240)).toNat = n / 262144 + 240 := by
      rw [hbyte] <;> omega
    refine ⟨_, _, _, rfl, .four (by omega) (by omega), ?_, ?_⟩
    · simp only [Fits, hcontinuation, hlead]
      split_ifs <;> simp <;> omega
    · simp only [value_cons, value_nil, hlead, hcontinuation]
      omega

/-- A lead byte and what continues it are the bytes of a character. -/
theorem utf8EncodeChar_value (hlead : IsLead byte lead)
    (htail : Fits lead.continuations lead.least lead.greatest tail) :
    String.utf8EncodeChar (Char.ofNat (value lead.bits tail)) = byte :: tail := by
  have hchar {n : Nat} (h : n < 0xD800 ∨ 0xDFFF < n ∧ n < 0x110000) :
      (Char.ofNat n).val.toNat = n := by
    rw [Char.ofNat, dif_pos h]
    rfl
  have hbyte {m : Nat} {b : UInt8} (h : m = b.toNat) : UInt8.ofNat m = b := by
    rw [h, UInt8.ofNat_toNat]
  cases hlead with
  | one h =>
    obtain rfl : tail = [] := htail
    dsimp only
    rw [value_nil, String.utf8EncodeChar, hchar (by omega), if_pos (by omega), hbyte rfl]
  | two h h' =>
    match tail, htail with
    | [x], htail =>
      dsimp only at htail ⊢
      obtain ⟨hx, -⟩ : (0x80 ≤ x.toNat ∧ x.toNat ≤ 0xBF) ∧ _ := htail
      rw [value_cons, value_nil, String.utf8EncodeChar, hchar (by omega), if_neg (by omega),
        if_pos (by omega), hbyte (b := byte) (by omega), hbyte (b := x) (by omega)]
  | three h h' =>
    match tail, htail with
    | [x, y], htail =>
      dsimp only at htail ⊢
      obtain ⟨hx, hy, -⟩ : (_ ∧ _) ∧ (0x80 ≤ y.toNat ∧ y.toNat ≤ 0xBF) ∧ _ := htail
      -- `E0` leaves out overlong forms, `ED` surrogates.
      have hx : (0x80 ≤ x.toNat ∧ x.toNat ≤ 0xBF) ∧ (byte.toNat = 0xE0 → 0xA0 ≤ x.toNat) ∧
          (byte.toNat = 0xED → x.toNat ≤ 0x9F) := by
        split_ifs at hx <;> simp at hx <;> omega
      rw [value_cons, value_cons, value_nil, String.utf8EncodeChar, hchar (by omega),
        if_neg (by omega), if_neg (by omega), if_pos (by omega), hbyte (b := byte) (by omega), hbyte (b := x) (by omega),
        hbyte (b := y) (by omega)]
  | four h h' =>
    match tail, htail with
    | [x, y, z], htail =>
      dsimp only at htail ⊢
      obtain ⟨hx, hy, hz, -⟩ : (_ ∧ _) ∧ (0x80 ≤ y.toNat ∧ y.toNat ≤ 0xBF) ∧
        (0x80 ≤ z.toNat ∧ z.toNat ≤ 0xBF) ∧ _ := htail
      -- `F0` leaves out overlong forms, `F4` what is beyond the last code point.
      have hx : (0x80 ≤ x.toNat ∧ x.toNat ≤ 0xBF) ∧ (byte.toNat = 0xF0 → 0x90 ≤ x.toNat) ∧
          (byte.toNat = 0xF4 → x.toNat ≤ 0x8F) := by
        split_ifs at hx <;> simp at hx <;> omega
      rw [value_cons, value_cons, value_cons, value_nil, String.utf8EncodeChar, hchar (by omega),
        if_neg (by omega), if_neg (by omega), if_neg (by omega), hbyte (b := byte) (by omega), hbyte (b := x) (by omega),
        hbyte (b := y) (by omega), hbyte (b := z) (by omega)]

end PascalLint.Utf8
