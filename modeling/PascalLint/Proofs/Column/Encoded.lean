import PascalLint.Proofs.Column.Word
import PascalLint.Proofs.Text.Decoding

/-! The column of an identifier, found in the bytes of a line.

A line is kept as bytes, so an identifier is looked for from byte to byte, but its column counts
characters. The search (`Utf8.identifierStart`) decodes one character of the line at most: the caret's
column is turned into an offset, word characters are walked back over byte by byte, and the characters
before the word are counted by the bytes that begin them. It finds what is found in the line as text
(`Utf8.identifierStart_encode`), since word characters have one byte each and no byte of another
character looks like one of theirs (`Utf8.rdropWhile_isWordByte_encode`).

With the places of words this says what a corrected column is, in text and in bytes
(`exists_wordBegins_identifierStart_eq`). -/
namespace PascalLint

namespace Utf8

/-- The bytes that continue a character. -/
def isContinuation (byte : UInt8) : Bool := decide (0x80 ≤ byte.toNat) && decide (byte.toNat ≤ 0xBF)

/-- The bytes of word characters. -/
def isWordByte (byte : UInt8) : Bool := Text.isWordChar (Char.ofNat byte.toNat)

/-- The number of bytes before a character, or of all bytes if there is no such character. -/
def offset : List UInt8 → Nat → Nat
  | [], _ => 0
  | byte :: bytes, n =>
    if isContinuation byte then offset bytes n + 1
    else if n = 0 then 0 else offset bytes (n - 1) + 1

/-- The number of characters, counted by the bytes that begin them. -/
def characterCount (bytes : List UInt8) : Nat := bytes.countP (!isContinuation ·)

/-- The column where the identifier that ends before the caret begins, or the caret's column if no
identifier ends there. -/
def identifierStart (line : List UInt8) (caret : Nat) : Nat :=
  let before := line.take (offset line caret)
  let rest := before.rdropWhile isWordByte
  if rest.length = before.length then caret
  else match (decodeLossy rest).getLast? with
    | some c => if Text.isAlphanumeric c then caret else characterCount rest
    | none => characterCount rest

/-! ### The bytes of one character -/

section Character
variable {c : Char}

/-- A character has one byte that begins it, and bytes that continue it after that. -/
theorem exists_utf8EncodeChar_eq (c : Char) : ∃ byte tail, String.utf8EncodeChar c = byte :: tail ∧
    isContinuation byte = false ∧ ∀ next ∈ tail, isContinuation next = true := by
  obtain ⟨byte, lead, tail, hc, hlead, htail, -⟩ := exists_isLead c
  obtain ⟨hleast, -, hgreatest⟩ := hlead.range
  refine ⟨byte, tail, hc, ?_, fun next hnext => ?_⟩
  · simpa [isContinuation] using hlead.not_continuation
  · simpa [isContinuation] using htail.continuation hleast hgreatest next hnext

theorem utf8EncodeChar_ne_nil (c : Char) : String.utf8EncodeChar c ≠ [] := by
  obtain ⟨byte, tail, hc, -⟩ := exists_utf8EncodeChar_eq c
  rw [hc]
  exact List.cons_ne_nil byte tail

theorem utf8EncodeChar_of_lt (h : c.toNat < 0x80) :
    ∃ byte : UInt8, String.utf8EncodeChar c = [byte] ∧ Char.ofNat byte.toNat = c := by
  refine ⟨UInt8.ofNat c.toNat, ?_, ?_⟩
  · have hval : c.val.toNat ≤ 127 := Nat.le_of_lt_succ h
    rw [String.utf8EncodeChar, if_pos hval]
    rfl
  · have hsize : c.toNat < 256 := by omega
    rw [UInt8.toNat_ofNat_of_lt' hsize, Char.ofNat_toNat]

/-- The bytes of a character that has several are greater than those of word characters. -/
theorem isWordByte_eq_false_of_mem (h : 0x80 ≤ c.toNat) {byte : UInt8}
    (hbyte : byte ∈ String.utf8EncodeChar c) : isWordByte byte = false := by
  have hhigh : 0x80 ≤ byte.toNat := by
    obtain ⟨first, lead, tail, hc, hlead, htail, hvalue⟩ := exists_isLead c
    obtain ⟨hleast, -, hgreatest⟩ := hlead.range
    rw [hc, List.mem_cons] at hbyte
    rcases hbyte with rfl | hbyte
    · cases hlead with
      | one _ =>
        obtain rfl : tail = [] := htail
        rwa [← hvalue] at h
      | two hfirst _ => omega
      | three hfirst _ => omega
      | four hfirst _ => omega
    · exact (htail.continuation hleast hgreatest byte hbyte).1
  rw [← Bool.not_eq_true]
  intro hword
  have hlow := Text.toNat_lt_of_isWordChar hword
  have hvalid : byte.toNat.isValidChar := .inl (Nat.lt_trans byte.toNat_lt (by decide))
  rw [Char.ofNat, dif_pos hvalid] at hlow
  exact absurd hlow (Nat.not_lt.mpr hhigh)

/-- Walking back over a character walks back over its bytes, if it is a word character. -/
theorem rdropWhile_isWordByte_append_char (bytes : List UInt8) (c : Char) :
    (bytes ++ String.utf8EncodeChar c).rdropWhile isWordByte =
      if Text.isWordChar c then bytes.rdropWhile isWordByte else bytes ++ String.utf8EncodeChar c := by
  by_cases hlow : c.toNat < 0x80
  · obtain ⟨byte, hbyte, hchar⟩ := utf8EncodeChar_of_lt hlow
    rw [hbyte, List.rdropWhile_concat, isWordByte, hchar]
  · have hword : Text.isWordChar c = false := by
      rw [← Bool.not_eq_true]
      exact mt Text.toNat_lt_of_isWordChar hlow
    have hsplit := List.dropLast_append_getLast (utf8EncodeChar_ne_nil c)
    have hlast := isWordByte_eq_false_of_mem (Nat.not_lt.mp hlow)
      (List.getLast_mem (utf8EncodeChar_ne_nil c))
    rw [hword, ← hsplit, ← List.append_assoc, List.rdropWhile_concat_neg _ _ _ (by simp [hlast])]
    simp

end Character

/-! ### The bytes of a text -/

section Encoded

theorem encode_append (a b : Text) : encode (a ++ b) = encode a ++ encode b := List.flatMap_append

theorem encode_singleton (c : Char) : encode [c] = String.utf8EncodeChar c := List.append_nil _

theorem encode_eq_nil_iff {text : Text} : encode text = [] ↔ text = [] := by
  cases text with
  | nil => simp [encode_nil]
  | cons c text => simp [encode_cons]

/-- Encoded text is decoded to what it was. -/
theorem decodeLossy_encode (text : Text) : decodeLossy (encode text) = text := by
  have hnil : decodeLossy [] = [] := by simp [decodeLossy, characters]
  induction text with
  | nil => exact hnil
  | cons c text ih =>
    have hcut := decodeLossy_append_char [] c (encode text)
    rwa [ih, hnil] at hcut

theorem offset_append_of_continuation {tail : List UInt8}
    (h : ∀ byte ∈ tail, isContinuation byte = true) (bytes : List UInt8) (n : Nat) :
    offset (tail ++ bytes) n = tail.length + offset bytes n := by
  induction tail with
  | nil => simp
  | cons byte tail ih =>
    rw [List.forall_mem_cons] at h
    rw [List.cons_append, offset, if_pos h.1, ih h.2, List.length_cons]
    omega

/-- The bytes before a character are those of the characters before it. -/
theorem take_offset_encode (text : Text) (n : Nat) :
    (encode text).take (offset (encode text) n) = encode (text.take n) := by
  induction text generalizing n with
  | nil => simp [encode_nil]
  | cons c text ih =>
    obtain ⟨byte, tail, hc, hbyte, htail⟩ := exists_utf8EncodeChar_eq c
    rw [encode_cons, hc, List.cons_append, offset, hbyte]
    cases n with
    | zero => rfl
    | succ n =>
      have hplace := offset_append_of_continuation htail (encode text) n
      rw [if_neg Bool.false_ne_true, if_neg n.succ_ne_zero, Nat.add_sub_cancel, hplace,
        List.take_succ_cons, List.take_length_add_append, ih, List.take_succ_cons, encode_cons, hc]
      rfl

/-- **Walking back over the bytes of word characters is walking back over word characters.** -/
theorem rdropWhile_isWordByte_encode (text : Text) :
    (encode text).rdropWhile isWordByte = encode (text.rdropWhile Text.isWordChar) := by
  induction text using List.reverseRecOn with
  | nil => rfl
  | append_singleton text c ih =>
    rw [encode_append, encode_singleton, rdropWhile_isWordByte_append_char, List.rdropWhile_concat, ih]
    split
    · rfl
    · rw [encode_append, encode_singleton]

theorem characterCount_encode (text : Text) : characterCount (encode text) = text.length := by
  induction text with
  | nil => rfl
  | cons c text ih =>
    obtain ⟨byte, tail, hc, hbyte, htail⟩ := exists_utf8EncodeChar_eq c
    have hnone : tail.countP (!isContinuation ·) = 0 :=
      List.countP_eq_zero.mpr fun next hnext => by simp [htail next hnext]
    rw [characterCount] at ih ⊢
    rw [encode_cons, hc, List.countP_append, ih, List.countP_cons, hnone]
    simp [hbyte, Nat.add_comm]

/-- **An identifier is found in the bytes of a line where it is found in the text.** -/
theorem identifierStart_encode (line : Text) (caret : Nat) :
    identifierStart (encode line) caret = PascalLint.identifierStart line caret := by
  have hrest : ((encode line).take (offset (encode line) caret)).rdropWhile isWordByte =
      encode (beforeWord line caret) := by
    rw [take_offset_encode, rdropWhile_isWordByte_encode]
    rfl
  have hempty : (encode (beforeWord line caret)).length =
      ((encode line).take (offset (encode line) caret)).length ↔ wordBefore line caret = [] := by
    rw [take_offset_encode, ← beforeWord_append_wordBefore, encode_append, List.length_append,
      Nat.left_eq_add, List.length_eq_zero_iff, encode_eq_nil_iff]
  rw [identifierStart_eq]
  by_cases hword : wordBefore line caret = []
  · simp only [identifierStart, hrest, hempty, if_pos hword]
  · cases hlast : (beforeWord line caret).getLast? <;>
      simp only [identifierStart, hrest, hempty, if_neg hword, decodeLossy_encode,
        characterCount_encode, hlast]

end Encoded

end Utf8

/-- **What a corrected column is.** Up to the caret, or up to the end of the line if the caret is past
it, the line ends in a word, perhaps an empty one. If the word is not empty and stands alone, the
column is the place where it begins, counted in characters; otherwise it is the caret's column,
wherever the caret is. What a word can be glued to is a letter or digit that is not ASCII. The bytes
of the line lead to the same column as its characters. -/
theorem exists_wordBegins_identifierStart_eq (source : Text) (caret : Nat) :
    let stop := min caret source.length
    ∃ start, WordBegins source start stop ∧
      identifierStart source caret =
        (if start < stop ∧ StandsAlone source start then start else caret) ∧
      (StandsAlone source start ∨
        ∃ c ∈ source[start - 1]?, Text.isAlphanumeric c = true ∧ 0x80 ≤ c.toNat) ∧
      Utf8.identifierStart (Utf8.encode source) caret = identifierStart source caret := by
  intro stop
  have hbegins := wordBegins_length_beforeWord source caret
  exact ⟨_, hbegins, identifierStart_of_wordBegins hbegins,
    hbegins.standsAlone_or_glued (Nat.min_le_right _ _), Utf8.identifierStart_encode source caret⟩

/-- A word that is glued to a letter of two bytes, and one behind such a letter. -/
example : identifierStart "éab".toList 3 = 3 ∧
    Utf8.identifierStart (Utf8.encode "'é' ab".toList) 6 = 4 := by decide +kernel

end PascalLint
