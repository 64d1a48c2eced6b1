import PascalLint.Proofs.Text.Encoding
import PascalLint.Proofs.Text.Lines

/-! What decoding makes of bytes.

Any bytes are cut in one way only into characters and stray pieces (`cut_iff_eq_pieces`), and
decoding keeps each character and puts one replacement character in the place of each stray piece
(`decodeLossy_eq_map_shown`). A stray piece is as long as it can be, so it may have more bytes than
one: a character that the bytes leave unfinished is one piece. A character ends a piece before it and
begins a new one after it, so wherever its bytes stand, they are read as the character
(`pieces_append_char`). In particular every line is decoded for itself (`lines_decodeLossy`). -/
namespace PascalLint.Utf8

variable {byte : UInt8} {bytes rest a b : List UInt8} {c d : Char}

/-! ### Whole and unfinished characters -/

/-- The bytes begin a character, if only in part. -/
def Begins (bytes : List UInt8) : Prop := ∃ c, bytes <+: String.utf8EncodeChar c

theorem Begins.of_isPrefix (h : Begins b) (hbegin : a <+: b) : Begins a :=
  h.imp fun _ hc => hbegin.trans hc

/-- What begins a character is a lead byte and some of what continues it. -/
theorem begins_cons_iff : Begins (byte :: bytes) ↔ ∃ lead, IsLead byte lead ∧
    ∃ more, Fits lead.continuations lead.least lead.greatest (bytes ++ more) := by
  constructor
  · rintro ⟨c, more, hmore⟩
    obtain ⟨first, lead, tail, hc, hlead, htail, -⟩ := exists_isLead c
    rw [hc, List.cons_append, List.cons.injEq] at hmore
    obtain ⟨rfl, rfl⟩ := hmore
    exact ⟨lead, hlead, more, htail⟩
  · rintro ⟨lead, hlead, more, hmore⟩
    exact ⟨_, more, (utf8EncodeChar_value hlead hmore).symm⟩

/-- After its first byte, a character has continuation bytes only. -/
theorem Begins.continuation (h : Begins (byte :: bytes)) :
    ∀ next ∈ bytes, 0x80 ≤ next.toNat ∧ next.toNat ≤ 0xBF := by
  obtain ⟨lead, hlead, more, hmore⟩ := begins_cons_iff.mp h
  obtain ⟨hleast, -, hgreatest⟩ := hlead.range
  exact fun next hnext => hmore.continuation hleast hgreatest next (List.mem_append_left _ hnext)

/-- A character does not begin where another goes on. -/
theorem not_begins_append_char (hne : a ≠ []) (hb : b <+: String.utf8EncodeChar c) (hb' : b ≠ []) :
    ¬ Begins (a ++ b) := by
  intro h
  obtain ⟨first, lead, tail, hc, hlead, -⟩ := exists_isLead c
  obtain ⟨x, a, rfl⟩ := List.exists_cons_of_ne_nil hne
  obtain ⟨y, b, rfl⟩ := List.exists_cons_of_ne_nil hb'
  rw [hc, List.cons_prefix_cons] at hb
  obtain ⟨rfl, -⟩ := hb
  exact hlead.not_continuation (h.continuation y (by simp))

theorem utf8EncodeChar_injective (h : String.utf8EncodeChar c = String.utf8EncodeChar d) :
    c = d := by
  obtain ⟨x, lead, tail, hc, hlead, -, hvalue⟩ := exists_isLead c
  obtain ⟨y, lead', tail', hd, hlead', -, hvalue'⟩ := exists_isLead d
  rw [hc, hd, List.cons.injEq] at h
  obtain ⟨rfl, rfl⟩ := h
  obtain rfl := hlead.unique hlead'
  exact Char.toNat_inj.mp (hvalue.symm.trans hvalue')

/-- Bytes begin with one character at most. -/
theorem char_unique (hc : String.utf8EncodeChar c <+: bytes)
    (hd : String.utf8EncodeChar d <+: bytes) : c = d := by
  obtain ⟨x, lead, tail, hcbytes, hlead, htail, -⟩ := exists_isLead c
  obtain ⟨y, lead', tail', hdbytes, hlead', htail', -⟩ := exists_isLead d
  apply utf8EncodeChar_injective
  have hlength : (String.utf8EncodeChar c).length = (String.utf8EncodeChar d).length := by
    rw [hcbytes] at hc
    rw [hdbytes] at hd
    obtain ⟨_, rfl⟩ := hc
    obtain rfl := (List.cons_prefix_cons.mp hd).1
    rw [hcbytes, hdbytes, List.length_cons, List.length_cons, htail.length_eq, htail'.length_eq,
      hlead.unique hlead']
  exact (List.prefix_of_prefix_length_le hc hd hlength.le).eq_of_length hlength

/-! ### Pieces -/

/-- Bytes that are a stray piece before the rest: no character begins there, and the piece is one
byte or the beginning of a character, as long as it can be. -/
structure IsStray (piece rest : List UInt8) : Prop where
  ne_nil : piece ≠ []
  no_char : ∀ c, ¬ String.utf8EncodeChar c <+: piece ++ rest
  one_or_begins : piece.length = 1 ∨ Begins piece
  longest : ∀ byte ∈ rest.head?, ¬ Begins (piece ++ [byte])

/-- Of two stray pieces at one place none is longer. -/
theorem IsStray.length_le {rest' : List UInt8} (ha : IsStray a rest) (hb : IsStray b rest')
    (h : a ++ rest = b ++ rest') : b.length ≤ a.length := by
  by_contra hlt
  rw [not_le] at hlt
  have hbegin : a <+: b :=
    List.prefix_of_prefix_length_le (List.prefix_append a rest) ⟨rest', h.symm⟩ hlt.le
  obtain ⟨more, rfl⟩ := hbegin
  cases more with
  | nil => simp at hlt
  | cons byte more =>
    have hrest : rest = byte :: more ++ rest' := by simpa using h
    have hbegins : Begins (a ++ byte :: more) := by
      refine hb.one_or_begins.resolve_left ?_
      have hpos := List.length_pos_iff.mpr ha.ne_nil
      simp only [List.length_append, List.length_cons]
      omega
    refine ha.longest byte (by simp [hrest]) (hbegins.of_isPrefix ⟨more, ?_⟩)
    rw [List.append_assoc, List.singleton_append]

/-- Where a piece holds no character and cannot be longer, no character begins. -/
theorem not_char_of_longest (hpiece : ∀ c, ¬ String.utf8EncodeChar c <+: a)
    (hlongest : ∀ byte ∈ rest.head?, ¬ Begins (a ++ [byte])) (c : Char) :
    ¬ String.utf8EncodeChar c <+: a ++ rest := by
  intro h
  rcases List.prefix_or_prefix_of_prefix h (List.prefix_append a rest) with hc | ⟨more, hmore⟩
  · exact hpiece c hc
  · cases more with
    | nil =>
      rw [List.append_nil] at hmore
      exact hpiece c (hmore ▸ List.prefix_refl a)
    | cons byte more =>
      rw [← hmore, List.prefix_append_right_inj] at h
      obtain ⟨rest, rfl⟩ := h
      refine hlongest byte (by simp) ⟨c, more, ?_⟩
      rw [← hmore, List.append_assoc, List.singleton_append]

/-- A byte that begins no character is a stray piece. -/
theorem isStray_singleton (h : lead? byte = none) (rest : List UInt8) : IsStray [byte] rest := by
  have hbegins (bytes : List UInt8) : ¬ Begins (byte :: bytes) := by
    rw [begins_cons_iff]
    rintro ⟨lead, hlead, -⟩
    rw [lead?_eq_some_iff.mpr hlead] at h
    cases h
  have hpiece (c : Char) : ¬ String.utf8EncodeChar c <+: [byte] := by
    intro hc
    have hone : String.utf8EncodeChar c = [byte] :=
      hc.eq_of_length_le (by simpa using Nat.succ_le_of_lt c.utf8Size_pos)
    exact hbegins [] ⟨c, hone ▸ List.prefix_refl _⟩
  exact ⟨List.cons_ne_nil _ _, not_char_of_longest hpiece fun next _ => hbegins [next], .inl rfl,
    fun next _ => hbegins [next]⟩

/-- A character that the bytes leave unfinished is a stray piece. -/
theorem isStray_of_stops {lead : Lead} {tail : List UInt8} (hlead : IsLead byte lead)
    (h : Stops lead.continuations lead.least lead.greatest tail rest) :
    IsStray (byte :: tail) rest := by
  obtain ⟨more, hne, hmore⟩ := h.unfinished
  have hwhole := utf8EncodeChar_value hlead hmore
  have hpiece (c : Char) : ¬ String.utf8EncodeChar c <+: byte :: tail := by
    intro hc
    have hbegin : byte :: tail <+: byte :: (tail ++ more) := ⟨more, rfl⟩
    rw [← hwhole] at hbegin
    obtain rfl := char_unique (hc.trans hbegin) (List.prefix_refl _)
    rw [hwhole, List.cons_prefix_cons] at hc
    exact hne (List.append_right_eq_self.mp (hc.2.eq_of_length_le (by simp)))
  have hlongest : ∀ next ∈ rest.head?, ¬ Begins (byte :: tail ++ [next]) := by
    intro next hnext
    rw [List.cons_append, begins_cons_iff]
    rintro ⟨lead', hlead', more, hmore⟩
    obtain rfl := hlead.unique hlead'
    refine h.stuck next hnext more ?_
    rwa [List.append_assoc] at hmore
  exact ⟨List.cons_ne_nil _ _, not_char_of_longest hpiece hlongest,
    .inr (begins_cons_iff.mpr ⟨lead, hlead, more, hmore⟩), hlongest⟩

/-! ### Pieces -/

/-- A part of a byte sequence, a character or bytes that belong to none. -/
inductive Piece where
  | char (c : Char)
  | stray (bytes : List UInt8)
deriving DecidableEq

namespace Piece

def encoding : Piece → List UInt8
  | char c => String.utf8EncodeChar c
  | stray bytes => bytes

def char? : Piece → Option Char
  | char c => some c
  | stray _ => none

/-- The character that stands for a piece in decoded text. -/
def shown (p : Piece) : Char := p.char?.getD replacement

/-- The characters that would stand for a piece if each stray byte were a character. -/
def shownByByte : Piece → Text
  | char c => [c]
  | stray bytes => List.replicate bytes.length replacement

/-- The piece is a character or one stray byte. -/
def IsSingle : Piece → Prop
  | char _ => True
  | stray bytes => bytes.length = 1

instance : DecidablePred IsSingle
  | char _ => .isTrue trivial
  | stray bytes => inferInstanceAs (Decidable (bytes.length = 1))

/-- A piece may stand before some bytes. -/
def Precedes : Piece → List UInt8 → Prop
  | char _, _ => True
  | stray bytes, rest => IsStray bytes rest

theorem Precedes.encoding_ne_nil {p : Piece} (h : p.Precedes rest) : p.encoding ≠ [] := by
  cases p with
  | char c => exact String.utf8EncodeChar_ne_nil
  | stray bytes => exact IsStray.ne_nil h

/-- At most one piece may stand at one place. -/
theorem Precedes.unique {p q : Piece} {rest' : List UInt8} (hp : p.Precedes rest)
    (hq : q.Precedes rest') (h : p.encoding ++ rest = q.encoding ++ rest') : p = q := by
  cases p with
  | char c =>
    cases q with
    | char d => exact congrArg char (char_unique (List.prefix_append _ rest) ⟨rest', h.symm⟩)
    | stray b => exact absurd ⟨rest, h⟩ (IsStray.no_char hq c)
  | stray a =>
    cases q with
    | char d => exact absurd ⟨rest', h.symm⟩ (IsStray.no_char hp d)
    | stray b =>
      have hlength : a.length = b.length :=
        Nat.le_antisymm (IsStray.length_le hq hp h.symm) (IsStray.length_le hp hq h)
      exact congrArg stray (List.append_inj_left h hlength)

end Piece

/-- The bytes are cut into pieces. -/
inductive Cut : List Piece → List UInt8 → Prop
  | nil : Cut [] []
  | cons {p : Piece} {ps : List Piece} {rest : List UInt8} (hp : p.Precedes rest)
      (hps : Cut ps rest) : Cut (p :: ps) (p.encoding ++ rest)

theorem Cut.encoding_ne_nil {ps : List Piece} (h : Cut ps bytes) : ∀ p ∈ ps, p.encoding ≠ [] := by
  induction h with
  | nil => exact List.forall_mem_nil _
  | cons hp _ ih => exact List.forall_mem_cons.mpr ⟨hp.encoding_ne_nil, ih⟩

/-- Bytes are cut in one way only. -/
theorem Cut.unique {ps qs : List Piece} (hp : Cut ps bytes) (hq : Cut qs bytes) : ps = qs := by
  induction hp generalizing qs with
  | nil =>
    generalize hbytes : ([] : List UInt8) = bytes at hq
    cases hq with
    | nil => rfl
    | cons hq _ => exact absurd (List.append_eq_nil_iff.mp hbytes.symm).1 hq.encoding_ne_nil
  | @cons p ps rest hp _ ih =>
    generalize hbytes : p.encoding ++ rest = bytes at hq
    cases hq with
    | nil => exact absurd (List.append_eq_nil_iff.mp hbytes).1 hp.encoding_ne_nil
    | @cons q qs rest' hq hqs =>
      obtain rfl := hp.unique hq hbytes
      obtain rfl := List.append_cancel_left hbytes
      rw [ih hqs]

/-! ### The pieces that the decoder takes up -/

/-- The piece that is taken up first. -/
def firstPiece (byte : UInt8) (bytes : List UInt8) : Piece :=
  match (next byte bytes).1 with
  | some c => .char c
  | none => .stray (byte :: bytes.take (bytes.length - (next byte bytes).2.length))

/-- The pieces of bytes. -/
def pieces : List UInt8 → List Piece
  | [] => []
  | byte :: bytes => firstPiece byte bytes :: pieces (next byte bytes).2
termination_by bytes => bytes.length
decreasing_by exact Nat.lt_succ_of_le (length_next_le ..)

/-- The decoder takes up a piece that may stand there. -/
theorem firstPiece_spec (byte : UInt8) (bytes : List UInt8) :
    (next byte bytes).1 = (firstPiece byte bytes).char? ∧
      (firstPiece byte bytes).Precedes (next byte bytes).2 ∧
      byte :: bytes = (firstPiece byte bytes).encoding ++ (next byte bytes).2 := by
  cases hlead : lead? byte with
  | none =>
    have hnext : next byte bytes = (none, bytes) := by simp only [next, hlead]
    have hfirst : firstPiece byte bytes = .stray [byte] := by simp [firstPiece, hnext]
    rw [hfirst, hnext]
    exact ⟨rfl, isStray_singleton hlead bytes, rfl⟩
  | some lead =>
    have hlead' := lead?_eq_some_iff.mp hlead
    obtain ⟨tail, rest, rfl, hgo⟩ := go_cases lead.bits lead.continuations lead.least lead.greatest
      hlead'.range.2.1 bytes
    rcases hgo with ⟨hfits, hgo⟩ | ⟨hstops, hgo⟩
    · have hnext : next byte (tail ++ rest) = (some (Char.ofNat (value lead.bits tail)), rest) := by
        simp only [next, hlead, continueWith, hgo, Option.map_some]
      have hfirst : firstPiece byte (tail ++ rest) = .char (Char.ofNat (value lead.bits tail)) := by
        simp only [firstPiece, hnext]
      rw [hfirst, hnext]
      exact ⟨rfl, trivial, (congrArg (· ++ rest) (utf8EncodeChar_value hlead' hfits)).symm⟩
    · have hnext : next byte (tail ++ rest) = (none, rest) := by
        simp only [next, hlead, continueWith, hgo, Option.map_none]
      have hfirst : firstPiece byte (tail ++ rest) = .stray (byte :: tail) := by
        simp [firstPiece, hnext]
      rw [hfirst, hnext]
      exact ⟨rfl, isStray_of_stops hlead' hstops, rfl⟩

theorem cut_pieces (bytes : List UInt8) : Cut (pieces bytes) bytes := by
  induction bytes using pieces.induct with
  | case1 =>
    rw [pieces]
    exact .nil
  | case2 byte bytes ih =>
    obtain ⟨-, hprecedes, hbytes⟩ := firstPiece_spec byte bytes
    rw [pieces, hbytes]
    exact .cons hprecedes ih

/-- The pieces are the one way to cut bytes. -/
theorem cut_iff_eq_pieces {ps : List Piece} : Cut ps bytes ↔ ps = pieces bytes := by
  constructor
  · exact fun h => h.unique (cut_pieces bytes)
  · rintro rfl
    exact cut_pieces bytes

/-- **Decoding shows each piece as one character.** -/
theorem decodeLossy_eq_map_shown (bytes : List UInt8) :
    decodeLossy bytes = (pieces bytes).map Piece.shown := by
  induction bytes using pieces.induct with
  | case1 =>
    rw [decodeLossy, characters, pieces]
    rfl
  | case2 byte bytes ih =>
    obtain ⟨hchar, -⟩ := firstPiece_spec byte bytes
    rw [decodeLossy] at ih
    rw [decodeLossy, characters, pieces, List.map_cons, List.map_cons, ih, hchar]
    rfl

/-! ### Where a character stands -/

/-- A character after a stray piece does not make it longer. -/
theorem IsStray.append_char (h : IsStray a rest) (c : Char) (b : List UInt8) :
    IsStray a (rest ++ (String.utf8EncodeChar c ++ b)) := by
  have hpiece (d : Char) : ¬ String.utf8EncodeChar d <+: a :=
    fun hd => h.no_char d (hd.trans (List.prefix_append a rest))
  have hlongest : ∀ byte ∈ (rest ++ (String.utf8EncodeChar c ++ b)).head?,
      ¬ Begins (a ++ [byte]) := by
    intro byte hbyte
    cases rest with
    | nil =>
      obtain ⟨first, tail, hc⟩ := List.exists_cons_of_ne_nil (String.utf8EncodeChar_ne_nil (c := c))
      obtain rfl : first = byte := by simpa [hc] using hbyte
      have hfirst : [first] <+: String.utf8EncodeChar c := ⟨tail, hc.symm⟩
      exact not_begins_append_char h.ne_nil hfirst (List.cons_ne_nil _ _)
    | cons next rest => exact h.longest byte hbyte
  exact ⟨h.ne_nil, not_char_of_longest hpiece hlongest, h.one_or_begins, hlongest⟩

theorem Cut.append_char {ps qs : List Piece} (ha : Cut ps a) (hb : Cut qs b) (c : Char) :
    Cut (ps ++ .char c :: qs) (a ++ (String.utf8EncodeChar c ++ b)) := by
  induction ha with
  | nil => exact .cons (p := .char c) trivial hb
  | @cons p ps rest hp _ ih =>
    rw [List.cons_append, List.append_assoc]
    refine .cons ?_ ih
    cases p with
    | char => trivial
    | stray => exact IsStray.append_char hp c b

/-- **Wherever the bytes of a character stand, they are read as the character**, and what stands
before them and after them is read for itself. -/
theorem pieces_append_char (a : List UInt8) (c : Char) (b : List UInt8) :
    pieces (a ++ (String.utf8EncodeChar c ++ b)) = pieces a ++ .char c :: pieces b :=
  (cut_iff_eq_pieces.mp ((cut_pieces a).append_char (cut_pieces b) c)).symm

theorem decodeLossy_append_char (a : List UInt8) (c : Char) (b : List UInt8) :
    decodeLossy (a ++ (String.utf8EncodeChar c ++ b)) = decodeLossy a ++ c :: decodeLossy b := by
  simp only [decodeLossy_eq_map_shown, pieces_append_char, List.map_append, List.map_cons]
  rfl

/-! ### Lines -/

/-- The byte of a line feed. -/
def newlineByte : UInt8 := 0x0A

theorem decodeLossy_append_newline (a b : List UInt8) :
    decodeLossy (a ++ newlineByte :: b) = decodeLossy a ++ '\n' :: decodeLossy b :=
  decodeLossy_append_char a '\n' b

/-- The bytes of a piece are some of the bytes. -/
theorem Cut.mem_of_mem_encoding {ps : List Piece} {p : Piece} (h : Cut ps bytes) (hp : p ∈ ps)
    (hbyte : byte ∈ p.encoding) : byte ∈ bytes := by
  induction h with
  | nil => cases hp
  | @cons q ps rest _ _ ih =>
    rw [List.mem_append]
    rcases List.mem_cons.mp hp with rfl | hp
    · exact .inl hbyte
    · exact .inr (ih hp)

theorem newline_not_mem_decodeLossy (h : newlineByte ∉ bytes) : '\n' ∉ decodeLossy bytes := by
  rw [decodeLossy_eq_map_shown, List.mem_map]
  rintro ⟨p, hp, hshown⟩
  cases p with
  | char c =>
    obtain rfl : c = '\n' := hshown
    exact h ((cut_pieces bytes).mem_of_mem_encoding hp (List.mem_singleton.mpr rfl))
  | stray => exact absurd hshown (show replacement ≠ '\n' by decide)

/-- **Every line is decoded for itself.** -/
theorem lines_decodeLossy (bytes : List UInt8) :
    Text.lines (decodeLossy bytes) = (bytes.splitOn newlineByte).map decodeLossy := by
  induction hn : bytes.length using Nat.strong_induction_on generalizing bytes with
  | h n ih =>
    by_cases hmem : newlineByte ∈ bytes
    · obtain ⟨a, b, rfl⟩ := List.append_of_mem hmem
      simp only [List.length_append, List.length_cons] at hn
      rw [decodeLossy_append_newline, Text.lines, Text.pieces_append_separator (by rfl),
        List.splitOn_append_cons_self, List.map_append, ← ih a.length (by omega) a rfl,
        ← ih b.length (by omega) b rfl]
      rfl
    · rw [List.splitOn_eq_singleton hmem, Text.lines_of_not_mem (newline_not_mem_decodeLossy hmem)]
      rfl

/-! ### Counting stray bytes -/

namespace Piece
variable {p : Piece} {ps : List Piece}

theorem length_shownByByte (h : p.encoding ≠ []) :
    1 ≤ p.shownByByte.length ∧ (p.shownByByte.length = 1 ↔ p.IsSingle) := by
  cases p with
  | char => exact ⟨Nat.le_refl 1, iff_of_true rfl trivial⟩
  | stray bytes =>
    rw [shownByByte, List.length_replicate]
    exact ⟨List.length_pos_iff.mpr h, Iff.rfl⟩

theorem shownByByte_of_isSingle (h : p.IsSingle) : p.shownByByte = [p.shown] := by
  cases p with
  | char => rfl
  | stray bytes =>
    rw [IsSingle] at h
    rw [shownByByte, h]
    rfl

/-- Pieces stand for as many characters as there are characters and stray bytes only if each stray
piece is one byte; else there are fewer. -/
theorem length_flatMap_shownByByte (h : ∀ p ∈ ps, p.encoding ≠ []) :
    ps.length ≤ (ps.flatMap shownByByte).length ∧
      (ps.length = (ps.flatMap shownByByte).length ↔ ∀ p ∈ ps, p.IsSingle) := by
  induction ps with
  | nil => exact ⟨Nat.le_refl 0, iff_of_true rfl (List.forall_mem_nil _)⟩
  | cons p ps ih =>
    rw [List.forall_mem_cons] at h
    obtain ⟨hle, hiff⟩ := ih h.2
    obtain ⟨hone, hsingle⟩ := length_shownByByte h.1
    rw [List.forall_mem_cons, ← hsingle, ← hiff, List.flatMap_cons, List.length_append,
      List.length_cons]
    omega

theorem map_shown_eq_iff (h : ∀ p ∈ ps, p.encoding ≠ []) :
    ps.map shown = ps.flatMap shownByByte ↔ ∀ p ∈ ps, p.IsSingle := by
  constructor
  · intro heq
    rw [← (length_flatMap_shownByByte h).2, ← heq, List.length_map]
  · intro hsingle
    rw [List.flatMap_def,
      List.map_congr_left fun p hp => shownByByte_of_isSingle (hsingle p hp), ← List.flatMap_def,
      ← List.map_eq_flatMap]

end Piece

/-! ### Reading bytes -/

/-- What is read of bytes: their characters and stray pieces. -/
structure ReadInPieces (bytes : List UInt8) : Prop where
  /-- The pieces are the one way to cut the bytes. -/
  cut_iff : ∀ ps, Cut ps bytes ↔ ps = pieces bytes
  /-- One character is shown for each piece. -/
  decodeLossy_eq : decodeLossy bytes = (pieces bytes).map Piece.shown
  /-- Every character that stands in the bytes is a piece. -/
  kept : ∀ a c b, bytes = a ++ (String.utf8EncodeChar c ++ b) →
    pieces bytes = pieces a ++ .char c :: pieces b
  /-- Every line is read for itself. -/
  lines_eq : Text.lines (decodeLossy bytes) = (bytes.splitOn newlineByte).map decodeLossy
  /-- Each stray byte is shown as a character exactly if no stray piece has more than one. -/
  single_iff : decodeLossy bytes = (pieces bytes).flatMap Piece.shownByByte ↔
    ∀ p ∈ pieces bytes, p.IsSingle
  /-- In front of a place there are as many characters as pieces. These are as many as there are
  characters and stray bytes exactly if no stray piece in front of the place has more than one byte;
  else they are fewer. -/
  place : ∀ before after, pieces bytes = before ++ after →
    (before.map Piece.shown).length ≤ (before.flatMap Piece.shownByByte).length ∧
      ((before.map Piece.shown).length = (before.flatMap Piece.shownByByte).length ↔
        ∀ p ∈ before, p.IsSingle)

theorem readInPieces (bytes : List UInt8) : ReadInPieces bytes where
  cut_iff := fun _ => cut_iff_eq_pieces
  decodeLossy_eq := decodeLossy_eq_map_shown bytes
  kept := fun a c b hbytes => by rw [hbytes, pieces_append_char]
  lines_eq := lines_decodeLossy bytes
  single_iff := by
    rw [decodeLossy_eq_map_shown]
    exact Piece.map_shown_eq_iff (cut_pieces bytes).encoding_ne_nil
  place := fun before after h => by
    rw [List.length_map]
    refine Piece.length_flatMap_shownByByte fun p hp => (cut_pieces bytes).encoding_ne_nil p ?_
    rw [h]
    exact List.mem_append_left _ hp

end PascalLint.Utf8
