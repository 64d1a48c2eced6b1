import PascalLint.Text.Basic

/-! The encoding of text in bytes, UTF-8.

`characters` cuts any byte sequence into well-formed characters and stray pieces, a stray piece
being the longest beginning of a character that the bytes leave unfinished, or one byte that
begins none. Strict decoding (`decode?`) refuses stray pieces, lenient decoding (`decodeLossy`)
puts the replacement character in the place of each. -/
namespace PascalLint.Utf8

def encode (text : Text) : List UInt8 := text.flatMap String.utf8EncodeChar

theorem encode_nil : encode [] = [] := rfl

theorem encode_cons (c : Char) (text : Text) :
    encode (c :: text) = String.utf8EncodeChar c ++ encode text := rfl

/-- The number of bytes that a text takes. -/
def byteLength : Text → Nat
  | [] => 0
  | c :: rest => c.utf8Size + byteLength rest

theorem length_encode (text : Text) : (encode text).length = byteLength text := by
  induction text with
  | nil => rfl
  | cons c rest ih =>
    simp_all [encode, byteLength, String.length_utf8EncodeChar]

/-- How a byte begins a character: the bits of the character that it holds, the number of bytes
that continue it, and the range of the first of these. -/
structure Lead where
  bits : Nat
  continuations : Nat
  least : UInt8
  greatest : UInt8

/-- The lead bytes. The narrower ranges after `E0`, `ED`, `F0` and `F4` leave out overlong forms,
surrogates and values beyond the last code point. -/
def lead? (byte : UInt8) : Option Lead :=
  let n := byte.toNat
  if n < 0x80 then some ⟨n, 0, 0x80, 0xBF⟩
  else if n < 0xC2 then none
  else if n < 0xE0 then some ⟨n - 0xC0, 1, 0x80, 0xBF⟩
  else if n = 0xE0 then some ⟨0, 2, 0xA0, 0xBF⟩
  else if n = 0xED then some ⟨0xD, 2, 0x80, 0x9F⟩
  else if n < 0xF0 then some ⟨n - 0xE0, 2, 0x80, 0xBF⟩
  else if n = 0xF0 then some ⟨0, 3, 0x90, 0xBF⟩
  else if n < 0xF4 then some ⟨n - 0xF0, 3, 0x80, 0xBF⟩
  else if n = 0xF4 then some ⟨4, 3, 0x80, 0x8F⟩
  else none

/-- Takes up the continuation bytes of a character. The code point is missing when a byte does
not fit; the bytes from that one on are left. -/
def continueWith (lead : Lead) : List UInt8 → Option Nat × List UInt8 :=
  go lead.bits lead.continuations lead.least lead.greatest
where
  go (bits : Nat) : Nat → UInt8 → UInt8 → List UInt8 → Option Nat × List UInt8
    | 0, _, _, bytes => (some bits, bytes)
    | _ + 1, _, _, [] => (none, [])
    | left + 1, least, greatest, byte :: bytes =>
      if least ≤ byte && byte ≤ greatest then
        go (bits * 0x40 + (byte.toNat - 0x80)) left 0x80 0xBF bytes
      else (none, byte :: bytes)

theorem length_go_le (bits left : Nat) (least greatest : UInt8) (bytes : List UInt8) :
    (continueWith.go bits left least greatest bytes).2.length ≤ bytes.length := by
  induction bytes generalizing bits left least greatest with
  | nil => cases left <;> simp [continueWith.go]
  | cons byte bytes ih =>
    cases left with
    | zero => simp [continueWith.go]
    | succ left =>
      rw [continueWith.go]
      split
      · exact Nat.le_succ_of_le (ih ..)
      · simp

/-- The first character, or `none` for a stray piece, and the bytes after it. -/
def next (byte : UInt8) (bytes : List UInt8) : Option Char × List UInt8 :=
  match lead? byte with
  | none => (none, bytes)
  | some lead =>
    let (code?, rest) := continueWith lead bytes
    (code?.map Char.ofNat, rest)

theorem length_next_le (byte : UInt8) (bytes : List UInt8) :
    (next byte bytes).2.length ≤ bytes.length := by
  unfold next
  split
  · exact Nat.le_refl _
  · exact length_go_le ..

/-- The characters of a byte sequence in order, with `none` for each stray piece. -/
def characters : List UInt8 → List (Option Char)
  | [] => []
  | byte :: bytes => (next byte bytes).1 :: characters (next byte bytes).2
termination_by bytes => bytes.length
decreasing_by exact Nat.lt_succ_of_le (length_next_le ..)

/-- The character that stands for a stray piece. -/
def replacement : Char := '\uFFFD'

def decodeLossy (bytes : List UInt8) : Text :=
  (characters bytes).map (·.getD replacement)

/-- The text, if all bytes belong to well-formed characters. -/
def decode? (bytes : List UInt8) : Option Text := (characters bytes).mapM id

end PascalLint.Utf8
