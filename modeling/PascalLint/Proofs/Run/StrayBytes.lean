import PascalLint.Proofs.Column
import PascalLint.Proofs.Extraction.WellFormed
import PascalLint.Proofs.Run.Reported
import PascalLint.Proofs.Text.Decoding

/-! Stray bytes in compiler output.

Output in a code page has bytes that belong to no character, and the compiler's columns count each
of them. A corrected column counts the pieces before an identifier (`exists_place_of_mem_extract`).
The two agree as long as every stray piece is one byte. Bytes that begin a character and leave it
unfinished are one piece together, so the column comes out smaller behind them
(`two_stray_bytes_are_one_column`). -/
namespace PascalLint

open Utf8 (Piece decodeLossy newlineByte pieces)

/-- The column stays at the caret, or a word begins there: the column counts the pieces before it.
These are the characters and stray bytes before it exactly if no stray piece among them has more
than one byte. -/
def CountsPieces (line : List UInt8) (caret column : Nat) : Prop :=
  column = caret ∨ ∃ before word after, pieces line = before ++ word ++ after ∧
    word ≠ [] ∧ (∀ p ∈ word, Text.isWordChar p.shown = true) ∧ column = before.length ∧
    (column = (before.flatMap Piece.shownByByte).length ↔ ∀ p ∈ before, p.IsSingle)

/-- Where text begins, pieces begin. -/
theorem exists_pieces_of_prefix {bytes : List UInt8} {a b : Text}
    (h : a ++ b <+: decodeLossy bytes) :
    ∃ before word after, pieces bytes = before ++ word ++ after ∧ before.map Piece.shown = a ∧
      word.map Piece.shown = b := by
  obtain ⟨c, hc⟩ := h
  rw [Utf8.decodeLossy_eq_map_shown, eq_comm, List.map_eq_append_iff] at hc
  obtain ⟨start, after, hpieces, hstart, -⟩ := hc
  obtain ⟨before, word, rfl, hbefore, hword⟩ := List.map_eq_append_iff.mp hstart
  exact ⟨before, word, after, hpieces, hbefore, hword⟩

theorem countsPieces_identifierStart {line : List UInt8} {source : Text}
    (h : source <+: decodeLossy line) (caret : Nat) :
    CountsPieces line caret (identifierStart source caret) := by
  refine (identifierStart_cases source caret).imp_right fun ⟨hne, hcolumn⟩ => ?_
  have hbegin : beforeWord source caret ++ wordBefore source caret <+: decodeLossy line := by
    rw [beforeWord_append_wordBefore]
    exact (List.take_prefix caret source).trans h
  obtain ⟨before, word, after, hpieces, hbefore, hword⟩ := exists_pieces_of_prefix hbegin
  have hlength : identifierStart source caret = before.length := by
    rw [hcolumn, ← hbefore, List.length_map]
  refine ⟨before, word, after, hpieces, ?_, ?_, hlength, ?_⟩
  · rintro rfl
    exact hne hword.symm
  · intro p hp
    exact isWordChar_of_mem_wordBefore (hword ▸ List.mem_map_of_mem hp)
  · have hplace := (Utf8.readInPieces line).place before (word ++ after)
      (by rw [hpieces, List.append_assoc])
    rw [hlength, ← hplace.2, List.length_map]

/-- A diagnostic's column is a place in a line of bytes. -/
theorem exists_place_of_mem_extract {bytes : List UInt8} {ignore : IgnoreSet} {d : Diagnostic}
    (h : d ∈ extract (decodeLossy bytes) ignore) :
    ∃ b ∈ blocks (decodeLossy bytes), b.diagnostic ignore = d ∧
      ∃ line ∈ bytes.splitOn newlineByte, b.source = decodeLossy line ∧
        CountsPieces line b.caretColumn d.column := by
  obtain ⟨b, hb, rfl, -⟩ := mem_extract_iff.mp h
  have hsource := (mem_blocks_isFrom hb).source
  rw [Utf8.lines_decodeLossy, List.mem_map] at hsource
  obtain ⟨line, hline, hdecoded⟩ := hsource
  refine ⟨b, hb, rfl, line, hline, hdecoded.symm, countsPieces_identifierStart ?_ b.caretColumn⟩
  rw [hdecoded]
  exact Text.prefix_dropReturn b.source

/-- **What is reported of output with stray bytes.** The bytes are read in pieces, and a run that
reports, from a file or from standard input, reports on what is shown for the pieces. Its columns count
pieces. -/
theorem stray_bytes_reported (bytes : List UInt8) : Utf8.ReadInPieces bytes ∧
    ∀ (host : Host Id) (i : Invocation) (s : Settings), i.Reports host s bytes →
      let ignore := (s.addAll i.ignore i.options).ignoreSet
      let ds := extract (decodeLossy bytes) ignore
      i.Renders host ds (run host i).output ∧
        ∀ d ∈ ds, ∃ b ∈ blocks (decodeLossy bytes), b.diagnostic ignore = d ∧
          ∃ line ∈ bytes.splitOn newlineByte, b.source = decodeLossy line ∧
            CountsPieces line b.caretColumn d.column :=
  ⟨Utf8.readInPieces bytes, fun _ _ _ h =>
    ⟨h.renders_output, fun _ => exists_place_of_mem_extract⟩⟩

/-- A string with an umlaut in the code page of the console, which begins no character here. -/
theorem stray_bytes_reported_umlaut :
    let line := Utf8.encode "'".toList ++ [0xE4] ++ Utf8.encode "' + ab".toList
    let input := Utf8.encode "1 104 Bad\n".toList ++ line ++ Utf8.encode "\n        ^\n".toList
    let host := Host.ofTree (.folder []) [] [] input
    let i := { Invocation.default with noColor := true }
    i.Reports host .default input ∧ (∀ p ∈ pieces line, p.IsSingle) ∧
      decodeLossy line = (pieces line).flatMap Piece.shownByByte ∧
      (run host i).output = "<stdin>:1:7: error: Bad\n1 error, 0 warnings\n".toList := by
  intro line input host i
  have hreports : i.Reports host .default input := ⟨rfl, rfl, rfl, rfl⟩
  have hsingle : ∀ p ∈ pieces line, p.IsSingle := by decide +kernel
  obtain ⟨hread, -⟩ := stray_bytes_reported line
  obtain ⟨-, hrun⟩ := stray_bytes_reported input
  refine ⟨hreports, hsingle, hread.single_iff.mpr hsingle, ?_⟩
  rw [Invocation.renders_iff.mp (hrun host i .default hreports).1]
  decide +kernel

/-- Two bytes that begin a character and do not end it are one piece. The identifier behind them
stands in column 7, counted from zero, if each byte is a character; it is reported in column 6, which
is shown as 7 and not as 8. -/
theorem two_stray_bytes_are_one_column :
    let line := Utf8.encode "'".toList ++ [0xE2, 0x82] ++ Utf8.encode "' + ab".toList
    let input := Utf8.encode "1 104 Bad\n".toList ++ line ++ Utf8.encode "\n         ^\n".toList
    let host := Host.ofTree (.folder []) [] [] input
    let i := { Invocation.default with noColor := true }
    Utf8.Cut ("'".toList.map Piece.char ++ [.stray [0xE2, 0x82]] ++ "' + ab".toList.map Piece.char)
        line ∧
      decodeLossy line ≠ (pieces line).flatMap Piece.shownByByte ∧
      identifierStart ((pieces line).flatMap Piece.shownByByte) 9 = 7 ∧
      (run host i).output = "<stdin>:1:7: error: Bad\n1 error, 0 warnings\n".toList := by
  refine ⟨?_, by decide +kernel, by decide +kernel, by decide +kernel⟩
  rw [Utf8.cut_iff_eq_pieces]
  decide +kernel

end PascalLint
