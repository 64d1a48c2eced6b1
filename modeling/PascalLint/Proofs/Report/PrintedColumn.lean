import PascalLint.Proofs.Column.Projection
import PascalLint.Proofs.Extraction.WellFormed
import PascalLint.Proofs.Text.Numeral
import PascalLint.Report.Line
import PascalLint.Report.Table

/-! The column that the reports print.

The reports count columns from one, so they add one to the column of a diagnostic. The sum fits a
machine word: a column is corrected to the left only, and the caret it is corrected from stands in
the output, behind as many blanks as its column says (`Block.caretColumn_lt_byteLength`). So a column
is less than the number of bytes of the output, and it is less than the length of the source line
unless it is the caret's own (`columns_fit`). -/
namespace PascalLint

namespace Utf8

theorem byteLength_append (a b : Text) : byteLength (a ++ b) = byteLength a + byteLength b := by
  simp only [← length_encode, encode, List.flatMap_append, List.length_append]

/-- A text that stands in another has no more bytes. -/
theorem byteLength_le_of_infix {part text : Text} (h : part <:+: text) :
    byteLength part ≤ byteLength text := by
  obtain ⟨before, after, rfl⟩ := h
  rw [byteLength_append, byteLength_append]
  omega

end Utf8

/-- The caret stands in the output, and so do the blanks before it. -/
theorem Block.caretColumn_lt_byteLength {output : Text} {b : Block} (h : b ∈ blocks output) :
    b.caretColumn < Utf8.byteLength output := by
  obtain ⟨c, hc, hb⟩ := List.mem_filterMap.mp h
  obtain ⟨n, -, rfl⟩ := Option.map_eq_some_iff.mp hb
  obtain ⟨after, hcaret⟩ := (mem_all_isFrom hc).caret
  have hline := Utf8.byteLength_le_of_infix (Text.infix_of_mem_lines hcaret)
  have hmark : 0 < Utf8.byteLength ('^' :: after) := Nat.lt_add_right _ (by decide)
  rw [Utf8.byteLength_append] at hline
  show Utf8.byteLength c.caretPrefix < Utf8.byteLength output
  omega

/-- A column that is not the caret's is that of a word character of the line. -/
theorem isWordChar_identifierStart {source : Text} {caret : Nat}
    (hne : identifierStart source caret ≠ caret) :
    identifierStart source caret < source.length ∧
      ∃ c ∈ source[identifierStart source caret]?, Text.isWordChar c = true := by
  rcases identifierStart_eq_or_within source caret with
    hstays | ⟨start, stop, hbegins, hlt, hstop, -, -, hmoves⟩
  · exact absurd hstays hne
  · rw [hmoves]
    exact ⟨Nat.lt_of_lt_of_le hlt hstop, hbegins.1 start (Nat.le_refl _) hlt⟩

/-! ### The column of a diagnostic -/

/-- What can be relied on in the column of the diagnostic that a block of some output leads to. -/
structure Diagnostic.ColumnFits (output : Text) (b : Block) (d : Diagnostic) : Prop where
  le_caretColumn : d.column ≤ b.caretColumn
  succ_le_byteLength : d.column + 1 ≤ Utf8.byteLength output
  isWordChar_of_ne : d.column ≠ b.caretColumn →
    d.column < (Text.dropReturn b.source).length ∧
      ∃ c ∈ (Text.dropReturn b.source)[d.column]?, Text.isWordChar c = true

theorem Block.columnFits_diagnostic {output : Text} {b : Block} (h : b ∈ blocks output)
    (ignore : IgnoreSet) : (b.diagnostic ignore).ColumnFits output b := by
  have hle : (b.diagnostic ignore).column ≤ b.caretColumn := identifierStart_le _ _
  have hcaret := Block.caretColumn_lt_byteLength h
  exact {
    le_caretColumn := hle
    succ_le_byteLength := by omega
    isWordChar_of_ne := isWordChar_identifierStart }

/-! ### The printed column -/

namespace Report

/-- The text report and the table print the same numeral for the column, and it is a count that fits
a machine word: the column, counted from one. -/
def PrintsColumn (d : Diagnostic) : Prop :=
  ∃ numeral, Text.count? numeral = some (d.column + 1) ∧
    (∀ file, location file d = file ++ ':' :: Text.ofNat d.line ++ ':' :: numeral) ∧
    (tableRow d)[1]? = some [numeral]

theorem printsColumn_iff {d : Diagnostic} : PrintsColumn d ↔ d.column + 1 < Text.wordLimit := by
  constructor
  · rintro ⟨numeral, hcount, -, -⟩
    rw [Text.count?_eq] at hcount
    split at hcount
    · rename_i hnumeral
      rw [← Option.some.inj hcount]
      exact hnumeral.2.2
    · cases hcount
  · intro h
    exact ⟨_, Text.count?_ofNat h, fun _ => rfl, rfl⟩

end Report

/-- **The printed column fits a machine word.** The diagnostics that are handed out are those of the
blocks that are not muted. The column of each is at most the caret's, and less than the number of
bytes of the output; a column that was corrected is that of a word character of the source line. So
if that number of bytes is a count, the sum that the reports print is one too. -/
theorem columns_fit (output : Text) (ignore : IgnoreSet) :
    extract output ignore = ((blocks output).filter fun b =>
      !(b.diagnostic ignore).isSuppressed).map (·.diagnostic ignore) ∧
    (∀ b ∈ blocks output, (b.diagnostic ignore).ColumnFits output b) ∧
    (Utf8.byteLength output < Text.wordLimit → ∀ d ∈ extract output ignore,
      d.column + 1 < Text.wordLimit ∧ Report.PrintsColumn d) := by
  have hfits : ∀ b ∈ blocks output, (b.diagnostic ignore).ColumnFits output b :=
    fun b hb => Block.columnFits_diagnostic hb ignore
  refine ⟨?_, hfits, fun hlimit d hd => ?_⟩
  · rw [extract_eq_filter_blocks, List.filter_map]
    rfl
  · obtain ⟨b, hb, rfl, -⟩ := mem_extract_iff.mp hd
    have hsum := Nat.lt_of_le_of_lt (hfits b hb).succ_le_byteLength hlimit
    exact ⟨hsum, Report.printsColumn_iff.mpr hsum⟩

/-- A caret past the end of a line that ends in a word and a carriage return, behind a muted warning. -/
theorem columns_fit_past_end :
    let output := ("1 57 Warning: a\n\n^\n2 104 Bad\r\n  n := sum1\r\n".toList ++
      List.replicate 20 ' ' ++ ['^'])
    let ignore := IgnoreSet.ofList ["57".toList]
    let b : Block := ⟨2, "104".toList, "Bad\r".toList, none, "  n := sum1\r".toList,
      List.replicate 20 ' '⟩
    let d : Diagnostic := ⟨2, 7, .error, "Bad".toList, []⟩
    b ∈ blocks output ∧ b.diagnostic ignore = d ∧ d.ColumnFits output b ∧
      Utf8.byteLength output < Text.wordLimit ∧ d ∈ extract output ignore ∧
      d.column + 1 < Text.wordLimit ∧ Report.PrintsColumn d := by
  intro output ignore b d
  have hb : b ∈ blocks output := by decide +kernel
  have hd : b.diagnostic ignore = d := by decide +kernel
  have hlimit : Utf8.byteLength output < Text.wordLimit := by decide +kernel
  have hmem : d ∈ extract output ignore := by decide +kernel
  obtain ⟨-, hfits, hprints⟩ := columns_fit output ignore
  exact ⟨hb, hd, hd ▸ hfits b hb, hlimit, hmem, hprints hlimit d hmem⟩

end PascalLint
