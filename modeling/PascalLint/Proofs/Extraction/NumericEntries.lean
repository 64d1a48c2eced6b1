import PascalLint.Proofs.Block.Printed
import PascalLint.Proofs.Extraction.WellFormed

/-! Which entries of an ignore set matter.

An ignore set can hold anything, but the code of a warning is a run of digits
(`wellFormed_of_mem_extract`), so only such entries have an effect, and the one entry that stands for
such a code. What a set mutes is its numeric part (`IgnoreSet.numeric`): the set and its numeric part
suppress the same runs of digits (`IgnoreSet.mem_numeric_iff`), so they let the same diagnostics
through (`extract_congr`). No entry of the numeric part is idle, since a warning can be printed with
any run of digits for a code (`exists_output_with_code`). Two sets are therefore the same to every
text exactly if their numeric parts are the same (`extract_numeric`). -/
namespace PascalLint

namespace IgnoreSet

/-- A run of digits, of any script, as it stands in the header of a block. -/
def IsNumeric (code : Text) : Prop := code ≠ [] ∧ ∀ c ∈ code, Text.isDecimalDigit c = true

instance (code : Text) : Decidable (IsNumeric code) := inferInstanceAs (Decidable (_ ∧ _))

/-- The code that an entry stands for. -/
def standsFor (entry : Text) : Text :=
  if entry = possibleUnclosedComment then unclosedCommentCode else entry

/-- The set with the code in the place of the entry that stands for it, and without the entries that
are no runs of digits. -/
def numeric (s : IgnoreSet) : IgnoreSet :=
  .ofList ((s.codes.map standsFor).filter (IsNumeric ·))

section Numeric
variable {s t : IgnoreSet} {code : Text}

theorem not_isNumeric_possibleUnclosedComment : ¬IsNumeric possibleUnclosedComment := by decide

theorem suppresses_iff : s.suppresses code = true ↔
    code ≠ [] ∧ (code ∈ s ∨ code = unclosedCommentCode ∧ possibleUnclosedComment ∈ s) := by
  simp [suppresses, contains_iff]

theorem mem_numeric : code ∈ s.numeric ↔ IsNumeric code ∧ ∃ entry ∈ s, standsFor entry = code := by
  rw [numeric, mem_ofList, List.mem_filter, List.mem_map, decide_eq_true_eq]
  exact and_comm

/-- An entry stands for a run of digits by being it, or by being the one that stands for another. -/
theorem exists_standsFor_iff (h : IsNumeric code) : (∃ entry ∈ s, standsFor entry = code) ↔
    code ∈ s ∨ code = unclosedCommentCode ∧ possibleUnclosedComment ∈ s := by
  constructor
  · rintro ⟨entry, hentry, rfl⟩
    unfold standsFor
    split
    · rename_i heq
      exact .inr ⟨rfl, heq ▸ hentry⟩
    · exact .inl hentry
  · rintro (hmem | ⟨rfl, hmem⟩)
    · have hne : code ≠ possibleUnclosedComment := by
        rintro rfl
        exact not_isNumeric_possibleUnclosedComment h
      exact ⟨code, hmem, if_neg hne⟩
    · exact ⟨possibleUnclosedComment, hmem, if_pos rfl⟩

/-- The numeric part holds the runs of digits that the set suppresses. -/
theorem mem_numeric_iff : code ∈ s.numeric ↔ IsNumeric code ∧ s.suppresses code = true := by
  rw [mem_numeric]
  constructor
  · rintro ⟨hcode, hentry⟩
    exact ⟨hcode, suppresses_iff.mpr ⟨hcode.1, (exists_standsFor_iff hcode).mp hentry⟩⟩
  · rintro ⟨hcode, hsuppressed⟩
    exact ⟨hcode, (exists_standsFor_iff hcode).mpr (suppresses_iff.mp hsuppressed).2⟩

theorem numeric_eq_iff : s.numeric = t.numeric ↔
    ∀ code, IsNumeric code → s.suppresses code = t.suppresses code := by
  constructor
  · intro h code hcode
    have hs : code ∈ s.numeric ↔ s.suppresses code = true := by simp [mem_numeric_iff, hcode]
    have ht : code ∈ t.numeric ↔ t.suppresses code = true := by simp [mem_numeric_iff, hcode]
    rw [Bool.eq_iff_iff, ← hs, ← ht, h]
  · intro h
    apply ext
    intro code
    rw [mem_numeric_iff, mem_numeric_iff]
    apply and_congr_right
    intro hcode
    rw [h code hcode]

/-- A set suppresses the same runs of digits as its numeric part. -/
theorem suppresses_numeric (h : IsNumeric code) : s.numeric.suppresses code = s.suppresses code := by
  have hentry : possibleUnclosedComment ∉ s.numeric :=
    fun hmem => not_isNumeric_possibleUnclosedComment (mem_numeric_iff.mp hmem).1
  rw [Bool.eq_iff_iff, suppresses_iff, mem_numeric_iff]
  simp [h, h.1, hentry]

theorem suppresses_insert {entry : Text} : (s.insert entry).suppresses code = true ↔
    s.suppresses code = true ∨ code ≠ [] ∧ (code = entry ∨
      code = unclosedCommentCode ∧ possibleUnclosedComment = entry) := by
  simp only [suppresses_iff, mem_insert]
  tauto

end Numeric

end IgnoreSet

/-! ### What is let through -/

section LetThrough
open IgnoreSet
variable {s t : IgnoreSet} {code : Text}

/-- Sets that suppress the same runs of digits let the same diagnostics through. -/
theorem extract_congr (h : ∀ code, IsNumeric code → s.suppresses code = t.suppresses code)
    (text : Text) : extract text s = extract text t := by
  rw [extract_eq_filter text s, extract_eq_filter text t]
  apply List.filter_congr
  intro d hd
  cases hwarning : d.isWarning with
  | false => rfl
  | true =>
    have hseverity : d.severity = .warning := by simpa [Diagnostic.isWarning] using hwarning
    obtain ⟨hne, hdigits, -⟩ := (wellFormed_of_mem_extract hd).code_of_warning hseverity
    rw [h d.code ⟨hne, hdigits⟩]

/-- A warning without further text. -/
def bareWarning (code : Text) : Message :=
  ⟨[], [' '], [' '], 1, code, Block.warningMark, none, [], 0⟩

theorem isPrintable_bareWarning (h : IsNumeric code) : (bareWarning code).IsPrintable :=
  have hone : (bareWarning ['1']).IsPrintable := by decide
  { hone with
    code_ne_nil := h.1
    code_digit := h.2 }

/-- For every run of digits there is output that shows whether it is suppressed. -/
theorem exists_output_with_code (h : IsNumeric code) :
    ∃ text, ∀ s : IgnoreSet, extract text s = [] ↔ s.suppresses code = true := by
  refine ⟨printOutput ['\n'] [.message (bareWarning code)], fun s => ?_⟩
  have hblocks : blocks (printOutput ['\n'] [.message (bareWarning code)]) =
      [(bareWarning code).block.endedBy []] :=
    blocks_printOutput (.inl rfl) fun item hitem => by
      obtain rfl := List.mem_singleton.mp hitem
      exact isPrintable_bareWarning h
  have hsuppressed : (((bareWarning code).block.endedBy []).diagnostic s).isSuppressed =
      s.suppresses code := by
    rw [Block.isSuppressed_diagnostic]
    have hmark : Block.warningMark.isPrefixOf ((bareWarning code).block.endedBy []).text = true :=
      rfl
    rw [hmark, Bool.true_and]
    rfl
  rw [extract_eq_filter_blocks, hblocks]
  simp [hsuppressed]

/-- **Only runs of digits matter, and the entry that stands for one.** A set lets the same
diagnostics through as its numeric part, and two sets let the same through, whatever the text,
exactly if they have the same numeric part. So the entry for unclosed comments and the code for which
it stands can be put in each other's place, and an empty entry mutes nothing. -/
theorem extract_numeric (s : IgnoreSet) :
    (∀ text, extract text s = extract text s.numeric) ∧
    (∀ t, (∀ text, extract text s = extract text t) ↔ s.numeric = t.numeric) ∧
    ∀ text, extract text (s.insert possibleUnclosedComment) =
        extract text (s.insert unclosedCommentCode) ∧
      extract text (s.insert []) = extract text s := by
  refine ⟨extract_congr fun code hcode => (suppresses_numeric hcode).symm, fun t => ⟨?_, ?_⟩,
    fun text => ⟨?_, ?_⟩⟩
  · intro h
    rw [numeric_eq_iff]
    intro code hcode
    obtain ⟨text, htext⟩ := exists_output_with_code hcode
    rw [Bool.eq_iff_iff, ← htext s, ← htext t, h text]
  · intro h
    exact extract_congr (numeric_eq_iff.mp h)
  · apply extract_congr
    intro code hcode
    have hne : code ≠ possibleUnclosedComment := by
      rintro rfl
      exact not_isNumeric_possibleUnclosedComment hcode
    rw [Bool.eq_iff_iff, suppresses_insert, suppresses_insert]
    have hother : possibleUnclosedComment ≠ unclosedCommentCode := by decide
    simp [hne, hother]
  · apply extract_congr
    intro code hcode
    rw [Bool.eq_iff_iff, suppresses_insert]
    have hother : possibleUnclosedComment ≠ [] := by decide
    simp [hcode.1, hother]

/-- Of four entries two remain, the second as the code for which it stands. -/
example : (ofList ["57".toList, "possible-unclosed-comment".toList, [], "5 7".toList]).numeric =
    ofList ["282".toList, "57".toList] := by decide +kernel

end LetThrough

end PascalLint
