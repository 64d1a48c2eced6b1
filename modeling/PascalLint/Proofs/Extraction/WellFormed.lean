import PascalLint.Proofs.Block.Parts
import PascalLint.Proofs.Extraction.Muted
import PascalLint.Proofs.Text.Returns

/-! What is handed to the editor.

Whatever the output looks like, a diagnostic is an error without a code or a warning with one, its
text says which, and its text stands on one line (`wellFormed_of_mem_extract`). The text is put
together from what ends a header line and what ends a line of context, so carriage returns that
stand in front of line feeds do not get into it. -/
namespace PascalLint

/-- What can be relied on in a diagnostic that comes from some output with some ignore set. -/
structure Diagnostic.IsWellFormed (output : Text) (ignore : IgnoreSet) (d : Diagnostic) : Prop where
  severity : d.severity = .error ∨ d.severity = .warning
  code_of_error : d.severity = .error → d.code = []
  code_of_warning : d.severity = .warning → d.code ≠ [] ∧
    (∀ c ∈ d.code, Text.isDecimalDigit c = true) ∧ ignore.suppresses d.code = false
  severity_eq_warning_iff : d.severity = .warning ↔ Block.warningMark <+: d.text
  newline_not_mem : '\n' ∉ d.text
  return_not_mem : Text.ReturnsEndLines output → '\r' ∉ d.text

/-! ### The text of a block -/

section Text
variable {output : Text} {b : Block} {c : Char}

/-- A character of the text, unless it separates message and context, is one of them. -/
theorem Block.mem_text (h : c ∈ b.text) :
    c ∈ Text.dropReturn b.message ∨ c ∈ ": ".toList ∨ ∃ near ∈ b.near, c ∈ Text.dropReturn near := by
  rw [Block.text] at h
  cases hnear : b.near with
  | none =>
    rw [hnear] at h
    exact .inl h
  | some near =>
    simp only [hnear, List.mem_append] at h
    rcases h with (h | h) | h
    · exact .inl h
    · exact .inr (.inl h)
    · exact .inr (.inr ⟨near, rfl, h⟩)

/-- A character that no part of a line has when its carriage return is dropped is not in the text. -/
theorem Block.IsFrom.not_mem_text (h : b.IsFrom (Text.lines output)) (hc : c ∉ ": ".toList)
    (hpart : ∀ before part, before ++ part ∈ Text.lines output → c ∉ Text.dropReturn part) :
    c ∉ b.text := by
  intro hmem
  rcases Block.mem_text hmem with hmem | hmem | ⟨near, hnear, hmem⟩
  · obtain ⟨-, before, hline⟩ := h.message
    exact hpart before _ hline hmem
  · exact hc hmem
  · obtain ⟨-, before, hline⟩ := h.context near hnear
    exact hpart before _ hline hmem

theorem Block.newline_not_mem_text (h : b ∈ blocks output) : '\n' ∉ b.text := by
  refine (mem_blocks_isFrom h).not_mem_text (by decide) fun before part hline hmem => ?_
  have hmem : '\n' ∈ before ++ part := List.mem_append_right _ (Text.mem_of_mem_dropReturn hmem)
  exact Text.newline_not_mem_of_mem_lines hline hmem

theorem Block.return_not_mem_text (h : b ∈ blocks output) (hreturns : Text.ReturnsEndLines output) :
    '\r' ∉ b.text :=
  (mem_blocks_isFrom h).not_mem_text (by decide) fun _ _ hline =>
    Text.return_not_mem_dropReturn hreturns hline

end Text

/-! ### Severity and code -/

section Severity
variable {output : Text} {b : Block} {d : Diagnostic} {ignore : IgnoreSet}

/-- A diagnostic that is handed out is that of a block that is not muted. -/
theorem mem_extract_iff : d ∈ extract output ignore ↔
    ∃ b ∈ blocks output, b.diagnostic ignore = d ∧ d.isSuppressed = false := by
  simp only [extract_eq_filter_blocks, List.mem_filter, List.mem_map, Bool.not_eq_true']
  constructor
  · rintro ⟨⟨b, hb, hd⟩, hkept⟩
    exact ⟨b, hb, hd, hkept⟩
  · rintro ⟨b, hb, hd, hkept⟩
    exact ⟨⟨b, hb, hd⟩, hkept⟩

/-- A block whose text does not begin with the mark of warnings is an error's. -/
theorem Block.diagnostic_of_not_mark (h : ¬warningMark <+: b.text) (ignore : IgnoreSet) :
    (b.diagnostic ignore).severity = .error ∧ (b.diagnostic ignore).code = [] := by
  have hmark : warningMark.isPrefixOf b.text = false := by
    rwa [← List.isPrefixOf_iff_prefix, Bool.not_eq_true] at h
  simp [diagnostic, Block.severity, hmark]

/-- A block whose text begins with the mark of warnings is a warning's, if it is not muted. -/
theorem Block.diagnostic_of_mark (h : warningMark <+: b.text)
    (hkept : (b.diagnostic ignore).isSuppressed = false) :
    (b.diagnostic ignore).severity = .warning ∧ (b.diagnostic ignore).code = b.code ∧
      ignore.suppresses b.code = false := by
  have hmark : warningMark.isPrefixOf b.text = true := by simpa using h
  rw [isSuppressed_diagnostic, hmark, Bool.true_and] at hkept
  simp [diagnostic, Block.severity, hmark, hkept]

/-- **Every diagnostic that is handed out is well-formed**, whatever the output and the ignore
set. -/
theorem wellFormed_of_mem_extract (h : d ∈ extract output ignore) :
    d.IsWellFormed output ignore := by
  obtain ⟨b, hb, rfl, hkept⟩ := mem_extract_iff.mp h
  have hfrom := mem_blocks_isFrom hb
  by_cases hmark : Block.warningMark <+: b.text
  · obtain ⟨hseverity, hcode, hignore⟩ := Block.diagnostic_of_mark hmark hkept
    exact {
      severity := .inr hseverity
      code_of_error := fun herror => by rw [hseverity] at herror; cases herror
      code_of_warning := fun _ => by
        rw [hcode]
        exact ⟨hfrom.code_ne_nil, hfrom.code_digit, hignore⟩
      severity_eq_warning_iff := iff_of_true hseverity hmark
      newline_not_mem := Block.newline_not_mem_text hb
      return_not_mem := Block.return_not_mem_text hb }
  · obtain ⟨hseverity, hcode⟩ := Block.diagnostic_of_not_mark hmark ignore
    have hne : (b.diagnostic ignore).severity ≠ .warning := by rw [hseverity]; decide
    exact {
      severity := .inl hseverity
      code_of_error := fun _ => hcode
      code_of_warning := fun hwarning => absurd hwarning hne
      severity_eq_warning_iff := iff_of_false hne hmark
      newline_not_mem := Block.newline_not_mem_text hb
      return_not_mem := Block.return_not_mem_text hb }

/-- A warning with a code in digits of another script, whose lines end in carriage returns and whose
context is nothing but one, beside a muted warning. -/
theorem wellFormed_of_mem_extract_other_script :
    let output := ("1 57 Warning: a\r\n\r\n^\r\n2 ٥٧ Warning: b\r\n".toList ++
      List.replicate 24 ' ' ++ "\r\nx\r\n ^\r\n".toList)
    let ignore := IgnoreSet.ofList ["57".toList]
    let d : Diagnostic := ⟨2, 0, .warning, "Warning: b: ".toList, "٥٧".toList⟩
    d ∈ extract output ignore ∧ d.IsWellFormed output ignore := by
  refine ⟨?hmem, wellFormed_of_mem_extract ?hmem⟩
  decide +kernel

end Severity

end PascalLint
