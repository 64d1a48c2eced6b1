import PascalLint.Proofs.Extraction.WellFormed

/-! What decides the severity.

The compiler marks a warning at the beginning of its message, and the context that may follow the
message says nothing about severity. The linter looks for the mark in the block's text, where a colon
joins message and context. It finds it if the message begins with it, and otherwise only if the message
is the mark without its colon and has context, since the joint completes the mark
(`Block.warningMark_prefix_text_iff`).

So severity and code come from the message and the code of the block alone, for every message but one
(`severity_of_message`). With that one, context turns an error into a warning, which can be muted
(`severity_of_bare_mark`). -/
namespace PascalLint

namespace Block

/-- The mark of warnings without its colon. -/
def bareMark : Text := "Warning".toList

section Mark
variable {message rest : Text}

theorem warningMark_eq : warningMark = bareMark ++ [':'] := rfl

theorem not_warningMark_prefix_bareMark : ¬ warningMark <+: bareMark := by decide

/-- What stands in front of a colon begins with the mark, or the colon completes the mark. -/
theorem warningMark_prefix_append_colon_iff :
    warningMark <+: message ++ ':' :: rest ↔ warningMark <+: message ∨ message = bareMark := by
  constructor
  · intro h
    have hbare : bareMark <+: message :=
      Text.prefix_of_prefix_append_stop ((List.prefix_append bareMark [':']).trans h) (by decide)
    obtain ⟨more, rfl⟩ := hbare
    rw [warningMark_eq, List.append_assoc, List.prefix_append_right_inj] at h
    cases more with
    | nil => exact .inr (List.append_nil bareMark)
    | cons c more =>
      obtain rfl : ':' = c := (List.cons_prefix_cons.mp h).1
      rw [warningMark_eq, List.prefix_append_right_inj]
      exact .inl ⟨more, rfl⟩
  · rintro (h | rfl)
    · exact h.trans (List.prefix_append _ _)
    · exact ⟨rest, by simp [warningMark_eq]⟩

end Mark

section Severity
variable {b other : Block} {ignore : IgnoreSet}

/-- **The text is marked if the message is**, and in one more case. -/
theorem warningMark_prefix_text_iff (b : Block) : warningMark <+: b.text ↔
    warningMark <+: Text.dropReturn b.message ∨
      Text.dropReturn b.message = bareMark ∧ b.near.isSome = true := by
  cases hnear : b.near with
  | none => simp [text, hnear]
  | some near =>
    have htext : b.text = Text.dropReturn b.message ++ ':' :: ' ' :: Text.dropReturn near := by
      simp [text, hnear]
    rw [htext, warningMark_prefix_append_colon_iff]
    simp

theorem warningMark_prefix_text_of_ne (h : Text.dropReturn b.message ≠ bareMark) :
    warningMark <+: b.text ↔ warningMark <+: Text.dropReturn b.message := by
  simp [warningMark_prefix_text_iff, h]

/-- The mark without its colon is completed by context. -/
theorem warningMark_prefix_text_of_eq (h : Text.dropReturn b.message = bareMark) :
    warningMark <+: b.text ↔ b.near ≠ none := by
  rw [warningMark_prefix_text_iff, h, Option.isSome_iff_ne_none]
  simp [not_warningMark_prefix_bareMark]

theorem diagnostic_error_iff : (b.diagnostic ignore).severity = .error ∧
    (b.diagnostic ignore).code = [] ↔ ¬ warningMark <+: b.text := by
  refine ⟨fun h hmark => ?_, fun h => diagnostic_of_not_mark h ignore⟩
  have hmark : warningMark.isPrefixOf b.text = true := by simpa using hmark
  have hseverity := h.1
  rw [diagnostic, Block.severity, if_pos hmark] at hseverity
  split at hseverity <;> cases hseverity

theorem isSuppressed_iff : (b.diagnostic ignore).isSuppressed = true ↔
    warningMark <+: b.text ∧ ignore.suppresses b.code = true := by
  rw [isSuppressed_diagnostic, Bool.and_eq_true, List.isPrefixOf_iff_prefix]

/-- Severity and code come from the mark and the block's code. -/
theorem severity_code_congr (hmark : warningMark <+: other.text ↔ warningMark <+: b.text)
    (hcode : other.code = b.code) :
    (other.diagnostic ignore).severity = (b.diagnostic ignore).severity ∧
      (other.diagnostic ignore).code = (b.diagnostic ignore).code := by
  rw [← List.isPrefixOf_iff_prefix, ← List.isPrefixOf_iff_prefix, ← Bool.eq_iff_iff] at hmark
  simp only [diagnostic, severity, hmark, hcode, and_self]

end Severity

end Block

section Message
open Block

/-- **The message decides the severity**, unless it is the mark without its colon: the block is an
error's exactly if the message does not begin with the mark, it is not muted then, and whatever else
another block with this message and this code has, it has the same severity and code. If the message
is the mark without its colon, the block is an error's exactly if it has no context; with context it is
a warning's, and muted where its code is. -/
theorem severity_of_message (b : Block) (ignore : IgnoreSet) :
    let message := Text.dropReturn b.message
    (message ≠ bareMark →
      ((b.diagnostic ignore).severity = .error ∧ (b.diagnostic ignore).code = [] ↔
        ¬ warningMark <+: message) ∧
      (¬ warningMark <+: message → (b.diagnostic ignore).isSuppressed = false) ∧
      ∀ other : Block, Text.dropReturn other.message = message → other.code = b.code →
        (other.diagnostic ignore).severity = (b.diagnostic ignore).severity ∧
          (other.diagnostic ignore).code = (b.diagnostic ignore).code) ∧
    (message = bareMark →
      ((b.diagnostic ignore).severity = .error ∧ (b.diagnostic ignore).code = [] ↔ b.near = none) ∧
      ((b.diagnostic ignore).isSuppressed = true ↔
        b.near ≠ none ∧ ignore.suppresses b.code = true)) := by
  intro message
  refine ⟨fun hmessage => ?_, fun hmessage => ?_⟩
  · have htext := warningMark_prefix_text_of_ne hmessage
    refine ⟨?_, fun hmark => ?_, fun other hother hcode => ?_⟩
    · rw [diagnostic_error_iff, htext]
    · rw [← Bool.not_eq_true, isSuppressed_iff, htext]
      exact fun hmuted => hmark hmuted.1
    · have hne : Text.dropReturn other.message ≠ bareMark := by rwa [hother]
      have hmark : warningMark <+: other.text ↔ warningMark <+: b.text := by
        rw [warningMark_prefix_text_of_ne hne, htext, hother]
      exact severity_code_congr hmark hcode
  · rw [diagnostic_error_iff, isSuppressed_iff, warningMark_prefix_text_of_eq hmessage, not_not]
    exact ⟨Iff.rfl, Iff.rfl⟩

/-- An error whose message begins like the mark, and one whose message is the mark without its colon.
Both are muted by no set, the first with any context. -/
theorem severity_of_message_beginning_of_mark :
    let b : Block := ⟨3, "57".toList, "Warnin\r".toList, some "g: x".toList, [], []⟩
    let bare : Block := ⟨3, "57".toList, "Warning\r".toList, none, [], []⟩
    let ignore := IgnoreSet.ofList ["57".toList]
    Text.dropReturn b.message ≠ bareMark ∧ ¬ warningMark <+: Text.dropReturn b.message ∧
      (b.diagnostic ignore).isSuppressed = false ∧
      ({ b with near := none }.diagnostic ignore).severity = (b.diagnostic ignore).severity ∧
      Text.dropReturn bare.message = bareMark ∧ (bare.diagnostic ignore).severity = .error := by
  intro b bare ignore
  have hmessage : Text.dropReturn b.message ≠ bareMark := by decide
  have hbare : Text.dropReturn bare.message = bareMark := by decide
  have hmark : ¬ warningMark <+: Text.dropReturn b.message := by decide
  obtain ⟨-, hmuted, hsame⟩ := (severity_of_message b ignore).1 hmessage
  obtain ⟨herror, -⟩ := (severity_of_message bare ignore).2 hbare
  exact ⟨hmessage, hmark, hmuted hmark, (hsame { b with near := none } rfl rfl).1, hbare,
    (herror.mpr rfl).1⟩

/-- The message `Warning` does not begin with the mark, so its block is an error's, until context
follows it: then the block is a warning's, and output with it is silent where its code is ignored. -/
theorem severity_of_bare_mark :
    let b : Block := ⟨3, "57".toList, "Warning".toList, some "near x".toList, "  x := y;".toList,
      "       ".toList⟩
    let output := "3 57 Warning\n                        near x\n  x := y;\n       ^\n".toList
    let ignore := IgnoreSet.ofList ["57".toList]
    ¬ warningMark <+: Text.dropReturn b.message ∧
      (({ b with near := none }).diagnostic ignore).severity = .error ∧
      (b.diagnostic .empty).severity = .warning ∧ (b.diagnostic .empty).code = "57".toList ∧
      (b.diagnostic ignore).severity = .suppressed ∧ blocks output = [b] ∧
      extract output ignore = [] := by
  decide +kernel

end Message

end PascalLint
