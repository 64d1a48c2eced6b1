import PascalLint.Proofs.Block.Returned
import PascalLint.Proofs.Extraction.Muted

/-! Diagnostics do not depend on carriage returns.

One carriage return is dropped from the message, from the context and from the source line of a
block, so a block leads to the same diagnostic whether its lines end in one or not
(`Block.diagnostic_endedBy`). Putting carriage returns into a text therefore changes no diagnostic,
as long as the blocks stay the same; they do unless a carriage return is all that there is of a
message or of context (`extract_withReturns`). -/
namespace PascalLint

/-! ### One block -/

/-- There is no carriage return in the lines of the block. -/
structure Block.IsWithoutReturns (b : Block) : Prop where
  message : '\r' ∉ b.message
  context : ∀ near ∈ b.near, '\r' ∉ near
  source : '\r' ∉ b.source

section OneBlock
variable {ret text : Text} {b : Block}

theorem IsReturn.dropReturn_append (hret : IsReturn ret) (h : '\r' ∉ text) :
    Text.dropReturn (text ++ ret) = text := by
  rcases hret with rfl | rfl
  · rw [List.append_nil, Text.dropReturn_of_not_mem h]
  · exact Text.dropReturn_append_return text

namespace Block

theorem text_endedBy (hb : b.IsWithoutReturns) (hret : IsReturn ret) :
    (b.endedBy ret).text = b.text := by
  have hmessage := hret.dropReturn_append hb.message
  rw [Block.text, Block.text, endedBy]
  cases hnear : b.near with
  | none => simp only [Option.map_none, hmessage, Text.dropReturn_of_not_mem hb.message]
  | some near =>
    have hcontext := hb.context near hnear
    simp only [Option.map_some, hmessage, hret.dropReturn_append hcontext,
      Text.dropReturn_of_not_mem hb.message, Text.dropReturn_of_not_mem hcontext]

/-- A block leads to the same diagnostic however its lines end. -/
theorem diagnostic_endedBy (hb : b.IsWithoutReturns) (hret : IsReturn ret) (ignore : IgnoreSet) :
    (b.endedBy ret).diagnostic ignore = b.diagnostic ignore := by
  have hsource : Text.dropReturn (b.endedBy ret).source = Text.dropReturn b.source := by
    rw [Text.dropReturn_of_not_mem hb.source]
    exact hret.dropReturn_append hb.source
  have hcaret : (b.endedBy ret).caretColumn = b.caretColumn := rfl
  have hcode : (b.endedBy ret).code = b.code := rfl
  have hline : (b.endedBy ret).line = b.line := rfl
  simp only [diagnostic, severity, text_endedBy hb hret, hsource, hcaret, hcode, hline]

end Block

end OneBlock

/-! ### All blocks -/

section AllBlocks
variable {text : Text}

theorem Block.isWithoutReturns_of_mem_blocks (h : '\r' ∉ text) {b : Block} (hb : b ∈ blocks text) :
    b.IsWithoutReturns := by
  have hline {line : Text} (hmem : line ∈ Text.lines text) : '\r' ∉ line :=
    fun hreturn => h ((Text.infix_of_mem_lines hmem).subset hreturn)
  have hpart {part : Text} (hends : EndsLine (Text.lines text) part) : '\r' ∉ part := by
    obtain ⟨-, before, hmem⟩ := hends
    exact fun hreturn => hline hmem (List.mem_append_right before hreturn)
  have hfrom := mem_blocks_isFrom hb
  exact {
    message := hpart hfrom.message
    context := fun near hnear => hpart (hfrom.context near hnear)
    source := hline hfrom.source }

/-- **Carriage returns at the ends of lines change no diagnostic**, whatever the ignore set, unless
a carriage return is all that there is of a message or of context. That is exactly when the
candidates stay the same, and it takes a header line without a message or a line of nothing but the
blanks in front of context to be otherwise. -/
theorem extract_withReturns (h : '\r' ∉ text) :
    ((∀ c ∈ Candidate.all (Text.withReturns text), c.HasText) →
      ∀ ignore, extract (Text.withReturns text) ignore = extract text ignore) ∧
    ((∀ c ∈ Candidate.all (Text.withReturns text), c.HasText) ↔
      Candidate.all (Text.withReturns text) = (Candidate.all text).map Candidate.withReturns) ∧
    ((∃ c ∈ Candidate.all (Text.withReturns text), ¬c.HasText) → ∃ line ∈ Text.lines text,
      LacksMessage line ∨ line = List.replicate Candidate.nearIndent ' ') := by
  refine ⟨fun htext ignore => ?_, (Candidate.all_withReturns_iff text).symm, ?_⟩
  · have hdiagnostic : (blocks text).map ((·.diagnostic ignore) ∘ Block.endedBy ['\r']) =
        (blocks text).map (·.diagnostic ignore) := by
      apply List.map_congr_left
      intro b hb
      exact Block.diagnostic_endedBy (Block.isWithoutReturns_of_mem_blocks h hb) (.inr rfl) ignore
    rw [extract_eq_filter_blocks, blocks_withReturns htext, List.map_map, hdiagnostic,
      extract_eq_filter_blocks]
  · rintro ⟨c, hc, hlone⟩
    exact Candidate.exists_line_of_not_hasText h hc hlone

/-- A warning with context, a source line of nothing but the blanks in front of context, and no line
feed at the end. -/
theorem extract_withReturns_context :
    let text := "2 57 Warning: unused\n".toList ++ List.replicate 24 ' ' ++ "near i\n".toList ++
      List.replicate 24 ' ' ++ "\n  ^".toList
    '\r' ∉ text ∧ (∀ c ∈ Candidate.all (Text.withReturns text), c.HasText) ∧
      extract (Text.withReturns text) .empty = extract text .empty ∧
      extract text .empty = [⟨2, 2, .warning, "Warning: unused: near i".toList, "57".toList⟩] := by
  refine ⟨?hreturn, ?htext, (extract_withReturns ?hreturn).1 ?htext .empty, ?_⟩
  all_goals decide +kernel

/-- With carriage returns, a line of the blanks in front of context is one of context. -/
theorem extract_withReturns_of_lone_return :
    let text := "3 104 Bad\n".toList ++ List.replicate 24 ' ' ++ "\n  x := y;\n       ^\n".toList
    '\r' ∉ text ∧ extract text .empty = [] ∧
      extract (Text.withReturns text) .empty = [⟨3, 7, .error, "Bad: ".toList, []⟩] := by
  decide +kernel

end AllBlocks

end PascalLint
