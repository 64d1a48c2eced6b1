import PascalLint.Proofs.Extraction.Returned

/-! Diagnostics undo printing.

A message that is printed and read again leads to its own diagnostic (`diagnostic_endedBy`): the
carriage returns at the ends of its lines make no difference, and the caret stands in the column it
was put into. With `blocks_printOutput` this gives the diagnostics of printed output,
whatever stands between the messages. -/
namespace PascalLint

namespace Message

/-- The text and the context. -/
def fullText (m : Message) : Text :=
  match m.near with
  | none => m.text
  | some near => m.text ++ ": ".toList ++ near

def isWarning (m : Message) : Bool := Block.warningMark.isPrefixOf m.fullText

def isMuted (m : Message) (ignore : IgnoreSet) : Bool := m.isWarning && ignore.suppresses m.code

/-- The diagnostic for a message, if it is not muted. -/
def diagnostic (m : Message) : Diagnostic where
  line := m.line
  column := identifierStart m.source m.caretColumn
  severity := if m.isWarning then .warning else .error
  text := m.fullText
  code := if m.isWarning then m.code else []

end Message

section Printed
variable {ret : Text} {m : Message} {ignore : IgnoreSet}

theorem isPrintable_of_mem_messages {items : List OutputItem}
    (hitems : ∀ item ∈ items, item.IsPrintable) (hm : m ∈ items.filterMap OutputItem.message?) :
    m.IsPrintable := by
  obtain ⟨item, hitem, hitem?⟩ := List.mem_filterMap.mp hm
  cases item with
  | banner line => cases hitem?
  | message m' =>
    obtain rfl := Option.some.inj hitem?
    exact hitems _ hitem

theorem byteLength_blanks (n : Nat) : Utf8.byteLength (List.replicate n ' ') = n := by
  induction n with
  | zero => rfl
  | succ n ih =>
    rw [List.replicate_succ, Utf8.byteLength, ih, Nat.add_comm]
    rfl

theorem Message.IsPrintable.isWithoutReturns (hm : m.IsPrintable) : m.block.IsWithoutReturns where
  message := hm.text_onOneLine.2
  context := fun near hnear => (hm.near_onOneLine near hnear).2
  source := hm.source_onOneLine.2

theorem text_block (hm : m.IsPrintable) : m.block.text = m.fullText := by
  have hmessage : Text.dropReturn m.text = m.text :=
    Text.dropReturn_of_not_mem hm.isWithoutReturns.message
  rw [Block.text, Message.fullText]
  cases hnear : m.near with
  | none => simp [Message.block, hnear, hmessage]
  | some near =>
    have hcontext := Text.dropReturn_of_not_mem (hm.isWithoutReturns.context near hnear)
    simp [Message.block, hnear, hmessage, hcontext]

theorem isSuppressed_endedBy (hm : m.IsPrintable) (hret : IsReturn ret) (ignore : IgnoreSet) :
    ((m.block.endedBy ret).diagnostic ignore).isSuppressed = m.isMuted ignore := by
  rw [Block.diagnostic_endedBy hm.isWithoutReturns hret, Block.isSuppressed_diagnostic,
    text_block hm]
  rfl

/-- A message that is not muted leads to its diagnostic, however its lines end. -/
theorem diagnostic_endedBy (hm : m.IsPrintable) (hret : IsReturn ret)
    (h : m.isMuted ignore = false) :
    (m.block.endedBy ret).diagnostic ignore = m.diagnostic := by
  rw [Block.diagnostic_of_not_suppressed (by rw [isSuppressed_endedBy hm hret, h]),
    Block.diagnostic_endedBy hm.isWithoutReturns hret]
  have hsource : Text.dropReturn m.source = m.source :=
    Text.dropReturn_of_not_mem hm.isWithoutReturns.source
  have hcaret : m.block.caretColumn = m.caretColumn := byteLength_blanks _
  simp only [Block.diagnostic, Block.severity, text_block hm, IgnoreSet.suppresses_empty, hcaret,
    Message.diagnostic, Message.isWarning]
  simp [Message.block, hsource]

/-- **Extraction undoes printing.** The diagnostics of printed output are those of its messages that
are not muted, in order, whether lines end in a line feed or in a carriage return and a line
feed. -/
theorem extract_printOutput {lineEnd : Text} (hend : lineEnd = ['\n'] ∨ lineEnd = ['\r', '\n'])
    {items : List OutputItem} (hitems : ∀ item ∈ items, item.IsPrintable) (ignore : IgnoreSet) :
    extract (printOutput lineEnd items) ignore =
      ((items.filterMap OutputItem.message?).filter (!·.isMuted ignore)).map
        Message.diagnostic := by
  obtain ⟨ret, hret, rfl⟩ : ∃ ret, IsReturn ret ∧ lineEnd = ret ++ ['\n'] := by
    rcases hend with rfl | rfl
    · exact ⟨[], .inl rfl, rfl⟩
    · exact ⟨['\r'], .inr rfl, rfl⟩
  have hmessages : ∀ m ∈ items.filterMap OutputItem.message?, m.IsPrintable :=
    fun m hm => isPrintable_of_mem_messages hitems hm
  rw [extract_eq_filter_blocks, blocks_printOutput hret hitems, List.map_map, List.filter_map]
  generalize items.filterMap OutputItem.message? = messages at hmessages ⊢
  have hfilter : messages.filter ((!·.isSuppressed) ∘
      ((·.diagnostic ignore) ∘ fun m => m.block.endedBy ret)) =
        messages.filter (!·.isMuted ignore) :=
    List.filter_congr fun m hm => by
      simp only [Function.comp_apply, isSuppressed_endedBy (hmessages m hm) hret]
  rw [hfilter]
  apply List.map_congr_left
  intro m hm
  obtain ⟨hmem, hkept⟩ := List.mem_filter.mp hm
  exact diagnostic_endedBy (hmessages m hmem) hret (by simpa using hkept)

/-- A banner that is almost a header, a muted warning, and an error whose source line could be
context. -/
theorem extract_printOutput_deeply_indented :
    let warning : Message :=
      ⟨"   ".toList, " ".toList, " ".toList, 3, "57".toList, "Warning: unused variable".toList,
        some "near i".toList, "  var i: integer;".toList, 7⟩
    let error : Message :=
      ⟨[], "\t".toList, "  ".toList, 12, "104".toList, "Undeclared identifier".toList, none,
        List.replicate 26 ' ' ++ "x := fooo;".toList, 35⟩
    extract (printOutput ['\r', '\n'] [.banner "12 104".toList, .message error, .message warning])
        (.ofList ["57".toList]) =
      [⟨12, 31, .error, "Undeclared identifier".toList, []⟩] :=
  (extract_printOutput (.inr rfl) (by decide) _).trans (by decide +kernel)

end Printed

end PascalLint
