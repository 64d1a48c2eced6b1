import Mathlib.Tactic.MkIffOfInductiveProp
import PascalLint.Block.Printed
import PascalLint.Proofs.Block.Scanned
import PascalLint.Proofs.Text.Numeral

/-! The blocks of printed output.

Output is printed from items, banner lines and messages (`OutputItem.IsPrintable` says which), with
every line ended by a line feed or by a carriage return and a line feed. Read again it holds the
blocks of the messages, in order, and nothing else (`blocks_printOutput`).

A block whose source line could be context depends on the line after its caret line. That line is
never a caret line: it begins another item or is the empty line at the end. This is the invariant
(`NoCaretAhead`) with which one item after the other is read (`OutputItem.blocks_lines`). -/
namespace PascalLint

/-- The text has no line end in it. -/
def OnOneLine (text : Text) : Prop := '\n' ∉ text ∧ '\r' ∉ text

instance (text : Text) : Decidable (OnOneLine text) := inferInstanceAs (Decidable (_ ∧ _))

/-- The message can be printed and told from what surrounds it. -/
@[mk_iff]
structure Message.IsPrintable (m : Message) : Prop where
  indent_blank : ∀ c ∈ m.indent, Header.isBlank c = true
  line_lt : m.line < Text.wordLimit
  codeGap_ne_nil : m.codeGap ≠ []
  codeGap_blank : ∀ c ∈ m.codeGap, Header.isBlank c = true
  code_ne_nil : m.code ≠ []
  code_digit : ∀ c ∈ m.code, Text.isDecimalDigit c = true
  textGap_ne_nil : m.textGap ≠ []
  textGap_blank : ∀ c ∈ m.textGap, Header.isBlank c = true
  text_ne_nil : m.text ≠ []
  text_start : ∀ c ∈ m.text.head?, Header.isBlank c = false
  text_onOneLine : OnOneLine m.text
  near_ne_nil : m.near ≠ some []
  near_onOneLine : ∀ near ∈ m.near, OnOneLine near
  source_onOneLine : OnOneLine m.source

instance (m : Message) : Decidable m.IsPrintable := decidable_of_iff _ m.isPrintable_iff.symm

/-- The line begins as a header does: blanks, digits, blanks, digits and a blank. -/
def BeginsLikeHeader (line : Text) : Prop :=
  ∃ indent numeral gap code blank rest, line = indent ++ numeral ++ gap ++ code ++ blank :: rest ∧
    (∀ c ∈ indent, Header.isBlank c = true) ∧
    numeral ≠ [] ∧ (∀ c ∈ numeral, Text.isDecimalDigit c = true) ∧
    gap ≠ [] ∧ (∀ c ∈ gap, Header.isBlank c = true) ∧
    code ≠ [] ∧ (∀ c ∈ code, Text.isDecimalDigit c = true) ∧ Header.isBlank blank = true

/-- A banner line is neither like a header nor a caret line. -/
def OutputItem.IsPrintable : OutputItem → Prop
  | banner line => OnOneLine line ∧ ¬BeginsLikeHeader line ∧ ¬IsCaretLine line
  | message m => m.IsPrintable

/-- What stands in front of the line feeds at the ends of lines. -/
def IsReturn (ret : Text) : Prop := ret = [] ∨ ret = ['\r']

/-- The next line is no caret line, so no source line two lines before it is taken for context. -/
def NoCaretAhead (rest : List Text) : Prop := ∀ line ∈ rest[0]?, ¬IsCaretLine line

/-- The block with its lines ended by a text. -/
def Block.endedBy (ret : Text) (b : Block) : Block :=
  { b with message := b.message ++ ret, near := b.near.map (· ++ ret), source := b.source ++ ret }

section Lines
variable {ret : Text}

theorem IsReturn.newline_not_mem (h : IsReturn ret) : '\n' ∉ ret := by
  rcases h with rfl | rfl <;> decide

theorem IsReturn.caret_not_mem (h : IsReturn ret) : '^' ∉ ret := by
  rcases h with rfl | rfl <;> decide

theorem IsReturn.length_le (h : IsReturn ret) : ret.length ≤ 1 := by
  rcases h with rfl | rfl <;> decide

/-! ### The lines of an item -/

/-- A header line does not begin with a caret. -/
theorem HeaderLine.not_isCaretLine (l : HeaderLine) : ¬IsCaretLine l.text := by
  intro h
  obtain ⟨caretPrefix, hblank, after, hline⟩ := h
  have hdigit : ∀ c ∈ l.body.head?, Text.isDecimalDigit c = true :=
    Text.forall_head?_append l.numeral_ne_nil l.numeral_digit
  have hbody : l.text.dropWhile Header.isBlank = l.body :=
    Text.dropWhile_append_of_head l.indent_blank fun c hc =>
      Header.isBlank_of_isDecimalDigit (hdigit c hc)
  have hcaret : l.text.dropWhile Header.isBlank = '^' :: after := by
    rw [hline]
    refine Text.dropWhile_append_of_head (fun c hc => ?_) fun c hc => ?_
    · rw [hblank c hc]
      rfl
    · obtain rfl : '^' = c := by simpa using hc
      rfl
  rw [← hbody, hcaret] at hdigit
  exact absurd (hdigit '^' rfl) (by decide)

theorem not_isCaretLine_append {line : Text} (h : ¬IsCaretLine line) (hret : IsReturn ret) :
    ¬IsCaretLine (line ++ ret) := by
  intro hcaret
  obtain ⟨caretPrefix, hblank, after, hline⟩ := hcaret
  rcases List.append_eq_append_iff.mp hline with ⟨rest, -, hrest⟩ | ⟨rest, hrest, hcaret⟩
  · exact hret.caret_not_mem (by rw [hrest]; simp)
  · cases rest with
    | nil => exact hret.caret_not_mem (by rw [← List.nil_append ret, ← hcaret]; simp)
    | cons c rest =>
      obtain ⟨rfl, -⟩ := List.cons.inj hcaret
      exact h ⟨caretPrefix, hblank, rest, hrest⟩

/-- A header line has at least one character after the blank that follows its code. -/
theorem beginsLikeHeader_of_headerLine {line : Text} (hret : ret.length ≤ 1) {l : HeaderLine}
    (h : l.text = line ++ ret) : BeginsLikeHeader line := by
  obtain ⟨blank, gap, hgap⟩ := List.exists_cons_of_ne_nil l.textGap_ne_nil
  have hblank : Header.isBlank blank = true := l.textGap_blank blank (by simp [hgap])
  have htext : l.text =
      (l.indent ++ l.numeral ++ l.codeGap ++ l.code ++ [blank]) ++ (gap ++ l.message) := by
    simp [HeaderLine.text, HeaderLine.body, hgap]
  have hbegins : l.indent ++ l.numeral ++ l.codeGap ++ l.code ++ [blank] <+: line := by
    have hwhole : l.indent ++ l.numeral ++ l.codeGap ++ l.code ++ [blank] <+: line ++ ret := by
      rw [← h, htext]
      exact List.prefix_append ..
    refine List.prefix_of_prefix_length_le hwhole (List.prefix_append ..) ?_
    have hlength := congrArg List.length (htext.symm.trans h)
    have hmessage := List.length_pos_of_ne_nil l.message_ne_nil
    simp only [List.length_append] at hlength ⊢
    omega
  obtain ⟨rest, rfl⟩ := hbegins
  exact ⟨l.indent, l.numeral, l.codeGap, l.code, blank, rest, by simp, l.indent_blank,
    l.numeral_ne_nil, l.numeral_digit, l.codeGap_ne_nil, l.codeGap_blank, l.code_ne_nil,
    l.code_digit, hblank⟩

/-- With something more on it a line that begins as a header does is a header. -/
theorem BeginsLikeHeader.isHeaderLine_append {line after : Text} (h : BeginsLikeHeader line)
    (hne : after ≠ []) : IsHeaderLine (line ++ after) := by
  obtain ⟨indent, numeral, gap, code, blank, rest, rfl, hindent, hnumeral, hnumeralDigit, hgap,
    hgapBlank, hcode, hcodeDigit, hblank⟩ := h
  obtain ⟨message, hmessage⟩ : ∃ message,
      Header.message? (blank :: (rest ++ after)) = some message :=
    Header.exists_message? hblank (List.append_ne_nil_of_right_ne_nil rest hne)
  obtain ⟨textGap, hsplit, htextGap, htextGapBlank, hmessageNe, hstart⟩ :=
    Header.exists_gap_of_message? hmessage
  refine ⟨⟨indent, numeral, gap, code, textGap, message, hindent, hnumeral, hnumeralDigit, hgap,
    hgapBlank, hcode, hcodeDigit, htextGap, htextGapBlank, hmessageNe, hstart⟩, ?_⟩
  simp [HeaderLine.text, HeaderLine.body, ← hsplit]

theorem IsHeaderLine.beginsLikeHeader {line : Text} (h : IsHeaderLine line) :
    BeginsLikeHeader line := by
  obtain ⟨l, hl⟩ := h
  exact beginsLikeHeader_of_headerLine (by decide : ([] : Text).length ≤ 1)
    (hl.trans (List.append_nil line).symm)

theorem beginsLikeHeader_iff {line : Text} :
    BeginsLikeHeader line ↔ IsHeaderLine (line ++ ['.']) :=
  ⟨fun h => h.isHeaderLine_append (by simp),
    fun ⟨_, hl⟩ => beginsLikeHeader_of_headerLine (by simp) hl⟩

instance (line : Text) : Decidable (BeginsLikeHeader line) :=
  decidable_of_iff _ beginsLikeHeader_iff.symm

/-- Whether an item can be printed is decidable, as is each of its conditions. -/
instance : (item : OutputItem) → Decidable item.IsPrintable
  | .banner line => inferInstanceAs (Decidable (OnOneLine line ∧ ¬_ ∧ ¬_))
  | .message m => inferInstanceAs (Decidable m.IsPrintable)

/-- The header line of a printed message. -/
def Message.headerLine (m : Message) (hm : m.IsPrintable) (ret : Text) : HeaderLine where
  indent := m.indent
  numeral := Text.ofNat m.line
  codeGap := m.codeGap
  code := m.code
  textGap := m.textGap
  message := m.text ++ ret
  indent_blank := hm.indent_blank
  numeral_ne_nil := Text.ofNat_ne_nil m.line
  numeral_digit := fun _ hc => Text.isDecimalDigit_of_isDigit (Text.isDigit_of_mem_ofNat hc)
  codeGap_ne_nil := hm.codeGap_ne_nil
  codeGap_blank := hm.codeGap_blank
  code_ne_nil := hm.code_ne_nil
  code_digit := hm.code_digit
  textGap_ne_nil := hm.textGap_ne_nil
  textGap_blank := hm.textGap_blank
  message_ne_nil := List.append_ne_nil_of_left_ne_nil hm.text_ne_nil ret
  message_start := by
    intro c rest hmessage hblank
    obtain ⟨d, text, htext⟩ := List.exists_cons_of_ne_nil hm.text_ne_nil
    rw [htext, List.cons_append] at hmessage
    obtain ⟨rfl, -⟩ := List.cons.inj hmessage
    simp [hm.text_start d (by simp [htext])] at hblank

/-! ### Reading an item back -/

/-- The lines of a message are read as its block, and the scan goes on after them. -/
theorem Message.blocks_lines {m : Message} (hm : m.IsPrintable) (ret : Text) {rest : List Text}
    (hrest : NoCaretAhead rest) :
    (Candidate.scan 0 (m.lines.map (· ++ ret) ++ rest)).filterMap Candidate.block? =
      m.block.endedBy ret :: (Candidate.scan 0 rest).filterMap Candidate.block? := by
  have hcount : Text.count? (Text.ofNat m.line) = some m.line := Text.count?_ofNat hm.line_lt
  have hheader : (m.headerLine hm ret).text =
      m.indent ++ Text.ofNat m.line ++ m.codeGap ++ m.code ++ m.textGap ++ m.text ++ ret := by
    simp [headerLine, HeaderLine.text, HeaderLine.body]
  have hcaret : ∀ c ∈ List.replicate m.caretColumn ' ', c = ' ' :=
    fun c hc => List.eq_of_mem_replicate hc
  cases hnear : m.near with
  | none =>
    have hlines : m.lines.map (· ++ ret) ++ rest = (m.headerLine hm ret).text ::
        (m.source ++ ret) :: (List.replicate m.caretColumn ' ' ++ '^' :: ret) :: rest := by
      simp [lines, hnear, hheader]
    -- the source line may look like context, but no caret line follows
    have hopen := opened?_withoutContext (m.headerLine hm ret) hcaret ret
      fun _ : IsContextLine (m.source ++ ret) => hrest
    rw [hlines, filterMap_block?_scan (b := m.block.endedBy ret) hopen]
    · rfl
    · simp [Candidate.block?, HeaderLine.header, hcount, headerLine, block, Block.endedBy, hnear]
  | some near =>
    have hlines : m.lines.map (· ++ ret) ++ rest = (m.headerLine hm ret).text ::
        (List.replicate Candidate.nearIndent ' ' ++ (near ++ ret)) :: (m.source ++ ret) ::
          (List.replicate m.caretColumn ' ' ++ '^' :: ret) :: rest := by
      simp [lines, hnear, hheader, Candidate.nearIndent]
    have hne : near ++ ret ≠ [] :=
      List.append_ne_nil_of_left_ne_nil (fun h => hm.near_ne_nil (by rw [hnear, h])) ret
    have hopen := opened?_withContext (m.headerLine hm ret) hne (m.source ++ ret) hcaret ret rest
    rw [hlines, filterMap_block?_scan (b := m.block.endedBy ret) hopen]
    · rfl
    · simp [Candidate.block?, HeaderLine.header, hcount, headerLine, block, Block.endedBy, hnear]

/-- No item begins with a caret line. -/
theorem OutputItem.noCaretAhead {item : OutputItem} (hitem : item.IsPrintable)
    (hret : IsReturn ret) (rest : List Text) :
    NoCaretAhead (item.lines.map (· ++ ret) ++ rest) := by
  cases item with
  | banner text =>
    intro line hline
    obtain rfl : text ++ ret = line := by simpa [lines] using hline
    exact not_isCaretLine_append hitem.2.2 hret
  | message m =>
    intro line hline
    have htext : (m.headerLine hitem ret).text = line := by
      simpa [lines, Message.lines, Message.headerLine, HeaderLine.text, HeaderLine.body] using hline
    rw [← htext]
    exact HeaderLine.not_isCaretLine _

/-- One item in front of lines that do not begin with a caret line. -/
theorem OutputItem.blocks_lines {item : OutputItem} (hitem : item.IsPrintable) (hret : IsReturn ret)
    {rest : List Text} (hrest : NoCaretAhead rest) :
    (Candidate.scan 0 (item.lines.map (· ++ ret) ++ rest)).filterMap Candidate.block? =
      item.message?.toList.map (·.block.endedBy ret) ++
        (Candidate.scan 0 rest).filterMap Candidate.block? := by
  cases item with
  | banner line =>
    have hheader : ¬IsHeaderLine (line ++ ret) :=
      fun ⟨_, hl⟩ => hitem.2.1 (beginsLikeHeader_of_headerLine hret.length_le hl)
    simp only [lines, List.map_cons, List.map_nil, List.singleton_append,
      scan_of_not_headerLine hheader]
    rfl
  | message m => exact m.blocks_lines hitem ret hrest

/-! ### Reading printed output back -/

/-- The lines of all items, ended by a carriage return or not, and the empty line at the end. -/
theorem blocks_items (hret : IsReturn ret) {items : List OutputItem}
    (hitems : ∀ item ∈ items, item.IsPrintable) :
    NoCaretAhead ((items.flatMap OutputItem.lines).map (· ++ ret) ++ [[]]) ∧
    (Candidate.scan 0 ((items.flatMap OutputItem.lines).map (· ++ ret) ++ [[]])).filterMap
        Candidate.block? =
      (items.filterMap OutputItem.message?).map (·.block.endedBy ret) := by
  induction items with
  | nil =>
    constructor
    · intro line hline hcaret
      obtain ⟨caretPrefix, -, after, hcaret⟩ := hcaret
      obtain rfl : [] = line := by simpa using hline
      simp at hcaret
    · rfl
  | cons item items ih =>
    rw [List.forall_mem_cons] at hitems
    obtain ⟨hcaret, hblocks⟩ := ih hitems.2
    rw [List.flatMap_cons, List.map_append, List.append_assoc]
    refine ⟨OutputItem.noCaretAhead hitems.1 hret _, ?_⟩
    rw [OutputItem.blocks_lines hitems.1 hret hcaret, hblocks]
    cases item <;> rfl

theorem printOutput_eq_unlines (ret : Text) (items : List OutputItem) :
    printOutput (ret ++ ['\n']) items =
      Text.unlines ((items.flatMap OutputItem.lines).map (· ++ ret)) := by
  simp [printOutput, Text.unlines, List.flatMap_map]

/-- A printed line holds no line feed but the one that ends it. -/
theorem OutputItem.newline_not_mem {item : OutputItem} (hitem : item.IsPrintable) :
    ∀ line ∈ item.lines, '\n' ∉ line := by
  cases item with
  | banner text => simpa [lines] using hitem.1.1
  | message m =>
    have hm : m.IsPrintable := hitem
    have hheader : '\n' ∉ (m.headerLine hm []).text :=
      HeaderLine.newline_not_mem_text _ (by simpa [Message.headerLine] using hm.text_onOneLine.1)
    have hcontext : ∀ near ∈ m.near, '\n' ∉ List.replicate 24 ' ' ++ near := by
      intro near hnear
      simp [(hm.near_onOneLine near hnear).1]
    have hcaret : '\n' ∉ List.replicate m.caretColumn ' ' ++ ['^'] := by simp
    intro line hline
    simp only [lines, Message.lines, List.cons_append, List.mem_cons, List.mem_append,
      List.mem_map, Option.mem_toList, List.not_mem_nil, or_false] at hline
    rcases hline with rfl | ⟨near, hnear, rfl⟩ | rfl | rfl
    · simpa [Message.headerLine, HeaderLine.text, HeaderLine.body] using hheader
    · exact hcontext near hnear
    · exact hm.source_onOneLine.1
    · exact hcaret

/-- **Printed output is read back**: it holds the blocks of its messages, in order. -/
theorem blocks_printOutput (hret : IsReturn ret) {items : List OutputItem}
    (hitems : ∀ item ∈ items, item.IsPrintable) :
    blocks (printOutput (ret ++ ['\n']) items) =
      (items.filterMap OutputItem.message?).map (·.block.endedBy ret) := by
  have hline : ∀ line ∈ (items.flatMap OutputItem.lines).map (· ++ ret), '\n' ∉ line := by
    intro line hmem
    obtain ⟨printed, hprinted, rfl⟩ := List.mem_map.mp hmem
    obtain ⟨item, hitem, hprinted⟩ := List.mem_flatMap.mp hprinted
    rw [List.mem_append, not_or]
    exact ⟨item.newline_not_mem (hitems item hitem) printed hprinted, hret.newline_not_mem⟩
  have hlines : Text.lines (printOutput (ret ++ ['\n']) items) =
      (items.flatMap OutputItem.lines).map (· ++ ret) ++ [[]] := by
    rw [printOutput_eq_unlines, ← List.append_nil (Text.unlines _),
      Text.lines_unlines_append hline]
    rfl
  rw [blocks, Candidate.all, hlines]
  exact (blocks_items hret hitems).2

end Lines

end PascalLint
