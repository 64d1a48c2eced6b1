import PascalLint.Proofs.Block.Scanned
import PascalLint.Proofs.Text.Numeral

/-! What blocks are made of.

The parts of a candidate stand on lines of the output: its header line, its line of context, its
source line and its caret line are four lines of the text or three (`mem_all_isFrom`). So the message
and the context of a block are what ends a line, and none of them is empty. A candidate is a block just
if its line numeral is ASCII digits whose value fits a machine word (`blocks_eq_flatMap`). -/
namespace PascalLint

open Candidate

/-- The parts of a candidate stand on some of the lines. -/
structure Candidate.IsFrom (lines : List Text) (c : Candidate) : Prop where
  header : ∃ l : HeaderLine, l.text ∈ lines ∧ l.header = c.header
  context : ∀ near ∈ c.near, near ≠ [] ∧ List.replicate nearIndent ' ' ++ near ∈ lines
  source : c.source ∈ lines
  caretPrefix_blank : ∀ blank ∈ c.caretPrefix, blank = ' '
  caret : ∃ after, c.caretPrefix ++ '^' :: after ∈ lines

theorem Candidate.IsFrom.mono {lines more : List Text} {c : Candidate} (h : c.IsFrom more)
    (hsub : ∀ line ∈ more, line ∈ lines) : c.IsFrom lines where
  header := h.header.imp fun _ hl => ⟨hsub _ hl.1, hl.2⟩
  context := fun near hnear => ⟨(h.context near hnear).1, hsub _ (h.context near hnear).2⟩
  source := hsub _ h.source
  caretPrefix_blank := h.caretPrefix_blank
  caret := h.caret.imp fun _ hcaret => hsub _ hcaret

/-- Every candidate that the rules find is made of the lines it is found in. -/
theorem Scanned.isFrom {lines : List Text} {cs : List Candidate} (h : Scanned lines cs) :
    ∀ c ∈ cs, c.IsFrom lines := by
  induction h with
  | nil => intro c hc; cases hc
  | @withContext l near source caretPrefix after more cs hne hblank _ ih =>
    intro c hc
    rcases List.mem_cons.mp hc with rfl | hc
    · exact {
        header := ⟨l, by simp, rfl⟩
        context := fun found hfound => by
          obtain rfl := Option.some.inj hfound
          exact ⟨hne, by simp⟩
        source := by simp
        caretPrefix_blank := hblank
        caret := ⟨after, by simp⟩ }
    · exact (ih c hc).mono fun line hline => by simp [hline]
  | @withoutContext l source caretPrefix after more cs _ hblank _ ih =>
    intro c hc
    rcases List.mem_cons.mp hc with rfl | hc
    · exact {
        header := ⟨l, by simp, rfl⟩
        context := fun found hfound => by cases hfound
        source := by simp
        caretPrefix_blank := hblank
        caret := ⟨after, by simp⟩ }
    · exact (ih c hc).mono fun line hline => by simp [hline]
  | other _ _ ih =>
    intro c hc
    exact (ih c hc).mono fun line hline => List.mem_cons_of_mem _ hline

theorem mem_all_isFrom {text : Text} {c : Candidate} (h : c ∈ all text) :
    c.IsFrom (Text.lines text) :=
  (scanned_scan (Text.lines text)).isFrom c h

/-! ### Blocks -/

/-- The text ends a line, and is not empty. -/
def EndsLine (lines : List Text) (part : Text) : Prop :=
  part ≠ [] ∧ ∃ before, before ++ part ∈ lines

/-- The parts of a block stand on some of the lines. -/
structure Block.IsFrom (lines : List Text) (b : Block) : Prop where
  code_ne_nil : b.code ≠ []
  code_digit : ∀ c ∈ b.code, Text.isDecimalDigit c = true
  message : EndsLine lines b.message
  context : ∀ near ∈ b.near, EndsLine lines near
  source : b.source ∈ lines

theorem Candidate.IsFrom.block {lines : List Text} {c : Candidate} {b : Block} (h : c.IsFrom lines)
    (hb : c.block? = some b) : b.IsFrom lines := by
  obtain ⟨l, hl, hheader⟩ := h.header
  obtain ⟨n, -, rfl⟩ := Option.map_eq_some_iff.mp hb
  have hmessage : (l.indent ++ (l.numeral ++ (l.codeGap ++ (l.code ++ l.textGap)))) ++ l.message =
      l.text := by
    simp only [HeaderLine.text, HeaderLine.body, List.append_assoc]
  exact {
    code_ne_nil := by rw [← hheader]; exact l.code_ne_nil
    code_digit := by rw [← hheader]; exact l.code_digit
    message := by rw [← hheader]; exact ⟨l.message_ne_nil, _, hmessage ▸ hl⟩
    context := fun near hnear => (h.context near hnear).imp_right fun hline => ⟨_, hline⟩
    source := h.source }

/-- A candidate is a block if its numeral is a count. -/
theorem Candidate.toList_block? (c : Candidate) (hne : c.header.numeral ≠ []) :
    c.block?.toList = if c.header.numeral.all Char.isDigit = true ∧
        Nat.ofDigitChars 10 c.header.numeral 0 < Text.wordLimit then
      [⟨Nat.ofDigitChars 10 c.header.numeral 0, c.header.code, c.header.message, c.near, c.source,
        c.caretPrefix⟩]
    else [] := by
  rw [Candidate.block?, Text.count?_eq]
  by_cases hcount : c.header.numeral.all Char.isDigit = true ∧
      Nat.ofDigitChars 10 c.header.numeral 0 < Text.wordLimit
  · rw [if_pos hcount, if_pos ⟨hne, hcount⟩]
    rfl
  · rw [if_neg hcount, if_neg fun h => hcount h.2]
    rfl

/-- The blocks of a text are its candidates with a count for their line numeral. -/
theorem blocks_eq_flatMap (text : Text) : blocks text = (all text).flatMap fun c =>
    if c.header.numeral.all Char.isDigit = true ∧
        Nat.ofDigitChars 10 c.header.numeral 0 < Text.wordLimit then
      [⟨Nat.ofDigitChars 10 c.header.numeral 0, c.header.code, c.header.message, c.near, c.source,
        c.caretPrefix⟩]
    else [] := by
  rw [blocks, List.filterMap_eq_flatMap_toList]
  apply List.flatMap_congr
  intro c hc
  obtain ⟨l, -, hheader⟩ := (mem_all_isFrom hc).header
  apply toList_block?
  rw [← hheader]
  exact l.numeral_ne_nil

theorem mem_blocks_isFrom {text : Text} {b : Block} (h : b ∈ blocks text) :
    b.IsFrom (Text.lines text) := by
  obtain ⟨c, hc, hb⟩ := List.mem_filterMap.mp h
  exact (mem_all_isFrom hc).block hb

end PascalLint
