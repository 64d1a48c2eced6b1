import PascalLint.Extraction.Basic
import PascalLint.Proofs.Block.Scanned

/-! Three lines that make a block, in front of any text.

A header line, a source line and a caret line are read as their block whatever follows them, with
one exception that the format itself makes: a source line that could be context, before a caret line
and a text that begins with another caret line, is taken for context
(`head?_blocks_threeLines_of_not`, `head?_blocks_threeLines_of_context`). -/
namespace PascalLint

/-- The block without context under a header line. -/
def HeaderLine.plainBlock (l : HeaderLine) (n : Nat) (source : Text) (caret : Nat) : Block :=
  ⟨n, l.code, l.message, none, source, List.replicate caret ' '⟩

/-- The three lines of a block without context, each ended by a line feed. -/
def threeLines (l : HeaderLine) (source : Text) (caret : Nat) : Text :=
  Text.unlines [l.text, source, List.replicate caret ' ' ++ ['^']]

section ThreeLines
variable {l : HeaderLine} {n : Nat} {source : Text}

theorem all_threeLines (hmessage : '\n' ∉ l.message) (hsource : '\n' ∉ source) (caret : Nat)
    (after : Text) : Candidate.all (threeLines l source caret ++ after) =
      Candidate.scan 0
        (l.text :: source :: (List.replicate caret ' ' ++ ['^']) :: Text.lines after) := by
  rw [Candidate.all, threeLines, Text.lines_unlines_append]
  · rfl
  · have hcaret : '\n' ∉ List.replicate caret ' ' ++ ['^'] := by simp
    simp [l.newline_not_mem_text hmessage, hsource, hcaret]

/-- The candidate that a text opens gives its first block, if its numeral is a count. -/
theorem head?_blocks_of_opened? {text first : Text} {rest : List Text} {c : Candidate} {b : Block}
    (hall : Candidate.all text = Candidate.scan 0 (first :: rest))
    (hopen : Candidate.opened? first rest = some c) (hb : c.block? = some b) :
    (blocks text).head? = some b := by
  rw [blocks, hall, filterMap_block?_scan hopen hb]
  rfl

theorem IsCaretLine.mono {line text : Text} (h : IsCaretLine line) (hbegins : line <+: text) :
    IsCaretLine text := by
  obtain ⟨caretPrefix, hblank, after, rfl⟩ := h
  obtain ⟨more, rfl⟩ := hbegins
  exact ⟨caretPrefix, hblank, after ++ more, by simp⟩

theorem head?_blocks_threeLines_of_not (hn : Text.count? l.numeral = some n)
    (hmessage : '\n' ∉ l.message) (hsource : '\n' ∉ source) (caret : Nat) {after : Text}
    (h : ¬(IsContextLine source ∧ IsCaretLine after)) :
    (blocks (threeLines l source caret ++ after)).head? = some (l.plainBlock n source caret) := by
  refine head?_blocks_of_opened? (all_threeLines hmessage hsource caret after)
    (opened?_withoutContext l (fun c hc => List.eq_of_mem_replicate hc) [] ?_) ?_
  · intro hcontext line hline hcaret
    exact h ⟨hcontext, hcaret.mono (Text.prefix_of_mem_lines_zero hline)⟩
  · simp [Candidate.block?, HeaderLine.header, HeaderLine.plainBlock, hn]

theorem head?_blocks_threeLines_of_context (hn : Text.count? l.numeral = some n)
    (hmessage : '\n' ∉ l.message) {near : Text} (hnear : '\n' ∉ near) (hne : near ≠ [])
    (caret : Nat) {caretPrefix : Text} (hblank : ∀ c ∈ caretPrefix, c = ' ') (rest : Text) :
    (blocks (threeLines l (List.replicate Candidate.nearIndent ' ' ++ near) caret ++
        (caretPrefix ++ '^' :: rest))).head? =
      some ⟨n, l.code, l.message, some near, List.replicate caret ' ' ++ ['^'], caretPrefix⟩ := by
  have hsource : '\n' ∉ List.replicate Candidate.nearIndent ' ' ++ near := by simp [hnear]
  have hcaret : '\n' ∉ caretPrefix ++ ['^'] := by
    simp only [List.mem_append, List.mem_singleton, Char.reduceEq, or_false]
    exact fun hmem => absurd (hblank _ hmem) (by decide)
  obtain ⟨line, more, -, hlines⟩ := Text.exists_lines_append hcaret rest
  simp only [List.append_assoc, List.singleton_append] at hlines
  have hall := all_threeLines (l := l) hmessage hsource caret (caretPrefix ++ '^' :: rest)
  rw [hlines] at hall
  refine head?_blocks_of_opened? hall (opened?_withContext l hne _ hblank line more) ?_
  simp [Candidate.block?, HeaderLine.header, hn]

/-- A header line to try the others on. -/
def shortHeader : HeaderLine where
  indent := []
  numeral := ['1']
  codeGap := [' ']
  code := ['2']
  textGap := [' ']
  message := ['B', 'a', 'd']
  indent_blank := by decide
  numeral_ne_nil := by decide
  numeral_digit := by decide
  codeGap_ne_nil := by decide
  codeGap_blank := by decide
  code_ne_nil := by decide
  code_digit := by decide
  textGap_ne_nil := by decide
  textGap_blank := by decide
  message_ne_nil := by decide
  message_start := by
    intro c rest hmessage hblank
    obtain ⟨rfl, -⟩ := List.cons.inj hmessage
    exact absurd hblank (by decide)

/-- **Three lines that make a block are read as that block, whatever follows.** The exception is a
source line with the indentation of a line of context, before a text that begins with a caret line
of its own. If that indentation is exactly a line of context's, the four lines are a block with
context. -/
theorem first_block_of_threeLines (hn : Text.count? l.numeral = some n)
    (hmessage : '\n' ∉ l.message) (hsource : '\n' ∉ source) (caret : Nat) (after : Text) :
    (¬(IsContextLine source ∧ IsCaretLine after) →
      (blocks (threeLines l source caret ++ after)).head? = some (l.plainBlock n source caret) ∧
        (l.plainBlock n source caret).text = Text.dropReturn l.message) ∧
    ∀ near caretPrefix rest, near ≠ [] → near.head? ≠ some ' ' →
      source = List.replicate Candidate.nearIndent ' ' ++ near →
      (∀ c ∈ caretPrefix, c = ' ') → after = caretPrefix ++ '^' :: rest →
      (blocks (threeLines l source caret ++ after)).head? =
        some ⟨n, l.code, l.message, some near, List.replicate caret ' ' ++ ['^'], caretPrefix⟩ := by
  constructor
  · intro h
    exact ⟨head?_blocks_threeLines_of_not hn hmessage hsource caret h, rfl⟩
  · rintro near caretPrefix rest hne - rfl hblank rfl
    have hnear : '\n' ∉ near := fun hmem => hsource (List.mem_append_right _ hmem)
    exact head?_blocks_threeLines_of_context hn hmessage hnear hne caret hblank rest

/-- A source line with more than the indentation of context before another header, and one with
exactly that indentation before another caret line. -/
theorem first_block_of_threeLines_deeply_indented :
    (blocks (threeLines shortHeader (List.replicate 26 ' ' ++ ['x']) 27 ++ shortHeader.text)).head? =
        some (shortHeader.plainBlock 1 (List.replicate 26 ' ' ++ ['x']) 27) ∧
      (blocks (threeLines shortHeader (List.replicate 24 ' ' ++ ['x']) 0 ++ [' ', '^'])).head? =
        some ⟨1, ['2'], ['B', 'a', 'd'], some ['x'], ['^'], [' ']⟩ :=
  ⟨((first_block_of_threeLines (by decide) (by decide) (by decide) 27 shortHeader.text).1
      (by decide)).1,
    (first_block_of_threeLines (by decide) (by decide) (by decide) 0 [' ', '^']).2
      ['x'] [' '] [] (by decide) (by decide) rfl (by decide) rfl⟩

/-- Three lines are not always read as their block. -/
theorem first_block_of_threeLines_not_plain :
    Text.count? shortHeader.numeral = some 1 ∧
      (blocks (threeLines shortHeader (List.replicate 24 ' ' ++ ['x']) 0 ++ ['^'])).head? ≠
        some (shortHeader.plainBlock 1 (List.replicate 24 ' ' ++ ['x']) 0) := by
  decide

end ThreeLines

end PascalLint
