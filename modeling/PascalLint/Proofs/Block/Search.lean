import PascalLint.Proofs.Block.Layout
import PascalLint.Proofs.Block.Parts

/-! The search for the layout finds what the scan over the lines finds.

At the start of a line the layout prefers the very candidate that the scan opens there
(`head?_matchesAt_layout`, `head?_matchesAt_layout_of_none`). A match ends at a caret, and the
search does not find another before the next line, where the scan goes on as well. -/
namespace PascalLint

open Pattern Block

variable {before : Option Char} {first : Text} {rest : List Text} {c : Candidate}

/-! ### Candidates as matches -/

namespace Candidate

/-- The match of the layout that stands for a candidate. -/
def toMatch (c : Candidate) (ahead : Text) : Match Part :=
  ⟨c.text, ahead, headerParts c.header ++ c.near.toList.map (Part.near, ·) ++
    [(.source, c.source), (.caretPrefix, c.caretPrefix)]⟩

theorem ofMatch?_toMatch (c : Candidate) (ahead : Text) : ofMatch? (c.toMatch ahead) = some c := by
  obtain ⟨header, near, source, caretPrefix, text⟩ := c
  cases near <;> rfl

end Candidate

/-- The blocks of matches are those of their candidates. -/
theorem filterMap_ofMatch? (ms : List (Match Part)) : ms.filterMap Block.ofMatch? =
    (ms.map Candidate.ofMatch?).filterMap (·.bind Candidate.block?) := by
  rw [List.filterMap_map]
  rfl

/-! ### The layout at the start of a line -/

/-- The preferred way to complete a block after its header line, given the lines after that. -/
def completed (rest : List Text) : Option (Match Part) :=
  (matchesAt (sequence (all contextLine) (all sourceAndCaret)) (some '\n')
    (Text.join ['\n'] rest)).head?.or
      (matchesAt (all sourceAndCaret) (some '\n') (Text.join ['\n'] rest)).head?

theorem matchesAt_layout_of_last_line (h : '\n' ∉ first) :
    matchesAt layout before first = [] := by
  have hheader : matchesAt (all headerLine) before first = [] :=
    matchesAt_headerLine_of_not_mem h
  rw [layout, matchesAt_all_append, matchesAt_sequence, hheader]
  rfl

/-- The header line is matched in its preferred way, and the lines after it do not depend on
that. -/
theorem head?_matchesAt_layout_eq (hbefore : AtLineStart before) (hfirst : '\n' ∉ first)
    (hrest : rest ≠ []) :
    (matchesAt layout before (Text.join ['\n'] (first :: rest))).head? =
      (Header.read? first).bind fun h => (completed rest).map
        (Match.andThen ⟨first ++ ['\n'], Text.join ['\n'] rest, headerParts h⟩) := by
  have hlast : lastOf before (first ++ ['\n']) = some '\n' := by simp [lastOf]
  rw [Text.join_cons_of_ne_nil _ _ hrest, List.append_assoc, List.singleton_append, layout,
    matchesAt_all_append, head?_matchesAt_sequence fun m hm => matched_headerLine hfirst hm,
    head?_matchesAt_headerLine hbefore hfirst, Option.bind_map, hlast, matchesAt_all_cons,
    matchesAt_optional_sequence, List.head?_append]
  rfl

/-- Without a block with context, the pattern for one does not match either. -/
theorem matchesAt_context_of_withNear?_eq_none {header : Header}
    (hrest : ∀ line ∈ rest, '\n' ∉ line) (h : Candidate.withNear? header first rest = none) :
    matchesAt (sequence (all contextLine) (all sourceAndCaret)) before
      (Text.join ['\n'] rest) = [] := by
  have hshort (line : Text) (hline : '\n' ∉ line) :
      matchesAt (sequence (all contextLine) (all sourceAndCaret)) before line = [] := by
    rw [matchesAt_sequence, matchesAt_contextLine_of_not_mem hline]
    rfl
  match rest with
  | [] => exact hshort [] List.not_mem_nil
  | [line] => exact hshort line (hrest line (by simp))
  | context :: source :: more =>
    have hcontext : '\n' ∉ context := hrest context (by simp)
    have hsource : '\n' ∉ source := hrest source (by simp)
    rw [Text.join_cons_cons, List.append_assoc, List.singleton_append, matchesAt_sequence]
    cases hnear : Candidate.near? context with
    | none =>
      rw [matchesAt_contextLine_of_none hcontext hnear]
      rfl
    | some near =>
      have hcaret : more.head?.bind Candidate.caretPrefix? = none := by
        cases more with
        | nil => rfl
        | cons caret more =>
          cases hcaret : Candidate.caretPrefix? caret with
          | none => exact hcaret
          | some caretPrefix => simp [Candidate.withNear?, hnear, hcaret] at h
      rw [matchesAt_contextLine hcontext hnear, List.flatMap_singleton,
        matchesAt_sourceAndCaret_of_none hsource hcaret]
      rfl

theorem matchesAt_source_of_withoutNear?_eq_none {header : Header}
    (hrest : ∀ line ∈ rest, '\n' ∉ line) (h : Candidate.withoutNear? header first rest = none) :
    matchesAt (all sourceAndCaret) before (Text.join ['\n'] rest) = [] := by
  match rest with
  | [] => exact matchesAt_restOfLine_of_not_mem _ List.not_mem_nil
  | source :: more =>
    refine matchesAt_sourceAndCaret_of_none (hrest source (by simp)) ?_
    cases more with
    | nil => rfl
    | cons caret more =>
      cases hcaret : Candidate.caretPrefix? caret with
      | none => exact hcaret
      | some caretPrefix => simp [Candidate.withoutNear?, hcaret] at h

/-- A caret line in front of other lines: what stands after the caret is the rest of its line. -/
theorem join_caretLine (caretPrefix after : Text) (more : List Text) :
    Text.join ['\n'] ((caretPrefix ++ '^' :: after) :: more) =
      caretPrefix ++ '^' :: Text.join ['\n'] (after :: more) := by
  rw [Text.join_append_cons]
  exact congrArg _ (Text.join_append_cons ['\n'] ['^'] after more)

/-- The preferred match is the candidate that the scan opens. It ends in a caret, and ahead of it
are the rest of the caret's line and the lines that the candidate does not use up. -/
theorem head?_matchesAt_layout (hbefore : AtLineStart before)
    (hlines : ∀ line ∈ first :: rest, '\n' ∉ line)
    (h : Candidate.opened? first rest = some c) :
    ∃ after, '\n' ∉ after ∧ c.text.getLast? = some '^' ∧
      (matchesAt layout before (Text.join ['\n'] (first :: rest))).head? =
        some (c.toMatch (Text.join ['\n'] (after :: rest.drop c.lineCount))) := by
  obtain ⟨hfirst, hrest⟩ := List.forall_mem_cons.mp hlines
  obtain ⟨header, hread, hopen⟩ := Candidate.opened?_eq_some_iff.mp h
  rcases hopen with hwith | ⟨hnone, hwithout⟩
  · obtain ⟨context, source, caret, more, near, caretPrefix, rfl, hnear, hcaret, rfl⟩ :=
      Candidate.withNear?_eq_some_iff.mp hwith
    obtain ⟨hblank, after, rfl⟩ := Candidate.caretPrefix?_eq_some_iff.mp hcaret
    have hcontext : '\n' ∉ context := hrest context (by simp)
    have hsource : '\n' ∉ source := hrest source (by simp)
    have hafter : '\n' ∉ caretPrefix ++ '^' :: after := hrest _ (by simp)
    refine ⟨after, fun hmem => hafter (by simp [hmem]), by simp, ?_⟩
    rw [head?_matchesAt_layout_eq hbefore hfirst (by simp), hread, completed, Text.join_cons_cons,
      Text.join_cons_cons, join_caretLine]
    simp only [List.append_assoc, List.singleton_append]
    rw [matchesAt_sequence, matchesAt_contextLine hcontext hnear, List.flatMap_singleton,
      matchesAt_sourceAndCaret hsource hblank]
    simp [Match.andThen, Candidate.toMatch, Candidate.lineCount, Text.unlines]
  · obtain ⟨source, caret, more, caretPrefix, rfl, hcaret, rfl⟩ :=
      Candidate.withoutNear?_eq_some_iff.mp hwithout
    obtain ⟨hblank, after, rfl⟩ := Candidate.caretPrefix?_eq_some_iff.mp hcaret
    have hsource : '\n' ∉ source := hrest source (by simp)
    have hafter : '\n' ∉ caretPrefix ++ '^' :: after := hrest _ (by simp)
    refine ⟨after, fun hmem => hafter (by simp [hmem]), by simp, ?_⟩
    rw [head?_matchesAt_layout_eq hbefore hfirst (by simp), hread, completed,
      matchesAt_context_of_withNear?_eq_none hrest hnone, Text.join_cons_cons, join_caretLine]
    simp only [List.append_assoc, List.singleton_append]
    rw [matchesAt_sourceAndCaret hsource hblank]
    simp [Match.andThen, Candidate.toMatch, Candidate.lineCount, Text.unlines]

/-- Where the scan opens nothing, the layout does not match. -/
theorem head?_matchesAt_layout_of_none (hbefore : AtLineStart before)
    (hlines : ∀ line ∈ first :: rest, '\n' ∉ line) (h : Candidate.opened? first rest = none) :
    (matchesAt layout before (Text.join ['\n'] (first :: rest))).head? = none := by
  obtain ⟨hfirst, hrest⟩ := List.forall_mem_cons.mp hlines
  by_cases hne : rest = []
  · subst hne
    have hnone : matchesAt layout before (Text.join ['\n'] [first]) = [] :=
      matchesAt_layout_of_last_line hfirst
    rw [hnone]
    rfl
  · rw [head?_matchesAt_layout_eq hbefore hfirst hne]
    cases hread : Header.read? first with
    | none => rfl
    | some header =>
      obtain ⟨hwith, hwithout⟩ := Candidate.opened?_eq_none_iff.mp h header hread
      rw [Option.bind_some, completed, matchesAt_context_of_withNear?_eq_none hrest hwith,
        matchesAt_source_of_withoutNear?_eq_none hrest hwithout]
      rfl

/-! ### The search -/

theorem anchored_layout : layout.Anchored := anchored_lineStart_sequence _

/-- A line that opens nothing is passed over. -/
theorem searchFrom_layout_of_none (hbefore : AtLineStart before)
    (hlines : ∀ line ∈ first :: rest, '\n' ∉ line) (h : Candidate.opened? first rest = none) :
    searchFrom layout 0 before (Text.join ['\n'] (first :: rest)) =
      searchFrom layout 0 (some '\n') (Text.join ['\n'] rest) :=
  searchFrom_of_no_match anchored_layout (hlines first (by simp)) rest
    (head?_matchesAt_layout_of_none hbefore hlines h)

/-- What a line opens is found, and the search goes on at the line after those that are used up. -/
theorem searchFrom_layout_of_opened (hbefore : AtLineStart before)
    (hlines : ∀ line ∈ first :: rest, '\n' ∉ line) (h : Candidate.opened? first rest = some c) :
    ∃ ahead, c.text ++ ahead = Text.join ['\n'] (first :: rest) ∧
      searchFrom layout 0 before (Text.join ['\n'] (first :: rest)) =
        c.toMatch ahead ::
          searchFrom layout 0 (some '\n') (Text.join ['\n'] (rest.drop c.lineCount)) := by
  obtain ⟨after, hafter, hcaret, hmatch⟩ := head?_matchesAt_layout hbefore hlines h
  have hlast : lastOf before c.text = some '^' := by simp [lastOf, hcaret]
  have hinside : ¬AtLineStart (some '^') := not_atLineStart_of_ne (by decide)
  have hne : (c.toMatch (Text.join ['\n'] (after :: rest.drop c.lineCount))).matched ≠ [] :=
    fun hnil => by simp [show c.text = [] from hnil] at hcaret
  refine ⟨_, matched_append_ahead (List.mem_of_head? hmatch), ?_⟩
  rw [searchFrom_of_match hmatch hne]
  congr 1
  show searchFrom layout 0 (lastOf before c.text) _ = _
  rw [hlast, Candidate.toMatch, searchFrom_inside_line anchored_layout hafter _ hinside]

/-- **Induction along the search**: a line that opens nothing is passed over alone, and a line that
opens a candidate with those that the candidate uses up. -/
theorem search_induction {motive : Option Char → List Text → Prop}
    (nil : ∀ before, motive before [])
    (none : ∀ before first rest, AtLineStart before → (∀ line ∈ first :: rest, '\n' ∉ line) →
      Candidate.opened? first rest = none → motive (some '\n') rest → motive before (first :: rest))
    (opened : ∀ before first rest c, AtLineStart before → (∀ line ∈ first :: rest, '\n' ∉ line) →
      Candidate.opened? first rest = some c → motive (some '\n') (rest.drop c.lineCount) →
      motive before (first :: rest))
    {lines : List Text} (hbefore : AtLineStart before) (hlines : ∀ line ∈ lines, '\n' ∉ line) :
    motive before lines := by
  induction hn : lines.length using Nat.strongRecOn generalizing lines before with
  | ind n ih =>
    cases lines with
    | nil => exact nil before
    | cons first rest =>
      have hdrop (k : Nat) : motive (some '\n') (rest.drop k) := by
        refine ih (rest.drop k).length ?_ (.inr rfl) (fun line hmem => ?_) rfl
        · rw [← hn, List.length_drop, List.length_cons]
          omega
        · exact (List.forall_mem_cons.mp hlines).2 line (List.mem_of_mem_drop hmem)
      cases hopen : Candidate.opened? first rest with
      | none => exact none before first rest hbefore hlines hopen (hdrop 0)
      | some c => exact opened before first rest c hbefore hlines hopen (hdrop c.lineCount)

/-- From the start of a line on, the search finds what the scan finds. -/
theorem map_ofMatch?_searchFrom_layout (lines : List Text) (hlines : ∀ line ∈ lines, '\n' ∉ line)
    (hbefore : AtLineStart before) :
    (searchFrom layout 0 before (Text.join ['\n'] lines)).map Candidate.ofMatch? =
      (Candidate.scan 0 lines).map some := by
  refine search_induction (motive := fun before lines =>
    (searchFrom layout 0 before (Text.join ['\n'] lines)).map Candidate.ofMatch? =
      (Candidate.scan 0 lines).map some) ?nil ?none ?opened hbefore hlines
  case nil => exact fun _ => rfl
  case none =>
    intro before first rest hbefore hlines hopen ih
    rw [searchFrom_layout_of_none hbefore hlines hopen, Candidate.scan, hopen]
    exact ih
  case opened =>
    intro before first rest c hbefore hlines hopen ih
    obtain ⟨ahead, -, hsearch⟩ := searchFrom_layout_of_opened hbefore hlines hopen
    rw [hsearch, Candidate.scan, hopen, List.map_cons, List.map_cons, Candidate.ofMatch?_toMatch,
      Candidate.scan_eq_drop, ih]

/-- The search finds the candidates of the scan, in order and with their text. -/
theorem map_ofMatch?_search_layout (text : Text) :
    (layout.search text).map Candidate.ofMatch? = (Candidate.all text).map some := by
  have hsearch := map_ofMatch?_searchFrom_layout (Text.lines text)
    (fun _ => Text.newline_not_mem_of_mem_lines) (.inl rfl)
  rw [Text.join_lines] at hsearch
  exact hsearch

theorem filterMap_ofMatch?_search_layout (text : Text) :
    (layout.search text).filterMap Block.ofMatch? = blocks text := by
  rw [filterMap_ofMatch?, map_ofMatch?_search_layout, List.filterMap_map]
  rfl

/-- **The search for the layout finds what the scan over the lines finds**, without going back: the
same candidates and the same blocks, in order. The scan in turn finds what the rules for lines
allow, and nothing else. Each candidate is a block, with the value of its line numeral for a line, or is
dropped if the numeral has other digits than the ASCII ones or a value that is too great. -/
theorem search_layout_eq_scan (text : Text) :
    (layout.search text).map Candidate.ofMatch? = (Candidate.all text).map some ∧
      (layout.search text).filterMap Block.ofMatch? = blocks text ∧
      (∀ cs, Scanned (Text.lines text) cs ↔ cs = Candidate.all text) ∧
      blocks text = (Candidate.all text).flatMap fun c =>
        if c.header.numeral.all Char.isDigit = true ∧
            Nat.ofDigitChars 10 c.header.numeral 0 < Nat.pow 2 64 then
          [⟨Nat.ofDigitChars 10 c.header.numeral 0, c.header.code, c.header.message, c.near, c.source,
            c.caretPrefix⟩]
        else [] :=
  ⟨map_ofMatch?_search_layout text, filterMap_ofMatch?_search_layout text, fun _ => scanned_iff,
    blocks_eq_flatMap text⟩

end PascalLint
