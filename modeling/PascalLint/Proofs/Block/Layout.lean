import PascalLint.Block.Layout
import PascalLint.Proofs.Block.Grammar
import PascalLint.Proofs.Pattern.Search

/-! How the lines of the layout match.

At the start of a line the layout prefers the very header that the scan reads there. Its runs of
blanks and digits are followed by what refuses them, so none is ever shortened, but for the blanks
before a message: those give up their last one if nothing else is left of the line. The other
shorter runs only move the start of the message, and what has to match after the header line is
then the same (`head?_matchesAt_headerLine`). The lines after the header line match in one way at
most. -/
namespace PascalLint

namespace Block

open Pattern

variable {before : Option Char} {line rest : Text}

theorem inLine_newline : inLine '\n' = false := rfl

theorem inLine_of_mem (h : '\n' ∉ line) : ∀ c ∈ line, inLine c = true := by
  intro c hc
  rw [inLine, bne_iff_ne]
  intro hnewline
  exact h (hnewline ▸ hc)

theorem takeWhile_inLine (h : '\n' ∉ line) (rest : Text) :
    (line ++ '\n' :: rest).takeWhile inLine = line :=
  Text.takeWhile_append_of_head (inLine_of_mem h) fun c hc => by
    obtain rfl : '\n' = c := by simpa using hc
    rfl

theorem dropWhile_inLine (h : '\n' ∉ line) (rest : Text) :
    (line ++ '\n' :: rest).dropWhile inLine = '\n' :: rest :=
  Text.dropWhile_append_of_head (inLine_of_mem h) fun c hc => by
    obtain rfl : '\n' = c := by simpa using hc
    rfl

/-! ### The rest of a line -/

section RestOfLine
variable {name : Part} {least : Nat} (ps : List (Pattern Part))

theorem refuses_newline : (all (char '\n' :: ps)).Refuses inLine :=
  (refuses_char inLine_newline).sequence _

/-- A named part that goes on to the end of the line. -/
theorem matchesAt_restOfLine (hline : '\n' ∉ line) (rest : Text) :
    matchesAt (all (named name (run least inLine) :: char '\n' :: ps)) before
        (line ++ '\n' :: rest) =
      if least ≤ line.length then
        (matchesAt (all ps) (some '\n') rest).map
          (Match.andThen ⟨line ++ ['\n'], rest, [(name, line)]⟩)
      else [] := by
  rw [matchesAt_all_cons, matchesAt_named_run_sequence (refuses_newline ps),
    takeWhile_inLine hline, dropWhile_inLine hline, matchesAt_all_cons, matchesAt_char_sequence,
    Match.map_andThen_map]
  rfl

theorem matchesAt_restOfLine_of_not_mem (hline : '\n' ∉ line) :
    matchesAt (all (named name (run least inLine) :: char '\n' :: ps)) before line = [] := by
  have hdrop : line.dropWhile inLine = [] :=
    List.dropWhile_eq_nil_iff.mpr (inLine_of_mem hline)
  have hnone : ∀ b, matchesAt (all (char '\n' :: ps)) b [] = [] := fun b => rfl
  rw [matchesAt_all_cons, matchesAt_named_run_sequence (refuses_newline ps), hdrop, hnone]
  split <;> rfl

end RestOfLine

/-! ### The header line -/

/-- The parts of a header. -/
def headerParts (h : Header) : List (Part × Text) :=
  [(.numeral, h.numeral), (.code, h.code), (.message, h.message)]

/-- A header line from the blanks before its message on. -/
def messageEnd : List (Pattern Part) :=
  [run 1 Header.isBlank, named .message (run 1 inLine), char '\n']

theorem matchesAt_message (hline : '\n' ∉ line) (rest : Text) :
    matchesAt (all [named Part.message (run 1 inLine), char '\n']) before (line ++ '\n' :: rest) =
      if 1 ≤ line.length then [⟨line ++ ['\n'], rest, [(.message, line)]⟩] else [] := by
  rw [matchesAt_restOfLine [] hline, matchesAt_all_nil]
  simp [Match.andThen]

/-- The messages that are left of a line by shorter and shorter runs of blanks before them. -/
theorem parts_messageEnd {blanks other : Text} (hblank : ∀ c ∈ blanks, Header.isBlank c = true)
    (hother : ∀ c ∈ other.head?, Header.isBlank c = false) (hline : '\n' ∉ blanks ++ other)
    (rest : Text) :
    (matchesAt (all messageEnd) before (blanks ++ other ++ '\n' :: rest)).map Match.parts =
      (List.range blanks.length).flatMap fun i =>
        if 1 ≤ (blanks.drop (blanks.length - i) ++ other).length then
          [[(.message, blanks.drop (blanks.length - i) ++ other)]] else [] := by
  have hstop : ∀ c ∈ (other ++ '\n' :: rest).head?, Header.isBlank c = false := by
    cases other with
    | nil => simp [Header.isBlank_newline]
    | cons d other => simpa using hother
  rw [List.mem_append, not_or] at hline
  have hleft (i : Nat) : '\n' ∉ blanks.drop (blanks.length - i) ++ other := by
    rw [List.mem_append, not_or]
    exact ⟨fun hmem => hline.1 (List.mem_of_mem_drop hmem), hline.2⟩
  rw [messageEnd, matchesAt_all_cons, List.append_assoc, matchesAt_sequence,
    matchesAt_run_append Part before 1 hblank hstop, Nat.add_sub_cancel, List.flatMap_map,
    List.map_flatMap]
  congr 1
  funext i
  rw [← List.append_assoc, matchesAt_message (hleft i)]
  split <;> rfl

/-- The preferred message is what the scan takes for it: the blanks are as long as possible, but
leave one character of the line to the message. -/
theorem head?_matchesAt_messageEnd (hline : '\n' ∉ line) (rest : Text) :
    (matchesAt (all messageEnd) before (line ++ '\n' :: rest)).head?.map Match.parts =
      (Header.message? line).map fun message => [(.message, message)] := by
  have hblank : ∀ c ∈ line.takeWhile Header.isBlank, Header.isBlank c = true :=
    fun c hc => List.mem_takeWhile_imp hc
  have hother : ∀ c ∈ (line.dropWhile Header.isBlank).head?, Header.isBlank c = false :=
    fun c hc => Text.eq_false_of_mem_head?_dropWhile hc
  have hsplit : line.takeWhile Header.isBlank ++ line.dropWhile Header.isBlank = line :=
    List.takeWhile_append_dropWhile
  generalize line.takeWhile Header.isBlank = blanks at *
  generalize line.dropWhile Header.isBlank = other at *
  subst hsplit
  rw [← List.head?_map, parts_messageEnd hblank hother hline]
  rcases List.eq_nil_or_concat blanks with rfl | ⟨fewer, last, rfl⟩
  · -- no blank after the code
    rw [List.nil_append, Header.message?_of_not_blank hother]
    rfl
  rw [List.concat_eq_append] at *
  have hlength : (fewer ++ [last]).length = fewer.length + 1 := by simp
  rw [hlength, List.range_succ_eq_map, List.flatMap_cons, ← hlength, Nat.sub_zero,
    List.drop_length, List.nil_append]
  cases other with
  | cons c other =>
    -- the longest run of blanks leaves something
    have hsome : Header.message? (fewer ++ [last] ++ c :: other) = some (c :: other) :=
      Header.message?_append (by simp) hblank (by simp) fun d more hstart hd => by
        obtain ⟨rfl, rfl⟩ := List.cons.inj hstart
        simp [hother c rfl] at hd
    rw [hsome, if_pos (by simp)]
    rfl
  | nil =>
    -- the longest run of blanks leaves nothing, the next one leaves its last blank
    rw [if_neg (by simp), List.nil_append, List.append_nil]
    cases fewer with
    | nil => rfl
    | cons c fewer =>
      rw [List.forall_mem_append] at hblank
      have hsome : Header.message? (c :: fewer ++ [last]) = some [last] :=
        Header.message?_append (by simp) hblank.1 (by simp) fun d more hstart _ =>
          (List.cons.inj hstart).2.symm
      rw [hsome, List.length_cons, List.range_succ_eq_map, List.map_cons, List.flatMap_cons]
      simp

section Runs
variable {least : Nat} {isMember : Char → Bool} {q : Pattern Part}

/-- The parts that are preferred after a run on a line. -/
theorem head?_parts_run (hq : q.Refuses isMember) (hstop : isMember '\n' = false)
    (line rest : Text) :
    (matchesAt (sequence (run least isMember) q) before (line ++ '\n' :: rest)).head?.map
        Match.parts =
      if least ≤ (line.takeWhile isMember).length then
        (matchesAt q (lastOf before (line.takeWhile isMember))
          (line.dropWhile isMember ++ '\n' :: rest)).head?.map Match.parts
      else none := by
  rw [matchesAt_run_sequence hq, Text.takeWhile_append_stop hstop, Text.dropWhile_append_stop hstop]
  split
  · rw [List.head?_map, Option.map_map]
    rfl
  · rfl

theorem head?_parts_named_run {name : Part} (hq : q.Refuses isMember)
    (hstop : isMember '\n' = false) (line rest : Text) :
    (matchesAt (sequence (named name (run least isMember)) q) before
        (line ++ '\n' :: rest)).head?.map Match.parts =
      if least ≤ (line.takeWhile isMember).length then
        ((matchesAt q (lastOf before (line.takeWhile isMember))
          (line.dropWhile isMember ++ '\n' :: rest)).head?.map Match.parts).map
            ((name, line.takeWhile isMember) :: ·)
      else none := by
  rw [matchesAt_named_run_sequence hq, Text.takeWhile_append_stop hstop,
    Text.dropWhile_append_stop hstop]
  split
  · rw [List.head?_map, Option.map_map, Option.map_map]
    rfl
  · rfl

end Runs

/-- The preferred parts of a header line are what the scan reads from it. -/
theorem head?_parts_headerLine (hbefore : AtLineStart before) (hline : '\n' ∉ line)
    (rest : Text) : (matchesAt (all headerLine) before (line ++ '\n' :: rest)).head?.map
        Match.parts = (Header.read? line).map headerParts := by
  have hmessage : (all messageEnd).Refuses Text.isDecimalDigit :=
    (refuses_run fun _ h => Header.isBlank_of_isDecimalDigit h).sequence _
  have hcode : (all (named .code (run 1 Text.isDecimalDigit) :: messageEnd)).Refuses
      Header.isBlank :=
    ((refuses_run fun _ h => Header.isDecimalDigit_of_isBlank h).named _).sequence _
  have hcodeGap : (all (run 1 Header.isBlank :: named .code (run 1 Text.isDecimalDigit) ::
      messageEnd)).Refuses Text.isDecimalDigit :=
    (refuses_run fun _ h => Header.isBlank_of_isDecimalDigit h).sequence _
  have hnumeral : (all (named .numeral (run 1 Text.isDecimalDigit) :: run 1 Header.isBlank ::
      named .code (run 1 Text.isDecimalDigit) :: messageEnd)).Refuses Header.isBlank :=
    ((refuses_run fun _ h => Header.isDecimalDigit_of_isBlank h).named _).sequence _
  have hblank : Header.isBlank '\n' = false := Header.isBlank_newline
  have hdigit : Text.isDecimalDigit '\n' = false := Text.isDecimalDigit_newline
  have hheader : headerLine = lineStart :: run 0 Header.isBlank ::
      named .numeral (run 1 Text.isDecimalDigit) :: run 1 Header.isBlank ::
      named .code (run 1 Text.isDecimalDigit) :: messageEnd := rfl
  rw [hheader, matchesAt_all_cons, matchesAt_lineStart_sequence hbefore, matchesAt_all_cons,
    head?_parts_run hnumeral hblank, if_pos (Nat.zero_le _), matchesAt_all_cons,
    head?_parts_named_run hcodeGap hdigit, matchesAt_all_cons, head?_parts_run hcode hblank,
    matchesAt_all_cons, head?_parts_named_run hmessage hdigit, head?_matchesAt_messageEnd]
  · simp only [Header.read?]
    generalize (line.dropWhile Header.isBlank).dropWhile Text.isDecimalDigit = afterNumeral
    generalize (afterNumeral.dropWhile Header.isBlank).dropWhile Text.isDecimalDigit = afterCode
    generalize (line.dropWhile Header.isBlank).takeWhile Text.isDecimalDigit = numeral
    generalize (afterNumeral.dropWhile Header.isBlank).takeWhile Text.isDecimalDigit = code
    generalize afterNumeral.takeWhile Header.isBlank = codeGap
    cases numeral <;> cases codeGap <;> cases code <;> simp [headerParts, Function.comp_def]
  · intro hmem
    exact hline ((List.dropWhile_suffix _).subset ((List.dropWhile_suffix _).subset
      ((List.dropWhile_suffix _).subset ((List.dropWhile_suffix _).subset hmem))))

theorem headerLine_eq : headerLine = headerLine.dropLast ++ [char '\n'] := rfl

theorem matchesAt_headerLine_of_not_mem (hline : '\n' ∉ line) :
    matchesAt (all headerLine) before line = [] := by
  rw [headerLine_eq]
  exact matchesAt_newline_of_not_mem hline

/-- Every way in which a header line matches takes the whole line. -/
theorem matched_headerLine {m : Match Part} (hline : '\n' ∉ line)
    (hm : m ∈ matchesAt (all headerLine) before (line ++ '\n' :: rest)) :
    m.matched = line ++ ['\n'] ∧ m.ahead = rest := by
  rw [headerLine_eq] at hm
  refine matched_of_line (fun p hp => ?_) hline hm
  have hblank {least : Nat} : (run least Header.isBlank : Pattern Part).WithinLine :=
    withinLine_run Header.isBlank_newline
  have hdigit {least : Nat} : (run least Text.isDecimalDigit : Pattern Part).WithinLine :=
    withinLine_run Text.isDecimalDigit_newline
  simp only [headerLine, List.dropLast, List.mem_cons, List.not_mem_nil, or_false] at hp
  rcases hp with rfl | rfl | rfl | rfl | rfl | rfl | rfl
  · exact withinLine_lineStart
  · exact hblank
  · exact hdigit.named _
  · exact hblank
  · exact hdigit.named _
  · exact hblank
  · exact (withinLine_run inLine_newline).named _

/-- The preferred way in which a header line matches. -/
theorem head?_matchesAt_headerLine (hbefore : AtLineStart before) (hline : '\n' ∉ line)
    (rest : Text) : (matchesAt (all headerLine) before (line ++ '\n' :: rest)).head? =
      (Header.read? line).map fun h => ⟨line ++ ['\n'], rest, headerParts h⟩ := by
  have hparts := head?_parts_headerLine hbefore hline rest
  cases hhead : (matchesAt (all headerLine) before (line ++ '\n' :: rest)).head? with
  | none =>
    rw [hhead] at hparts
    rw [Option.map_eq_none_iff.mp hparts.symm]
    rfl
  | some m =>
    rw [hhead] at hparts
    obtain ⟨h, hread, hm⟩ := Option.map_eq_some_iff.mp hparts.symm
    obtain ⟨hmatched, hahead⟩ := matched_headerLine hline (List.mem_of_head? hhead)
    rw [hread, Option.map_some, hm, ← hmatched, ← hahead]

/-! ### Context, source and caret -/

theorem refuses_caret : (all [char '^'] : Pattern Part).Refuses (· == ' ') :=
  (refuses_char (by rfl)).sequence _

theorem matchesAt_caretLine {caretPrefix : Text} (h : ∀ c ∈ caretPrefix, c = ' ') (after : Text) :
    matchesAt (all [named Part.caretPrefix (run 0 (· == ' ')), char '^']) before
        (caretPrefix ++ '^' :: after) =
      [⟨caretPrefix ++ ['^'], after, [(.caretPrefix, caretPrefix)]⟩] := by
  have hblank : ∀ c ∈ caretPrefix, (c == ' ') = true := fun c hc => by simp [h c hc]
  have hcaret : ∀ c ∈ ('^' :: after).head?, (c == ' ') = false := fun c hc => by
    obtain rfl : '^' = c := by simpa using hc
    rfl
  rw [matchesAt_all_cons, matchesAt_named_run_sequence refuses_caret, if_pos (Nat.zero_le _),
    Text.takeWhile_append_of_head hblank hcaret, Text.dropWhile_append_of_head hblank hcaret,
    matchesAt_all_cons, matchesAt_char_sequence, matchesAt_all_nil]
  rfl

theorem matchesAt_caretLine_of_none (h : Candidate.caretPrefix? line = none) (more : List Text) :
    matchesAt (all [named Part.caretPrefix (run 0 (· == ' ')), char '^']) before
      (Text.join ['\n'] (line :: more)) = [] := by
  have hcaret : ((Text.join ['\n'] (line :: more)).dropWhile (· == ' ')).head? ≠ some '^' := by
    have hline : (line.dropWhile (· == ' ')).head? ≠ some '^' := by
      intro hhead
      simp [Candidate.caretPrefix?, hhead] at h
    cases more with
    | nil => exact hline
    | cons second more =>
      rw [Text.join_cons_cons, List.append_assoc, List.singleton_append,
        Text.dropWhile_append_stop (by rfl)]
      cases hdrop : line.dropWhile (· == ' ') with
      | nil => simp
      | cons d after =>
        rw [hdrop] at hline
        exact hline
  rw [matchesAt_all_cons, matchesAt_named_run_sequence refuses_caret, if_pos (Nat.zero_le _),
    matchesAt_all_cons, matchesAt_sequence]
  cases hdrop : (Text.join ['\n'] (line :: more)).dropWhile (· == ' ') with
  | nil => rfl
  | cons d after =>
    have hd : d ≠ '^' := fun hd => hcaret (by rw [hdrop, hd]; rfl)
    simp [matchesAt, hd]

theorem matchesAt_sourceAndCaret (hline : '\n' ∉ line) {caretPrefix : Text}
    (h : ∀ c ∈ caretPrefix, c = ' ') (after : Text) :
    matchesAt (all sourceAndCaret) before (line ++ '\n' :: (caretPrefix ++ '^' :: after)) =
      [⟨line ++ '\n' :: caretPrefix ++ ['^'], after,
        [(.source, line), (.caretPrefix, caretPrefix)]⟩] := by
  rw [sourceAndCaret, matchesAt_restOfLine _ hline, if_pos (Nat.zero_le _),
    matchesAt_caretLine h]
  simp [Match.andThen]

theorem matchesAt_sourceAndCaret_of_none (hline : '\n' ∉ line) {lines : List Text}
    (h : lines.head?.bind Candidate.caretPrefix? = none) :
    matchesAt (all sourceAndCaret) before (Text.join ['\n'] (line :: lines)) = [] := by
  cases lines with
  | nil => exact matchesAt_restOfLine_of_not_mem _ hline
  | cons caret more =>
    rw [Text.join_cons_cons, List.append_assoc, List.singleton_append, sourceAndCaret,
      matchesAt_restOfLine _ hline, if_pos (Nat.zero_le _), matchesAt_caretLine_of_none h]
    rfl

theorem matchesAt_contextLine_of_not_mem (hline : '\n' ∉ line) :
    matchesAt (all contextLine) before line = [] := by
  have hparts : contextLine = ((List.replicate Candidate.nearIndent ' ').map char ++
      [named .near (run 1 inLine)]) ++ [char '\n'] := by simp [contextLine]
  rw [hparts]
  exact matchesAt_newline_of_not_mem hline

theorem matchesAt_contextLine {near : Text} (hline : '\n' ∉ line)
    (h : Candidate.near? line = some near) (rest : Text) :
    matchesAt (all contextLine) before (line ++ '\n' :: rest) =
      [⟨line ++ ['\n'], rest, [(.near, near)]⟩] := by
  obtain ⟨hne, rfl⟩ := Candidate.near?_eq_some_iff.mp h
  rw [List.mem_append, not_or] at hline
  rw [contextLine, List.append_assoc, matchesAt_literal, matchesAt_restOfLine _ hline.2,
    if_pos (Nat.succ_le_of_lt (List.length_pos_of_ne_nil hne)), matchesAt_all_nil]
  simp [Match.andThen]

theorem matchesAt_contextLine_of_none (hline : '\n' ∉ line)
    (h : Candidate.near? line = none) (rest : Text) :
    matchesAt (all contextLine) before (line ++ '\n' :: rest) = [] := by
  by_cases hindent : List.replicate Candidate.nearIndent ' ' <+: line
  · obtain ⟨near, rfl⟩ := hindent
    obtain rfl : near = [] := by
      by_contra hne
      simp [Candidate.near?_eq_some_iff.mpr ⟨hne, rfl⟩] at h
    have hnone (b : Option Char) :
        matchesAt (all [named Part.near (run 1 inLine), char '\n']) b ('\n' :: rest) = [] := by
      rw [← List.nil_append ('\n' :: rest), matchesAt_restOfLine [] List.not_mem_nil]
      rfl
    rw [contextLine, List.append_nil, matchesAt_literal, hnone]
    rfl
  · refine matchesAt_literal_eq_nil _ fun hbegins => hindent ?_
    exact Text.prefix_of_prefix_append_stop hbegins (by simp)

end Block
end PascalLint
