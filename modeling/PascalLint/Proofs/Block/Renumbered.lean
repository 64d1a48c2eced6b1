import PascalLint.Proofs.Block.Printed
import PascalLint.Proofs.Block.Search
import PascalLint.Proofs.Block.Separated
import PascalLint.Proofs.Text.Numeral

/-! Another line number in a header line.

What a header line means to the blocks around it does not depend on its line number: it is no caret
line, and it is a line of context just if its indentation is one (`HeaderLine.alike`). So the lines
before it open what they opened before when one header line takes the place of another
(`Alike.opened?_eq_some`), and the header line itself opens the same candidate but for the numeral
(`HeaderLine.exists_opened?_text`). Step by step the search comes to the same lines
(`foundAtLine_of_searchFrom`), whether the numeral is a count or not, and finds the same blocks around it
(`blocks_renumbered`). -/
namespace PascalLint

open Pattern Block Candidate

/-! ### Lines that can take each other's place -/

/-- The two lines are the same to a block that is opened before them. -/
structure Alike (a b : Text) : Prop where
  not_caret : ¬IsCaretLine a
  not_caret' : ¬IsCaretLine b
  context : IsContextLine a ↔ IsContextLine b

section Alike
variable {a b first : Text} {front rest : List Text} {c : Candidate}

/-- What holds of both lines or of neither holds of the lines at a place either way. -/
theorem forall_mem_getElem?_congr {p : Text → Prop} (h : p a ↔ p b) (front rest : List Text)
    (k : Nat) : (∀ line ∈ (front ++ a :: rest)[k]?, p line) ↔
      ∀ line ∈ (front ++ b :: rest)[k]?, p line := by
  rcases Nat.lt_trichotomy k front.length with hlt | rfl | hgt
  · rw [List.getElem?_append_left hlt, List.getElem?_append_left hlt]
  · simp [h]
  · obtain ⟨j, rfl⟩ : ∃ j, k = front.length + (j + 1) := ⟨k - front.length - 1, by omega⟩
    simp [List.getElem?_append_right]

theorem exists_mem_getElem?_congr {p : Text → Prop} (h : p a ↔ p b) (front rest : List Text)
    (k : Nat) : (∃ line ∈ (front ++ a :: rest)[k]?, p line) ↔
      ∃ line ∈ (front ++ b :: rest)[k]?, p line := by
  have hnone := forall_mem_getElem?_congr (p := fun line => ¬p line) (not_congr h) front rest k
  simpa using not_congr hnone

variable (h : Alike a b)
include h

theorem Alike.caret : ¬IsCaretLine a ↔ ¬IsCaretLine b :=
  ⟨fun _ => h.not_caret', fun _ => h.not_caret⟩

theorem Alike.withNear?_eq_none_iff (header : Header) (first : Text) :
    withNear? header first (front ++ a :: rest) = none ↔
      withNear? header first (front ++ b :: rest) = none := by
  rw [Candidate.withNear?_eq_none_iff, Candidate.withNear?_eq_none_iff,
    exists_mem_getElem?_congr h.context, forall_mem_getElem?_congr h.caret]

theorem Alike.withoutNear?_eq_none_iff (header : Header) (first : Text) :
    withoutNear? header first (front ++ a :: rest) = none ↔
      withoutNear? header first (front ++ b :: rest) = none := by
  rw [Candidate.withoutNear?_eq_none_iff, Candidate.withoutNear?_eq_none_iff,
    forall_mem_getElem?_congr h.caret]

theorem Alike.opened?_eq_none (hopen : opened? first (front ++ a :: rest) = none) :
    opened? first (front ++ b :: rest) = none := by
  rw [opened?_eq_none_iff] at hopen ⊢
  intro header hread
  rw [← h.withNear?_eq_none_iff, ← h.withoutNear?_eq_none_iff]
  exact hopen header hread

/-- A candidate that is complete before the line is opened either way. -/
theorem Alike.opened?_eq_some (hopen : opened? first (front ++ a :: rest) = some c)
    (hcount : c.lineCount ≤ front.length) : opened? first (front ++ b :: rest) = some c := by
  rw [opened?_eq_some_iff] at hopen ⊢
  obtain ⟨header, hread, hwith | ⟨hnone, hwithout⟩⟩ := hopen
  · refine ⟨header, hread, .inl ?_⟩
    have hthree : c.lineCount = 3 := by
      obtain ⟨_, _, _, _, _, _, -, -, -, rfl⟩ := withNear?_eq_some_iff.mp hwith
      rfl
    match front, hthree ▸ hcount with
    | _ :: _ :: _ :: _, _ => exact hwith
  · refine ⟨header, hread, .inr ⟨(h.withNear?_eq_none_iff header first).mp hnone, ?_⟩⟩
    have htwo : c.lineCount = 2 := by
      obtain ⟨_, _, _, _, -, -, rfl⟩ := withoutNear?_eq_some_iff.mp hwithout
      rfl
    match front, htwo ▸ hcount with
    | _ :: _ :: _, _ => exact hwithout

end Alike

/-! ### Header lines -/

namespace HeaderLine
variable {rest : List Text} {c : Candidate}

/-- A header line is a line of context if its indentation goes far enough. -/
theorem isContextLine_text_iff (l : HeaderLine) :
    IsContextLine l.text ↔ List.replicate nearIndent ' ' <+: l.indent := by
  obtain ⟨d, numeral, hnumeral⟩ := List.exists_cons_of_ne_nil l.numeral_ne_nil
  have hdigit : Text.isDecimalDigit d = true := l.numeral_digit d (by simp [hnumeral])
  have hd : d ∉ List.replicate nearIndent ' ' := by
    intro hmem
    rw [List.eq_of_mem_replicate hmem, Text.isDecimalDigit_space] at hdigit
    cases hdigit
  constructor
  · rintro ⟨near, -, hline⟩
    have hbegins : List.replicate nearIndent ' ' <+: l.text := ⟨near, hline.symm⟩
    rw [text, body, hnumeral, List.cons_append] at hbegins
    exact Text.prefix_of_prefix_append_stop hbegins hd
  · rintro ⟨more, hindent⟩
    exact ⟨more ++ l.body, by simp [body, hnumeral], by rw [text, ← hindent, List.append_assoc]⟩

theorem alike {l k : HeaderLine} (h : l.indent = k.indent) : Alike l.text k.text where
  not_caret := l.not_isCaretLine
  not_caret' := k.not_isCaretLine
  context := by rw [isContextLine_text_iff, isContextLine_text_iff, h]

/-- What a header line opens is the same for all header lines but for what is written on them. -/
theorem exists_opened?_text (l : HeaderLine) (h : opened? l.text rest = some c) :
    c.header = l.header ∧ ∃ tail, c.text = l.text ++ tail ∧
      ∀ k : HeaderLine, opened? k.text rest =
        some ⟨k.header, c.near, c.source, c.caretPrefix, k.text ++ tail⟩ := by
  obtain ⟨header, hread, hwith | ⟨hnone, hwithout⟩⟩ := opened?_eq_some_iff.mp h
  · obtain ⟨context, source, caret, more, near, caretPrefix, rfl, hnear, hcaret, rfl⟩ :=
      withNear?_eq_some_iff.mp hwith
    rw [Header.read?_text] at hread
    refine ⟨(Option.some.inj hread).symm,
      '\n' :: (Text.unlines [context, source] ++ caretPrefix ++ ['^']), by simp [Text.unlines],
      fun k => ?_⟩
    refine opened?_eq_some_iff.mpr ⟨k.header, Header.read?_text k, .inl ?_⟩
    exact withNear?_eq_some_iff.mpr
      ⟨_, _, _, _, _, _, rfl, hnear, hcaret, by simp [Text.unlines]⟩
  · obtain ⟨source, caret, more, caretPrefix, rfl, hcaret, rfl⟩ :=
      withoutNear?_eq_some_iff.mp hwithout
    rw [Header.read?_text] at hread
    refine ⟨(Option.some.inj hread).symm,
      '\n' :: (Text.unlines [source] ++ caretPrefix ++ ['^']), by simp [Text.unlines],
      fun k => ?_⟩
    have hnone : withNear? k.header k.text (source :: caret :: more) = none :=
      withNear?_eq_none_iff.mpr (withNear?_eq_none_iff.mp hnone)
    refine opened?_eq_some_iff.mpr ⟨k.header, Header.read?_text k, .inr ⟨hnone, ?_⟩⟩
    exact withoutNear?_eq_some_iff.mpr ⟨_, _, _, _, rfl, hcaret, by simp [Text.unlines]⟩

end HeaderLine

/-! ### The search -/

section Search
variable {before : Option Char} {line : Text} {front rest used lines : List Text} {c : Candidate}
  {found : List (Option Candidate)} {earlier later : List (Match Part)} {m : Match Part}

/-- The search goes through some lines to those after them, and finds candidates on the way. -/
def Reaches (before : Option Char) (front rest : List Text) (found : List (Option Candidate)) : Prop :=
  ∃ ms before', AtLineStart before' ∧ ms.map Candidate.ofMatch? = found ∧
    searchFrom layout 0 before (Text.join ['\n'] (front ++ rest)) =
      ms ++ searchFrom layout 0 before' (Text.join ['\n'] rest)

theorem Reaches.nil (hbefore : AtLineStart before) : Reaches before [] rest [] :=
  ⟨[], before, hbefore, rfl, rfl⟩

theorem Reaches.cons_of_none (h : Reaches (some '\n') front rest found) (hbefore : AtLineStart before)
    (hlines : ∀ l ∈ line :: front ++ rest, '\n' ∉ l) (hopen : opened? line (front ++ rest) = none) :
    Reaches before (line :: front) rest found := by
  obtain ⟨ms, before', hstart, hfound, hsearch⟩ := h
  refine ⟨ms, before', hstart, hfound, ?_⟩
  rw [← hsearch]
  exact searchFrom_layout_of_none hbefore hlines hopen

/-- The lines that a candidate uses up are passed over with it. -/
theorem Reaches.cons_of_opened (h : Reaches (some '\n') front rest found)
    (hbefore : AtLineStart before) (hlines : ∀ l ∈ line :: (used ++ front ++ rest), '\n' ∉ l)
    (hopen : opened? line (used ++ front ++ rest) = some c) (hused : used.length = c.lineCount) :
    Reaches before (line :: (used ++ front)) rest (some c :: found) := by
  obtain ⟨ms, before', hstart, rfl, hsearch⟩ := h
  obtain ⟨ahead, -, hmatch⟩ := searchFrom_layout_of_opened hbefore hlines hopen
  have hdrop : (used ++ front ++ rest).drop c.lineCount = front ++ rest := by
    rw [List.append_assoc, List.drop_left' hused]
  refine ⟨c.toMatch ahead :: ms, before', hstart, ?_, ?_⟩
  · rw [List.map_cons, ofMatch?_toMatch]
  · rw [hdrop, hsearch] at hmatch
    exact hmatch

/-- The match is that of the candidate which the first of some lines opens, and the search goes on
behind it. -/
structure OpenedAt (first : Text) (rest : List Text) (c : Candidate) (m : Match Part)
    (later : List (Match Part)) : Prop where
  opened : opened? first rest = some c
  match_eq : m = c.toMatch m.ahead
  text_eq : c.text ++ m.ahead = Text.join ['\n'] (first :: rest)
  later_eq : later = searchFrom layout 0 (some '\n') (Text.join ['\n'] (rest.drop c.lineCount))

theorem newline_not_mem_replace {first other : Text}
    (hlines : ∀ line ∈ front ++ first :: rest, '\n' ∉ line) (hother : '\n' ∉ other) :
    ∀ line ∈ front ++ other :: rest, '\n' ∉ line := by
  rw [List.forall_mem_append, List.forall_mem_cons] at hlines ⊢
  exact ⟨hlines.1, hother, hlines.2.2⟩

/-- The match is found at a line, after others. If a line like that one takes its place, the search
comes to it as well, with the same candidates before. -/
def FoundAtLine (before : Option Char) (lines : List Text) (earlier : List (Match Part))
    (m : Match Part) (later : List (Match Part)) : Prop :=
  ∃ front first rest c, lines = front ++ first :: rest ∧ OpenedAt first rest c m later ∧
    ∀ other, '\n' ∉ other → Alike first other →
      Reaches before front (other :: rest) (earlier.map Candidate.ofMatch?)

/-- A line that opens nothing does not open anything when a line behind it is replaced. -/
theorem FoundAtLine.cons_of_none (h : FoundAtLine (some '\n') lines earlier m later)
    (hbefore : AtLineStart before) (hlines : ∀ l ∈ line :: lines, '\n' ∉ l)
    (hopen : opened? line lines = none) : FoundAtLine before (line :: lines) earlier m later := by
  obtain ⟨front, first, rest, c, rfl, hat, hreach⟩ := h
  refine ⟨line :: front, first, rest, c, rfl, hat, fun other hother halike => ?_⟩
  exact (hreach other hother halike).cons_of_none hbefore (newline_not_mem_replace hlines hother)
    (halike.opened?_eq_none hopen)

/-- A candidate is opened as before when a line behind those that it uses up is replaced. -/
theorem FoundAtLine.cons_of_opened
    (h : FoundAtLine (some '\n') (lines.drop c.lineCount) earlier m later)
    (hbefore : AtLineStart before) (hlines : ∀ l ∈ line :: lines, '\n' ∉ l)
    (hopen : opened? line lines = some c) (ahead : Text) :
    FoundAtLine before (line :: lines) (c.toMatch ahead :: earlier) m later := by
  obtain ⟨front, first, rest, c', hdrop, hat, hreach⟩ := h
  have hcount : c.lineCount ≤ lines.length := lineCount_le_length hopen
  obtain ⟨used, hused, rfl⟩ : ∃ used, used.length = c.lineCount ∧
      lines = used ++ front ++ first :: rest :=
    ⟨lines.take c.lineCount, by simp [hcount], by
      rw [List.append_assoc, ← hdrop, List.take_append_drop]⟩
  refine ⟨line :: (used ++ front), first, rest, c', rfl, hat, fun other hother halike => ?_⟩
  have hlines' : ∀ l ∈ line :: (used ++ front) ++ other :: rest, '\n' ∉ l :=
    newline_not_mem_replace hlines hother
  have hopen' : opened? line (used ++ front ++ other :: rest) = some c :=
    halike.opened?_eq_some hopen (by simp [hused])
  rw [List.map_cons, ofMatch?_toMatch]
  exact (hreach other hother halike).cons_of_opened hbefore hlines' hopen' hused

/-- Every match of the search is found at a line. -/
theorem foundAtLine_of_searchFrom (hlines : ∀ line ∈ lines, '\n' ∉ line)
    (hbefore : AtLineStart before)
    (hsearch : searchFrom layout 0 before (Text.join ['\n'] lines) = earlier ++ m :: later) :
    FoundAtLine before lines earlier m later := by
  refine search_induction (motive := fun before lines => ∀ earlier,
    searchFrom layout 0 before (Text.join ['\n'] lines) = earlier ++ m :: later →
      FoundAtLine before lines earlier m later) ?nil ?none ?opened hbefore hlines earlier hsearch
  case nil =>
    intro before earlier hsearch
    simp [Text.join, searchFrom] at hsearch
  case none =>
    intro before line lines hbefore hlines hopen ih earlier hsearch
    rw [searchFrom_layout_of_none hbefore hlines hopen] at hsearch
    exact (ih earlier hsearch).cons_of_none hbefore hlines hopen
  case opened =>
    intro before line lines c hbefore hlines hopen ih earlier hsearch
    obtain ⟨ahead, htext, hmatch⟩ := searchFrom_layout_of_opened hbefore hlines hopen
    rw [hmatch] at hsearch
    cases earlier with
    | nil =>
      obtain ⟨rfl, rfl⟩ := List.cons.inj hsearch
      exact ⟨[], line, lines, c, rfl, ⟨hopen, rfl, htext, rfl⟩, fun _ _ _ => .nil hbefore⟩
    | cons e earlier =>
      obtain ⟨rfl, hahead⟩ := List.cons.inj hsearch
      exact (ih earlier hahead).cons_of_opened hbefore hlines hopen ahead

end Search

/-! ### The numeral of a match -/

/-- Where a match of the layout stands in a text, and its line numeral in the match. -/
@[ext]
structure NumeralPlace (text : Text) (m : Match Part) where
  before : Text
  indent : Text
  numeral : Text
  /-- What follows the numeral in the match. -/
  tail : Text
  text_eq : before ++ m.matched ++ m.ahead = text
  matched_eq : m.matched = indent ++ numeral ++ tail
  indent_blank : ∀ c ∈ indent, Header.isBlank c = true
  part_eq : m.part? .numeral = some numeral

namespace NumeralPlace
variable {text : Text} {m : Match Part} {c : Candidate}

/-- The text with another numeral at the place. -/
def textWith (p : NumeralPlace text m) (numeral : Text) : Text :=
  p.before ++ (p.indent ++ numeral ++ p.tail) ++ m.ahead

/-- The match with another numeral. -/
def matchWith (p : NumeralPlace text m) (numeral : Text) : Match Part :=
  ⟨p.indent ++ numeral ++ p.tail, m.ahead,
    m.parts.map fun part => if part.1 = .numeral then (.numeral, numeral) else part⟩

theorem matchWith_eq (p : NumeralPlace text m) (hmatch : m = c.toMatch m.ahead) (numeral : Text) :
    p.matchWith numeral =
      toMatch ⟨⟨numeral, c.header.code, c.header.message⟩, c.near, c.source, c.caretPrefix,
        p.indent ++ numeral ++ p.tail⟩ m.ahead := by
  have hparts : m.parts = (c.toMatch m.ahead).parts := by rw [← hmatch]
  rw [matchWith, hparts, toMatch, toMatch]
  cases c.near <;> simp [headerParts]

/-- There is one place only: the blanks in front of the numeral end where its digits begin. -/
theorem eq_of_digit (p q : NumeralPlace text m) (hne : q.numeral ≠ [])
    (hdigit : ∀ d ∈ q.numeral, Text.isDecimalDigit d = true) : p = q := by
  have hnumeral : p.numeral = q.numeral := by
    rw [← Option.some_inj, ← p.part_eq, q.part_eq]
  have hstop (tail : Text) : ∀ d ∈ (q.numeral ++ tail).head?, Header.isBlank d = false :=
    fun d hd => Header.isBlank_of_isDecimalDigit (Text.forall_head?_append hne hdigit d hd)
  have hmatched : p.indent ++ (q.numeral ++ p.tail) = q.indent ++ (q.numeral ++ q.tail) := by
    rw [← hnumeral, ← List.append_assoc, ← p.matched_eq, q.matched_eq, List.append_assoc, hnumeral]
  have hindent : p.indent = q.indent := by
    rw [← Text.takeWhile_append_of_head p.indent_blank (hstop p.tail), hmatched,
      Text.takeWhile_append_of_head q.indent_blank (hstop q.tail)]
  rw [hindent, List.append_cancel_left_eq, List.append_cancel_left_eq] at hmatched
  have hbefore : p.before = q.before :=
    List.append_cancel_right (List.append_cancel_right (p.text_eq.trans q.text_eq.symm))
  exact NumeralPlace.ext hbefore hindent hnumeral hmatched

end NumeralPlace

/-! ### Another numeral -/

/-- The header line with another numeral. -/
def HeaderLine.withNumeral (l : HeaderLine) (numeral : Text) (hne : numeral ≠ [])
    (hdigit : ∀ d ∈ numeral, Text.isDecimalDigit d = true) : HeaderLine :=
  { l with numeral := numeral, numeral_ne_nil := hne, numeral_digit := hdigit }

/-- The header line of a match and the lines around it. What the match has after its header line does
not depend on the header line. -/
structure HeaderSite (text : Text) (m : Match Part) (front : List Text) (l : HeaderLine)
    (rest : List Text) (c : Candidate) (tail : Text) : Prop where
  text_eq : Text.join ['\n'] (front ++ l.text :: rest) = text
  newline_not_mem : ∀ line ∈ front ++ l.text :: rest, '\n' ∉ line
  match_eq : m = c.toMatch m.ahead
  header_eq : c.header = l.header
  matched_eq : c.text = l.text ++ tail
  opened : ∀ k : HeaderLine,
    opened? k.text rest = some ⟨k.header, c.near, c.source, c.caretPrefix, k.text ++ tail⟩
  join_eq : ∀ k : HeaderLine, k.text ++ tail ++ m.ahead = Text.join ['\n'] (k.text :: rest)

section Numeral
variable {text : Text} {earlier later : List (Match Part)} {m : Match Part} {front rest : List Text}
  {l : HeaderLine} {c : Candidate} {tail : Text}

theorem exists_headerSite (hsearch : layout.search text = earlier ++ m :: later) :
    ∃ front l rest c tail, HeaderSite text m front l rest c tail ∧
      later = searchFrom layout 0 (some '\n') (Text.join ['\n'] (rest.drop c.lineCount)) ∧
      ∀ k : HeaderLine, '\n' ∉ k.text → k.indent = l.indent →
        Reaches none front (k.text :: rest) (earlier.map Candidate.ofMatch?) := by
  have hlines : ∀ line ∈ Text.lines text, '\n' ∉ line :=
    fun _ => Text.newline_not_mem_of_mem_lines
  have hjoined := Text.join_lines text
  rw [← hjoined] at hsearch
  obtain ⟨front, first, rest, c, hsplit, hat, hreach⟩ :=
    foundAtLine_of_searchFrom hlines (.inl rfl) hsearch
  obtain ⟨header, hread, -⟩ := opened?_eq_some_iff.mp hat.opened
  obtain ⟨l, rfl, -⟩ := Header.read?_eq_some_iff.mp hread
  obtain ⟨hheader, tail, htext, hopened⟩ := l.exists_opened?_text hat.opened
  have hcut (k : HeaderLine) :
      Text.join ['\n'] (k.text :: rest) = k.text ++ Text.join ['\n'] ([] :: rest) := by
    rw [← Text.join_append_cons, List.append_nil]
  have hahead : tail ++ m.ahead = Text.join ['\n'] ([] :: rest) := by
    have hl := hat.text_eq
    rwa [htext, hcut l, List.append_assoc, List.append_cancel_left_eq] at hl
  rw [hsplit] at hlines hjoined
  exact ⟨front, l, rest, c, tail,
    { text_eq := hjoined
      newline_not_mem := hlines
      match_eq := hat.match_eq
      header_eq := hheader
      matched_eq := htext
      opened := hopened
      join_eq := fun k => by rw [hcut k, ← hahead, List.append_assoc] },
    hat.later_eq, fun k hk hindent => hreach k.text hk (HeaderLine.alike hindent.symm)⟩

namespace HeaderSite
variable (h : HeaderSite text m front l rest c tail)
include h

theorem join_front_eq (k : HeaderLine) : Text.join ['\n'] (front ++ k.text :: rest) =
    Text.unlines front ++ (k.text ++ tail) ++ m.ahead := by
  have hjoin : Text.join ['\n'] (front ++ k.text :: rest) =
      Text.unlines front ++ Text.join ['\n'] (k.text :: rest) :=
    Text.join_append (List.cons_ne_nil k.text rest) front
  rw [hjoin, ← h.join_eq k, List.append_assoc (Text.unlines front)]

theorem matched_eq_append : m.matched = l.text ++ tail := by
  rw [h.match_eq, ← h.matched_eq]
  rfl

/-- The line numeral of the match stands in the header line. -/
def place : NumeralPlace text m where
  before := Text.unlines front
  indent := l.indent
  numeral := l.numeral
  tail := l.codeGap ++ (l.code ++ (l.textGap ++ l.message)) ++ tail
  text_eq := by rw [h.matched_eq_append, ← h.join_front_eq l, h.text_eq]
  matched_eq := by
    rw [h.matched_eq_append]
    simp only [HeaderLine.text, HeaderLine.body, List.append_assoc]
  indent_blank := l.indent_blank
  part_eq := by
    rw [h.match_eq]
    simp [toMatch, Match.part?, headerParts, h.header_eq, HeaderLine.header]

theorem newline_not_mem_withNumeral {numeral : Text} (hne : numeral ≠ [])
    (hdigit : ∀ d ∈ numeral, Text.isDecimalDigit d = true) :
    '\n' ∉ (l.withNumeral numeral hne hdigit).text := by
  have hline : '\n' ∉ l.text := h.newline_not_mem l.text (by simp)
  refine HeaderLine.newline_not_mem_text _ fun hmessage => hline ?_
  have hmem : '\n' ∈ l.message := hmessage
  simp [HeaderLine.text, HeaderLine.body, hmem]

/-- The search comes to the match with another numeral, and goes on behind it as before. -/
theorem search_textWith
    (hreach : ∀ k : HeaderLine, '\n' ∉ k.text → k.indent = l.indent →
      Reaches none front (k.text :: rest) (earlier.map Candidate.ofMatch?))
    {numeral : Text} (hne : numeral ≠ []) (hdigit : ∀ d ∈ numeral, Text.isDecimalDigit d = true) :
    ∃ earlier', earlier'.map Candidate.ofMatch? = earlier.map Candidate.ofMatch? ∧
      layout.search (h.place.textWith numeral) = earlier' ++ h.place.matchWith numeral ::
        searchFrom layout 0 (some '\n') (Text.join ['\n'] (rest.drop c.lineCount)) := by
  let k : HeaderLine := l.withNumeral numeral hne hdigit
  have hnewline : '\n' ∉ k.text := h.newline_not_mem_withNumeral hne hdigit
  have hbody : h.place.indent ++ numeral ++ h.place.tail = k.text ++ tail := by
    simp only [place, k, HeaderLine.withNumeral, HeaderLine.text, HeaderLine.body, List.append_assoc]
  have htext : h.place.textWith numeral = Text.join ['\n'] (front ++ k.text :: rest) := by
    rw [NumeralPlace.textWith, hbody, h.join_front_eq k]
    rfl
  obtain ⟨earlier', before', hstart, hsame, hfound⟩ := hreach k hnewline rfl
  have hlines : ∀ line ∈ k.text :: rest, '\n' ∉ line :=
    (List.forall_mem_append.mp (newline_not_mem_replace h.newline_not_mem hnewline)).2
  obtain ⟨ahead, hahead, hmatch⟩ := searchFrom_layout_of_opened hstart hlines (h.opened k)
  obtain rfl : m.ahead = ahead := by
    rw [← h.join_eq k] at hahead
    exact (List.append_cancel_left hahead).symm
  refine ⟨earlier', hsame, ?_⟩
  rw [htext, search, hfound, hmatch, NumeralPlace.matchWith_eq _ h.match_eq, hbody, h.header_eq]
  rfl

end HeaderSite

/-! ### The blocks -/

/-- The blocks are those of the matches. -/
theorem blocks_of_search (hsearch : layout.search text = earlier ++ m :: later)
    (hm : Candidate.ofMatch? m = some c) :
    blocks text = earlier.filterMap Block.ofMatch? ++ c.block?.toList ++
      later.filterMap Block.ofMatch? := by
  have hblock : Block.ofMatch? m = c.block? := by rw [Block.ofMatch?, hm, Option.bind_some]
  rw [← filterMap_ofMatch?_search_layout, hsearch, List.filterMap_append, List.filterMap_cons, hblock]
  cases c.block? <;> simp

/-- **A line numeral matters to its own block only.** Another run of digits in the place of the line
numeral of a match leaves the matches before it and behind it as they are, and so their blocks. The
block itself has the value of the run as its line if that is a count, and else there is no block, but
the search goes on at the same place. -/
theorem blocks_renumbered (hsearch : layout.search text = earlier ++ m :: later) :
    Nonempty (NumeralPlace text m) ∧ ∃ c, Candidate.ofMatch? m = some c ∧
      blocks text = earlier.filterMap Block.ofMatch? ++ c.block?.toList ++
        later.filterMap Block.ofMatch? ∧
      ∀ (p : NumeralPlace text m) (numeral : Text), numeral ≠ [] →
        (∀ d ∈ numeral, Text.isDecimalDigit d = true) →
        (∃ earlier', earlier'.map Candidate.ofMatch? = earlier.map Candidate.ofMatch? ∧
          layout.search (p.textWith numeral) = earlier' ++ p.matchWith numeral :: later) ∧
        blocks (p.textWith numeral) = earlier.filterMap Block.ofMatch? ++
          (if numeral.all Char.isDigit = true ∧ Nat.ofDigitChars 10 numeral 0 < Text.wordLimit then
            [⟨Nat.ofDigitChars 10 numeral 0, c.header.code, c.header.message, c.near, c.source,
              c.caretPrefix⟩]
          else []) ++ later.filterMap Block.ofMatch? := by
  obtain ⟨front, l, rest, c, tail, hsite, rfl, hreach⟩ := exists_headerSite hsearch
  have hof : Candidate.ofMatch? m = some c := by rw [hsite.match_eq, ofMatch?_toMatch]
  refine ⟨⟨hsite.place⟩, c, hof, blocks_of_search hsearch hof, fun p numeral hne hdigit => ?_⟩
  obtain rfl : p = hsite.place := p.eq_of_digit _ l.numeral_ne_nil l.numeral_digit
  obtain ⟨earlier', hsame, hfound⟩ := hsite.search_textWith hreach hne hdigit
  have hof' := congrArg Candidate.ofMatch? (hsite.place.matchWith_eq hsite.match_eq numeral)
  rw [ofMatch?_toMatch] at hof'
  refine ⟨⟨earlier', hsame, hfound⟩, ?_⟩
  rw [blocks_of_search hfound hof', toList_block? _ hne, filterMap_ofMatch? earlier', hsame,
    ← filterMap_ofMatch?]

end Numeral

/-- The numeral of the second of three blocks: one zero more, one more than fits, a digit of another
script. -/
theorem blocks_renumbered_second :
    let m : Match Part := ⟨"7 8 B\ny\n ^".toList, "\n3 4 C\nz\n^".toList, [(.numeral, ['7']),
      (.code, ['8']), (.message, ['B']), (.source, ['y']), (.caretPrefix, [' '])]⟩
    ∃ p : NumeralPlace "1 2 A\nx\n^\n7 8 B\ny\n ^\n3 4 C\nz\n^".toList m,
      blocks (p.textWith "018446744073709551615".toList) =
        [⟨1, ['2'], ['A'], none, ['x'], []⟩,
          ⟨18446744073709551615, ['8'], ['B'], none, ['y'], [' ']⟩,
          ⟨3, ['4'], ['C'], none, ['z'], []⟩] ∧
      (∀ numeral ∈ ["18446744073709551616".toList, ['٧']], blocks (p.textWith numeral) =
        [⟨1, ['2'], ['A'], none, ['x'], []⟩, ⟨3, ['4'], ['C'], none, ['z'], []⟩]) := by
  intro m
  let before : Match Part := ⟨"1 2 A\nx\n^".toList, "\n7 8 B\ny\n ^\n3 4 C\nz\n^".toList,
    [(.numeral, ['1']), (.code, ['2']), (.message, ['A']), (.source, ['x']), (.caretPrefix, [])]⟩
  let behind : Match Part := ⟨"3 4 C\nz\n^".toList, [],
    [(.numeral, ['3']), (.code, ['4']), (.message, ['C']), (.source, ['z']), (.caretPrefix, [])]⟩
  have hsearch : layout.search "1 2 A\nx\n^\n7 8 B\ny\n ^\n3 4 C\nz\n^".toList =
      [before] ++ m :: [behind] := by decide +kernel
  obtain ⟨⟨p⟩, c, hc, -, hblocks⟩ := blocks_renumbered hsearch
  obtain rfl : ⟨⟨['7'], ['8'], ['B']⟩, none, ['y'], [' '], "7 8 B\ny\n ^".toList⟩ = c :=
    Option.some.inj hc
  refine ⟨p, ?_, fun numeral hnumeral => ?_⟩
  · rw [(hblocks p _ (by decide) (by decide +kernel)).2]
    decide +kernel
  · rcases List.mem_pair.mp hnumeral with rfl | rfl
    · rw [(hblocks p _ (by decide) (by decide +kernel)).2]
      decide +kernel
    · rw [(hblocks p _ (by decide) (by decide +kernel)).2]
      decide +kernel

end PascalLint
