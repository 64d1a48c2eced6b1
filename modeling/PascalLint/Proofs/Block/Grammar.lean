import Mathlib.Data.List.Basic
import PascalLint.Block.Scan
import PascalLint.Proofs.Text.Lines

/-! The lines of a block as a grammar.

A header line is blanks, digits, blanks, digits, blanks and a message, where the message has the
last blank if nothing but blanks follows the code (`HeaderLine`). A line of context is the blanks of
its indentation and something after them, and a caret line is blanks and a caret. What the scan
reads from a line is what the grammar puts there (`read?_eq_some_iff`, `near?_eq_some_iff`,
`caretPrefix?_eq_some_iff`). -/
namespace PascalLint

/-- A header line part by part. -/
structure HeaderLine where
  indent : Text
  numeral : Text
  codeGap : Text
  code : Text
  textGap : Text
  message : Text
  indent_blank : ∀ c ∈ indent, Header.isBlank c = true
  numeral_ne_nil : numeral ≠ []
  numeral_digit : ∀ c ∈ numeral, Text.isDecimalDigit c = true
  codeGap_ne_nil : codeGap ≠ []
  codeGap_blank : ∀ c ∈ codeGap, Header.isBlank c = true
  code_ne_nil : code ≠ []
  code_digit : ∀ c ∈ code, Text.isDecimalDigit c = true
  textGap_ne_nil : textGap ≠ []
  textGap_blank : ∀ c ∈ textGap, Header.isBlank c = true
  message_ne_nil : message ≠ []
  /-- A message that begins with a blank is that blank, the last one of its line. -/
  message_start : ∀ c rest, message = c :: rest → Header.isBlank c = true → rest = []

namespace HeaderLine

/-- What follows the indentation. -/
def body (l : HeaderLine) : Text :=
  l.numeral ++ (l.codeGap ++ (l.code ++ (l.textGap ++ l.message)))

def text (l : HeaderLine) : Text := l.indent ++ l.body

def header (l : HeaderLine) : Header := ⟨l.numeral, l.code, l.message⟩

end HeaderLine

namespace Header

/-! ### Blanks and digits -/

theorem isBlank_iff {c : Char} : isBlank c = true ↔ c = ' ' ∨ c = '\t' := by
  simp [isBlank]

theorem isBlank_newline : isBlank '\n' = false := rfl

theorem isDecimalDigit_of_isBlank {c : Char} (h : isBlank c = true) :
    Text.isDecimalDigit c = false := by
  rcases isBlank_iff.mp h with rfl | rfl
  · exact Text.isDecimalDigit_space
  · exact Text.isDecimalDigit_tab

theorem isBlank_of_isDecimalDigit {c : Char} (h : Text.isDecimalDigit c = true) :
    isBlank c = false := by
  cases hb : isBlank c with
  | false => rfl
  | true => simp [isDecimalDigit_of_isBlank hb] at h

/-! ### The message -/

theorem message?_of_not_blank {rest : Text} (h : ∀ c ∈ rest.head?, isBlank c = false) :
    message? rest = none := by
  cases rest with
  | nil => rfl
  | cons c rest =>
    cases rest with
    | nil => rfl
    | cons d rest => simp [message?, h c rfl]

/-- After a blank there is a message as soon as there is one more character. -/
theorem exists_message? {blank : Char} {rest : Text} (h : isBlank blank = true) (hne : rest ≠ []) :
    ∃ message, message? (blank :: rest) = some message := by
  obtain ⟨c, rest, rfl⟩ := List.exists_cons_of_ne_nil hne
  rw [message?, h]
  cases hdrop : (c :: rest).dropWhile isBlank with
  | nil => simp [List.getLast?_cons]
  | cons d more => exact ⟨_, rfl⟩

theorem message?_append {gap message : Text} (hgap : gap ≠ []) (hblank : ∀ c ∈ gap, isBlank c = true)
    (hne : message ≠ []) (hstart : ∀ c rest, message = c :: rest → isBlank c = true → rest = []) :
    message? (gap ++ message) = some message := by
  obtain ⟨blank, gap, rfl⟩ := List.exists_cons_of_ne_nil hgap
  obtain ⟨first, rest, rfl⟩ := List.exists_cons_of_ne_nil hne
  rw [List.forall_mem_cons] at hblank
  obtain ⟨c, more, hmore⟩ : ∃ c more, gap ++ first :: rest = c :: more :=
    List.exists_cons_of_ne_nil (by simp)
  have hdrop : (c :: more).dropWhile isBlank = (first :: rest).dropWhile isBlank := by
    rw [← hmore, List.dropWhile_append_of_pos hblank.2]
  rw [List.cons_append, hmore, message?, hblank.1, hdrop]
  cases hfirst : isBlank first with
  | true =>
    obtain rfl := hstart first rest rfl hfirst
    simp [hfirst, ← hmore]
  | false => simp [hfirst]

theorem exists_gap_of_message? {rest message : Text} (h : message? rest = some message) :
    ∃ gap, rest = gap ++ message ∧ gap ≠ [] ∧ (∀ c ∈ gap, isBlank c = true) ∧ message ≠ [] ∧
      ∀ c more, message = c :: more → isBlank c = true → more = [] := by
  match rest with
  | [] | [_] => simp [message?] at h
  | blank :: c :: rest =>
    rw [message?] at h
    split at h
    · cases h
    · rename_i hblank
      have hblank : isBlank blank = true := by simpa using hblank
      split at h
      · -- nothing but blanks: the message is the last of them
        rename_i hall
        have hall := List.dropWhile_eq_nil_iff.mp hall
        obtain ⟨last, hlast, rfl⟩ := Option.map_eq_some_iff.mp h
        have hsplit := List.dropLast_append_getLast? last hlast
        refine ⟨blank :: (c :: rest).dropLast, by rw [List.cons_append, hsplit], by simp, ?_,
          by simp, ?_⟩
        · rw [List.forall_mem_cons]
          exact ⟨hblank, fun d hd => hall d (List.dropLast_subset _ hd)⟩
        · intro d more hlast' _
          exact (List.cons.inj hlast').2.symm
      · rename_i hne
        obtain rfl := Option.some.inj h
        refine ⟨blank :: (c :: rest).takeWhile isBlank, ?_, by simp, ?_, hne, ?_⟩
        · rw [List.cons_append, List.takeWhile_append_dropWhile]
        · rw [List.forall_mem_cons]
          exact ⟨hblank, fun d hd => List.mem_takeWhile_imp hd⟩
        · intro d more hstart hd
          have hhead : d ∈ ((c :: rest).dropWhile isBlank).head? := by
            rw [hstart]
            rfl
          have hfalse : isBlank d = false := Text.eq_false_of_mem_head?_dropWhile hhead
          simp [hfalse] at hd

/-! ### The header -/

/-- A header line is read as what is written on it. -/
theorem read?_text (l : HeaderLine) : read? l.text = some l.header := by
  have hcode : ∀ c ∈ (l.code ++ (l.textGap ++ l.message)).head?, isBlank c = false :=
    Text.forall_head?_append l.code_ne_nil fun c hc => isBlank_of_isDecimalDigit (l.code_digit c hc)
  have hnumeral : ∀ c ∈ l.body.head?, isBlank c = false :=
    Text.forall_head?_append l.numeral_ne_nil fun c hc =>
      isBlank_of_isDecimalDigit (l.numeral_digit c hc)
  have hcodeGap : ∀ c ∈ (l.codeGap ++ (l.code ++ (l.textGap ++ l.message))).head?,
      Text.isDecimalDigit c = false :=
    Text.forall_head?_append l.codeGap_ne_nil fun c hc => isDecimalDigit_of_isBlank (l.codeGap_blank c hc)
  have htextGap : ∀ c ∈ (l.textGap ++ l.message).head?, Text.isDecimalDigit c = false :=
    Text.forall_head?_append l.textGap_ne_nil fun c hc => isDecimalDigit_of_isBlank (l.textGap_blank c hc)
  have hmessage := message?_append l.textGap_ne_nil l.textGap_blank l.message_ne_nil l.message_start
  simp only [read?, HeaderLine.text, Text.dropWhile_append_of_head l.indent_blank hnumeral]
  simp only [HeaderLine.body, Text.takeWhile_append_of_head l.numeral_digit hcodeGap,
    Text.dropWhile_append_of_head l.numeral_digit hcodeGap,
    Text.takeWhile_append_of_head l.codeGap_blank hcode,
    Text.dropWhile_append_of_head l.codeGap_blank hcode,
    Text.takeWhile_append_of_head l.code_digit htextGap,
    Text.dropWhile_append_of_head l.code_digit htextGap, hmessage]
  simp [l.numeral_ne_nil, l.codeGap_ne_nil, l.code_ne_nil, HeaderLine.header]

/-- **The scan reads headers as the grammar writes them.** -/
theorem read?_eq_some_iff {line : Text} {h : Header} :
    read? line = some h ↔ ∃ l : HeaderLine, l.text = line ∧ l.header = h := by
  constructor
  · intro hread
    simp only [read?] at hread
    split at hread
    · cases hread
    rename_i hnonempty
    simp only [Bool.or_eq_true, List.isEmpty_iff, not_or] at hnonempty
    obtain ⟨⟨hnumeral, hcodeGap⟩, hcode⟩ := hnonempty
    obtain ⟨message, hmessage, rfl⟩ := Option.map_eq_some_iff.mp hread
    obtain ⟨gap, hrest, hgap, hblank, hne, hstart⟩ := exists_gap_of_message? hmessage
    refine ⟨⟨_, _, _, _, gap, message, fun c hc => List.mem_takeWhile_imp (l := line) hc,
      hnumeral, fun c hc => List.mem_takeWhile_imp hc, hcodeGap,
      fun c hc => List.mem_takeWhile_imp hc, hcode, fun c hc => List.mem_takeWhile_imp hc, hgap,
      hblank, hne, hstart⟩, ?_, rfl⟩
    simp only [HeaderLine.text, HeaderLine.body, ← hrest, List.takeWhile_append_dropWhile]
  · intro hread
    obtain ⟨l, rfl, rfl⟩ := hread
    exact read?_text l

end Header

/-- Only the message could hold a line feed. -/
theorem HeaderLine.newline_not_mem_text (l : HeaderLine) (h : '\n' ∉ l.message) :
    '\n' ∉ l.text := by
  have hblank {gap : Text} (hgap : ∀ c ∈ gap, Header.isBlank c = true) : '\n' ∉ gap :=
    fun hmem => by simpa [Header.isBlank_newline] using hgap _ hmem
  have hdigit {run : Text} (hrun : ∀ c ∈ run, Text.isDecimalDigit c = true) : '\n' ∉ run :=
    fun hmem => by simpa [Text.isDecimalDigit_newline] using hrun _ hmem
  simp only [text, body, List.mem_append, not_or]
  exact ⟨hblank l.indent_blank, hdigit l.numeral_digit, hblank l.codeGap_blank,
    hdigit l.code_digit, hblank l.textGap_blank, h⟩

/-- A line that can open a block. -/
def IsHeaderLine (line : Text) : Prop := ∃ l : HeaderLine, l.text = line

theorem Header.isHeaderLine_iff {line : Text} : IsHeaderLine line ↔ read? line ≠ none := by
  simp only [Option.ne_none_iff_exists', read?_eq_some_iff, IsHeaderLine]
  exact ⟨fun ⟨l, hl⟩ => ⟨l.header, l, hl, rfl⟩, fun ⟨_, l, hl, _⟩ => ⟨l, hl⟩⟩

instance (line : Text) : Decidable (IsHeaderLine line) :=
  decidable_of_iff _ Header.isHeaderLine_iff.symm

/-! ### Lines of context and caret lines -/

/-- A line of context: its indentation and something after that. -/
def IsContextLine (line : Text) : Prop :=
  ∃ near, near ≠ [] ∧ line = List.replicate Candidate.nearIndent ' ' ++ near

/-- A line that begins with blanks and a caret. -/
def IsCaretLine (line : Text) : Prop :=
  ∃ caretPrefix, (∀ c ∈ caretPrefix, c = ' ') ∧ ∃ after, line = caretPrefix ++ '^' :: after

namespace Candidate

theorem near?_eq_some_iff {line near : Text} :
    near? line = some near ↔ near ≠ [] ∧ line = List.replicate nearIndent ' ' ++ near := by
  constructor
  · intro h
    rw [near?] at h
    split at h
    · rename_i hindent
      have hline : line = List.replicate nearIndent ' ' ++ line.drop nearIndent := by
        rw [← hindent, List.take_append_drop]
      split at h
      · cases h
      · rename_i hne
        obtain rfl := Option.some.inj h
        exact ⟨hne, hline⟩
    · cases h
  · intro h
    obtain ⟨hne, rfl⟩ := h
    have htake : (List.replicate nearIndent ' ' ++ near).take nearIndent =
        List.replicate nearIndent ' ' := List.take_left' List.length_replicate
    have hdrop : (List.replicate nearIndent ' ' ++ near).drop nearIndent = near :=
      List.drop_left' List.length_replicate
    obtain ⟨c, rest, rfl⟩ := List.exists_cons_of_ne_nil hne
    rw [near?, if_pos htake, hdrop]

/-- Blanks, then a caret. -/
theorem caretPrefix?_eq_some_iff {line caretPrefix : Text} :
    caretPrefix? line = some caretPrefix ↔
      (∀ c ∈ caretPrefix, c = ' ') ∧ ∃ after, line = caretPrefix ++ '^' :: after := by
  constructor
  · intro h
    rw [caretPrefix?] at h
    split at h
    · rename_i hcaret
      obtain rfl := Option.some.inj h
      refine ⟨fun c hc => by simpa using List.mem_takeWhile_imp hc, ?_⟩
      obtain ⟨after, hafter⟩ := List.head?_eq_some_iff.mp hcaret
      exact ⟨after, by rw [← hafter, List.takeWhile_append_dropWhile]⟩
    · cases h
  · intro h
    obtain ⟨hblank, after, rfl⟩ := h
    have hblank : ∀ c ∈ caretPrefix, (c == ' ') = true := fun c hc => by simp [hblank c hc]
    have hcaret : ∀ c ∈ ('^' :: after).head?, (c == ' ') = false := fun c hc => by
      obtain rfl : '^' = c := by simpa using hc
      rfl
    rw [caretPrefix?, Text.dropWhile_append_of_head hblank hcaret,
      Text.takeWhile_append_of_head hblank hcaret]
    rfl

theorem isContextLine_iff {line : Text} : IsContextLine line ↔ near? line ≠ none := by
  simp only [Option.ne_none_iff_exists', near?_eq_some_iff, IsContextLine]

theorem isCaretLine_iff {line : Text} : IsCaretLine line ↔ caretPrefix? line ≠ none := by
  simp only [Option.ne_none_iff_exists', caretPrefix?_eq_some_iff, IsCaretLine]

instance (line : Text) : Decidable (IsContextLine line) :=
  decidable_of_iff _ isContextLine_iff.symm

instance (line : Text) : Decidable (IsCaretLine line) :=
  decidable_of_iff _ isCaretLine_iff.symm

/-! ### What a header line opens -/

variable {header : Header} {first : Text} {rest : List Text} {c : Candidate}

theorem withNear?_eq_some_iff : withNear? header first rest = some c ↔
    ∃ context source caret more near caretPrefix, rest = context :: source :: caret :: more ∧
      near? context = some near ∧ caretPrefix? caret = some caretPrefix ∧
      c = ⟨header, some near, source, caretPrefix,
        Text.unlines [first, context, source] ++ caretPrefix ++ ['^']⟩ := by
  constructor
  · intro h
    match rest with
    | [] | [_] | [_, _] => cases h
    | context :: source :: caret :: more =>
      obtain ⟨near, hnear, h⟩ := Option.bind_eq_some_iff.mp h
      obtain ⟨caretPrefix, hcaret, h⟩ := Option.bind_eq_some_iff.mp h
      exact ⟨context, source, caret, more, near, caretPrefix, rfl, hnear, hcaret,
        (Option.some.inj h).symm⟩
  · intro h
    obtain ⟨context, source, caret, more, near, caretPrefix, rfl, hnear, hcaret, rfl⟩ := h
    simp [withNear?, hnear, hcaret]

theorem withoutNear?_eq_some_iff : withoutNear? header first rest = some c ↔
    ∃ source caret more caretPrefix, rest = source :: caret :: more ∧
      caretPrefix? caret = some caretPrefix ∧
      c = ⟨header, none, source, caretPrefix,
        Text.unlines [first, source] ++ caretPrefix ++ ['^']⟩ := by
  constructor
  · intro h
    match rest with
    | [] | [_] => cases h
    | source :: caret :: more =>
      obtain ⟨caretPrefix, hcaret, h⟩ := Option.bind_eq_some_iff.mp h
      exact ⟨source, caret, more, caretPrefix, rfl, hcaret, (Option.some.inj h).symm⟩
  · intro h
    obtain ⟨source, caret, more, caretPrefix, rfl, hcaret, rfl⟩ := h
    simp [withoutNear?, hcaret]

theorem withNear?_eq_none_iff : withNear? header first rest = none ↔
    ((∃ line ∈ rest[0]?, IsContextLine line) → ∀ line ∈ rest[2]?, ¬IsCaretLine line) := by
  match rest with
  | [] | [_] | [_, _] => simp [withNear?]
  | context :: source :: caret :: more =>
    cases hnear : near? context <;> cases hcaret : caretPrefix? caret <;>
      simp [withNear?, isContextLine_iff, isCaretLine_iff, hnear, hcaret]

theorem withoutNear?_eq_none_iff : withoutNear? header first rest = none ↔
    ∀ line ∈ rest[1]?, ¬IsCaretLine line := by
  match rest with
  | [] | [_] => simp [withoutNear?]
  | source :: caret :: more =>
    cases hcaret : caretPrefix? caret <;> simp [withoutNear?, isCaretLine_iff, hcaret]

theorem opened?_eq_none_iff : opened? first rest = none ↔
    ∀ header, Header.read? first = some header →
      withNear? header first rest = none ∧ withoutNear? header first rest = none := by
  simp only [opened?, Option.bind_eq_bind, Option.bind_eq_none_iff, Option.orElse_eq_orElse,
    Option.orElse_eq_or, Option.or_eq_none_iff]

/-- The two kinds of blocks, the one with context first. -/
theorem opened?_eq_some_iff : opened? first rest = some c ↔
    ∃ header, Header.read? first = some header ∧ (withNear? header first rest = some c ∨
      withNear? header first rest = none ∧ withoutNear? header first rest = some c) := by
  simp only [opened?, Option.bind_eq_bind, Option.bind_eq_some_iff, Option.orElse_eq_orElse,
    Option.orElse_eq_or, Option.or_eq_some_iff]

end Candidate

end PascalLint
