import PascalLint.Proofs.Block.Parts
import PascalLint.Proofs.Block.Printed
import PascalLint.Proofs.Text.Returns

/-! Lines that end in a carriage return.

A carriage return at the end of a line belongs to what ends the line: to the message, to the context
or to the source line. It makes no difference to what is read from the line, with one exception. A
line on which nothing stands where the message or the context should be is no header line or no line
of context, but with a carriage return at its end it is one, and the carriage return is all that it
says.

Where no candidate has such a message or context (`HasText`), putting carriage returns in does not
change what is found (`all_withReturns_iff`). The scans of the two texts then go line by line
together (`scan_returned`). -/
namespace PascalLint

/-! ### Header lines -/

/-- A header line without a message: nothing but blanks stands after the code. -/
def LacksMessage (line : Text) : Prop :=
  ∃ indent numeral gap code blanks, line = indent ++ numeral ++ gap ++ code ++ blanks ∧
    (∀ c ∈ indent, Header.isBlank c = true) ∧
    numeral ≠ [] ∧ (∀ c ∈ numeral, Text.isDecimalDigit c = true) ∧
    gap ≠ [] ∧ (∀ c ∈ gap, Header.isBlank c = true) ∧
    code ≠ [] ∧ (∀ c ∈ code, Text.isDecimalDigit c = true) ∧
    blanks ≠ [] ∧ ∀ c ∈ blanks, Header.isBlank c = true

namespace HeaderLine
variable {l : HeaderLine} {line message : Text}

/-- A line with a carriage return at its end that is a header line: the carriage return ends the
message. -/
theorem exists_message_of_return (h : l.text = line ++ ['\r']) :
    ∃ message, l.message = message ++ ['\r'] ∧
      line = l.indent ++ l.numeral ++ l.codeGap ++ l.code ++ l.textGap ++ message := by
  rcases List.eq_nil_or_concat' l.message with hnil | ⟨message, c, hmessage⟩
  · exact absurd hnil l.message_ne_nil
  · have htext : l.text =
        (l.indent ++ l.numeral ++ l.codeGap ++ l.code ++ l.textGap ++ message) ++ [c] := by
      simp only [text, body, hmessage, List.append_assoc]
    obtain ⟨hline, hc⟩ := List.append_inj' (h.symm.trans htext) rfl
    obtain rfl : '\r' = c := List.singleton_inj.mp hc
    exact ⟨message, hmessage, hline⟩

/-- Unless the carriage return is the whole message, the line is a header line without it. -/
theorem read?_of_message_append (hmessage : l.message = message ++ ['\r']) (hne : message ≠ []) :
    Header.read? (l.indent ++ l.numeral ++ l.codeGap ++ l.code ++ l.textGap ++ message) =
      some ⟨l.numeral, l.code, message⟩ := by
  have hstart : ∀ c rest, message = c :: rest → Header.isBlank c = true → rest = [] := by
    intro c rest hcons hblank
    have hrest := l.message_start c (rest ++ ['\r']) (by rw [hmessage, hcons]; rfl) hblank
    exact absurd hrest (List.concat_ne_nil '\r' rest)
  refine Header.read?_eq_some_iff.mpr
    ⟨{ l with message := message, message_ne_nil := hne, message_start := hstart }, ?_, rfl⟩
  simp only [text, body, List.append_assoc]

theorem lacksMessage (h : l.text = line ++ ['\r']) (hmessage : l.message = ['\r']) :
    LacksMessage line := by
  obtain ⟨message, hreturn, hline⟩ := exists_message_of_return h
  obtain rfl : message = [] := by simpa [hmessage] using hreturn
  rw [List.append_nil] at hline
  exact ⟨l.indent, l.numeral, l.codeGap, l.code, l.textGap, hline, l.indent_blank, l.numeral_ne_nil,
    l.numeral_digit, l.codeGap_ne_nil, l.codeGap_blank, l.code_ne_nil, l.code_digit,
    l.textGap_ne_nil, l.textGap_blank⟩

end HeaderLine

/-- The header with a carriage return at the end of its message. -/
def Header.withReturn (h : Header) : Header := { h with message := h.message ++ ['\r'] }

/-- A header that is read with a carriage return at the end of its line is read without it, unless
the carriage return is its message. -/
theorem Header.exists_of_read?_return {line : Text} {header : Header}
    (h : read? (line ++ ['\r']) = some header) (hmessage : header.message ≠ ['\r']) :
    ∃ plain, read? line = some plain ∧ header = plain.withReturn := by
  obtain ⟨l, hl, rfl⟩ := read?_eq_some_iff.mp h
  obtain ⟨message, hreturn, rfl⟩ := HeaderLine.exists_message_of_return hl
  have hne : message ≠ [] := by
    rintro rfl
    exact hmessage hreturn
  refine ⟨_, HeaderLine.read?_of_message_append hreturn hne, ?_⟩
  simp only [HeaderLine.header, withReturn, hreturn]

/-- A header line is one with a carriage return at its end as well. -/
theorem Header.read?_return_ne_none {line : Text} {header : Header}
    (h : read? line = some header) : read? (line ++ ['\r']) ≠ none := by
  have hheader : IsHeaderLine line := isHeaderLine_iff.mpr (by simp [h])
  exact isHeaderLine_iff.mp (hheader.beginsLikeHeader.isHeaderLine_append (by simp))

namespace Candidate

/-! ### The other lines -/

theorem near?_return_of_some {line near : Text} (h : near? line = some near) :
    near? (line ++ ['\r']) = some (near ++ ['\r']) := by
  obtain ⟨-, rfl⟩ := near?_eq_some_iff.mp h
  exact near?_eq_some_iff.mpr ⟨List.concat_ne_nil '\r' near, List.append_assoc ..⟩

theorem exists_of_near?_return {line near : Text} (h : near? (line ++ ['\r']) = some near)
    (hne : near ≠ ['\r']) : ∃ plain, near? line = some plain ∧ near = plain ++ ['\r'] := by
  obtain ⟨hnear, hline⟩ := near?_eq_some_iff.mp h
  rcases List.eq_nil_or_concat' near with rfl | ⟨plain, c, rfl⟩
  · exact absurd rfl hnear
  · rw [← List.append_assoc] at hline
    obtain ⟨rfl, hc⟩ := List.append_inj' hline rfl
    obtain rfl : '\r' = c := List.singleton_inj.mp hc
    have hplain : plain ≠ [] := by
      rintro rfl
      exact hne rfl
    exact ⟨plain, near?_eq_some_iff.mpr ⟨hplain, rfl⟩, rfl⟩

theorem caretPrefix?_return (line : Text) :
    caretPrefix? (line ++ ['\r']) = caretPrefix? line := by
  have hdrop : (line ++ ['\r']).dropWhile (· == ' ') = line.dropWhile (· == ' ') ++ ['\r'] :=
    Text.dropWhile_append_stop rfl line []
  have htake : (line ++ ['\r']).takeWhile (· == ' ') = line.takeWhile (· == ' ') :=
    Text.takeWhile_append_stop rfl line []
  rw [caretPrefix?, caretPrefix?, hdrop, htake]
  cases line.dropWhile (· == ' ') <;> rfl

/-! ### What a header line opens -/

/-- The candidate with a carriage return at the ends of its lines. -/
def withReturns (c : Candidate) : Candidate where
  header := c.header.withReturn
  near := c.near.map (· ++ ['\r'])
  source := c.source ++ ['\r']
  caretPrefix := c.caretPrefix
  text := Text.withReturns c.text

/-- Neither the message nor the context is only a carriage return. -/
def HasText (c : Candidate) : Prop := c.header.message ≠ ['\r'] ∧ c.near ≠ some ['\r']

instance (c : Candidate) : Decidable c.HasText := inferInstanceAs (Decidable (_ ∧ _))

@[simp] theorem lineCount_withReturns (c : Candidate) : c.withReturns.lineCount = c.lineCount := by
  simp [lineCount, withReturns]

/-- The lines with a carriage return at the end of each but the last. -/
def returned (ls : List Text) (last : Text) : List Text := ls.map (· ++ ['\r']) ++ [last]

/-- What a candidate takes up, with carriage returns: the lines before the caret line have one. -/
theorem withReturns_text (ls : List Text) (hls : ∀ line ∈ ls, '\n' ∉ line) {caretPrefix : Text}
    (hcaret : ∀ c ∈ caretPrefix, c = ' ') :
    Text.withReturns (Text.unlines ls ++ caretPrefix ++ ['^']) =
      Text.unlines (ls.map (· ++ ['\r'])) ++ caretPrefix ++ ['^'] := by
  have hprefix : '\n' ∉ caretPrefix := fun hmem => absurd (hcaret _ hmem) (by decide)
  rw [Text.withReturns_append, Text.withReturns_append, Text.withReturns_unlines hls,
    Text.withReturns_of_not_mem hprefix]
  rfl

section Opened
variable {header : Header} {first last : Text} {rest : List Text} {c : Candidate}

/-- The next line, with a carriage return at its end or, if it is the last, without one, is a caret
line in both cases or in none. -/
theorem exists_caretPrefix?_returned (ls : List Text) (last : Text) :
    ∃ caret more caret' more', ls ++ [last] = caret :: more ∧ returned ls last = caret' :: more' ∧
      caretPrefix? caret' = caretPrefix? caret := by
  cases ls with
  | nil => exact ⟨last, [], last, [], rfl, rfl, rfl⟩
  | cons caret ls => exact ⟨caret, _, caret ++ ['\r'], _, rfl, rfl, caretPrefix?_return caret⟩

theorem withoutNear?_returned (hlines : ∀ line ∈ first :: rest, '\n' ∉ line) (header : Header)
    (last : Text) :
    withoutNear? header.withReturn (first ++ ['\r']) (returned rest last) =
      (withoutNear? header first (rest ++ [last])).map withReturns := by
  cases rest with
  | nil => rfl
  | cons source rest =>
    obtain ⟨caret, more, caret', more', hplain, hreturned, hcaret⟩ :=
      exists_caretPrefix?_returned rest last
    have hplain : (source :: rest) ++ [last] = source :: caret :: more := congrArg _ hplain
    have hreturned : returned (source :: rest) last = (source ++ ['\r']) :: caret' :: more' :=
      congrArg _ hreturned
    rw [hplain, hreturned, withoutNear?, withoutNear?, hcaret]
    cases hprefix : caretPrefix? caret with
    | none => rfl
    | some caretPrefix =>
      simp only [List.forall_mem_cons] at hlines
      have htext := withReturns_text [first, source] (by simp [hlines])
        (caretPrefix?_eq_some_iff.mp hprefix).1
      simp only [Option.bind_eq_bind, Option.bind_some, Option.map_some, withReturns, htext]
      rfl

/-- The lines of a block with context, with carriage returns and without. -/
theorem exists_context_returned (context source : Text) (rest : List Text) (last : Text) :
    ∃ caret more caret' more',
      (context :: source :: rest) ++ [last] = context :: source :: caret :: more ∧
      returned (context :: source :: rest) last =
        (context ++ ['\r']) :: (source ++ ['\r']) :: caret' :: more' ∧
      caretPrefix? caret' = caretPrefix? caret := by
  obtain ⟨caret, more, caret', more', hplain, hreturned, hcaret⟩ :=
    exists_caretPrefix?_returned rest last
  exact ⟨caret, more, caret', more', congrArg _ (congrArg _ hplain),
    congrArg _ (congrArg _ hreturned), hcaret⟩

theorem withReturns_withContext {context source near caretPrefix : Text} (header : Header)
    (hlines : ∀ line ∈ [first, context, source], '\n' ∉ line)
    (hcaret : ∀ c ∈ caretPrefix, c = ' ') :
    withReturns ⟨header, some near, source, caretPrefix,
        Text.unlines [first, context, source] ++ caretPrefix ++ ['^']⟩ =
      ⟨header.withReturn, some (near ++ ['\r']), source ++ ['\r'], caretPrefix,
        Text.unlines [first ++ ['\r'], context ++ ['\r'], source ++ ['\r']] ++ caretPrefix ++
          ['^']⟩ := by
  have htext := withReturns_text _ hlines hcaret
  simp only [withReturns, htext]
  rfl

/-- A block with context is one as well with carriage returns in it. -/
theorem withNear?_returned_of_some (hlines : ∀ line ∈ first :: rest, '\n' ∉ line)
    (h : withNear? header first (rest ++ [last]) = some c) :
    withNear? header.withReturn (first ++ ['\r']) (returned rest last) = some c.withReturns := by
  match rest, h with
  | [], h | [_], h => cases h
  | context :: source :: rest, h =>
    obtain ⟨caret, more, caret', more', hplain, hreturned, hcaret⟩ :=
      exists_context_returned context source rest last
    rw [hplain] at h
    obtain ⟨_, _, _, _, near, caretPrefix, hrest, hnear, hprefix, rfl⟩ :=
      withNear?_eq_some_iff.mp h
    cases hrest
    rw [withReturns_withContext header (by simp_all) (caretPrefix?_eq_some_iff.mp hprefix).1]
    exact withNear?_eq_some_iff.mpr ⟨_, _, caret', more', _, caretPrefix, hreturned,
      near?_return_of_some hnear, hcaret.trans hprefix, rfl⟩

/-- A block with context and with carriage returns in it is one without them, unless a carriage
return is the context. -/
theorem exists_of_withNear?_returned (hlines : ∀ line ∈ first :: rest, '\n' ∉ line)
    (h : withNear? header.withReturn (first ++ ['\r']) (returned rest last) = some c)
    (hnear : c.near ≠ some ['\r']) :
    ∃ plain, withNear? header first (rest ++ [last]) = some plain ∧ c = plain.withReturns := by
  match rest, h with
  | [], h | [_], h => cases h
  | context :: source :: rest, h =>
    obtain ⟨caret, more, caret', more', hplain, hreturned, hcaret⟩ :=
      exists_context_returned context source rest last
    rw [hreturned] at h
    obtain ⟨_, _, _, _, near, caretPrefix, hrest, hcontext, hprefix, rfl⟩ :=
      withNear?_eq_some_iff.mp h
    cases hrest
    obtain ⟨plain, hread, rfl⟩ := exists_of_near?_return hcontext fun h => hnear (congrArg some h)
    rw [hcaret] at hprefix
    rw [hplain]
    refine ⟨_, withNear?_eq_some_iff.mpr ⟨_, _, caret, more, plain, caretPrefix, rfl, hread, hprefix,
      rfl⟩, ?_⟩
    rw [withReturns_withContext header (by simp_all) (caretPrefix?_eq_some_iff.mp hprefix).1]

/-- Where the scan opens a candidate with text, it opens the same one without carriage returns. -/
theorem exists_of_opened?_returned (hlines : ∀ line ∈ first :: rest, '\n' ∉ line)
    (h : opened? (first ++ ['\r']) (returned rest last) = some c) (htext : c.HasText) :
    ∃ plain, opened? first (rest ++ [last]) = some plain ∧ c = plain.withReturns := by
  obtain ⟨header, hread, hopen⟩ := opened?_eq_some_iff.mp h
  have hheader : c.header = header := by
    rcases hopen with hwith | ⟨-, hwithout⟩
    · obtain ⟨_, _, _, _, _, _, -, -, -, rfl⟩ := withNear?_eq_some_iff.mp hwith
      rfl
    · obtain ⟨_, _, _, _, -, -, rfl⟩ := withoutNear?_eq_some_iff.mp hwithout
      rfl
  obtain ⟨plain, hplain, rfl⟩ := Header.exists_of_read?_return hread (hheader ▸ htext.1)
  rcases hopen with hwith | ⟨hnone, hwithout⟩
  · obtain ⟨found, hfound, rfl⟩ := exists_of_withNear?_returned hlines hwith htext.2
    exact ⟨found, opened?_eq_some_iff.mpr ⟨plain, hplain, .inl hfound⟩, rfl⟩
  · rw [withoutNear?_returned hlines] at hwithout
    obtain ⟨found, hfound, rfl⟩ := Option.map_eq_some_iff.mp hwithout
    have hnear : withNear? plain first (rest ++ [last]) = none := by
      by_contra hne
      obtain ⟨other, hother⟩ := Option.ne_none_iff_exists'.mp hne
      simp [withNear?_returned_of_some hlines hother] at hnone
    exact ⟨found, opened?_eq_some_iff.mpr ⟨plain, hplain, .inr ⟨hnear, hfound⟩⟩, rfl⟩

/-- Where the scan opens nothing, it opens nothing without carriage returns. -/
theorem opened?_eq_none_of_returned (hlines : ∀ line ∈ first :: rest, '\n' ∉ line)
    (h : opened? (first ++ ['\r']) (returned rest last) = none) :
    opened? first (rest ++ [last]) = none := by
  refine opened?_eq_none_iff.mpr fun header hread => ?_
  obtain ⟨other, hother⟩ := Option.ne_none_iff_exists'.mp (Header.read?_return_ne_none hread)
  obtain ⟨hwith, hwithout⟩ := opened?_eq_none_iff.mp h other hother
  constructor
  · by_contra hne
    obtain ⟨c, hc⟩ := Option.ne_none_iff_exists'.mp hne
    have hreturned := withNear?_returned_of_some hlines hc
    simp [withNear?_eq_none_iff.mpr (withNear?_eq_none_iff.mp hwith)] at hreturned
  · have hreturned := withoutNear?_returned hlines header last
    rw [withoutNear?_eq_none_iff.mpr (withoutNear?_eq_none_iff.mp hwithout)] at hreturned
    exact Option.map_eq_none_iff.mp hreturned.symm

end Opened

/-! ### The scan -/

theorem scan_singleton (usedUp : Nat) (last : Text) : scan usedUp [last] = [] := by
  cases usedUp with
  | succ usedUp => rfl
  | zero =>
    have hnone : opened? last [] = none := opened?_eq_none_iff.mpr fun _ _ => ⟨rfl, rfl⟩
    rw [scan, hnone]
    rfl

/-- The two scans go together, as long as all that is found has text. -/
theorem scan_returned {ls : List Text} (last : Text) (hls : ∀ line ∈ ls, '\n' ∉ line) (usedUp : Nat)
    (htext : ∀ c ∈ scan usedUp (returned ls last), c.HasText) :
    scan usedUp (returned ls last) = (scan usedUp (ls ++ [last])).map withReturns := by
  induction ls generalizing usedUp with
  | nil => simp only [returned, List.map_nil, List.nil_append, scan_singleton]
  | cons first rest ih =>
    have hrest : ∀ line ∈ rest, '\n' ∉ line := (List.forall_mem_cons.mp hls).2
    have hlines : returned (first :: rest) last = (first ++ ['\r']) :: returned rest last := rfl
    rw [hlines] at htext ⊢
    rw [List.cons_append]
    cases usedUp with
    | succ usedUp => exact ih hrest usedUp htext
    | zero =>
      rw [scan] at htext ⊢
      rw [scan]
      cases hopen : opened? (first ++ ['\r']) (returned rest last) with
      | none =>
        rw [hopen] at htext
        rw [opened?_eq_none_of_returned hls hopen]
        exact ih hrest 0 htext
      | some c =>
        rw [hopen, List.forall_mem_cons] at htext
        obtain ⟨plain, hplain, rfl⟩ := exists_of_opened?_returned hls hopen htext.1
        have htail := ih hrest plain.lineCount (by rw [← lineCount_withReturns]; exact htext.2)
        rw [hplain, List.map_cons, ← htail]
        simp only [lineCount_withReturns]

theorem hasText_withReturns {lines : List Text} {c : Candidate} (h : c.IsFrom lines) :
    c.withReturns.HasText := by
  obtain ⟨l, -, hl⟩ := h.header
  have hmessage : c.header.message ≠ [] := by
    rw [← hl]
    exact l.message_ne_nil
  constructor
  · simpa [withReturns, Header.withReturn] using hmessage
  · intro hnear
    obtain ⟨near, hc, hreturn⟩ := Option.map_eq_some_iff.mp hnear
    exact (h.context near hc).1 (by simpa using hreturn)

/-- **Carriage returns change nothing in what is found exactly if all that is found with them has
text.** -/
theorem all_withReturns_iff (text : Text) :
    all (Text.withReturns text) = (all text).map withReturns ↔
      ∀ c ∈ all (Text.withReturns text), c.HasText := by
  constructor
  · intro h c hc
    rw [h] at hc
    obtain ⟨plain, hplain, rfl⟩ := List.mem_map.mp hc
    exact hasText_withReturns (mem_all_isFrom hplain)
  · intro h
    obtain ⟨ls, last, hlines, -⟩ := Text.exists_eq_unlines_append text
    have hls : ∀ line ∈ ls, '\n' ∉ line := (Text.newline_not_mem_of_lines_eq hlines).1
    have hreturned : Text.lines (Text.withReturns text) = returned ls last :=
      Text.lines_withReturns hlines
    rw [all, hreturned] at h
    rw [all, all, hreturned, hlines, scan_returned last hls 0 h]

/-- What has no text comes from a header line without a message or from a line of the blanks in
front of context. -/
theorem exists_line_of_not_hasText {text : Text} (hreturn : '\r' ∉ text) {c : Candidate}
    (hc : c ∈ all (Text.withReturns text)) (h : ¬c.HasText) :
    ∃ line ∈ Text.lines text, LacksMessage line ∨ line = List.replicate nearIndent ' ' := by
  obtain ⟨ls, last, hlines, -⟩ := Text.exists_eq_unlines_append text
  have hfrom := mem_all_isFrom hc
  rw [Text.lines_withReturns hlines] at hfrom
  have hline (before : Text) (hmem : before ++ ['\r'] ∈ ls.map (· ++ ['\r']) ++ [last]) :
      before ∈ Text.lines text := by
    rw [hlines]
    rcases List.mem_append.mp hmem with hmem | hmem
    · obtain ⟨line, hline, heq⟩ := List.mem_map.mp hmem
      rw [← List.append_cancel_right heq]
      exact List.mem_append_left _ hline
    · -- the last line has no carriage return at its end
      have hlast : last ∈ Text.lines text := by simp [hlines]
      have hend : '\r' ∈ last := by simp [← List.mem_singleton.mp hmem]
      exact absurd ((Text.infix_of_mem_lines hlast).subset hend) hreturn
  rw [HasText, not_and_or, not_not, not_not] at h
  rcases h with hmessage | hnear
  · obtain ⟨l, hl, hheader⟩ := hfrom.header
    have hmessage : l.message = ['\r'] := by
      rw [← hmessage, ← hheader]
      rfl
    have htext : l.text =
        (l.indent ++ l.numeral ++ l.codeGap ++ l.code ++ l.textGap) ++ ['\r'] := by
      simp only [HeaderLine.text, HeaderLine.body, hmessage, List.append_assoc]
    exact ⟨_, hline _ (htext ▸ hl), .inl (HeaderLine.lacksMessage htext hmessage)⟩
  · exact ⟨_, hline _ (hfrom.context _ hnear).2, .inr rfl⟩

theorem block?_withReturns (c : Candidate) :
    c.withReturns.block? = c.block?.map (Block.endedBy ['\r']) := by
  cases hcount : Text.count? c.header.numeral <;>
    simp [block?, withReturns, Header.withReturn, Block.endedBy, hcount]

end Candidate

/-- The blocks of a text with carriage returns are its blocks with carriage returns. -/
theorem blocks_withReturns {text : Text}
    (h : ∀ c ∈ Candidate.all (Text.withReturns text), c.HasText) :
    blocks (Text.withReturns text) = (blocks text).map (Block.endedBy ['\r']) := by
  rw [blocks, blocks, (Candidate.all_withReturns_iff text).mpr h, List.filterMap_map,
    List.map_filterMap]
  exact List.filterMap_congr fun c _ => c.block?_withReturns

end PascalLint
