import PascalLint.Proofs.Block.Search
import PascalLint.Proofs.Extraction.Muted

/-! An extractor is a cursor that can be put back.

Whatever is asked of it and in whatever order, an extractor answers like a place in the list of all
diagnostics of its text (`answersFrom`). What carries this through a run is that what remains of the
extractor is what the list holds from the place on (`StandsAt`); each request keeps it
(`StandsAt.reply`).

Nothing has to be found in advance for this. A scanner remembers the place in the text at which the
search for blocks stands, looks for the next match when it is asked, passes over matches that are
skipped and blocks that are muted, and takes what is left diagnostic by diagnostic. It gives the same
answers (`replies_eq_answersFrom`). -/
namespace PascalLint

open Pattern (Place)

/-! ### A place in a list -/

namespace Extractor

/-- What is answered at a place of a list, and the place after that. -/
def answerAt (all : List Diagnostic) (place : Nat) : Request → Answer × Nat
  | .next => (.next all[place]?, min (place + 1) all.length)
  | .restart => (.restarted, 0)
  | .rest => (.rest (all.drop place), all.length)
  | .count => (.count all.length, place)

def answersFrom (all : List Diagnostic) : (place : Nat) → List Request → List Answer
  | _, [] => []
  | place, request :: more =>
    (answerAt all place request).1 :: answersFrom all (answerAt all place request).2 more

/-- Taking what comes first of what is left goes on by one place, unless nothing is left. -/
theorem eq_getElem?_of_drop_eq {all rest : List Diagnostic} {place : Nat} {d? : Option Diagnostic}
    (h : all.drop place = d?.toList ++ rest) (hend : d? = none → rest = []) :
    d? = all[place]? ∧ rest = all.drop (min (place + 1) all.length) := by
  cases d? with
  | none =>
    have hrest : rest = [] := hend rfl
    rw [hrest, Option.toList_none, List.append_nil, List.drop_eq_nil_iff] at h
    rw [hrest, List.getElem?_eq_none h, Nat.min_eq_right (by omega), List.drop_length]
    exact ⟨rfl, rfl⟩
  | some d =>
    have hhead : all[place]? = some d := by
      rw [← List.head?_drop, h]
      rfl
    have htail : all.drop (place + 1) = rest := by
      rw [← List.tail_drop, h]
      rfl
    obtain ⟨hlt, -⟩ := List.getElem?_eq_some_iff.mp hhead
    rw [Nat.min_eq_left hlt, htail]
    exact ⟨hhead.symm, rfl⟩

/-! ### The extractor -/

/-- What remains of an extractor for the text is what the list of all diagnostics holds from the place
on. -/
structure StandsAt (text : Text) (ignore : IgnoreSet) (e : Extractor) (place : Nat) : Prop where
  text_eq : e.text = text
  ignore_eq : e.ignore = ignore
  cursor_ignore_eq : e.cursor.ignore = ignore
  remaining_eq : e.cursor.remaining = (extract text ignore).drop place

section Extractor
variable {text : Text} {ignore : IgnoreSet} {e : Extractor} {place : Nat}

theorem standsAt_start (text : Text) (ignore : IgnoreSet) :
    (start text ignore).StandsAt text ignore 0 := ⟨rfl, rfl, rfl, rfl⟩

/-- **One request**: the answer is the list's, and so is the place after it. -/
theorem StandsAt.reply (h : e.StandsAt text ignore place) (request : Request) :
    (e.reply request).answer = (answerAt (extract text ignore) place request).1 ∧
      (e.reply request).extractor.StandsAt text ignore
        (answerAt (extract text ignore) place request).2 := by
  cases request with
  | next =>
    have hstep := e.cursor.remaining_eq
    rw [h.remaining_eq] at hstep
    have hend (hnone : e.cursor.next.diagnostic? = none) : e.cursor.next.cursor.remaining = [] := by
      rw [Cursor.remaining, show e.cursor.next.cursor.ahead = [] from
        Cursor.ahead_advance_eq_nil hnone]
      rfl
    obtain ⟨hanswer, hrest⟩ := eq_getElem?_of_drop_eq hstep hend
    exact ⟨congrArg Answer.next hanswer, h.text_eq, h.ignore_eq,
      (Cursor.remaining_advance e.cursor.ignore e.cursor.ahead).1.trans h.cursor_ignore_eq, hrest⟩
  | restart =>
    obtain ⟨rfl, rfl, -, -⟩ := h
    exact ⟨rfl, standsAt_start _ _⟩
  | rest =>
    exact ⟨congrArg Answer.rest h.remaining_eq, h.text_eq, h.ignore_eq, h.ignore_eq,
      List.drop_length.symm⟩
  | count =>
    refine ⟨?_, h⟩
    obtain ⟨rfl, rfl, -, -⟩ := h
    rfl

theorem StandsAt.replies (h : e.StandsAt text ignore place) (requests : List Request) :
    (e.replies requests).1 = answersFrom (extract text ignore) place requests := by
  induction requests generalizing e place with
  | nil => rfl
  | cons request more ih =>
    obtain ⟨hanswer, hstands⟩ := h.reply request
    exact congrArg₂ List.cons hanswer (ih hstands)

end Extractor

end Extractor

/-! ### A place in the text -/

/-- A scanner for the diagnostics of a text: all that it remembers is where the search for blocks
stands. -/
structure Scanner where
  text : Text
  ignore : IgnoreSet
  place : Place

namespace Scanner

/-- The next block, and the place behind it. Matches whose line numeral is no count are passed
over. -/
def nextBlock (place : Place) : Option Block × Place :=
  match _h : Block.layout.find? place with
  | none => (none, place)
  | some (m, after) =>
    match Block.ofMatch? m with
    | some block => (some block, after)
    | none => nextBlock after
termination_by place.ahead.length
decreasing_by exact Pattern.length_ahead_lt_of_find? ‹_›

/-- The blocks from a place on. -/
def blocksAt (place : Place) : List Block :=
  (Block.layout.searchAt place).filterMap Block.ofMatch?

/-- The blocks from a place on are the next one and those behind it. -/
theorem blocksAt_eq (place : Place) :
    match nextBlock place with
    | (none, after) => blocksAt place = [] ∧ blocksAt after = []
    | (some block, after) => blocksAt place = block :: blocksAt after ∧
        after.ahead.length < place.ahead.length := by
  induction place using nextBlock.induct with
  | case1 place hfind =>
    have hnone : blocksAt place = [] := by
      rw [blocksAt, Pattern.searchAt_eq, hfind]
      rfl
    rw [nextBlock, hfind]
    exact ⟨hnone, hnone⟩
  | case2 place m after hfind block hblock =>
    rw [nextBlock, hfind]
    simp only [hblock]
    refine ⟨?_, Pattern.length_ahead_lt_of_find? hfind⟩
    rw [blocksAt, Pattern.searchAt_eq, hfind]
    exact List.filterMap_cons_some hblock
  | case3 place m after hfind hskip ih =>
    have hshort : after.ahead.length < place.ahead.length := Pattern.length_ahead_lt_of_find? hfind
    have hblocks : blocksAt place = blocksAt after := by
      rw [blocksAt, Pattern.searchAt_eq, hfind]
      exact List.filterMap_cons_none hskip
    rw [nextBlock, hfind]
    simp only [hskip, hblocks]
    revert ih
    match nextBlock after with
    | (none, last) => exact id
    | (some block, behind) => exact And.imp_right (Nat.lt_trans · hshort)

theorem length_ahead_lt_of_nextBlock {place after : Place} {block : Block}
    (h : nextBlock place = (some block, after)) : after.ahead.length < place.ahead.length := by
  have hblocks := blocksAt_eq place
  rw [h] at hblocks
  exact hblocks.2

/-- The next diagnostic that is not muted, and the place behind its block. -/
def nextDiagnostic (ignore : IgnoreSet) (place : Place) : Option Diagnostic × Place :=
  match _h : nextBlock place with
  | (none, after) => (none, after)
  | (some block, after) =>
    let diagnostic := block.diagnostic ignore
    if diagnostic.isSuppressed then nextDiagnostic ignore after else (some diagnostic, after)
termination_by place.ahead.length
decreasing_by exact length_ahead_lt_of_nextBlock ‹_›

/-- The diagnostics from a place on, muted ones left out. -/
def remainingAt (ignore : IgnoreSet) (place : Place) : List Diagnostic :=
  ((blocksAt place).map (·.diagnostic ignore)).filter (!·.isSuppressed)

theorem remainingAt_of_blocksAt_eq_cons {ignore : IgnoreSet} {place after : Place} {block : Block}
    (h : blocksAt place = block :: blocksAt after) : remainingAt ignore place =
      if (block.diagnostic ignore).isSuppressed then remainingAt ignore after
      else block.diagnostic ignore :: remainingAt ignore after := by
  rw [remainingAt, h, List.map_cons, List.filter_cons]
  cases (block.diagnostic ignore).isSuppressed <;> rfl

/-- The diagnostics from a place on are the next one and those behind it. -/
theorem remainingAt_eq (ignore : IgnoreSet) (place : Place) :
    match nextDiagnostic ignore place with
    | (none, after) => remainingAt ignore place = [] ∧ remainingAt ignore after = []
    | (some d, after) => remainingAt ignore place = d :: remainingAt ignore after ∧
        after.ahead.length < place.ahead.length := by
  induction place using nextDiagnostic.induct ignore with
  | case1 place after hnext =>
    have hblocks := blocksAt_eq place
    rw [hnext] at hblocks
    rw [nextDiagnostic, hnext]
    simp only [remainingAt, hblocks, List.map_nil, List.filter_nil, and_self]
  | case2 place block after hnext diagnostic hmuted ih =>
    have hblocks := blocksAt_eq place
    rw [hnext] at hblocks
    have hremaining : remainingAt ignore place = remainingAt ignore after :=
      (remainingAt_of_blocksAt_eq_cons hblocks.1).trans (if_pos hmuted)
    rw [nextDiagnostic, hnext]
    simp only [show (block.diagnostic ignore).isSuppressed = true from hmuted, if_true, hremaining]
    revert ih
    match nextDiagnostic ignore after with
    | (none, last) => exact id
    | (some d, behind) => exact And.imp_right (Nat.lt_trans · hblocks.2)
  | case3 place block after hnext diagnostic hkept =>
    have hblocks := blocksAt_eq place
    rw [hnext] at hblocks
    rw [nextDiagnostic, hnext]
    simp only [show ¬(block.diagnostic ignore).isSuppressed = true from hkept]
    exact ⟨(remainingAt_of_blocksAt_eq_cons hblocks.1).trans (if_neg hkept), hblocks.2⟩

theorem length_ahead_lt_of_nextDiagnostic {ignore : IgnoreSet} {place after : Place}
    {d : Diagnostic} (h : nextDiagnostic ignore place = (some d, after)) :
    after.ahead.length < place.ahead.length := by
  have hremaining := remainingAt_eq ignore place
  rw [h] at hremaining
  exact hremaining.2

/-- The diagnostics that are taken until there is none, and the place after that. -/
def takeAll (ignore : IgnoreSet) (place : Place) : List Diagnostic × Place :=
  match _h : nextDiagnostic ignore place with
  | (none, after) => ([], after)
  | (some d, after) => (d :: (takeAll ignore after).1, (takeAll ignore after).2)
termination_by place.ahead.length
decreasing_by all_goals exact length_ahead_lt_of_nextDiagnostic ‹_›

theorem takeAll_eq (ignore : IgnoreSet) (place : Place) :
    (takeAll ignore place).1 = remainingAt ignore place ∧
      remainingAt ignore (takeAll ignore place).2 = [] := by
  induction place using takeAll.induct ignore with
  | case1 place after hnext =>
    have hremaining := remainingAt_eq ignore place
    rw [hnext] at hremaining
    rw [takeAll, hnext]
    exact ⟨hremaining.1.symm, hremaining.2⟩
  | case2 place d after hnext ih =>
    have hremaining := remainingAt_eq ignore place
    rw [hnext] at hremaining
    rw [takeAll, hnext]
    exact ⟨(congrArg (d :: ·) ih.1).trans hremaining.1.symm, ih.2⟩

/-! ### The scanner -/

def start (text : Text) (ignore : IgnoreSet) : Scanner := ⟨text, ignore, Place.start text⟩

/-- The answer of a scanner, and the scanner after it. -/
def reply (s : Scanner) : Extractor.Request → Extractor.Answer × Scanner
  | .next =>
    let (diagnostic?, after) := nextDiagnostic s.ignore s.place
    (.next diagnostic?, { s with place := after })
  | .restart => (.restarted, start s.text s.ignore)
  | .rest =>
    let (diagnostics, after) := takeAll s.ignore s.place
    (.rest diagnostics, { s with place := after })
  | .count => (.count (takeAll s.ignore (Place.start s.text)).1.length, s)

def answers (s : Scanner) : List Extractor.Request → List Extractor.Answer
  | [] => []
  | request :: more => (s.reply request).1 :: answers (s.reply request).2 more

/-- What the scanner will come across is what the list of all diagnostics holds from the place on. -/
structure StandsAt (text : Text) (ignore : IgnoreSet) (s : Scanner) (place : Nat) : Prop where
  text_eq : s.text = text
  ignore_eq : s.ignore = ignore
  remaining_eq : remainingAt ignore s.place = (extract text ignore).drop place

section Scanner
variable {text : Text} {ignore : IgnoreSet} {s : Scanner} {place : Nat}

theorem remainingAt_start (text : Text) (ignore : IgnoreSet) :
    remainingAt ignore (Place.start text) = extract text ignore := by
  have hblocks : blocksAt (Place.start text) = blocks text :=
    filterMap_ofMatch?_search_layout text
  rw [remainingAt, hblocks, extract_eq_filter_blocks]

theorem standsAt_start (text : Text) (ignore : IgnoreSet) :
    (start text ignore).StandsAt text ignore 0 := ⟨rfl, rfl, remainingAt_start text ignore⟩

open Extractor (answerAt answersFrom eq_getElem?_of_drop_eq)

/-- **One request** to the scanner. -/
theorem StandsAt.reply (h : s.StandsAt text ignore place) (request : Extractor.Request) :
    (s.reply request).1 = (answerAt (extract text ignore) place request).1 ∧
      (s.reply request).2.StandsAt text ignore
        (answerAt (extract text ignore) place request).2 := by
  obtain ⟨rfl, rfl, hremaining⟩ := h
  cases request with
  | next =>
    have hnext := remainingAt_eq s.ignore s.place
    have hstep : remainingAt s.ignore s.place = (nextDiagnostic s.ignore s.place).1.toList ++
        remainingAt s.ignore (nextDiagnostic s.ignore s.place).2 ∧
        ((nextDiagnostic s.ignore s.place).1 = none →
          remainingAt s.ignore (nextDiagnostic s.ignore s.place).2 = []) := by
      match nextDiagnostic s.ignore s.place, hnext with
      | (none, after), hnext => exact ⟨hnext.1.trans hnext.2.symm, fun _ => hnext.2⟩
      | (some d, after), hnext => exact ⟨hnext.1, fun hnone => nomatch hnone⟩
    rw [hremaining] at hstep
    obtain ⟨hanswer, hrest⟩ := eq_getElem?_of_drop_eq hstep.1 hstep.2
    exact ⟨congrArg Extractor.Answer.next hanswer, rfl, rfl, hrest⟩
  | restart => exact ⟨rfl, standsAt_start _ _⟩
  | rest =>
    obtain ⟨hall, hend⟩ := takeAll_eq s.ignore s.place
    exact ⟨congrArg Extractor.Answer.rest (hall.trans hremaining), rfl, rfl,
      hend.trans List.drop_length.symm⟩
  | count =>
    have hall : (takeAll s.ignore (Place.start s.text)).1 = extract s.text s.ignore :=
      (takeAll_eq s.ignore _).1.trans (remainingAt_start _ _)
    have hcount := congrArg (fun all : List Diagnostic => Extractor.Answer.count all.length) hall
    exact ⟨hcount, rfl, rfl, hremaining⟩

theorem StandsAt.answers (h : s.StandsAt text ignore place) (requests : List Extractor.Request) :
    s.answers requests = answersFrom (extract text ignore) place requests := by
  induction requests generalizing s place with
  | nil => rfl
  | cons request more ih =>
    obtain ⟨hanswer, hstands⟩ := h.reply request
    exact congrArg₂ List.cons hanswer (ih hstands)

end Scanner

end Scanner

namespace Extractor

/-- **An extractor is a restartable cursor into the list of all diagnostics.** Whatever is asked of it,
the answers are those at a place in this list, which a restart puts back to the top and a count
leaves where it is. A scanner that remembers nothing but a place in the text gives the same
answers. -/
theorem replies_eq_answersFrom (text : Text) (ignore : IgnoreSet) (requests : List Request) :
    (replies (start text ignore) requests).1 = answersFrom (extract text ignore) 0 requests ∧
      (Scanner.start text ignore).answers requests =
        answersFrom (extract text ignore) 0 requests :=
  ⟨(standsAt_start text ignore).replies requests,
    (Scanner.standsAt_start text ignore).answers requests⟩

/-- An error between a muted warning and a match without a line number that fits. -/
example :
    let text := ("2 57 Warning: b\n\n^\n3 9 c\n\n^\n18446744073709551616 1 a\n\n^\n").toList
    let d : Diagnostic := ⟨3, 0, .error, "c".toList, []⟩
    (replies (start text (.ofList ["57".toList])) [.next, .next, .count, .rest, .restart, .rest]).1 =
      [.next (some d), .next none, .count 1, .rest [], .restarted, .rest [d]] := by
  decide +kernel

end Extractor

end PascalLint
