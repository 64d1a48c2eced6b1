import PascalLint.Proofs.Block.Search
import PascalLint.Proofs.Extraction.Cursor

/-! Every match is accounted for.

What can be seen of an extraction are the entries of the log and the diagnostics that are handed
out, in the order in which they come. For every match of the layout some of this is owed
(`owed`): it is noted as skipped, or it is noted as a block and then either noted as muted or handed
out. A step pays what is owed for the matches that it passes, up to the first that is handed out and
for none after it (`exists_passed_advance`). So what any number of calls shows is what is owed for
the first matches of the text, and for all of them once a call comes back empty
(`exists_accounts`). -/
namespace PascalLint

/-! ### What is owed -/

/-- What can be seen of an extraction. -/
inductive Event where
  | noted (entry : Log.Entry)
  | handedOut (diagnostic : Diagnostic)
deriving DecidableEq

namespace Event

def isHandedOut : Event → Bool
  | noted _ => false
  | handedOut _ => true

/-- Whether an entry of the log begins in some way. -/
def isNote (beginning : Text) : Event → Bool
  | noted entry => beginning.isPrefixOf entry.message
  | handedOut _ => false

def skipMark : Text := "Skipping block with unusable line number: ".toList

def blockMark : Text := "Diagnostic block: ".toList

def mutedMark : Text := "Suppressed warning ".toList

/-- What is owed for a match of the layout. -/
def owed (ignore : IgnoreSet) (m : Match Block.Part) : List Event :=
  match Block.ofMatch? m with
  | none => [noted ⟨.debug, .blocks, skipMark ++ Text.quoted m.matched⟩]
  | some b =>
    let d := b.diagnostic ignore
    noted ⟨.trace, .blocks, blockMark ++ b.describe⟩ ::
      if d.isSuppressed then
        [noted ⟨.debug, .blocks, mutedMark ++ d.code ++ " on line ".toList ++ Text.ofNat d.line ++
          ": ".toList ++ d.text⟩]
      else [handedOut d]

end Event

open Event

/-- What is seen of a candidate, given what becomes of it. -/
def Verdict.events (v : Verdict) : List Event :=
  v.log.map noted ++ v.diagnostic?.toList.map handedOut

section Owed
variable {ignore : IgnoreSet} {m : Match Block.Part} {c : Candidate} {d : Diagnostic}

theorem Candidate.of_ofMatch? (h : Candidate.ofMatch? m = some c) :
    c.text = m.matched ∧ m.part? .numeral = some c.header.numeral := by
  simp only [Candidate.ofMatch?, bind, Option.bind_eq_some_iff, Option.some.injEq] at h
  obtain ⟨numeral, hnumeral, code, -, message, -, source, -, caretPrefix, -, rfl⟩ := h
  exact ⟨rfl, hnumeral⟩

theorem exists_candidate {text : Text} (h : m ∈ Block.layout.search text) :
    ∃ c, Candidate.ofMatch? m = some c := by
  have hmem : Candidate.ofMatch? m ∈ (Block.layout.search text).map Candidate.ofMatch? :=
    List.mem_map_of_mem h
  rw [map_ofMatch?_search_layout] at hmem
  obtain ⟨c, -, hc⟩ := List.mem_map.mp hmem
  exact ⟨c, hc.symm⟩

/-- A match that is no block is one whose line numeral is no count. -/
theorem Block.ofMatch?_eq_none_iff (h : Candidate.ofMatch? m = some c) :
    Block.ofMatch? m = none ↔ (m.part? .numeral).bind Text.count? = none := by
  rw [Block.ofMatch?, h, (Candidate.of_ofMatch? h).2, Option.bind_some, Option.bind_some,
    Candidate.block?, Option.map_eq_none_iff]

theorem owed_eq_events (h : Candidate.ofMatch? m = some c) :
    owed ignore m = (Verdict.of ignore c).events := by
  have htext : c.text = m.matched := (Candidate.of_ofMatch? h).1
  have hblock : Block.ofMatch? m = c.block? := by rw [Block.ofMatch?, h, Option.bind_some]
  unfold owed Verdict.of
  rw [hblock]
  cases c.block? with
  | none =>
    simp only [Verdict.events, Verdict.log, Candidate.skipEntry, htext]
    rfl
  | some b =>
    by_cases hmuted : (b.diagnostic ignore).isSuppressed = true
    · simp only [hmuted, if_true]
      rfl
    · simp only [hmuted]
      rfl

/-- What is handed out for a candidate comes last. -/
theorem Verdict.getLast?_events (h : (Verdict.of ignore c).diagnostic? = some d) :
    (Verdict.of ignore c).events.getLast? = some (handedOut d) := by
  rw [events, h]
  exact List.getLast?_concat

/-- For every match there is one diagnostic, one note that it is muted or one that it is skipped. -/
theorem countP_owed (ignore : IgnoreSet) (m : Match Block.Part) :
    (owed ignore m).countP isHandedOut + (owed ignore m).countP (isNote mutedMark) +
      (owed ignore m).countP (isNote skipMark) = 1 := by
  unfold owed
  cases Block.ofMatch? m with
  | none => rfl
  | some b =>
    by_cases hmuted : (b.diagnostic ignore).isSuppressed = true
    · simp only [hmuted, if_true]
      rfl
    · simp only [hmuted]
      rfl

theorem flatMap_owed {found : List (Match Block.Part)} {candidates : List Candidate}
    (h : found.map Candidate.ofMatch? = candidates.map some) :
    found.flatMap (owed ignore) = candidates.flatMap fun c => (Verdict.of ignore c).events := by
  induction found generalizing candidates with
  | nil =>
    cases candidates with
    | nil => rfl
    | cons c candidates => cases h
  | cons m found ih =>
    cases candidates with
    | nil => cases h
    | cons c candidates =>
      obtain ⟨hm, hfound⟩ := List.cons.inj h
      rw [List.flatMap_cons, List.flatMap_cons, owed_eq_events hm, ih hfound]

theorem countP_flatMap_owed (ignore : IgnoreSet) (found : List (Match Block.Part)) :
    (found.flatMap (owed ignore)).countP isHandedOut +
      (found.flatMap (owed ignore)).countP (isNote mutedMark) +
      (found.flatMap (owed ignore)).countP (isNote skipMark) = found.length := by
  induction found with
  | nil => rfl
  | cons m found ih =>
    have hm := countP_owed ignore m
    simp only [List.flatMap_cons, List.countP_append, List.length_cons]
    omega

end Owed

namespace Cursor

/-! ### One call -/

/-- What is seen of a step: its notes come before its diagnostic. -/
def Step.events (s : Step) : List Event := s.log.map noted ++ s.diagnostic?.toList.map handedOut

/-- A step passes candidates, the last of which is handed out, if any is, and shows what there is to
be seen of them. -/
theorem exists_passed_advance (ignore : IgnoreSet) (candidates : List Candidate) :
    let step := advance ignore candidates
    ∃ passed, candidates = passed ++ step.cursor.ahead ∧
      step.events = passed.flatMap (fun c => (Verdict.of ignore c).events) ∧
      ∀ d ∈ step.diagnostic?, ∃ c ∈ passed.getLast?, (Verdict.of ignore c).diagnostic? = some d := by
  induction candidates with
  | nil => exact ⟨[], rfl, rfl, fun d hd => by cases hd⟩
  | cons c rest ih =>
    cases hverdict : (Verdict.of ignore c).diagnostic? with
    | some d =>
      refine ⟨[c], ?_, ?_, ?_⟩
      · simp [advance, hverdict]
      · simp [advance, hverdict, Step.events, Verdict.events]
      · intro d' hd'
        simp only [advance, hverdict, Option.mem_def, Option.some.injEq] at hd'
        subst hd'
        exact ⟨c, rfl, hverdict⟩
    | none =>
      obtain ⟨passed, hsplit, hevents, hlast⟩ := ih
      have hstep : advance ignore (c :: rest) =
          { advance ignore rest with
            log := (Verdict.of ignore c).log ++ (advance ignore rest).log } := by
        simp only [advance, hverdict]
      refine ⟨c :: passed, ?_, ?_, ?_⟩
      · rw [hstep]
        exact congrArg (c :: ·) hsplit
      · rw [List.flatMap_cons, ← hevents, hstep]
        simp [Step.events, Verdict.events, hverdict]
      · intro d hd
        rw [hstep] at hd
        obtain ⟨last, hlast, hd⟩ := hlast d hd
        refine ⟨last, ?_, hd⟩
        rw [Option.mem_def] at hlast ⊢
        rw [List.getLast?_cons, hlast]
        rfl

/-! ### Any number of calls -/

/-- The steps of so many calls. -/
def calls (c : Cursor) : Nat → List Step
  | 0 => []
  | n + 1 => c.next :: calls c.next.cursor n

/-- The cursor after so many calls. -/
def after (c : Cursor) : Nat → Cursor
  | 0 => c
  | n + 1 => after c.next.cursor n

section Calls
variable {c : Cursor} {n : Nat}

theorem next_ignore (c : Cursor) : c.next.cursor.ignore = c.ignore :=
  (remaining_advance c.ignore c.ahead).1

/-- The calls pass candidates one after the other and show what there is to be seen of them. If each
of them hands out a diagnostic, none has looked beyond it. -/
theorem exists_passed_calls (c : Cursor) (n : Nat) :
    ∃ passed, c.ahead = passed ++ (c.after n).ahead ∧
      (c.calls n).flatMap Step.events =
        passed.flatMap (fun x => (Verdict.of c.ignore x).events) ∧
      ((∀ step ∈ c.calls n, step.diagnostic? ≠ none) →
        ∀ x ∈ passed.getLast?, ∃ d, (Verdict.of c.ignore x).diagnostic? = some d) := by
  induction n generalizing c with
  | zero => exact ⟨[], rfl, rfl, fun _ x hx => by cases hx⟩
  | succ n ih =>
    obtain ⟨first, hfirst, hevents, hlast⟩ := exists_passed_advance c.ignore c.ahead
    obtain ⟨more, hmore, hevents', hlast'⟩ := ih c.next.cursor
    rw [next_ignore] at hevents' hlast'
    refine ⟨first ++ more, ?_, ?_, ?_⟩
    · rw [List.append_assoc]
      show c.ahead = first ++ (more ++ (c.next.cursor.after n).ahead)
      rw [← hmore]
      exact hfirst
    · rw [List.flatMap_append, ← hevents', ← hevents]
      rfl
    · intro hall x hx
      obtain ⟨hnext, hcalls⟩ := List.forall_mem_cons.mp hall
      rw [Option.mem_def, List.getLast?_append, Option.or_eq_some_iff] at hx
      rcases hx with hx | ⟨-, hx⟩
      · exact hlast' hcalls x hx
      · obtain ⟨d, hd⟩ := Option.ne_none_iff_exists'.mp hnext
        obtain ⟨y, hy, hverdict⟩ := hlast d hd
        obtain rfl : x = y := Option.some.inj (hx.symm.trans hy)
        exact ⟨d, hverdict⟩

theorem ahead_after_eq_nil (h : c.ahead = []) (n : Nat) : (c.after n).ahead = [] := by
  induction n generalizing c with
  | zero => exact h
  | succ n ih =>
    apply ih
    show (advance c.ignore c.ahead).cursor.ahead = []
    rw [h]
    rfl

/-- A call that comes back empty has come to the end. -/
theorem ahead_after_eq_nil_of_mem (h : ∃ step ∈ c.calls n, step.diagnostic? = none) :
    (c.after n).ahead = [] := by
  induction n generalizing c with
  | zero =>
    obtain ⟨step, hstep, -⟩ := h
    cases hstep
  | succ n ih =>
    obtain ⟨step, hstep, hnone⟩ := h
    rcases List.mem_cons.mp hstep with rfl | hstep
    · exact ahead_after_eq_nil (ahead_advance_eq_nil hnone) n
    · exact ih ⟨step, hstep, hnone⟩

/-- As long as calls hand out diagnostics, they use up candidates. -/
theorem add_length_ahead_le (h : ∀ step ∈ c.calls n, step.diagnostic? ≠ none) :
    n + (c.after n).ahead.length ≤ c.ahead.length := by
  induction n generalizing c with
  | zero => exact Nat.le_of_eq (Nat.zero_add _)
  | succ n ih =>
    obtain ⟨hnext, hcalls⟩ := List.forall_mem_cons.mp h
    obtain ⟨d, hd⟩ := Option.ne_none_iff_exists'.mp hnext
    have hused : c.next.cursor.ahead.length < c.ahead.length := length_ahead_advance hd
    have hmore := ih hcalls
    show n + 1 + (c.next.cursor.after n).ahead.length ≤ c.ahead.length
    omega

theorem countP_isHandedOut_events (s : Step) :
    s.events.countP isHandedOut = s.diagnostic?.toList.length := by
  have hlog : (s.log.map noted).countP isHandedOut = 0 := by
    rw [List.countP_eq_zero]
    intro e he
    obtain ⟨entry, -, rfl⟩ := List.mem_map.mp he
    exact Bool.false_ne_true
  rw [Step.events, List.countP_append, hlog, Nat.zero_add]
  cases s.diagnostic? <;> rfl

theorem countP_isHandedOut_calls (h : ∀ step ∈ c.calls n, step.diagnostic? ≠ none) :
    ((c.calls n).flatMap Step.events).countP isHandedOut = n := by
  induction n generalizing c with
  | zero => rfl
  | succ n ih =>
    obtain ⟨hnext, hcalls⟩ := List.forall_mem_cons.mp h
    obtain ⟨d, hd⟩ := Option.ne_none_iff_exists'.mp hnext
    have hfirst : c.next.events.countP isHandedOut = 1 := by
      rw [countP_isHandedOut_events, hd]
      rfl
    show ((c.next :: calls c.next.cursor n).flatMap Step.events).countP isHandedOut = n + 1
    rw [List.flatMap_cons, List.countP_append, hfirst, ih hcalls, Nat.add_comm]

end Calls

/-- What has been seen after some calls accounts for the matches that are consumed, and nothing
ahead of them has been looked at. -/
structure Accounts (text : Text) (ignore : IgnoreSet) (n : Nat)
    (consumed ahead : List (Match Block.Part)) : Prop where
  search_eq : Block.layout.search text = consumed ++ ahead
  /-- A match is skipped if its line numeral is no count. -/
  skipped_iff : ∀ m ∈ Block.layout.search text,
    Block.ofMatch? m = none ↔ (m.part? .numeral).bind Text.count? = none
  /-- What is ahead of the cursor is what has not been consumed. -/
  ahead_eq : ahead.map Candidate.ofMatch? = ((start text ignore).after n).ahead.map some
  /-- The log and the output together are what is owed for the matches consumed, in order. -/
  events_eq : ((start text ignore).calls n).flatMap Step.events = consumed.flatMap (owed ignore)
  /-- Diagnostics, notes that one is muted and notes that a match is skipped add up. -/
  total : let events := ((start text ignore).calls n).flatMap Step.events
    events.countP isHandedOut + events.countP (isNote mutedMark) +
      events.countP (isNote skipMark) = consumed.length
  /-- A call that comes back empty has left nothing. -/
  drained : (∃ step ∈ (start text ignore).calls n, step.diagnostic? = none) → ahead = []
  /-- As long as none does, the last match consumed is that of the last diagnostic. -/
  untouched : (∀ step ∈ (start text ignore).calls n, step.diagnostic? ≠ none) →
    (consumed.flatMap (owed ignore)).countP isHandedOut = n ∧
      ∀ m ∈ consumed.getLast?, ∃ d, (owed ignore m).getLast? = some (handedOut d)
  /-- With more calls than there are matches, one comes back empty. -/
  ends : (Block.layout.search text).length < n →
    ∃ step ∈ (start text ignore).calls n, step.diagnostic? = none

/-- **Every match is accounted for, in order**: after any number of calls, what was noted and handed
out is what is owed for the matches up to the last one consumed. -/
theorem exists_accounts (text : Text) (ignore : IgnoreSet) (n : Nat) :
    ∃ consumed ahead, Accounts text ignore n consumed ahead := by
  have hsearch := map_ofMatch?_search_layout text
  obtain ⟨passed, hsplit, hevents, hlast⟩ := exists_passed_calls (start text ignore) n
  have hall : Candidate.all text = passed ++ ((start text ignore).after n).ahead := hsplit
  rw [hall, List.map_append] at hsearch
  obtain ⟨consumed, ahead, hfound, hconsumed, hahead⟩ := List.map_eq_append_iff.mp hsearch
  have hseen : ((start text ignore).calls n).flatMap Step.events =
      consumed.flatMap (owed ignore) := hevents.trans (flatMap_owed hconsumed).symm
  have hlength : (Block.layout.search text).length = (start text ignore).ahead.length := by
    have hmap := congrArg List.length (map_ofMatch?_search_layout text)
    rwa [List.length_map, List.length_map] at hmap
  refine ⟨consumed, ahead, {
    search_eq := hfound
    skipped_iff := ?_
    ahead_eq := hahead
    events_eq := hseen
    total := ?_
    drained := ?_
    untouched := ?_
    ends := ?_ }⟩
  · intro m hm
    obtain ⟨c, hc⟩ := exists_candidate hm
    exact Block.ofMatch?_eq_none_iff hc
  · rw [hseen]
    exact countP_flatMap_owed ignore consumed
  · intro hnone
    rw [ahead_after_eq_nil_of_mem hnone] at hahead
    exact List.map_eq_nil_iff.mp hahead
  · intro hall
    refine ⟨hseen ▸ countP_isHandedOut_calls hall, fun m hm => ?_⟩
    have hmap := congrArg List.getLast? hconsumed
    rw [List.getLast?_map, List.getLast?_map, Option.mem_def.mp hm] at hmap
    obtain ⟨x, hx, hmatch⟩ := Option.map_eq_some_iff.mp hmap.symm
    obtain ⟨d, hd⟩ := hlast hall x hx
    rw [owed_eq_events hmatch.symm]
    exact ⟨d, Verdict.getLast?_events hd⟩
  · intro hmore
    by_contra hnone
    rw [not_exists] at hnone
    have hle := add_length_ahead_le fun step hstep hstep? => hnone step ⟨hstep, hstep?⟩
    omega

/-- A match without a line number that fits, a muted warning, an error, and a match beyond it. -/
example :
    let text := ("18446744073709551616 1 a\n\n^\n2 57 Warning: b\n\n^\n3 9 c\n\n^\n" ++
      "4 9 d\n\n^\n").toList
    let seen := ((start text (.ofList ["57".toList])).calls 1).flatMap Step.events
    seen.map isHandedOut = [false, false, false, false, true] ∧
      seen.map (isNote mutedMark) = [false, false, true, false, false] ∧
      seen.getLast? = some (handedOut ⟨3, 0, .error, "c".toList, []⟩) := by
  decide +kernel

end Cursor

end PascalLint
