import Mathlib.Data.List.Basic
import PascalLint.Proofs.Text.Lines
import PascalLint.Text.Pattern

/-! The ways in which a pattern matches.

Every way splits the text ahead into what is matched and what is left (`matched_append_ahead`).
Patterns one after the other can be grouped at will (`matchesAt_all_append`).

A run of characters comes first at its longest. If what follows the run refuses to begin with a
character of the run's class, no shorter run can be completed, and the run is taken whole without
looking back (`matchesAt_run_sequence`). If the ways of the first of two patterns all stop at the
same place, its preferred way is part of the preferred way of both (`head?_matchesAt_sequence`). -/
namespace PascalLint

variable {Name : Type}

/-- A match with another one right after it. -/
def Match.andThen (m n : Match Name) : Match Name :=
  ⟨m.matched ++ n.matched, n.ahead, m.parts ++ n.parts⟩

@[simp] theorem Match.matched_andThen (m n : Match Name) :
    (m.andThen n).matched = m.matched ++ n.matched := rfl

@[simp] theorem Match.ahead_andThen (m n : Match Name) : (m.andThen n).ahead = n.ahead := rfl

theorem Match.andThen_assoc (m n k : Match Name) :
    (m.andThen n).andThen k = m.andThen (n.andThen k) := by
  simp [Match.andThen]

/-- Nothing in front of a match is the match. -/
@[simp] theorem Match.map_andThen_nil (rest : Text) (ms : List (Match Name)) :
    ms.map (Match.andThen ⟨[], rest, []⟩) = ms := by
  have hid : Match.andThen (⟨[], rest, []⟩ : Match Name) = id := rfl
  rw [hid, List.map_id]

theorem Match.map_andThen_map (m n : Match Name) (ms : List (Match Name)) :
    (ms.map n.andThen).map m.andThen = ms.map (m.andThen n).andThen := by
  rw [List.map_map]
  exact List.map_congr_left fun k _ => (Match.andThen_assoc m n k).symm

namespace Pattern

variable {p q r : Pattern Name} {before : Option Char} {ahead : Text} {m : Match Name}

@[simp] theorem lastOf_nil (before : Option Char) : lastOf before [] = before := by
  simp [lastOf]

theorem lastOf_append (before : Option Char) (a b : Text) :
    lastOf before (a ++ b) = lastOf (lastOf before a) b := by
  simp [lastOf, List.getLast?_append, Option.or_assoc]

theorem lastOf_cons (before : Option Char) (c : Char) (a : Text) :
    lastOf before (c :: a) = lastOf (some c) a :=
  lastOf_append before [c] a

/-! ### Patterns one after the other -/

theorem matchesAt_sequence (p q : Pattern Name) (before : Option Char) (ahead : Text) :
    matchesAt (sequence p q) before ahead = (matchesAt p before ahead).flatMap fun m =>
      (matchesAt q (lastOf before m.matched) m.ahead).map m.andThen := rfl

theorem matchesAt_all_nil (before : Option Char) (ahead : Text) :
    matchesAt (all ([] : List (Pattern Name))) before ahead = [⟨[], ahead, []⟩] := by
  cases ahead <;> rfl

theorem matchesAt_all_cons (p : Pattern Name) (ps : List (Pattern Name)) (before : Option Char)
    (ahead : Text) : matchesAt (all (p :: ps)) before ahead =
      matchesAt (sequence p (all ps)) before ahead := rfl

/-- A match and what is ahead of it are the text. -/
theorem matched_append_ahead (h : m ∈ matchesAt p before ahead) :
    m.matched ++ m.ahead = ahead := by
  induction p generalizing before ahead m with
  | lineStart =>
    rw [matchesAt] at h
    split at h
    · rw [List.mem_singleton.mp h]
      rfl
    · cases h
  | char c =>
    cases ahead with
    | nil => cases h
    | cons first rest =>
      rw [matchesAt] at h
      split at h
      · rw [List.mem_singleton.mp h]
        rfl
      · cases h
  | run least isMember =>
    simp only [matchesAt, List.mem_map] at h
    obtain ⟨i, _, rfl⟩ := h
    exact List.take_append_drop _ _
  | sequence p q ihp ihq =>
    simp only [matchesAt_sequence, List.mem_flatMap, List.mem_map] at h
    obtain ⟨k, hk, n, hn, rfl⟩ := h
    have hrest := ihq hn
    have hall := ihp hk
    rw [← hall, ← hrest]
    exact List.append_assoc ..
  | optional p ih =>
    rcases List.mem_append.mp h with h | h
    · exact ih h
    · rw [List.mem_singleton.mp h]
      rfl
  | named name p ih =>
    simp only [matchesAt, List.mem_map] at h
    obtain ⟨k, hk, rfl⟩ := h
    have hinner := ih hk
    exact hinner

theorem matchesAt_sequence_assoc (p q r : Pattern Name) (before : Option Char) (ahead : Text) :
    matchesAt (sequence (sequence p q) r) before ahead =
      matchesAt (sequence p (sequence q r)) before ahead := by
  simp only [matchesAt_sequence, List.flatMap_assoc, List.flatMap_map, List.map_flatMap,
    List.map_map]
  congr 1
  funext m
  congr 1
  funext n
  have hlast : lastOf before (m.andThen n).matched = lastOf (lastOf before m.matched) n.matched :=
    lastOf_append before m.matched n.matched
  rw [hlast]
  congr 1
  funext k
  exact Match.andThen_assoc m n k

/-- Patterns one after the other match as two groups of them do. -/
theorem matchesAt_all_append (ps qs : List (Pattern Name)) (before : Option Char) (ahead : Text) :
    matchesAt (all (ps ++ qs)) before ahead =
      matchesAt (sequence (all ps) (all qs)) before ahead := by
  induction ps generalizing before ahead with
  | nil =>
    rw [matchesAt_sequence, matchesAt_all_nil]
    simp
  | cons p ps ih =>
    show matchesAt (sequence p (all (ps ++ qs))) before ahead =
      matchesAt (sequence (sequence p (all ps)) (all qs)) before ahead
    rw [matchesAt_sequence_assoc]
    simp only [matchesAt_sequence p, ih]

/-- What may be left out is tried first, and what follows is tried again without it. -/
theorem matchesAt_optional_sequence (p q : Pattern Name) (before : Option Char) (ahead : Text) :
    matchesAt (sequence (optional p) q) before ahead =
      matchesAt (sequence p q) before ahead ++ matchesAt q before ahead := by
  simp [matchesAt, List.flatMap_append]

theorem matchesAt_lineStart_sequence (h : before = none ∨ before = some '\n')
    (q : Pattern Name) (ahead : Text) :
    matchesAt (sequence lineStart q) before ahead = matchesAt q before ahead := by
  have hstart : matchesAt (lineStart : Pattern Name) before ahead = [⟨[], ahead, []⟩] :=
    if_pos h
  rw [matchesAt_sequence, hstart]
  simp

theorem matchesAt_char_sequence (c : Char) (q : Pattern Name) (before : Option Char)
    (rest : Text) : matchesAt (sequence (char c) q) before (c :: rest) =
      (matchesAt q (some c) rest).map (Match.andThen ⟨[c], rest, []⟩) := by
  have hchar : matchesAt (char c : Pattern Name) before (c :: rest) = [⟨[c], rest, []⟩] :=
    if_pos rfl
  rw [matchesAt_sequence, hchar]
  simp [lastOf]

/-- Characters one after the other. -/
theorem matchesAt_literal (word : Text) (ps : List (Pattern Name)) (before : Option Char)
    (rest : Text) : matchesAt (all (word.map char ++ ps)) before (word ++ rest) =
      (matchesAt (all ps) (lastOf before word) rest).map (Match.andThen ⟨word, rest, []⟩) := by
  induction word generalizing before with
  | nil => simp
  | cons c word ih =>
    rw [List.map_cons, List.cons_append, List.cons_append, matchesAt_all_cons,
      matchesAt_char_sequence, ih, Match.map_andThen_map, lastOf_cons]
    rfl

theorem matchesAt_literal_eq_nil {word : Text} (ps : List (Pattern Name))
    (h : ¬word <+: ahead) : matchesAt (all (word.map char ++ ps)) before ahead = [] := by
  induction word generalizing before ahead with
  | nil => exact absurd (List.nil_prefix) h
  | cons c word ih =>
    rw [List.map_cons, List.cons_append, matchesAt_all_cons]
    cases ahead with
    | nil => rfl
    | cons d rest =>
      by_cases hd : d = c
      · subst hd
        rw [List.cons_prefix_cons, and_iff_right rfl] at h
        rw [matchesAt_char_sequence, ih h]
        rfl
      · have hchar : matchesAt (char c : Pattern Name) before (d :: rest) = [] := if_neg hd
        rw [matchesAt_sequence, hchar]
        rfl

/-- If the ways of the first pattern all stop at one place, then the preferred way of both begins
with the preferred way of the first. -/
theorem head?_matchesAt_sequence {matched rest : Text}
    (h : ∀ m ∈ matchesAt p before ahead, m.matched = matched ∧ m.ahead = rest) :
    (matchesAt (sequence p q) before ahead).head? =
      (matchesAt p before ahead).head?.bind fun m =>
        (matchesAt q (lastOf before matched) rest).head?.map m.andThen := by
  have hsame : matchesAt (sequence p q) before ahead = (matchesAt p before ahead).flatMap fun m =>
      (matchesAt q (lastOf before matched) rest).map m.andThen := by
    rw [matchesAt_sequence]
    apply List.flatMap_congr
    intro m hm
    rw [(h m hm).1, (h m hm).2]
  rw [hsame]
  cases matchesAt p before ahead with
  | nil => rfl
  | cons m others => cases matchesAt q (lastOf before matched) rest <;> simp

/-! ### Runs -/

/-- The text begins with a character of the class. -/
def BeginsIn (isMember : Char → Bool) (text : Text) : Prop :=
  ∃ c ∈ text.head?, isMember c = true

/-- No way in which the pattern matches begins with a character of the class. -/
def Refuses (q : Pattern Name) (isMember : Char → Bool) : Prop :=
  ∀ before ahead, BeginsIn isMember ahead → matchesAt q before ahead = []

theorem refuses_char {c : Char} {isMember : Char → Bool} (h : isMember c = false) :
    (char c : Pattern Name).Refuses isMember := by
  intro before ahead ⟨d, hd, hmem⟩
  cases ahead with
  | nil => rfl
  | cons first rest =>
    obtain rfl : first = d := by simpa using hd
    rw [matchesAt, if_neg]
    intro hfirst
    simp [← hfirst, hmem] at h

theorem refuses_run {least : Nat} {isMember other : Char → Bool}
    (h : ∀ c, isMember c = true → other c = false) :
    (run (least + 1) other : Pattern Name).Refuses isMember := by
  intro before ahead ⟨d, hd, hmem⟩
  cases ahead with
  | nil => cases hd
  | cons first rest =>
    obtain rfl : first = d := by simpa using hd
    simp [matchesAt, h first hmem]

theorem Refuses.named {isMember : Char → Bool} (h : q.Refuses isMember) (name : Name) :
    (named name q).Refuses isMember := by
  intro before ahead hbegins
  simp [matchesAt, h before ahead hbegins]

theorem Refuses.sequence {isMember : Char → Bool} (h : q.Refuses isMember) (r : Pattern Name) :
    (sequence q r).Refuses isMember := by
  intro before ahead hbegins
  simp [matchesAt_sequence, h before ahead hbegins]

section Run
variable {least : Nat} {isMember : Char → Bool}

theorem matchesAt_run_of_lt (h : (ahead.takeWhile isMember).length < least) :
    matchesAt (run least isMember : Pattern Name) before ahead = [] := by
  have hnone : (ahead.takeWhile isMember).length + 1 - least = 0 := by omega
  simp [matchesAt, hnone]

variable (Name before least) in
/-- The ways of a run that goes on for a given text, from the longest to the shortest. -/
theorem matchesAt_run_append {longest rest : Text} (hmem : ∀ c ∈ longest, isMember c = true)
    (hrest : ∀ c ∈ rest.head?, isMember c = false) :
    matchesAt (run least isMember : Pattern Name) before (longest ++ rest) =
      (List.range (longest.length + 1 - least)).map fun i =>
        ⟨longest.take (longest.length - i), longest.drop (longest.length - i) ++ rest, []⟩ := by
  have htake (i : Nat) : (longest ++ rest).take (longest.length - i) =
      longest.take (longest.length - i) := List.take_append_of_le_length (Nat.sub_le ..)
  have hdrop (i : Nat) : (longest ++ rest).drop (longest.length - i) =
      longest.drop (longest.length - i) ++ rest := List.drop_append_of_le_length (Nat.sub_le ..)
  simp only [matchesAt, Text.takeWhile_append_of_head hmem hrest, htake, hdrop]

variable (Name before) in
/-- A run is as long as possible first. After a shorter one a character of the class stands
ahead. -/
theorem matchesAt_run_of_le (h : least ≤ (ahead.takeWhile isMember).length) :
    ∃ shorter, matchesAt (run least isMember : Pattern Name) before ahead =
        ⟨ahead.takeWhile isMember, ahead.dropWhile isMember, []⟩ :: shorter ∧
      ∀ m ∈ shorter, BeginsIn isMember m.ahead := by
  have hmem : ∀ c ∈ ahead.takeWhile isMember, isMember c = true :=
    fun c hc => List.mem_takeWhile_imp hc
  have hrest : ∀ c ∈ (ahead.dropWhile isMember).head?, isMember c = false :=
    fun c hc => Text.eq_false_of_mem_head?_dropWhile hc
  have hrun := matchesAt_run_append Name before least hmem hrest
  rw [List.takeWhile_append_dropWhile] at hrun
  obtain ⟨k, hk⟩ : ∃ k, (ahead.takeWhile isMember).length + 1 - least = k + 1 :=
    ⟨(ahead.takeWhile isMember).length - least, by omega⟩
  rw [hrun, hk, List.range_succ_eq_map, List.map_cons, List.map_map]
  refine ⟨_, by rw [Nat.sub_zero, List.take_length, List.drop_length, List.nil_append],
    fun m hm => ?_⟩
  obtain ⟨i, hi, rfl⟩ := List.mem_map.mp hm
  have hi : i < k := List.mem_range.mp hi
  generalize ahead.takeWhile isMember = longest at *
  have hlt : longest.length - (i + 1) < longest.length := by omega
  refine ⟨longest[longest.length - (i + 1)], ?_, hmem _ (List.getElem_mem _)⟩
  simp [List.head?_drop, List.getElem?_eq_getElem hlt]

/-- What follows a pattern decides among its ways: if it refuses what stands ahead of all but the
first, only the first is left. -/
theorem matchesAt_sequence_of_refuses {others : List (Match Name)}
    (hp : matchesAt p before ahead = m :: others)
    (hothers : ∀ o ∈ others, BeginsIn isMember o.ahead) (hq : q.Refuses isMember) :
    matchesAt (sequence p q) before ahead =
      (matchesAt q (lastOf before m.matched) m.ahead).map m.andThen := by
  have hnone : (others.flatMap fun o =>
      (matchesAt q (lastOf before o.matched) o.ahead).map o.andThen) = [] := by
    apply List.flatMap_eq_nil_iff.mpr
    intro o ho
    rw [hq _ _ (hothers o ho)]
    rfl
  rw [matchesAt_sequence, hp, List.flatMap_cons, hnone, List.append_nil]

/-- **A run is taken whole** before a pattern that refuses its characters. -/
theorem matchesAt_run_sequence (hq : q.Refuses isMember) :
    matchesAt (sequence (run least isMember) q) before ahead =
      if least ≤ (ahead.takeWhile isMember).length then
        (matchesAt q (lastOf before (ahead.takeWhile isMember)) (ahead.dropWhile isMember)).map
          (Match.andThen ⟨ahead.takeWhile isMember, ahead.dropWhile isMember, []⟩)
      else [] := by
  split
  · rename_i h
    obtain ⟨shorter, hrun, hshorter⟩ := matchesAt_run_of_le Name before h
    exact matchesAt_sequence_of_refuses hrun hshorter hq
  · rename_i h
    rw [matchesAt_sequence, matchesAt_run_of_lt (by omega)]
    rfl

/-- A named run is taken whole as well. -/
theorem matchesAt_named_run_sequence {name : Name} (hq : q.Refuses isMember) :
    matchesAt (sequence (named name (run least isMember)) q) before ahead =
      if least ≤ (ahead.takeWhile isMember).length then
        (matchesAt q (lastOf before (ahead.takeWhile isMember)) (ahead.dropWhile isMember)).map
          (Match.andThen ⟨ahead.takeWhile isMember, ahead.dropWhile isMember,
            [(name, ahead.takeWhile isMember)]⟩)
      else [] := by
  split
  · rename_i h
    obtain ⟨shorter, hrun, hshorter⟩ := matchesAt_run_of_le Name before h
    have hnamed : matchesAt (named name (run least isMember)) before ahead =
        ⟨ahead.takeWhile isMember, ahead.dropWhile isMember,
          [(name, ahead.takeWhile isMember)]⟩ ::
        shorter.map fun m => { m with parts := (name, m.matched) :: m.parts } := by
      rw [matchesAt, hrun]
      rfl
    refine matchesAt_sequence_of_refuses hnamed (fun o ho => ?_) hq
    obtain ⟨m, hm, rfl⟩ := List.mem_map.mp ho
    exact hshorter m hm
  · rename_i h
    rw [matchesAt_sequence, matchesAt, matchesAt_run_of_lt (by omega)]
    rfl

end Run

end Pattern

end PascalLint
