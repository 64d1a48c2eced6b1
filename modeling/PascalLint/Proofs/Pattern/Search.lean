import PascalLint.Proofs.Pattern.Matches

/-! Patterns and lines.

A pattern that stays within a line and then takes the line feed can only match the whole line
(`matched_of_line`). A pattern that begins with the start of a line cannot match inside one, so a
search for it goes from line to line: where a line has no match the next one is tried
(`searchFrom_of_no_match`), and after a match the rest of the line in which it ends is passed over
(`searchFrom_inside_line`).

A search does not have to be done at once: the place where it stands is all that has to be kept from
one match to the next (`searchAt_eq`). -/
namespace PascalLint

namespace Pattern

variable {Name : Type} {p q : Pattern Name} {before : Option Char} {m : Match Name}

/-! ### Matches within a line -/

/-- The pattern matches no line feed. -/
def WithinLine (p : Pattern Name) : Prop :=
  ∀ before ahead, ∀ m ∈ matchesAt p before ahead, '\n' ∉ m.matched

theorem withinLine_lineStart : (lineStart : Pattern Name).WithinLine := by
  intro before ahead m hm
  rw [matchesAt] at hm
  split at hm
  · rw [List.mem_singleton.mp hm]
    exact List.not_mem_nil
  · cases hm

theorem withinLine_run {least : Nat} {isMember : Char → Bool} (h : isMember '\n' = false) :
    (run least isMember : Pattern Name).WithinLine := by
  intro before ahead m hm
  simp only [matchesAt, List.mem_map] at hm
  obtain ⟨i, _, rfl⟩ := hm
  intro hmem
  have hlongest : ahead.take (ahead.takeWhile isMember).length = ahead.takeWhile isMember :=
    (List.prefix_iff_eq_take.mp (List.takeWhile_prefix isMember)).symm
  have hmem := (List.take_prefix_take_left (Nat.sub_le _ i)).subset hmem
  rw [hlongest] at hmem
  have hmember := List.mem_takeWhile_imp hmem
  simp [h] at hmember

theorem WithinLine.named (h : p.WithinLine) (name : Name) : (named name p).WithinLine := by
  intro before ahead m hm
  simp only [matchesAt, List.mem_map] at hm
  obtain ⟨k, hk, rfl⟩ := hm
  exact h before ahead k hk

theorem withinLine_all {ps : List (Pattern Name)} (h : ∀ p ∈ ps, p.WithinLine) :
    (all ps).WithinLine := by
  induction ps with
  | nil => exact withinLine_run rfl
  | cons p ps ih =>
    rw [List.forall_mem_cons] at h
    intro before ahead m hm
    rw [matchesAt_all_cons, matchesAt_sequence] at hm
    obtain ⟨k, hk, hm⟩ := List.mem_flatMap.mp hm
    obtain ⟨n, hn, rfl⟩ := List.mem_map.mp hm
    rw [Match.matched_andThen, List.mem_append]
    intro hmem
    rcases hmem with hmem | hmem
    · exact h.1 before ahead k hk hmem
    · exact ih h.2 _ _ n hn hmem

/-- What is matched before a line feed, and the line feed. -/
theorem mem_matchesAt_all_newline {ps : List (Pattern Name)} {ahead : Text}
    (hm : m ∈ matchesAt (all (ps ++ [char '\n'])) before ahead) :
    ∃ k ∈ matchesAt (all ps) before ahead, m.matched = k.matched ++ ['\n'] := by
  rw [matchesAt_all_append, matchesAt_sequence] at hm
  obtain ⟨k, hk, hm⟩ := List.mem_flatMap.mp hm
  obtain ⟨n, hn, rfl⟩ := List.mem_map.mp hm
  refine ⟨k, hk, ?_⟩
  rw [matchesAt_all_cons, matchesAt_sequence] at hn
  obtain ⟨c, hc, hn⟩ := List.mem_flatMap.mp hn
  rw [matchesAt_all_nil] at hn
  obtain rfl : n = c.andThen ⟨[], c.ahead, []⟩ := by simpa using hn
  cases hahead : k.ahead with
  | nil =>
    rw [hahead] at hc
    cases hc
  | cons d rest =>
    rw [hahead, matchesAt] at hc
    split at hc
    · rename_i hd
      rw [List.mem_singleton.mp hc, hd]
      rfl
    · cases hc

/-- A pattern that stays within a line until it takes the line feed matches the whole line. -/
theorem matched_of_line {ps : List (Pattern Name)} (hps : ∀ p ∈ ps, p.WithinLine) {line : Text}
    (hline : '\n' ∉ line) {rest : Text}
    (hm : m ∈ matchesAt (all (ps ++ [char '\n'])) before (line ++ '\n' :: rest)) :
    m.matched = line ++ ['\n'] ∧ m.ahead = rest := by
  obtain ⟨k, hk, hmatched⟩ := mem_matchesAt_all_newline hm
  have hk : '\n' ∉ k.matched := withinLine_all hps _ _ k hk
  have hsplit : k.matched ++ '\n' :: m.ahead = line ++ '\n' :: rest := by
    rw [← matched_append_ahead hm, hmatched]
    simp
  have hlines := congrArg Text.lines hsplit
  rw [Text.lines_append_newline hk, Text.lines_append_newline hline] at hlines
  have hsame : k.matched = line := (List.cons.inj hlines).1
  rw [hsame] at hsplit hmatched
  exact ⟨hmatched, (List.cons.inj (List.append_cancel_left hsplit)).2⟩

/-- Without a line feed ahead, a pattern that takes one does not match. -/
theorem matchesAt_newline_of_not_mem {ps : List (Pattern Name)} {line : Text}
    (hline : '\n' ∉ line) : matchesAt (all (ps ++ [char '\n'])) before line = [] := by
  refine List.eq_nil_iff_forall_not_mem.mpr fun m hm => hline ?_
  obtain ⟨k, _, hmatched⟩ := mem_matchesAt_all_newline hm
  rw [← matched_append_ahead hm, hmatched]
  simp

/-! ### Search from line to line -/

/-- The place after a character is the start of a line. -/
def AtLineStart (before : Option Char) : Prop := before = none ∨ before = some '\n'

theorem not_atLineStart_of_ne {c : Char} (h : '\n' ≠ c) : ¬AtLineStart (some c) := by
  intro hstart
  rcases hstart with hnone | hsome
  · cases hnone
  · exact h (Option.some.inj hsome).symm

/-- The pattern matches at starts of lines only. -/
def Anchored (p : Pattern Name) : Prop :=
  ∀ before ahead, ¬AtLineStart before → matchesAt p before ahead = []

theorem anchored_lineStart_sequence (q : Pattern Name) :
    (sequence lineStart q).Anchored := by
  intro before ahead h
  have hnone : matchesAt (lineStart : Pattern Name) before ahead = [] := if_neg h
  rw [matchesAt_sequence, hnone]
  rfl

/-- Passing over a text. -/
theorem searchFrom_append (p : Pattern Name) (before : Option Char) (passed rest : Text) :
    searchFrom p passed.length before (passed ++ rest) =
      searchFrom p 0 (lastOf before passed) rest := by
  induction passed generalizing before with
  | nil => simp
  | cons c passed ih =>
    rw [lastOf_cons, ← ih]
    rfl

/-- After a match the search goes on behind it. -/
theorem searchFrom_of_match {text : Text} (h : (matchesAt p before text).head? = some m)
    (hne : m.matched ≠ []) :
    searchFrom p 0 before text = m :: searchFrom p 0 (lastOf before m.matched) m.ahead := by
  obtain ⟨c, more, hmatched⟩ := List.exists_cons_of_ne_nil hne
  have htext : text = c :: (more ++ m.ahead) := by
    rw [← matched_append_ahead (List.mem_of_head? h), hmatched]
    rfl
  have hpassed : m.matched.length - 1 = more.length := by
    rw [hmatched]
    rfl
  rw [htext] at h ⊢
  rw [searchFrom, h, hmatched, lastOf_cons, ← searchFrom_append, ← hpassed]

/-- Inside a line an anchored pattern is not found before the next line. -/
theorem searchFrom_inside_line (hp : p.Anchored) {line : Text} (hline : '\n' ∉ line)
    (more : List Text) (hbefore : ¬AtLineStart before) :
    searchFrom p 0 before (Text.join ['\n'] (line :: more)) =
      searchFrom p 0 (some '\n') (Text.join ['\n'] more) := by
  induction line generalizing before with
  | nil =>
    cases more with
    | nil => rfl
    | cons second more =>
      rw [Text.join_cons_cons, List.nil_append, List.singleton_append, searchFrom,
        hp _ _ hbefore]
      rfl
  | cons c line ih =>
    rw [List.mem_cons, not_or] at hline
    have hc : ¬AtLineStart (some c) := not_atLineStart_of_ne hline.1
    have hjoin : Text.join ['\n'] ((c :: line) :: more) = c :: Text.join ['\n'] (line :: more) :=
      Text.join_append_cons ['\n'] [c] line more
    rw [hjoin, searchFrom, hp _ _ hbefore, ← ih hline.2 hc]
    rfl

/-- Where an anchored pattern does not match, it is not found before the next line. -/
theorem searchFrom_of_no_match (hp : p.Anchored) {line : Text} (hline : '\n' ∉ line)
    (more : List Text) (h : (matchesAt p before (Text.join ['\n'] (line :: more))).head? = none) :
    searchFrom p 0 before (Text.join ['\n'] (line :: more)) =
      searchFrom p 0 (some '\n') (Text.join ['\n'] more) := by
  cases line with
  | nil =>
    cases more with
    | nil => rfl
    | cons second more =>
      rw [Text.join_cons_cons, List.nil_append, List.singleton_append] at h ⊢
      rw [searchFrom, h]
  | cons c line =>
    rw [List.mem_cons, not_or] at hline
    have hc : ¬AtLineStart (some c) := not_atLineStart_of_ne hline.1
    have hjoin : Text.join ['\n'] ((c :: line) :: more) = c :: Text.join ['\n'] (line :: more) :=
      Text.join_append_cons ['\n'] [c] line more
    rw [hjoin] at h ⊢
    rw [searchFrom, h, ← searchFrom_inside_line hp hline.2 more hc]

/-! ### One match after the other -/

/-- A place in a text at which a search stands, with the character before it, the text after it and
the number of characters that it has still to pass over. -/
structure Place where
  passed : Nat
  before : Option Char
  ahead : Text

def Place.start (text : Text) : Place := ⟨0, none, text⟩

/-- The matches from a place on. -/
def searchAt (p : Pattern Name) (place : Place) : List (Match Name) :=
  searchFrom p place.passed place.before place.ahead

/-- The first match, and the place from which the search goes on. -/
def findFrom (p : Pattern Name) : (passed : Nat) → Option Char → Text → Option (Match Name × Place)
  | _, _, [] => none
  | passed + 1, _, c :: rest => findFrom p passed (some c) rest
  | 0, before, c :: rest =>
    match (matchesAt p before (c :: rest)).head? with
    | some m => some (m, ⟨m.matched.length - 1, some c, rest⟩)
    | none => findFrom p 0 (some c) rest

def find? (p : Pattern Name) (place : Place) : Option (Match Name × Place) :=
  findFrom p place.passed place.before place.ahead

theorem searchFrom_of_findFrom_eq_none {passed : Nat} {text : Text}
    (h : findFrom p passed before text = none) : searchFrom p passed before text = [] := by
  fun_induction findFrom p passed before text with
  | case1 => rfl
  | case2 passed before c rest ih => exact ih h
  | case3 => cases h
  | case4 before c rest hnone ih =>
    rw [searchFrom, hnone]
    exact ih h

theorem searchFrom_of_findFrom_eq_some {passed : Nat} {text : Text} {place : Place}
    (h : findFrom p passed before text = some (m, place)) :
    searchFrom p passed before text = m :: searchAt p place ∧
      place.ahead.length < text.length := by
  fun_induction findFrom p passed before text with
  | case1 => cases h
  | case2 passed before c rest ih =>
    obtain ⟨hsearch, hshort⟩ := ih h
    exact ⟨hsearch, Nat.lt_succ_of_lt hshort⟩
  | case3 before c rest first hfirst =>
    obtain ⟨rfl, rfl⟩ := Prod.mk.inj (Option.some.inj h)
    rw [searchFrom, hfirst]
    exact ⟨rfl, Nat.lt_succ_self _⟩
  | case4 before c rest hnone ih =>
    obtain ⟨hsearch, hshort⟩ := ih h
    rw [searchFrom, hnone]
    exact ⟨hsearch, Nat.lt_succ_of_lt hshort⟩

/-- **A search can be done match by match**: from a place on there is nothing, or the first match and
what is found from the place behind it. -/
theorem searchAt_eq (p : Pattern Name) (place : Place) :
    p.searchAt place = match p.find? place with
      | none => []
      | some (m, after) => m :: p.searchAt after := by
  cases hfind : p.find? place with
  | none => exact searchFrom_of_findFrom_eq_none hfind
  | some found => exact (searchFrom_of_findFrom_eq_some hfind).1

theorem length_ahead_lt_of_find? {place after : Place} (h : p.find? place = some (m, after)) :
    after.ahead.length < place.ahead.length :=
  (searchFrom_of_findFrom_eq_some h).2

end Pattern

end PascalLint
