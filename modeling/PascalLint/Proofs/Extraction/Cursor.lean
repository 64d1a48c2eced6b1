import PascalLint.Extraction.Cursor

/-! Taking one diagnostic after the other.

A step passes over candidates that are skipped or muted and gives the diagnostic of the first that
is reported; what remained before it is that diagnostic and what remains after it
(`remaining_eq`). A cursor that is asked until nothing is left therefore gives all that remained
(`drain_eq_remaining`), and from the top of a text everything (`drain_start`). -/
namespace PascalLint.Cursor

/-! ### One step -/

variable {ignore : IgnoreSet} {candidates : List Candidate} {c : Cursor} {d : Diagnostic}

/-- A step keeps the ignore set, and its diagnostic is the first that remained. -/
theorem remaining_advance (ignore : IgnoreSet) (candidates : List Candidate) :
    (advance ignore candidates).cursor.ignore = ignore ∧
      (candidates.map (Verdict.of ignore)).filterMap Verdict.diagnostic? =
        (advance ignore candidates).diagnostic?.toList ++
          (advance ignore candidates).cursor.remaining := by
  induction candidates with
  | nil => exact ⟨rfl, rfl⟩
  | cons candidate rest ih =>
    rw [List.map_cons, advance]
    cases hverdict : (Verdict.of ignore candidate).diagnostic? with
    | none =>
      rw [List.filterMap_cons_none hverdict]
      exact ih
    | some d =>
      rw [List.filterMap_cons_some hverdict]
      exact ⟨rfl, rfl⟩

/-- What remained before a step is its diagnostic and what remains after it. -/
theorem remaining_eq (c : Cursor) :
    c.remaining = c.next.diagnostic?.toList ++ c.next.cursor.remaining :=
  (remaining_advance c.ignore c.ahead).2

/-- A step that gives a diagnostic uses up its candidate. -/
theorem length_ahead_advance (h : (advance ignore candidates).diagnostic? = some d) :
    (advance ignore candidates).cursor.ahead.length < candidates.length := by
  induction candidates with
  | nil => cases h
  | cons candidate rest ih =>
    simp only [advance] at h ⊢
    split at h
    · exact Nat.lt_succ_self _
    · exact Nat.lt_succ_of_lt (ih h)

/-- A step that gives none has come to the end. -/
theorem ahead_advance_eq_nil (h : (advance ignore candidates).diagnostic? = none) :
    (advance ignore candidates).cursor.ahead = [] := by
  induction candidates with
  | nil => rfl
  | cons candidate rest ih =>
    simp only [advance] at h ⊢
    split at h
    · cases h
    · exact ih h

/-! ### All steps -/

/-- The diagnostics that a cursor gives when it is asked until nothing is left. -/
def drain (c : Cursor) : List Diagnostic :=
  match _h : c.next.diagnostic? with
  | none => []
  | some d => d :: drain c.next.cursor
termination_by c.ahead.length
decreasing_by exact length_ahead_advance ‹_›

theorem drain_eq_remaining (c : Cursor) : c.drain = c.remaining := by
  induction c using drain.induct with
  | case1 c h =>
    have hahead : c.next.cursor.ahead = [] := ahead_advance_eq_nil h
    rw [drain, h, remaining_eq, h, remaining, hahead]
    rfl
  | case2 c d h ih =>
    rw [drain, h, remaining_eq, h, ← ih]
    rfl

/-- **One after the other, all diagnostics of a text are taken.** -/
theorem drain_start (text : Text) (ignore : IgnoreSet) :
    (start text ignore).drain = extract text ignore := drain_eq_remaining _

end PascalLint.Cursor
