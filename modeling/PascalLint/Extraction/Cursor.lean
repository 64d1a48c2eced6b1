import PascalLint.Extraction.Basic

/-! Taking diagnostics one at a time.

A cursor stands before the candidates that have not been looked at. Taking the next diagnostic
looks at candidates up to the first that is reported and at none after it, and notes those in the
log. An extractor is a text with an ignore set and one cursor, which can be put back to the top at
any time. -/
namespace PascalLint

structure Cursor where
  ignore : IgnoreSet
  ahead : List Candidate

namespace Cursor

def start (text : Text) (ignore : IgnoreSet) : Cursor := ⟨ignore, Candidate.all text⟩

/-- What one step over candidates gives: the diagnostic, unless there is none left, the cursor
after the step and what was noted in the log. -/
structure Step where
  diagnostic? : Option Diagnostic
  cursor : Cursor
  log : List Log.Entry

/-- The next diagnostic of a list of candidates. -/
def advance (ignore : IgnoreSet) : List Candidate → Step
  | [] => ⟨none, ⟨ignore, []⟩, []⟩
  | candidate :: rest =>
    let verdict := Verdict.of ignore candidate
    match verdict.diagnostic? with
    | some diagnostic => ⟨some diagnostic, ⟨ignore, rest⟩, verdict.log⟩
    | none =>
      let step := advance ignore rest
      { step with log := verdict.log ++ step.log }

def next (c : Cursor) : Step := advance c.ignore c.ahead

/-- All diagnostics from the cursor on. -/
def remaining (c : Cursor) : List Diagnostic :=
  (c.ahead.map (Verdict.of c.ignore)).filterMap Verdict.diagnostic?

/-- What is noted in the log when all of them are taken. -/
def remainingLog (c : Cursor) : List Log.Entry :=
  (c.ahead.map (Verdict.of c.ignore)).flatMap Verdict.log

end Cursor

/-- Compiler output with an ignore set and a cursor into its diagnostics. -/
structure Extractor where
  text : Text
  ignore : IgnoreSet
  cursor : Cursor

namespace Extractor

def start (text : Text) (ignore : IgnoreSet) : Extractor :=
  ⟨text, ignore, Cursor.start text ignore⟩

/-- What can be asked of an extractor. -/
inductive Request where
  /-- The next diagnostic. -/
  | next
  /-- The cursor back to the top. -/
  | restart
  /-- All diagnostics from the cursor on. -/
  | rest
  /-- The number of all diagnostics, whatever the cursor's place. -/
  | count
deriving DecidableEq

inductive Answer where
  | next (diagnostic? : Option Diagnostic)
  | restarted
  | rest (diagnostics : List Diagnostic)
  | count (n : Nat)
deriving DecidableEq

/-- An answer, the extractor after it and what was noted in the log on the way. -/
structure Reply where
  answer : Answer
  extractor : Extractor
  log : List Log.Entry

def reply (e : Extractor) : Request → Reply
  | .next =>
    let step := e.cursor.next
    ⟨.next step.diagnostic?, { e with cursor := step.cursor }, step.log⟩
  | .restart => ⟨.restarted, start e.text e.ignore, []⟩
  | .rest =>
    ⟨.rest e.cursor.remaining, { e with cursor := ⟨e.ignore, []⟩ }, e.cursor.remainingLog⟩
  | .count =>
    let all := Cursor.start e.text e.ignore
    ⟨.count all.remaining.length, e, all.remainingLog⟩

/-- The answers to a list of requests, in order, and the log of all of them. -/
def replies (e : Extractor) : List Request → List Answer × List Log.Entry
  | [] => ([], [])
  | request :: more =>
    let first := e.reply request
    let (answers, log) := replies first.extractor more
    (first.answer :: answers, first.log ++ log)

end Extractor

end PascalLint
