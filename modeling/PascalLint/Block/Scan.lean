import PascalLint.Block.Basic
import PascalLint.Log.Basic
import PascalLint.Text.DecimalDigit

/-! Finding the blocks in compiler output, line by line.

A header line opens a candidate. If a line of context, a source line and a caret line follow it,
it is a block with context; otherwise, if a source line and a caret line follow, it is a block
without; otherwise it is no block, and the next line is looked at. The lines of a candidate are
used up by it. A candidate whose line numeral is no count is dropped and noted in the log. -/
namespace PascalLint

/-- What a header line says. -/
structure Header where
  numeral : Text
  code : Text
  message : Text
deriving DecidableEq

namespace Header

def isBlank (c : Char) : Bool := c == ' ' || c == '\t'

/-- The message in what follows the code: at least one blank, then the message, which is the last
of the blanks if nothing else stands there. -/
def message? : Text → Option Text
  | blank :: c :: rest =>
    if !isBlank blank then none
    else match (c :: rest).dropWhile isBlank with
      | [] => (c :: rest).getLast?.map ([·])
      | message => some message
  | _ => none

def read? (line : Text) : Option Header :=
  let afterIndent := line.dropWhile isBlank
  let numeral := afterIndent.takeWhile Text.isDecimalDigit
  let afterNumeral := afterIndent.dropWhile Text.isDecimalDigit
  let afterGap := afterNumeral.dropWhile isBlank
  let code := afterGap.takeWhile Text.isDecimalDigit
  if numeral.isEmpty || (afterNumeral.takeWhile isBlank).isEmpty || code.isEmpty then none
  else (message? (afterGap.dropWhile Text.isDecimalDigit)).map fun message =>
    ⟨numeral, code, message⟩

end Header

/-- A piece of compiler output laid out as a block, whose line numeral is still to be read. -/
structure Candidate where
  header : Header
  near : Option Text
  source : Text
  caretPrefix : Text
  /-- The whole piece, from the start of its header line to its caret. -/
  text : Text
deriving DecidableEq

namespace Candidate

/-- The number of blanks in front of a line of context. -/
def nearIndent : Nat := 24

/-- The context on a line: something has to stand after the indentation. -/
def near? (line : Text) : Option Text :=
  if line.take nearIndent = List.replicate nearIndent ' ' then
    match line.drop nearIndent with
    | [] => none
    | near => some near
  else none

/-- The blanks before the caret on a line. What stands after the caret does not matter. -/
def caretPrefix? (line : Text) : Option Text :=
  if (line.dropWhile (· == ' ')).head? = some '^' then some (line.takeWhile (· == ' ')) else none

/-- A block with context under a header. -/
def withNear? (header : Header) (first : Text) : List Text → Option Candidate
  | context :: source :: caret :: _ => do
    let near ← near? context
    let caretPrefix ← caretPrefix? caret
    some ⟨header, some near, source, caretPrefix,
      Text.unlines [first, context, source] ++ caretPrefix ++ ['^']⟩
  | _ => none

/-- A block without context under a header. -/
def withoutNear? (header : Header) (first : Text) : List Text → Option Candidate
  | source :: caret :: _ => do
    let caretPrefix ← caretPrefix? caret
    some ⟨header, none, source, caretPrefix, Text.unlines [first, source] ++ caretPrefix ++ ['^']⟩
  | _ => none

/-- The candidate that a line opens, given the lines after it. -/
def opened? (first : Text) (rest : List Text) : Option Candidate := do
  let header ← Header.read? first
  withNear? header first rest <|> withoutNear? header first rest

/-- The number of lines that a candidate uses up after its header line. -/
def lineCount (c : Candidate) : Nat := if c.near.isSome then 3 else 2

/-- The candidates in a list of lines of which the first few are used up already. -/
def scan : Nat → List Text → List Candidate
  | _, [] => []
  | usedUp + 1, _ :: rest => scan usedUp rest
  | 0, first :: rest =>
    match opened? first rest with
    | some candidate => candidate :: scan candidate.lineCount rest
    | none => scan 0 rest

/-- The candidates in a text, in order. -/
def all (text : Text) : List Candidate := scan 0 (Text.lines text)

/-- The block, if the line numeral is a count that fits a machine word. -/
def block? (c : Candidate) : Option Block :=
  (Text.count? c.header.numeral).map fun line =>
    ⟨line, c.header.code, c.header.message, c.near, c.source, c.caretPrefix⟩

/-- The note about a candidate that is no block. -/
def skipEntry (c : Candidate) : Log.Entry :=
  ⟨.debug, .blocks, "Skipping block with unusable line number: ".toList ++ Text.quoted c.text⟩

theorem scan_eq_drop (usedUp : Nat) (lines : List Text) :
    scan usedUp lines = scan 0 (lines.drop usedUp) := by
  induction lines generalizing usedUp with
  | nil => cases usedUp <;> simp [scan]
  | cons first rest ih =>
    cases usedUp with
    | zero => rfl
    | succ usedUp => rw [scan, ih]; rfl

end Candidate

/-- The blocks in compiler output, in order. -/
def blocks (text : Text) : List Block := (Candidate.all text).filterMap Candidate.block?

/-- What is noted in the log when all blocks of a text are read. -/
def blocksLog (text : Text) : List Log.Entry :=
  ((Candidate.all text).filter (·.block?.isNone)).map Candidate.skipEntry

end PascalLint
