import PascalLint.Block.Scan
import PascalLint.Text.Pattern

/-! The layout of blocks as a pattern.

The pattern says in one piece what the scan over lines (`Candidate.all`) looks for. It is the
rule; the scan is how blocks are found without going back. -/
namespace PascalLint

namespace Block

/-- The parts of a block's layout. -/
inductive Part where
  | numeral
  | code
  | message
  | near
  | source
  | caretPrefix
deriving DecidableEq

section Lines
open Pattern

def inLine (c : Char) : Bool := c != '\n'

/-- Line number, code and message, each after blanks. -/
def headerLine : List (Pattern Part) :=
  [lineStart, run 0 Header.isBlank, named .numeral (run 1 Text.isDecimalDigit),
    run 1 Header.isBlank, named .code (run 1 Text.isDecimalDigit), run 1 Header.isBlank,
    named .message (run 1 inLine), char '\n']

/-- An indented line with something on it. -/
def contextLine : List (Pattern Part) :=
  (List.replicate Candidate.nearIndent ' ').map char ++ [named .near (run 1 inLine), char '\n']

/-- Any line, and blanks up to a caret on the next one. -/
def sourceAndCaret : List (Pattern Part) :=
  [named .source (run 0 inLine), char '\n', named .caretPrefix (run 0 (· == ' ')), char '^']

/-- A header line, perhaps a line of context, a source line, and blanks up to a caret. -/
def layout : Pattern Part := all (headerLine ++ optional (all contextLine) :: sourceAndCaret)

end Lines

end Block

/-- The candidate that a match of the layout is. -/
def Candidate.ofMatch? (m : Match Block.Part) : Option Candidate := do
  let header : Header := ⟨← m.part? .numeral, ← m.part? .code, ← m.part? .message⟩
  some ⟨header, m.part? .near, ← m.part? .source, ← m.part? .caretPrefix, m.matched⟩

/-- The block that a match of the layout is, if its line numeral is a count. -/
def Block.ofMatch? (m : Match Block.Part) : Option Block :=
  (Candidate.ofMatch? m).bind Candidate.block?

end PascalLint
