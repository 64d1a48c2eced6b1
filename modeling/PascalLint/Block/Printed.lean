import PascalLint.Block.Basic
import PascalLint.Text.DecimalDigit

/-! Compiler output as the compiler prints it.

Output is a list of items: banner lines, which say nothing about the source, and blocks. All lines
end in the same way, with a line feed or with a carriage return and a line feed. -/
namespace PascalLint

/-- A message of the compiler before it is printed. -/
structure Message where
  /-- The blanks before the line number, before the code and before the text. -/
  indent : Text
  codeGap : Text
  textGap : Text
  line : Nat
  code : Text
  text : Text
  near : Option Text
  source : Text
  caretColumn : Nat

namespace Message

/-- The lines of the block for a message. -/
def lines (m : Message) : List Text :=
  let header := m.indent ++ Text.ofNat m.line ++ m.codeGap ++ m.code ++ m.textGap ++ m.text
  let context := m.near.toList.map fun near => List.replicate 24 ' ' ++ near
  header :: context ++ [m.source, List.replicate m.caretColumn ' ' ++ ['^']]

/-- The block that is read back from the printed message. -/
def block (m : Message) : Block :=
  ⟨m.line, m.code, m.text, m.near, m.source, List.replicate m.caretColumn ' '⟩

end Message

/-- What compiler output is made of. -/
inductive OutputItem where
  | banner (line : Text)
  | message (m : Message)

namespace OutputItem

def lines : OutputItem → List Text
  | banner line => [line]
  | message m => m.lines

def message? : OutputItem → Option Message
  | banner _ => none
  | message m => some m

end OutputItem

/-- The output that items are printed as, every line with the same ending. -/
def printOutput (lineEnd : Text) (items : List OutputItem) : Text :=
  (items.flatMap OutputItem.lines).flatMap (· ++ lineEnd)

end PascalLint
