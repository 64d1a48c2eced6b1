import PascalLint.CommandLine.Basic

/-! Command lines as they can be written.

A command line is a list of givings, each a flag or a field with its value in the same word or in
the next, and then perhaps the input after two dashes. -/
namespace PascalLint.CommandLine

/-- One thing given on a command line. -/
inductive Giving where
  | flag (flag : Flag)
  /-- A field and its value in one word. -/
  | joined (field : Field) (value : Text)
  /-- A field and its value in two words. -/
  | apart (field : Field) (value : Text)
deriving DecidableEq

/-- The long name that stands for a switch; the input has none. -/
def longName? (s : Switch) : Option Text := (switches.find? (·.switch = s)).map (·.long)

def dashed (s : Switch) : Text := '-' :: '-' :: (longName? s).getD []

namespace Giving

/-- The words in which something is given. -/
def words : Giving → List Text
  | flag f => [dashed (.flag f)]
  | joined field value => [dashed (.field field) ++ '=' :: value]
  | apart field value => [dashed (.field field), value]

end Giving

/-- The words of a whole command line. -/
def write (givings : List Giving) (input : Option Text) : List Text :=
  givings.flatMap Giving.words ++ input.toList.flatMap fun path => [['-', '-'], path]

end PascalLint.CommandLine
