import PascalLint.Settings.Basic

/-! The compiler's command line for a source file.

A command is put together step by step: settings, a program, further arguments and a source may
be given in any order. The program comes first, then the default arguments, then the others in
the order in which they were given, and the source last. -/
namespace PascalLint

structure Command where
  program : Text
  arguments : List Text
  source : Option Text
deriving DecidableEq

namespace Command

/-- Where the installer puts the compiler. -/
def defaultProgram : Text := "C:\\extpas32\\bin\\epcomp.exe".toList

/-- The arguments that precede all others. -/
def defaultArguments : List Text := ["-y".toList, "-i..\\..\\lib\\obj".toList, "-iobj".toList]

/-- The suffix of the copy of an edited file that the compiler gets. -/
def copySuffix : Text := "pas".toList

def default : Command := ⟨defaultProgram, defaultArguments, none⟩

/-- The command with the program and the options of the settings. -/
def withSettings (c : Command) (s : Settings) : Command :=
  { c with program := s.executable.getD c.program, arguments := c.arguments ++ s.options }

def withProgram (c : Command) (path : Text) : Command := { c with program := path }

def withArguments (c : Command) (arguments : List Text) : Command :=
  { c with arguments := c.arguments ++ arguments }

def withSource (c : Command) (path : Text) : Command := { c with source := some path }

/-- The program, its arguments and the source. -/
def words (c : Command) : List Text := c.program :: c.arguments ++ c.source.toList

end Command

end PascalLint
