import PascalLint.Text.Basic

/-! The log: what the parts of the program note down while they work. -/
namespace PascalLint.Log

/-- How much an entry matters, the gravest first. -/
inductive Level where
  | error
  | warn
  | info
  | debug
  | trace
deriving DecidableEq

/-- The place of a level in the order of detail. -/
def Level.detail : Level → Nat
  | .error => 1
  | .warn => 2
  | .info => 3
  | .debug => 4
  | .trace => 5

def Level.name : Level → Text
  | .error => "ERROR".toList
  | .warn => "WARN".toList
  | .info => "INFO".toList
  | .debug => "DEBUG".toList
  | .trace => "TRACE".toList

/-- The part of the program that made an entry. -/
inductive Source where
  | program
  | blocks
  | settings
  | command
deriving DecidableEq

/-- The name under which the entries of a part are written and filtered. -/
def Source.name : Source → Text
  | .program => "epcomp_lint".toList
  | .blocks => "epcomp_lint::e_parser".toList
  | .settings => "epcomp_lint::e_settings".toList
  | .command => "epcomp_lint::e_command_builder".toList

structure Entry where
  level : Level
  source : Source
  message : Text
deriving DecidableEq

/-- The entry as it is written: the level in five columns and the source in brackets, then the
message, whose further lines are indented by four blanks. -/
def Entry.render (e : Entry) : Text :=
  '[' :: Text.padRight 5 e.level.name ++ [' '] ++ e.source.name ++ "] ".toList ++
    Text.join "\n    ".toList (Text.lines e.message)

end PascalLint.Log
