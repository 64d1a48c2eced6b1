import PascalLint.Text.Basic

/-! What a command line may say.

Flags stand alone; fields take a value. The codes to mute and the options for the compiler may be
given any number of times, everything else once. -/
namespace PascalLint

/-- The forms of the report. -/
inductive ReportFormat where
  | text
  | json
  | table
deriving DecidableEq

namespace ReportFormat

def name : ReportFormat → Text
  | text => "text".toList
  | json => "json".toList
  | table => "table".toList

def ofName? (name : Text) : Option ReportFormat := [text, json, table].find? (·.name = name)

end ReportFormat

/-- What the user asks for. -/
structure Invocation where
  version : Bool
  ignore : List Text
  config : Option Text
  options : List Text
  format : ReportFormat
  file : Option Text
  noColor : Bool
  printCommand : Option Text
  input : Option Text
deriving DecidableEq

namespace Invocation

def default : Invocation := ⟨false, [], none, [], .text, none, false, none, none⟩

/-- The file with the compiler's output. A dash stands for standard input. -/
def inputPath (i : Invocation) : Option Text := i.input.filter (· != ['-'])

/-- The name that the text report gives to the source file. -/
def displayName (i : Invocation) : Text :=
  match i.file, i.inputPath with
  | some file, _ => file
  | none, some path => path
  | none, none => "<stdin>".toList

end Invocation

inductive Flag where
  | version
  | noColor
  | help
deriving DecidableEq

inductive Field where
  | ignore
  | config
  | option
  | format
  | file
  | printCommand
  /-- The one value that stands without a name. -/
  | input
deriving DecidableEq

/-- Whether a field may be given more than once. -/
def Field.isRepeatable : Field → Bool
  | .ignore => true
  | .option => true
  | _ => false

/-- Whether any word after the name is the value, even one that begins with a dash. -/
def Field.takesDashes : Field → Bool
  | .option => true
  | _ => false

/-- What a name on the command line stands for. -/
inductive Switch where
  | flag (f : Flag)
  | field (f : Field)
deriving DecidableEq

/-- A name on the command line, with its line in the help text. -/
structure SwitchEntry where
  switch : Switch
  short : Option Char
  long : Text
  /-- What the value is called in the help text, if the name takes one. -/
  valueName : Option Text
  description : Text

/-- The names that can stand on the command line. -/
def switches : List SwitchEntry :=
  [⟨.flag .version, some 'v', "version".toList, none,
      "Print version and feature flags in JSON format.".toList⟩,
    ⟨.field .ignore, some 'i', "ignore".toList, some "CODE".toList,
      ("Warning code to suppress; repeatable, commas allowed. " ++
        "Use possible-unclosed-comment for code 282.").toList⟩,
    ⟨.field .config, some 'c', "config".toList, some "PATH".toList, "TOML settings file.".toList⟩,
    ⟨.field .option, some 'o', "option".toList, some "OPT".toList,
      "Extra compiler option for --print-command; repeatable.".toList⟩,
    ⟨.field .format, some 'f', "format".toList, some "FORMAT".toList,
      "Output format. [default: text] [possible values: text, json, table]".toList⟩,
    ⟨.field .file, none, "file".toList, some "NAME".toList,
      "Source file name shown in text output.".toList⟩,
    ⟨.flag .noColor, none, "no-color".toList, none, "Disable colored output.".toList⟩,
    ⟨.field .printCommand, none, "print-command".toList, some "SOURCE".toList,
      "Print the epcomp command line for SOURCE and exit.".toList⟩,
    ⟨.flag .help, some 'h', "help".toList, none, "Print help".toList⟩]

def Switch.ofLong? (name : Text) : Option Switch := (switches.find? (·.long = name)).map (·.switch)

def Switch.ofShort? (name : Char) : Option Switch :=
  (switches.find? (·.short = some name)).map (·.switch)

/-! ### The help text -/

namespace SwitchEntry

/-- The spellings of a name, with the value's name. -/
def spelling (e : SwitchEntry) : Text :=
  let short := match e.short with
    | some c => ['-', c, ',', ' ']
    | none => List.replicate 4 ' '
  let value := match e.valueName with
    | some name => " <".toList ++ name ++ ['>']
    | none => []
  short ++ "--".toList ++ e.long ++ value

/-- The line of a name in the help text, its description starting in a given column. -/
def helpLine (column : Nat) (e : SwitchEntry) : Text :=
  "  ".toList ++ Text.padRight column e.spelling ++ e.description

end SwitchEntry

def helpText : Text :=
  let column := (switches.map (·.spelling.length)).foldl max 0 + 2
  Text.unlines (["Turns Prospero epcomp compiler output into editor diagnostics.".toList,
    [],
    "Usage: epcomp-lint [OPTIONS] [INPUT]".toList,
    [],
    "Arguments:".toList,
    "  [INPUT]  Captured compiler output; '-' or absent reads stdin.".toList,
    [],
    "Options:".toList] ++ switches.map (·.helpLine column))

end PascalLint
