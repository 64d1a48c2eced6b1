import PascalLint.Diagnostic

/-! The text report: a line for each diagnostic, then the status line.

A line reads `file:line:column: label: text`, with the column counted from one. A warning's label
carries its code. On a colour terminal the location is underlined and the label coloured by
severity; taking the colours away gives the plain line. -/
namespace PascalLint.Report

/-- A way to draw text on a terminal: the parameters of the sequence that turns it on. -/
structure Style where
  parameters : Text

namespace Style

def underlined : Style := ⟨"4".toList⟩
def boldRed : Style := ⟨"1;31".toList⟩
def boldYellow : Style := ⟨"1;33".toList⟩
def grey : Style := ⟨"90".toList⟩

/-- The sequence that gives a terminal drawing parameters. -/
def sequence (parameters : Text) : Text := "\x1b[".toList ++ parameters ++ ['m']

/-- The text between the sequence that turns the style on and the one that turns all styles
off. -/
def paint (s : Style) (text : Text) : Text := sequence s.parameters ++ text ++ sequence ['0']

def ofSeverity : Severity → Style
  | .error => boldRed
  | .warning => boldYellow
  | .suppressed => grey

end Style

/-- The severity, with a warning's code in brackets. -/
def label (d : Diagnostic) : Text :=
  if d.isWarning && !d.code.isEmpty then d.severity.name ++ '[' :: d.code ++ [']']
  else d.severity.name

def location (file : Text) (d : Diagnostic) : Text :=
  file ++ ':' :: Text.ofNat d.line ++ ':' :: Text.ofNat (d.column + 1)

/-- The line for one diagnostic. -/
def line (file : Text) (color : Bool) (d : Diagnostic) : Text :=
  let paint (style : Style) (text : Text) := if color then style.paint text else text
  paint .underlined (location file d) ++ ": ".toList ++
    paint (.ofSeverity d.severity) (label d) ++ ": ".toList ++ d.text

/-- The text report. -/
def text (file : Text) (color : Bool) (diagnostics : List Diagnostic) : Text :=
  Text.unlines (diagnostics.map (line file color) ++ [(Summary.ofList diagnostics).status])

end PascalLint.Report
