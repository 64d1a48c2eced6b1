import PascalLint.Diagnostic

/-! The report as a JSON document.

The document holds the list of diagnostics and their counts. It is laid out with two blanks of
indentation a level and one item a line; empty lists and objects stay on their line. -/
namespace PascalLint.Report

/-- The values of which reports are made. The fields of an object keep their order. -/
inductive Json where
  | number (n : Nat)
  | string (s : Text)
  | array (items : List Json)
  | object (fields : List (Text × Json))

namespace Json

/-- One character of a string: quotes, backslashes and control characters are escaped. -/
def escape (c : Char) : Text :=
  if c == '"' || c == '\\' then ['\\', c]
  else if c == '\x08' then ['\\', 'b']
  else if c == '\x0c' then ['\\', 'f']
  else if c == '\n' then ['\\', 'n']
  else if c == '\r' then ['\\', 'r']
  else if c == '\t' then ['\\', 't']
  else if c.toNat < 0x20 then
    "\\u00".toList ++ [Nat.digitChar (c.toNat / 16), Nat.digitChar (c.toNat % 16)]
  else [c]

def quoted (s : Text) : Text := '"' :: s.flatMap escape ++ ['"']

/-- A line feed and the indentation of a level. -/
def newline (depth : Nat) : Text := '\n' :: List.replicate (2 * depth) ' '

mutual

/-- The value as it is written at a level of the document. -/
def write (depth : Nat) : Json → Text
  | .number n => Text.ofNat n
  | .string s => quoted s
  | .array [] => "[]".toList
  | .array (first :: rest) =>
    '[' :: newline (depth + 1) ++ writeItems (depth + 1) (first :: rest) ++ newline depth ++ [']']
  | .object [] => ['\x7b', '\x7d']
  | .object (first :: rest) =>
    '\x7b' :: newline (depth + 1) ++ writeFields (depth + 1) (first :: rest) ++ newline depth ++
      ['\x7d']

/-- Items with commas between them, each on its line. -/
def writeItems (depth : Nat) : List Json → Text
  | [] => []
  | item :: rest => write depth item ++ writeMoreItems depth rest

/-- The items after the first, each after a comma. -/
def writeMoreItems (depth : Nat) : List Json → Text
  | [] => []
  | item :: rest => ',' :: newline depth ++ write depth item ++ writeMoreItems depth rest

/-- Fields with commas between them, each on its line. -/
def writeFields (depth : Nat) : List (Text × Json) → Text
  | [] => []
  | (name, value) :: rest =>
    quoted name ++ ": ".toList ++ write depth value ++ writeMoreFields depth rest

/-- The fields after the first, each after a comma. -/
def writeMoreFields (depth : Nat) : List (Text × Json) → Text
  | [] => []
  | (name, value) :: rest =>
    ',' :: newline depth ++ quoted name ++ ": ".toList ++ write depth value ++
      writeMoreFields depth rest

end

end Json

def diagnosticJson (d : Diagnostic) : Json :=
  .object [("line".toList, .number d.line), ("column".toList, .number d.column),
    ("severity".toList, .string d.severity.name), ("text".toList, .string d.text),
    ("code".toList, .string d.code)]

def summaryJson (s : Summary) : Json :=
  .object [("errors".toList, .number s.errors), ("warnings".toList, .number s.warnings)]

/-- The document that holds the diagnostics and their counts. -/
def document (diagnostics : List Diagnostic) : Json :=
  .object [("diagnostics".toList, .array (diagnostics.map diagnosticJson)),
    ("summary".toList, summaryJson (Summary.ofList diagnostics))]

/-- The JSON report. Nothing follows its closing brace. -/
def json (diagnostics : List Diagnostic) : Text := (document diagnostics).write 0

end PascalLint.Report
