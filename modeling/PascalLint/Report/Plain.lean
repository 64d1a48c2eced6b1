import PascalLint.Report.Line

/-! Text without its terminal drawing.

A drawing sequence is an escape character, an opening bracket, any number of digits and
semicolons, and the letter `m`. An escape character that begins no whole sequence stays. -/
namespace PascalLint.Report

def isParameter (c : Char) : Bool := ('0' ≤ c && c ≤ '9') || c == ';'

/-- The length of the sequence that a text begins with; zero if it begins with none. -/
def sequenceLength : Text → Nat
  | '\x1b' :: '[' :: rest =>
    if (rest.dropWhile isParameter).head? = some 'm' then (rest.takeWhile isParameter).length + 3
    else 0
  | _ => 0

/-- The text without its drawing sequences, after passing over the first few characters. -/
def plainFrom : (passed : Nat) → Text → Text
  | _, [] => []
  | passed + 1, _ :: rest => plainFrom passed rest
  | 0, c :: rest =>
    match sequenceLength (c :: rest) with
    | 0 => c :: plainFrom 0 rest
    | length + 1 => plainFrom length rest

/-- The text without its drawing sequences. -/
def plain (text : Text) : Text := plainFrom 0 text

end PascalLint.Report
