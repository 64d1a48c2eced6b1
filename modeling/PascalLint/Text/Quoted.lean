import PascalLint.Text.Extender
import PascalLint.Text.Numeral
import PascalLint.Text.Printable

/-! Quoted text, the form in which log entries and reports of faults show a text.

Double quotes surround it. A quote, a backslash and the common control characters are escaped by
a backslash; whatever would not show as a character of its own is given by its code point. -/
namespace PascalLint.Text

/-- One character inside quotes. -/
def escape (c : Char) : Text :=
  if c == '\x00' then ['\\', '0']
  else if c == '\t' then ['\\', 't']
  else if c == '\r' then ['\\', 'r']
  else if c == '\n' then ['\\', 'n']
  else if c == '\\' || c == '"' then ['\\', c]
  else if isPrintable c && !isExtender c then [c]
  else ['\\', 'u', '\x7b'] ++ hexOfNat c.toNat ++ ['\x7d']

def quoted (text : Text) : Text := '"' :: text.flatMap escape ++ ['"']

/-- Quoted texts between brackets, with commas between them. -/
def quotedList (texts : List Text) : Text :=
  '[' :: join [',', ' '] (texts.map quoted) ++ [']']

end PascalLint.Text
