import PascalLint.Report.Json
import PascalLint.Text.Reader

/-! Reading the JSON report back.

The reader knows the values of which reports are made: whole numbers, strings, arrays and objects,
with any white space between them. Characters beyond four hexadecimal digits are not escaped in a
report, so pairs of escapes are not read. -/
namespace PascalLint.Report.Json
open Text (Reader prepend ofCodePoint?)

def isSpace (c : Char) : Bool := c == ' ' || c == '\t' || c == '\n' || c == '\r'

def skipSpace (text : Text) : Text := text.dropWhile isSpace

/-- The character that a letter after a backslash stands for. -/
def escaped? : Char → Option Char
  | '"' => some '"'
  | '\\' => some '\\'
  | '/' => some '/'
  | 'b' => some '\x08'
  | 'f' => some '\x0c'
  | 'n' => some '\n'
  | 'r' => some '\r'
  | 't' => some '\t'
  | _ => none

/-- A string after its opening quote. -/
def readString : Reader Text
  | '"' :: rest => some ([], rest)
  | '\\' :: 'u' :: a :: b :: c :: d :: rest => prepend (ofCodePoint? [a, b, c, d]) (readString rest)
  | '\\' :: c :: rest => prepend (escaped? c) (readString rest)
  | c :: rest => if c.toNat < 0x20 || c == '\\' then none else prepend (some c) (readString rest)
  | [] => none

/-- A whole number, which begins with zero only if it is zero. -/
def readNumber (text : Text) : Option (Nat × Text) :=
  let digits := text.takeWhile (Text.isDigitIn 10)
  if digits.isEmpty || (digits.head? == some '0' && digits.length != 1) then none
  else some (Text.valueOf 10 digits, text.dropWhile (Text.isDigitIn 10))

mutual

/-- A value at the start of a text, in which fewer than `limit` values are looked at. -/
def readValue : (limit : Nat) → Text → Option (Json × Text)
  | 0, _ => none
  | limit + 1, text =>
    match skipSpace text with
    | '"' :: rest => (readString rest).map fun (s, rest) => (.string s, rest)
    | '[' :: rest =>
      match skipSpace rest with
      | ']' :: rest => some (.array [], rest)
      | rest => (readItems limit rest).map fun (items, rest) => (.array items, rest)
    | '\x7b' :: rest =>
      match skipSpace rest with
      | '\x7d' :: rest => some (.object [], rest)
      | rest => (readFields limit rest).map fun (fields, rest) => (.object fields, rest)
    | rest => (readNumber rest).map fun (n, rest) => (.number n, rest)

/-- One or more items up to the bracket that closes their array. -/
def readItems : (limit : Nat) → Text → Option (List Json × Text)
  | 0, _ => none
  | limit + 1, text => do
    let (item, rest) ← readValue limit text
    match skipSpace rest with
    | ',' :: rest => (readItems limit rest).map fun (items, rest) => (item :: items, rest)
    | ']' :: rest => some ([item], rest)
    | _ => none

/-- One or more fields up to the brace that closes their object. -/
def readFields : (limit : Nat) → Text → Option (List (Text × Json) × Text)
  | 0, _ => none
  | limit + 1, text =>
    match skipSpace text with
    | '"' :: rest => do
      let (name, rest) ← readString rest
      match skipSpace rest with
      | ':' :: rest =>
        let (value, rest) ← readValue limit rest
        match skipSpace rest with
        | ',' :: rest =>
          (readFields limit rest).map fun (fields, rest) => ((name, value) :: fields, rest)
        | '\x7d' :: rest => some ([(name, value)], rest)
        | _ => none
      | _ => none
    | _ => none

end

/-- The value that a whole text stands for. -/
def read? (text : Text) : Option Json := do
  let (value, rest) ← readValue (text.length + 1) text
  if (skipSpace rest).isEmpty then some value else none

end PascalLint.Report.Json
