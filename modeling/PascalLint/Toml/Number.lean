import PascalLint.Toml.Value

/-! Numbers, dates and times in TOML.

Underscores may stand between digits. Integers fit 64 bits with a sign; a float that rounds to
positive infinity is refused. Dates and times are checked against the calendar and the clock,
which shows a leap second as second 60. -/
namespace PascalLint.Toml
open Text (Reader)

/-! ### Digits -/

/-- Digits that may have single underscores in front of them, up to the first other character. -/
def moreDigits (isDigit : Char → Bool) : Reader Text
  | '_' :: c :: rest =>
    if isDigit c then (moreDigits isDigit rest).map fun (digits, rest) => (c :: digits, rest)
    else none
  | c :: rest =>
    if isDigit c then (moreDigits isDigit rest).map fun (digits, rest) => (c :: digits, rest)
    else if c == '_' then none
    else some ([], c :: rest)
  | [] => some ([], [])

/-- At least one digit, with underscores between digits. -/
def digits (isDigit : Char → Bool) : Reader Text
  | c :: rest =>
    if isDigit c then (moreDigits isDigit rest).map fun (digits, rest) => (c :: digits, rest)
    else none
  | [] => none

def isDigit (c : Char) : Bool := Text.isDigitIn 10 c

/-- The whole part of a decimal number, which begins with zero only if it is zero. -/
def wholeDigits : Reader Text
  | '0' :: rest => some (['0'], rest)
  | text => digits isDigit text

/-- A sign, negative or not; without one, nothing is read. -/
def sign : Text → Bool × Text
  | '-' :: rest => (true, rest)
  | '+' :: rest => (false, rest)
  | text => (false, text)

/-! ### Integers and floats -/

/-- An integer has to fit 64 bits with a sign. -/
def integerOf (negative : Bool) (magnitude : Nat) : Option Value :=
  let n : Int := if negative then -magnitude else magnitude
  if -9223372036854775808 ≤ n && n ≤ 9223372036854775807 then some (.integer n) else none

/-- An integer in another base, after its mark. -/
def basedInteger (base : Nat) (text : Text) : Option (Value × Text) := do
  let (written, rest) ← digits (Text.isDigitIn base) text
  let n ← integerOf false (Text.valueOf base written)
  some (n, rest)

/-- The digits after the point, if one follows. -/
def fraction : Reader Text
  | '.' :: rest => digits isDigit rest
  | text => some ([], text)

/-- The exponent, if one follows. -/
def exponent : Reader Int
  | c :: rest =>
    if c == 'e' || c == 'E' then do
      let (negative, rest) := sign rest
      let (written, rest) ← digits isDigit rest
      let n : Int := Text.valueOf 10 written
      some (if negative then -n else n, rest)
    else some (0, c :: rest)
  | [] => some (0, [])

def beginsFloat : Text → Bool
  | c :: _ => c == '.' || c == 'e' || c == 'E'
  | [] => false

/-- A number in base ten, after its sign. -/
def decimal (negative : Bool) (text : Text) : Option (Value × Text) := do
  let (whole, rest) ← wholeDigits text
  if beginsFloat rest then
    let (fractional, rest) ← fraction rest
    let (power, rest) ← exponent rest
    let x := Double.ofDecimal negative (Text.valueOf 10 (whole ++ fractional))
      (power - fractional.length)
    if x = .infinite false then none else some (.float x, rest)
  else
    let n ← integerOf negative (Text.valueOf 10 whole)
    some (n, rest)

def number : Reader Value
  | '0' :: 'x' :: rest => basedInteger 16 rest
  | '0' :: 'o' :: rest => basedInteger 8 rest
  | '0' :: 'b' :: rest => basedInteger 2 rest
  | text =>
    match sign text with
    | (negative, 'i' :: 'n' :: 'f' :: rest) => some (.float (.infinite negative), rest)
    | (_, 'n' :: 'a' :: 'n' :: rest) => some (.float .notANumber, rest)
    | (negative, rest) => decimal negative rest

/-! ### Dates and times -/

/-- A number of a given count of digits. -/
def fixedDigits (count : Nat) (text : Text) : Option (Nat × Text) :=
  let written := text.take count
  if written.length = count && written.all isDigit then
    some (Text.valueOf 10 written, text.drop count)
  else none

/-- A number of two digits between two bounds. -/
def twoDigits (least greatest : Nat) (text : Text) : Option (Nat × Text) :=
  (fixedDigits 2 text).filter fun (n, _) => least ≤ n && n ≤ greatest

/-- The rest of a text after a given character. -/
def after? (c : Char) : Text → Option Text
  | first :: rest => if first == c then some rest else none
  | [] => none

def daysInMonth (year month : Nat) : Nat :=
  if month == 2 then
    if year % 4 == 0 && (year % 100 != 0 || year % 400 == 0) then 29 else 28
  else if month == 4 || month == 6 || month == 9 || month == 11 then 30
  else 31

/-- The rest of a text after a date. -/
def afterDate? (text : Text) : Option Text := do
  let (year, rest) ← fixedDigits 4 text
  let (month, rest) ← twoDigits 1 12 (← after? '-' rest)
  let (_, rest) ← twoDigits 1 (daysInMonth year month) (← after? '-' rest)
  some rest

/-- The rest of a text after a time of day, with a fraction of a second if one follows. -/
def afterTime? (text : Text) : Option Text := do
  let (_, rest) ← twoDigits 0 23 text
  let (_, rest) ← twoDigits 0 59 (← after? ':' rest)
  let (_, rest) ← twoDigits 0 60 (← after? ':' rest)
  match rest with
  | '.' :: c :: more => if isDigit c then some (more.dropWhile isDigit) else some rest
  | _ => some rest

/-- The rest of a text after a distance from universal time, if one follows. -/
def afterOffset? : Text → Option Text
  | c :: rest =>
    if c == 'Z' || c == 'z' then some rest
    else if c == '+' || c == '-' then do
      let (_, rest) ← twoDigits 0 23 rest
      let (_, rest) ← twoDigits 0 59 (← after? ':' rest)
      some rest
    else some (c :: rest)
  | [] => some []

def beginsDate (text : Text) : Bool :=
  (text.take 4).length == 4 && (text.take 4).all isDigit && (text.drop 4).head? == some '-'

def beginsTime (text : Text) : Bool :=
  (text.take 2).length == 2 && (text.take 2).all isDigit && (text.drop 2).head? == some ':'

/-- The rest of a text after a date with the time of day that may follow it, or after a time of
day alone. -/
def afterDateTime? (text : Text) : Option Text :=
  if beginsDate text then
    match afterDate? text with
    | none => none
    | some [] => some []
    | some (mark :: rest) =>
      if (mark == 'T' || mark == 't' || mark == ' ') && beginsTime rest then
        (afterTime? rest).bind afterOffset?
      else some (mark :: rest)
  else afterTime? text

def dateTime (text : Text) : Option (Value × Text) :=
  (afterDateTime? text).map fun rest =>
    (.dateTime (text.take (text.length - rest.length)), rest)

/-- A number, a date or a time of day. -/
def numberOrDate (text : Text) : Option (Value × Text) :=
  if beginsDate text || beginsTime text then dateTime text else number text

end PascalLint.Toml
