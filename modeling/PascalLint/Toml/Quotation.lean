import PascalLint.Toml.Value

/-! Strings and keys in TOML.

Basic strings stand in double quotes and know escapes, literal strings in single quotes and know
none. Tripled quotes allow line feeds; a line feed right after the opening quotes is dropped, and
a carriage return before a line feed is never kept. Up to two quotes may stand before the closing
three. -/
namespace PascalLint.Toml
open Text (Reader prepend ofCodePoint?)

def isSpace (c : Char) : Bool := c == ' ' || c == '\t'

/-- The characters of comments and strings: the tab and all that is no control character. -/
def isPlain (c : Char) : Bool := c == '\t' || (0x20 ≤ c.toNat && c.toNat != 0x7F)

/-- The character that a letter after a backslash stands for. -/
def escaped? : Char → Option Char
  | 'b' => some '\x08'
  | 't' => some '\t'
  | 'n' => some '\n'
  | 'f' => some '\x0c'
  | 'r' => some '\r'
  | '"' => some '"'
  | '\\' => some '\\'
  | _ => none

/-- A basic string after its opening quote. -/
def basic : Reader Text
  | '"' :: rest => some ([], rest)
  | '\\' :: 'u' :: a :: b :: c :: d :: rest => prepend (ofCodePoint? [a, b, c, d]) (basic rest)
  | '\\' :: 'U' :: a :: b :: c :: d :: e :: f :: g :: h :: rest =>
    prepend (ofCodePoint? [a, b, c, d, e, f, g, h]) (basic rest)
  | '\\' :: c :: rest => prepend (escaped? c) (basic rest)
  | c :: rest => if isPlain c && c != '\\' then prepend (some c) (basic rest) else none
  | [] => none

/-- A literal string after its opening quote. -/
def literal : Reader Text
  | '\'' :: rest => some ([], rest)
  | c :: rest => if isPlain c then prepend (some c) (literal rest) else none
  | [] => none

/-- Whether a line ends here but for blanks. -/
def endsLine (text : Text) : Bool :=
  match text.dropWhile isSpace with
  | '\n' :: _ => true
  | '\r' :: '\n' :: _ => true
  | _ => false

/-- A basic string in tripled quotes after its opening quotes. After a backslash at the end of a
line, blanks and line feeds are skipped up to the next other character. -/
def basicLines (skipping : Bool) : Reader Text
  | '"' :: '"' :: '"' :: '"' :: '"' :: rest => some (['"', '"'], rest)
  | '"' :: '"' :: '"' :: '"' :: rest => some (['"'], rest)
  | '"' :: '"' :: '"' :: rest => some ([], rest)
  | '\r' :: '\n' :: rest =>
    if skipping then basicLines true rest else prepend (some '\n') (basicLines false rest)
  | '\n' :: rest =>
    if skipping then basicLines true rest else prepend (some '\n') (basicLines false rest)
  | '\\' :: 'u' :: a :: b :: c :: d :: rest =>
    prepend (ofCodePoint? [a, b, c, d]) (basicLines false rest)
  | '\\' :: 'U' :: a :: b :: c :: d :: e :: f :: g :: h :: rest =>
    prepend (ofCodePoint? [a, b, c, d, e, f, g, h]) (basicLines false rest)
  | '\\' :: rest =>
    if endsLine rest then basicLines true rest
    else match rest with
      | c :: rest => prepend (escaped? c) (basicLines false rest)
      | [] => none
  | c :: rest =>
    if skipping && isSpace c then basicLines true rest
    else if isPlain c then prepend (some c) (basicLines false rest)
    else none
  | [] => none

/-- A literal string in tripled quotes after its opening quotes. -/
def literalLines : Reader Text
  | '\'' :: '\'' :: '\'' :: '\'' :: '\'' :: rest => some (['\'', '\''], rest)
  | '\'' :: '\'' :: '\'' :: '\'' :: rest => some (['\''], rest)
  | '\'' :: '\'' :: '\'' :: rest => some ([], rest)
  | '\r' :: '\n' :: rest => prepend (some '\n') (literalLines rest)
  | '\n' :: rest => prepend (some '\n') (literalLines rest)
  | c :: rest => if isPlain c then prepend (some c) (literalLines rest) else none
  | [] => none

/-- A text without a line feed at its start. -/
def dropLineFeed : Text → Text
  | '\n' :: rest => rest
  | '\r' :: '\n' :: rest => rest
  | text => text

/-- A string of any of the four kinds. -/
def string : Reader Text
  | '"' :: '"' :: '"' :: rest => basicLines false (dropLineFeed rest)
  | '"' :: rest => basic rest
  | '\'' :: '\'' :: '\'' :: rest => literalLines (dropLineFeed rest)
  | '\'' :: rest => literal rest
  | _ => none

/-! ### Keys -/

/-- The characters of a key without quotes. -/
def isBare (c : Char) : Bool := c.isAlphanum || c == '_' || c == '-'

/-- A key without dots: bare, or a string on one line. -/
def simpleKey : Reader Text
  | '"' :: rest => basic rest
  | '\'' :: rest => literal rest
  | text =>
    let key := text.takeWhile isBare
    if key.isEmpty then none else some (key, text.dropWhile isBare)

/-- Something with blanks on either side of it. -/
def spaced (read : Reader α) (text : Text) : Option (α × Text) :=
  (read (text.dropWhile isSpace)).map fun (a, rest) => (a, rest.dropWhile isSpace)

/-- One or more things with a separator between them. Of a text, fewer than `limit` are read. -/
def separated (read : Reader α) (separator : Char) : (limit : Nat) → Text → Option (List α × Text)
  | 0, _ => none
  | limit + 1, text => do
    let (first, rest) ← read text
    match rest with
    | [] => some ([first], [])
    | c :: more =>
      if c == separator then
        let (others, rest) ← separated read separator limit more
        some (first :: others, rest)
      else some ([first], c :: more)

/-- How deep arrays, inline tables and dotted keys may go. -/
def depthLimit : Nat := 80

/-- A key with dots between its parts, and blanks around each. -/
def key (text : Text) : Option (List Text × Text) :=
  (separated (spaced simpleKey) '.' (text.length + 1) text).filter fun (parts, _) =>
    parts.length < depthLimit

end PascalLint.Toml
