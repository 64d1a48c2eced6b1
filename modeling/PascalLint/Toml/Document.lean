import PascalLint.Toml.Number
import PascalLint.Toml.Quotation
import PascalLint.Toml.Tree

/-! Reading TOML documents.

A document is a list of statements, each on a line of its own: the header of a table, the header
of a table in an array, or a key with a value. The statements are read first and then carried out
in order on an empty table. -/
namespace PascalLint.Toml
open Text (Reader)

/-! ### Blanks, comments and line ends -/

/-- The rest of a text after blanks, line feeds and comments. -/
def afterGaps? (inComment : Bool) : Text → Option Text
  | '\n' :: rest => afterGaps? false rest
  | '\r' :: '\n' :: rest => afterGaps? false rest
  | c :: rest =>
    if inComment then if isPlain c then afterGaps? true rest else none
    else if c == '#' then afterGaps? true rest
    else if isSpace c then afterGaps? false rest
    else some (c :: rest)
  | [] => some []

/-- The rest of a text after the blanks and the comment that may end a line, and the line feed
unless the text ends there. -/
def afterLineEnd? (inComment : Bool) : Text → Option Text
  | '\n' :: rest => some rest
  | '\r' :: '\n' :: rest => some rest
  | c :: rest =>
    if inComment then if isPlain c then afterLineEnd? true rest else none
    else if c == '#' then afterLineEnd? true rest
    else if isSpace c then afterLineEnd? false rest
    else none
  | [] => some []

/-! ### Values -/

/-- The items of an array after its opening bracket. A comma may follow the last. Of a text, fewer
than `limit` are read. -/
def items (read : Reader Value) : (limit : Nat) → Text → Option (List Value × Text)
  | 0, _ => none
  | limit + 1, text => do
    match ← afterGaps? false text with
    | ']' :: rest => some ([], rest)
    | text =>
      let (first, rest) ← read text
      match ← afterGaps? false rest with
      | ',' :: rest =>
        let (others, rest) ← items read limit rest
        some (first :: others, rest)
      | ']' :: rest => some ([first], rest)
      | _ => none

def array (read : Reader Value) (text : Text) : Option (Value × Text) :=
  (items read (text.length + 1) text).map fun (values, rest) => (.array values, rest)

/-- A key, an equals sign and a value. -/
def assignment (read : Reader Value) (text : Text) : Option ((List Text × Value) × Text) := do
  let (path, rest) ← key text
  let rest ← after? '=' rest
  let (v, rest) ← read (rest.dropWhile isSpace)
  some ((path, v), rest)

/-- The entries after a key, which may have dots, has got its value. -/
def assignPath (origin : Origin) (entries : Entries) (path : List Text) (v : Value) :
    Option Entries := do
  let key ← path.getLast?
  entries.assign path.dropLast key v origin

/-- An inline table after its opening brace. -/
def inlineTable (read : Reader Value) (text : Text) : Option (Value × Text) :=
  match text.dropWhile isSpace with
  | '\x7d' :: rest => some (.table [], rest)
  | text => do
    let (assignments, rest) ←
      separated (spaced (assignment read)) ',' (text.length + 1) text
    let rest ← after? '\x7d' rest
    let entries ← assignments.foldlM (fun entries (path, v) => assignPath .header entries path v) []
    some (.table (entriesToTable entries), rest)

/-- A value in which arrays and inline tables go at most `depth` deep. -/
def value : (depth : Nat) → Text → Option (Value × Text)
  | _, 't' :: 'r' :: 'u' :: 'e' :: rest => some (.boolean true, rest)
  | _, 'f' :: 'a' :: 'l' :: 's' :: 'e' :: rest => some (.boolean false, rest)
  | depth, '[' :: rest =>
    match depth with
    | 0 => none
    | depth + 1 => array (value depth) rest
  | depth, '\x7b' :: rest =>
    match depth with
    | 0 => none
    | depth + 1 => inlineTable (value depth) rest
  | _, c :: rest =>
    if c == '"' || c == '\'' then
      (string (c :: rest)).map fun (s, rest) => (.string s, rest)
    else numberOrDate (c :: rest)
  | _, [] => none

/-! ### Statements -/

inductive Statement where
  /-- The header of a table. -/
  | table (path : List Text)
  /-- The header of one more table in an array. -/
  | item (path : List Text)
  | assign (path : List Text) (v : Value)

/-- A statement without what ends its line. -/
def statement : Reader Statement
  | '[' :: '[' :: rest => do
    let (path, rest) ← key rest
    let rest ← (after? ']' rest).bind (after? ']')
    some (.item path, rest)
  | '[' :: rest => do
    let (path, rest) ← key rest
    let rest ← after? ']' rest
    some (.table path, rest)
  | text => do
    let ((path, v), rest) ← assignment (value (depthLimit - 1)) text
    some (.assign path v, rest)

/-- The statements of a document. Of a text, fewer than `limit` are read. -/
def statements : (limit : Nat) → Text → Option (List Statement)
  | 0, _ => none
  | limit + 1, text => do
    match ← afterGaps? false text with
    | [] => some []
    | text =>
      let (first, rest) ← statement text
      let others ← statements limit (← afterLineEnd? false rest)
      some (first :: others)

/-! ### Carrying statements out -/

/-- A document while it is read: its entries and the path of the table that keys go to. -/
structure Draft where
  entries : Entries
  current : List Text

/-- The draft after a statement. -/
def Draft.carryOut (d : Draft) : Statement → Option Draft
  | .table path => do
    let key ← path.getLast?
    let entries ← d.entries.change false (fun _ => Entries.openTable key) path.dropLast .header
    some ⟨entries, path⟩
  | .item path => do
    let key ← path.getLast?
    let entries ← d.entries.change false (fun _ => Entries.openItem key) path.dropLast .header
    some ⟨entries, path⟩
  | .assign path v => do
    let entries ← d.entries.change false
      (fun origin entries => assignPath origin entries path v) d.current .header
    some ⟨entries, d.current⟩

/-- The text without a byte order mark at its start. -/
def dropByteOrderMark : Text → Text
  | '\uFEFF' :: rest => rest
  | text => text

/-- The document that a text stands for, if it is one. -/
def parse? (text : Text) : Option Table := do
  let text := dropByteOrderMark text
  let all ← statements (text.length + 1) text
  let draft ← all.foldlM Draft.carryOut ⟨[], []⟩
  some (entriesToTable draft.entries)

end PascalLint.Toml
