import PascalLint.CommandLine.Basic

/-! Reading a command line.

Words are read from left to right. A long name may be followed by an equals sign and its value in
the same word, a short name by its value with or without an equals sign; short flags may stand
together in one word. Otherwise the next word is the value, unless it begins with a dash and the
field takes no dashes. After two dashes every word is an input.

A value in a word of its own is taken up only when the next known name is met, or the next input,
or the end. So an unknown name right after a wrong value is what is reported. -/
namespace PascalLint

/-- Why reading a command line stops. -/
inductive Refusal where
  | unknown (word : Text)
  | missingValue (field : Field)
  | wrongValue (field : Field) (value : Text)
  /-- Something that can be given once is given again. -/
  | again (switch : Switch)
  | valueForFlag (flag : Flag)
  /-- The help text is asked for. -/
  | help
deriving DecidableEq

namespace Refusal

/-- The exit code when reading stops. Asking for help is no fault. -/
def exitCode : Refusal → Nat
  | help => 0
  | _ => 2

/-- What is wrong, in words. -/
def message : Refusal → Text
  | unknown word => "unexpected argument '".toList ++ word ++ "' found".toList
  | missingValue field => "a value is required for ".toList ++ fieldName field
  | wrongValue field value =>
    "invalid value '".toList ++ value ++ "' for ".toList ++ fieldName field
  | again (.flag flag) => flagName flag ++ " cannot be used multiple times".toList
  | again (.field field) => fieldName field ++ " cannot be used multiple times".toList
  | valueForFlag flag => flagName flag ++ " takes no value".toList
  | help => helpText
where
  nameOf (s : Switch) : Text :=
    match switches.find? (·.switch = s) with
    | some entry => "--".toList ++ entry.long
    | none => "[INPUT]".toList
  fieldName (f : Field) : Text := nameOf (.field f)
  flagName (f : Flag) : Text := nameOf (.flag f)

end Refusal

namespace CommandLine

/-- A field whose value is not taken up yet; the value may still be to come. -/
structure Pending where
  field : Field
  value : Option Text
deriving DecidableEq

/-- A command line half read. -/
structure Reading where
  said : Invocation
  /-- What can be given once and has been. -/
  given : List Switch
  pending : Option Pending
  /-- Whether an input has been met. -/
  hasInput : Bool
  /-- Whether two dashes have been met. -/
  onlyInputs : Bool
deriving DecidableEq

namespace Reading

def start : Reading := ⟨.default, [], none, false, false⟩

/-- Whether the value of a field is still to come. -/
def awaits (r : Reading) : Option Field :=
  match r.pending with
  | some ⟨field, none⟩ => some field
  | _ => none

end Reading

/-- A path has to have a character. -/
def path? (field : Field) (value : Text) : Except Refusal Text :=
  if value.isEmpty then .error (.wrongValue field value) else .ok value

/-- The invocation with the value of a field. -/
def setField (i : Invocation) (field : Field) (value : Text) : Except Refusal Invocation :=
  match field with
  | .ignore => .ok { i with ignore := i.ignore ++ [value] }
  | .option => .ok { i with options := i.options ++ [value] }
  | .file => .ok { i with file := some value }
  | .config => (path? field value).map fun path => { i with config := some path }
  | .printCommand => (path? field value).map fun path => { i with printCommand := some path }
  | .input => (path? field value).map fun path => { i with input := some path }
  | .format => match ReportFormat.ofName? value with
    | some format => .ok { i with format }
    | none => .error (.wrongValue field value)

/-- Takes up a field. A missing value is found first, then a second giving, then a wrong value. -/
def takeUp (r : Reading) (field : Field) (value : Option Text) : Except Refusal Reading :=
  match value with
  | none => .error (.missingValue field)
  | some value => do
    if r.given.contains (.field field) then .error (.again (.field field))
    let said ← setField r.said field value
    let given := if field.isRepeatable then r.given else .field field :: r.given
    return { r with said, given }

/-- Takes up the pending field. -/
def settle (r : Reading) : Except Refusal Reading :=
  match r.pending with
  | none => .ok r
  | some pending => takeUp { r with pending := none } pending.field pending.value

/-- A flag. -/
def raise (r : Reading) (flag : Flag) : Except Refusal Reading := do
  let r ← settle r
  if r.given.contains (.flag flag) then .error (.again (.flag flag))
  let given := .flag flag :: r.given
  match flag with
  | .help => .error .help
  | .version => return { r with said := { r.said with version := true }, given }
  | .noColor => return { r with said := { r.said with noColor := true }, given }

/-- A field with its value in the same word. -/
def attach (r : Reading) (field : Field) (value : Text) : Except Refusal Reading := do
  takeUp (← settle r) field (some value)

/-- A field whose value is to come. -/
def await (r : Reading) (field : Field) : Except Refusal Reading := do
  return { (← settle r) with pending := some ⟨field, none⟩ }

/-- A word after two dashes. -/
def long (r : Reading) (word : Text) : Except Refusal Reading :=
  let name := word.takeWhile (· != '=')
  let value? := match word.dropWhile (· != '=') with
    | [] => none
    | _ :: value => some value
  match Switch.ofLong? name, value? with
  | none, _ => .error (.unknown ('-' :: '-' :: word))
  | some (.flag flag), none => raise r flag
  | some (.flag flag), some _ => .error (.valueForFlag flag)
  | some (.field field), none => await r field
  | some (.field field), some value => attach r field value

/-- A word after one dash: flags, and at the end a field, perhaps with its value. -/
def short (r : Reading) : Text → Except Refusal Reading
  | [] => .ok r
  | name :: rest =>
    match Switch.ofShort? name with
    | none => .error (.unknown ['-', name])
    | some (.flag flag) => do short (← raise r flag) rest
    | some (.field field) =>
      match rest with
      | [] => await r field
      | '=' :: value => attach r field value
      | value => attach r field value

/-- A word that is an input. -/
def input (r : Reading) (word : Text) : Except Refusal Reading :=
  if r.hasInput then .error (.unknown word)
  else do return { (← settle r) with pending := some ⟨.input, some word⟩, hasInput := true }

/-- A word that is the value to come, or else an input. -/
def bare (r : Reading) (word : Text) : Except Refusal Reading :=
  match r.awaits with
  | some field => .ok { r with pending := some ⟨field, some word⟩ }
  | none => input r word

/-- The next word. -/
def read (r : Reading) (word : Text) : Except Refusal Reading :=
  if r.onlyInputs then input r word
  else if r.awaits.any Field.takesDashes then bare r word
  else match word with
    | ['-', '-'] => .ok { r with onlyInputs := true }
    | '-' :: '-' :: rest => long r rest
    | '-' :: c :: rest => short r (c :: rest)
    | _ => bare r word

/-- What a command line says. -/
def parse (words : List Text) : Except Refusal Invocation := do
  let r ← words.foldlM read Reading.start
  return (← settle r).said

end CommandLine

end PascalLint
