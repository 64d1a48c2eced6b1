import PascalLint.Number.Shortest
import PascalLint.Settings.Basic
import PascalLint.Toml.Document

/-! Settings from a TOML document.

Each key of the document sets a field; a field without a key keeps its default. Keys are taken in
the document's order, and the first that is unknown or whose value has the wrong shape is
reported. -/
namespace PascalLint

/-- What is wrong with a document that is not one of settings. -/
inductive SettingsFault where
  | unknownKey (key : Text)
  /-- The codes to mute are neither a string nor a list of strings. -/
  | ignoreShape
  | executableShape (found : Toml.Value)
  | optionsShape (found : Toml.Value)
  /-- An option is no string; the first such is given. -/
  | optionShape (found : Toml.Value)

namespace SettingsFault

/-- A value as it is named in a report. A date is named by the table it is handed over in. -/
def found : Toml.Value → Text
  | .string s => "string ".toList ++ Text.quoted s
  | .integer n => "integer `".toList ++ Text.ofInt n ++ ['`']
  | .float x => "floating point `".toList ++ x.text ++ ['`']
  | .boolean b => "boolean `".toList ++ (if b then "true".toList else "false".toList) ++ ['`']
  | .dateTime _ => "map".toList
  | .array _ => "sequence".toList
  | .table _ => "map".toList

def mismatch (value : Toml.Value) (expected : Text) : Text :=
  "invalid type: ".toList ++ found value ++ ", expected ".toList ++ expected

def message : SettingsFault → Text
  | .unknownKey key => "unknown field `".toList ++ key ++
      "`, expected one of `executable`, `ignore`, `options`".toList
  | .ignoreShape => "data did not match any variant of untagged enum IgnoreSetting".toList
  | .executableShape value => mismatch value "path string".toList
  | .optionsShape value => mismatch value "a sequence".toList
  | .optionShape value => mismatch value "a string".toList

end SettingsFault

/-- Why a text is no settings file. -/
inductive SettingsError where
  /-- The text is no TOML document. -/
  | malformed
  /-- The document is not one of settings. -/
  | unfit (fault : SettingsFault)

/-- The report of the document's reader. -/
def SettingsError.message : SettingsError → Text
  | .malformed => "TOML parse error: not a valid document".toList
  | .unfit fault => "TOML parse error: ".toList ++ fault.message

namespace Settings

/-- The texts of values that are all strings, or the first value that is none. -/
def strings : List Toml.Value → Except Toml.Value (List Text)
  | [] => .ok []
  | .string s :: rest => (strings rest).map (s :: ·)
  | other :: _ => .error other

/-- The settings after one key. -/
def setKey (s : Settings) (key : Text) (value : Toml.Value) : Except SettingsFault Settings :=
  if key = "executable".toList then
    match value with
    | .string path => .ok { s with executable := some path }
    | other => .error (.executableShape other)
  else if key = "ignore".toList then
    match value with
    | .string codes => .ok { s with ignore := .text codes }
    | .array items => match strings items with
      | .ok codes => .ok { s with ignore := .list codes }
      | .error _ => .error .ignoreShape
    | _ => .error .ignoreShape
  else if key = "options".toList then
    match value with
    | .array items => match strings items with
      | .ok options => .ok { s with options }
      | .error other => .error (.optionShape other)
    | other => .error (.optionsShape other)
  else .error (.unknownKey key)

/-- The settings of a document. -/
def ofTable (table : Toml.Table) : Except SettingsFault Settings :=
  table.foldlM (fun s (key, value) => s.setKey key value) default

/-- The settings that a text stands for. -/
def ofText (text : Text) : Except SettingsError Settings :=
  match Toml.parse? text with
  | none => .error .malformed
  | some table => (ofTable table).mapError .unfit

end Settings

end PascalLint
