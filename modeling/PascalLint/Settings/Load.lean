import PascalLint.Host.Basic
import PascalLint.Log.Basic
import PascalLint.Settings.Document
import PascalLint.Text.Utf8

/-! Loading a settings file. -/
namespace PascalLint

/-- Why a settings file cannot be loaded. -/
inductive LoadFault where
  | unreadable (path : Text) (fault : ReadFault)
  /-- The file is no text. -/
  | notText (path : Text)
  | refused (path : Text) (error : SettingsError)

/-- What is said about settings that are none. -/
def SettingsError.context : Text := "Invalid linter settings".toList

namespace LoadFault

/-- The causes, the outermost first. -/
def chain : LoadFault → List Text
  | .unreadable path fault => [reading path, fault.message]
  | .notText path => [reading path, "stream did not contain valid UTF-8".toList]
  | .refused path error =>
    ["Failed to parse settings file ".toList ++ path, SettingsError.context, error.message]
where
  reading (path : Text) : Text := "Failed to read settings file ".toList ++ path

end LoadFault

namespace Settings

/-- The note that settings were loaded. -/
def loadedEntry (path : Text) (s : Settings) : Log.Entry :=
  ⟨.debug, .settings, "Loaded settings from ".toList ++ path ++ ": ".toList ++ s.describe⟩

/-- The settings that the bytes of a file stand for. -/
def ofBytes (path : Text) (bytes : List UInt8) : Except LoadFault Settings :=
  match Utf8.decode? bytes with
  | none => .error (.notText path)
  | some text => (ofText text).mapError (.refused path)

/-- The settings in a file. -/
def load [Monad m] (host : Host m) (path : Text) : m (Except LoadFault Settings) := do
  match ← host.read path with
  | .error fault => return .error (.unreadable path fault)
  | .ok bytes => return ofBytes path bytes

end Settings

end PascalLint
