import PascalLint.IgnoreSet
import PascalLint.Text.Quoted

/-! The user's settings.

The codes to mute are written either as a list of codes or as one text of codes separated by
commas or blanks, and the settings remember which. The command line adds codes and options to
those of a settings file. -/
namespace PascalLint

/-- The codes to mute, as they are written. -/
inductive IgnoreSetting where
  | list (codes : List Text)
  | text (codes : Text)
deriving DecidableEq

/-- The set of codes to mute. Blanks around the entries of a list do not count. -/
def IgnoreSetting.toSet : IgnoreSetting → IgnoreSet
  | .list codes => IgnoreSet.ofList (codes.map Text.trim)
  | .text codes => IgnoreSet.parse codes

structure Settings where
  /-- The compiler's path. -/
  executable : Option Text
  ignore : IgnoreSetting
  /-- Options for the compiler. -/
  options : List Text
deriving DecidableEq

namespace Settings

def default : Settings := ⟨none, .list [], []⟩

def ignoreSet (s : Settings) : IgnoreSet := s.ignore.toSet

/-- The settings with more codes to mute and more options. Every value to mute may hold several
codes. Without such values the codes stay as they are written. -/
def addAll (s : Settings) (ignore options : List Text) : Settings where
  executable := s.executable
  ignore :=
    if ignore.isEmpty then s.ignore
    else .list (ignore.foldl (fun set value => set.insertAll (IgnoreSet.parse value).codes)
      s.ignoreSet).codes
  options := s.options ++ options

/-- The settings as they are shown in the log. -/
def describe (s : Settings) : Text :=
  let executable := match s.executable with
    | none => "None".toList
    | some path => "Some(".toList ++ Text.quoted path ++ [')']
  let ignore := match s.ignore with
    | .list codes => "List(".toList ++ Text.quotedList codes ++ [')']
    | .text codes => "Text(".toList ++ Text.quoted codes ++ [')']
  "LinterSettings \x7b executable: ".toList ++ executable ++ ", ignore: ".toList ++ ignore ++
    ", options: ".toList ++ Text.quotedList s.options ++ " \x7d".toList

end Settings

end PascalLint
