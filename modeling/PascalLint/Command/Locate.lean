import PascalLint.Command.Basic
import PascalLint.Host.Basic
import PascalLint.Log.Basic

/-! Finding the compiler.

The configured path comes first, then the place where the installer puts the compiler, and last
the folders of the search path in order. The first two only have to exist; on the search path it
has to be a file that may be run. Without a search path there are no folders, while one that is empty
names the current folder. -/
namespace PascalLint.Command

/-- The name of the compiler on the search path. -/
def programName : Text := "epcomp".toList

/-- Why the search path leads to no program. -/
inductive SearchFault where
  | noProgram
  | noSearchPath
deriving DecidableEq

def SearchFault.message : SearchFault → Text
  | .noProgram => "cannot find binary path".toList
  | .noSearchPath => "no path to search and provided name is not an absolute path".toList

/-- The compiler was found nowhere. -/
structure NotFound where
  configured : Option Text
  fault : SearchFault
deriving DecidableEq

def NotFound.message (e : NotFound) : Text :=
  let configured := match e.configured with
    | none => []
    | some path => path ++ ", ".toList
  "epcomp not found (checked ".toList ++ configured ++ defaultProgram ++ ", and PATH): ".toList ++
    e.fault.message

/-- The note that a configured path does not exist. -/
def missingEntry (path : Text) : Log.Entry :=
  ⟨.debug, .command, "Configured executable ".toList ++ path ++ " does not exist".toList⟩

/-- A name in a folder. The folder without a name is the current one. -/
def inFolder (folder name : Text) : Text :=
  match folder.getLast? with
  | none => name
  | some '/' => folder ++ name
  | some _ => folder ++ '/' :: name

/-- The paths that the compiler may have on the search path, in order. -/
def searched (searchPath : Text) : List Text :=
  (Text.pieces (· == ':') searchPath).map (inFolder · programName)

/-- The first program among some paths. -/
def firstProgram [Monad m] (host : Host m) : List Text → m (Option Text)
  | [] => return none
  | path :: rest => do
    if ← host.isProgram path then return some path
    firstProgram host rest

/-- The compiler on the search path. -/
def search [Monad m] (host : Host m) : m (Except SearchFault Text) := do
  match ← host.searchPath with
  | none => return .error .noSearchPath
  | some searchPath =>
    match ← firstProgram host (searched searchPath) with
    | some path => return .ok path
    | none => return .error .noProgram

/-- The compiler after the configured path. -/
def locateInstalled [Monad m] (host : Host m) (configured : Option Text) :
    m (Except NotFound Text) := do
  if ← host.isPresent defaultProgram then return .ok defaultProgram
  return (← search host).mapError (.mk configured)

/-- The compiler's path, and what was noted in the log. -/
def locate [Monad m] (host : Host m) (configured : Option Text) :
    m (Except NotFound Text × List Log.Entry) := do
  match configured with
  | none => return (← locateInstalled host none, [])
  | some path =>
    if ← host.isPresent path then return (.ok path, [])
    return (← locateInstalled host (some path), [missingEntry path])

end PascalLint.Command
