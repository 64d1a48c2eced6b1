import PascalLint.Host.Basic

/-! A machine whose files are a value.

Paths are followed name by name from the working folder. An empty name and a dot stay where they
are, two dots go up; all of them, like any other name, need a folder to start from. Nothing
outside the working folder exists. -/
namespace PascalLint

inductive FileTree where
  | file (bytes : List UInt8) (mayRun : Bool)
  | folder (entries : List (Text × FileTree))

namespace FileTree

def child? (name : Text) (entries : List (Text × FileTree)) : Option FileTree :=
  (entries.find? (·.1 = name)).map (·.2)

/-- The entries with another tree under a name, or with one more. -/
def put (name : Text) (tree : FileTree) (entries : List (Text × FileTree)) :
    List (Text × FileTree) :=
  if (child? name entries).isSome then
    entries.map fun entry => if entry.1 = name then (name, tree) else entry
  else entries ++ [(name, tree)]

/-- The entries of a folder with a tree at a path below it. Folders that the path lacks are made
on the way. -/
def add (tree : FileTree) : List Text → List (Text × FileTree) → List (Text × FileTree)
  | [], entries => entries
  | [name], entries => put name tree entries
  | name :: path, entries =>
    let inner := match child? name entries with
      | some (folder inner) => inner
      | _ => []
    put name (folder (add tree path inner)) entries

/-- What stands at the end of a list of names, with the folders above the place where it
starts. -/
def follow : List FileTree → FileTree → List Text → Except ReadFault FileTree
  | _, here, [] => .ok here
  | _, file .., _ :: _ => .error .notFolder
  | above, folder entries, name :: rest =>
    if name = [] || name = ['.'] then follow above (folder entries) rest
    else if name = ['.', '.'] then
      match above with
      | [] => .error .missing
      | up :: above => follow above up rest
    else match child? name entries with
      | none => .error .missing
      | some inner => follow (folder entries :: above) inner rest

/-- What stands at a path. A path may begin with the name of the working folder. -/
def at? (root : FileTree) (home path : Text) : Except ReadFault FileTree :=
  let names := Text.pieces (· == '/') path
  if path = [] then .error .missing
  else if names.head? = some home && names.length > 1 then follow [] root names.tail
  else if path.head? = some '/' then .error .missing
  else follow [] root names

end FileTree

/-- The machine with a tree of files in its working folder. Its standard input can be read, and its
output goes to no terminal. -/
def Host.ofTree (root : FileTree) (home searchPath : Text) (input : List UInt8) : Host Id where
  read path := match root.at? home path with
    | .ok (.file bytes _) => .ok bytes
    | .ok (.folder _) => .error .isFolder
    | .error fault => .error fault
  isPresent path := (root.at? home path).isOk
  isProgram path := match root.at? home path with
    | .ok (.file _ mayRun) => mayRun
    | _ => false
  searchPath := some searchPath
  input := .ok input
  arranger := Report.Table.unwrapped

end PascalLint
