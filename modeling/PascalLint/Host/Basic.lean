import PascalLint.Report.Table

/-! What the program asks of the machine it runs on. -/
namespace PascalLint

/-- Why a file or standard input cannot be read. -/
inductive ReadFault where
  | missing
  | isFolder
  /-- A name on the way to the file is not that of a folder. -/
  | notFolder
  /-- Any other fault, in the machine's words. -/
  | other (message : Text)
deriving DecidableEq

def ReadFault.message : ReadFault → Text
  | .missing => "No such file or directory (os error 2)".toList
  | .isFolder => "Is a directory (os error 21)".toList
  | .notFolder => "Not a directory (os error 20)".toList
  | .other message => message

/-- A machine, with its answers in a monad: the real one answers by input and output, one that is
a value answers at once. -/
structure Host (m : Type → Type) where
  /-- The bytes of a file. -/
  read : Text → m (Except ReadFault (List UInt8))
  /-- Whether a path is that of a file or a folder. -/
  isPresent : Text → m Bool
  /-- Whether a path is that of a file that may be run. -/
  isProgram : Text → m Bool
  /-- The search path for programs, if there is one. -/
  searchPath : m (Option Text)
  /-- The bytes of standard input. -/
  input : m (Except ReadFault (List UInt8))
  /-- How tables are arranged for what the output goes to, which may be a narrow terminal. -/
  arranger : m Report.Table.Arranger

end PascalLint
