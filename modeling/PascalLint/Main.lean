import PascalLint.CommandLine.Parse
import PascalLint.Run

/-! The program: the linter on the machine it runs on. -/
namespace PascalLint

/-- Why something cannot be read, from the fault of the machine, whose code for reading a folder is
21 with either sign. -/
def ReadFault.ofIO : IO.Error → ReadFault
  | .noFileOrDirectory .. => .missing
  | .inappropriateType _ code _ => if code = 21 || code = -21 then .isFolder else .notFolder
  | fault => .other (toString fault).toList

/-- The bytes that are read, or why they cannot be. -/
def bytesOf (reading : IO ByteArray) : IO (Except ReadFault (List UInt8)) := do
  match ← reading.toBaseIO with
  | .ok bytes => return .ok bytes.data.toList
  | .error fault => return .error (.ofIO fault)

/-- Whether a file or folder can be opened. One that is there but may not be read passes for missing. -/
def canOpen (path : String) : IO Bool := do
  match ← (IO.FS.Handle.mk path .read).toBaseIO with
  | .ok _ => return true
  | .error _ => return false

/-- Whether a file can be read from, which a folder cannot. The permission to run it cannot be asked
for, so a file that may only be read passes for a program. -/
def canRead (path : String) : IO Bool := do
  match ← (do let handle ← IO.FS.Handle.mk path .read; handle.read 1).toBaseIO with
  | .ok _ => return true
  | .error _ => return false

partial def readAll (stream : IO.FS.Stream) (sofar : ByteArray) : IO ByteArray := do
  let more ← stream.read 65536
  if more.isEmpty then return sofar else readAll stream (sofar ++ more)

/-- The machine the program runs on. How wide its terminal is cannot be asked for either, so tables are
arranged as for a file. -/
def Host.here : Host IO where
  read path := bytesOf (IO.FS.readBinFile (String.ofList path))
  isPresent path := canOpen (String.ofList path)
  isProgram path := canRead (String.ofList path)
  searchPath := return (← IO.getEnv "PATH").map String.toList
  input := bytesOf do readAll (← IO.getStdin) ByteArray.empty
  arranger := return Report.Table.unwrapped

/-- The filter that the environment asks for; without one, nothing is written. -/
def logFilter : IO Log.Filter := do
  match ← IO.getEnv "RUST_LOG" with
  | some written => return Log.Filter.parse written.toList
  | none => return Log.Filter.parse "off".toList

end PascalLint

open PascalLint in
def main (arguments : List String) : IO UInt32 := do
  let output ← IO.getStdout
  let errors ← IO.getStderr
  match CommandLine.parse (arguments.map String.toList) with
  | .error .help =>
    output.putStr (String.ofList helpText)
    return (Refusal.exitCode .help).toUInt32
  | .error refusal =>
    errors.putStr (String.ofList ("error: ".toList ++ refusal.message ++ ['\n']))
    return refusal.exitCode.toUInt32
  | .ok invocation =>
    let outcome ← run Host.here invocation
    output.putStr (String.ofList outcome.output)
    errors.putStr (String.ofList (outcome.errorOutput (← logFilter)))
    return outcome.exitCode.toUInt32
