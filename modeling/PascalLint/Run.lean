import PascalLint.Command.Locate
import PascalLint.CommandLine.Basic
import PascalLint.Extraction.Basic
import PascalLint.Log.Filter
import PascalLint.Report.Json
import PascalLint.Report.Line
import PascalLint.Report.Table
import PascalLint.Settings.Load

/-! One run of the program.

A run loads the settings, and then either prints the compiler's command line for a source file or
reads compiler output and reports its diagnostics. It ends with code 2 if a file cannot be read or
used, with code 1 if an error is reported, and with code 0 otherwise. -/
namespace PascalLint

/-- Why a run fails. -/
inductive Failure where
  | settings (fault : LoadFault)
  /-- The file with the compiler's output cannot be read. -/
  | input (path : Text) (fault : ReadFault)
  | standardInput (fault : ReadFault)

namespace Failure

/-- The causes, the outermost first. -/
def chain : Failure → List Text
  | settings fault => fault.chain
  | input path fault => ["Failed to read compiler output ".toList ++ path, fault.message]
  | standardInput fault => ["Failed to read compiler output from stdin".toList, fault.message]

/-- The failure on one line. -/
def message (f : Failure) : Text := Text.join ": ".toList f.chain

/-- The causes under the outermost message, numbered if there is more than one. -/
def causes : List Text → List Text
  | [] => []
  | [cause] => [[], "Caused by:".toList, "    ".toList ++ cause]
  | all => [] :: "Caused by:".toList ::
      all.zipIdx.map fun (cause, i) => "    ".toList ++ Text.ofNat i ++ ": ".toList ++ cause

/-- The failure as it is shown in the log. -/
def describe (f : Failure) : Text :=
  match f.chain with
  | [] => []
  | outermost :: rest => Text.join ['\n'] (outermost :: causes rest)

end Failure

/-- How a run ends. -/
structure Outcome where
  exitCode : Nat
  output : Text
  log : List Log.Entry
  failure : Option Failure

namespace Outcome

/-- The exit code of a run that reports an error. -/
def errorsFound : Nat := 1

/-- The exit code of a run that fails. -/
def failed : Nat := 2

/-- The end of a run that fails; the failure is noted in the log. -/
def ofFailure (f : Failure) (log : List Log.Entry) : Outcome :=
  ⟨failed, [], log ++ [⟨.error, .program, f.describe⟩], some f⟩

/-- What is written to standard error: the entries of the log that a filter admits, and the
failure. -/
def errorOutput (o : Outcome) (filter : Log.Filter) : Text :=
  filter.render o.log ++ match o.failure with
    | none => []
    | some f => "error: ".toList ++ f.message ++ ['\n']

end Outcome

/-! ### The version -/

def featureFlags : List Text := ["uses_serde".toList]

/-- The program with its version, and the features it was built with as a JSON list. -/
def versionText : Text :=
  let flags := featureFlags.map fun flag => '"' :: flag ++ ['"']
  Text.unlines ["epcomp-lint 0.1.0".toList, '[' :: Text.join ", ".toList flags ++ [']']]

/-! ### The two kinds of run -/

/-- The settings file's settings with those of the command line, and what was noted in the log. -/
def settingsFor [Monad m] (host : Host m) (i : Invocation) :
    m (Except LoadFault (Settings × List Log.Entry)) := do
  match i.config with
  | none => return .ok (Settings.default.addAll i.ignore i.options, [])
  | some path =>
    match ← Settings.load host path with
    | .error fault => return .error fault
    | .ok s => return .ok (s.addAll i.ignore i.options, [s.loadedEntry path])

/-- The note that the compiler was not found. -/
def notFoundEntry (e : Command.NotFound) (c : Command) : Log.Entry :=
  ⟨.debug, .program, e.message ++ "; printing ".toList ++ c.program ++ " as given".toList⟩

/-- The run that prints the compiler's command line for a source file. -/
def printCommand [Monad m] (host : Host m) (s : Settings) (source : Text) : m Outcome := do
  let command := Command.default.withSettings s
  let (located, log) ← Command.locate host s.executable
  let (command, log) := match located with
    | .ok path => (command.withProgram path, log)
    | .error e => (command, log ++ [notFoundEntry e command])
  return ⟨0, Text.join [' '] (command.withSource source).words ++ ['\n'], log, none⟩

/-- The bytes of the compiler's output. -/
def readInput [Monad m] (host : Host m) (i : Invocation) : m (Except Failure (List UInt8)) := do
  match i.inputPath with
  | none => return (← host.input).mapError .standardInput
  | some path => return (← host.read path).mapError (.input path)

/-- The report of some diagnostics in the form that is asked for. -/
def report (arrange : Report.Table.Arranger) (i : Invocation) (diagnostics : List Diagnostic) : Text :=
  match i.format with
  | .text => Report.text i.displayName (!i.noColor) diagnostics
  | .json => Report.json diagnostics
  | .table => Report.table arrange diagnostics

/-- The end of a run that reports the diagnostics of compiler output. -/
def reportOutput (arrange : Report.Table.Arranger) (i : Invocation) (ignore : IgnoreSet)
    (bytes : List UInt8) : Outcome :=
  let text := Utf8.decodeLossy bytes
  let diagnostics := extract text ignore
  let log :=
    ⟨.debug, .program, "Ignoring warning codes: ".toList ++ Text.quotedList ignore.codes⟩ ::
      extractLog text ignore ++
      [⟨.info, .program, "Extracted ".toList ++ Text.ofNat diagnostics.length ++
        " diagnostics".toList⟩]
  ⟨if diagnostics.any Diagnostic.isError then Outcome.errorsFound else 0,
    report arrange i diagnostics, log, none⟩

/-- A run with settings. -/
def runWith [Monad m] (host : Host m) (i : Invocation) (s : Settings) : m Outcome := do
  match i.printCommand with
  | some source => printCommand host s source
  | none =>
    match ← readInput host i with
    | .error failure => return .ofFailure failure []
    | .ok bytes => return reportOutput (← host.arranger) i s.ignoreSet bytes

/-- A run of the program. -/
def run [Monad m] (host : Host m) (i : Invocation) : m Outcome := do
  if i.version then return ⟨0, versionText, [], none⟩
  match ← settingsFor host i with
  | .error fault => return .ofFailure (.settings fault) []
  | .ok (s, log) =>
    let outcome ← runWith host i s
    return { outcome with log := log ++ outcome.log }

end PascalLint
