import PascalLint.Host.FileTree
import PascalLint.Run

/-! What a run goes by, and what it reports.

Unless it is asked for the version, a run first loads settings (`Invocation.Loads`). If no command is to
be printed, it then reads the compiler's output, from a file or from standard input
(`Invocation.inputOrigin`), and reports on the bytes (`Invocation.Reports`). How it writes diagnostics
down is a matter of the format that is asked for (`Invocation.Renders`), and of nothing that was noted in
the log (`Invocation.Reports.run_eq`). -/
namespace PascalLint

/-! ### The settings -/

/-- The settings are those of the settings file, or the default ones if there is none. -/
def Invocation.Loads (host : Host Id) (i : Invocation) (s : Settings) : Prop :=
  match i.config with
  | none => s = .default
  | some path => Settings.load host path = .ok s

section Loads
variable {host : Host Id} {i : Invocation} {s : Settings}

/-- The settings of a run are those that it loads with what the command line adds. -/
theorem Invocation.Loads.settingsFor_eq (hloads : i.Loads host s) :
    ∃ log, settingsFor host i = .ok (s.addAll i.ignore i.options, log) := by
  unfold Loads at hloads
  unfold settingsFor
  cases hconfig : i.config with
  | none =>
    rw [hconfig] at hloads
    subst hloads
    exact ⟨[], rfl⟩
  | some path =>
    rw [hconfig] at hloads
    refine ⟨[s.loadedEntry path], ?_⟩
    simp only [hloads]
    rfl

/-- What a run with settings ends with is how the run ends, but for what loading them notes. -/
theorem Invocation.Loads.run_eq (hloads : i.Loads host s) (hversion : i.version = false) :
    let outcome := runWith host i (s.addAll i.ignore i.options)
    ∃ noted, run host i = { outcome with log := noted ++ outcome.log } := by
  obtain ⟨noted, hfound⟩ := hloads.settingsFor_eq
  refine ⟨noted, ?_⟩
  unfold run
  simp only [hversion, hfound]
  rfl

/-- Faults cannot be compared, values can. -/
theorem eq_ok_of_toOption_eq_some {result : Except LoadFault Settings}
    (h : result.toOption = some s) : result = .ok s := by
  cases result with
  | error fault => cases h
  | ok found => cases h; rfl

end Loads

/-! ### The input -/

/-- Where bytes can be read from. -/
inductive Origin where
  | file (path : Text)
  | input
deriving DecidableEq

/-- What a report calls the place that its input is from. -/
def Origin.name : Origin → Text
  | .file path => path
  | .input => "<stdin>".toList

/-- The bytes that can be read from somewhere, or why they cannot. -/
def Host.answer (host : Host Id) : Origin → Except ReadFault (List UInt8)
  | .file path => host.read path
  | .input => host.input

/-- Where the compiler's output is read from. A dash stands for standard input. -/
def Invocation.inputOrigin (i : Invocation) : Origin :=
  match i.input with
  | none => .input
  | some path => if path = ['-'] then .input else .file path

/-- Why a run fails that cannot read its input. -/
def Failure.ofOrigin : Origin → ReadFault → Failure
  | .file path => .input path
  | .input => .standardInput

section Input
variable (i : Invocation)

theorem inputOrigin_eq :
    i.inputOrigin = match i.inputPath with
      | none => .input
      | some path => .file path := by
  unfold Invocation.inputOrigin Invocation.inputPath
  cases i.input with
  | none => rfl
  | some path => by_cases hdash : path = ['-'] <;> simp [Option.filter, hdash]

theorem readInput_eq (host : Host Id) :
    readInput host i = (host.answer i.inputOrigin).mapError (.ofOrigin i.inputOrigin) := by
  rw [inputOrigin_eq]
  unfold readInput
  cases i.inputPath with
  | none => rfl
  | some path => rfl

theorem displayName_eq : i.displayName = i.file.getD i.inputOrigin.name := by
  rw [inputOrigin_eq]
  unfold Invocation.displayName
  cases i.file with
  | none => cases i.inputPath <;> rfl
  | some file => rfl

end Input

/-! ### The report -/

/-- The run reports the diagnostics of some bytes. -/
structure Invocation.Reports (host : Host Id) (i : Invocation) (s : Settings) (bytes : List UInt8) :
    Prop where
  version : i.version = false
  printCommand : i.printCommand = none
  settings : i.Loads host s
  input : host.answer i.inputOrigin = .ok bytes

/-- What is written for some diagnostics. As text it names the source file, or else where the input is
from, and is coloured unless that is declined; as a table it is arranged for what the output goes to. -/
inductive Invocation.Renders (host : Host Id) (i : Invocation) (ds : List Diagnostic) : Text → Prop where
  | text (hformat : i.format = .text) :
      Renders host i ds (Report.text (i.file.getD i.inputOrigin.name) (!i.noColor) ds)
  | json (hformat : i.format = .json) : Renders host i ds (Report.json ds)
  | table (hformat : i.format = .table) : Renders host i ds (Report.table host.arranger ds)

section Reports
variable {host : Host Id} {i : Invocation} {s : Settings} {bytes : List UInt8}

/-- Every format has one rendering. -/
theorem Invocation.renders_iff {ds : List Diagnostic} {output : Text} :
    i.Renders host ds output ↔ output = report host.arranger i ds := by
  constructor
  · intro h
    cases h with
    | text hformat => rw [report, hformat, displayName_eq]
    | json hformat => rw [report, hformat]
    | table hformat => rw [report, hformat]
  · rintro rfl
    unfold report
    cases hformat : i.format with
    | text =>
      rw [displayName_eq]
      exact .text hformat
    | json => exact .json hformat
    | table => exact .table hformat

theorem runWith_eq_reportOutput (hcommand : i.printCommand = none)
    (hinput : host.answer i.inputOrigin = .ok bytes) (s : Settings) :
    runWith host i s = reportOutput host.arranger i s.ignoreSet bytes := by
  have hread : readInput host i = .ok bytes := by rw [readInput_eq, hinput]; rfl
  unfold runWith
  simp only [hcommand, hread]
  rfl

/-- But for what it notes when it loads them, a run that reports depends on its settings only
through the codes to mute. -/
theorem Invocation.Reports.run_eq (h : i.Reports host s bytes) :
    let outcome := reportOutput host.arranger i (s.addAll i.ignore i.options).ignoreSet bytes
    ∃ noted, run host i = { outcome with log := noted ++ outcome.log } := by
  obtain ⟨noted, hrun⟩ := h.settings.run_eq h.version
  refine ⟨noted, ?_⟩
  rw [hrun, runWith_eq_reportOutput h.printCommand h.input]

theorem Invocation.Reports.renders_output (h : i.Reports host s bytes) :
    i.Renders host (extract (Utf8.decodeLossy bytes) (s.addAll i.ignore i.options).ignoreSet)
      (run host i).output := by
  obtain ⟨noted, hrun⟩ := h.run_eq
  rw [hrun, renders_iff]
  rfl

end Reports

end PascalLint
