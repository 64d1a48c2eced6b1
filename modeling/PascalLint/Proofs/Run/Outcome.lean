import PascalLint.CommandLine.Parse
import PascalLint.Proofs.Extraction.Muted
import PascalLint.Proofs.Run.Reading

/-! How a run ends.

Two things can go wrong: the settings file is of no use (`Invocation.LacksSettings`), or a report is
asked for and the compiler's output cannot be read (`Invocation.LacksInput`). That leaves four ends
(`Invocation.Ends`). Every run that is not asked for the version comes to one of them (`ends_run`),
and its exit code and its output can be read off the end.

Whether a report holds an error depends on the input alone: no ignore set mutes errors, and no form
of the report has a part in it (`Invocation.Ends.exitCode_eq_exitCode`). -/
namespace PascalLint

/-! ### What can go wrong -/

/-- The settings file at a path is of no use: it cannot be read, it is no text, or the text does not
stand for settings. -/
inductive Settings.Unusable (host : Host Id) (path : Text) : Prop where
  | unreadable {fault : ReadFault} (hread : host.read path = .error fault) : Unusable host path
  | notText {bytes : List UInt8} (hread : host.read path = .ok bytes)
      (htext : Utf8.decode? bytes = none) : Unusable host path
  | refused {bytes : List UInt8} {text : Text} {error : SettingsError}
      (hread : host.read path = .ok bytes) (htext : Utf8.decode? bytes = some text)
      (hsettings : Settings.ofText text = .error error) : Unusable host path

/-- There is a settings file, and it is of no use. -/
def Invocation.LacksSettings (host : Host Id) (i : Invocation) : Prop :=
  ∃ path ∈ i.config, Settings.Unusable host path

/-- The compiler's output cannot be read, be it in a file or on standard input. -/
def Invocation.LacksInput (host : Host Id) (i : Invocation) : Prop :=
  ∃ fault, host.answer i.inputOrigin = .error fault

section Causes
variable {host : Host Id} {i : Invocation} {path : Text}

theorem Settings.load_of_error {fault : ReadFault} (h : host.read path = .error fault) :
    Settings.load host path = .error (.unreadable path fault) := by
  unfold load
  simp only [h]
  rfl

theorem Settings.load_of_ok {bytes : List UInt8} (h : host.read path = .ok bytes) :
    Settings.load host path = ofBytes path bytes := by
  unfold load
  simp only [h]
  rfl

/-- Loading fails for one of the three reasons, and for no other. -/
theorem Settings.unusable_iff :
    Settings.Unusable host path ↔ ∃ fault, Settings.load host path = .error fault := by
  constructor
  · intro h
    cases h with
    | unreadable hread => exact ⟨_, load_of_error hread⟩
    | notText hread htext =>
      refine ⟨.notText path, ?_⟩
      simp only [load_of_ok hread, ofBytes, htext]
    | @refused _ _ error hread htext hsettings =>
      refine ⟨.refused path error, ?_⟩
      simp only [load_of_ok hread, ofBytes, htext, hsettings, Except.mapError]
  · rintro ⟨fault, h⟩
    cases hread : host.read path with
    | error => exact .unreadable hread
    | ok bytes =>
      rw [load_of_ok hread, ofBytes] at h
      cases htext : Utf8.decode? bytes with
      | none => exact .notText hread htext
      | some text =>
        cases hsettings : ofText text with
        | error => exact .refused hread htext hsettings
        | ok s =>
          simp only [htext, hsettings, Except.mapError] at h
          cases h

theorem Invocation.LacksSettings.settingsFor_eq (h : i.LacksSettings host) :
    ∃ fault, settingsFor host i = .error fault := by
  obtain ⟨path, hconfig, hpath⟩ := h
  obtain ⟨fault, hload⟩ := Settings.unusable_iff.mp hpath
  refine ⟨fault, ?_⟩
  unfold settingsFor
  simp only [Option.mem_def.mp hconfig, hload]
  rfl

theorem exists_loads (h : ¬ i.LacksSettings host) : ∃ s, i.Loads host s := by
  unfold Invocation.Loads
  cases hconfig : i.config with
  | none => exact ⟨.default, rfl⟩
  | some path =>
    cases hload : Settings.load host path with
    | ok s => exact ⟨s, hload⟩
    | error fault => exact absurd ⟨path, hconfig, Settings.unusable_iff.mpr ⟨fault, hload⟩⟩ h

theorem Invocation.LacksInput.readInput_eq (h : i.LacksInput host) :
    ∃ failure, readInput host i = .error failure := by
  obtain ⟨fault, hfault⟩ := h
  refine ⟨.ofOrigin i.inputOrigin fault, ?_⟩
  rw [PascalLint.readInput_eq, hfault]
  rfl

theorem exists_answer (h : ¬ i.LacksInput host) :
    ∃ bytes, host.answer i.inputOrigin = .ok bytes := by
  cases hanswer : host.answer i.inputOrigin with
  | error fault => exact absurd ⟨fault, hanswer⟩ h
  | ok bytes => exact ⟨bytes, rfl⟩

end Causes

/-! ### The ends of a run -/

/-- The ends of a run that is not asked for the version. What is noted in the log is left open. -/
inductive Invocation.Ends (host : Host Id) (i : Invocation) : Outcome → Prop where
  | withoutSettings {failure : Failure} {log : List Log.Entry} (hsettings : i.LacksSettings host) :
      Ends host i { Outcome.ofFailure failure [] with log }
  | command {s : Settings} {source : Text} {log : List Log.Entry}
      (hsettings : ¬ i.LacksSettings host) (hcommand : i.printCommand = some source)
      (hloads : i.Loads host s) :
      Ends host i { PascalLint.printCommand host (s.addAll i.ignore i.options) source with log }
  | withoutInput {failure : Failure} {log : List Log.Entry} (hsettings : ¬ i.LacksSettings host)
      (hcommand : i.printCommand = none) (hinput : i.LacksInput host) :
      Ends host i { Outcome.ofFailure failure [] with log }
  | report {s : Settings} {bytes : List UInt8} {log : List Log.Entry}
      (hsettings : ¬ i.LacksSettings host) (hinput : ¬ i.LacksInput host)
      (hreports : i.Reports host s bytes) :
      Ends host i { reportOutput host.arranger i (s.addAll i.ignore i.options).ignoreSet bytes with
        log }

theorem ends_run (host : Host Id) {i : Invocation} (hversion : i.version = false) :
    i.Ends host (run host i) := by
  by_cases hsettings : i.LacksSettings host
  · obtain ⟨fault, hfault⟩ := hsettings.settingsFor_eq
    have hrun : run host i = .ofFailure (.settings fault) [] := by
      unfold run
      simp only [hversion, hfault]
      rfl
    rw [hrun]
    exact .withoutSettings hsettings
  obtain ⟨s, hloads⟩ := exists_loads hsettings
  obtain ⟨noted, hrun⟩ := hloads.run_eq hversion
  rw [hrun]
  cases hcommand : i.printCommand with
  | some source =>
    have hwith (s : Settings) : runWith host i s = printCommand host s source := by
      simp only [runWith, hcommand]
    rw [hwith]
    exact .command hsettings hcommand hloads
  | none =>
    by_cases hinput : i.LacksInput host
    · obtain ⟨failure, hfailure⟩ := hinput.readInput_eq
      have hwith (s : Settings) : runWith host i s = .ofFailure failure [] := by
        simp only [runWith, hcommand, hfailure]
        rfl
      rw [hwith]
      exact .withoutInput hsettings hcommand hinput
    · obtain ⟨bytes, hbytes⟩ := exists_answer hinput
      rw [runWith_eq_reportOutput hcommand hbytes]
      exact .report hsettings hinput ⟨hversion, hcommand, hloads, hbytes⟩

/-! ### The report -/

/-- A diagnostic is an error whatever is muted. -/
theorem exists_error_extract_iff (text : Text) (ignore : IgnoreSet) :
    (∃ d ∈ extract text ignore, d.severity = .error) ↔
      ∃ d ∈ extract text .empty, d.severity = .error := by
  have herrors (ignore : IgnoreSet) : (∃ d ∈ extract text ignore, d.severity = .error) ↔
      (extract text ignore).filter Diagnostic.isError ≠ [] := by
    simp [List.filter_eq_nil_iff, Diagnostic.isError]
  rw [herrors, herrors, filter_isError_extract]

section ReportOutput
variable (arrange : Report.Table.Arranger) (i : Invocation) (ignore : IgnoreSet) (bytes : List UInt8)

theorem exitCode_reportOutput : (reportOutput arrange i ignore bytes).exitCode =
      if ∃ d ∈ extract (Utf8.decodeLossy bytes) ignore, d.severity = .error then 1 else 0 := by
  show (if (extract (Utf8.decodeLossy bytes) ignore).any Diagnostic.isError then 1 else 0) = _
  simp only [List.any_eq_true, Diagnostic.isError, beq_iff_eq]

theorem exitCode_reportOutput_ne_two : (reportOutput arrange i ignore bytes).exitCode ≠ 2 := by
  rw [exitCode_reportOutput]
  split <;> decide

end ReportOutput

/-! ### What can be read off an end -/

namespace Invocation.Ends
variable {host host' : Host Id} {i i' : Invocation} {outcome outcome' : Outcome} {source : Text}

theorem exitCode_eq_two_iff (h : i.Ends host outcome) :
    outcome.exitCode = 2 ↔ i.LacksSettings host ∨ i.printCommand = none ∧ i.LacksInput host := by
  cases h with
  | withoutSettings hsettings => exact iff_of_true rfl (.inl hsettings)
  | command hsettings hcommand =>
    refine iff_of_false (show ¬ 0 = 2 by decide) ?_
    rintro (h | ⟨h, -⟩)
    · exact hsettings h
    · rw [hcommand] at h
      cases h
  | withoutInput hsettings hcommand hinput => exact iff_of_true rfl (.inr ⟨hcommand, hinput⟩)
  | report hsettings hinput hreports =>
    refine iff_of_false (exitCode_reportOutput_ne_two host.arranger i _ _) ?_
    rintro (h | ⟨-, h⟩)
    · exact hsettings h
    · exact hinput h

theorem output_eq_nil (h : i.Ends host outcome) (hcode : outcome.exitCode = 2) :
    outcome.output = [] := by
  cases h with
  | withoutSettings => rfl
  | command => exact absurd hcode (show ¬ 0 = 2 by decide)
  | withoutInput => rfl
  | report => exact absurd hcode (exitCode_reportOutput_ne_two host.arranger i _ _)

theorem exitCode_eq_zero (h : i.Ends host outcome) (hcode : outcome.exitCode ≠ 2)
    (hcommand : i.printCommand = some source) : outcome.exitCode = 0 := by
  cases h with
  | withoutSettings => exact absurd rfl hcode
  | command => rfl
  | withoutInput => exact absurd rfl hcode
  | report _ _ hreports =>
    rw [hreports.printCommand] at hcommand
    cases hcommand

/-- A run that prints no command and does not fail reports. -/
theorem exists_reports (h : i.Ends host outcome) (hcode : outcome.exitCode ≠ 2)
    (hcommand : i.printCommand = none) : ∃ s bytes, i.Reports host s bytes ∧
      let diagnostics := extract (Utf8.decodeLossy bytes) (s.addAll i.ignore i.options).ignoreSet
      i.Renders host diagnostics outcome.output ∧
        outcome.exitCode = if ∃ d ∈ diagnostics, d.severity = .error then 1 else 0 := by
  cases h with
  | withoutSettings => exact absurd rfl hcode
  | command _ hsource =>
    rw [hcommand] at hsource
    cases hsource
  | withoutInput => exact absurd rfl hcode
  | report _ _ hreports =>
    exact ⟨_, _, hreports, renders_iff.mpr rfl, exitCode_reportOutput host.arranger i _ _⟩

/-- Two runs that report on the same input have the same exit code. -/
theorem exitCode_eq_exitCode (h : i.Ends host outcome) (h' : i'.Ends host' outcome')
    (hcode : outcome.exitCode ≠ 2) (hcode' : outcome'.exitCode ≠ 2)
    (hcommand : i.printCommand = none) (hcommand' : i'.printCommand = none)
    (hinput : host'.answer i'.inputOrigin = host.answer i.inputOrigin) :
    outcome'.exitCode = outcome.exitCode := by
  obtain ⟨s, bytes, hreports, -, hexit⟩ := h.exists_reports hcode hcommand
  obtain ⟨s', bytes', hreports', -, hexit'⟩ := h'.exists_reports hcode' hcommand'
  have hbytes : bytes' = bytes := by
    rw [hreports.input, hreports'.input] at hinput
    exact Except.ok.inj hinput
  rw [hexit, hexit', hbytes]
  apply if_congr _ rfl rfl
  rw [exists_error_extract_iff, exists_error_extract_iff _ (s.addAll _ _).ignoreSet]

end Invocation.Ends

/-! ### Every run -/

/-- **The outcome of a run** that is not asked for the version. It fails with code 2 and without
output if the settings file is of no use, or if it is to report and cannot read its input, from a file
or from standard input. If it does not fail, a run that prints a command has code 0 and reads no input;
a run that reports writes the diagnostics in the format that is asked for, and its code tells whether
one of them is an error. Two runs that report on the same input, whatever they mute and however they
write it down, have the same code. -/
theorem outcome_of_run (host : Host Id) {i : Invocation} (hversion : i.version = false) :
    ((run host i).exitCode = 2 ↔
      i.LacksSettings host ∨ i.printCommand = none ∧ i.LacksInput host) ∧
    ((run host i).exitCode = 2 → (run host i).output = []) ∧
    ((run host i).exitCode ≠ 2 → ∀ source, i.printCommand = some source →
      (run host i).exitCode = 0 ∧
      Records (run host.recording i) (run host i) (i.config.toList.map .file)) ∧
    ((run host i).exitCode ≠ 2 → i.printCommand = none → ∃ s bytes, i.Reports host s bytes ∧
      let diagnostics := extract (Utf8.decodeLossy bytes) (s.addAll i.ignore i.options).ignoreSet
      i.Renders host diagnostics (run host i).output ∧
      (run host i).exitCode = (if ∃ d ∈ diagnostics, d.severity = .error then 1 else 0) ∧
      Records (run host.recording i) (run host i)
        (i.config.toList.map .file ++ [i.inputOrigin])) ∧
    ∀ (host' : Host Id) (i' : Invocation), i'.version = false →
      (run host i).exitCode ≠ 2 → (run host' i').exitCode ≠ 2 →
      i.printCommand = none → i'.printCommand = none →
      host'.answer i'.inputOrigin = host.answer i.inputOrigin →
      (run host' i').exitCode = (run host i).exitCode := by
  have hends := ends_run host hversion
  refine ⟨hends.exitCode_eq_two_iff, hends.output_eq_nil, fun hcode source hcommand => ?_,
    fun hcode hcommand => ?_, fun host' i' hversion' hcode hcode' hcommand hcommand' => ?_⟩
  · have hsettings : ¬ i.LacksSettings host := by
      intro h
      exact hcode (hends.exitCode_eq_two_iff.mpr (.inl h))
    obtain ⟨s, hloads⟩ := exists_loads hsettings
    have hrecords := hloads.records_run hversion (records_runWith_of_printCommand hcommand)
    rw [List.append_nil] at hrecords
    exact ⟨hends.exitCode_eq_zero hcode hcommand, hrecords⟩
  · obtain ⟨s, bytes, hreports, houtput, hexit⟩ := hends.exists_reports hcode hcommand
    have hloads : i.Loads host s := hreports.settings
    have hrecords := hloads.records_run hversion (records_runWith_of_report hcommand)
    exact ⟨s, bytes, hreports, houtput, hexit, hrecords⟩
  · exact hends.exitCode_eq_exitCode (ends_run host' hversion') hcode hcode' hcommand hcommand'

/-- Output with a warning and an error: reported with the warning muted in the settings, reported
with another code muted on the command line, left alone by a run that prints a command, and taken
for settings. Last, standard input that is a folder. -/
theorem outcome_of_run_five_command_lines :
    let bytes := Utf8.encode "2 57 Warning: b\n\n^\n3 9 c\n\n^\n".toList
    let host := Host.ofTree (.folder [
      ("lint.toml".toList, .file (Utf8.encode "ignore = \"57\"".toList) false),
      ("out.txt".toList, .file bytes false)]) [] [] []
    let deaf : Host Id := { host with input := .error .isFolder }
    let muted := { Invocation.default with
      config := some "lint.toml".toList, format := .json, input := some "out.txt".toList }
    let shown := { Invocation.default with
      ignore := ["58".toList], noColor := true, input := some "out.txt".toList }
    let printing := { muted with printCommand := some "main.pas".toList }
    let mistaken := { Invocation.default with config := some "out.txt".toList }
    CommandLine.parse (["-c", "lint.toml", "--format=json", "out.txt"].map String.toList) =
      .ok muted ∧
    CommandLine.parse (["-i58", "out.txt", "--no-color"].map String.toList) = .ok shown ∧
    CommandLine.parse (["out.txt", "--print-command", "main.pas", "-f", "json", "-c=lint.toml"].map
      String.toList) = .ok printing ∧
    CommandLine.parse (["--config", "out.txt"].map String.toList) = .ok mistaken ∧
    CommandLine.parse [] = .ok .default ∧
    (run host muted).exitCode = 1 ∧ (run host shown).exitCode = (run host muted).exitCode ∧
    shown.Renders host [⟨2, 0, .warning, "Warning: b".toList, "57".toList⟩,
      ⟨3, 0, .error, "c".toList, []⟩] (run host shown).output ∧
    (run host printing).exitCode = 0 ∧
    Records (run host.recording printing) (run host printing) [.file "lint.toml".toList] ∧
    (run host mistaken).exitCode = 2 ∧ (run host mistaken).output = [] ∧
    (run deaf .default).exitCode = 2 ∧ (run deaf .default).output = [] := by
  intro bytes host deaf muted shown printing mistaken
  have hmuted : (run host muted).exitCode = 1 := by decide +kernel
  have hmuted' : (run host muted).exitCode ≠ 2 := by rw [hmuted]; decide
  have hshown : (run host shown).exitCode ≠ 2 := by decide +kernel
  have hprinting : (run host printing).exitCode ≠ 2 := by decide +kernel
  have hmistaken : (run host mistaken).exitCode = 2 := by decide +kernel
  obtain ⟨-, -, -, -, hsame⟩ := outcome_of_run host (i := muted) rfl
  obtain ⟨-, -, -, hreport, -⟩ := outcome_of_run host (i := shown) rfl
  obtain ⟨-, -, hcommand, -, -⟩ := outcome_of_run host (i := printing) rfl
  obtain ⟨-, hsilent, -, -, -⟩ := outcome_of_run host (i := mistaken) rfl
  obtain ⟨hfails, hsilent', -, -, -⟩ := outcome_of_run deaf (i := .default) rfl
  obtain ⟨hzero, hreads⟩ := hcommand hprinting "main.pas".toList rfl
  have hds : extract (Utf8.decodeLossy bytes)
      (Settings.default.addAll shown.ignore shown.options).ignoreSet =
        [⟨2, 0, .warning, "Warning: b".toList, "57".toList⟩, ⟨3, 0, .error, "c".toList, []⟩] := by
    decide +kernel
  obtain ⟨s, found, hreports, hrenders, -, -⟩ := hreport hshown rfl
  obtain rfl : s = .default := hreports.settings
  obtain rfl : bytes = found := Except.ok.inj hreports.input
  rw [hds] at hrenders
  have hdeaf : (run deaf .default).exitCode = 2 := hfails.mpr (.inr ⟨rfl, .isFolder, rfl⟩)
  exact ⟨rfl, rfl, rfl, rfl, rfl, hmuted, hsame host shown rfl hmuted' hshown rfl rfl rfl, hrenders,
    hzero, hreads, hmistaken, hsilent hmistaken, hdeaf, hsilent' hdeaf⟩

end PascalLint
