import PascalLint.CommandLine.Parse
import PascalLint.Proofs.Run.Reported

/-! The command that a run prints.

The program is looked for in three places: where the settings say, where the installer puts it, and in
the folders of the search path, one after the other. If it is nowhere, the command names the program of
the settings all the same, or the installer's. `Command.Chosen` says which program that makes it on a
given machine, and it is always exactly one (`Command.chosen_iff`). What is printed is that program with
the arguments of the settings file and of the command line, in this order (`printed_command`). -/
namespace PascalLint

namespace Command

/-- A folder is the first on the search path that holds a program of the compiler's name. -/
def IsFirstFolder (host : Host Id) (folder : Text) : Prop :=
  ∃ path before after, host.searchPath = some path ∧
    Text.pieces (· == ':') path = before ++ folder :: after ∧
    (∀ earlier ∈ before, host.isProgram (inFolder earlier programName) = false) ∧
    host.isProgram (inFolder folder programName) = true

/-- There is no search path, or no folder on it holds a program of the compiler's name. -/
def IsInNoFolder (host : Host Id) : Prop :=
  ∀ path, host.searchPath = some path → ∀ folder ∈ Text.pieces (· == ':') path,
    host.isProgram (inFolder folder programName) = false

/-- No path is configured, or it does not exist. -/
def LacksConfigured (host : Host Id) (configured : Option Text) : Prop :=
  ∀ path ∈ configured, host.isPresent path = false

/-- The program that a command names on a machine, where a path for it may be configured. -/
inductive Chosen (host : Host Id) (configured : Option Text) : Text → Prop where
  | configured {path : Text} (hpath : path ∈ configured) (hpresent : host.isPresent path = true) :
      Chosen host configured path
  | installed (hmissing : LacksConfigured host configured)
      (hpresent : host.isPresent defaultProgram = true) : Chosen host configured defaultProgram
  | onSearchPath {folder : Text} (hmissing : LacksConfigured host configured)
      (hdefault : host.isPresent defaultProgram = false) (hfolder : IsFirstFolder host folder) :
      Chosen host configured (inFolder folder programName)
  /-- It is nowhere. -/
  | asGiven (hmissing : LacksConfigured host configured)
      (hdefault : host.isPresent defaultProgram = false) (hnowhere : IsInNoFolder host) :
      Chosen host configured (configured.getD defaultProgram)

section Chosen
variable {host : Host Id} {configured : Option Text} {folder program : Text}

/-! ### The search path -/

theorem firstProgram_eq_find? (host : Host Id) (paths : List Text) :
    firstProgram host paths = paths.find? host.isProgram := by
  induction paths with
  | nil => rfl
  | cons path rest ih =>
    unfold firstProgram
    rw [List.find?_cons, ih]
    cases host.isProgram path with
    | true => rfl
    | false => rfl

theorem search_of_searchPath {path : Text} (hpath : host.searchPath = some path) :
    search host = match firstProgram host (searched path) with
      | some path => .ok path
      | none => .error .noProgram := by
  unfold search
  rw [hpath]
  rfl

theorem search_of_isFirstFolder (h : IsFirstFolder host folder) :
    search host = .ok (inFolder folder programName) := by
  obtain ⟨path, before, after, hpath, hfolders, hbefore, hprogram⟩ := h
  have hfirst : firstProgram host (searched path) = some (inFolder folder programName) := by
    rw [firstProgram_eq_find?, searched, hfolders, List.find?_eq_some_iff_append]
    refine ⟨hprogram, before.map (inFolder · programName), after.map (inFolder · programName),
      List.map_append, fun other hother => ?_⟩
    obtain ⟨earlier, hearlier, rfl⟩ := List.mem_map.mp hother
    rw [hbefore earlier hearlier]
    rfl
  rw [search_of_searchPath hpath, hfirst]

theorem search_of_isInNoFolder (h : IsInNoFolder host) : ∃ fault, search host = .error fault := by
  cases hpath : host.searchPath with
  | none =>
    refine ⟨.noSearchPath, ?_⟩
    unfold search
    rw [hpath]
    rfl
  | some path =>
    have hfirst : firstProgram host (searched path) = none := by
      rw [firstProgram_eq_find?, searched, List.find?_eq_none]
      intro other hother
      obtain ⟨folder, hfolder, rfl⟩ := List.mem_map.mp hother
      rw [h path hpath folder hfolder]
      decide
    exact ⟨.noProgram, by rw [search_of_searchPath hpath, hfirst]⟩

/-- A program is in no folder, or there is a first folder that it is in. -/
theorem isInNoFolder_or_exists_first (host : Host Id) :
    IsInNoFolder host ∨ ∃ folder, IsFirstFolder host folder := by
  by_cases hnone : host.searchPath = none
  · left
    intro path hpath
    rw [hnone] at hpath
    cases hpath
  obtain ⟨path, hpath⟩ := Option.ne_none_iff_exists'.mp hnone
  let holds (folder : Text) : Bool := host.isProgram (inFolder folder programName)
  cases hfind : (Text.pieces (· == ':') path).find? holds with
  | none =>
    left
    intro other hother folder hfolder
    obtain rfl : path = other := Option.some.inj (hpath.symm.trans hother)
    exact Bool.eq_false_iff.mpr (List.find?_eq_none.mp hfind folder hfolder)
  | some folder =>
    right
    obtain ⟨hholds, before, after, hfolders, hbefore⟩ := List.find?_eq_some_iff_append.mp hfind
    refine ⟨folder, path, before, after, hpath, hfolders, fun earlier hearlier => ?_, hholds⟩
    exact (Bool.not_eq_true' _).mp (hbefore earlier hearlier)

/-! ### The program -/

/-- The program that a printed command names. -/
def named (host : Host Id) (configured : Option Text) : Text :=
  match (locate host configured).1 with
  | .ok path => path
  | .error _ => configured.getD defaultProgram

theorem locate_of_lacksConfigured (h : LacksConfigured host configured) :
    (locate host configured).1 = locateInstalled host configured := by
  cases configured with
  | none => rfl
  | some path =>
    unfold locate
    simp only [h path rfl]
    rfl

theorem locateInstalled_of_present (h : host.isPresent defaultProgram = true) :
    locateInstalled host configured = .ok defaultProgram := by
  unfold locateInstalled
  simp only [h]
  rfl

theorem locateInstalled_of_missing (h : host.isPresent defaultProgram = false) :
    locateInstalled host configured = (search host).mapError (.mk configured) := by
  unfold locateInstalled
  simp only [h]
  rfl

theorem Chosen.named_eq (h : Chosen host configured program) : named host configured = program := by
  unfold named
  cases h with
  | configured hpath hpresent =>
    obtain rfl := Option.mem_def.mp hpath
    unfold locate
    simp only [hpresent]
    rfl
  | installed hmissing hpresent =>
    rw [locate_of_lacksConfigured hmissing, locateInstalled_of_present hpresent]
  | onSearchPath hmissing hdefault hfolder =>
    rw [locate_of_lacksConfigured hmissing, locateInstalled_of_missing hdefault,
      search_of_isFirstFolder hfolder]
    rfl
  | asGiven hmissing hdefault hnowhere =>
    obtain ⟨fault, hsearch⟩ := search_of_isInNoFolder hnowhere
    rw [locate_of_lacksConfigured hmissing, locateInstalled_of_missing hdefault, hsearch]
    rfl

/-- On every machine some program is chosen. -/
theorem exists_chosen (host : Host Id) (configured : Option Text) :
    ∃ program, Chosen host configured program := by
  by_cases hconfigured : ∃ path ∈ configured, host.isPresent path = true
  · obtain ⟨path, hpath, hpresent⟩ := hconfigured
    exact ⟨path, .configured hpath hpresent⟩
  have hmissing : LacksConfigured host configured := by
    intro path hpath
    exact Bool.eq_false_iff.mpr fun hpresent => hconfigured ⟨path, hpath, hpresent⟩
  cases hdefault : host.isPresent defaultProgram with
  | true => exact ⟨_, .installed hmissing hdefault⟩
  | false =>
    rcases isInNoFolder_or_exists_first host with hnowhere | ⟨folder, hfolder⟩
    · exact ⟨_, .asGiven hmissing hdefault hnowhere⟩
    · exact ⟨_, .onSearchPath hmissing hdefault hfolder⟩

/-- **On every machine exactly one program is chosen**, the one that a printed command names. -/
theorem chosen_iff : Chosen host configured program ↔ program = named host configured := by
  constructor
  · intro h
    exact h.named_eq.symm
  · rintro rfl
    obtain ⟨program, h⟩ := exists_chosen host configured
    rwa [h.named_eq]

end Chosen

end Command

/-! ### The run -/

section Run
variable {host : Host Id} {i : Invocation} {s : Settings} {source : Text}

theorem output_printCommand (host : Host Id) (s : Settings) (source : Text) :
    (printCommand host s source).output =
      Text.join [' '] (Command.named host s.executable ::
        (Command.defaultArguments ++ s.options) ++ [source]) ++ ['\n'] := by
  unfold printCommand Command.named
  generalize Command.locate host s.executable = found
  obtain ⟨located, log⟩ := found
  cases located with
  | ok path => rfl
  | error e => rfl

/-- **The printed command.** A run that is to print the command for a source and finds its settings
usable succeeds. It prints, with single blanks between them, the one program that is chosen on the
machine, the default arguments, the options of the settings file, those of the command line, and the
source. -/
theorem printed_command (hversion : i.version = false) (hcommand : i.printCommand = some source)
    (hloads : i.Loads host s) :
    (run host i).exitCode = 0 ∧ (run host i).failure = none ∧
      ∃ program, (∀ other, Command.Chosen host s.executable other ↔ other = program) ∧
        (run host i).output = Text.join [' '] (program ::
          (Command.defaultArguments ++ s.options ++ i.options) ++ [source]) ++ ['\n'] := by
  obtain ⟨noted, hrun⟩ := hloads.run_eq hversion
  have hwith (s : Settings) : runWith host i s = printCommand host s source := by
    unfold runWith
    rw [hcommand]
  rw [hrun, hwith]
  refine ⟨rfl, rfl, Command.named host s.executable, fun other => Command.chosen_iff, ?_⟩
  show (printCommand host (s.addAll i.ignore i.options) source).output = _
  rw [output_printCommand, List.append_assoc]
  rfl

/-- The configured program is gone. Of what bears the compiler's name on the search path, the first is
a folder, the second may not be run and the third is chosen. -/
theorem printed_command_third_folder :
    let root := FileTree.folder [("a".toList, .folder [("epcomp".toList, .folder [])]),
      ("b".toList, .folder [("epcomp".toList, .file [] false)]),
      ("c".toList, .folder [("epcomp".toList, .file [] true)]),
      ("lint.toml".toList,
        .file (Utf8.encode "executable = 'gone'\noptions = ['-d', 'DEBUG']".toList) false)]
    let host := Host.ofTree root [] "a:b::c".toList []
    let s : Settings := ⟨some "gone".toList, .list [], ["-d".toList, "DEBUG".toList]⟩
    let i := { Invocation.default with config := some "lint.toml".toList,
                                       options := ["-w".toList], printCommand := some "x.pas".toList }
    CommandLine.parse (["-o", "-w", "--config=lint.toml", "--print-command", "x.pas"].map
      String.toList) = .ok i ∧
    i.Loads host s ∧ Command.Chosen host s.executable "c/epcomp".toList ∧ (run host i).exitCode = 0 ∧
    (run host i).output =
      "c/epcomp -y -i..\\..\\lib\\obj -iobj -d DEBUG -w x.pas\n".toList := by
  intro root host s i
  have hloads : i.Loads host s := eq_ok_of_toOption_eq_some (by decide +kernel)
  have hchosen : Command.Chosen host s.executable "c/epcomp".toList := by
    have hmissing : Command.LacksConfigured host s.executable := by
      rintro path ⟨⟩
      rfl
    have hfolder : Command.IsFirstFolder host "c".toList := by
      refine ⟨_, ["a".toList, "b".toList, []], [], rfl, rfl, ?_, rfl⟩
      simp only [List.forall_mem_cons]
      exact ⟨rfl, rfl, rfl, List.forall_mem_nil _⟩
    exact .onSearchPath hmissing rfl hfolder
  obtain ⟨hcode, -, program, hprogram, houtput⟩ := printed_command (i := i) rfl rfl hloads
  obtain rfl := (hprogram _).mp hchosen
  exact ⟨rfl, hloads, hchosen, hcode, houtput⟩

end Run

end PascalLint
