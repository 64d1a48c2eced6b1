import PascalLint.Proofs.Run.Reported

/-! What a run reads.

A machine can keep a record of what is read on it (`Host.recording`). Program and recorded program
go through the same steps, so what holds of one step holds of a whole run: its result is the same,
and the record grows by what is read (`Records`). The program reads the settings file first. After
that a run that prints a command reads nothing, looking for the compiler included, and one that
reports reads its input (`Invocation.Loads.records_run`). -/
namespace PascalLint

/-- The machine that keeps a record of what is read. -/
def Host.recording (host : Host Id) : Host (StateM (List Origin)) where
  read path := do
    modify (· ++ [.file path])
    return host.read path
  isPresent path := return host.isPresent path
  isProgram path := return host.isProgram path
  searchPath := return host.searchPath
  input := do
    modify (· ++ [.input])
    return host.input
  arranger := return host.arranger

/-- A recorded computation has a result, and adds the origins to the record. -/
def Records {α : Type} (p : StateM (List Origin) α) (result : Id α) (origins : List Origin) :
    Prop :=
  ∀ record, p.run record = (result, record ++ origins)

namespace Records
variable {α β : Type} {p : StateM (List Origin) α} {a : Id α} {first next : List Origin}

theorem pure (a : α) : Records (pure a) a [] := by
  intro record
  rw [List.append_nil]
  rfl

theorem bind {f : α → StateM (List Origin) β} {g : α → Id β} (hp : Records p a first)
    (hf : Records (f a) (g a) next) : Records (p >>= f) (a >>= g) (first ++ next) := by
  intro record
  calc (p >>= f).run record = (f (p.run record).1).run (p.run record).2 := rfl
    _ = (g a, record ++ (first ++ next)) := by rw [hp record, hf, List.append_assoc]

end Records

/-! ### The steps of a run -/

section Steps
variable (host : Host Id)

theorem records_read (path : Text) :
    Records (host.recording.read path) (host.read path) [.file path] := fun _ => rfl

theorem records_input : Records host.recording.input host.input [.input] := fun _ => rfl

theorem records_load (path : Text) :
    Records (Settings.load host.recording path) (Settings.load host path) [.file path] := by
  apply (records_read host path).bind
  cases host.read path with
  | error fault => exact .pure _
  | ok bytes => exact .pure _

theorem records_settingsFor (i : Invocation) :
    Records (settingsFor host.recording i) (settingsFor host i) (i.config.toList.map .file) := by
  unfold settingsFor
  cases i.config with
  | none => exact .pure _
  | some path =>
    apply (records_load host path).bind
    cases Settings.load host path with
    | error fault => exact .pure _
    | ok s => exact .pure _

theorem records_firstProgram (paths : List Text) :
    Records (Command.firstProgram host.recording paths) (Command.firstProgram host paths) [] := by
  induction paths with
  | nil => exact .pure _
  | cons path rest ih =>
    apply (Records.pure (host.isProgram path)).bind
    cases host.isProgram path with
    | true => exact .pure _
    | false => exact ih

theorem records_search :
    Records (Command.search host.recording) (Command.search host) [] := by
  apply (Records.pure host.searchPath).bind
  cases host.searchPath with
  | none => exact .pure _
  | some searchPath =>
    apply (records_firstProgram host _).bind
    cases Command.firstProgram host (Command.searched searchPath) with
    | none => exact .pure _
    | some path => exact .pure _

theorem records_locateInstalled (configured : Option Text) :
    Records (Command.locateInstalled host.recording configured)
      (Command.locateInstalled host configured) [] := by
  apply (Records.pure (host.isPresent Command.defaultProgram)).bind
  cases host.isPresent Command.defaultProgram with
  | true => exact .pure _
  | false => exact (records_search host).bind (.pure _)

theorem records_locate (configured : Option Text) :
    Records (Command.locate host.recording configured) (Command.locate host configured) [] := by
  cases configured with
  | none => exact (records_locateInstalled host none).bind (.pure _)
  | some path =>
    apply (Records.pure (host.isPresent path)).bind
    cases host.isPresent path with
    | true => exact .pure _
    | false => exact (records_locateInstalled host (some path)).bind (.pure _)

theorem records_printCommand (s : Settings) (source : Text) :
    Records (printCommand host.recording s source) (printCommand host s source) [] :=
  (records_locate host s.executable).bind (.pure _)

theorem records_readInput (i : Invocation) :
    Records (readInput host.recording i) (readInput host i) [i.inputOrigin] := by
  rw [inputOrigin_eq]
  unfold readInput
  cases i.inputPath with
  | none => exact (records_input host).bind (.pure _)
  | some path => exact (records_read host path).bind (.pure _)

end Steps

/-! ### A whole run -/

section Run
variable {host : Host Id} {i : Invocation} {s : Settings} {source : Text} {origins : List Origin}

theorem records_runWith_of_printCommand (hcommand : i.printCommand = some source) (s : Settings) :
    Records (runWith host.recording i s) (runWith host i s) [] := by
  unfold runWith
  rw [hcommand]
  exact records_printCommand host s source

theorem records_runWith_of_report (hcommand : i.printCommand = none) (s : Settings) :
    Records (runWith host.recording i s) (runWith host i s) [i.inputOrigin] := by
  unfold runWith
  rw [hcommand]
  apply (records_readInput host i).bind
  cases readInput host i with
  | error failure => exact .pure _
  | ok bytes => exact .pure _

/-- A run reads the settings file, and then what it reads once it has settings. -/
theorem Invocation.Loads.records_run (hloads : i.Loads host s) (hversion : i.version = false)
    (hwith : ∀ s, Records (runWith host.recording i s) (runWith host i s) origins) :
    Records (run host.recording i) (run host i) (i.config.toList.map .file ++ origins) := by
  obtain ⟨log, hfound⟩ := hloads.settingsFor_eq
  unfold run
  simp only [hversion]
  apply (records_settingsFor host i).bind
  rw [hfound, ← List.append_nil origins]
  exact (hwith _).bind (.pure _)

end Run

end PascalLint
