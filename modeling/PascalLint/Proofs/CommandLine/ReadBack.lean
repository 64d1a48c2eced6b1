import PascalLint.Proofs.CommandLine.Words

/-! Command lines are read back.

What a user asks for can be written in many ways: flags, fields and their values in any order, a value in
the word of its name or in the next. A list of givings says an invocation (`Says`) if it has each flag and
each value as often as the invocation does, those of one field in their order. A field of what is read
depends on the values that are given to it and on nothing else (`foldl_tell`), so all the ways of writing
are read as the invocation that was meant (`parse_written`). -/
namespace PascalLint.CommandLine

/-! ### What is said -/

/-- The values that are given to a field, in order. -/
def valuesOf (field : Field) (givings : List Giving) : List Text :=
  givings.filterMap (Giving.value? field)

section Said
variable {i : Invocation} {givings : List Giving} (field other : Field) (value : Text)

@[simp] theorem valuesOf_flag (f : Flag) :
    valuesOf field (.flag f :: givings) = valuesOf field givings := rfl

@[simp] theorem valuesOf_joined : valuesOf field (.joined other value :: givings) =
    if other = field then value :: valuesOf field givings else valuesOf field givings := by
  unfold valuesOf
  rw [List.filterMap_cons, Giving.value?]
  split <;> simp_all

@[simp] theorem valuesOf_apart : valuesOf field (.apart other value :: givings) =
    if other = field then value :: valuesOf field givings else valuesOf field givings := by
  unfold valuesOf
  rw [List.filterMap_cons, Giving.value?]
  split <;> simp_all

theorem valuesOf_append (givings more : List Giving) :
    valuesOf field (givings ++ more) = valuesOf field givings ++ valuesOf field more :=
  List.filterMap_append

theorem valuesOf_map_joined (values : List Text) :
    valuesOf field (values.map (.joined other)) = if other = field then values else [] := by
  induction values with
  | nil => exact (ite_self _).symm
  | cons value values ih =>
    rw [List.map_cons, valuesOf_joined, ih]
    split <;> rfl

theorem count_switch_flag (f : Flag) (givings : List Giving) :
    (givings.map Giving.switch).count (.flag f) = givings.count (.flag f) := by
  induction givings with
  | nil => rfl
  | cons g givings ih =>
    rw [List.map_cons, List.count_cons, List.count_cons, ih]
    cases g <;> simp [Giving.switch]

theorem count_switch_field (field : Field) (givings : List Giving) :
    (givings.map Giving.switch).count (.field field) = (valuesOf field givings).length := by
  induction givings with
  | nil => rfl
  | cons g givings ih =>
    rw [List.map_cons, List.count_cons, ih]
    cases g with
    | flag => simp [Giving.switch]
    | joined other value => by_cases h : other = field <;> simp [Giving.switch, h]
    | apart other value => by_cases h : other = field <;> simp [Giving.switch, h]

theorem contains_of_count {g : Giving} {isUp : Bool} (h : givings.count g = isUp.toNat) :
    givings.contains g = isUp := by
  cases isUp with
  | false => simpa [List.count_eq_zero] using h
  | true => exact List.contains_iff_mem.mpr (List.count_pos_iff.mp (h ▸ Nat.one_pos))

end Said

/-- Each field of the invocation comes from the values that are given to it alone. -/
theorem foldl_tell (givings : List Giving) (i : Invocation) :
    givings.foldl Giving.tell i =
      { version := i.version || givings.contains (.flag .version)
        ignore := i.ignore ++ valuesOf .ignore givings
        config := (valuesOf .config givings).foldl (fun _ value => some value) i.config
        options := i.options ++ valuesOf .option givings
        format := (valuesOf .format givings).foldl
          (fun format value => (ReportFormat.ofName? value).getD format) i.format
        file := (valuesOf .file givings).foldl (fun _ value => some value) i.file
        noColor := i.noColor || givings.contains (.flag .noColor)
        printCommand := (valuesOf .printCommand givings).foldl (fun _ value => some value)
          i.printCommand
        input := (valuesOf .input givings).foldl (fun _ value => some value) i.input } := by
  induction givings generalizing i with
  | nil => simp [valuesOf]
  | cons g givings ih =>
    rw [List.foldl_cons, ih]
    cases g with
    | flag f => cases f <;> simp [Giving.tell]
    | joined field value => cases field <;> simp [Giving.tell, Invocation.withValue]
    | apart field value => cases field <;> simp [Giving.tell, Invocation.withValue]

/-- The givings of a command line say what an invocation is to be, but for its input: each flag that is up
stands there once, each value that is absent nowhere, and every other value once, those of a field in their
order. The form of the report need not be given if it is the usual one. -/
structure Says (givings : List Giving) (i : Invocation) : Prop where
  writable : ∀ g ∈ givings, g.IsWritable
  version : givings.count (.flag .version) = i.version.toNat
  ignore : valuesOf .ignore givings = i.ignore
  config : valuesOf .config givings = i.config.toList
  options : valuesOf .option givings = i.options
  format : valuesOf .format givings = [i.format.name] ∨
    valuesOf .format givings = [] ∧ i.format = .text
  file : valuesOf .file givings = i.file.toList
  noColor : givings.count (.flag .noColor) = i.noColor.toNat
  printCommand : valuesOf .printCommand givings = i.printCommand.toList

/-- A flag, if it is up. -/
def givingOfFlag (f : Flag) (isUp : Bool) : List Giving :=
  if isUp then [.flag f] else []

/-- One way to say an invocation, each value in the word of its name. -/
def givingsOf (i : Invocation) : List Giving :=
  givingOfFlag .version i.version ++ i.ignore.map (.joined .ignore) ++
    i.config.toList.map (.joined .config) ++ i.options.map (.joined .option) ++
    [i.format.name].map (.joined .format) ++ i.file.toList.map (.joined .file) ++
    givingOfFlag .noColor i.noColor ++ i.printCommand.toList.map (.joined .printCommand)

theorem valuesOf_givingOfFlag (field : Field) (f : Flag) (isUp : Bool) :
    valuesOf field (givingOfFlag f isUp) = [] := by
  cases isUp <;> rfl

theorem count_givingOfFlag (f other : Flag) (isUp : Bool) :
    (givingOfFlag f isUp).count (.flag other) = if f = other then isUp.toNat else 0 := by
  cases isUp <;> simp [givingOfFlag, List.count_singleton]

theorem count_map_joined (f : Flag) (field : Field) (values : List Text) :
    (values.map (Giving.joined field)).count (.flag f) = 0 := by
  simp [List.count_eq_zero]

theorem isWritable_givingOfFlag {f : Flag} (hhelp : f ≠ .help) (isUp : Bool) :
    ∀ g ∈ givingOfFlag f isUp, g.IsWritable := by
  intro g hg
  cases isUp with
  | false => cases hg
  | true => exact List.mem_singleton.mp hg ▸ hhelp

theorem isWritable_map_joined {field : Field} (hfield : field ≠ .input) (values : List Text) :
    ∀ g ∈ values.map (Giving.joined field), g.IsWritable :=
  List.forall_mem_map.mpr fun _ _ => hfield

theorem says_givingsOf (i : Invocation) : Says (givingsOf i) i := by
  constructor
  case writable =>
    simp only [givingsOf, List.forall_mem_append]
    and_intros
    all_goals first
      | exact isWritable_givingOfFlag (by decide) _
      | exact isWritable_map_joined (by decide) _
  case format =>
    left
    simp [givingsOf, valuesOf_append, valuesOf_map_joined, valuesOf_givingOfFlag]
  all_goals
    simp [givingsOf, valuesOf_append, valuesOf_map_joined, valuesOf_givingOfFlag,
      count_givingOfFlag, count_map_joined]

/-- Every path that is given has a character. -/
def HasPaths (i : Invocation) : Prop :=
  ∀ path, path ∈ i.config ∨ path ∈ i.printCommand ∨ path ∈ i.input → path ≠ []

namespace Says
variable {i : Invocation} {givings : List Giving} {field : Field} {value : Text}

theorem valuesOf_input (h : Says givings i) : valuesOf .input givings = [] := by
  rw [valuesOf, List.filterMap_eq_nil_iff]
  intro g hg
  have hwritable := h.writable g hg
  cases g with
  | flag => rfl
  | joined field value => exact if_neg hwritable
  | apart field value => exact if_neg hwritable.1

theorem admits (h : Says givings i) (hpaths : HasPaths i) (hvalue : value ∈ valuesOf field givings) :
    field.Admits value := by
  cases field with
  | ignore => trivial
  | config =>
    rw [h.config, Option.mem_toList] at hvalue
    exact hpaths value (.inl hvalue)
  | option => trivial
  | format =>
    rcases h.format with hformat | ⟨hformat, -⟩
    · rw [hformat, List.mem_singleton] at hvalue
      exact ⟨i.format, hvalue⟩
    · rw [hformat] at hvalue
      cases hvalue
  | file => trivial
  | printCommand =>
    rw [h.printCommand, Option.mem_toList] at hvalue
    exact hpaths value (.inr (.inl hvalue))
  | input =>
    rw [h.valuesOf_input] at hvalue
    cases hvalue

theorem isAdmitted (h : Says givings i) (hpaths : HasPaths i) : ∀ g ∈ givings, g.IsAdmitted := by
  intro g hg
  cases g with
  | flag => trivial
  | joined field value =>
    exact h.admits hpaths (List.mem_filterMap.mpr ⟨_, hg, if_pos rfl⟩)
  | apart field value =>
    exact h.admits hpaths (List.mem_filterMap.mpr ⟨_, hg, if_pos rfl⟩)

theorem givenOnce (h : Says givings i) : GivenOnce [] givings := by
  refine ⟨fun s hs => absurd hs List.not_mem_nil, fun s hsingle => ?_⟩
  rw [List.count_nil, Nat.zero_add]
  cases s with
  | flag f =>
    rw [count_switch_flag]
    cases f with
    | version => exact h.version ▸ i.version.toNat_le
    | noColor => exact h.noColor ▸ i.noColor.toNat_le
    | help =>
      rw [List.count_eq_zero.mpr fun hg => h.writable (.flag .help) hg rfl]
      decide
  | field f =>
    rw [count_switch_field]
    cases f with
    | ignore => cases hsingle
    | config => exact h.config ▸ Option.length_toList_le
    | option => cases hsingle
    | format =>
      rcases h.format with hformat | ⟨hformat, -⟩
      · exact hformat ▸ Nat.le_refl 1
      · exact hformat ▸ Nat.zero_le 1
    | file => exact h.file ▸ Option.length_toList_le
    | printCommand => exact h.printCommand ▸ Option.length_toList_le
    | input => exact h.valuesOf_input ▸ Nat.zero_le 1

theorem foldl_tell_eq (h : Says givings i) :
    givings.foldl Giving.tell .default = { i with input := none } := by
  have hformat : (valuesOf .format givings).foldl
      (fun format value => (ReportFormat.ofName? value).getD format) .text = i.format := by
    rcases h.format with hformat | ⟨hformat, htext⟩
    · rw [hformat, List.foldl_cons, ofName?_name]
      rfl
    · rw [hformat, htext]
      rfl
  have hlast (given? : Option Text) :
      given?.toList.foldl (fun _ value => some value) none = given? := by
    cases given? <;> rfl
  rw [foldl_tell]
  simp only [Invocation.default, hformat, h.ignore, h.config, h.options, h.file, h.printCommand,
    h.valuesOf_input, hlast, List.nil_append, Bool.false_or, List.foldl_nil,
    contains_of_count h.version, contains_of_count h.noColor]

end Says

theorem parse_write_eq {r : Reading} {givings : List Giving}
    (hr : (givings.flatMap Giving.words).foldlM read Reading.start = .ok r) (input? : Option Text) :
    parse (write givings input?) =
      (input?.toList.flatMap fun path => [['-', '-'], path]).foldlM read r >>= fun r =>
        settle r >>= fun r => pure r.said := by
  unfold parse write
  rw [List.foldlM_append, hr]
  rfl

/-- The input comes last. It is still pending when the words end, and then it is taken up. -/
theorem Reading.HasSaid.settle_input {r : Reading} {i : Invocation} {given : List Switch}
    (h : r.HasSaid { i with input := none } given) (hpaths : HasPaths i)
    (hnew : .field .input ∉ given) :
    ((i.input.toList.flatMap fun path => [['-', '-'], path]).foldlM read r >>= fun r =>
      CommandLine.settle r >>= fun r => pure r.said) = .ok i := by
  cases hinput : i.input with
  | none =>
    show (CommandLine.settle r >>= _) = _
    rw [h.settle_eq, ← hinput]
    rfl
  | some path =>
    have hpath : Field.Admits .input path := hpaths path (.inr (.inr hinput))
    show ([['-', '-'], path].foldlM read r >>= _) = _
    rw [h.read_input path]
    show (takeUp ⟨{ i with input := none }, given, none, true, true⟩ .input (some path) >>= _) = _
    rw [takeUp_of_admits _ hpath hnew]
    show Except.ok { i with input := some path } = _
    rw [← hinput]

/-- **Command lines are read back.** Whatever a user means, as long as the paths are not empty, can be
written on a command line, and however it is written it is read as what was meant: in any order that
keeps the codes and the options for the compiler in theirs, each value in the word of its name or in a
word of its own, the input last. Only a value that begins with a dash has to stand in the word of its
name, and an option for the compiler not even then. -/
theorem parse_written {i : Invocation} (hpaths : HasPaths i) :
    (∃ givings, Says givings i) ∧
      ∀ givings, Says givings i → parse (write givings i.input) = .ok i := by
  refine ⟨⟨givingsOf i, says_givingsOf i⟩, fun givings h => ?_⟩
  obtain ⟨r, all, hr, hsaid, hall⟩ :=
    read_allWords (hasSaid_settled .default []) h.writable (h.isAdmitted hpaths) h.givenOnce
  rw [h.foldl_tell_eq] at hsaid
  have hnew : .field .input ∉ all := by
    intro hmem
    rcases hall _ hmem with hnone | hgiven
    · cases hnone
    · rw [← List.count_pos_iff, count_switch_field, h.valuesOf_input] at hgiven
      cases hgiven
  rw [parse_write_eq hr]
  exact hsaid.settle_input hpaths hnew

/-- Everything that looks like a name where it is a value: codes and options that begin with a dash, two
dashes as an option, an input that is called like a flag. -/
def dashes : Invocation where
  version := false
  ignore := ["-57".toList, "58, 59".toList]
  config := some "a b.toml".toList
  options := ["--".toList, "--ignore".toList, "-".toList, []]
  format := .json
  file := some []
  noColor := true
  printCommand := none
  input := some "--help".toList

/-- A way to say it, the values of each field among those of the others. -/
def dashesGivings : List Giving :=
  [.apart .option "--".toList, .joined .ignore "-57".toList, .flag .noColor, .apart .file [],
    .apart .option "--ignore".toList, .joined .format "json".toList,
    .apart .ignore "58, 59".toList, .joined .option "-".toList,
    .apart .config "a b.toml".toList, .apart .option []]

theorem hasPaths_dashes : HasPaths dashes := by
  rintro path (hconfig | hprint | hinput)
  · cases hconfig
    decide
  · cases hprint
  · cases hinput
    decide

theorem says_dashesGivings : Says dashesGivings dashes :=
  ⟨by decide, rfl, rfl, rfl, rfl, .inl rfl, rfl, rfl, rfl⟩

/-- The words are those that a shell would pass on, and they are read as what was meant. -/
theorem parse_written_dashes :
    HasPaths dashes ∧ Says dashesGivings dashes ∧
      write dashesGivings dashes.input =
        ["--option", "--", "--ignore=-57", "--no-color", "--file", "", "--option", "--ignore",
          "--format=json", "--ignore", "58, 59", "--option=-", "--config", "a b.toml", "--option",
          "", "--", "--help"].map String.toList ∧
      parse (write dashesGivings dashes.input) = .ok dashes :=
  ⟨hasPaths_dashes, says_dashesGivings, by decide,
    (parse_written hasPaths_dashes).2 dashesGivings says_dashesGivings⟩

end PascalLint.CommandLine
