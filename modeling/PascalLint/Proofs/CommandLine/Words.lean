import PascalLint.CommandLine.Parse
import PascalLint.CommandLine.Written
import PascalLint.Proofs.Text.Lines

/-! The words of a command line.

Each thing that is given on a command line stands there in one word or in two. Reading may leave its
value pending, to be taken up with what comes next, so a reading is looked at as it will be once that is
done (`Reading.HasSaid`). Then every giving is one step: its words are read as what it says, whatever was
said before and however that was written (`read_words`), if it is not a second giving of what can be given
once. By induction a list of givings says what its members say one after the other
(`read_allWords`). -/
namespace PascalLint

/-- The invocation with the value of a field, where the field can have the value. -/
def Invocation.withValue (i : Invocation) (field : Field) (value : Text) : Invocation :=
  match field with
  | .ignore => { i with ignore := i.ignore ++ [value] }
  | .config => { i with config := some value }
  | .option => { i with options := i.options ++ [value] }
  | .format => { i with format := (ReportFormat.ofName? value).getD i.format }
  | .file => { i with file := some value }
  | .printCommand => { i with printCommand := some value }
  | .input => { i with input := some value }

/-- A field can have a value: a path has a character, and a form of the report has a name. -/
def Field.Admits : Field → Text → Prop
  | .config, value => value ≠ []
  | .printCommand, value => value ≠ []
  | .input, value => value ≠ []
  | .format, value => ∃ format : ReportFormat, value = format.name
  | _, _ => True

/-- Whether something may be given more than once; a flag may not. -/
def Switch.isRepeatable : Switch → Bool
  | .flag _ => false
  | .field f => f.isRepeatable

namespace CommandLine

namespace Giving

/-- What is given. -/
def switch : Giving → Switch
  | flag f => .flag f
  | joined field _ => .field field
  | apart field _ => .field field

/-- The value that is given to a field. -/
def value? (field : Field) : Giving → Option Text
  | flag _ => none
  | joined other value => if other = field then some value else none
  | apart other value => if other = field then some value else none

/-- Help is not asked for, and a field has a name. A value in a word of its own does not begin with a
dash, unless its field takes dashes. -/
def IsWritable : Giving → Prop
  | flag f => f ≠ .help
  | joined field _ => field ≠ .input
  | apart field value => field ≠ .input ∧ (field.takesDashes = true ∨ value.head? ≠ some '-')

instance : DecidablePred IsWritable
  | flag f => inferInstanceAs (Decidable (f ≠ .help))
  | joined field _ => inferInstanceAs (Decidable (field ≠ .input))
  | apart field value => inferInstanceAs
      (Decidable (field ≠ .input ∧ (field.takesDashes = true ∨ value.head? ≠ some '-')))

/-- The field that something is given to, if any, can have the value. -/
def IsAdmitted : Giving → Prop
  | flag _ => True
  | joined field value => field.Admits value
  | apart field value => field.Admits value

/-- The invocation when something more is said. -/
def tell (i : Invocation) : Giving → Invocation
  | flag .version => { i with version := true }
  | flag .noColor => { i with noColor := true }
  | flag .help => i
  | joined field value => i.withValue field value
  | apart field value => i.withValue field value

end Giving

/-- What can be given once and has been, after one more. -/
def noted (s : Switch) (given : List Switch) : List Switch :=
  if s.isRepeatable then given else s :: given

/-- What has been read says `said` once the field that is pending has been taken up, whether or not two
dashes come before that; and the next word will not be taken for a value. -/
structure Reading.HasSaid (r : Reading) (said : Invocation) (given : List Switch) : Prop where
  settle (onlyInputs : Bool) :
    settle { r with onlyInputs } = .ok ⟨said, given, none, false, onlyInputs⟩
  awaits : r.awaits = none
  onlyInputs : r.onlyInputs = false
  hasInput : r.hasInput = false

section Step
variable {r : Reading} {i : Invocation} {given : List Switch} {field : Field} {flag : Flag}
  {value name : Text} {g : Giving}

/-! ### Taking up -/

theorem path?_of_ne_nil (field : Field) (h : value ≠ []) : path? field value = .ok value := by
  unfold path?
  rw [if_neg (by simpa using h)]

theorem ofName?_name (format : ReportFormat) : ReportFormat.ofName? format.name = some format := by
  cases format <;> decide

theorem setField_of_admits (i : Invocation) (h : field.Admits value) :
    setField i field value = .ok (i.withValue field value) := by
  cases field with
  | ignore => rfl
  | config =>
    unfold setField
    simp only [path?_of_ne_nil .config h]
    rfl
  | option => rfl
  | format =>
    obtain ⟨format, rfl⟩ := h
    unfold setField Invocation.withValue
    simp only [ofName?_name]
    rfl
  | file => rfl
  | printCommand =>
    unfold setField
    simp only [path?_of_ne_nil .printCommand h]
    rfl
  | input =>
    unfold setField
    simp only [path?_of_ne_nil .input h]
    rfl

theorem takeUp_of_admits (i : Invocation) (h : field.Admits value) (hnew : .field field ∉ given)
    (hasInput onlyInputs : Bool) :
    takeUp ⟨i, given, none, hasInput, onlyInputs⟩ field (some value) =
      .ok ⟨i.withValue field value, noted (.field field) given, none, hasInput, onlyInputs⟩ := by
  have hgiven : given.contains (.field field) = false := by simpa using hnew
  unfold takeUp
  simp only [hgiven, setField_of_admits i h]
  rfl

/-! ### Words -/

theorem exists_dashed_eq {s : Switch} (hs : s ≠ .field .input) : ∃ c rest,
    dashed s = '-' :: '-' :: c :: rest ∧ Switch.ofLong? (c :: rest) = some s ∧ '=' ∉ c :: rest := by
  cases s with
  | flag f => cases f <;> exact ⟨_, _, rfl, by decide, by decide⟩
  | field f =>
    cases f with
    | input => exact absurd rfl hs
    | _ => exact ⟨_, _, rfl, by decide, by decide⟩

theorem read_dashed (honly : r.onlyInputs = false) (hawaits : r.awaits = none) (c : Char)
    (rest : Text) : read r ('-' :: '-' :: c :: rest) = long r (c :: rest) := by
  unfold read
  rw [honly, hawaits]
  rfl

/-- A name ends before the equals sign, if there is one. -/
theorem cut_name (hequals : '=' ∉ name) (rest : Text) (hrest : ∀ d ∈ rest.head?, d = '=') :
    (name ++ rest).takeWhile (· != '=') = name ∧ (name ++ rest).dropWhile (· != '=') = rest := by
  have hname : ∀ c ∈ name, (c != '=') = true := by
    intro c hc
    exact bne_iff_ne.mpr fun heq => hequals (heq ▸ hc)
  have hstop : ∀ d ∈ rest.head?, (d != '=') = false := by
    intro d hd
    rw [hrest d hd]
    rfl
  exact ⟨Text.takeWhile_append_of_head hname hstop, Text.dropWhile_append_of_head hname hstop⟩

theorem long_of_flag (hname : Switch.ofLong? name = some (.flag flag)) (hequals : '=' ∉ name)
    (r : Reading) : long r name = raise r flag := by
  obtain ⟨htake, hdrop⟩ := cut_name hequals [] (by simp)
  rw [List.append_nil] at htake hdrop
  unfold long
  simp only [htake, hdrop, hname]

theorem long_of_field (hname : Switch.ofLong? name = some (.field field)) (hequals : '=' ∉ name)
    (r : Reading) : long r name = await r field := by
  obtain ⟨htake, hdrop⟩ := cut_name hequals [] (by simp)
  rw [List.append_nil] at htake hdrop
  unfold long
  simp only [htake, hdrop, hname]

theorem long_of_joined (hname : Switch.ofLong? name = some (.field field)) (hequals : '=' ∉ name)
    (r : Reading) (value : Text) : long r (name ++ '=' :: value) = attach r field value := by
  obtain ⟨htake, hdrop⟩ := cut_name hequals ('=' :: value) (by simp)
  unfold long
  simp only [htake, hdrop, hname]

/-- A word behind the name of a field is its value. -/
theorem read_value (honly : r.onlyInputs = false) (hawaits : r.awaits = some field)
    (hvalue : field.takesDashes = true ∨ value.head? ≠ some '-') :
    read r value = .ok { r with pending := some ⟨field, some value⟩ } := by
  have hbare : bare r value = .ok { r with pending := some ⟨field, some value⟩ } := by
    unfold bare
    rw [hawaits]
  unfold read
  rw [if_neg (by rw [honly]; decide)]
  by_cases hdashes : r.awaits.any Field.takesDashes = true
  · rw [if_pos hdashes, hbare]
  · rw [if_neg hdashes]
    rw [hawaits] at hdashes
    have hhead : value.head? ≠ some '-' := hvalue.resolve_left hdashes
    split
    · exact absurd rfl hhead
    · exact absurd rfl hhead
    · exact absurd rfl hhead
    · exact hbare

/-! ### One giving -/

/-- A reading in which nothing is pending. -/
theorem hasSaid_settled (i : Invocation) (given : List Switch) :
    Reading.HasSaid ⟨i, given, none, false, false⟩ i given :=
  ⟨fun _ => rfl, rfl, rfl, rfl⟩

theorem Reading.HasSaid.settle_eq (h : r.HasSaid i given) :
    CommandLine.settle r = .ok ⟨i, given, none, false, false⟩ := by
  calc CommandLine.settle r = .ok ⟨i, given, none, false, r.onlyInputs⟩ := h.settle r.onlyInputs
    _ = .ok ⟨i, given, none, false, false⟩ := by rw [h.onlyInputs]

theorem Reading.HasSaid.raise_eq (h : r.HasSaid i given) (hhelp : flag ≠ .help)
    (hnew : .flag flag ∉ given) : raise r flag =
      .ok ⟨(Giving.flag flag).tell i, noted (.flag flag) given, none, false, false⟩ := by
  have hgiven : given.contains (.flag flag) = false := by simpa using hnew
  unfold raise
  simp only [h.settle_eq]
  show (if given.contains (.flag flag) = true then _ else _) = _
  rw [if_neg (by rw [hgiven]; decide)]
  cases flag with
  | version => rfl
  | noColor => rfl
  | help => exact absurd rfl hhelp

theorem Reading.HasSaid.attach_eq (h : r.HasSaid i given) (hadmits : field.Admits value)
    (hnew : .field field ∉ given) : attach r field value =
      .ok ⟨i.withValue field value, noted (.field field) given, none, false, false⟩ := by
  unfold attach
  rw [h.settle_eq]
  exact takeUp_of_admits i hadmits hnew false false

theorem Reading.HasSaid.await_eq (h : r.HasSaid i given) (field : Field) :
    await r field = .ok ⟨i, given, some ⟨field, none⟩, false, false⟩ := by
  unfold await
  rw [h.settle_eq]
  rfl

/-- A value that is pending, in a word of its own. -/
theorem hasSaid_pending (i : Invocation) (hadmits : field.Admits value)
    (hnew : .field field ∉ given) :
    Reading.HasSaid ⟨i, given, some ⟨field, some value⟩, false, false⟩ (i.withValue field value)
      (noted (.field field) given) :=
  ⟨takeUp_of_admits i hadmits hnew false, rfl, rfl, rfl⟩

/-- **The words of one giving** are read as what they say, whatever was said before. -/
theorem read_words (h : r.HasSaid i given) (hwritable : g.IsWritable) (hadmitted : g.IsAdmitted)
    (hnew : g.switch ∉ given) : ∃ next, g.words.foldlM read r = .ok next ∧
      next.HasSaid (g.tell i) (noted g.switch given) := by
  cases g with
  | flag f =>
    obtain ⟨c, rest, hdashed, hname, hequals⟩ := exists_dashed_eq (s := .flag f) (by simp)
    refine ⟨_, ?_, hasSaid_settled _ _⟩
    show [dashed (.flag f)].foldlM read r = _
    rw [List.foldlM_cons, hdashed, read_dashed h.onlyInputs h.awaits, long_of_flag hname hequals,
      h.raise_eq hwritable hnew]
    rfl
  | joined field value =>
    have hfield : Switch.field field ≠ .field .input := fun heq => hwritable (Switch.field.inj heq)
    obtain ⟨c, rest, hdashed, hname, hequals⟩ := exists_dashed_eq hfield
    refine ⟨_, ?_, hasSaid_settled _ _⟩
    show [dashed (.field field) ++ '=' :: value].foldlM read r = _
    have hlong := long_of_joined hname hequals r value
    rw [List.cons_append] at hlong
    rw [List.foldlM_cons, hdashed, List.cons_append, List.cons_append, List.cons_append,
      read_dashed h.onlyInputs h.awaits, hlong, h.attach_eq hadmitted hnew]
    rfl
  | apart field value =>
    have hfield : Switch.field field ≠ .field .input :=
      fun heq => hwritable.1 (Switch.field.inj heq)
    obtain ⟨c, rest, hdashed, hname, hequals⟩ := exists_dashed_eq hfield
    -- the value stays pending until a name or the end comes
    refine ⟨_, ?_, hasSaid_pending i hadmitted hnew⟩
    show [dashed (.field field), value].foldlM read r = _
    rw [List.foldlM_cons, hdashed, read_dashed h.onlyInputs h.awaits, long_of_field hname hequals,
      h.await_eq field]
    show (read _ value >>= _) = _
    rw [read_value rfl rfl hwritable.2]
    rfl

/-- The input after two dashes, whatever it begins with. -/
theorem Reading.HasSaid.read_input (h : r.HasSaid i given) (path : Text) :
    [['-', '-'], path].foldlM read r =
      .ok ⟨i, given, some ⟨.input, some path⟩, true, true⟩ := by
  have hdashes : read r ['-', '-'] = .ok { r with onlyInputs := true } := by
    unfold read
    rw [if_neg (by rw [h.onlyInputs]; decide), h.awaits]
    rfl
  have hpath : read { r with onlyInputs := true } path =
      .ok ⟨i, given, some ⟨.input, some path⟩, true, true⟩ := by
    show input { r with onlyInputs := true } path = _
    unfold input
    rw [if_neg (by simp [h.hasInput]), h.settle true]
    rfl
  rw [List.foldlM_cons, hdashes]
  show (read { r with onlyInputs := true } path >>= pure) = _
  rw [hpath]
  rfl

end Step

/-! ### All givings -/

/-- Of what can be given once, nothing is given twice, what has been given already included. -/
structure GivenOnce (given : List Switch) (givings : List Giving) : Prop where
  single : ∀ s ∈ given, s.isRepeatable = false
  once : ∀ s : Switch, s.isRepeatable = false →
    given.count s + (givings.map Giving.switch).count s ≤ 1

section Run
variable {r : Reading} {i : Invocation} {given : List Switch} {givings : List Giving} {g : Giving}

/-- What has been given once does not come next. -/
theorem GivenOnce.not_mem (h : GivenOnce given (g :: givings)) : g.switch ∉ given := by
  intro hmem
  have honce := h.once g.switch (h.single g.switch hmem)
  have hpos := List.count_pos_iff.mpr hmem
  rw [List.map_cons, List.count_cons_self] at honce
  omega

theorem GivenOnce.noted (h : GivenOnce given (g :: givings)) :
    GivenOnce (noted g.switch given) givings := by
  unfold CommandLine.noted
  constructor
  · intro s hs
    split at hs
    · exact h.single s hs
    · rename_i hsingle
      rcases List.mem_cons.mp hs with rfl | hs
      · exact Bool.eq_false_iff.mpr hsingle
      · exact h.single s hs
  · intro s hsingle
    have honce := h.once s hsingle
    rw [List.map_cons, List.count_cons] at honce
    split
    · omega
    · rw [List.count_cons]
      omega

/-- **The words of all givings**, one after the other. -/
theorem read_allWords (h : r.HasSaid i given) (hwritable : ∀ g ∈ givings, g.IsWritable)
    (hadmitted : ∀ g ∈ givings, g.IsAdmitted) (honce : GivenOnce given givings) :
    ∃ next all, (givings.flatMap Giving.words).foldlM read r = .ok next ∧
      next.HasSaid (givings.foldl Giving.tell i) all ∧
      ∀ s ∈ all, s ∈ given ∨ s ∈ givings.map Giving.switch := by
  induction givings generalizing r i given with
  | nil => exact ⟨r, given, rfl, h, fun s hs => .inl hs⟩
  | cons g givings ih =>
    rw [List.forall_mem_cons] at hwritable hadmitted
    obtain ⟨mid, hmid, hsaid⟩ := read_words h hwritable.1 hadmitted.1 honce.not_mem
    obtain ⟨next, all, hnext, hall, hswitches⟩ := ih hsaid hwritable.2 hadmitted.2 honce.noted
    refine ⟨next, all, ?_, hall, fun s hs => ?_⟩
    · rw [List.flatMap_cons, List.foldlM_append, hmid]
      exact hnext
    · rw [List.map_cons, List.mem_cons]
      rcases hswitches s hs with hnoted | hlater
      · unfold CommandLine.noted at hnoted
        split at hnoted
        · exact .inl hnoted
        · rcases List.mem_cons.mp hnoted with heq | hgiven
          · exact .inr (.inl heq)
          · exact .inl hgiven
      · exact .inr (.inr hlater)

end Run

end CommandLine

end PascalLint
