import PascalLint.Proofs.Toml.Keys
import PascalLint.Settings.Document

/-! The documents that are settings.

Three keys can stand in a document of settings, each with values of its own (`Settings.Accepts`). Any
other entry is at fault (`Settings.Offends`). The entries are taken in the order of the parsed table: one that
is accepted sets its field and no other, and the first that is at fault is what is reported. So a
document is one of settings if all its entries are accepted, and then every field is as it is written, or
keeps its default if its key is missing (`settings_of_document`). That each field is written only once is
the document's part: no key stands twice in it.

The order of the parsed table is the document's, but that a table which a later header takes over, after
the header of one of its sub-tables has brought it about, moves to the end. -/
namespace PascalLint

namespace Settings
open Toml (Value Table)

/-! ### Values -/

/-- A value stands for the compiler's path. -/
inductive WritesPath : Value → Option Text → Prop where
  | string (path : Text) : WritesPath (.string path) (some path)

/-- A value stands for codes to mute, which are kept as they are written. -/
inductive WritesCodes : Value → IgnoreSetting → Prop where
  | string (codes : Text) : WritesCodes (.string codes) (.text codes)
  | strings (codes : List Text) : WritesCodes (.array (codes.map .string)) (.list codes)

/-- A value stands for options. -/
inductive WritesOptions : Value → List Text → Prop where
  | strings (options : List Text) : WritesOptions (.array (options.map .string)) options

/-- The keys that settings have. -/
def keys : List Text := ["executable".toList, "ignore".toList, "options".toList]

/-- An entry of a document that settings can have. -/
inductive Accepts : Text × Value → Prop where
  | executable {value : Value} {path : Option Text} (h : WritesPath value path) :
      Accepts ("executable".toList, value)
  | ignore {value : Value} {codes : IgnoreSetting} (h : WritesCodes value codes) :
      Accepts ("ignore".toList, value)
  | options {value : Value} {options : List Text} (h : WritesOptions value options) :
      Accepts ("options".toList, value)

/-- An entry of a document that settings cannot have, and what is wrong with it. -/
inductive Offends : Text × Value → SettingsFault → Prop where
  | unknownKey {key : Text} {value : Value} (h : key ∉ keys) :
      Offends (key, value) (.unknownKey key)
  | executable {value : Value} (h : ∀ path, ¬WritesPath value path) :
      Offends ("executable".toList, value) (.executableShape value)
  | ignore {value : Value} (h : ∀ codes, ¬WritesCodes value codes) :
      Offends ("ignore".toList, value) .ignoreShape
  | options {value : Value} (h : ∀ items, value ≠ .array items) :
      Offends ("options".toList, value) (.optionsShape value)
  /-- Of the options, `other` is the first that is no string. -/
  | option {before : List Text} {other : Value} {after : List Value} (h : ∀ s, other ≠ .string s) :
      Offends ("options".toList, .array (before.map .string ++ other :: after)) (.optionShape other)

/-- One entry sets one field. -/
inductive Sets (s : Settings) : Text × Value → Settings → Prop where
  | executable {value : Value} {path : Option Text} (h : WritesPath value path) :
      Sets s ("executable".toList, value) { s with executable := path }
  | ignore {value : Value} {codes : IgnoreSetting} (h : WritesCodes value codes) :
      Sets s ("ignore".toList, value) { s with ignore := codes }
  | options {value : Value} {options : List Text} (h : WritesOptions value options) :
      Sets s ("options".toList, value) { s with options }

/-- A field is as the document has it under a key, and stays as it was if the key is missing. -/
structure Holds {α : Type} (key : Text) (Writes : Value → α → Prop) (table : Table)
    (initial final : α) : Prop where
  given : ∀ value a, (key, value) ∈ table → Writes value a → final = a
  missing : key ∉ table.map Prod.fst → final = initial

/-- Settings are those of a document: each field holds what is given, or else its default. -/
structure IsOf (table : Table) (s : Settings) : Prop where
  executable : Holds "executable".toList WritesPath table none s.executable
  ignore : Holds "ignore".toList WritesCodes table (.list []) s.ignore
  options : Holds "options".toList WritesOptions table [] s.options

section Entry
variable {key : Text} {value other : Value} {fault : SettingsFault}

/-! ### Lists of strings -/

theorem strings_map_string (texts : List Text) : strings (texts.map .string) = .ok texts := by
  induction texts with
  | nil => rfl
  | cons text texts ih =>
    rw [List.map_cons, strings, ih]
    rfl

theorem strings_of_other (before : List Text) (h : ∀ s, other ≠ .string s) (after : List Value) :
    strings (before.map .string ++ other :: after) = .error other := by
  induction before with
  | nil =>
    cases other with
    | string s => exact absurd rfl (h s)
    | _ => rfl
  | cons text before ih =>
    rw [List.map_cons, List.cons_append, strings, ih]
    rfl

/-- Values are all strings, or one is the first that is none. -/
theorem strings_or_other (items : List Value) :
    (∃ texts : List Text, items = texts.map .string) ∨
      ∃ (before : List Text) (other : Value) (after : List Value),
        items = before.map .string ++ other :: after ∧ ∀ s, other ≠ .string s := by
  induction items with
  | nil => exact .inl ⟨[], rfl⟩
  | cons item items ih =>
    by_cases hstring : ∃ s, item = .string s
    · obtain ⟨s, rfl⟩ := hstring
      rcases ih with ⟨texts, rfl⟩ | ⟨before, other, after, rfl, hother⟩
      · exact .inl ⟨s :: texts, rfl⟩
      · exact .inr ⟨s :: before, other, after, rfl, hother⟩
    · exact .inr ⟨[], item, items, rfl, fun s hs => hstring ⟨s, hs⟩⟩

/-! ### One entry -/

/-- Every entry is accepted or at fault. -/
theorem accepts_or_offends (entry : Text × Value) :
    Accepts entry ∨ ∃ fault, Offends entry fault := by
  obtain ⟨key, value⟩ := entry
  by_cases hexecutable : key = "executable".toList
  · subst hexecutable
    by_cases hpath : ∃ path, WritesPath value path
    · obtain ⟨path, hpath⟩ := hpath
      exact .inl (.executable hpath)
    · exact .inr ⟨_, .executable (not_exists.mp hpath)⟩
  by_cases hignore : key = "ignore".toList
  · subst hignore
    by_cases hcodes : ∃ codes, WritesCodes value codes
    · obtain ⟨codes, hcodes⟩ := hcodes
      exact .inl (.ignore hcodes)
    · exact .inr ⟨_, .ignore (not_exists.mp hcodes)⟩
  by_cases hoptions : key = "options".toList
  · subst hoptions
    by_cases harray : ∃ items, value = .array items
    · obtain ⟨items, rfl⟩ := harray
      rcases strings_or_other items with ⟨options, rfl⟩ | ⟨before, other, after, rfl, hother⟩
      · exact .inl (.options (.strings options))
      · exact .inr ⟨_, .option hother⟩
    · exact .inr ⟨_, .options (not_exists.mp harray)⟩
  · refine .inr ⟨_, .unknownKey ?_⟩
    simp only [keys, List.mem_cons, List.not_mem_nil, or_false, not_or]
    exact ⟨hexecutable, hignore, hoptions⟩

/-! The equations of `setKey`, one for each of the keys. -/

theorem setKey_executable (s : Settings) (h : WritesPath value path) :
    s.setKey "executable".toList value = .ok { s with executable := path } := by
  cases h
  rfl

theorem setKey_ignore (s : Settings) {codes : IgnoreSetting} (h : WritesCodes value codes) :
    s.setKey "ignore".toList value = .ok { s with ignore := codes } := by
  cases h with
  | string => rfl
  | strings codes =>
    unfold setKey
    rw [if_neg (by decide), if_pos rfl]
    simp only [strings_map_string]

theorem setKey_options (s : Settings) {options : List Text} (h : WritesOptions value options) :
    s.setKey "options".toList value = .ok { s with options } := by
  cases h
  unfold setKey
  rw [if_neg (by decide), if_neg (by decide), if_pos rfl]
  simp only [strings_map_string]

theorem setKey_of_offends (s : Settings) (h : Offends (key, value) fault) :
    s.setKey key value = .error fault := by
  cases h with
  | unknownKey h =>
    simp only [keys, List.mem_cons, List.not_mem_nil, or_false, not_or] at h
    unfold setKey
    rw [if_neg h.1, if_neg h.2.1, if_neg h.2.2]
  | executable h =>
    cases value with
    | string path => exact absurd (.string path) (h _)
    | _ => rfl
  | ignore h =>
    cases value with
    | string codes => exact absurd (.string codes) (h _)
    | array items =>
      rcases strings_or_other items with ⟨codes, rfl⟩ | ⟨before, other, after, rfl, hother⟩
      · exact absurd (.strings codes) (h _)
      · unfold setKey
        rw [if_neg (by decide), if_pos rfl]
        simp only [strings_of_other before hother after]
    | _ => rfl
  | options h =>
    cases value with
    | array items => exact absurd rfl (h items)
    | _ => rfl
  | @option before other after hother =>
    unfold setKey
    rw [if_neg (by decide), if_neg (by decide), if_pos rfl]
    simp only [strings_of_other before hother after]

end Entry

/-! ### All entries, in order -/

section Document
variable {s t : Settings} {table : Table} {entry : Text × Value} {fault : SettingsFault}

/-- The settings after the entries of a table, from any settings on. -/
def setAll (s : Settings) (table : Table) : Except SettingsFault Settings :=
  table.foldlM (fun s (key, value) => s.setKey key value) s

theorem setAll_cons (s : Settings) (key : Text) (value : Value) (table : Table) :
    s.setAll ((key, value) :: table) = (s.setKey key value).bind (setAll · table) := rfl

theorem exists_setKey_of_accepts (s : Settings) (h : Accepts entry) :
    ∃ t, s.setKey entry.1 entry.2 = .ok t := by
  cases h with
  | executable h => exact ⟨_, setKey_executable s h⟩
  | ignore h => exact ⟨_, setKey_ignore s h⟩
  | options h => exact ⟨_, setKey_options s h⟩

theorem exists_setAll_of_accepts (h : ∀ entry ∈ table, Accepts entry) (s : Settings) :
    ∃ t, s.setAll table = .ok t := by
  induction table generalizing s with
  | nil => exact ⟨s, rfl⟩
  | cons entry table ih =>
    rw [List.forall_mem_cons] at h
    obtain ⟨next, hnext⟩ := exists_setKey_of_accepts s h.1
    obtain ⟨t, ht⟩ := ih h.2 next
    refine ⟨t, ?_⟩
    rw [setAll_cons, hnext]
    exact ht

/-- The first entry at fault is the one that is reported. -/
theorem setAll_of_offends {before after : Table} (hbefore : ∀ earlier ∈ before, Accepts earlier)
    (h : Offends entry fault) (s : Settings) :
    s.setAll (before ++ entry :: after) = .error fault := by
  induction before generalizing s with
  | nil =>
    rw [List.nil_append, setAll_cons, setKey_of_offends s h]
    rfl
  | cons earlier before ih =>
    rw [List.forall_mem_cons] at hbefore
    obtain ⟨next, hnext⟩ := exists_setKey_of_accepts s hbefore.1
    rw [List.cons_append, setAll_cons, hnext]
    exact ih hbefore.2 next

/-- All entries are accepted, or one is the first at fault. -/
theorem accepts_or_exists_first (table : Table) : (∀ entry ∈ table, Accepts entry) ∨
    ∃ before entry after fault, table = before ++ entry :: after ∧
      (∀ earlier ∈ before, Accepts earlier) ∧ Offends entry fault := by
  induction table with
  | nil => exact .inl (List.forall_mem_nil _)
  | cons entry table ih =>
    rcases accepts_or_offends entry with haccepts | ⟨fault, hoffends⟩
    · rcases ih with hall | ⟨before, other, after, fault, rfl, hbefore, hoffends⟩
      · exact .inl (List.forall_mem_cons.mpr ⟨haccepts, hall⟩)
      · exact .inr ⟨entry :: before, other, after, fault, rfl,
          List.forall_mem_cons.mpr ⟨haccepts, hbefore⟩, hoffends⟩
    · exact .inr ⟨[], entry, table, fault, rfl, List.forall_mem_nil _, hoffends⟩

/-- **A field after a table without repeated keys.** What is asked of the field concerns one entry: an
entry with its key sets it, and one with another key leaves it alone. -/
theorem holds_of_setAll {α : Type} {field : Settings → α} {key : Text} {Writes : Value → α → Prop}
    (hset : ∀ {s t : Settings} {value : Value} {a : α}, s.setKey key value = .ok t →
      Writes value a → field t = a)
    (hkeep : ∀ {s t : Settings} {other : Text} {value : Value}, s.setKey other value = .ok t →
      other ≠ key → field t = field s)
    (hkeys : (table.map Prod.fst).Nodup) (h : s.setAll table = .ok t) :
    Holds key Writes table (field s) (field t) := by
  induction table generalizing s with
  | nil =>
    cases h
    exact ⟨fun _ _ hmem => absurd hmem List.not_mem_nil, fun _ => rfl⟩
  | cons entry table ih =>
    obtain ⟨first, value⟩ := entry
    rw [List.map_cons, List.nodup_cons] at hkeys
    rw [setAll_cons] at h
    cases hnext : s.setKey first value with
    | error fault =>
      rw [hnext] at h
      cases h
    | ok next =>
      rw [hnext] at h
      have hrest := ih hkeys.2 h
      constructor
      · intro given a hmem hwrites
        rcases List.mem_cons.mp hmem with heq | hmem
        · -- the key does not come again
          cases heq
          rw [hrest.missing hkeys.1]
          exact hset hnext hwrites
        · exact hrest.given given a hmem hwrites
      · intro hmissing
        rw [List.map_cons, List.mem_cons, not_or] at hmissing
        rw [hrest.missing hmissing.2]
        exact hkeep hnext (Ne.symm hmissing.1)

theorem sets_of_setKey {key : Text} {value : Value} (h : s.setKey key value = .ok t) :
    Sets s (key, value) t := by
  rcases accepts_or_offends (key, value) with haccepts | ⟨fault, hoffends⟩
  · cases haccepts with
    | executable hwrites =>
      cases (setKey_executable s hwrites).symm.trans h
      exact .executable hwrites
    | ignore hwrites =>
      cases (setKey_ignore s hwrites).symm.trans h
      exact .ignore hwrites
    | options hwrites =>
      cases (setKey_options s hwrites).symm.trans h
      exact .options hwrites
  · cases (setKey_of_offends s hoffends).symm.trans h

theorem holds_executable (hkeys : (table.map Prod.fst).Nodup) (h : s.setAll table = .ok t) :
    Holds "executable".toList WritesPath table s.executable t.executable := by
  refine holds_of_setAll (fun hset hwrites => ?_) (fun hset hne => ?_) hkeys h
  · cases (setKey_executable _ hwrites).symm.trans hset
    rfl
  · cases sets_of_setKey hset with
    | executable => exact absurd rfl hne
    | ignore => rfl
    | options => rfl

theorem holds_ignore (hkeys : (table.map Prod.fst).Nodup) (h : s.setAll table = .ok t) :
    Holds "ignore".toList WritesCodes table s.ignore t.ignore := by
  refine holds_of_setAll (fun hset hwrites => ?_) (fun hset hne => ?_) hkeys h
  · cases (setKey_ignore _ hwrites).symm.trans hset
    rfl
  · cases sets_of_setKey hset with
    | executable => rfl
    | ignore => exact absurd rfl hne
    | options => rfl

theorem holds_options (hkeys : (table.map Prod.fst).Nodup) (h : s.setAll table = .ok t) :
    Holds "options".toList WritesOptions table s.options t.options := by
  refine holds_of_setAll (fun hset hwrites => ?_) (fun hset hne => ?_) hkeys h
  · cases (setKey_options _ hwrites).symm.trans hset
    rfl
  · cases sets_of_setKey hset with
    | executable => rfl
    | ignore => rfl
    | options => exact absurd rfl hne

theorem isOf_of_ofTable (hkeys : (table.map Prod.fst).Nodup) (h : ofTable table = .ok t) :
    IsOf table t :=
  ⟨holds_executable hkeys h, holds_ignore hkeys h, holds_options hkeys h⟩

theorem ofText_of_parse? {text : Text} (hparse : Toml.parse? text = some table) :
    ofText text = (ofTable table).mapError .unfit := by
  unfold ofText
  simp only [hparse]

theorem ofText_eq_ok_iff {text : Text} (hparse : Toml.parse? text = some table) :
    ofText text = .ok s ↔ ofTable table = .ok s := by
  rw [ofText_of_parse? hparse]
  cases ofTable table with
  | error fault => exact iff_of_false nofun nofun
  | ok found => exact ⟨fun h => by cases h; rfl, fun h => by cases h; rfl⟩

theorem ofText_eq_error_iff {text : Text} {error : SettingsError}
    (hparse : Toml.parse? text = some table) :
    ofText text = .error error ↔ ∃ fault, ofTable table = .error fault ∧ error = .unfit fault := by
  rw [ofText_of_parse? hparse]
  cases ofTable table with
  | error fault =>
    constructor
    · intro h
      cases h
      exact ⟨fault, rfl, rfl⟩
    · rintro ⟨found, hfound, rfl⟩
      cases hfound
      rfl
  | ok found => exact iff_of_false nofun (fun ⟨_, h, _⟩ => nomatch h)

/-- What is reported is the fault of the first entry at fault, and nothing else ever is. -/
theorem ofTable_eq_error_iff : ofTable table = .error fault ↔
    ∃ before entry after, table = before ++ entry :: after ∧
      (∀ earlier ∈ before, Accepts earlier) ∧ Offends entry fault := by
  constructor
  · intro h
    rcases accepts_or_exists_first table with hall | ⟨before, entry, after, found, rfl, hbefore, hfound⟩
    · obtain ⟨t, ht⟩ := exists_setAll_of_accepts hall default
      cases h.symm.trans ht
    · cases h.symm.trans (setAll_of_offends hbefore hfound default)
      exact ⟨before, entry, after, rfl, hbefore, hfound⟩
  · rintro ⟨before, entry, after, rfl, hbefore, hoffends⟩
    exact setAll_of_offends hbefore hoffends default

theorem exists_ofTable_eq_ok_iff :
    (∃ s, ofTable table = .ok s) ↔ ∀ entry ∈ table, Accepts entry := by
  constructor
  · rintro ⟨s, hs⟩
    rcases accepts_or_exists_first table with hall | ⟨before, entry, after, fault, hfirst⟩
    · exact hall
    · cases hs.symm.trans (ofTable_eq_error_iff.mpr ⟨before, entry, after, hfirst⟩)
  · intro hall
    exact exists_setAll_of_accepts hall default

end Document

end Settings

/-- **The settings of a document.** A document is one of settings if and only if settings can have each
of its entries; then every field holds what the document gives it, just as it is written, and its default
if the document gives it nothing. Otherwise what is reported is wrong with the first entry, in the order
of the parsed table, that settings cannot have, and with an unknown key it does not matter what it is
for. -/
theorem settings_of_document {text : Text} {table : Toml.Table}
    (hparse : Toml.parse? text = some table) :
    ((∃ s, Settings.ofText text = .ok s) ↔ ∀ entry ∈ table, Settings.Accepts entry) ∧
    (∀ s, Settings.ofText text = .ok s → s.IsOf table) ∧
    ∀ error, Settings.ofText text = .error error ↔
      ∃ before entry after fault, table = before ++ entry :: after ∧
        (∀ earlier ∈ before, Settings.Accepts earlier) ∧ Settings.Offends entry fault ∧
        error = .unfit fault := by
  refine ⟨?_, fun s hs => ?_, fun error => ?_⟩
  · simp only [Settings.ofText_eq_ok_iff hparse]
    exact Settings.exists_ofTable_eq_ok_iff
  · exact Settings.isOf_of_ofTable (Toml.nodup_keys_of_parse? hparse)
      ((Settings.ofText_eq_ok_iff hparse).mp hs)
  · rw [Settings.ofText_eq_error_iff hparse]
    constructor
    · rintro ⟨fault, hfault, rfl⟩
      obtain ⟨before, entry, after, hfirst⟩ := Settings.ofTable_eq_error_iff.mp hfault
      exact ⟨before, entry, after, fault, hfirst.1, hfirst.2.1, hfirst.2.2, rfl⟩
    · rintro ⟨before, entry, after, fault, htable, hbefore, hoffends, rfl⟩
      exact ⟨fault, Settings.ofTable_eq_error_iff.mpr ⟨before, entry, after, htable, hbefore, hoffends⟩,
        rfl⟩

/-- Two documents that begin alike. The codes to mute keep their order and repetition; of two options that
are no strings the first is reported, and the unknown key behind them is not. -/
theorem settings_of_document_two_endings :
    Toml.parse? "ignore = ['57', ' 9', '57']".toList =
        some [("ignore".toList, .array (["57".toList, " 9".toList, "57".toList].map .string))] ∧
      Settings.IsOf [("ignore".toList, .array (["57".toList, " 9".toList, "57".toList].map .string))]
        ⟨none, .list ["57".toList, " 9".toList, "57".toList], []⟩ ∧
    Toml.parse? "ignore = ['57', ' 9', '57']\noptions = ['-a', 7, true]\nignored = 1".toList =
        some ([("ignore".toList, .array (["57".toList, " 9".toList, "57".toList].map .string))] ++
          ("options".toList, .array (["-a".toList].map .string ++ .integer 7 :: [.boolean true])) ::
          [("ignored".toList, .integer 1)]) ∧
      Settings.ofText "ignore = ['57', ' 9', '57']\noptions = ['-a', 7, true]\nignored = 1".toList =
        .error (.unfit (.optionShape (.integer 7))) := by
  have hparse : Toml.parse? "ignore = ['57', ' 9', '57']".toList =
      some [("ignore".toList, .array (["57".toList, " 9".toList, "57".toList].map .string))] := by
    decide +kernel
  have hfaulty : Toml.parse?
      "ignore = ['57', ' 9', '57']\noptions = ['-a', 7, true]\nignored = 1".toList =
      some ([("ignore".toList, .array (["57".toList, " 9".toList, "57".toList].map .string))] ++
        ("options".toList, .array (["-a".toList].map .string ++ .integer 7 :: [.boolean true])) ::
        [("ignored".toList, .integer 1)]) := by
    decide +kernel
  have hoffends : Settings.Offends
      ("options".toList, .array (["-a".toList].map .string ++ .integer 7 :: [.boolean true]))
      (.optionShape (.integer 7)) := .option (by simp)
  have hfirst : Settings.Accepts
      ("ignore".toList, .array (["57".toList, " 9".toList, "57".toList].map .string)) :=
    .ignore (.strings _)
  have hloads : Settings.ofText "ignore = ['57', ' 9', '57']".toList =
      .ok ⟨none, .list ["57".toList, " 9".toList, "57".toList], []⟩ :=
    (Settings.ofText_eq_ok_iff hparse).mpr rfl
  obtain ⟨-, hisOf, -⟩ := settings_of_document hparse
  obtain ⟨-, -, herror⟩ := settings_of_document hfaulty
  refine ⟨hparse, hisOf _ hloads, hfaulty, (herror _).mpr ⟨_, _, _, _, rfl, ?_, hoffends, rfl⟩⟩
  exact List.forall_mem_singleton.mpr hfirst

end PascalLint
