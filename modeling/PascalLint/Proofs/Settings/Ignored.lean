import Mathlib.Data.List.Forall2
import PascalLint.Proofs.IgnoreSet.Listed
import PascalLint.Proofs.Run.Reported

/-! The codes to mute, however they are written.

Codes come from the settings file, as a list of codes or as one text, and from the command line,
where every value may list several. Whatever the settings are, the command line's codes are added to
them and take none away (`mem_ignoreSet_addAll`), though the settings' codes are rewritten on the
way. Together with what is read from each way of writing codes, this says that a run mutes the codes
that are written somewhere (`ignoreSet_of_writesWith`). It does not matter where they are written, in
which form, with which separators, in which order and how often. -/
namespace PascalLint

open IgnoreSet

/-! ### Reading the settings' codes -/

/-- The codes are written in the settings. -/
inductive IgnoreSetting.Writes : IgnoreSetting → List Text → Prop where
  | list {entries codes : List Text} : List.Forall₂ Pads entries codes → Writes (.list entries) codes
  | text {text : Text} {codes : List Text} : Lists text codes → Writes (.text text) codes

namespace IgnoreSetting
variable {setting : IgnoreSetting} {codes entries : List Text} {code : Text}

theorem map_trim_of_pads (h : List.Forall₂ Pads entries codes) : entries.map Text.trim = codes := by
  induction h with
  | nil => rfl
  | cons hpads _ ih => rw [List.map_cons, hpads.trim_eq, ih]

theorem Writes.mem_toSet_iff (h : setting.Writes codes) : code ∈ setting.toSet ↔ code ∈ codes := by
  cases h with
  | list hpads => rw [toSet, mem_ofList, map_trim_of_pads hpads]
  | text hlists => exact hlists.mem_parse_iff

/-- No code that is read from settings has white space at an end. -/
theorem trim_of_mem_toSet (h : code ∈ setting.toSet) : Text.trim code = code := by
  cases setting with
  | list entries =>
    rw [toSet, mem_ofList, List.mem_map] at h
    obtain ⟨entry, -, rfl⟩ := h
    exact trim_trim entry
  | text text => exact (isCode_of_mem_parse h).trim_eq

/-- A set that is written down as the list of its codes is read as it was, for trimming leaves
its codes alone. -/
theorem mem_toSet_codes {set : IgnoreSet} (h : ∀ code ∈ set, Text.trim code = code) :
    code ∈ (list set.codes).toSet ↔ code ∈ set := by
  have htrim : set.codes.map Text.trim = set.codes := by
    rw [List.map_congr_left h, List.map_id']
  rw [toSet, htrim, mem_ofList, mem_def]

end IgnoreSetting

/-! ### Adding those of the command line -/

section Added
variable {s : Settings} {values : List Text} {onCommandLine : List (List Text)} {code : Text}

theorem mem_foldl_insertAll (values : List Text) (set : IgnoreSet) :
    code ∈ values.foldl (fun set value => set.insertAll (parse value).codes) set ↔
      code ∈ set ∨ ∃ value ∈ values, code ∈ parse value := by
  induction values generalizing set with
  | nil => simp
  | cons value values ih =>
    rw [List.foldl_cons, ih, mem_insertAll, ← mem_def, List.exists_mem_cons_iff]
    exact ⟨by rintro ((h | h) | h) <;> simp [h], by rintro (h | h | h) <;> simp [h]⟩

/-- **The codes of the command line are added to those of the settings.** -/
theorem mem_ignoreSet_addAll (s : Settings) (values options : List Text) :
    code ∈ (s.addAll values options).ignoreSet ↔
      code ∈ s.ignoreSet ∨ ∃ value ∈ values, code ∈ parse value := by
  cases values with
  | nil =>
    show code ∈ s.ignoreSet ↔ _
    simp
  | cons value values =>
    show code ∈ (IgnoreSetting.list (List.foldl _ s.ignoreSet (value :: values)).codes).toSet ↔ _
    rw [IgnoreSetting.mem_toSet_codes, mem_foldl_insertAll]
    intro code hcode
    rcases (mem_foldl_insertAll _ _).mp hcode with hcode | ⟨value, -, hcode⟩
    · exact IgnoreSetting.trim_of_mem_toSet hcode
    · exact (isCode_of_mem_parse hcode).trim_eq

theorem exists_mem_parse_iff (h : List.Forall₂ Lists values onCommandLine) :
    (∃ value ∈ values, code ∈ parse value) ↔ code ∈ onCommandLine.flatten := by
  induction h with
  | nil => simp
  | cons hlists _ ih =>
    rw [List.exists_mem_cons_iff, hlists.mem_parse_iff, ih, List.flatten_cons, List.mem_append]

end Added

/-! ### All ways of writing codes -/

/-- Each of the codes is written in the settings or on the command line, and no other code is. -/
def IgnoreSetting.WritesWith (setting : IgnoreSetting) (values codes : List Text) : Prop :=
  ∃ inSettings onCommandLine, setting.Writes inSettings ∧ List.Forall₂ Lists values onCommandLine ∧
    ∀ code, code ∈ codes ↔ code ∈ inSettings ++ onCommandLine.flatten

section Run
variable {s : Settings} {values codes : List Text}

theorem IgnoreSetting.WritesWith.ignoreSet_addAll (h : s.ignore.WritesWith values codes)
    (options : List Text) : (s.addAll values options).ignoreSet = .ofList codes := by
  obtain ⟨inSettings, onCommandLine, hsettings, hvalues, hcodes⟩ := h
  apply IgnoreSet.ext
  intro code
  rw [mem_ignoreSet_addAll, exists_mem_parse_iff hvalues, mem_ofList, hcodes, List.mem_append]
  exact or_congr_left hsettings.mem_toSet_iff

/-- **All ways of writing codes are interchangeable.** The set that settings with the command line's
values stand for holds the codes that are written, and no others. With it every report is that of these
codes. -/
theorem ignoreSet_of_writesWith (h : s.ignore.WritesWith values codes) :
    (∀ options code, code ∈ (s.addAll values options).ignoreSet ↔ code ∈ codes) ∧
    (∀ options text, (s.addAll values options).ignoreSet = .ofList codes ∧
      extract text (s.addAll values options).ignoreSet = extract text (.ofList codes)) ∧
    ∀ (host : Host Id) (i : Invocation) (bytes : List UInt8), i.ignore = values →
      i.Reports host s bytes →
        let outcome := reportOutput host.arranger i (.ofList codes) bytes
        ∃ noted, run host i = { outcome with log := noted ++ outcome.log } := by
  refine ⟨fun options code => ?_, fun options text => ?_, fun host i bytes hvalues hreports => ?_⟩
  · rw [h.ignoreSet_addAll, mem_ofList]
  · rw [h.ignoreSet_addAll]
    exact ⟨rfl, rfl⟩
  · have hrun := hreports.run_eq
    rwa [hvalues, h.ignoreSet_addAll] at hrun

/-- Two codes in a settings file, one of them again on the command line, and two more there. -/
theorem ignoreSet_of_writesWith_file_and_command_line :
    let s : Settings := ⟨none, .list [" 57\t".toList, "282".toList], []⟩
    let i := { Invocation.default with
      config := some "lint.toml".toList, ignore := ["58,, 57".toList, " 99 58 ".toList] }
    let bytes := Utf8.encode "1 58 Warning: a\n\n^\n".toList
    let host := Host.ofTree (.folder [("lint.toml".toList,
      .file (Utf8.encode "ignore = [\" 57\\t\", \"282\"]".toList) false)]) [] [] bytes
    let codes := ["57".toList, "58".toList, "99".toList, "282".toList]
    let outcome := reportOutput host.arranger i (.ofList codes) bytes
    s.ignore.WritesWith i.ignore codes ∧ i.Reports host s bytes ∧
      "99".toList ∈ (s.addAll i.ignore []).ignoreSet ∧
      (s.addAll i.ignore []).ignoreSet = .ofList codes ∧
      ∃ noted, run host i = { outcome with log := noted ++ outcome.log } := by
  intro s i bytes host codes outcome
  have h57 : Pads " 57\t".toList "57".toList :=
    ⟨⟨by decide, by decide⟩, [' '], ['\t'], by decide, by decide, by decide⟩
  have h282 : Pads "282".toList "282".toList :=
    ⟨⟨by decide, by decide⟩, [], [], by decide, by decide, by decide⟩
  have h58 : Lists "58,, 57".toList ["58".toList, "57".toList] := lists_iff.mpr (by decide)
  have h99 : Lists " 99 58 ".toList ["99".toList, "58".toList] := lists_iff.mpr (by decide)
  have hwritten : s.ignore.WritesWith i.ignore codes := by
    refine ⟨_, _, .list (.cons h57 (.cons h282 .nil)), .cons h58 (.cons h99 .nil), fun code => ?_⟩
    simp [codes]
    tauto
  have hload : Settings.load host "lint.toml".toList = .ok s :=
    eq_ok_of_toOption_eq_some (by decide +kernel)
  have hreports : i.Reports host s bytes := ⟨rfl, rfl, hload, rfl⟩
  obtain ⟨hmem, hset, hrun⟩ := ignoreSet_of_writesWith hwritten
  exact ⟨hwritten, hreports, (hmem [] _).mpr (by decide), (hset [] []).1,
    hrun host i bytes rfl hreports⟩

end Run

end PascalLint
