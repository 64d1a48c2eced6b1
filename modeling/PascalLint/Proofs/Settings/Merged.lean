import PascalLint.Proofs.Settings.Ignored

/-! Adding to settings more than once.

What is added to settings can be added in parts. The codes to mute go into one set, and settings to
which codes were added store that set as the increasing list of its codes (`Settings.ignore_addAll`).
A set has one such list only. So it does not matter in which steps codes are added, in which order and
how often the same value is given: the settings come out the same, down to how the codes are stored
(`settings_merge`). Options are kept in the order in which they are added. -/
namespace PascalLint

open IgnoreSet

namespace Settings
variable {s t : Settings} {values other options : List Text}

theorem eq_of_fields (hexecutable : s.executable = t.executable) (hignore : s.ignore = t.ignore)
    (hoptions : s.options = t.options) : s = t := by
  cases s
  cases t
  simp_all

theorem options_addAll (s : Settings) (values options : List Text) :
    (s.addAll values options).options = s.options ++ options := rfl

theorem ignore_addAll_nil (s : Settings) (options : List Text) :
    (s.addAll [] options).ignore = s.ignore := rfl

theorem addAll_nil_nil (s : Settings) : s.addAll [] [] = s :=
  eq_of_fields rfl rfl (List.append_nil s.options)

/-- Codes that are added are stored, with those that were there, as the list of the set that is read
from this list again. -/
theorem ignore_addAll (h : values ≠ []) (s : Settings) (options : List Text) :
    (s.addAll values options).ignore = .list (s.addAll values options).ignoreSet.codes := by
  obtain ⟨value, rest, rfl⟩ := List.exists_cons_of_ne_nil h
  have hset : (s.addAll (value :: rest) options).ignoreSet =
      (value :: rest).foldl (fun set value => set.insertAll (parse value).codes) s.ignoreSet := by
    apply IgnoreSet.ext
    intro code
    rw [mem_ignoreSet_addAll, mem_foldl_insertAll]
  rw [hset]
  rfl

/-- Where the same codes are muted after codes were added, they are stored in the same way. -/
theorem ignore_addAll_congr (hvalues : values ≠ []) (hother : other ≠ [])
    {options otherOptions : List Text}
    (h : ∀ code, code ∈ (s.addAll values options).ignoreSet ↔
      code ∈ (t.addAll other otherOptions).ignoreSet) :
    (s.addAll values options).ignore = (t.addAll other otherOptions).ignore := by
  rw [ignore_addAll hvalues, ignore_addAll hother, IgnoreSet.ext h]

/-- **Adding twice is adding once**, first the one and then the other. -/
theorem addAll_addAll (s : Settings) (values options more moreOptions : List Text) :
    (s.addAll values options).addAll more moreOptions =
      s.addAll (values ++ more) (options ++ moreOptions) := by
  have hignore : ((s.addAll values options).addAll more moreOptions).ignore =
      (s.addAll (values ++ more) (options ++ moreOptions)).ignore := by
    by_cases hmore : more = []
    · subst hmore
      rw [ignore_addAll_nil, List.append_nil]
      rfl
    · apply ignore_addAll_congr hmore (by simp [hmore])
      intro code
      simp only [mem_ignoreSet_addAll, List.mem_append, or_and_right, exists_or, or_assoc]
  refine eq_of_fields rfl hignore ?_
  simp only [options_addAll, List.append_assoc]

/-- However many parts there are, they can be added at once. -/
theorem foldl_addAll (s : Settings) (parts : List (List Text × List Text)) :
    parts.foldl (fun s part => s.addAll part.1 part.2) s =
      s.addAll (parts.flatMap Prod.fst) (parts.flatMap Prod.snd) := by
  induction parts generalizing s with
  | nil => exact s.addAll_nil_nil.symm
  | cons part parts ih =>
    rw [List.foldl_cons, ih, addAll_addAll, List.flatMap_cons, List.flatMap_cons]

/-- Neither the order of the values nor giving one again changes anything. -/
theorem addAll_congr (h : ∀ value, value ∈ values ↔ value ∈ other) (s : Settings)
    (options : List Text) : s.addAll values options = s.addAll other options := by
  by_cases hvalues : values = []
  · subst hvalues
    obtain rfl : other = [] := List.eq_nil_iff_forall_not_mem.mpr fun value hvalue =>
      List.not_mem_nil ((h value).mpr hvalue)
    rfl
  · have hother : other ≠ [] := by
      rintro rfl
      exact hvalues (List.eq_nil_iff_forall_not_mem.mpr fun value hvalue =>
        List.not_mem_nil ((h value).mp hvalue))
    refine eq_of_fields rfl (ignore_addAll_congr hvalues hother fun code => ?_) rfl
    simp only [mem_ignoreSet_addAll, h]

end Settings

/-- **What the command line adds to settings adds up.** Additions one after the other, any number of
them, are one addition of all their values and options; the order of the values and their repetition do
not matter. The program stays, the options go behind those that are there, and the codes that are read
from the values are muted besides those that were. Without values the codes stay as they are written;
with values they are stored as the list of the set. -/
theorem settings_merge (s : Settings) :
    (∀ values options more moreOptions, (s.addAll values options).addAll more moreOptions =
      s.addAll (values ++ more) (options ++ moreOptions)) ∧
    (∀ parts : List (List Text × List Text), parts.foldl (fun s part => s.addAll part.1 part.2) s =
      s.addAll (parts.flatMap Prod.fst) (parts.flatMap Prod.snd)) ∧
    (∀ values other options, (∀ value, value ∈ values ↔ value ∈ other) →
      s.addAll values options = s.addAll other options) ∧
    ∀ values options,
      let merged := s.addAll values options
      merged.executable = s.executable ∧ merged.options = s.options ++ options ∧
        (∀ code, code ∈ merged.ignoreSet ↔
          code ∈ s.ignoreSet ∨ ∃ value ∈ values, code ∈ IgnoreSet.parse value) ∧
        merged.ignore = if values = [] then s.ignore else .list merged.ignoreSet.codes := by
  refine ⟨s.addAll_addAll, s.foldl_addAll, fun values other options h => s.addAll_congr h options,
    fun values options => ⟨rfl, rfl, fun code => mem_ignoreSet_addAll s values options, ?_⟩⟩
  split
  · rename_i hvalues
    subst hvalues
    rfl
  · rename_i hvalues
    exact s.ignore_addAll hvalues options

/-- Codes of a settings file as one text, and values in two orders, one of them given twice and one
without codes. -/
theorem settings_merge_two_orders :
    let s : Settings := ⟨none, .text " 57\tx,".toList, ["-a".toList]⟩
    let values := ["58,59".toList, " , ".toList, "57".toList]
    let other := ["57".toList, "58,59".toList, " , ".toList, "58,59".toList]
    (∀ value, value ∈ values ↔ value ∈ other) ∧ s.addAll values [] = s.addAll other [] ∧
      (s.addAll other []).ignore =
        .list ["57".toList, "58".toList, "59".toList, "x".toList] := by
  intro s values other
  have hsame : ∀ value, value ∈ values ↔ value ∈ other := by
    intro value
    simp only [values, other, List.mem_cons, List.not_mem_nil, or_false]
    tauto
  obtain ⟨-, -, horder, -⟩ := settings_merge s
  exact ⟨hsame, horder values other [] hsame, by decide +kernel⟩

end PascalLint
