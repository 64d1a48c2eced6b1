import PascalLint.Proofs.IgnoreSet.Listed
import PascalLint.Proofs.Text.ByteOrder

/-! Sets that are changed again and again.

Codes are added to a set one by one, in lists, or as they are read from a text, and a set can be put
back to another one. What one change does to the members (`Change.mem_apply`) adds up over a run:
since the last time that the set was put back, its members are those it had then and those that were
added (`mem_afterAll`). The codes of a set are its members in the order of their bytes, so the order and the
repetition of what is added leave no trace (`changes_determine_members`). -/
namespace PascalLint.IgnoreSet

/-- A change of a set. -/
inductive Change where
  | add (code : Text)
  | addAll (codes : List Text)
  /-- The codes that are read from a text. -/
  | addListed (list : Text)
  /-- Put back to a set, whatever was in it. -/
  | reset (set : IgnoreSet)

namespace Change

/-- The set after a change. -/
def apply (s : IgnoreSet) : Change → IgnoreSet
  | add code => s.insert code
  | addAll codes => s.insertAll codes
  | addListed list => s.insertAll (parse list).codes
  | reset set => set

/-- The change adds the code. -/
def Adds (code : Text) : Change → Prop
  | add added => code = added
  | addAll codes => code ∈ codes
  | addListed list => code ∈ parse list
  | reset _ => False

def IsReset : Change → Prop
  | reset _ => True
  | _ => False

end Change

/-- The set after changes, the first one first. -/
def afterAll (s : IgnoreSet) (changes : List Change) : IgnoreSet := changes.foldl Change.apply s

/-- Since the set was put back last it has been changed by `later` from `base` on; if it never was,
`base` is the set that the run began with. -/
structure LastReset (s : IgnoreSet) (changes : List Change) (base : IgnoreSet)
    (later : List Change) : Prop where
  split : base = s ∧ changes = later ∨ ∃ earlier, changes = earlier ++ .reset base :: later
  none_later : ∀ change ∈ later, ¬change.IsReset

section Runs
variable {s t base : IgnoreSet} {change : Change} {changes later : List Change} {code : Text}

/-! ### Members -/

theorem afterAll_cons (s : IgnoreSet) (change : Change) (changes : List Change) :
    s.afterAll (change :: changes) = (change.apply s).afterAll changes := rfl

/-- **One change** keeps what is there and adds what it adds, unless the set is put back. -/
theorem Change.mem_apply (h : ¬change.IsReset) :
    code ∈ change.apply s ↔ code ∈ s ∨ change.Adds code := by
  cases change with
  | add added => rw [or_comm]; exact mem_insert
  | addAll codes => rw [or_comm]; exact mem_insertAll
  | addListed list => rw [or_comm]; exact mem_insertAll
  | reset set => exact absurd trivial h

/-- A run of additions. -/
theorem mem_afterAll_of_not_reset (h : ∀ change ∈ changes, ¬change.IsReset) :
    code ∈ s.afterAll changes ↔ code ∈ s ∨ ∃ change ∈ changes, change.Adds code := by
  induction changes generalizing s with
  | nil => simp [afterAll]
  | cons change changes ih =>
    rw [List.forall_mem_cons] at h
    rw [afterAll_cons, ih h.2, Change.mem_apply h.1, or_assoc, List.exists_mem_cons_iff]

theorem LastReset.afterAll_eq (h : LastReset s changes base later) :
    s.afterAll changes = base.afterAll later := by
  rcases h.split with ⟨rfl, rfl⟩ | ⟨earlier, rfl⟩
  · rfl
  · rw [afterAll, List.foldl_append, List.foldl_cons]
    rfl

/-- A run can be cut behind the last change that put the set back. -/
theorem exists_lastReset (s : IgnoreSet) (changes : List Change) :
    ∃ base later, LastReset s changes base later := by
  induction changes using List.reverseRecOn with
  | nil => exact ⟨s, [], .inl ⟨rfl, rfl⟩, List.forall_mem_nil _⟩
  | append_singleton changes change ih =>
    obtain ⟨base, later, hsplit, hlater⟩ := ih
    by_cases hreset : change.IsReset
    · cases change with
      | reset set => exact ⟨set, [], .inr ⟨changes, rfl⟩, List.forall_mem_nil _⟩
      | _ => exact hreset.elim
    · refine ⟨base, later ++ [change], ?_, ?_⟩
      · rcases hsplit with ⟨rfl, rfl⟩ | ⟨earlier, rfl⟩
        · exact .inl ⟨rfl, rfl⟩
        · exact .inr ⟨earlier, by simp⟩
      · rw [List.forall_mem_append, List.forall_mem_singleton]
        exact ⟨hlater, hreset⟩

theorem mem_afterAll (h : LastReset s changes base later) :
    code ∈ s.afterAll changes ↔ code ∈ base ∨ ∃ change ∈ later, change.Adds code := by
  rw [h.afterAll_eq, mem_afterAll_of_not_reset h.none_later]

/-! ### Codes -/

theorem nodup_codes (s : IgnoreSet) : s.codes.Nodup := by
  refine s.increasing.imp fun h heq => ?_
  rw [heq, Text.precedes_irrefl] at h
  cases h

theorem pairwise_encode_codes (s : IgnoreSet) :
    s.codes.Pairwise fun a b => Utf8.encode a < Utf8.encode b :=
  s.increasing.imp Utf8.precedes_iff_encode_lt.mp

/-- The members of a set, listed without repetition in any order, are as many as its size says. -/
theorem length_eq_size {codes : List Text} (hnodup : codes.Nodup)
    (h : ∀ code, code ∈ codes ↔ code ∈ s) : codes.length = s.size :=
  ((List.perm_ext_iff_of_nodup hnodup s.nodup_codes).mpr h).length_eq

theorem isEmpty_iff_size_eq_zero (s : IgnoreSet) : s.isEmpty = true ↔ s.size = 0 := by
  rw [isEmpty, size, List.isEmpty_iff, List.length_eq_zero_iff]

theorem eq_iff_contains_eq : s = t ↔ ∀ code, s.contains code = t.contains code := by
  refine ⟨fun h code => by rw [h], fun h => IgnoreSet.ext fun code => ?_⟩
  rw [← contains_iff, ← contains_iff, h]

theorem eq_iff_codes_eq : s = t ↔ s.codes = t.codes := by
  refine ⟨congrArg codes, fun h => IgnoreSet.ext fun code => ?_⟩
  rw [mem_def, mem_def, h]

/-- Additions of the same codes, in any order and any number of times, give the same set. -/
theorem afterAll_congr {others : List Change} (hchanges : ∀ change ∈ changes, ¬change.IsReset)
    (hothers : ∀ change ∈ others, ¬change.IsReset)
    (h : ∀ code, (∃ change ∈ changes, change.Adds code) ↔ ∃ change ∈ others, change.Adds code) :
    s.afterAll changes = s.afterAll others := by
  apply IgnoreSet.ext
  intro code
  rw [mem_afterAll_of_not_reset hchanges, mem_afterAll_of_not_reset hothers, h]

end Runs

/-! ### Runs -/

/-- **A set is what was put into it since it was put back last.** After any run of changes the members
are those of the set that it was put back to last and all that was added since. The codes are the
members, each once, in the order of their bytes, and their number is the size. Two sets that any two
runs lead to are the same exactly if they have the same members, and exactly if they have the same
list of codes; neither the order nor the repetition of additions makes a difference. -/
theorem changes_determine_members :
    (∀ (s : IgnoreSet) changes, ∃ base later, LastReset s changes base later ∧
      ∀ code, (s.afterAll changes).contains code = true ↔
        code ∈ base ∨ ∃ change ∈ later, change.Adds code) ∧
    (∀ (s : IgnoreSet) changes,
      let set := s.afterAll changes
      (∀ code, code ∈ set.codes ↔ set.contains code = true) ∧
        set.codes.Pairwise (fun a b => Utf8.encode a < Utf8.encode b) ∧ set.codes.Nodup ∧
        set.size = set.codes.length ∧ (set.isEmpty = true ↔ set.size = 0) ∧
        ∀ codes : List Text, codes.Nodup → (∀ code, code ∈ codes ↔ set.contains code = true) →
          codes.length = set.size) ∧
    (∀ (s t : IgnoreSet) changes others,
      let set := s.afterAll changes
      let other := t.afterAll others
      (set = other ↔ ∀ code, set.contains code = other.contains code) ∧
        (set = other ↔ set.codes = other.codes)) ∧
    ∀ (s : IgnoreSet) (changes others : List Change),
      (∀ change ∈ changes ++ others, ¬change.IsReset) →
      (∀ code, (∃ change ∈ changes, change.Adds code) ↔ ∃ change ∈ others, change.Adds code) →
      s.afterAll changes = s.afterAll others := by
  refine ⟨fun s changes => ?_, fun s changes => ?_, fun s t changes others => ?_,
    fun s changes others hadditions hsame => ?_⟩
  · obtain ⟨base, later, hlast⟩ := exists_lastReset s changes
    exact ⟨base, later, hlast, fun code => by rw [contains_iff, mem_afterAll hlast]⟩
  · refine ⟨fun code => contains_iff.symm, pairwise_encode_codes _, nodup_codes _, rfl,
      isEmpty_iff_size_eq_zero _, fun codes hnodup hcodes => ?_⟩
    exact length_eq_size hnodup fun code => (hcodes code).trans contains_iff
  · exact ⟨eq_iff_contains_eq, eq_iff_codes_eq⟩
  · rw [List.forall_mem_append] at hadditions
    exact afterAll_congr hadditions.1 hadditions.2 hsame

/-- Two codes in either order, one of them twice, in a set with a character of three bytes and one of
four, which come in the order of their bytes. -/
theorem changes_determine_members_two_orders :
    let s := ofList ["😀".toList, "\uffff".toList]
    let changes := [Change.add "57".toList, .addListed "282, 57".toList]
    let others := [Change.addAll ["282".toList, "57".toList]]
    (∀ change ∈ changes ++ others, ¬change.IsReset) ∧
      s.afterAll changes = s.afterAll others ∧
      (s.afterAll others).codes =
        ["282".toList, "57".toList, "\uffff".toList, "😀".toList] := by
  intro s changes others
  have hadditions : ∀ change ∈ changes ++ others, ¬change.IsReset := by
    simp [changes, others, Change.IsReset]
  have hlisted : (parse "282, 57".toList).codes = ["282".toList, "57".toList] := by decide +kernel
  have hsame : ∀ code,
      (∃ change ∈ changes, change.Adds code) ↔ ∃ change ∈ others, change.Adds code := by
    intro code
    simp only [changes, others, List.exists_mem_cons_iff, List.not_mem_nil, false_and,
      exists_false, or_false, Change.Adds, mem_def, hlisted]
    simp only [List.mem_cons, List.not_mem_nil, or_false]
    tauto
  obtain ⟨-, -, -, hcongr⟩ := changes_determine_members
  exact ⟨hadditions, hcongr s changes others hadditions hsame, by decide +kernel⟩

end PascalLint.IgnoreSet
