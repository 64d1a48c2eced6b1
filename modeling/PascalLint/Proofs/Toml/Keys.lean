import PascalLint.Toml.Document

/-! The keys of a document.

In a document no key stands twice (`nodup_keys_of_parse?`). While it is read, a key is put into a table
only if the table lacks it, and a key that is there keeps its place or moves to the end. So every change
to the document's table keeps its keys apart (`Entries.KeepsKeysApart`), whatever it does to the tables
below it. -/
namespace PascalLint.Toml

namespace Entries
variable {key : Text} {node : Node} {entries : Entries}

/-- No key stands twice. -/
def HasDistinctKeys (entries : Entries) : Prop := (entries.map Prod.fst).Nodup

/-- Where a change of entries goes through, keys that were apart still are. -/
def KeepsKeysApart (f : Entries → Option Entries) : Prop :=
  ∀ entries changed, f entries = some changed → HasDistinctKeys entries → HasDistinctKeys changed

/-! ### Entries with one more, one other, or one less -/

theorem not_mem_keys_of_get?_eq_none (h : get? key entries = none) :
    key ∉ entries.map Prod.fst := by
  induction entries with
  | nil => exact List.not_mem_nil
  | cons entry rest ih =>
    obtain ⟨other, node⟩ := entry
    rw [get?] at h
    split at h
    · cases h
    · rename_i hne
      rw [List.map_cons, List.mem_cons, not_or]
      exact ⟨Ne.symm hne, ih h⟩

theorem HasDistinctKeys.append (h : HasDistinctKeys entries) (hkey : key ∉ entries.map Prod.fst)
    (node : Node) : HasDistinctKeys (entries ++ [(key, node)]) := by
  unfold HasDistinctKeys
  rw [List.map_append, List.nodup_append]
  refine ⟨h, List.pairwise_singleton _ key, fun other hother last hlast heq => hkey ?_⟩
  obtain rfl := List.mem_singleton.mp hlast
  exact heq ▸ hother

theorem keys_set (key : Text) (node : Node) (entries : Entries) :
    (set key node entries).map Prod.fst = entries.map Prod.fst := by
  unfold set
  rw [List.map_map]
  apply List.map_congr_left
  intro entry _
  show (if entry.1 = key then (key, node) else entry).1 = entry.1
  split
  · rename_i heq
    exact heq.symm
  · rfl

theorem HasDistinctKeys.set (h : HasDistinctKeys entries) (key : Text) (node : Node) :
    HasDistinctKeys (set key node entries) := by
  unfold HasDistinctKeys
  rwa [keys_set]

theorem HasDistinctKeys.erase (h : HasDistinctKeys entries) (key : Text) :
    HasDistinctKeys (erase key entries) :=
  (List.filter_sublist.map Prod.fst).nodup h

theorem not_mem_keys_erase (key : Text) (entries : Entries) :
    key ∉ (erase key entries).map Prod.fst := by
  intro hkey
  obtain ⟨entry, hentry, rfl⟩ := List.mem_map.mp hkey
  have hne := (List.mem_filter.mp hentry).2
  exact (bne_iff_ne.mp hne) rfl

/-! ### Changes -/

theorem keepsKeysApart_openTable (key : Text) : KeepsKeysApart (openTable key) := by
  intro entries changed h hentries
  unfold openTable at h
  split at h
  · rename_i hnone
    cases h
    exact hentries.append (not_mem_keys_of_get?_eq_none hnone) _
  · cases h
    exact (hentries.erase key).append (not_mem_keys_erase key entries) _
  · cases h

theorem keepsKeysApart_openItem (key : Text) : KeepsKeysApart (openItem key) := by
  intro entries changed h hentries
  unfold openItem at h
  split at h
  · rename_i hnone
    cases h
    exact hentries.append (not_mem_keys_of_get?_eq_none hnone) _
  · cases h
    exact hentries.set key _
  · cases h

theorem keepsKeysApart_insert (dotted : Bool) (key : Text) (v : Value) (origin : Origin) :
    KeepsKeysApart (insert dotted key v origin) := by
  intro entries changed h hentries
  unfold insert at h
  split at h
  · cases h
  split at h
  · rename_i hnone
    cases h
    exact hentries.append (not_mem_keys_of_get?_eq_none hnone) _
  · cases h

/-- A change further down puts a new table in its place or adds one. -/
theorem keepsKeysApart_change {f : Origin → Entries → Option Entries}
    (hf : ∀ origin, KeepsKeysApart (f origin)) (dotted : Bool) (path : List Text) (origin : Origin) :
    KeepsKeysApart (change dotted f path origin) := by
  intro entries changed h hentries
  cases path with
  | nil => exact hf origin entries changed h hentries
  | cons key path =>
    rw [change] at h
    split at h
    · rename_i hnone
      obtain ⟨inner, -, hchanged⟩ := Option.bind_eq_some_iff.mp h
      cases hchanged
      exact hentries.append (not_mem_keys_of_get?_eq_none hnone) _
    · split at h
      · cases h
      · obtain ⟨inner, -, hchanged⟩ := Option.bind_eq_some_iff.mp h
        cases hchanged
        exact hentries.set key _
    · obtain ⟨inner, -, hchanged⟩ := Option.bind_eq_some_iff.mp h
      cases hchanged
      exact hentries.set key _
    · cases h

end Entries

theorem keepsKeysApart_assignPath (origin : Origin) (path : List Text) (v : Value) :
    Entries.KeepsKeysApart (fun entries => assignPath origin entries path v) := by
  intro entries changed h
  obtain ⟨key, -, hassign⟩ := Option.bind_eq_some_iff.mp h
  exact Entries.keepsKeysApart_change (fun origin => Entries.keepsKeysApart_insert _ key v origin)
    true path.dropLast origin entries changed hassign

/-! ### A whole document -/

/-- **One statement** keeps the document's keys apart. -/
theorem Draft.carryOut_distinct {d e : Draft} {s : Statement} (h : d.carryOut s = some e)
    (hd : d.entries.HasDistinctKeys) : e.entries.HasDistinctKeys := by
  cases s with
  | table path =>
    obtain ⟨key, -, h⟩ := Option.bind_eq_some_iff.mp h
    obtain ⟨entries, hentries, h⟩ := Option.bind_eq_some_iff.mp h
    cases h
    exact Entries.keepsKeysApart_change (fun _ => Entries.keepsKeysApart_openTable key) _ _ _ _ _
      hentries hd
  | item path =>
    obtain ⟨key, -, h⟩ := Option.bind_eq_some_iff.mp h
    obtain ⟨entries, hentries, h⟩ := Option.bind_eq_some_iff.mp h
    cases h
    exact Entries.keepsKeysApart_change (fun _ => Entries.keepsKeysApart_openItem key) _ _ _ _ _
      hentries hd
  | assign path v =>
    obtain ⟨entries, hentries, h⟩ := Option.bind_eq_some_iff.mp h
    cases h
    exact Entries.keepsKeysApart_change (fun origin => keepsKeysApart_assignPath origin path v)
      _ _ _ _ _ hentries hd

theorem Draft.carryOutAll_distinct {all : List Statement} {d e : Draft}
    (h : all.foldlM Draft.carryOut d = some e) (hd : d.entries.HasDistinctKeys) :
    e.entries.HasDistinctKeys := by
  induction all generalizing d with
  | nil =>
    cases h
    exact hd
  | cons s all ih =>
    rw [List.foldlM_cons] at h
    obtain ⟨next, hnext, h⟩ := Option.bind_eq_some_iff.mp h
    exact ih h (carryOut_distinct hnext hd)

theorem keys_entriesToTable (entries : Entries) :
    (entriesToTable entries).map Prod.fst = entries.map Prod.fst := by
  induction entries with
  | nil => rfl
  | cons entry rest ih => rw [entriesToTable, List.map_cons, List.map_cons, ih]

/-- **No key stands twice in a document.** -/
theorem nodup_keys_of_parse? {text : Text} {table : Table} (h : parse? text = some table) :
    (table.map Prod.fst).Nodup := by
  obtain ⟨all, -, h⟩ := Option.bind_eq_some_iff.mp h
  obtain ⟨draft, hdraft, h⟩ := Option.bind_eq_some_iff.mp h
  cases h
  rw [keys_entriesToTable]
  exact Draft.carryOutAll_distinct hdraft List.nodup_nil

end PascalLint.Toml
