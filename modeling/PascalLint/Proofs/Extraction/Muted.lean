import Mathlib.Data.List.Basic
import PascalLint.Proofs.Extraction.Cursor

/-! What an ignore set does.

A diagnostic depends on the ignore set in one thing only, whether it is suppressed: the set mutes a
block if the block is a warning's and its code is suppressed (`Block.isSuppressed_diagnostic`), and
leaves every other block as it is without a set (`Block.diagnostic_of_not_suppressed`). Over all
blocks of a text the set is a filter (`extract_eq_filter`), which lets less through the more it
holds. -/
namespace PascalLint

namespace IgnoreSet

theorem suppresses_empty (code : Text) : empty.suppresses code = false := by
  simp [suppresses, contains, empty]

theorem contains_mono {s t : IgnoreSet} (h : ∀ code ∈ s, code ∈ t) {code : Text}
    (hs : s.contains code = true) : t.contains code = true :=
  contains_iff.mpr (h code (contains_iff.mp hs))

/-- A larger set suppresses more codes, those for which it only has an entry that stands for them
included. -/
theorem suppresses_mono {s t : IgnoreSet} (h : ∀ code ∈ s, code ∈ t) {code : Text}
    (hs : s.suppresses code = true) : t.suppresses code = true := by
  simp only [suppresses, Bool.and_eq_true, Bool.or_eq_true] at hs ⊢
  obtain ⟨hne, hcode | ⟨hunclosed, hentry⟩⟩ := hs
  · exact ⟨hne, .inl (contains_mono h hcode)⟩
  · exact ⟨hne, .inr ⟨hunclosed, contains_mono h hentry⟩⟩

end IgnoreSet

/-! ### One block -/

namespace Block
variable {b : Block} {ignore : IgnoreSet}

/-- Only a warning is suppressed, and only if the set suppresses its code. -/
theorem isSuppressed_diagnostic (b : Block) (ignore : IgnoreSet) :
    (b.diagnostic ignore).isSuppressed =
      (warningMark.isPrefixOf b.text && ignore.suppresses b.code) := by
  simp only [diagnostic, Diagnostic.isSuppressed, severity]
  cases warningMark.isPrefixOf b.text <;> cases ignore.suppresses b.code <;> rfl

/-- A block that is not muted leads to the same diagnostic as without an ignore set. -/
theorem diagnostic_of_not_suppressed (h : (b.diagnostic ignore).isSuppressed = false) :
    b.diagnostic ignore = b.diagnostic .empty := by
  rw [isSuppressed_diagnostic] at h
  simp only [diagnostic, severity, IgnoreSet.suppresses_empty]
  cases hmark : warningMark.isPrefixOf b.text with
  | false => rfl
  | true =>
    rw [hmark, Bool.true_and] at h
    rw [h]

theorem isSuppressed_diagnostic_empty (b : Block) :
    (b.diagnostic .empty).isSuppressed = false := by
  rw [isSuppressed_diagnostic, IgnoreSet.suppresses_empty, Bool.and_false]

/-- Whether a block is muted can be told from its diagnostic without an ignore set. -/
theorem isSuppressed_diagnostic_eq (b : Block) (ignore : IgnoreSet) :
    (b.diagnostic ignore).isSuppressed =
      ((b.diagnostic .empty).isWarning && ignore.suppresses (b.diagnostic .empty).code) := by
  rw [isSuppressed_diagnostic]
  simp only [diagnostic, Diagnostic.isWarning, severity, IgnoreSet.suppresses_empty]
  cases warningMark.isPrefixOf b.text <;> rfl

end Block

/-! ### All blocks -/

theorem Verdict.diagnostic?_of (ignore : IgnoreSet) (c : Candidate) :
    (Verdict.of ignore c).diagnostic? =
      (c.block?.map (·.diagnostic ignore)).filter (!·.isSuppressed) := by
  cases hblock : c.block? with
  | none => simp [of, hblock, diagnostic?]
  | some b =>
    cases hmuted : (b.diagnostic ignore).isSuppressed <;>
      simp [of, hblock, hmuted, diagnostic?, Option.filter]

/-- The diagnostics of a text are those of its blocks, without the suppressed ones. -/
theorem extract_eq_filter_blocks (text : Text) (ignore : IgnoreSet) :
    extract text ignore = ((blocks text).map (·.diagnostic ignore)).filter (!·.isSuppressed) := by
  rw [extract, verdicts, List.filterMap_map, blocks, List.map_filterMap, List.filter_filterMap]
  exact List.filterMap_congr fun c _ => Verdict.diagnostic?_of ignore c

theorem extract_empty (text : Text) :
    extract text .empty = (blocks text).map (·.diagnostic .empty) := by
  rw [extract_eq_filter_blocks, List.filter_eq_self]
  intro d hd
  obtain ⟨b, -, rfl⟩ := List.mem_map.mp hd
  rw [b.isSuppressed_diagnostic_empty]
  rfl

/-- An ignore set is a filter on what there is without it. -/
theorem extract_eq_filter (text : Text) (ignore : IgnoreSet) :
    extract text ignore =
      (extract text .empty).filter fun d => !(d.isWarning && ignore.suppresses d.code) := by
  have hfilter : ((fun d : Diagnostic => !(d.isWarning && ignore.suppresses d.code)) ∘
      fun b : Block => b.diagnostic .empty) = fun b => !(b.diagnostic ignore).isSuppressed := by
    funext b
    rw [b.isSuppressed_diagnostic_eq]
    rfl
  rw [extract_eq_filter_blocks, extract_empty, List.filter_map, List.filter_map, hfilter]
  apply List.map_congr_left
  intro b hb
  apply Block.diagnostic_of_not_suppressed
  simpa using (List.mem_filter.mp hb).2

theorem extract_sublist {s t : IgnoreSet} (h : ∀ code ∈ s, code ∈ t) (text : Text) :
    (extract text t).Sublist (extract text s) := by
  rw [extract_eq_filter text s, extract_eq_filter text t]
  apply List.monotone_filter_right
  intro d hd
  rw [Bool.not_eq_true', Bool.and_eq_false_iff] at hd ⊢
  apply hd.imp_right
  intro hcode
  rw [← Bool.not_eq_true] at hcode ⊢
  exact mt (IgnoreSet.suppresses_mono h) hcode

/-- No set mutes an error. -/
theorem filter_isError_extract (text : Text) (ignore : IgnoreSet) :
    (extract text ignore).filter Diagnostic.isError =
      (extract text .empty).filter Diagnostic.isError := by
  rw [extract_eq_filter, List.filter_filter]
  apply List.filter_congr
  intro d _
  cases hd : d.severity <;> simp [Diagnostic.isError, Diagnostic.isWarning, hd]

/-- **The ignore set is only a filter.** Taken one after the other or all at once, the diagnostics
are those without an ignore set, but for the warnings whose code the set suppresses. So a larger
set leaves fewer of them, in the same order, and the same errors. -/
theorem extract_ignoreSet_is_filter (text : Text) :
    (∀ s : IgnoreSet, (Cursor.start text s).drain = extract text s ∧
      extract text s =
        (extract text .empty).filter fun d => !(d.isWarning && s.suppresses d.code)) ∧
    ∀ s t : IgnoreSet, (∀ code ∈ s, code ∈ t) →
      (extract text t).Sublist (extract text s) ∧
        (extract text t).filter Diagnostic.isError =
          (extract text s).filter Diagnostic.isError := by
  refine ⟨fun s => ⟨Cursor.drain_start text s, extract_eq_filter text s⟩, fun s t h => ?_⟩
  refine ⟨extract_sublist h text, ?_⟩
  rw [filter_isError_extract text t, filter_isError_extract text s]

/-- Two sets, one in the other, and output with a warning for each of their codes and an error. -/
theorem extract_ignoreSet_is_filter_two_warnings :
    let text := "1 282 Warning: a\n\n^\n2 57 Warning: b\n\n^\n3 9 c\n\n^\n".toList
    let s := IgnoreSet.ofList ["possible-unclosed-comment".toList]
    let t := IgnoreSet.ofList ["possible-unclosed-comment".toList, "57".toList]
    (∀ code ∈ s, code ∈ t) ∧ (extract text t).Sublist (extract text s) ∧
      (extract text t).filter Diagnostic.isError = (extract text s).filter Diagnostic.isError := by
  have hsub : ∀ code ∈ IgnoreSet.ofList ["possible-unclosed-comment".toList],
      code ∈ IgnoreSet.ofList ["possible-unclosed-comment".toList, "57".toList] := by
    intro code hcode
    rw [IgnoreSet.mem_ofList] at hcode ⊢
    exact List.mem_cons.mpr (.inl (List.mem_singleton.mp hcode))
  exact ⟨hsub, (extract_ignoreSet_is_filter _).2 _ _ hsub⟩

end PascalLint
