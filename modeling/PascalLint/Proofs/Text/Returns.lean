import Mathlib.Data.List.Basic
import PascalLint.Proofs.Text.Lines

/-! Carriage returns.

Lines end in a line feed, or in a carriage return and a line feed. In a text of the second kind every
carriage return stands in front of a line feed (`ReturnsEndLines`), and none is left in what ends a
line once `dropReturn` has taken one from it (`return_not_mem_dropReturn`). A text of the first kind
is turned into one of the second by `withReturns`, which puts a carriage return at the end of every
line but the last (`lines_withReturns`). -/
namespace PascalLint.Text

/-! ### Dropping a carriage return -/

theorem dropReturn_of_not_mem {text : Text} (h : '\r' ∉ text) : dropReturn text = text :=
  if_neg fun hlast => h (List.mem_of_getLast? hlast)

theorem dropReturn_append_return (text : Text) : dropReturn (text ++ ['\r']) = text := by
  simp [dropReturn]

theorem prefix_dropReturn (text : Text) : dropReturn text <+: text := by
  rw [dropReturn]
  split
  · exact List.dropLast_prefix text
  · exact List.prefix_refl text

theorem mem_of_mem_dropReturn {text : Text} {c : Char} (h : c ∈ dropReturn text) : c ∈ text :=
  (prefix_dropReturn text).subset h

/-- A carriage return that is not dropped is not the last character. -/
theorem exists_after_return {text : Text} (h : '\r' ∈ dropReturn text) :
    ∃ before c after, text = before ++ '\r' :: c :: after := by
  rw [dropReturn] at h
  split at h
  · rename_i hlast
    obtain ⟨before, after, hdrop⟩ := List.append_of_mem h
    have htext : text = before ++ '\r' :: (after ++ ['\r']) := by
      rw [← List.dropLast_append_getLast? _ hlast, hdrop]
      simp
    obtain ⟨c, more, hmore⟩ := List.exists_cons_of_ne_nil (List.concat_ne_nil '\r' after)
    exact ⟨before, c, more, by rw [htext, hmore]⟩
  · rename_i hlast
    obtain ⟨before, after, rfl⟩ := List.append_of_mem h
    cases after with
    | nil => simp at hlast
    | cons c after => exact ⟨before, c, after, rfl⟩

/-- Every carriage return stands in front of a line feed. -/
def ReturnsEndLines (text : Text) : Prop :=
  ∀ before after, text = before ++ '\r' :: after → after.head? = some '\n'

/-- What ends a line has no carriage return in it but the one that is dropped. -/
theorem return_not_mem_dropReturn {text before part : Text} (h : ReturnsEndLines text)
    (hline : before ++ part ∈ lines text) : '\r' ∉ dropReturn part := by
  intro hmem
  obtain ⟨a, c, b, rfl⟩ := exists_after_return hmem
  obtain ⟨front, back, htext⟩ := infix_of_mem_lines hline
  have hnext : c = '\n' := by
    have hhead := h (front ++ before ++ a) (c :: b ++ back) (by simp [← htext])
    simpa using hhead
  exact newline_not_mem_of_mem_lines hline (by simp [hnext])

/-! ### Putting carriage returns in -/

/-- The text with a carriage return in front of every line feed. -/
def withReturns (text : Text) : Text := text.flatMap fun c => if c = '\n' then ['\r', '\n'] else [c]

theorem withReturns_append (a b : Text) : withReturns (a ++ b) = withReturns a ++ withReturns b :=
  List.flatMap_append

theorem withReturns_of_not_mem {text : Text} (h : '\n' ∉ text) : withReturns text = text := by
  induction text with
  | nil => rfl
  | cons c text ih =>
    rw [List.mem_cons, not_or] at h
    have hc : c ≠ '\n' := Ne.symm h.1
    have htext : withReturns text = text := ih h.2
    simp only [withReturns] at htext ⊢
    rw [List.flatMap_cons, if_neg hc, htext]
    rfl

theorem withReturns_unlines {ls : List Text} (h : ∀ line ∈ ls, '\n' ∉ line) :
    withReturns (unlines ls) = unlines (ls.map (· ++ ['\r'])) := by
  induction ls with
  | nil => rfl
  | cons line ls ih =>
    rw [List.forall_mem_cons] at h
    have hcut (line : Text) (ls : List Text) : unlines (line :: ls) = line ++ ['\n'] ++ unlines ls :=
      rfl
    have hnewline : withReturns ['\n'] = ['\r', '\n'] := rfl
    rw [List.map_cons, hcut, hcut, withReturns_append, withReturns_append,
      withReturns_of_not_mem h.1, hnewline, ih h.2]
    simp

theorem lines_withReturns {text last : Text} {ls : List Text} (h : lines text = ls ++ [last]) :
    lines (withReturns text) = ls.map (· ++ ['\r']) ++ [last] := by
  obtain ⟨hls, hlast⟩ := newline_not_mem_of_lines_eq h
  have htext : text = unlines ls ++ last := by
    rw [← join_lines text, h, join_append_singleton]
    rfl
  have hreturns : ∀ line ∈ ls.map (· ++ ['\r']), '\n' ∉ line := by
    intro returned hreturned
    obtain ⟨line, hline, rfl⟩ := List.mem_map.mp hreturned
    simp [hls line hline]
  rw [htext, withReturns_append, withReturns_unlines hls, withReturns_of_not_mem hlast,
    lines_unlines_append hreturns, lines_of_not_mem hlast]

end PascalLint.Text
