import Mathlib.Data.List.Basic
import Mathlib.Tactic.Common

/-!
# Texts of lines

Lines are put together with a separator between them, and a text is read as lines by splitting it there;
an empty text has no lines.

* `unlines`, `lines`.
* `lines_unlines_iff` — the lines that are read are those that were put together, just if none of them
  has the separator in it.
-/

namespace Lines

variable {α : Type} {sep : α} {ls : List (List α)}

/-- Lines with the separator between them. -/
def unlines (sep : α) (ls : List (List α)) : List α := [sep].intercalate ls

/-- The lines of a text. -/
def lines [DecidableEq α] (sep : α) (text : List α) : List (List α) := if text = [] then [] else text.splitOn sep

theorem not_mem_of_mem_splitOnP {p : α → Bool} {text l : List α} (h : l ∈ text.splitOnP p) :
    ∀ a ∈ l, p a = false := by
  induction text generalizing l with
  | nil =>
    rw [List.splitOnP_nil, List.mem_singleton] at h
    subst h
    simp
  | cons a text ih =>
    rw [List.splitOnP_cons_eq_if_modifyHead] at h
    split at h
    · rcases List.mem_cons.1 h with rfl | h
      · simp
      · exact ih h
    · rename_i ha
      obtain ⟨first, rest, hsplit⟩ := List.exists_cons_of_ne_nil (List.splitOnP_ne_nil p text)
      rw [hsplit, List.modifyHead_cons, List.mem_cons] at h
      rcases h with rfl | h
      · intro b hb
        rcases List.mem_cons.1 hb with rfl | hb
        · exact Bool.eq_false_iff.2 ha
        · exact ih (hsplit ▸ List.mem_cons_self) b hb
      · exact ih (hsplit ▸ List.mem_cons_of_mem _ h)

theorem not_mem_of_mem_lines [DecidableEq α] {text l : List α} (h : l ∈ lines sep text) : sep ∉ l := by
  unfold lines at h
  split at h
  · cases h
  · intro hmem
    rw [List.splitOn_eq_splitOnP] at h
    simpa using not_mem_of_mem_splitOnP h sep hmem

theorem unlines_cons (l : List α) : unlines sep (l :: ls) = l ++ ls.flatMap (sep :: ·) := by
  induction ls generalizing l with
  | nil => simp [unlines]
  | cons m ls ih =>
    have hsplit : unlines sep (l :: m :: ls) = l ++ sep :: unlines sep (m :: ls) := by
      simp [unlines, List.intercalate]
    rw [hsplit, ih, List.flatMap_cons, List.cons_append]

/-- **Lines are read back** just if the separator is in none of them. -/
theorem lines_unlines_iff [DecidableEq α] (hne : ∀ l ∈ ls, l ≠ []) :
    lines sep (unlines sep ls) = ls ↔ ∀ l ∈ ls, sep ∉ l := by
  constructor
  · intro h l hl
    rw [← h] at hl
    exact not_mem_of_mem_lines hl
  · intro h
    cases ls with
    | nil => rfl
    | cons l ls =>
      have htext : unlines sep (l :: ls) ≠ [] := by
        rw [unlines_cons]
        exact List.append_ne_nil_of_left_ne_nil (hne l List.mem_cons_self) _
      rw [lines, if_neg htext]
      exact List.splitOn_intercalate sep h (List.cons_ne_nil _ _)

end Lines
