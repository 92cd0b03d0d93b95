import Mathlib.Data.List.Basic
import Mathlib.Tactic.Common

/-!
# Pieces of a list

* `chunks` — a list in pieces of `n`, of which the last may be shorter.
* `chunks_step` — the first piece and the pieces of the rest.
* `flatten_chunks`, `length_of_mem_chunks` — the pieces make up the list, and none is empty or too
  long.
-/

namespace Chunks

variable {α : Type}

/-- Pieces of `n` elements, of which the last may be shorter. -/
def chunks (n : Nat) (xs : List α) : List (List α) :=
  if _h : 0 < n ∧ xs ≠ [] then xs.take n :: chunks n (xs.drop n) else []
termination_by xs.length
decreasing_by
  have hpos := List.length_pos_of_ne_nil _h.2
  rw [List.length_drop]
  omega

@[simp] theorem chunks_nil (n : Nat) : chunks n ([] : List α) = [] := by
  rw [chunks, dif_neg fun h => h.2 rfl]

theorem chunks_step {n : Nat} (hn : 0 < n) {xs : List α} (hxs : xs ≠ []) :
    chunks n xs = xs.take n :: chunks n (xs.drop n) := by
  rw [chunks, dif_pos ⟨hn, hxs⟩]

/-- There is no piece just if there is nothing. -/
theorem chunks_eq_nil {n : Nat} (hn : 0 < n) {xs : List α} : chunks n xs = [] ↔ xs = [] := by
  constructor
  · intro h
    by_contra hxs
    rw [chunks_step hn hxs] at h
    cases h
  · rintro rfl
    exact chunks_nil n

theorem isEmpty_chunks {n : Nat} (hn : 0 < n) (xs : List α) : (chunks n xs).isEmpty = xs.isEmpty := by
  cases xs with
  | nil =>
    rw [chunks_nil]
    rfl
  | cons x xs => rw [chunks_step hn (List.cons_ne_nil x xs), List.isEmpty_cons, List.isEmpty_cons]

/-- A piece, and then the others. -/
theorem chunks_append {n : Nat} (hn : 0 < n) {piece rest : List α} (hpiece : piece ≠ [])
    (h : piece.length = n ∨ piece.length < n ∧ rest = []) :
    chunks n (piece ++ rest) = piece :: chunks n rest := by
  rw [chunks_step hn (List.append_ne_nil_of_left_ne_nil hpiece rest)]
  rcases h with h | ⟨h, rfl⟩
  · rw [List.take_left' h, List.drop_left' h]
  · rw [List.append_nil, List.take_of_length_le (Nat.le_of_lt h),
      List.drop_eq_nil_of_le (Nat.le_of_lt h)]

/-- To prove something of all lists, from what is behind the first piece. -/
theorem chunks_induction {n : Nat} (hn : 0 < n) {P : List α → Prop} (nil : P [])
    (step : ∀ xs, xs ≠ [] → P (xs.drop n) → P xs) (xs : List α) : P xs := by
  induction hlen : xs.length using Nat.strongRecOn generalizing xs with
  | ind len ih =>
    by_cases hxs : xs = []
    · exact hxs ▸ nil
    · have hpos := List.length_pos_of_ne_nil hxs
      have hdrop : (xs.drop n).length < len := by
        rw [List.length_drop]
        omega
      exact step xs hxs (ih _ hdrop _ rfl)

theorem flatten_chunks {n : Nat} (hn : 0 < n) (xs : List α) : (chunks n xs).flatten = xs := by
  induction xs using chunks_induction hn with
  | nil => rw [chunks_nil, List.flatten_nil]
  | step xs hxs ih => rw [chunks_step hn hxs, List.flatten_cons, ih, List.take_append_drop]

theorem length_of_mem_chunks {n : Nat} (hn : 0 < n) (xs : List α) :
    ∀ piece ∈ chunks n xs, 0 < piece.length ∧ piece.length ≤ n := by
  induction xs using chunks_induction hn with
  | nil =>
    rw [chunks_nil]
    intro piece h
    cases h
  | step xs hxs ih =>
    rw [chunks_step hn hxs]
    intro piece h
    rcases List.mem_cons.1 h with rfl | h
    · have hpos := List.length_pos_of_ne_nil hxs
      rw [List.length_take]
      omega
    · exact ih piece h

end Chunks
