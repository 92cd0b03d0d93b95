import Mathlib.Data.Fintype.Card
import Mathlib.Tactic.Common

/-!
# How many threads are at a place

* `count` — the number of threads at a place.
* `count_update` — one thread goes from one place to another.
-/

namespace Places

variable {ι P : Type} [Fintype ι] [DecidableEq P]

/-- The number of threads at a place. -/
def count (pc : ι → P) (p : P) : Nat := (Finset.univ.filter fun t => pc t = p).card

theorem count_pos {pc : ι → P} {t : ι} {p : P} (h : pc t = p) : 0 < count pc p :=
  Finset.card_pos.2 ⟨t, Finset.mem_filter.2 ⟨Finset.mem_univ t, h⟩⟩

theorem exists_of_count_pos {pc : ι → P} {p : P} (h : 0 < count pc p) : ∃ t, pc t = p := by
  obtain ⟨t, ht⟩ := Finset.card_pos.1 h
  exact ⟨t, (Finset.mem_filter.1 ht).2⟩

/-- Two threads are at a place. -/
theorem one_lt_count {pc : ι → P} {t u : ι} {p : P} (htu : t ≠ u) (ht : pc t = p)
    (hu : pc u = p) : 1 < count pc p := by
  apply Finset.one_lt_card.2
  exact ⟨t, Finset.mem_filter.2 ⟨Finset.mem_univ t, ht⟩, u,
    Finset.mem_filter.2 ⟨Finset.mem_univ u, hu⟩, htu⟩

theorem count_const (a p : P) (h : a ≠ p) : count (fun _ : ι => a) p = 0 := by
  simp [count, h]

variable [DecidableEq ι]

theorem count_update_other {pc : ι → P} {t : ι} {p q : P} (hp : pc t ≠ p) (hq : q ≠ p) :
    count (Function.update pc t q) p = count pc p := by
  unfold count
  congr 1
  ext u
  by_cases hu : u = t
  · subst hu
    simp [hp, hq]
  · simp [hu]

/-- A thread arrives at a place. -/
theorem count_update_new {pc : ι → P} {t : ι} {p : P} (hp : pc t ≠ p) :
    count (Function.update pc t p) p = count pc p + 1 := by
  have ht : t ∉ Finset.univ.filter fun u => pc u = p := fun h => hp (Finset.mem_filter.1 h).2
  unfold count
  rw [← Finset.card_insert_of_notMem ht]
  congr 1
  ext u
  by_cases hu : u = t
  · subst hu
    simp
  · simp [hu]

/-- A thread leaves a place. -/
theorem count_update_old {pc : ι → P} {t : ι} {p q : P} (hp : pc t = p) (hq : q ≠ p) :
    count (Function.update pc t q) p + 1 = count pc p := by
  have hback : Function.update (Function.update pc t q) t p = pc := by
    rw [Function.update_idem, ← hp, Function.update_eq_self]
  have hne : Function.update pc t q t ≠ p := by
    rwa [Function.update_self]
  rw [← count_update_new hne, hback]

/-- One thread goes from one place to another. -/
theorem count_update {pc : ι → P} {t : ι} {p q : P} (hp : pc t = p) (hq : q ≠ p) (r : P) :
    count (Function.update pc t q) r + (if r = p then 1 else 0) =
      count pc r + (if r = q then 1 else 0) := by
  by_cases hrp : r = p
  · subst hrp
    rw [if_pos rfl, if_neg fun h => hq h.symm, count_update_old hp hq, Nat.add_zero]
  · rw [if_neg hrp, Nat.add_zero]
    by_cases hrq : r = q
    · subst hrq
      rw [if_pos rfl, count_update_new fun h => hrp (h.symm.trans hp)]
    · rw [if_neg hrq, Nat.add_zero]
      exact count_update_other (fun h => hrp (h.symm.trans hp)) fun h => hrq h.symm

end Places
