import Mathlib.Data.List.Perm.Basic
import Mathlib.Logic.Function.Basic

/-!
# Least recently used caches

* `Lru κ n` — `n` slots from the least to the most recently used, each holding a key of `κ` or
  nothing, no two the same key.
* `Lru.access` — a key that is held is found in its slot; one that is not takes the slot least
  recently used.  Either way the slot becomes the most recently used.
* `Lru.access_mirror` — a copy of the slots that is told of the misses only stays a copy.
-/

namespace LruCache

/-- An LRU cache of `n` slots. -/
structure Lru (κ : Type*) (n : Nat) where
  order : List Nat
  held : Nat → Option κ
  perm : order.Perm (List.range n)
  held_lt : ∀ i k, held i = some k → i < n
  held_inj : ∀ i j k, held i = some k → held j = some k → i = j

namespace Lru

variable {κ : Type*} {n : Nat}

/-- No slot holds anything. -/
def empty (κ : Type*) (n : Nat) : Lru κ n where
  order := List.range n
  held _ := none
  perm := .refl _
  held_lt _ _ h := by cases h
  held_inj _ _ _ h := by cases h

theorem mem_order (c : Lru κ n) {i : Nat} : i ∈ c.order ↔ i < n := by
  rw [c.perm.mem_iff, List.mem_range]

theorem nodup (c : Lru κ n) : c.order.Nodup := c.perm.nodup_iff.2 List.nodup_range

/-- The slot least recently used. -/
def oldest (c : Lru κ n) : Nat := c.order.headD 0

theorem order_eq_cons (c : Lru κ n) (hn : 0 < n) : ∃ rest, c.order = c.oldest :: rest := by
  cases h : c.order with
  | nil =>
    have := c.mem_order.2 hn
    rw [h] at this
    cases this
  | cons i rest => exact ⟨rest, by rw [oldest, h]; rfl⟩

theorem oldest_lt (c : Lru κ n) (hn : 0 < n) : c.oldest < n := by
  obtain ⟨rest, h⟩ := c.order_eq_cons hn
  rw [← c.mem_order, h]
  exact List.mem_cons_self

/-- Slot `i` takes the key `k` and becomes the most recently used. -/
def use (c : Lru κ n) (i : Nat) (k : κ) (hi : i < n) (hk : ∀ j, c.held j = some k → j = i) :
    Lru κ n where
  order := c.order.erase i ++ [i]
  held := Function.update c.held i (some k)
  perm := by
    have hmem := c.mem_order.2 hi
    exact (List.perm_append_singleton i _).trans ((List.perm_cons_erase hmem).symm.trans c.perm)
  held_lt j k' h := by
    rcases eq_or_ne j i with rfl | hne
    · exact hi
    · rw [Function.update_of_ne hne] at h
      exact c.held_lt j k' h
  held_inj j l k' hj hl := by
    rcases eq_or_ne j i with rfl | hji
    · rcases eq_or_ne l j with rfl | hlj
      · rfl
      · rw [Function.update_self, Option.some_inj] at hj
        rw [Function.update_of_ne hlj] at hl
        exact (hk l (hj ▸ hl)).symm
    · rw [Function.update_of_ne hji] at hj
      rcases eq_or_ne l i with rfl | hli
      · rw [Function.update_self, Option.some_inj] at hl
        exact hk j (hl ▸ hj)
      · rw [Function.update_of_ne hli] at hl
        exact c.held_inj j l k' hj hl

variable [DecidableEq κ]

/-- The slot that holds `k`. -/
def lookup (c : Lru κ n) (k : κ) : Option Nat := c.order.find? fun i => c.held i = some k

theorem lookup_eq_some {c : Lru κ n} {k : κ} {i : Nat} :
    c.lookup k = some i ↔ c.held i = some k := by
  constructor
  · intro h
    simpa using List.find?_some h
  · intro h
    cases hf : c.lookup k with
    | none =>
      have := List.find?_eq_none.1 hf i (c.mem_order.2 (c.held_lt i k h))
      simp [h] at this
    | some j =>
      have hj : c.held j = some k := by simpa using List.find?_some hf
      rw [c.held_inj i j k h hj]

theorem lookup_eq_none {c : Lru κ n} {k : κ} : c.lookup k = none ↔ ∀ i, c.held i ≠ some k := by
  constructor
  · intro h i hi
    rw [lookup_eq_some.2 hi] at h
    cases h
  · intro h
    cases hf : c.lookup k with
    | none => rfl
    | some i => exact absurd (lookup_eq_some.1 hf) (h i)

/-- An access to `k`: its slot, whether it was missed, the cache afterwards. -/
def access (c : Lru κ n) (hn : 0 < n) (k : κ) : Nat × Bool × Lru κ n :=
  match h : c.lookup k with
  | some i =>
    (i, false, c.use i k (c.held_lt i k (lookup_eq_some.1 h)) fun j hj =>
      c.held_inj j i k hj (lookup_eq_some.1 h))
  | none =>
    (c.oldest, true, c.use c.oldest k (c.oldest_lt hn) fun j hj =>
      absurd hj (lookup_eq_none.1 h j))

theorem access_hit {c : Lru κ n} (hn : 0 < n) {k : κ} {i : Nat} (h : c.held i = some k) :
    (c.access hn k).1 = i ∧ (c.access hn k).2.1 = false ∧
      (c.access hn k).2.2.order = c.order.erase i ++ [i] ∧ (c.access hn k).2.2.held = c.held := by
  rw [access]
  split
  · rename_i j hj
    obtain rfl : j = i := c.held_inj j i k (lookup_eq_some.1 hj) h
    refine ⟨rfl, rfl, rfl, ?_⟩
    exact (congrArg _ h.symm).trans (Function.update_eq_self j c.held)
  · rename_i hnone
    exact absurd h (lookup_eq_none.1 hnone i)

theorem access_miss {c : Lru κ n} (hn : 0 < n) {k : κ} (h : ∀ i, c.held i ≠ some k) :
    (c.access hn k).1 = c.oldest ∧ (c.access hn k).2.1 = true ∧
      (c.access hn k).2.2.order = c.order.erase c.oldest ++ [c.oldest] ∧
      (c.access hn k).2.2.held = Function.update c.held c.oldest (some k) := by
  rw [access]
  split
  · rename_i i hi
    exact absurd (lookup_eq_some.1 hi) (h i)
  · exact ⟨rfl, rfl, rfl, rfl⟩

/-- **The slot of an access holds the key.** -/
theorem access_holds (c : Lru κ n) (hn : 0 < n) (k : κ) :
    (c.access hn k).2.2.held (c.access hn k).1 = some k := by
  by_cases h : ∃ i, c.held i = some k
  · obtain ⟨i, hi⟩ := h
    obtain ⟨h1, -, -, h4⟩ := access_hit hn hi
    rw [h1, h4, hi]
  · push Not at h
    obtain ⟨h1, -, -, h4⟩ := access_miss hn h
    rw [h1, h4, Function.update_self]

/-- `copy` has what every slot that holds something holds. -/
def Mirrors (copy : Nat → Option κ) (c : Lru κ n) : Prop :=
  ∀ i k, c.held i = some k → copy i = some k

/-- **A copy told of the misses stays a copy.** -/
theorem access_mirror {c : Lru κ n} (hn : 0 < n) (k : κ) {copy : Nat → Option κ}
    (h : Mirrors copy c) :
    Mirrors (if (c.access hn k).2.1 then Function.update copy (c.access hn k).1 (some k) else copy)
      (c.access hn k).2.2 := by
  intro i k' hi
  by_cases hit : ∃ j, c.held j = some k
  · obtain ⟨j, hj⟩ := hit
    obtain ⟨-, h2, -, h4⟩ := access_hit hn hj
    rw [h2, if_neg Bool.false_ne_true]
    exact h i k' (h4 ▸ hi)
  · push Not at hit
    obtain ⟨h1, h2, -, h4⟩ := access_miss hn hit
    rw [h2, if_pos rfl, h1]
    rw [h4] at hi
    rcases eq_or_ne i c.oldest with rfl | hne
    · rwa [Function.update_self] at hi ⊢
    · rw [Function.update_of_ne hne] at hi ⊢
      exact h i k' hi

end Lru

end LruCache
