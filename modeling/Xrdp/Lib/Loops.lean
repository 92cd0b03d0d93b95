import Mathlib.Tactic

/-!
# Counting loops that can fail

* `foldlM_range_ok`, `foldlM_range_eq_ok` — a loop whose states are known: that it gets to its end, and what has
  held on the way if it has got there.
* `foldlM_keeps` — what every pass keeps.
* `foldlM_nested` — a loop in a loop is one loop.
-/

namespace Loops

variable {ε σ : Type} {f : σ → Nat → Except ε σ} {state : Nat → σ} {n : Nat}

/-- Every pass goes from one state to the next one. -/
theorem foldlM_range_ok (state : Nat → σ) (hstep : ∀ i < n, f (state i) i = .ok (state (i + 1))) :
    (List.range n).foldlM f (state 0) = .ok (state n) := by
  induction n with
  | zero => rfl
  | succ n ih =>
    have hfront := ih fun i hi => hstep i (hi.trans (Nat.lt_succ_self n))
    rw [List.range_succ, List.foldlM_append, hfront]
    have hlast := hstep n (Nat.lt_succ_self n)
    simp only [bind, Except.bind, List.foldlM_cons, List.foldlM_nil, hlast]
    rfl

/-- A pass that does not fail goes from one state to the next one, and its condition has held. -/
theorem foldlM_range_eq_ok (cond : Nat → Prop) {s : σ}
    (hstep : ∀ i < n, (∀ j < i, cond j) → ∀ t, f (state i) i = .ok t → t = state (i + 1) ∧ cond i)
    (h : (List.range n).foldlM f (state 0) = .ok s) : s = state n ∧ ∀ i < n, cond i := by
  induction n generalizing s with
  | zero =>
    cases h
    exact ⟨rfl, fun _ hi => absurd hi (Nat.not_lt_zero _)⟩
  | succ n ih =>
    rw [List.range_succ, List.foldlM_append] at h
    cases hrun : (List.range n).foldlM f (state 0) with
    | error e =>
      rw [hrun] at h
      cases h
    | ok t =>
      obtain ⟨rfl, hcond⟩ := ih (fun i hi => hstep i (hi.trans (Nat.lt_succ_self n))) hrun
      rw [hrun] at h
      have hlast : f (state n) n = .ok s := by
        simp only [bind, Except.bind, List.foldlM_cons, List.foldlM_nil] at h
        cases hpass : f (state n) n with
        | error e =>
          rw [hpass] at h
          cases h
        | ok t =>
          rw [hpass] at h
          exact h
      obtain ⟨heq, hn⟩ := hstep n (Nat.lt_succ_self n) hcond s hlast
      refine ⟨heq, fun i hi => ?_⟩
      rcases Nat.lt_succ_iff_lt_or_eq.1 hi with hi | rfl
      · exact hcond i hi
      · exact hn

/-- What every pass keeps. -/
theorem foldlM_keeps {α : Type} {f : σ → α → Except ε σ} {P : σ → Prop} {l : List α}
    (hstep : ∀ s a t, P s → f s a = .ok t → P t) {s t : σ} (hs : P s) (h : l.foldlM f s = .ok t) : P t := by
  induction l generalizing s with
  | nil =>
    cases h
    exact hs
  | cons a l ih =>
    rw [List.foldlM_cons] at h
    cases hpass : f s a with
    | error e =>
      rw [hpass] at h
      cases h
    | ok u =>
      rw [hpass] at h
      exact ih (hstep s a u hs hpass) h

theorem foldlM_congr {α : Type} {f g : σ → α → Except ε σ} {l : List α} (h : ∀ a ∈ l, ∀ s, f s a = g s a) (s : σ) :
    l.foldlM f s = l.foldlM g s := by
  induction l generalizing s with
  | nil => rfl
  | cons a l ih =>
    obtain ⟨ha, hl⟩ := List.forall_mem_cons.1 h
    rw [List.foldlM_cons, List.foldlM_cons, ha]
    exact congrArg _ (funext fun t => ih hl t)

/-- `m` passes over `n` are `m * n` passes. -/
theorem foldlM_nested {g : σ → Nat → Nat → Except ε σ} (m n : Nat) (s : σ) :
    (List.range m).foldlM (fun s i => (List.range n).foldlM (fun s j => g s i j) s) s =
      (List.range (m * n)).foldlM (fun s k => g s (k / n) (k % n)) s := by
  induction m with
  | zero =>
    rw [Nat.zero_mul]
    rfl
  | succ m ih =>
    have hrow : ∀ t, (List.range n).foldlM (fun s j => g s m j) t =
        ((List.range n).map (m * n + ·)).foldlM (fun s k => g s (k / n) (k % n)) t := by
      intro t
      rw [List.foldlM_map]
      refine foldlM_congr (fun j hj s => ?_) t
      have hlt := List.mem_range.1 hj
      rw [Nat.mul_comm m n, Nat.mul_add_div (by omega), Nat.div_eq_of_lt hlt, Nat.mul_add_mod,
        Nat.mod_eq_of_lt hlt, Nat.add_zero]
    rw [List.range_succ, List.foldlM_append, ih, Nat.succ_mul, List.range_add, List.foldlM_append]
    refine congrArg _ (funext fun t => ?_)
    rw [← hrow, List.foldlM_cons]
    exact bind_pure _

end Loops
