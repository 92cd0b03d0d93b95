import Mathlib.Data.Finset.Card
import Mathlib.Logic.Relation
import Mathlib.Tactic.Common

/-!
# Forests given by parents

Nodes with at most one parent each; the parents of a node lead to a root.

* `Rooted` — the parents of a node end at a root, so that no node is under itself
  (`Rooted.not_under_self`).
* `Rooted.mono` — nodes may be moved under a root or taken away with what is under them.
* `size`, `size_lt`, `size_lt_of_under` — how many nodes are under a node: fewer are under a node that
  is under it.
-/

namespace Forest

variable {ι : Type}

/-- The parents of a node end at a root. -/
inductive Rooted (parent : ι → Option ι) (root : ι → Prop) : ι → Prop
  | root {e : ι} : root e → Rooted parent root e
  | step {e d : ι} : parent e = some d → Rooted parent root d → Rooted parent root e

/-- `i` is under `d`: `d` is its parent, or the parent of its parent, and so on. -/
def Under (parent : ι → Option ι) (d i : ι) : Prop :=
  Relation.TransGen (fun i d => parent i = some d) i d

variable {parent parent' : ι → Option ι} {root : ι → Prop} {c d e i : ι}

theorem Under.child (h : parent c = some d) : Under parent d c := .single h

theorem Under.trans (h : Under parent c i) (h' : Under parent d c) : Under parent d i :=
  Relation.TransGen.trans h h'

/-- The first step up. -/
theorem Under.first (h : Under parent d i) :
    ∃ j, parent i = some j ∧ (j = d ∨ Under parent d j) := by
  rcases Relation.TransGen.head'_iff.1 h with ⟨j, hj, hrest⟩
  rcases Relation.reflTransGen_iff_eq_or_transGen.1 hrest with heq | hunder
  · exact ⟨j, hj, .inl heq.symm⟩
  · exact ⟨j, hj, .inr hunder⟩

/-- What is above a node with one parent is above that parent, or is it. -/
theorem Under.of_parent (hp : parent i = some c) (h : Under parent d i) :
    c = d ∨ Under parent d c := by
  obtain ⟨j, hj, h⟩ := h.first
  obtain rfl : c = j := Option.some_injective _ (hp.symm.trans hj)
  exact h

/-- Of two nodes above a node, one is above the other. -/
theorem Under.compare (hc : Under parent c i) (hd : Under parent d i) :
    c = d ∨ Under parent d c ∨ Under parent c d := by
  induction hc using Relation.TransGen.head_induction_on with
  | single hp =>
    rcases hd.of_parent hp with heq | hu
    · exact .inl heq
    · exact .inr (.inl hu)
  | head hp hu ih =>
    rcases hd.of_parent hp with rfl | hu'
    · exact .inr (.inr hu)
    · exact ih hu'

theorem not_under_of_parent_eq_none (h : parent i = none) : ¬Under parent d i := by
  intro hunder
  obtain ⟨j, hj, -⟩ := hunder.first
  rw [h] at hj
  cases hj

/-- **No node is under itself.** -/
theorem Rooted.not_under_self (h : Rooted parent root e)
    (hroot : ∀ r, root r → parent r = none) : ¬Under parent e e := by
  induction h with
  | root hr => exact not_under_of_parent_eq_none (hroot _ hr)
  | step hp _ ih =>
    intro hunder
    rcases hunder.of_parent hp with heq | h
    · exact ih (heq ▸ hunder)
    · exact ih (h.trans (Under.child hp))

/-- **Nodes may be moved under a root**, and those without `P` taken away, if what is under them is. -/
theorem Rooted.mono {P : ι → Prop} (h : Rooted parent root e) (he : P e)
    (hstep : ∀ e d, P e → parent e = some d →
      (parent' e = some d ∧ P d) ∨ ∃ r, root r ∧ parent' e = some r) :
    Rooted parent' root e := by
  induction h with
  | root hr => exact .root hr
  | step hp _ ih =>
    rcases hstep _ _ he hp with ⟨hp', hd⟩ | ⟨r, hr, hp'⟩
    · exact .step hp' (ih hd)
    · exact .step hp' (.root hr)

/-! ## How many nodes are under a node -/

open Classical in
/-- The number of nodes below `n` that are under `d`. -/
noncomputable def size (parent : Nat → Option Nat) (n d : Nat) : Nat :=
  ((Finset.range n).filter (Under parent d)).card

section

variable {parent parent' : Nat → Option Nat} {root : Nat → Prop} {c d n : Nat}

theorem size_le (parent : Nat → Option Nat) (n d : Nat) : size parent n d ≤ n := by
  classical
  refine le_trans (Finset.card_filter_le _ _) ?_
  rw [Finset.card_range]

/-- The nodes under `c` with parents `parent'` are among those that are under `d`, and `i` is one that
is left out. -/
theorem size_lt {i : Nat} (hsub : ∀ j, Under parent' c j → Under parent d j) (hi : i < n)
    (hin : Under parent d i) (hout : ¬Under parent' c i) : size parent' n c < size parent n d := by
  classical
  apply Finset.card_lt_card
  rw [Finset.ssubset_iff_of_subset]
  · exact ⟨i, Finset.mem_filter.2 ⟨Finset.mem_range.2 hi, hin⟩, fun h =>
      hout (Finset.mem_filter.1 h).2⟩
  · intro j hj
    obtain ⟨hj, hu⟩ := Finset.mem_filter.1 hj
    exact Finset.mem_filter.2 ⟨hj, hsub j hu⟩

/-- Fewer nodes are under a node than under one above it. -/
theorem size_lt_of_under (h : Rooted parent root c) (hroot : ∀ r, root r → parent r = none)
    (hunder : Under parent d c) (hc : c < n) : size parent n c < size parent n d :=
  size_lt (fun _ hj => hj.trans hunder) hc hunder (h.not_under_self hroot)

end

end Forest
