import Xrdp.Lib.Chains

/-!
# Doubly linked lists with a head

A list with a head is a ring: from the head (`none`) through the elements and back to it.  `fwd none`
is the first element and `bwd none` the last.

* `Ring` — the links of a list, at every place of it.
* `Ring.links` — the links of an element.
* `ring_iff` — the links of a ring are those of two chains.
* `Ring.remove`, `Ring.insert` — the two links that an element is taken out or put in with.
* `Ring.congr` — links of no element do not matter.
-/

namespace Rings

open Chains

variable {ι : Type} {fwd bwd fwd' bwd' : Option ι → Option ι} {L pre suf : List ι} {x : ι}

/-- The links of the list `L`: at every place of it what is in front and what is behind point at each
other. -/
def Ring (fwd bwd : Option ι → Option ι) (L : List ι) : Prop :=
  ∀ pre suf, L = pre ++ suf → fwd pre.getLast? = suf.head? ∧ bwd suf.head? = pre.getLast?

theorem ring_nil : Ring fwd bwd [] ↔ fwd none = none ∧ bwd none = none := by
  constructor
  · intro h
    exact h [] [] rfl
  · intro h pre suf heq
    obtain ⟨rfl, rfl⟩ := List.append_eq_nil_iff.1 heq.symm
    exact h

namespace Ring

/-- The links of the head. -/
theorem ends (h : Ring fwd bwd L) : fwd none = L.head? ∧ bwd none = L.getLast? := by
  have hfirst := h [] L rfl
  have hlast := h L [] (List.append_nil L).symm
  exact ⟨hfirst.1, hlast.2⟩

/-- The links of an element. -/
theorem links (h : Ring fwd bwd (pre ++ x :: suf)) :
    fwd (some x) = suf.head? ∧ bwd (some x) = pre.getLast? := by
  have hbehind := h (pre ++ [x]) suf (by simp)
  have hfront := h pre (x :: suf) rfl
  rw [List.getLast?_concat] at hbehind
  exact ⟨hbehind.1, hfront.2⟩

/-- **Links of what is not in the list do not matter.** -/
theorem congr (h : Ring fwd bwd L) (hhead : fwd' none = fwd none ∧ bwd' none = bwd none)
    (hmem : ∀ a ∈ L, fwd' (some a) = fwd (some a) ∧ bwd' (some a) = bwd (some a)) :
    Ring fwd' bwd' L := by
  intro pre suf heq
  obtain ⟨hf, hb⟩ := h pre suf heq
  constructor
  · rw [← hf]
    cases hlast : pre.getLast? with
    | none => exact hhead.1
    | some a =>
      refine (hmem a ?_).1
      rw [heq]
      exact List.mem_append_left _ (List.mem_of_getLast? hlast)
  · rw [← hb]
    cases hfirst : suf.head? with
    | none => exact hhead.2
    | some a =>
      refine (hmem a ?_).2
      rw [heq]
      exact List.mem_append_right _ (List.mem_of_mem_head? hfirst)

end Ring

/-! ## Taking out and putting in -/

/-- A ring is a chain in either direction. -/
theorem ring_iff : Ring fwd bwd L ↔ Chain fwd L ∧ Chain bwd L.reverse := by
  constructor
  · intro h
    refine ⟨fun pre suf heq => (h pre suf heq).1, fun pre suf heq => ?_⟩
    have hplace := (h suf.reverse pre.reverse (by rw [← List.reverse_append, ← heq, List.reverse_reverse])).2
    rwa [List.head?_reverse, List.getLast?_reverse] at hplace
  · rintro ⟨hfwd, hbwd⟩ pre suf heq
    have hplace := hbwd suf.reverse pre.reverse (by rw [heq, List.reverse_append])
    rw [List.getLast?_reverse, List.head?_reverse] at hplace
    exact ⟨hfwd pre suf heq, hplace⟩

theorem reverse_append_cons (pre suf : List ι) (x : ι) :
    (pre ++ x :: suf).reverse = suf.reverse ++ x :: pre.reverse := by simp

variable [DecidableEq ι]

open Function in
/-- **An element is taken out** by joining what is in front of it and what is behind. -/
theorem Ring.remove (h : Ring fwd bwd (pre ++ x :: suf)) (hnodup : (pre ++ x :: suf).Nodup) :
    Ring (update fwd pre.getLast? suf.head?) (update bwd suf.head? pre.getLast?) (pre ++ suf) := by
  obtain ⟨hfwd, hbwd⟩ := ring_iff.1 h
  have hnodup' := List.nodup_reverse.2 hnodup
  rw [reverse_append_cons] at hbwd hnodup'
  have hbwd' := hbwd.remove hnodup'
  rw [List.getLast?_reverse, List.head?_reverse, ← List.reverse_append] at hbwd'
  exact ring_iff.2 ⟨hfwd.remove hnodup, hbwd'⟩

open Function in
/-- **An element is put in** between what is in front of its place and what is behind. -/
theorem Ring.insert (h : Ring fwd bwd (pre ++ suf)) (hnodup : (pre ++ x :: suf).Nodup) :
    Ring (update (update fwd (some x) suf.head?) pre.getLast? (some x))
      (update (update bwd (some x) pre.getLast?) suf.head? (some x)) (pre ++ x :: suf) := by
  obtain ⟨hfwd, hbwd⟩ := ring_iff.1 h
  have hnodup' := List.nodup_reverse.2 hnodup
  rw [reverse_append_cons] at hnodup'
  rw [List.reverse_append] at hbwd
  have hbwd' := hbwd.insert hnodup'
  rw [List.getLast?_reverse, List.head?_reverse, ← reverse_append_cons] at hbwd'
  exact ring_iff.2 ⟨hfwd.insert hnodup, hbwd'⟩

end Rings
