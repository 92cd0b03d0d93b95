import Mathlib.Data.List.Basic
import Mathlib.Data.List.Induction
import Mathlib.Data.List.Nodup
import Mathlib.Logic.Function.Basic
import Mathlib.Tactic.Common

/-!
# Singly linked lists

What follows an element is kept with it; what follows `none` is the first element.

* `Chain` — the links of a list, at every place of it.
* `Chain.next` — what follows an element.
* `foldl_last` — the last element with some property.
* `Chain.insert`, `Chain.remove` — the links that an element is put in or taken out with.
-/

namespace Chains

variable {ι : Type} {nxt : Option ι → Option ι} {L pre suf : List ι} {x : ι}

/-- The links of the list `L`. -/
def Chain (nxt : Option ι → Option ι) (L : List ι) : Prop :=
  ∀ pre suf, L = pre ++ suf → nxt pre.getLast? = suf.head?

theorem chain_nil : Chain nxt [] ↔ nxt none = none := by
  constructor
  · exact fun h => h [] [] rfl
  · intro h pre suf heq
    obtain ⟨rfl, rfl⟩ := List.append_eq_nil_iff.1 heq.symm
    exact h

theorem Chain.head (h : Chain nxt L) : nxt none = L.head? := h [] L rfl

/-- What follows an element. -/
theorem Chain.next (h : Chain nxt (pre ++ x :: suf)) : nxt (some x) = suf.head? := by
  have hplace := h (pre ++ [x]) suf (by simp)
  rwa [List.getLast?_concat] at hplace

/-- The last element that something is kept of. -/
theorem foldl_last {α : Type} (p : ι → Prop) [DecidablePred p] (f : ι → α) (L : List ι) (a : α) :
    (∀ i ∈ L, ¬ p i) ∧ L.foldl (fun a i => if p i then f i else a) a = a ∨
      ∃ pre x suf, L = pre ++ x :: suf ∧ p x ∧ (∀ i ∈ suf, ¬ p i) ∧
        L.foldl (fun a i => if p i then f i else a) a = f x := by
  induction L using List.reverseRecOn with
  | nil => exact Or.inl ⟨fun _ h => (nomatch h), rfl⟩
  | append_singleton L x ih =>
    by_cases hx : p x
    · exact Or.inr ⟨L, x, [], rfl, hx, fun _ h => (nomatch h), by simp [hx]⟩
    · rcases ih with ⟨hnone, heq⟩ | ⟨pre, y, suf, rfl, hy, hsuf, heq⟩
      · left
        constructor
        · intro i hi
          rcases List.mem_append.1 hi with hold | hnew
          · exact hnone i hold
          · rwa [List.mem_singleton.1 hnew]
        · simpa [hx] using heq
      · refine Or.inr ⟨pre, y, suf ++ [x], by simp, hy, ?_, by simpa [hx] using heq⟩
        intro i hi
        rcases List.mem_append.1 hi with hold | hnew
        · exact hsuf i hold
        · rwa [List.mem_singleton.1 hnew]

/-- There is just one last element. -/
theorem last_unique {p : ι → Prop} {pre suf pre' suf' : List ι} {x y : ι}
    (heq : pre ++ x :: suf = pre' ++ y :: suf') (hx : p x) (hsuf : ∀ i ∈ suf, ¬ p i) (hy : p y)
    (hsuf' : ∀ i ∈ suf', ¬ p i) : x = y := by
  rcases List.append_eq_append_iff.1 heq with ⟨C, rfl, hC⟩ | ⟨C, rfl, hC⟩
  · cases C with
    | nil => exact (List.cons.inj hC).1
    | cons c C =>
      obtain ⟨rfl, rfl⟩ := List.cons.inj hC
      exact absurd hy (hsuf y (by simp))
  · cases C with
    | nil => exact (List.cons.inj hC).1.symm
    | cons c C =>
      obtain ⟨rfl, rfl⟩ := List.cons.inj hC
      exact absurd hx (hsuf' x (by simp))

/-! ## Ends of parts of a list without repetitions -/

theorem getLast?_ne_of_disjoint {A B : List ι} (hB : B ≠ []) (h : ∀ a ∈ A, a ∉ B) :
    A.getLast? ≠ B.getLast? := by
  intro heq
  obtain ⟨b, hb⟩ := Option.ne_none_iff_exists'.1 (mt List.getLast?_eq_none_iff.1 hB)
  have hmem := List.mem_of_getLast? hb
  exact h b (List.mem_of_getLast? (heq.trans hb)) hmem

theorem head?_ne_of_disjoint {A B : List ι} (hB : B ≠ []) (h : ∀ a ∈ A, a ∉ B) :
    A.head? ≠ B.head? := by
  intro heq
  obtain ⟨b, hb⟩ := Option.ne_none_iff_exists'.1 (mt List.head?_eq_none_iff.1 hB)
  have hmem := List.mem_of_mem_head? hb
  exact h b (List.mem_of_mem_head? (heq.trans hb)) hmem

theorem getLast?_ne_some {A : List ι} (h : x ∉ A) : A.getLast? ≠ some x :=
  fun heq => h (List.mem_of_getLast? heq)

theorem head?_ne_some {A : List ι} (h : x ∉ A) : A.head? ≠ some x :=
  fun heq => h (List.mem_of_mem_head? heq)

/-! ## Taking out and putting in -/

variable [DecidableEq ι]

open Function in
/-- **An element is put in** between what is in front of its place and what is behind. -/
theorem Chain.insert (h : Chain nxt (pre ++ suf)) (hnodup : (pre ++ x :: suf).Nodup) :
    Chain (update (update nxt (some x) suf.head?) pre.getLast? (some x)) (pre ++ x :: suf) := by
  rw [List.nodup_append, List.nodup_cons] at hnodup
  obtain ⟨hpre, ⟨hxsuf, -⟩, hdisj⟩ := hnodup
  have hxpre : x ∉ pre := fun hx => hdisj x hx x List.mem_cons_self rfl
  intro A B heq
  rcases List.append_eq_append_iff.1 heq with ⟨C, rfl, hB⟩ | ⟨C, rfl, rfl⟩
  · cases C with
    | nil =>
      -- the place in front of the element
      rw [List.append_nil, update_self, ← List.nil_append B, ← hB]
      rfl
    | cons y C =>
      obtain ⟨rfl, rfl⟩ : x = y ∧ suf = C ++ B := List.cons_eq_cons.1 hB
      by_cases hC : C = []
      · -- the place behind the element
        subst hC
        rw [List.getLast?_concat, update_of_ne (getLast?_ne_some hxpre).symm, update_self]
        rfl
      · have hlast : (pre ++ x :: C).getLast? = C.getLast? := by
          rw [List.getLast?_append_of_ne_nil _ (List.cons_ne_nil x C), List.getLast?_cons_of_ne_nil hC]
        have hne : C.getLast? ≠ pre.getLast? := (getLast?_ne_of_disjoint hC fun a ha hc =>
          hdisj a ha a (List.mem_cons_of_mem _ (List.mem_append_left _ hc)) rfl).symm
        have hplace := h (pre ++ C) B (by simp)
        rw [List.getLast?_append_of_ne_nil _ hC] at hplace
        rw [hlast, update_of_ne hne,
          update_of_ne (getLast?_ne_some fun hx => hxsuf (List.mem_append_left _ hx))]
        exact hplace
  · by_cases hC : C = []
    · -- the place in front of the element
      subst hC
      rw [List.append_nil, update_self]
      rfl
    · have hne : A.getLast? ≠ (A ++ C).getLast? := by
        rw [List.nodup_append] at hpre
        rw [List.getLast?_append_of_ne_nil _ hC]
        exact getLast?_ne_of_disjoint hC fun a ha hc => hpre.2.2 a ha a hc rfl
      have hplace := h A (C ++ suf) (by simp)
      rw [update_of_ne hne, update_of_ne (getLast?_ne_some fun hx => hxpre (List.mem_append_left _ hx)),
        hplace, List.head?_append_of_ne_nil _ hC, List.head?_append_of_ne_nil _ hC]

open Function in
/-- An element is put in at the end. -/
theorem Chain.append (h : Chain nxt L) (hnodup : L.Nodup) (hx : x ∉ L) :
    Chain (update (update nxt (some x) none) L.getLast? (some x)) (L ++ [x]) := by
  rw [← List.append_nil L] at h
  exact h.insert (List.nodup_append.2 ⟨hnodup, List.nodup_singleton x, fun a ha b hb hab =>
    hx (List.mem_singleton.1 hb ▸ hab ▸ ha)⟩)

open Function in
/-- An element is taken out. -/
theorem Chain.remove (h : Chain nxt (pre ++ x :: suf)) (hnodup : (pre ++ x :: suf).Nodup) :
    Chain (update nxt pre.getLast? suf.head?) (pre ++ suf) := by
  rw [List.nodup_append, List.nodup_cons] at hnodup
  obtain ⟨hpre, ⟨-, hsuf⟩, hdisj⟩ := hnodup
  have happart : ∀ a ∈ pre, a ∉ suf := fun a ha hs => hdisj a ha a (List.mem_cons_of_mem _ hs) rfl
  intro A B heq
  rcases List.append_eq_append_iff.1 heq with ⟨C, rfl, rfl⟩ | ⟨C, rfl, rfl⟩
  · -- the place is behind the element
    by_cases hC : C = []
    · subst hC
      rw [List.append_nil, update_self]
      rfl
    · have hne : (pre ++ C).getLast? ≠ pre.getLast? := by
        rw [List.getLast?_append_of_ne_nil _ hC]
        exact (getLast?_ne_of_disjoint hC fun a ha hc => happart a ha (List.mem_append_left _ hc)).symm
      have hplace := h (pre ++ x :: C) B (by simp)
      have hlast : (pre ++ x :: C).getLast? = (pre ++ C).getLast? := by
        rw [List.getLast?_append_of_ne_nil _ hC, List.getLast?_append_of_ne_nil _ (List.cons_ne_nil x C),
          List.getLast?_cons_of_ne_nil hC]
      rw [update_of_ne hne, ← hlast]
      exact hplace
  · -- the place is in front of the element
    by_cases hC : C = []
    · subst hC
      rw [List.append_nil, update_self]
      rfl
    · have hne : A.getLast? ≠ (A ++ C).getLast? := by
        rw [List.nodup_append] at hpre
        rw [List.getLast?_append_of_ne_nil _ hC]
        exact getLast?_ne_of_disjoint hC fun a ha hc => hpre.2.2 a ha a hc rfl
      have hplace := h A (C ++ x :: suf) (by simp)
      rw [update_of_ne hne, hplace, List.head?_append_of_ne_nil _ hC, List.head?_append_of_ne_nil _ hC]

end Chains
