import Mathlib.Tactic.Common
import Xrdp.Lib.Ensures

/-!
# How far a reader reads

Functions that take elements off the front of a list, and fail if there are not enough.

* `Reads b i x j a` — from the place `i` of `b` on, `x` reads up to the place `j` and finds `a`;
  it fails if `b` ends before.
* `Ends b i x j` — the same, whatever is found.
* `Ends.bind`, `Ends.bind_any`, `Ends.ite` — the rules for readers that are put together.
* `Ends.isOk_iff` — a reader has a result exactly if it ends within the list.
* `Extends` — what a reader finds does not depend on what is behind it.
-/

namespace Extent

variable {σ ε α β : Type} {b : List σ} {i j k : Nat}

/-- From the place `i` on, the reader reads up to the place `j`. -/
structure Reads (b : List σ) (i : Nat) (x : StateT (List σ) (Except ε) α) (j : Nat) (a : α) :
    Prop where
  le : i ≤ j
  ok : j ≤ b.length → x (b.drop i) = .ok (a, b.drop j)
  error : i ≤ b.length → b.length < j → ∃ e, x (b.drop i) = .error e

/-- The reader reads up to the place `j`, whatever it finds. -/
def Ends (b : List σ) (i : Nat) (x : StateT (List σ) (Except ε) α) (j : Nat) : Prop :=
  ∃ a, Reads b i x j a

theorem Reads.ends {x : StateT (List σ) (Except ε) α} {a : α} (h : Reads b i x j a) :
    Ends b i x j :=
  ⟨a, h⟩

/-- Nothing is read. -/
theorem Reads.pure {a : α} :
    Reads b i (Pure.pure a : StateT (List σ) (Except ε) α) i a where
  le := Nat.le_refl i
  ok := fun _ => rfl
  error := fun hi hlt => by omega

theorem Reads.bind {x : StateT (List σ) (Except ε) α} {f : α → StateT (List σ) (Except ε) β}
    {a : α} {c : β} (hx : Reads b i x j a) (hf : Reads b j (f a) k c) :
    Reads b i (x >>= f) k c := by
  constructor
  · exact Nat.le_trans hx.le hf.le
  · intro hk
    rw [StateTRules.bind_ok (hx.ok (Nat.le_trans hf.le hk))]
    exact hf.ok hk
  · intro hi hlt
    by_cases hj : j ≤ b.length
    · obtain ⟨e, he⟩ := hf.error hj hlt
      refine ⟨e, ?_⟩
      rw [StateTRules.bind_ok (hx.ok hj)]
      exact he
    · obtain ⟨e, he⟩ := hx.error hi (by omega)
      exact ⟨e, StateTRules.bind_error he⟩

theorem Ends.pure {a : α} : Ends b i (Pure.pure a : StateT (List σ) (Except ε) α) i :=
  Reads.pure.ends

/-- What is read first is known. -/
theorem Ends.bind {x : StateT (List σ) (Except ε) α} {f : α → StateT (List σ) (Except ε) β}
    {a : α} (hx : Reads b i x j a) (hf : Ends b j (f a) k) : Ends b i (x >>= f) k := by
  obtain ⟨c, hc⟩ := hf
  exact ⟨c, hx.bind hc⟩

/-- What is read first does not matter for where it ends. -/
theorem Ends.bind_any {x : StateT (List σ) (Except ε) α}
    {f : α → StateT (List σ) (Except ε) β} (hx : Ends b i x j) (hf : ∀ a, Ends b j (f a) k) :
    Ends b i (x >>= f) k := by
  obtain ⟨a, ha⟩ := hx
  exact Ends.bind ha (hf a)

theorem Ends.ite {c : Prop} [Decidable c] {x y : StateT (List σ) (Except ε) α}
    (hx : c → Ends b i x j) (hy : ¬ c → Ends b i y j) : Ends b i (if c then x else y) j := by
  split
  · exact hx ‹_›
  · exact hy ‹_›

/-- The two ways to go on end at different places. -/
theorem Ends.ite_iff {c d : Prop} [Decidable c] [Decidable d] {x y : StateT (List σ) (Except ε) α}
    (h : c ↔ d) (hx : Ends b i x j) (hy : Ends b i y k) :
    Ends b i (if c then x else y) (if d then j else k) := by
  by_cases hd : d
  · rw [if_pos (h.2 hd), if_pos hd]
    exact hx
  · rw [if_neg (mt h.1 hd), if_neg hd]
    exact hy

/-- A reader has a result exactly if it ends within the list. -/
theorem Ends.isOk_iff {x : StateT (List σ) (Except ε) α} (h : Ends b 0 x j) :
    (∃ r, x b = .ok r) ↔ j ≤ b.length := by
  obtain ⟨a, ha⟩ := h
  constructor
  · rintro ⟨r, hr⟩
    by_contra hlt
    obtain ⟨e, he⟩ := ha.error (Nat.zero_le _) (by omega)
    rw [List.drop_zero, hr] at he
    cases he
  · intro hj
    exact ⟨_, ha.ok hj⟩

/-- What is behind does not change what is read. -/
def Extends (x : StateT (List σ) (Except ε) α) : Prop :=
  ∀ s a s' t, x s = .ok (a, s') → x (s ++ t) = .ok (a, s' ++ t)

theorem Extends.pure {a : α} : Extends (Pure.pure a : StateT (List σ) (Except ε) α) := by
  intro s b s' t h
  cases h
  rfl

theorem Extends.bind {x : StateT (List σ) (Except ε) α} {f : α → StateT (List σ) (Except ε) β}
    (hx : Extends x) (hf : ∀ a, Extends (f a)) : Extends (x >>= f) := by
  intro s c s' t h
  obtain ⟨a, s₁, ha, hc⟩ := StateTRules.bind_eq_ok.1 h
  rw [StateTRules.bind_ok (hx s a s₁ t ha)]
  exact hf a s₁ c s' t hc

theorem Extends.ite {c : Prop} [Decidable c] {x y : StateT (List σ) (Except ε) α}
    (hx : Extends x) (hy : Extends y) : Extends (if c then x else y) := by
  split
  · exact hx
  · exact hy

end Extent
