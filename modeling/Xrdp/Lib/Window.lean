import Mathlib

/-!
# Sliding-window back references

A window is a memory of `size` symbols and a write position.  `Token.run` is the meaning of
literals and back references; a back reference copies symbol by symbol, so a source that runs
into the destination repeats what it has just written, and reads around the end of the window.

* `Agree` — the invariant: the window holds the symbols of a reference sequence `H` below `pos`.
* `Agree.lit`, `Agree.copy` — one token extends it when the token describes `H` correctly.
* `run_append` — token lists run one after the other.
-/

namespace Window

variable {α : Type}

/-- A literal symbol, or `len` symbols copied from `dist` behind the write position. -/
inductive Token (α : Type) where
  | lit (b : α)
  | copy (dist len : Nat)
  deriving DecidableEq, Repr

/-- Symbol-by-symbol copy of `n` symbols to `dst`, read from `src` on around a ring of `size`. -/
def copyRing (size : Nat) (m : Nat → α) (src dst : Nat) : Nat → Nat → α
  | 0 => m
  | n + 1 =>
    let m' := copyRing size m src dst n
    fun j => if j = dst + n then m' ((src + n) % size) else m' j

/-- One token on a window of `size` symbols; `none` when it does not fit. -/
def Token.step (size : Nat) (w : (Nat → α) × Nat) : Token α → Option ((Nat → α) × Nat)
  | .lit b =>
    if w.2 < size then some (fun j => if j = w.2 then b else w.1 j, w.2 + 1) else none
  | .copy dist len =>
    if dist ≤ size ∧ w.2 + len ≤ size then
      some (copyRing size w.1 (w.2 + size - dist) w.2 len, w.2 + len)
    else none

/-- A list of tokens, in order. -/
def run (size : Nat) : (Nat → α) × Nat → List (Token α) → Option ((Nat → α) × Nat)
  | w, [] => some w
  | w, t :: ts => (t.step size w).bind fun w' => run size w' ts

theorem run_append (size : Nat) (w : (Nat → α) × Nat) (ts us : List (Token α)) :
    run size w (ts ++ us) = (run size w ts).bind fun w' => run size w' us := by
  induction ts generalizing w with
  | nil => rfl
  | cons t ts ih =>
    simp only [List.cons_append, run]
    cases t.step size w with
    | none => rfl
    | some w' => simp [ih]

/-- The window holds `H` below its write position `pos`. -/
def Agree (H : Nat → α) (w : (Nat → α) × Nat) (pos : Nat) : Prop :=
  w.2 = pos ∧ ∀ j < pos, w.1 j = H j

theorem Agree.lit {H : Nat → α} {w : (Nat → α) × Nat} {pos size : Nat} (h : Agree H w pos)
    (hs : pos < size) :
    ∃ w', (Token.lit (H pos)).step size w = some w' ∧ Agree H w' (pos + 1) := by
  obtain ⟨hp, hm⟩ := h
  refine ⟨_, by rw [Token.step, if_pos (by omega)], by simp [hp], fun j hj => ?_⟩
  by_cases hjp : j = w.2
  · simp [hjp, hp]
  · simpa [hjp] using hm j (by omega)

theorem copyRing_agree {H m : Nat → α} {pos dist size : Nat} (hm : ∀ j < pos, m j = H j)
    (hd : 0 < dist) (hdp : dist ≤ pos) :
    ∀ n, pos + n ≤ size → (∀ i < n, H (pos - dist + i) = H (pos + i)) →
      ∀ j < pos + n, copyRing size m (pos + size - dist) pos n j = H j := by
  intro n
  induction n with
  | zero => intro _ _ j hj; exact hm j (by omega)
  | succ n ih =>
    intro hs hH j hj
    have hI := ih (by omega) (fun i hi => hH i (by omega))
    simp only [copyRing]
    split
    · rename_i hje
      -- the source symbol is already in place: it lies below `pos + n`
      have hmod : (pos + size - dist + n) % size = pos - dist + n := by
        rw [show pos + size - dist + n = pos - dist + n + size by omega, Nat.add_mod_right,
          Nat.mod_eq_of_lt (by omega)]
      rw [hmod, hI _ (by omega), hH n (by omega), hje]
    · exact hI j (by omega)

/-- **A back reference to equal symbols extends the agreement.** -/
theorem Agree.copy {H : Nat → α} {w : (Nat → α) × Nat} {pos size dist len : Nat}
    (h : Agree H w pos) (hd : 0 < dist) (hdp : dist ≤ pos) (hs : pos + len ≤ size)
    (hH : ∀ i < len, H (pos - dist + i) = H (pos + i)) :
    ∃ w', (Token.copy dist len).step size w = some w' ∧ Agree H w' (pos + len) := by
  obtain ⟨hp, hm⟩ := h
  refine ⟨_, by rw [Token.step, if_pos (by omega)], by simp [hp], ?_⟩
  rw [hp]
  exact copyRing_agree hm hd hdp len hs hH

/-- Agreement depends on the reference sequence below the position only. -/
theorem Agree.congr {H H' : Nat → α} {w : (Nat → α) × Nat} {pos : Nat} (h : Agree H w pos)
    (he : ∀ j < pos, H j = H' j) : Agree H' w pos :=
  ⟨h.1, fun j hj => (h.2 j hj).trans (he j hj)⟩

end Window
