import Mathlib.Tactic.Common

/-!
# What holds of a function that may fail, when it does not

* `Wlp` — the weakest liberal precondition of a function on a state.
* `bind_of_some`, `bind_of_none` — how a run goes on.
* `wlp_pure`, `wlp_bind`, `wlp_ite` — what it is of functions that are put together.
* `Keeps` — a function that does not lose an invariant.
-/

namespace Liberal

variable {σ α β : Type}

/-- If the function has a result from this state, the result has the property. -/
def Wlp (m : StateT σ Option α) (Q : α → σ → Prop) (s : σ) : Prop :=
  ∀ a s', m s = some (a, s') → Q a s'

theorem wlp_of_eq {m : StateT σ Option α} {Q : α → σ → Prop} {s s' : σ} {a : α}
    (h : m s = some (a, s')) : Wlp m Q s ↔ Q a s' := by
  constructor
  · exact fun hm => hm a s' h
  · intro hQ b t hb
    rw [h] at hb
    cases hb
    exact hQ

theorem wlp_of_none {m : StateT σ Option α} {Q : α → σ → Prop} {s : σ} (h : m s = none) :
    Wlp m Q s := by
  intro a s' hm
  rw [h] at hm
  cases hm

/-! ## Runs -/

theorem bind_of_some {m : StateT σ Option α} {f : α → StateT σ Option β} {s s' : σ} {a : α}
    (h : m s = some (a, s')) : (m >>= f) s = f a s' := by
  change (m s).bind (fun r => f r.1 r.2) = _
  rw [h, Option.bind_some]

theorem bind_of_none {m : StateT σ Option α} {f : α → StateT σ Option β} {s : σ} (h : m s = none) :
    (m >>= f) s = none := by
  change (m s).bind (fun r => f r.1 r.2) = _
  rw [h, Option.bind_none]

/-! ## The rules -/

@[simp] theorem wlp_pure {a : α} {Q : α → σ → Prop} {s : σ} :
    Wlp (pure a : StateT σ Option α) Q s ↔ Q a s := wlp_of_eq rfl

@[simp] theorem wlp_get {Q : σ → σ → Prop} {s : σ} : Wlp (get : StateT σ Option σ) Q s ↔ Q s s :=
  wlp_of_eq rfl

@[simp] theorem wlp_modify {f : σ → σ} {Q : Unit → σ → Prop} {s : σ} :
    Wlp (modify f : StateT σ Option Unit) Q s ↔ Q () (f s) := wlp_of_eq rfl

@[simp] theorem wlp_bind {m : StateT σ Option α} {f : α → StateT σ Option β} {Q : β → σ → Prop}
    {s : σ} : Wlp (m >>= f) Q s ↔ Wlp m (fun a => Wlp (f a) Q) s := by
  have hbind : (m >>= f) s = (m s).bind fun r => f r.1 r.2 := rfl
  constructor
  · intro h a s' hm b s'' hf
    refine h b s'' ?_
    rw [hbind, hm]
    exact hf
  · intro h b s'' hb
    rw [hbind, Option.bind_eq_some_iff] at hb
    obtain ⟨⟨a, s'⟩, hm, hf⟩ := hb
    exact h a s' hm b s'' hf

theorem wlp_ite {c : Prop} [Decidable c] {x y : StateT σ Option α} {Q : α → σ → Prop} {s : σ} :
    Wlp (if c then x else y) Q s ↔ if c then Wlp x Q s else Wlp y Q s := by
  split <;> exact Iff.rfl

theorem Wlp.mono {m : StateT σ Option α} {Q R : α → σ → Prop} {s : σ} (h : Wlp m Q s)
    (hQR : ∀ a s', Q a s' → R a s') : Wlp m R s := fun a s' hm => hQR a s' (h a s' hm)

/-- Nothing is known of what is bound. -/
theorem Wlp.bind_any {m : StateT σ Option α} {f : α → StateT σ Option β} {Q : β → σ → Prop} {s : σ}
    (hf : ∀ a s', Wlp (f a) Q s') : Wlp (m >>= f) Q s := wlp_bind.2 fun a s' _ => hf a s'

theorem wlp_congr {m : StateT σ Option α} {Q R : α → σ → Prop} {s : σ}
    (h : ∀ a s', m s = some (a, s') → (Q a s' ↔ R a s')) : Wlp m Q s ↔ Wlp m R s :=
  forall₃_congr h

/-! ## Invariants -/

variable {I : σ → Prop}

/-- With the invariant before, it holds after. -/
def Keeps (I : σ → Prop) (m : StateT σ Option α) : Prop := ∀ s, I s → Wlp m (fun _ => I) s

theorem Keeps.pure {a : α} : Keeps I (pure a : StateT σ Option α) := fun _ h => wlp_pure.2 h

theorem Keeps.bind {m : StateT σ Option α} {f : α → StateT σ Option β} (h : Keeps I m)
    (hf : ∀ a, Keeps I (f a)) : Keeps I (m >>= f) :=
  fun s hs => wlp_bind.2 ((h s hs).mono fun a s' hs' => hf a s' hs')

theorem Keeps.ite {c : Prop} [Decidable c] {x y : StateT σ Option α} (hx : c → Keeps I x)
    (hy : ¬c → Keeps I y) : Keeps I (if c then x else y) := by
  split
  · exact hx ‹_›
  · exact hy ‹_›

end Liberal
