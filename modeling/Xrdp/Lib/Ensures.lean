import Mathlib.Tactic.Common

/-!
# Postconditions of stateful functions that may fail

* `Ensures` — if a function has a result, the result has a property.
* `Ensures.bind`, `Ensures.pure`, `Ensures.ite` — the rules for functions that are put together.
* `bind_ok`, `bind_error`, `bind_eq_ok` — how a run goes on.
-/

namespace StateTRules

variable {σ ε α β : Type}

/-- A result of the function has this property, whatever the state before. -/
def Ensures (x : StateT σ (Except ε) α) (P : α → Prop) : Prop :=
  ∀ s a s', x s = .ok (a, s') → P a

theorem bind_ok {x : StateT σ (Except ε) α} {f : α → StateT σ (Except ε) β} {s s' : σ} {a : α}
    (h : x s = .ok (a, s')) : (x >>= f) s = f a s' := by
  change (x s >>= fun p => f p.1 p.2) = _
  rw [h]
  rfl

theorem bind_error {x : StateT σ (Except ε) α} {f : α → StateT σ (Except ε) β} {s : σ} {e : ε}
    (h : x s = .error e) : (x >>= f) s = .error e := by
  change (x s >>= fun p => f p.1 p.2) = _
  rw [h]
  rfl

/-- What is bound has a result if both have. -/
theorem bind_eq_ok {x : StateT σ (Except ε) α} {f : α → StateT σ (Except ε) β} {s s' : σ} {b : β} :
    (x >>= f) s = .ok (b, s') ↔ ∃ a s₁, x s = .ok (a, s₁) ∧ f a s₁ = .ok (b, s') := by
  cases h : x s with
  | error e =>
    rw [bind_error h]
    constructor
    · intro hb
      cases hb
    · rintro ⟨a, s₁, hx, -⟩
      cases hx
  | ok r =>
    rw [bind_ok h]
    constructor
    · exact fun hb => ⟨r.1, r.2, rfl, hb⟩
    · rintro ⟨a, s₁, hx, hb⟩
      cases hx
      exact hb

theorem Ensures.pure {P : α → Prop} {a : α} (h : P a) :
    Ensures (pure a : StateT σ (Except ε) α) P := by
  intro s b s' hb
  cases hb
  exact h

theorem Ensures.bind {x : StateT σ (Except ε) α} {f : α → StateT σ (Except ε) β}
    {P : α → Prop} {Q : β → Prop} (hx : Ensures x P) (hf : ∀ a, P a → Ensures (f a) Q) :
    Ensures (x >>= f) Q := by
  intro s b s' hb
  cases h : x s with
  | error e =>
    rw [bind_error h] at hb
    cases hb
  | ok r =>
    obtain ⟨a, s₁⟩ := r
    rw [bind_ok h] at hb
    exact hf a (hx s a s₁ h) s₁ b s' hb

/-- Nothing is known of what is bound. -/
theorem Ensures.bind_any {x : StateT σ (Except ε) α} {f : α → StateT σ (Except ε) β}
    {Q : β → Prop} (hf : ∀ a, Ensures (f a) Q) : Ensures (x >>= f) Q :=
  Ensures.bind (P := fun _ => True) (fun _ _ _ _ => trivial) fun a _ => hf a

theorem Ensures.ite {c : Prop} [Decidable c] {x y : StateT σ (Except ε) α} {P : α → Prop}
    (hx : c → Ensures x P) (hy : ¬ c → Ensures y P) : Ensures (if c then x else y) P := by
  split
  · exact hx ‹_›
  · exact hy ‹_›

end StateTRules
