import Mathlib.Tactic.Common

/-!
# Functions that have a result

* `Gives` — a function has a result, and the result has a property.
* `Gives.bind`, `Gives.pure`, `Gives.ite`, `Gives.unless` — the rules for functions that are put together.
-/

namespace ExceptRules

variable {ε α β γ : Type} {P Q : α → Prop} {R : β → Prop} {r : Except ε α}

/-- There is a result, with this property. -/
def Gives (r : Except ε α) (P : α → Prop) : Prop := ∃ a, r = .ok a ∧ P a

theorem Gives.pure {a : α} (h : P a) : Gives (pure a : Except ε α) P := ⟨a, rfl, h⟩

theorem Gives.bind {f : α → Except ε β} (h : Gives r P) (hf : ∀ a, P a → Gives (f a) R) :
    Gives (r >>= f) R := by
  obtain ⟨a, rfl, ha⟩ := h
  exact hf a ha

/-- What is bound has this result. -/
theorem Gives.bind_of_eq {f : α → Except ε β} {a : α} (h : r = .ok a) (hf : Gives (f a) R) :
    Gives (r >>= f) R := by
  subst h
  exact hf

/-- What is done with the result of a run. -/
theorem Gives.bind_pure {f : α → β} {g : β → γ} {S : γ → Prop}
    (h : Gives (do
      let a ← r
      return f a) R) (hg : ∀ b, R b → S (g b)) : Gives (do
      let a ← r
      return g (f a)) S := by
  obtain ⟨b, hb, hR⟩ := h
  cases r with
  | error e => cases hb
  | ok a =>
    cases hb
    exact ⟨g (f a), rfl, hg (f a) hR⟩

theorem Gives.mono (h : Gives r P) (hPQ : ∀ a, P a → Q a) : Gives r Q := by
  obtain ⟨a, hr, ha⟩ := h
  exact ⟨a, hr, hPQ a ha⟩

theorem Gives.ite {c : Prop} [Decidable c] {x y : Except ε α} (hx : c → Gives x P)
    (hy : ¬c → Gives y P) : Gives (if c then x else y) P := by
  split
  · exact hx ‹_›
  · exact hy ‹_›

/-- A test that ends the run. -/
theorem Gives.unless {c : Prop} [Decidable c] {a : α} {y : Except ε α} (ha : P a)
    (hy : ¬c → Gives y P) : Gives (if c then Pure.pure a else y) P :=
  .ite (fun _ => .pure ha) hy

end ExceptRules
