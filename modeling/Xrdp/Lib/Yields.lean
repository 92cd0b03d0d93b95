import Mathlib.Tactic.Common

/-!
# Functions that may fail, and what they yield

* `Except.Yields` — a result with a property.
* `Except.yields_bind`, `Except.yields_guard_bind` — what functions yield that are put together.
-/

namespace Except

variable {ε α β : Type}

/-- There is a result, and it has the property. -/
def Yields (r : Except ε α) (P : α → Prop) : Prop := ∃ a, r = .ok a ∧ P a

@[simp] theorem yields_ok {a : α} {P : α → Prop} : Yields (.ok a : Except ε α) P ↔ P a := by
  constructor
  · rintro ⟨b, hb, hP⟩
    cases hb
    exact hP
  · exact fun hP => ⟨a, rfl, hP⟩

@[simp] theorem yields_pure {a : α} {P : α → Prop} : Yields (pure a : Except ε α) P ↔ P a := yields_ok

@[simp] theorem yields_error {e : ε} {P : α → Prop} : Yields (.error e : Except ε α) P ↔ False :=
  iff_false_intro fun ⟨_, h, _⟩ => nomatch h

theorem yields_bind {r : Except ε α} {f : α → Except ε β} {P : β → Prop} :
    Yields (r >>= f) P ↔ Yields r fun a => Yields (f a) P := by
  cases r with
  | error e => exact iff_of_false (fun ⟨_, h, _⟩ => nomatch h) (fun ⟨_, h, _⟩ => nomatch h)
  | ok a =>
    rw [yields_ok]
    exact Iff.rfl

/-- A check that ends the function. -/
theorem yields_guard {p : Prop} [Decidable p] {a : α} {e : ε} {P : α → Prop} :
    Yields (if p then (.ok a : Except ε α) else .error e) P ↔ p ∧ P a := by
  by_cases hp : p <;> simp [hp]

theorem yields_guard_bind {p : Prop} [Decidable p] {a : α} {e : ε} {f : α → Except ε β}
    {P : β → Prop} :
    Yields ((if p then (.ok a : Except ε α) else .error e) >>= f) P ↔ p ∧ Yields (f a) P := by
  rw [yields_bind, yields_guard]

theorem yields_congr {r : Except ε α} {P Q : α → Prop} (h : ∀ a, r = .ok a → (P a ↔ Q a)) :
    Yields r P ↔ Yields r Q :=
  exists_congr fun a => and_congr_right fun ha => h a ha

end Except
