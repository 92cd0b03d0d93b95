import Xrdp.Lib.Wire

/-!
# Byte fields that are there

* `getLe_of_le`, `getBytes_of_le` — what is read if there are enough bytes.
* `getLe_length` — what is left behind a field.
-/

namespace Wire

variable {n : Nat} {bs : List UInt8}

theorem getLe_of_le (h : n ≤ bs.length) : getLe n bs = some (leVal (bs.take n), bs.drop n) := by
  induction n generalizing bs with
  | zero => rfl
  | succ n ih =>
    cases bs with
    | nil => exact absurd h (Nat.not_succ_le_zero n)
    | cons b bs =>
      rw [getLe, ih (Nat.le_of_succ_le_succ h)]
      rfl

theorem getBytes_of_le (h : n ≤ bs.length) : getBytes n bs = some (bs.take n, bs.drop n) := if_pos h

theorem getLe_of_lt (h : bs.length < n) : getLe n bs = none := by
  induction n generalizing bs with
  | zero => exact absurd h (Nat.not_lt_zero _)
  | succ n ih =>
    cases bs with
    | nil => rfl
    | cons b bs =>
      rw [getLe, ih (Nat.lt_of_succ_lt_succ h)]
      rfl

/-- What is left behind a field. -/
theorem getLe_length {v : Nat} {rest : List UInt8} (h : getLe n bs = some (v, rest)) :
    n ≤ bs.length ∧ rest = bs.drop n := by
  have hle : n ≤ bs.length := by
    by_contra hlt
    rw [getLe_of_lt (Nat.lt_of_not_le hlt)] at h
    cases h
  rw [getLe_of_le hle] at h
  cases h
  exact ⟨hle, rfl⟩

end Wire
