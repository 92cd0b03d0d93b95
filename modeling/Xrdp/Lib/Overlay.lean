import Mathlib.Data.List.Basic
import Mathlib.Tactic.Common

/-!
# Lists that are written over

* `overlay` — a list with others in place of some of its elements.
* `overlay_append`, `overlay_before` — writes next to each other are one.
* `overlay_self` — what is there already can be written.
* `drop_overlay` — behind a write nothing has changed.
-/

namespace Overlay

variable {α : Type}

/-- `bytes` in place of what `data` has from `p` on. -/
def overlay (data : List α) (p : Nat) (bytes : List α) : List α :=
  data.take p ++ (bytes ++ data.drop (p + bytes.length))

variable {data a b : List α} {p q : Nat}

theorem length_overlay (h : p + a.length ≤ data.length) : (overlay data p a).length = data.length := by
  simp [overlay]
  omega

@[simp] theorem overlay_nil : overlay data p ([] : List α) = data := by
  simp [overlay]

theorem overlay_zero : overlay data 0 a = a ++ data.drop a.length := by
  simp [overlay]

/-- Behind a write. -/
theorem drop_overlay (h : p ≤ data.length) (hq : p + a.length ≤ q) :
    (overlay data p a).drop q = data.drop q := by
  have htake : (data.take p).length = p := List.length_take_of_le h
  rw [overlay, ← List.append_assoc, List.drop_append, List.length_append, htake, List.drop_drop,
    List.drop_eq_nil_of_le (by rw [List.length_append, htake]; exact hq), List.nil_append]
  congr 1
  omega

/-- Before a write. -/
theorem take_overlay (h : p ≤ data.length) (hq : q ≤ p) : (overlay data p a).take q = data.take q := by
  have htake : (data.take p).length = p := List.length_take_of_le h
  rw [overlay, List.take_append_of_le_length (by rw [htake]; exact hq), List.take_take,
    Nat.min_eq_left hq]

/-- A write, and then one behind it. -/
theorem overlay_append (h : p ≤ data.length) :
    overlay (overlay data p a) (p + a.length) b = overlay data p (a ++ b) := by
  have htake : (data.take p ++ a).length = p + a.length := by
    rw [List.length_append, List.length_take_of_le h]
  rw [overlay, drop_overlay h (Nat.le_add_right _ _)]
  conv => lhs; rw [overlay, ← List.append_assoc (data.take p), List.take_left' htake]
  rw [overlay, List.length_append, ← Nat.add_assoc]
  simp only [List.append_assoc]

/-- A write, and then one before it. -/
theorem overlay_before (h : p + a.length ≤ data.length) :
    overlay (overlay data (p + a.length) b) p a = overlay data p (a ++ b) := by
  have hle : p ≤ data.length := Nat.le_trans (Nat.le_add_right _ _) h
  have hbehind : (overlay data (p + a.length) b).drop (p + a.length) =
      b ++ data.drop (p + a.length + b.length) := by
    rw [overlay, List.drop_left' (List.length_take_of_le h)]
  rw [overlay, take_overlay h (Nat.le_add_right _ _), hbehind, overlay, List.length_append,
    Nat.add_assoc]
  simp only [List.append_assoc]

/-- What is there already is written. -/
theorem overlay_self : overlay data p ((data.drop p).take q) = data := by
  rw [overlay, List.length_take, List.length_drop]
  rcases Nat.lt_or_ge data.length p with h | h
  · rw [List.drop_eq_nil_of_le (Nat.le_of_lt h), List.take_nil, List.nil_append,
      List.take_of_length_le (Nat.le_of_lt h), List.drop_eq_nil_of_le (by omega), List.append_nil]
  · conv => rhs; rw [← List.take_append_drop p data, ← List.take_append_drop q (data.drop p)]
    rw [List.drop_drop]
    rcases Nat.le_total q (data.length - p) with hq | hq
    · rw [Nat.min_eq_left hq]
    · have hend : data.drop (p + (data.length - p)) = [] := List.drop_eq_nil_of_le (by omega)
      have hend' : data.drop (p + q) = [] := List.drop_eq_nil_of_le (by omega)
      rw [Nat.min_eq_right hq, hend, hend']

end Overlay
