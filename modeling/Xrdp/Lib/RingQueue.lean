import Mathlib.Logic.Function.Basic
import Mathlib.Tactic.Common

/-!
# Queues in a circular array

A queue is kept in an array of which the place behind the last is the first; one place is never used.

* `RingQueue.slot` — a place, counted from the head of the queue.
* `RingQueue.Holds` — the array holds a queue.
* `Holds.push`, `Holds.pop` — an element is put in behind the last, or the first is taken out.
* `Holds.copied` — the queue is copied to a larger array.
-/

namespace RingQueue

open Function

variable {α : Type} {cells : Nat → Option α} {entries rd : Nat} {L : List α} {x : α}

/-- The place `k` behind the place `rd`, of so many. -/
def slot (rd k entries : Nat) : Nat := if rd + k < entries then rd + k else rd + k - entries

theorem slot_lt {k : Nat} (hrd : rd < entries) (hk : k ≤ entries) : slot rd k entries < entries := by
  unfold slot
  split <;> omega

theorem slot_zero (hrd : rd < entries) : slot rd 0 entries = rd := by simp [slot, hrd]

theorem slot_ne {j k : Nat} (hj : j < k) (hk : k < entries) : slot rd j entries ≠ slot rd k entries := by
  unfold slot
  split <;> split <;> omega

/-- The place behind a place. -/
theorem slot_next {k : Nat} (hrd : rd < entries) (hk : k < entries) :
    (if slot rd k entries + 1 ≥ entries then 0 else slot rd k entries + 1) = slot rd (k + 1) entries := by
  unfold slot
  split_ifs <;> omega

/-- The head of the queue is one further. -/
theorem slot_tail {k : Nat} (hrd : rd < entries) (hk : k + 1 < entries) :
    slot (if rd + 1 ≥ entries then 0 else rd + 1) k entries = slot rd (k + 1) entries := by
  unfold slot
  split_ifs <;> omega

/-- The array holds the queue `L` from the place `rd` on. -/
structure Holds (cells : Nat → Option α) (entries rd : Nat) (L : List α) : Prop where
  rd_lt : rd < entries
  room : L.length < entries
  cell : ∀ k x, L[k]? = some x → cells (slot rd k entries) = some x

theorem holds_nil (hrd : rd < entries) : Holds cells entries rd ([] : List α) where
  rd_lt := hrd
  room := by simpa using Nat.lt_of_le_of_lt (Nat.zero_le rd) hrd
  cell _ _ h := nomatch h

namespace Holds

/-- An element is put in behind the last. -/
theorem push (h : Holds cells entries rd L) (hroom : L.length + 1 < entries) (x : α) :
    Holds (update cells (slot rd L.length entries) (some x)) entries rd (L ++ [x]) where
  rd_lt := h.rd_lt
  room := by simpa using hroom
  cell k y hk := by
    rcases Nat.lt_trichotomy k L.length with hlt | rfl | hgt
    · rw [List.getElem?_append_left hlt] at hk
      rw [update_of_ne (slot_ne hlt h.room)]
      exact h.cell k y hk
    · rw [update_self]
      simpa using hk
    · rw [List.getElem?_eq_none (by simpa using Nat.succ_le_of_lt hgt)] at hk
      cases hk

/-- The first element. -/
theorem head (h : Holds cells entries rd (x :: L)) : cells rd = some x := by
  have hcell := h.cell 0 x rfl
  rwa [slot_zero h.rd_lt] at hcell

/-- The first element is taken out. -/
theorem pop (h : Holds cells entries rd (x :: L)) :
    Holds cells entries (if rd + 1 ≥ entries then 0 else rd + 1) L where
  rd_lt := by
    have hrd := h.rd_lt
    split_ifs <;> omega
  room := Nat.lt_of_succ_lt h.room
  cell k y hk := by
    have hlt : k + 1 < entries := by
      have hroom := h.room
      rw [List.length_cons] at hroom
      have hk' := (List.getElem?_eq_some_iff.1 hk).1
      omega
    rw [slot_tail h.rd_lt hlt]
    exact h.cell (k + 1) y hk

/-- The elements are copied to the front of a larger array. -/
theorem copied (h : Holds cells entries rd L) (larger : Nat → Option α) (more : Nat)
    (hcopy : ∀ k < L.length, larger k = cells (slot rd k entries)) : Holds larger (entries + more) 0 L where
  rd_lt := by
    have hrd := h.rd_lt
    omega
  room := Nat.lt_add_right more h.room
  cell k x hk := by
    have hlt := (List.getElem?_eq_some_iff.1 hk).1
    have hslot : slot 0 k (entries + more) = k := by
      have hroom := h.room
      simp only [slot, Nat.zero_add]
      rw [if_pos (by omega)]
    rw [hslot, hcopy k hlt]
    exact h.cell k x hk

end Holds

end RingQueue
