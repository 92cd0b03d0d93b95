import Mathlib.Data.List.Range
import Mathlib.Logic.Function.Basic

/-!
# Slots with stamps

Contents are kept in slots, and copies of them on the other side.  The slots are looked through from
the first to the last, for one with a content, or for the one that has not been used for longest.

* `Slots.find`, `Slots.oldest` — the first slot that will do; the first with the smallest stamp.
* `Slots.Cache` — slots; `Cache.touch`, `Cache.put` — a slot is used, or gets a content.
* `Slots.Mirrors` — the other side has the contents that could be sent; `Mirrors.held_iff` — whether it
  has what is found.
-/

namespace Slots

/-! ## Looking through -/

/-- The first slot of those from `lo` to `hi` that will do. -/
def find (lo hi : Nat) (p : Nat → Bool) : Option Nat := (List.range' lo (hi - lo)).find? p

theorem find_none {lo hi : Nat} {p : Nat → Bool} :
    find lo hi p = none ↔ ∀ i, lo ≤ i → i < hi → p i = false := by
  rw [find, List.find?_range'_eq_none]
  constructor
  · exact fun h i hlo hhi => by simpa using h i hlo (by omega)
  · exact fun h i hlo hhi => by simpa using h i hlo (by omega)

theorem find_some {lo hi i : Nat} {p : Nat → Bool} (h : find lo hi p = some i) :
    lo ≤ i ∧ i < hi ∧ p i = true := by
  have hmem := List.mem_of_find?_eq_some h
  rw [List.mem_range'_1] at hmem
  exact ⟨hmem.1, by omega, List.find?_some h⟩

/-- A slot with a smaller stamp is better. -/
def older (stamp : Nat → Int) (best : Int × Nat) (i : Nat) : Int × Nat :=
  if stamp i < best.1 then (stamp i, i) else best

/-- The first slot of those from `lo` to `hi` with the smallest stamp; `lo` if none is below `limit`. -/
def oldest (lo hi : Nat) (limit : Int) (stamp : Nat → Int) : Nat :=
  ((List.range' lo (hi - lo)).foldl (older stamp) (limit, lo)).2

theorem foldl_older (stamp : Nat → Int) (is : List Nat) (best : Int × Nat) :
    (is.foldl (older stamp) best).2 = best.2 ∨ (is.foldl (older stamp) best).2 ∈ is := by
  induction is generalizing best with
  | nil => exact .inl rfl
  | cons i is ih =>
    rw [List.foldl_cons]
    rcases ih (older stamp best i) with heq | hmem
    · rw [heq]
      unfold older
      split
      · exact .inr List.mem_cons_self
      · exact .inl rfl
    · exact .inr (List.mem_cons_of_mem i hmem)

theorem oldest_bounds (lo hi : Nat) (limit : Int) (stamp : Nat → Int) :
    oldest lo hi limit stamp = lo ∨ lo ≤ oldest lo hi limit stamp ∧ oldest lo hi limit stamp < hi := by
  rcases foldl_older stamp (List.range' lo (hi - lo)) (limit, lo) with heq | hmem
  · exact .inl heq
  · rw [List.mem_range'_1] at hmem
    exact .inr ⟨hmem.1, by unfold oldest; omega⟩

theorem foldl_older_le (stamp : Nat → Int) (is : List Nat) (best : Int × Nat) :
    (is.foldl (older stamp) best).1 ≤ best.1 ∧ ∀ i ∈ is, (is.foldl (older stamp) best).1 ≤ stamp i := by
  induction is generalizing best with
  | nil => simp
  | cons j is ih =>
    obtain ⟨hle, hall⟩ := ih (older stamp best j)
    have hfirst : (older stamp best j).1 ≤ best.1 ∧ (older stamp best j).1 ≤ stamp j := by
      unfold older
      split <;> simp <;> omega
    rw [List.foldl_cons, List.forall_mem_cons]
    exact ⟨Int.le_trans hle hfirst.1, Int.le_trans hle hfirst.2, hall⟩

/-- What is found has its own stamp, unless none is below the limit. -/
theorem foldl_older_stamp (stamp : Nat → Int) (is : List Nat) (best : Int × Nat) :
    is.foldl (older stamp) best = best ∨
      (is.foldl (older stamp) best).1 = stamp (is.foldl (older stamp) best).2 ∧
        (is.foldl (older stamp) best).2 ∈ is := by
  induction is generalizing best with
  | nil => exact .inl rfl
  | cons j is ih =>
    rw [List.foldl_cons]
    rcases ih (older stamp best j) with heq | ⟨hstamp, hmem⟩
    · rw [heq]
      unfold older
      split
      · exact .inr ⟨rfl, List.mem_cons_self⟩
      · exact .inl rfl
    · exact .inr ⟨hstamp, List.mem_cons_of_mem j hmem⟩

/-- The slot that is found has the smallest stamp, if there is one below the limit. -/
theorem oldest_min {lo hi : Nat} {limit : Int} {stamp : Nat → Int} {i : Nat} (hlo : lo ≤ i) (hhi : i < hi)
    (hlimit : stamp i < limit) :
    lo ≤ oldest lo hi limit stamp ∧ oldest lo hi limit stamp < hi ∧
      stamp (oldest lo hi limit stamp) ≤ stamp i := by
  have hmem : i ∈ List.range' lo (hi - lo) := List.mem_range'_1.2 ⟨hlo, by omega⟩
  have hle := (foldl_older_le stamp (List.range' lo (hi - lo)) (limit, lo)).2 i hmem
  rcases foldl_older_stamp stamp (List.range' lo (hi - lo)) (limit, lo) with heq | ⟨hstamp, hfound⟩
  · rw [heq] at hle
    exact absurd hlimit (Int.not_lt.2 hle)
  · rw [List.mem_range'_1] at hfound
    unfold oldest
    exact ⟨hfound.1, by omega, hstamp ▸ hle⟩

theorem foldl_older_of_le {stamp : Nat → Int} {is : List Nat} {best : Int × Nat}
    (h : ∀ i ∈ is, best.1 ≤ stamp i) : is.foldl (older stamp) best = best := by
  induction is with
  | nil => rfl
  | cons i is ih =>
    rw [List.forall_mem_cons] at h
    rw [List.foldl_cons, older, if_neg (Int.not_lt.2 h.1), ih h.2]

/-- The first of the slots with the smallest stamp is found. -/
theorem oldest_eq {lo hi : Nat} {limit : Int} {stamp : Nat → Int} {i : Nat} (hlo : lo ≤ i) (hhi : i < hi)
    (hlimit : stamp i < limit) (hfirst : ∀ j, lo ≤ j → j < i → stamp i < stamp j)
    (hleast : ∀ j, i < j → j < hi → stamp i ≤ stamp j) : oldest lo hi limit stamp = i := by
  have hsplit : List.range' lo (hi - lo) =
      List.range' lo (i - lo) ++ i :: List.range' (i + 1) (hi - (i + 1)) := by
    have hlength : hi - lo = (i - lo) + (hi - i) := by omega
    have hrest : hi - i = hi - (i + 1) + 1 := by omega
    have hat : lo + (i - lo) = i := by omega
    rw [hlength, ← List.range'_append_1, hat, hrest, List.range'_succ]
  -- what is best so far is not as good as the slot
  have hbefore : stamp i < ((List.range' lo (i - lo)).foldl (older stamp) (limit, lo)).1 := by
    rcases foldl_older_stamp stamp (List.range' lo (i - lo)) (limit, lo) with heq | ⟨hstamp, hmem⟩
    · rw [heq]
      exact hlimit
    · rw [List.mem_range'_1] at hmem
      rw [hstamp]
      exact hfirst _ hmem.1 (by omega)
  rw [oldest, hsplit, List.foldl_append, List.foldl_cons, older, if_pos hbefore, foldl_older_of_le]
  intro j hj
  rw [List.mem_range'_1] at hj
  exact hleast j (by omega) (by omega)

/-! ## Slots -/

variable {α : Type*}

/-- A content, when it has been used last, and whether it has been put there at all. -/
structure Slot (α : Type*) where
  stamp : Int
  content : α
  filled : Bool

/-- Slots, and the last stamp. -/
structure Cache (α : Type*) where
  stamp : Int
  slots : Nat → Slot α

namespace Cache

/-- No slot has been filled. -/
def fresh (blank : α) : Cache α := ⟨0, fun _ => ⟨0, blank, false⟩⟩

/-- The slot has been used. -/
def touch (c : Cache α) (i : Nat) : Cache α :=
  { c with slots := Function.update c.slots i { c.slots i with stamp := c.stamp } }

/-- The slot gets a content. -/
def put (c : Cache α) (i : Nat) (a : α) : Cache α :=
  { c with slots := Function.update c.slots i ⟨c.stamp, a, true⟩ }

@[simp] theorem put_slots_self (c : Cache α) (i : Nat) (a : α) :
    (c.put i a).slots i = ⟨c.stamp, a, true⟩ := Function.update_self ..

@[simp] theorem put_slots_of_ne (c : Cache α) {i j : Nat} (h : j ≠ i) (a : α) :
    (c.put i a).slots j = c.slots j := Function.update_of_ne h ..

@[simp] theorem touch_content (c : Cache α) (i j : Nat) :
    ((c.touch i).slots j).content = (c.slots j).content := by
  unfold touch
  rcases eq_or_ne j i with rfl | hne
  · simp
  · simp [hne]

@[simp] theorem touch_filled (c : Cache α) (i j : Nat) :
    ((c.touch i).slots j).filled = (c.slots j).filled := by
  unfold touch
  rcases eq_or_ne j i with rfl | hne
  · simp
  · simp [hne]

end Cache

/-! ## The other side -/

/-- The other side has what has been put into the slots, but for contents that cannot be sent. -/
structure Mirrors (blank : α) (refused : α → Prop) (c : Cache α) (held : Nat → Option α) : Prop where
  blank : ∀ i, (c.slots i).filled = false → (c.slots i).content = blank ∧ held i = none
  sent : ∀ i, (c.slots i).filled = true → ¬ refused (c.slots i).content →
    held i = some (c.slots i).content
  held : ∀ i a, held i = some a → ¬ refused a

namespace Mirrors

variable {blank : α} {refused : α → Prop} {c c' : Cache α} {held : Nat → Option α}

theorem fresh : Mirrors blank refused (.fresh blank) fun _ => none :=
  ⟨fun _ _ => ⟨rfl, rfl⟩, fun _ h => (nomatch h), fun _ _ h => (nomatch h)⟩

/-- Stamps do not matter. -/
theorem congr (h : Mirrors blank refused c held)
    (hcontent : ∀ i, (c'.slots i).content = (c.slots i).content)
    (hfilled : ∀ i, (c'.slots i).filled = (c.slots i).filled) : Mirrors blank refused c' held := by
  refine ⟨fun i hi => ?_, fun i hi hok => ?_, h.held⟩
  · rw [hcontent]
    exact h.blank i (hfilled i ▸ hi)
  · rw [hcontent] at hok ⊢
    exact h.sent i (hfilled i ▸ hi) hok

theorem touch (h : Mirrors blank refused c held) (i : Nat) : Mirrors blank refused (c.touch i) held :=
  h.congr (by simp) (by simp)

/-- **A content is put into a slot**, and the other side comes to have `v` there. -/
theorem put (h : Mirrors blank refused c held) (i : Nat) {a : α} {v : Option α}
    (hsent : ¬ refused a → v = some a) (hv : ∀ b, v = some b → ¬ refused b) :
    Mirrors blank refused (c.put i a) (Function.update held i v) := by
  refine ⟨fun j hj => ?_, fun j hj hok => ?_, fun j b hb => ?_⟩
  · rcases eq_or_ne j i with rfl | hne
    · rw [Cache.put_slots_self] at hj
      cases hj
    · rw [Cache.put_slots_of_ne c hne] at hj ⊢
      rw [Function.update_of_ne hne]
      exact h.blank j hj
  · rcases eq_or_ne j i with rfl | hne
    · rw [Cache.put_slots_self] at hok ⊢
      rw [Function.update_self]
      exact hsent hok
    · rw [Cache.put_slots_of_ne c hne] at hj hok ⊢
      rw [Function.update_of_ne hne]
      exact h.sent j hj hok
  · rcases eq_or_ne j i with rfl | hne
    · rw [Function.update_self] at hb
      exact hv b hb
    · rw [Function.update_of_ne hne] at hb
      exact h.held j b hb

/-- A content that is sent. -/
theorem put_sent (h : Mirrors blank refused c held) (i : Nat) {a : α} (ha : ¬ refused a) :
    Mirrors blank refused (c.put i a) (Function.update held i (some a)) :=
  h.put i (fun _ => rfl) fun _ hb => Option.some_inj.1 hb ▸ ha

/-- A content that cannot be sent. -/
theorem put_refused (h : Mirrors blank refused c held) (i : Nat) {a : α} (ha : refused a) :
    Mirrors blank refused (c.put i a) held := by
  have hput := h.put i (fun hok => absurd ha hok) (h.held i)
  rwa [Function.update_eq_self] at hput

/-- A content that is spoilt on the way: the other side has nothing there. -/
theorem put_lost (h : Mirrors blank refused c held) (i : Nat) {a : α} (ha : refused a) :
    Mirrors blank refused (c.put i a) (Function.update held i none) :=
  h.put i (fun hok => absurd ha hok) fun _ hb => nomatch hb

/-- The other side has what is found in a slot, unless it cannot be sent, or is only in a slot that has
not been filled. -/
theorem held_iff (h : Mirrors blank refused c held) {i : Nat} {a : α} (hi : (c.slots i).content = a) :
    held i = some a ↔ ¬ refused a ∧ (a = blank → (c.slots i).filled = true) := by
  constructor
  · intro hheld
    refine ⟨h.held i a hheld, fun _ => ?_⟩
    by_contra hnot
    have hnone := (h.blank i (by simpa using hnot)).2
    rw [hheld] at hnone
    cases hnone
  · rintro ⟨hok, hfilled⟩
    have hslot : (c.slots i).filled = true := by
      by_contra hnot
      exact hnot (hfilled (hi.symm.trans (h.blank i (by simpa using hnot)).1))
    rw [← hi] at hok ⊢
    exact h.sent i hslot hok

end Mirrors

end Slots
