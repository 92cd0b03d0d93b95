import Xrdp.Memory

/-!
# Growing lists of 16-bit items (`common/list16.c`)

* `List16` — a list with its capacity `maxCount`; the items in use are the first `count`.
* `addItem_spec`, `indexOf_spec`, `removeItem_spec` — on a well formed list the operations append,
  find and erase, and stay inside the allocation.
-/

namespace Xrdp.Cache

/-- `struct list16`.  An item is a `tui16`. -/
structure List16 where
  items : Buf Nat
  count : Nat
  maxCount : Nat

namespace List16

/-- `list16_init`. -/
def init : List16 := ⟨Buf.alloc 4, 0, 4⟩

/-- `list16_add_item`. -/
def addItem (self : List16) (item : Nat) : Run List16 := do
  let grown ← if self.count ≥ self.maxCount then do
      let p ← (Buf.alloc (self.maxCount + 4)).memcpy 0
        ((List.range self.maxCount).map self.items.cells)
      pure { self with items := p, maxCount := self.maxCount + 4 }
    else pure self
  let items ← grown.items.write self.count (item % 2 ^ 16)
  pure { grown with items, count := self.count + 1 }

/-- `list16_get_item`. -/
def getItem (self : List16) (index : Nat) : Run Nat :=
  if index ≥ self.count then pure 0 else self.items.read index

/-- The loop of `list16_index_of` from `i` on, `todo` items ahead. -/
def indexOfFrom (self : List16) (item : Nat) : Nat → Nat → Run Int
  | 0, _ => pure (-1)
  | todo + 1, i => do
    let x ← self.items.read i
    if x = item then pure i else indexOfFrom self item todo (i + 1)

/-- `list16_index_of`. -/
def indexOf (self : List16) (item : Nat) : Run Int :=
  self.indexOfFrom (item % 2 ^ 16) self.count 0

/-- The loop of `list16_remove_item`: `todo` items move down by one. -/
def shiftDown : Nat → Nat → Buf Nat → Run (Buf Nat)
  | 0, _, items => pure items
  | todo + 1, i, items => do
    let x ← items.read (i + 1)
    let items ← items.write i x
    shiftDown todo (i + 1) items

/-- `list16_remove_item`. -/
def removeItem (self : List16) (index : Int) : Run List16 :=
  if 0 ≤ index ∧ index < self.count then do
    let items ← shiftDown (self.count - 1 - index.toNat) index.toNat self.items
    pure { self with items, count := self.count - 1 }
  else pure self

/-- The items in use. -/
def live (self : List16) : List Nat := (List.range self.count).map self.items.cells

/-- The capacity is what is allocated, and enough. -/
structure Wf (ll : List16) : Prop where
  size : ll.items.size = ll.maxCount
  fits : ll.count ≤ ll.maxCount

theorem init_wf : init.Wf := ⟨rfl, Nat.zero_le _⟩

@[simp] theorem live_length (self : List16) : self.live.length = self.count := by simp [live]

theorem live_getElem (self : List16) {i : Nat} (h : i < self.live.length) :
    self.live[i] = self.items.cells i := by simp [live]

/-- **Adding appends.** -/
theorem addItem_spec {self : List16} (h : self.Wf) {item : Nat} (hi : item < 2 ^ 16) :
    ∃ self', self.addItem item = .ok self' ∧ self'.Wf ∧ self'.live = self.live ++ [item] := by
  obtain ⟨size, fits⟩ := h
  have hlive : ∀ items : Buf Nat, (∀ j < self.count, items.cells j = self.items.cells j) →
      (List.range (self.count + 1)).map
        (fun j => if j = self.count then item else items.cells j) = self.live ++ [item] := by
    intro items hcells
    rw [List.range_succ, List.map_append, List.map_singleton, if_pos rfl, live]
    congr 1
    refine List.map_congr_left fun j hj => ?_
    have hlt := List.mem_range.1 hj
    rw [if_neg (by omega), hcells j hlt]
  rw [addItem, Nat.mod_eq_of_lt hi]
  split
  · rename_i hfull
    rw [Buf.memcpy_ok (by simp [Buf.alloc])]
    simp only [Run.ok_bind, Run.pure_eq]
    rw [Buf.write_ok (by simp [Buf.alloc]; omega), Run.ok_bind]
    refine ⟨_, rfl, ⟨rfl, by simp only; omega⟩, hlive ⟨_, _⟩ fun j hj => ?_⟩
    simp [show j < self.maxCount by omega]
  · simp only [Run.pure_eq, Run.ok_bind]
    rw [Buf.write_ok (by omega), Run.ok_bind]
    exact ⟨_, rfl, ⟨size, by simp only; omega⟩, hlive _ fun _ _ => rfl⟩

theorem getItem_ok {self : List16} (h : self.Wf) {i : Nat} (hi : i < self.live.length) :
    self.getItem i = .ok self.live[i] := by
  rw [live_getElem]
  rw [live_length] at hi
  have := h.size
  have := h.fits
  rw [getItem, if_neg (by omega), Buf.read_ok (by omega)]

/-- The scan for an item that is there. -/
theorem indexOfFrom_spec {self : List16} (h : self.Wf) {item : Nat} (todo : Nat) {i : Nat}
    (hi : i + todo = self.count) (hmem : item ∈ self.live.drop i) :
    ∃ j : Nat, self.indexOfFrom item todo i = .ok (j : Int) ∧ j < self.live.length ∧
      self.live[j]? = some item := by
  induction todo generalizing i with
  | zero =>
    rw [List.drop_eq_nil_of_le (by simp; omega)] at hmem
    cases hmem
  | succ todo ih =>
    have hlt : i < self.live.length := by simp; omega
    have := h.size
    have := h.fits
    rw [indexOfFrom, Buf.read_ok (by omega), Run.ok_bind]
    split
    · rename_i heq
      refine ⟨i, rfl, hlt, ?_⟩
      rw [List.getElem?_eq_getElem hlt, live_getElem, heq]
    · rename_i hne
      apply ih (by omega)
      rw [List.drop_eq_getElem_cons hlt, live_getElem] at hmem
      exact (List.mem_cons.1 hmem).resolve_left fun he => hne he.symm

/-- **Finding an item that is there.** -/
theorem indexOf_spec {self : List16} (h : self.Wf) {item : Nat} (hi : item < 2 ^ 16)
    (hmem : item ∈ self.live) :
    ∃ j : Nat, self.indexOf item = .ok (j : Int) ∧ j < self.live.length ∧ self.live[j]? = some item := by
  rw [indexOf, Nat.mod_eq_of_lt hi]
  exact indexOfFrom_spec h self.count (Nat.zero_add _) hmem

theorem shiftDown_spec (todo : Nat) {i : Nat} {items : Buf Nat} (h : i + todo < items.size) :
    ∃ items', shiftDown todo i items = .ok items' ∧ items'.size = items.size ∧
      (∀ j, j < i ∨ i + todo ≤ j → items'.cells j = items.cells j) ∧
      ∀ j, i ≤ j → j < i + todo → items'.cells j = items.cells (j + 1) := by
  induction todo generalizing i items with
  | zero => exact ⟨items, rfl, rfl, fun _ _ => rfl, fun j h1 h2 => by omega⟩
  | succ todo ih =>
    rw [shiftDown, Buf.read_ok (by omega), Run.ok_bind, Buf.write_ok (by omega), Run.ok_bind]
    obtain ⟨items', hok, hsize, hout, hin⟩ := @ih (i + 1)
      ⟨items.size, fun j => if j = i then items.cells (i + 1) else items.cells j⟩
      (by simp only; omega)
    refine ⟨items', hok, hsize, fun j hj => ?_, fun j h1 h2 => ?_⟩
    · rw [hout j (by omega)]
      exact if_neg (by omega)
    · rcases eq_or_lt_of_le h1 with rfl | hlt
      · rw [hout i (by omega)]
        exact if_pos rfl
      · rw [hin j (by omega) (by omega)]
        exact if_neg (by omega)

/-- **Removing erases.** -/
theorem removeItem_spec {self : List16} (h : self.Wf) {j : Nat} (hj : j < self.live.length) :
    ∃ self', self.removeItem j = .ok self' ∧ self'.Wf ∧ self'.live = self.live.eraseIdx j := by
  obtain ⟨size, fits⟩ := h
  rw [live_length] at hj
  obtain ⟨items', hok, hsize, hout, hin⟩ := @shiftDown_spec (self.count - 1 - j) j self.items
    (by omega)
  rw [removeItem, if_pos (by omega), Int.toNat_natCast, hok, Run.ok_bind]
  refine ⟨_, rfl, ⟨hsize.trans size, by simp only; omega⟩, ?_⟩
  apply List.ext_getElem
  · rw [List.length_eraseIdx_of_lt (by simpa using hj)]
    simp
  · intro i h1 h2
    rw [live_length] at h1
    simp only at h1
    rw [live_getElem, List.getElem_eraseIdx]
    split
    · rw [live_getElem]
      exact hout i (by omega)
    · rw [live_getElem]
      exact hin i (by omega) (by omega)

end List16

end Xrdp.Cache
