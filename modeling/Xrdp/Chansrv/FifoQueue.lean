import Xrdp.Chansrv.Microphone
import Xrdp.Memory

/-!
# The FIFO

`sesman/chansrv/fifo.c` keeps pointers in a ring of which one place stays free, and copies them to a larger ring when
it is full.  The ring is memory of so many bytes, which `g_malloc` takes as an `int`.

* `FIFO`, `fifoInit`, `fifoInsert`, `fifoRemove`, `fifoPeek`, `fifoIsEmpty` — the functions, with checked memory.
* `queueStep` — an unbounded queue.
* `fifoInsert_spec`, `fifoRemove_spec` — inside its memory the FIFO does what `Microphone.Fifo` does.
* `fifo_queue_iff` — the initial sizes for which all runs are those of the queue.
-/

namespace Xrdp.Chansrv.FifoQueue

open Microphone Function

/-! ## The functions -/

/-- `FIFO`; no `user_data` is `NULL`. -/
structure FIFO where
  userData : Option (Buf UInt64)
  rdPtr : Int
  wrPtr : Int
  entries : Int

/-- `(long *) g_malloc(sizeof(long) * n, 1)`.  The size is converted to an `int`; there is no memory of a
negative size, nor if `granted` is not so. -/
def mallocLongs (n : Int) (granted : Bool) : Option (Buf UInt64) :=
  let size := (8 * n).bmod (2 ^ 32)
  if 0 ≤ size ∧ granted then some (.alloc (size / 8).toNat) else none

/-- `user_data[i]`. -/
def load (userData : Option (Buf UInt64)) (i : Int) : Run UInt64 :=
  match userData, i with
  | some b, .ofNat i => b.read i
  | _, _ => .error .outOfBounds

/-- `user_data[i] = data`. -/
def store (userData : Option (Buf UInt64)) (i : Int) (data : UInt64) : Run (Option (Buf UInt64)) :=
  match userData, i with
  | some b, .ofNat i => (b.write i data).map some
  | _, _ => .error .outOfBounds

/-- `fifo_init`. -/
def fifoInit (numEntries : Int32) : Int × FIFO :=
  let numEntries := if numEntries.toInt < 1 then 10 else numEntries.toInt
  match mallocLongs numEntries true with
  | some b => (0, ⟨some b, 0, 0, numEntries⟩)
  | none => (-1, ⟨none, 0, 0, 0⟩)

/-- `fifo_is_empty`. -/
def fifoIsEmpty (fp : FIFO) : Int := if fp.rdPtr = fp.wrPtr then 1 else 0

/-- The place behind a place. -/
def next (fp : FIFO) (ptr : Int) : Int := if ptr + 1 ≥ fp.entries then 0 else ptr + 1

/-- The loop of `fifo_insert` that copies so many entries, the first to the place `i`. -/
def copyLoop (fp : FIFO) : Nat → Int → Int → Option (Buf UInt64) → Run (Option (Buf UInt64))
  | 0, _, _, lp => .ok lp
  | n + 1, i, rdPtr, lp => do
    let data ← load fp.userData rdPtr
    let lp ← store lp i data
    copyLoop fp n (i + 1) (next fp rdPtr) lp

/-- `fifo_insert`; `granted` is whether there is memory to grow. -/
def fifoInsert (fp : FIFO) (data : UInt64) (granted : Bool) : Run (Int × FIFO) :=
  if next fp fp.wrPtr = fp.rdPtr then
    match mallocLongs (fp.entries + 10) granted with
    | none => .ok (-1, fp)
    | some lp => do
      let lp ← copyLoop fp (fp.entries - 1).toNat 0 fp.rdPtr (some lp)
      let lp ← store lp (fp.entries - 1) data
      return (0, ⟨lp, 0, fp.entries, fp.entries + 10⟩)
  else do
    let userData ← store fp.userData fp.wrPtr data
    return (0, { fp with userData := userData, wrPtr := next fp fp.wrPtr })

/-- `fifo_remove`. -/
def fifoRemove (fp : FIFO) : Run (UInt64 × FIFO) :=
  if fp.rdPtr = fp.wrPtr then .ok (0, fp)
  else do
    let data ← load fp.userData fp.rdPtr
    return (data, { fp with rdPtr := next fp fp.rdPtr })

/-- `fifo_peek`. -/
def fifoPeek (fp : FIFO) : Run UInt64 :=
  if fp.rdPtr = fp.wrPtr then .ok 0 else load fp.userData fp.rdPtr

/-! ## Calls -/

/-- A pointer that is not `NULL`. -/
abbrev Item := { x : UInt64 // x ≠ 0 }

inductive Call where
  | insert (data : Item) (granted : Bool)
  | remove
  | peek
  | isEmpty

/-- What a call returns. -/
inductive Result where
  | status (v : Int)
  | data (v : UInt64)
  deriving DecidableEq

def fifoStep (fp : FIFO) : Call → Run (Result × FIFO)
  | .insert data granted => (fifoInsert fp data granted).map fun (v, fp) => (.status v, fp)
  | .remove => (fifoRemove fp).map fun (data, fp) => (.data data, fp)
  | .peek => (fifoPeek fp).map fun data => (.data data, fp)
  | .isEmpty => .ok (.status (fifoIsEmpty fp), fp)

/-- The FIFO has to grow for a call, and there is no memory. -/
def denied (fp : FIFO) : Call → Bool
  | .insert _ granted => next fp fp.wrPtr = fp.rdPtr ∧ mallocLongs (fp.entries + 10) granted = none
  | _ => false

/-- The first item of a queue, or `NULL`. -/
def front (L : List Item) : UInt64 := (L.head?.map Subtype.val).getD 0

/-- An unbounded queue, which takes no item while that is denied. -/
def queueStep (L : List Item) (denied : Bool) : Call → Result × List Item
  | .insert data _ => if denied then (.status (-1), L) else (.status 0, L ++ [data])
  | .remove => (.data (front L), L.tail)
  | .peek => (.data (front L), L)
  | .isEmpty => (.status (if L = [] then 1 else 0), L)

/-- All calls return what the queue says. -/
def AsQueue : FIFO → List Item → List Call → Prop
  | _, _, [] => True
  | fp, L, c :: cs => ∃ fp', fifoStep fp c = .ok ((queueStep L (denied fp c) c).1, fp') ∧
      AsQueue fp' (queueStep L (denied fp c) c).2 cs

/-- **What is promised**: there is a FIFO, and its calls return what a queue says that is empty at first. -/
def FifoRight (numEntries : Int32) (cs : List Call) : Prop :=
  (fifoInit numEntries).1 = 0 ∧ AsQueue (fifoInit numEntries).2 [] cs

/-! ## Inside its memory -/

/-- A FIFO with this memory. -/
def inMemory (q : Fifo UInt64) (b : Buf UInt64) : FIFO := ⟨some b, q.rdPtr, q.wrPtr, q.entries⟩

/-- The memory has the entries. -/
structure Keeps (q : Fifo UInt64) (b : Buf UInt64) : Prop where
  size : b.size = q.entries
  cell : ∀ i x, q.userData i = some x → b.cells i = x

variable {q : Fifo UInt64} {b : Buf UInt64} {L : List UInt64}

theorem next_inMemory (q : Fifo UInt64) (b : Buf UInt64) (ptr : Nat) :
    next (inMemory q b) ptr = ((if ptr + 1 ≥ q.entries then 0 else ptr + 1 : Nat) : Int) := by
  have hentries : (inMemory q b).entries = q.entries := rfl
  unfold next
  by_cases hwrap : ptr + 1 ≥ q.entries
  · rw [if_pos hwrap, if_pos (by omega), Nat.cast_zero]
  · rw [if_neg hwrap, if_neg (by omega), Nat.cast_add, Nat.cast_one]

theorem store_some {i : Nat} (h : i < b.size) (data : UInt64) :
    store (some b) (i : Int) data = .ok (some { b with cells := fun j => if j = i then data else b.cells j }) := by
  show (b.write i data).map some = _
  rw [Buf.write_ok h]
  rfl

theorem load_some {i : Nat} (h : i < b.size) : load (some b) (i : Int) = .ok (b.cells i) := Buf.read_ok h

/-- Memory of a size that is an `int`. -/
theorem mallocLongs_some {n : Nat} (hn : n < 2 ^ 29) {granted : Bool} (h : mallocLongs n granted = some b) :
    n < 2 ^ 28 ∧ b = .alloc n := by
  unfold mallocLongs at h
  dsimp only at h
  split_ifs at h with hsize
  have hlt : n < 2 ^ 28 := by
    by_contra hge
    have hneg : (8 * (n : Int)).bmod (2 ^ 32) = 8 * n - 2 ^ 32 := by
      rw [Int.bmod_def]
      split_ifs <;> omega
    omega
  have heq : (8 * (n : Int)).bmod (2 ^ 32) = 8 * n := by
    rw [Int.bmod_def]
    split_ifs <;> omega
  have hcells : ((8 * (n : Int)).bmod (2 ^ 32) / 8).toNat = n := by omega
  rw [hcells] at h
  exact ⟨hlt, (Option.some.inj h).symm⟩

/-- The entries that the loop copies are those of the FIFO. -/
theorem copyLoop_eq (hkeeps : Keeps q b) (n i rdPtr : Nat) (lp : Buf UInt64) (hn : i + n ≤ lp.size)
    (hrd : rdPtr < q.entries) (lq : Nat → Option UInt64) (hlq : ∀ i x, lq i = some x → lp.cells i = x) :
    ∃ lp', copyLoop (inMemory q b) n i rdPtr (some lp) = .ok (some lp') ∧ lp'.size = lp.size ∧
      ∀ j x, Fifo.copy q.userData q.entries n i rdPtr lq j = some x → lp'.cells j = x := by
  induction n generalizing i rdPtr lp lq with
  | zero => exact ⟨lp, rfl, rfl, hlq⟩
  | succ n ih =>
    have hnext := next_inMemory q b rdPtr
    have hload : load (inMemory q b).userData rdPtr = .ok (b.cells rdPtr) := load_some (hkeeps.size ▸ hrd)
    unfold copyLoop Fifo.copy
    rw [hload, Run.ok_bind, store_some (by omega), Run.ok_bind, hnext]
    refine ih (i + 1) _ _ (by dsimp only; omega) (by split_ifs <;> omega) _ fun j x hx => ?_
    by_cases hj : j = i
    · subst hj
      rw [update_self] at hx
      simpa using hkeeps.cell rdPtr x hx
    · rw [update_of_ne hj] at hx
      simpa [hj] using hlq j x hx

/-- **`fifo_insert`**: it does what the FIFO does that has all memory, or there is no memory to grow. -/
theorem fifoInsert_spec (h : q.Holds L) (hkeeps : Keeps q b) (hsize : q.entries < 2 ^ 28) (data : UInt64)
    (granted : Bool) :
    if next (inMemory q b) q.wrPtr = q.rdPtr ∧ mallocLongs (q.entries + 10 : Nat) granted = none then
      fifoInsert (inMemory q b) data granted = .ok (-1, inMemory q b)
    else ∃ b', fifoInsert (inMemory q b) data granted = .ok (0, inMemory (q.insert data) b') ∧
      Keeps (q.insert data) b' ∧ (q.insert data).entries < 2 ^ 28 := by
  have hrd := h.ring.rd_lt
  have hwr : q.wrPtr < q.entries := h.wr ▸ RingQueue.slot_lt hrd (Nat.le_of_lt h.ring.room)
  have hentries : (inMemory q b).entries + 10 = ((q.entries + 10 : Nat) : Int) := rfl
  have hptr : next (inMemory q b) (inMemory q b).wrPtr = (inMemory q b).rdPtr ↔
      (if q.wrPtr + 1 ≥ q.entries then 0 else q.wrPtr + 1) = q.rdPtr := by
    show next (inMemory q b) q.wrPtr = q.rdPtr ↔ _
    rw [next_inMemory, Int.ofNat_inj]
  by_cases hfull : next (inMemory q b) (inMemory q b).wrPtr = (inMemory q b).rdPtr
  · -- the ring is full
    cases hmalloc : mallocLongs (q.entries + 10 : Nat) granted with
    | none =>
      rw [if_pos ⟨hfull, rfl⟩]
      unfold fifoInsert
      rw [if_pos hfull, hentries, hmalloc]
    | some lp =>
      rw [if_neg (by rintro ⟨-, hnone⟩; cases hnone)]
      obtain ⟨hlt, rfl⟩ := mallocLongs_some (by omega) hmalloc
      obtain ⟨lp', hcopy, hlength, hcells⟩ := copyLoop_eq hkeeps (q.entries - 1) 0 q.rdPtr
        (.alloc (q.entries + 10)) (by show _ ≤ q.entries + 10; omega) hrd (fun _ => none)
        (fun _ _ hx => nomatch hx)
      have hlast : ((q.entries : Int) - 1) = ((q.entries - 1 : Nat) : Int) := by omega
      have hinsert : q.insert data = ⟨0, q.entries, q.entries + 10,
          update (Fifo.copy q.userData q.entries (q.entries - 1) 0 q.rdPtr fun _ => none) (q.entries - 1)
            (some data)⟩ := by
        unfold Fifo.insert
        dsimp only
        rw [if_pos (hptr.1 hfull)]
      have hlength : lp'.size = q.entries + 10 := hlength
      refine ⟨{ lp' with cells := fun j => if j = q.entries - 1 then data else lp'.cells j }, ?_, ?_, ?_⟩
      · unfold fifoInsert
        rw [if_pos hfull, hentries, hmalloc]
        show (copyLoop (inMemory q b) ((q.entries : Int) - 1).toNat 0 q.rdPtr _ >>= fun lp =>
          store lp ((q.entries : Int) - 1) data >>= _) = _
        rw [hlast, Int.toNat_natCast]
        have hcopy : copyLoop (inMemory q b) (q.entries - 1) 0 q.rdPtr (some (.alloc (q.entries + 10))) =
          .ok (some lp') := hcopy
        rw [hcopy, Run.ok_bind, store_some (by omega), Run.ok_bind, hinsert]
        rfl
      · rw [hinsert]
        refine ⟨hlength, fun j x hx => ?_⟩
        dsimp only at hx
        by_cases hj : j = q.entries - 1
        · subst hj
          rw [update_self] at hx
          simpa using hx
        · rw [update_of_ne hj] at hx
          simpa [hj] using hcells j x hx
      · rw [hinsert]
        exact hlt
  · rw [if_neg (fun hdenied => hfull hdenied.1)]
    have hinsert : q.insert data = { q with
        wrPtr := if q.wrPtr + 1 ≥ q.entries then 0 else q.wrPtr + 1
        userData := update q.userData q.wrPtr (some data) } := by
      unfold Fifo.insert
      dsimp only
      rw [if_neg (fun hnext => hfull (hptr.2 hnext))]
    refine ⟨{ b with cells := fun j => if j = q.wrPtr then data else b.cells j }, ?_, ?_, ?_⟩
    · unfold fifoInsert
      rw [if_neg hfull]
      show (store (some b) (q.wrPtr : Int) data >>= _) = _
      rw [store_some (by rw [hkeeps.size]; exact hwr), Run.ok_bind, hinsert]
      show Except.ok (0, FIFO.mk _ _ (next (inMemory q b) (q.wrPtr : Nat)) _) = _
      rw [next_inMemory]
      rfl
    · rw [hinsert]
      refine ⟨hkeeps.size, fun j x hx => ?_⟩
      dsimp only at hx
      by_cases hj : j = q.wrPtr
      · subst hj
        rw [update_self] at hx
        simpa using hx
      · rw [update_of_ne hj] at hx
        simpa [hj] using hkeeps.cell j x hx
    · rw [hinsert]
      exact hsize

/-- **`fifo_remove`** does what the FIFO does that has all memory. -/
theorem fifoRemove_spec (h : q.Holds L) (hkeeps : Keeps q b) :
    fifoRemove (inMemory q b) = .ok (L.headD 0, inMemory q.remove.2 b) ∧ Keeps q.remove.2 b ∧
      q.remove.2.entries = q.entries := by
  cases L with
  | nil =>
    have hremove := h.remove_nil
    have hempty : q.rdPtr = q.wrPtr := by
      rw [h.wr]
      exact (RingQueue.slot_zero h.ring.rd_lt).symm
    rw [hremove]
    refine ⟨?_, hkeeps, rfl⟩
    unfold fifoRemove
    exact if_pos (congrArg Nat.cast hempty)
  | cons x L =>
    have hne : q.rdPtr ≠ q.wrPtr := fun hempty => by
      have hremove := h.remove_cons.1
      rw [Fifo.remove, if_pos hempty] at hremove
      cases hremove
    have hremove : q.remove.2 = { q with rdPtr := if q.rdPtr + 1 ≥ q.entries then 0 else q.rdPtr + 1 } := by
      rw [Fifo.remove, if_neg hne]
    have hload : load (inMemory q b).userData (inMemory q b).rdPtr = .ok x := by
      have hcell := hkeeps.cell q.rdPtr x h.ring.head
      rw [← hcell]
      exact load_some (hkeeps.size ▸ h.ring.rd_lt)
    rw [hremove]
    refine ⟨?_, ⟨hkeeps.size, hkeeps.cell⟩, rfl⟩
    unfold fifoRemove
    rw [if_neg (show ¬(inMemory q b).rdPtr = (inMemory q b).wrPtr from fun hempty => hne (Int.ofNat_inj.1 hempty)),
      hload, Run.ok_bind]
    show Except.ok (x, FIFO.mk _ (next (inMemory q b) q.rdPtr) _ _) = _
    rw [next_inMemory]
    rfl

/-- `fifo_peek` returns what `fifo_remove` would. -/
theorem fifoPeek_eq (fp : FIFO) : fifoPeek fp = (fifoRemove fp).map (·.1) := by
  unfold fifoPeek fifoRemove
  split_ifs
  · rfl
  · cases load fp.userData fp.rdPtr <;> rfl

/-- `fifo_is_empty`. -/
theorem fifoIsEmpty_spec (h : q.Holds L) (b : Buf UInt64) :
    fifoIsEmpty (inMemory q b) = if L = [] then 1 else 0 := by
  have hempty : ((inMemory q b).rdPtr = (inMemory q b).wrPtr) = (L = []) := by
    refine propext ⟨fun heq => ?_, ?_⟩
    · cases L with
      | nil => rfl
      | cons x L =>
        have hremove := h.remove_cons.1
        rw [Fifo.remove, if_pos (Int.ofNat_inj.1 heq)] at hremove
        cases hremove
    · rintro rfl
      refine congrArg Nat.cast ?_
      rw [h.wr]
      exact (RingQueue.slot_zero h.ring.rd_lt).symm
  unfold fifoIsEmpty
  simp only [hempty]

/-! ## Runs -/

/-- The FIFO is in its memory, and holds the queue. -/
def Good (fp : FIFO) (L : List Item) : Prop :=
  ∃ q b, fp = inMemory q b ∧ q.Holds (L.map Subtype.val) ∧ Keeps q b ∧ q.entries < 2 ^ 28

theorem front_eq (L : List Item) : front L = (L.map Subtype.val).headD 0 := by cases L <;> rfl

/-- **A call returns what the queue says.** -/
theorem fifoStep_good {fp : FIFO} {L : List Item} (h : Good fp L) (c : Call) :
    ∃ fp', fifoStep fp c = .ok ((queueStep L (denied fp c) c).1, fp') ∧
      Good fp' (queueStep L (denied fp c) c).2 := by
  obtain ⟨q, b, rfl, hholds, hkeeps, hsize⟩ := h
  have hremove := fifoRemove_spec hholds hkeeps
  cases c with
  | insert data granted =>
    have hinsert := fifoInsert_spec hholds hkeeps hsize data granted
    by_cases hdenied : next (inMemory q b) q.wrPtr = q.rdPtr ∧ mallocLongs (q.entries + 10 : Nat) granted = none
    · rw [if_pos hdenied] at hinsert
      have htrue : denied (inMemory q b) (.insert data granted) = true := decide_eq_true hdenied
      refine ⟨inMemory q b, ?_, q, b, rfl, ?_, hkeeps, hsize⟩
      · rw [fifoStep, hinsert, queueStep, htrue]
        rfl
      · rw [queueStep, htrue]
        exact hholds
    · rw [if_neg hdenied] at hinsert
      have hfalse : denied (inMemory q b) (.insert data granted) = false := decide_eq_false hdenied
      obtain ⟨b', heq, hkeeps', hsize'⟩ := hinsert
      refine ⟨inMemory (q.insert data) b', ?_, q.insert data, b', rfl, ?_, hkeeps', hsize'⟩
      · rw [fifoStep, heq, queueStep, hfalse]
        rfl
      · rw [queueStep, hfalse]
        simpa using hholds.insert data.val
  | remove =>
    refine ⟨inMemory q.remove.2 b, ?_, q.remove.2, b, rfl, ?_, hremove.2.1, hremove.2.2 ▸ hsize⟩
    · rw [fifoStep, hremove.1, queueStep, front_eq]
      rfl
    · cases L with
      | nil =>
        rw [hholds.remove_nil]
        exact hholds
      | cons x L => exact hholds.remove_cons.2
  | peek =>
    refine ⟨inMemory q b, ?_, q, b, rfl, hholds, hkeeps, hsize⟩
    rw [fifoStep, fifoPeek_eq, hremove.1, queueStep, front_eq]
    rfl
  | isEmpty =>
    refine ⟨inMemory q b, ?_, q, b, rfl, hholds, hkeeps, hsize⟩
    have hempty : (L.map Subtype.val = []) = (L = []) := propext List.map_eq_nil_iff
    rw [fifoStep, fifoIsEmpty_spec hholds, queueStep]
    simp only [hempty]

theorem asQueue_of_good {fp : FIFO} {L : List Item} (h : Good fp L) (cs : List Call) : AsQueue fp L cs := by
  induction cs generalizing fp L with
  | nil => trivial
  | cons c cs ih =>
    obtain ⟨fp', hstep, hgood⟩ := fifoStep_good h c
    exact ⟨fp', hstep, ih hgood⟩

/-! ## Initial sizes -/

/-- The size is what it is meant to be. -/
theorem fifoInit_good {numEntries : Int32} (h : numEntries.toInt < 2 ^ 28) :
    (fifoInit numEntries).1 = 0 ∧ Good (fifoInit numEntries).2 [] := by
  obtain ⟨n, hn, hlt⟩ : ∃ n : Nat, (if numEntries.toInt < 1 then 10 else numEntries.toInt) = n ∧ 0 < n ∧ n < 2 ^ 28 := by
    refine ⟨(if numEntries.toInt < 1 then 10 else numEntries.toInt).toNat, ?_, ?_, ?_⟩ <;> split_ifs <;> omega
  have hmalloc : mallocLongs n true = some (.alloc n) := by
    have heq : (8 * (n : Int)).bmod (2 ^ 32) = 8 * n := by
      rw [Int.bmod_def]
      split_ifs <;> omega
    have hcells : (8 * (n : Int) / 8).toNat = n := by omega
    unfold mallocLongs
    dsimp only
    rw [heq, hcells]
    exact if_pos ⟨by omega, rfl⟩
  have hinit : fifoInit numEntries = (0, inMemory ⟨0, 0, n, fun _ => none⟩ (.alloc n)) := by
    unfold fifoInit
    dsimp only
    rw [hn, hmalloc]
    rfl
  rw [hinit]
  exact ⟨rfl, _, _, rfl, ⟨RingQueue.holds_nil hlt.1, (RingQueue.slot_zero hlt.1).symm⟩,
    ⟨rfl, fun _ _ hx => nomatch hx⟩, hlt.2⟩

/-- An item is put in, and there are more entries than the memory has cells. -/
theorem fifoInsert_entries {b : Buf UInt64} {n : Int} {wrPtr : Nat} (hn : (wrPtr : Int) + 1 < n) (data : UInt64) :
    fifoInsert ⟨some b, 0, wrPtr, n⟩ data true =
      store (some b) wrPtr data >>= fun userData => return (0, ⟨userData, 0, (wrPtr + 1 : Nat), n⟩) := by
  have hnext : next ⟨some b, 0, wrPtr, n⟩ wrPtr = ((wrPtr + 1 : Nat) : Int) := by
    unfold next
    rw [if_neg (by dsimp only; omega), Nat.cast_add, Nat.cast_one]
  unfold fifoInsert
  rw [if_neg (by dsimp only; rw [hnext]; omega)]
  dsimp only
  rw [hnext]

/-- Items are put in until the memory is full. -/
theorem overruns {n : Int} (x : Item) (left : Nat) {b : Buf UInt64} {wrPtr : Nat} (hn : (b.size : Int) + 1 < n)
    (hwr : wrPtr + left = b.size) (L : List Item) :
    ¬ AsQueue ⟨some b, 0, wrPtr, n⟩ L (List.replicate (left + 1) (.insert x true)) := by
  induction left generalizing b wrPtr L with
  | zero =>
    rintro ⟨fp', hstep, -⟩
    have hstore : store (some b) wrPtr x = .error .outOfBounds := by
      show (b.write wrPtr x).map some = _
      rw [Buf.write, if_neg (by omega)]
      rfl
    rw [fifoStep, fifoInsert_entries (by omega), hstore] at hstep
    cases hstep
  | succ left ih =>
    rintro ⟨fp', hstep, hrest⟩
    rw [fifoStep, fifoInsert_entries (by omega), store_some (by omega)] at hstep
    obtain ⟨-, rfl⟩ := Prod.mk.inj (Except.ok.inj hstep)
    refine ih ?_ ?_ _ hrest
    · exact hn
    · dsimp only
      omega

/-- The size is none that can be asked for, or the memory is too small. -/
theorem not_fifoRight {numEntries : Int32} (h : 2 ^ 28 ≤ numEntries.toInt) : ∃ cs, ¬ FifoRight numEntries cs := by
  have hlt := numEntries.toInt_lt
  have hn : (if numEntries.toInt < 1 then 10 else numEntries.toInt) = numEntries.toInt := if_neg (by omega)
  cases hmalloc : mallocLongs numEntries.toInt true with
  | none =>
    refine ⟨[], fun hright => ?_⟩
    have hinit : (fifoInit numEntries).1 = -1 := by
      unfold fifoInit
      dsimp only
      rw [hn, hmalloc]
    exact absurd (hinit.symm.trans hright.1) (by decide)
  | some b =>
    have hinit : (fifoInit numEntries).2 = ⟨some b, 0, 0, numEntries.toInt⟩ := by
      unfold fifoInit
      dsimp only
      rw [hn, hmalloc]
    have hsmall : (b.size : Int) + 1 < numEntries.toInt := by
      unfold mallocLongs at hmalloc
      dsimp only at hmalloc
      split_ifs at hmalloc with hsize
      rw [← Option.some.inj hmalloc]
      show (((8 * numEntries.toInt).bmod (2 ^ 32) / 8).toNat : Int) + 1 < _
      rw [Int.bmod_def] at hsize ⊢
      split_ifs at hsize ⊢ <;> omega
    refine ⟨List.replicate (b.size + 1) (.insert ⟨1, by decide⟩ true), fun hright => ?_⟩
    rw [FifoRight, hinit] at hright
    exact overruns ⟨1, by decide⟩ b.size hsmall (Nat.zero_add _) [] hright.2

/-- **All runs of a FIFO are those of a queue just if its initial size, in bytes, is an `int`.** -/
theorem fifo_queue_iff (numEntries : Int32) :
    (∀ cs, FifoRight numEntries cs) ↔ numEntries.toInt < 2 ^ 28 := by
  constructor
  · intro h
    by_contra hge
    obtain ⟨cs, hcs⟩ := not_fifoRight (Int.not_lt.1 hge)
    exact hcs (h cs)
  · intro h cs
    obtain ⟨hinit, hgood⟩ := fifoInit_good h
    exact ⟨hinit, asQueue_of_good hgood cs⟩

/-- Memory of no bytes is asked for, and the first item is put behind it. -/
theorem no_bytes : ¬ FifoRight 0x20000000 [.insert ⟨1, by decide⟩ true] := by
  rintro ⟨-, fp', hstep, -⟩
  have hinit : (fifoInit 0x20000000).2 = ⟨some (.alloc 0), 0, (0 : Nat), 0x20000000⟩ := by
    rfl
  rw [hinit, fifoStep, fifoInsert_entries (by decide)] at hstep
  cases hstep

end Xrdp.Chansrv.FifoQueue
