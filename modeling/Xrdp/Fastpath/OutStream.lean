import Xrdp.Lib.Wire

/-!
# Output streams

A stream is a memory with pointers into it.  Several headers of a message are laid out by pushing
and popping layers, so that what is written first need not come first.

* `bytesAt`, `writeAt` — a run of bytes of a memory, and the memory with a run replaced.
* `copyDown` — bytes moved to a place before them, one after the other.
* `OutStream` — `struct stream` as the senders use it.
-/

namespace Xrdp

open Wire

/-- The `n` bytes from `a` on. -/
def bytesAt (cells : Nat → UInt8) (a n : Nat) : List UInt8 :=
  (List.range n).map fun i => cells (a + i)

/-- `cells` with `bs` from `a` on. -/
def writeAt (cells : Nat → UInt8) (a : Nat) (bs : List UInt8) (j : Nat) : UInt8 :=
  if a ≤ j then (bs[j - a]?).getD (cells j) else cells j

section

variable {cells cells' : Nat → UInt8} {a b n m : Nat} {bs : List UInt8}

@[simp] theorem bytesAt_length : (bytesAt cells a n).length = n := by simp [bytesAt]

theorem bytesAt_add : bytesAt cells a (n + m) = bytesAt cells a n ++ bytesAt cells (a + n) m := by
  simp [bytesAt, List.range_add, Nat.add_assoc]

theorem bytesAt_congr (h : ∀ j, a ≤ j → j < a + n → cells j = cells' j) :
    bytesAt cells a n = bytesAt cells' a n := by
  refine List.map_congr_left fun i hi => h _ (Nat.le_add_right a i) ?_
  have := List.mem_range.1 hi
  omega

theorem writeAt_before {j : Nat} (h : j < a) : writeAt cells a bs j = cells j :=
  if_neg (Nat.not_le.2 h)

theorem writeAt_behind {j : Nat} (h : a + bs.length ≤ j) : writeAt cells a bs j = cells j := by
  have : bs[j - a]? = none := List.getElem?_eq_none (by omega)
  simp [writeAt, this]

/-- **What is written is read.** -/
theorem bytesAt_writeAt : bytesAt (writeAt cells a bs) a bs.length = bs := by
  apply List.ext_getElem (by simp)
  intro i h1 h2
  simp [bytesAt, writeAt, h2]

theorem bytesAt_writeAt_of_disjoint (h : b + n ≤ a ∨ a + bs.length ≤ b) :
    bytesAt (writeAt cells a bs) b n = bytesAt cells b n :=
  bytesAt_congr fun j h1 h2 => by
    rcases h with h | h
    · exact writeAt_before (by omega)
    · exact writeAt_behind (by omega)

/-- Two runs one behind the other are one. -/
theorem writeAt_append {cs : List UInt8} :
    writeAt (writeAt cells a bs) (a + bs.length) cs = writeAt cells a (bs ++ cs) := by
  funext j
  rcases Nat.lt_or_ge j (a + bs.length) with h | h
  · rw [writeAt_before h]
    rcases Nat.lt_or_ge j a with h' | h'
    · rw [writeAt_before h', writeAt_before h']
    · simp only [writeAt, if_pos h']
      rw [List.getElem?_append_left (by omega)]
  · simp only [writeAt, if_pos h, if_pos (show a ≤ j by omega)]
    rw [List.getElem?_append_right (by omega), List.getElem?_eq_none (show bs.length ≤ j - a by omega),
      Nat.sub_sub]
    rfl

/-- A loop that copies `n` bytes from `src` on down to `dst`, the first one first. -/
def copyDown : Nat → Nat → Nat → (Nat → UInt8) → Nat → UInt8
  | 0, _, _, cells => cells
  | n + 1, dst, src, cells => copyDown n (dst + 1) (src + 1) (Function.update cells dst (cells src))

theorem copyDown_apply {dst src : Nat} (h : dst < src) (j : Nat) :
    copyDown n dst src cells j = if dst ≤ j ∧ j < dst + n then cells (src + (j - dst)) else cells j := by
  induction n generalizing dst src cells with
  | zero =>
    rw [copyDown, if_neg (by omega)]
  | succ n ih =>
    rw [copyDown, ih (by omega)]
    by_cases hj : j = dst
    · rw [hj, if_neg (by omega), Function.update_self, if_pos (by omega), Nat.sub_self, Nat.add_zero]
    · by_cases hin : dst + 1 ≤ j ∧ j < dst + 1 + n
      · rw [if_pos hin, Function.update_of_ne (by omega), if_pos (by omega)]
        congr 1
        omega
      · rw [if_neg hin, Function.update_of_ne hj, if_neg (by omega)]

/-- What is copied is found where it has been copied to. -/
theorem bytesAt_copyDown {dst src : Nat} (h : dst < src) (hn : m ≤ n) :
    bytesAt (copyDown n dst src cells) dst m = bytesAt cells src m := by
  refine List.map_congr_left fun i hi => ?_
  have hi := List.mem_range.1 hi
  rw [copyDown_apply h, if_pos (by omega), Nat.add_sub_cancel_left]

end

/-- `struct stream`. -/
structure OutStream where
  cells : Nat → UInt8
  data : Nat
  secHdr : Nat
  rdpHdr : Nat
  p : Nat
  end_ : Nat

namespace OutStream

/-- Bytes written at `p`, which moves behind them. -/
def put (s : OutStream) (bs : List UInt8) : OutStream :=
  { s with cells := writeAt s.cells s.p bs, p := s.p + bs.length }

/-- `out_uint8s`: room, the bytes of which are left as they are. -/
def skip (s : OutStream) (n : Nat) : OutStream := { s with p := s.p + n }

def outUint8 (s : OutStream) (v : Nat) : OutStream := s.put [UInt8.ofNat v]

def outUint16Le (s : OutStream) (v : Nat) : OutStream := s.put (leBytes 2 v)

def outUint16Be (s : OutStream) (v : Nat) : OutStream := s.put (beBytes 2 v)

theorem put_put (s : OutStream) (bs cs : List UInt8) : (s.put bs).put cs = s.put (bs ++ cs) := by
  simp only [put, writeAt_append, List.length_append, Nat.add_assoc]

theorem put_injective {s : OutStream} {bs cs : List UInt8} (h : s.put bs = s.put cs) : bs = cs := by
  have hp : s.p + bs.length = s.p + cs.length := congrArg OutStream.p h
  have hcells : writeAt s.cells s.p bs = writeAt s.cells s.p cs := congrArg OutStream.cells h
  calc bs
    _ = bytesAt (writeAt s.cells s.p bs) s.p bs.length := bytesAt_writeAt.symm
    _ = bytesAt (writeAt s.cells s.p cs) s.p cs.length := by rw [hcells, Nat.add_left_cancel hp]
    _ = cs := bytesAt_writeAt

/-- What a transport takes of a stream: the bytes from `data` to `end`. -/
def contents (s : OutStream) : List UInt8 := bytesAt s.cells s.data (s.end_ - s.data)

end OutStream

end Xrdp
