import Mathlib.Data.List.Range
import Mathlib.Tactic.Common

/-!
# Parsers and the bytes that they read

A parser goes through a memory, of which it knows no end, and works on a state; the places that are read are
noted.

* `Scan`, `Parse` — a parser in a place of the memory; `le`, `bytes`, `peek`, `skip`, `state`, `update` — its
  steps.
* `Used` — what has been read lies within so many bytes from where a parser began.
* `Uses` — parsers that do not read farther; `Uses.bind` — how they are put together.
-/

namespace Scans

variable {σ α β : Type}

/-- A parser in a place `p` of a memory. -/
structure Scan (σ : Type) where
  st : σ
  mem : Nat → UInt8
  p : Nat
  reads : List Nat

abbrev Parse (σ α : Type) := StateM (Scan σ) α

/-- The number in the `n` bytes from a place on, the least first. -/
def value (mem : Nat → UInt8) (p : Nat) : Nat → Nat
  | 0 => 0
  | n + 1 => (mem p).toNat + 256 * value mem (p + 1) n

/-- A number of `n` bytes. -/
def le (n : Nat) : Parse σ Nat := fun s =>
  (value s.mem s.p n, { s with p := s.p + n, reads := s.reads ++ List.range' s.p n })

/-- `n` bytes. -/
def bytes (n : Nat) : Parse σ (List UInt8) := fun s =>
  ((List.range' s.p n).map s.mem, { s with p := s.p + n, reads := s.reads ++ List.range' s.p n })

/-- `n` bytes from some place on; the parser stays where it is. -/
def peek (p n : Nat) : Parse σ (List UInt8) := fun s =>
  ((List.range' p n).map s.mem, { s with reads := s.reads ++ List.range' p n })

/-- Bytes that are not read. -/
def skip (n : Nat) : Parse σ Unit := fun s => ((), { s with p := s.p + n })

def place : Parse σ Nat := fun s => (s.p, s)

def goto (p : Nat) : Parse σ Unit := fun s => ((), { s with p := p })

def state : Parse σ σ := fun s => (s.st, s)

def update (f : σ → σ) : Parse σ Unit := fun s => ((), { s with st := f s.st })

section

variable (s : Scan σ) (f : Nat → Parse σ β) (g : Unit → Parse σ β)

theorem place_bind : (place >>= f) s = f s.p s := rfl

theorem le_bind (n : Nat) : (le n >>= f) s = f (value s.mem s.p n) (le n s).2 := rfl

theorem skip_bind (n : Nat) : (skip n >>= g) s = g () (skip n s).2 := rfl

theorem bind_unit (m : Parse σ Unit) : (m >>= g) s = g () (m s).2 := rfl

end

/-! ## What has been read -/

/-- From `s` to `s'` a parser has gone on by at most `n` bytes, and has read none but these; an invariant has
been kept. -/
structure Used (inv : σ → Prop) (n : Nat) (s s' : Scan σ) : Prop where
  mem : s'.mem = s.mem
  low : s.p ≤ s'.p
  high : s'.p ≤ s.p + n
  reads : ∃ new, s'.reads = s.reads ++ new ∧ ∀ i ∈ new, s.p ≤ i ∧ i < s.p + n
  inv : inv s.st → inv s'.st

variable {inv : σ → Prop} {n k : Nat} {s s' s'' : Scan σ}

theorem Used.rfl : Used inv n s s where
  mem := Eq.refl _
  low := Nat.le_refl _
  high := Nat.le_add_right _ _
  reads := ⟨[], (List.append_nil _).symm, fun _ h => nomatch h⟩
  inv := id

theorem Used.trans (h : Used inv n s s') (h' : Used inv k s' s'') : Used inv (n + k) s s'' where
  mem := h'.mem.trans h.mem
  low := Nat.le_trans h.low h'.low
  high := by
    have hfirst := h.high
    have hsecond := h'.high
    omega
  reads := by
    obtain ⟨new, hnew, hin⟩ := h.reads
    obtain ⟨new', hnew', hin'⟩ := h'.reads
    refine ⟨new ++ new', by rw [hnew', hnew, List.append_assoc], fun i hi => ?_⟩
    have hlow := h.low
    have hhigh := h.high
    rcases List.mem_append.1 hi with hi | hi
    · have hi := hin i hi
      omega
    · have hi := hin' i hi
      omega
  inv := fun hs => h'.inv (h.inv hs)

theorem Used.mono (h : Used inv n s s') (hn : n ≤ k) : Used inv k s s' where
  mem := h.mem
  low := h.low
  high := Nat.le_trans h.high (Nat.add_le_add_left hn _)
  reads := by
    obtain ⟨new, hnew, hin⟩ := h.reads
    refine ⟨new, hnew, fun i hi => ?_⟩
    have hi := hin i hi
    omega
  inv := h.inv

/-- Bytes that are read once more, or ahead. -/
theorem Used.peek (h : Used inv n s s') {p m : Nat} (hp : s.p ≤ p) (hm : p + m ≤ s.p + n) :
    Used inv n s { s' with reads := s'.reads ++ List.range' p m } where
  mem := h.mem
  low := h.low
  high := h.high
  reads := by
    obtain ⟨new, hnew, hin⟩ := h.reads
    refine ⟨new ++ List.range' p m, by rw [hnew, List.append_assoc], fun i hi => ?_⟩
    rcases List.mem_append.1 hi with hi | hi
    · exact hin i hi
    · have hi := List.mem_range'_1.1 hi
      omega
  inv := h.inv

theorem Used.goto (h : Used inv n s s') {p : Nat} (hp : s.p ≤ p) (hn : p ≤ s.p + n) :
    Used inv n s { s' with p := p } :=
  ⟨h.mem, hp, hn, h.reads, h.inv⟩

theorem Used.update (h : Used inv n s s') {st : σ} (hst : inv s'.st → inv st) :
    Used inv n s { s' with st := st } :=
  ⟨h.mem, h.low, h.high, h.reads, fun hs => hst (h.inv hs)⟩

/-! ## Parsers -/

/-- A parser of at most `n` bytes. -/
def Uses (inv : σ → Prop) (n : Nat) (m : Parse σ α) : Prop := ∀ s, Used inv n s (m s).2

theorem Uses.pure {a : α} : Uses inv 0 (pure a : Parse σ α) := fun _ => .rfl

theorem Uses.bind {m : Parse σ α} {f : α → Parse σ β} (h : Uses inv n m) (hf : ∀ a, Uses inv k (f a)) :
    Uses inv (n + k) (m >>= f) := fun s => (h s).trans (hf (m s).1 (m s).2)

theorem Uses.mono {m : Parse σ α} (h : Uses inv n m) (hn : n ≤ k) : Uses inv k m := fun s => (h s).mono hn

theorem Uses.ite {c : Prop} [Decidable c] {x y : Parse σ α} (hx : c → Uses inv n x) (hy : ¬c → Uses inv n y) :
    Uses inv n (if c then x else y) := by
  split
  · exact hx ‹_›
  · exact hy ‹_›

/-- A parser that stops at once, or goes on. -/
theorem Uses.guard {c : Prop} [Decidable c] {a : α} {y : Parse σ α} (hy : ¬c → Uses inv n y) :
    Uses inv n (if c then Pure.pure a else y) :=
  .ite (fun _ => Uses.pure.mono (Nat.zero_le n)) hy

theorem uses_le : Uses inv n (le n : Parse σ Nat) := fun _ =>
  ⟨rfl, Nat.le_add_right _ _, Nat.le_refl _, ⟨_, rfl, fun _ hi => List.mem_range'_1.1 hi⟩, id⟩

theorem uses_bytes : Uses inv n (bytes n : Parse σ (List UInt8)) := fun _ =>
  ⟨rfl, Nat.le_add_right _ _, Nat.le_refl _, ⟨_, rfl, fun _ hi => List.mem_range'_1.1 hi⟩, id⟩

theorem uses_skip : Uses inv n (skip n : Parse σ Unit) := fun _ =>
  ⟨rfl, Nat.le_add_right _ _, Nat.le_refl _, ⟨[], (List.append_nil _).symm, fun _ h => nomatch h⟩, id⟩

theorem uses_state : Uses inv 0 (state : Parse σ σ) := fun _ => .rfl

theorem uses_update {f : σ → σ} (hf : ∀ st, inv st → inv (f st)) : Uses inv 0 (update f) :=
  fun s => Used.rfl.update (hf s.st)

end Scans
