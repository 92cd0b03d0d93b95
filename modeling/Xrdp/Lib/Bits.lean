import Mathlib

/-!
# Bit strings, most significant bit first

Numbers as fixed-width bit strings (`natBits`), their reading back (`takeBits`), and the bits of
a byte memory `Nat → UInt8` addressed by bit position.

* `takeBits_natBits` — a field written with `natBits` is read back, whatever follows it.
* `bitAt_orAt` — what or-ing a value into one byte does to every bit of the memory.
* `Inserted.one`, `.two`, `.three` — a field or-ed in by shifts over one, two or three bytes.
* `Written.insert` — or-ing a bit string in right behind the bits written so far appends it.
* `byteBits_range` — the bytes of a written memory are the written bits, zero padded.
-/

namespace BitString

/-! ## Fixed-width fields -/

/-- The `n` low bits of `v`, most significant first. -/
def natBits : Nat → Nat → List Bool
  | 0, _ => []
  | n + 1, v => v.testBit n :: natBits n v

/-- The number a bit string denotes, most significant bit first. -/
def ofBits (bs : List Bool) : Nat := bs.foldl (fun a b => 2 * a + b.toNat) 0

/-- Read an `n`-bit field off the front. -/
def takeBits (n : Nat) (bs : List Bool) : Option (Nat × List Bool) :=
  if n ≤ bs.length then some (ofBits (bs.take n), bs.drop n) else none

@[simp] theorem natBits_length (n v : Nat) : (natBits n v).length = n := by
  induction n with
  | zero => rfl
  | succ n ih => simp [natBits, ih]

theorem natBits_getElem? (n v i : Nat) (h : i < n) :
    (natBits n v)[i]? = some (v.testBit (n - 1 - i)) := by
  induction n generalizing i with
  | zero => omega
  | succ n ih =>
    cases i with
    | zero => simp [natBits]
    | succ i =>
      rw [natBits, List.getElem?_cons_succ, ih i (by omega)]
      congr 2; omega

theorem ofBits_foldl (bs : List Bool) (a : Nat) :
    bs.foldl (fun a b => 2 * a + b.toNat) a = a * 2 ^ bs.length + ofBits bs := by
  induction bs generalizing a with
  | nil => simp [ofBits]
  | cons b bs ih =>
    rw [ofBits, List.foldl_cons, List.foldl_cons, ih, ih (2 * 0 + b.toNat), List.length_cons,
      Nat.pow_succ]
    ring

theorem ofBits_cons (b : Bool) (bs : List Bool) :
    ofBits (b :: bs) = b.toNat * 2 ^ bs.length + ofBits bs := by
  rw [ofBits, List.foldl_cons, ofBits_foldl]; simp

theorem ofBits_natBits (n v : Nat) : ofBits (natBits n v) = v % 2 ^ n := by
  induction n with
  | zero => simp [natBits, ofBits, Nat.mod_one]
  | succ n ih =>
    rw [natBits, ofBits_cons, ih, natBits_length, Nat.testBit_eq_decide_div_mod_eq,
      Nat.mod_pow_succ]
    rcases Nat.mod_two_eq_zero_or_one (v / 2 ^ n) with h | h
    · simp [h]
    · simp [h]; omega

/-- **A field is read back**, whatever bits follow it. -/
theorem takeBits_natBits {n v : Nat} (h : v < 2 ^ n) (rest : List Bool) :
    takeBits n (natBits n v ++ rest) = some (v, rest) := by
  rw [takeBits, if_pos (by simp), List.take_left' (natBits_length n v),
    List.drop_left' (natBits_length n v), ofBits_natBits, Nat.mod_eq_of_lt h]

/-! ## Byte memories -/

/-- Bit `p` of a byte memory. -/
def bitAt (m : Nat → UInt8) (p : Nat) : Bool := (m (p / 8)).toNat.testBit (7 - p % 8)

/-- Or the low byte of `x` into byte `i`. -/
def orAt (m : Nat → UInt8) (i x : Nat) : Nat → UInt8 :=
  fun j => if j = i then m i ||| UInt8.ofNat x else m j

theorem bitAt_orAt (m : Nat → UInt8) (i x p : Nat) :
    bitAt (orAt m i x) p = (bitAt m p || (decide (p / 8 = i) && x.testBit (7 - p % 8))) := by
  unfold bitAt orAt
  by_cases h : p / 8 = i
  · subst h
    have h8 : 7 - p % 8 < 8 := by omega
    have hx : (x % 2 ^ 8).testBit (7 - p % 8) = x.testBit (7 - p % 8) := by
      rw [Nat.testBit_mod_two_pow]; simp [h8]
    simp only [if_true, UInt8.toNat_or, UInt8.toNat_ofNat', Nat.testBit_or, hx, decide_true,
      Bool.true_and]
  · simp [h]

/-- Memory `m'` is `m` with the bit string `bs` or-ed in at bit position `k`. -/
def Inserted (m m' : Nat → UInt8) (k : Nat) (bs : List Bool) : Prop :=
  ∀ p, bitAt m' p = (bitAt m p || (decide (k ≤ p) && bs.getD (p - k) false))

theorem Inserted.refl (m : Nat → UInt8) (k : Nat) : Inserted m m k [] := by
  intro p; simp

theorem Inserted.append {m m' m'' : Nat → UInt8} {k : Nat} {bs cs : List Bool}
    (h : Inserted m m' k bs) (h' : Inserted m' m'' (k + bs.length) cs) :
    Inserted m m'' k (bs ++ cs) := by
  intro p
  rw [h' p, h p]
  by_cases hk : k ≤ p
  · by_cases hp : p - k < bs.length
    · have : ¬ k + bs.length ≤ p := by omega
      simp [this, List.getElem?_append_left hp]
    · have hk' : k + bs.length ≤ p := by omega
      have hi : p - k - bs.length = p - (k + bs.length) := by omega
      simp [hk', hk, List.getElem?_append_right (by omega : bs.length ≤ p - k),
        List.getElem?_eq_none (by omega : bs.length ≤ p - k), hi]
  · have : ¬ k + bs.length ≤ p := by omega
    simp [hk, this]

theorem natBits_getD (n v i : Nat) :
    (natBits n v).getD i false = (decide (i < n) && v.testBit (n - 1 - i)) := by
  rw [List.getD_eq_getElem?_getD]
  by_cases h : i < n
  · rw [natBits_getElem? n v i h]; simp [h]
  · rw [List.getElem?_eq_none (by simp; omega)]; simp [h]

/-- A field that stays inside byte `a`; at the front of the byte higher bits of `v` fall out. -/
theorem Inserted.one (m : Nat → UInt8) {n v a r : Nat} (hv : r = 0 ∨ v < 2 ^ n) (hr : r + n ≤ 8) :
    Inserted m (orAt m a (v <<< (8 - r - n))) (8 * a + r) (natBits n v) := by
  intro p
  rw [bitAt_orAt, natBits_getD, Nat.testBit_shiftLeft]
  congr 1
  by_cases ha : p / 8 = a
  · by_cases hk : 8 * a + r ≤ p
    · by_cases hn : p - (8 * a + r) < n
      · have : 7 - p % 8 ≥ 8 - r - n := by omega
        have hi : 7 - p % 8 - (8 - r - n) = n - 1 - (p - (8 * a + r)) := by omega
        simp [ha, hk, hn, this, hi]
      · have : ¬ 7 - p % 8 ≥ 8 - r - n := by omega
        simp [hn, this]
    · have hv : v < 2 ^ n := hv.resolve_left (by omega)
      have hz : v.testBit (7 - p % 8 - (8 - r - n)) = false :=
        Nat.testBit_lt_two_pow (lt_of_lt_of_le hv (Nat.pow_le_pow_right (by omega) (by omega)))
      simp [hk, hz]
  · by_cases hk : 8 * a + r ≤ p
    · have : ¬ p - (8 * a + r) < n := by omega
      simp [ha, this]
    · simp [ha, hk]

theorem natBits_add (n k v : Nat) : natBits (n + k) v = natBits n (v >>> k) ++ natBits k v := by
  induction n with
  | zero => simp [natBits]
  | succ n ih => rw [Nat.succ_add, natBits, natBits, ih, Nat.testBit_shiftRight, Nat.add_comm k n,
      List.cons_append]

/-- A field that starts in byte `a` and fills it up: its high bits there, the rest behind. -/
theorem Inserted.cons {m m' : Nat → UInt8} {n v a r : Nat} (hv : v < 2 ^ n) (hr : r < 8)
    (h8 : 8 ≤ r + n) (h : Inserted (orAt m a (v >>> (r + n - 8))) m' (8 * (a + 1))
      (natBits (r + n - 8) v)) : Inserted m m' (8 * a + r) (natBits n v) := by
  have hn : n = 8 - r + (r + n - 8) := by omega
  have hone := Inserted.one m (n := 8 - r) (v := v >>> (r + n - 8)) (a := a) (r := r)
    (.inr (by
      rw [Nat.shiftRight_eq_div_pow]
      exact Nat.div_lt_of_lt_mul (by rwa [← Nat.pow_add, Nat.add_comm, ← hn]))) (by omega)
  rw [Nat.sub_self, Nat.shiftLeft_zero] at hone
  rw [hn, natBits_add]
  refine hone.append ?_
  rwa [natBits_length, show 8 * a + r + (8 - r) = 8 * (a + 1) by omega]

/-- A field that runs from byte `a` into byte `a + 1`. -/
theorem Inserted.two (m : Nat → UInt8) {n v a r : Nat} (hv : v < 2 ^ n) (hr : r < 8)
    (h8 : 8 ≤ r + n) (h16 : r + n ≤ 16) :
    Inserted m (orAt (orAt m a (v >>> (r + n - 8))) (a + 1) (v <<< (16 - r - n)))
      (8 * a + r) (natBits n v) := by
  refine Inserted.cons hv hr h8 ?_
  have hlast := Inserted.one (orAt m a (v >>> (r + n - 8))) (n := r + n - 8) (v := v) (a := a + 1)
    (.inl rfl) (by omega)
  rwa [show 8 - 0 - (r + n - 8) = 16 - r - n by omega] at hlast

/-- A field that runs over three bytes. -/
theorem Inserted.three (m : Nat → UInt8) {n v a r : Nat} (hv : v < 2 ^ n) (hr : r < 8)
    (h16 : 16 ≤ r + n) (h24 : r + n ≤ 24) :
    Inserted m
      (orAt (orAt (orAt m a (v >>> (r + n - 8))) (a + 1) (v >>> (r + n - 16)))
        (a + 2) (v <<< (24 - r - n)))
      (8 * a + r) (natBits n v) := by
  refine Inserted.cons hv hr (by omega) ?_
  have hmid := Inserted.one (orAt m a (v >>> (r + n - 8))) (n := 8) (v := v >>> (r + n - 16))
    (a := a + 1) (.inl rfl) (by omega)
  have hlast := Inserted.one (orAt (orAt m a (v >>> (r + n - 8))) (a + 1) (v >>> (r + n - 16)))
    (n := r + n - 16) (v := v) (a := a + 2) (.inl rfl) (by omega)
  rw [show 8 - 0 - (r + n - 16) = 24 - r - n by omega] at hlast
  have hrest := hmid.append hlast
  rwa [← natBits_add, show 8 + (r + n - 16) = r + n - 8 by omega] at hrest

/-- The first `N` bits of the memory are `bs`, and zero behind them. -/
def Written (m : Nat → UInt8) (N : Nat) (bs : List Bool) : Prop :=
  ∀ p < N, bitAt m p = bs.getD p false

theorem Written.nil {m : Nat → UInt8} {N : Nat} (h : ∀ i < N, m i = 0) :
    Written m (8 * N) [] := by
  intro p hp
  simp [bitAt, h (p / 8) (by omega)]

/-- **Inserting a bit string behind the written bits appends it.** -/
theorem Written.insert {m m' : Nat → UInt8} {N : Nat} {bs cs : List Bool}
    (hw : Written m N bs) (hi : Inserted m m' bs.length cs) : Written m' N (bs ++ cs) := by
  intro p hp
  rw [hi p, hw p hp]
  by_cases h : p < bs.length
  · have : ¬ bs.length ≤ p := by omega
    simp [List.getElem?_append_left h, this]
  · have hp : bs.length ≤ p := by omega
    simp [List.getElem?_append_right hp, hp]

/-- The bits of a list of bytes. -/
def byteBits (l : List UInt8) : List Bool := l.flatMap fun b => natBits 8 b.toNat

theorem byteBits_append (l l' : List UInt8) : byteBits (l ++ l') = byteBits l ++ byteBits l' := by
  simp [byteBits]

/-- The bytes of a memory, read as bits, are its bits in order. -/
theorem byteBits_map_range (m : Nat → UInt8) (n : Nat) :
    byteBits ((List.range n).map m) = (List.range (8 * n)).map (bitAt m) := by
  induction n with
  | zero => rfl
  | succ n ih =>
    rw [List.range_succ, List.map_append, byteBits_append, ih]
    have h : 8 * (n + 1) = 8 * n + 8 := by omega
    rw [h, List.range_add, List.map_append]
    congr 1
    have hb : ∀ r < 8, bitAt m (8 * n + r) = (m n).toNat.testBit (7 - r) := by
      intro r hr
      rw [bitAt, show (8 * n + r) / 8 = n by omega, show (8 * n + r) % 8 = r by omega]
    simp [byteBits, natBits, List.range_succ, ← hb 0, hb]

/-- **The bytes of a written memory are the written bits, zero padded to a byte.** -/
theorem byteBits_range {m : Nat → UInt8} {N n : Nat} {bs : List Bool} (hw : Written m N bs)
    (hn : 8 * n ≤ N) (hb : bs.length ≤ 8 * n) :
    byteBits ((List.range n).map m) = bs ++ List.replicate (8 * n - bs.length) false := by
  rw [byteBits_map_range]
  apply List.ext_getElem?
  intro i
  by_cases hi : i < 8 * n
  · rw [List.getElem?_map, List.getElem?_range hi, Option.map_some, hw i (by omega)]
    by_cases hib : i < bs.length
    · rw [List.getElem?_append_left hib, List.getD_eq_getElem _ _ hib, List.getElem?_eq_getElem hib]
    · rw [List.getElem?_append_right (by omega), List.getElem?_replicate, if_pos (by omega),
        List.getD_eq_getElem?_getD, List.getElem?_eq_none (by omega)]
      rfl
  · rw [List.getElem?_eq_none (by simp; omega), List.getElem?_eq_none (by simp; omega)]

end BitString
