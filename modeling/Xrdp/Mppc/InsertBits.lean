import Xrdp.Mppc.Encoder
import Xrdp.Mppc.Format

/-!
# The insert macros write bit strings

Each `insert_N_bits` macro, and the literal, offset and length encoders built from them, either
appends a fixed bit string to the output or stops at the end of the output buffer.

* `Emits` — the specification all of them meet; `Emits.bind` composes it.
* `insertLiteral_emits`, `insertCopyOffset_emits`, `insertLom_emits` — the source's three encoders
  write the bits of the stream syntax.
-/

namespace Xrdp.Mppc

open BitString Window

/-- The bit position of the writer. -/
def OutBits.pos (o : OutBits) : Nat := 8 * o.opbIndex + (8 - o.bitsLeft)

/-- The current byte has between one and eight free bits. -/
def OutBits.Wf (o : OutBits) : Prop := 1 ≤ o.bitsLeft ∧ o.bitsLeft ≤ 8

/-- `o'` is `o` with the bits `bs` appended. -/
structure Appended (o o' : OutBits) (bs : List Bool) : Prop where
  wf : o'.Wf
  size : o'.outputBuffer.size = o.outputBuffer.size
  pos : o'.pos = o.pos + bs.length
  inserted : Inserted o.outputBuffer.cells o'.outputBuffer.cells o.pos bs

/-- `f` appends `bs`, or finds no room for it. -/
def Emits (f : OutBits → Run OutBits) (bs : List Bool) : Prop :=
  ∀ o, o.Wf →
    Run.Ends (o.outputBuffer.size ≤ (o.pos + bs.length) / 8) (f o) fun o' => Appended o o' bs

theorem Appended.refl {o : OutBits} (h : o.Wf) : Appended o o [] :=
  ⟨h, rfl, by simp, Inserted.refl _ _⟩

theorem Appended.trans {o o' o'' : OutBits} {bs cs : List Bool} (h : Appended o o' bs)
    (h' : Appended o' o'' cs) : Appended o o'' (bs ++ cs) where
  wf := h'.wf
  size := h'.size.trans h.size
  pos := by rw [h'.pos, h.pos, List.length_append]; omega
  inserted := h.inserted.append (h.pos ▸ h'.inserted)

/-- One encoder after the other. -/
theorem Emits.bind {f g : OutBits → Run OutBits} {bs cs : List Bool} (hf : Emits f bs)
    (hg : Emits g cs) : Emits (fun o => f o >>= g) (bs ++ cs) := by
  intro o ho
  rw [List.length_append]
  refine ((hf o ho).mono (fun h => by omega) fun _ h => h).bind fun o' ha => ?_
  refine (hg o' ha.wf).mono (fun h => ?_) fun o'' ha' => ha.trans ha'
  rw [ha.size, ha.pos] at h
  omega

/-! ## The macros -/

theorem OutBits.put_bind_ok {o : OutBits} {x : Nat} (h : o.opbIndex < o.outputBuffer.size)
    (k : OutBits → Run OutBits) :
    (o.put x >>= k) = k ⟨⟨o.outputBuffer.size, orAt o.outputBuffer.cells o.opbIndex x⟩,
      o.opbIndex, o.bitsLeft⟩ := by
  simp [OutBits.put, Buf.orByte, h, bind, Except.bind, pure, Except.pure]

theorem OutBits.put_bind_error {o : OutBits} {x : Nat} (h : ¬ o.opbIndex < o.outputBuffer.size)
    (k : OutBits → Run OutBits) : (o.put x >>= k) = .error .outOfBounds := by
  simp [OutBits.put, Buf.orByte, h, bind, Except.bind]

/-- A field inside the current byte; the macro ends at byte `i` with `b` bits left. -/
theorem emits_one {f k : OutBits → Run OutBits} {n v i b : Nat} {o : OutBits} (hv : v < 2 ^ n)
    (ho : o.Wf) (hn : n ≤ o.bitsLeft) (hib : 1 ≤ b ∧ b ≤ 8 ∧ 8 * i + (8 - b) = o.pos + n)
    (hf : f o = (o.put (v <<< (o.bitsLeft - n)) >>= k))
    (hk : ∀ buf, k ⟨buf, o.opbIndex, o.bitsLeft⟩ = .ok ⟨buf, i, b⟩) :
    Run.Ends (o.outputBuffer.size ≤ (o.pos + n) / 8) (f o)
      fun o' => Appended o o' (natBits n v) := by
  obtain ⟨h1, h8⟩ := ho
  obtain ⟨hb1, hb8, hpos⟩ := hib
  by_cases hsz : o.opbIndex < o.outputBuffer.size
  · left
    refine ⟨_, (hf.trans (OutBits.put_bind_ok hsz k)).trans (hk _), ⟨hb1, hb8⟩, rfl, ?_, ?_⟩
    · rw [natBits_length]
      exact hpos
    · have hi := Inserted.one o.outputBuffer.cells (a := o.opbIndex) (r := 8 - o.bitsLeft) (.inr hv)
        (by omega)
      rwa [show 8 - (8 - o.bitsLeft) - n = o.bitsLeft - n by omega] at hi
  · right
    refine ⟨by rw [hf, OutBits.put_bind_error hsz], ?_⟩
    simp only [OutBits.pos]
    omega

/-- A field over the current byte and the next. -/
theorem emits_two {f k : OutBits → Run OutBits} {n v i b : Nat} {o : OutBits} (hv : v < 2 ^ n)
    (ho : o.Wf) (hn : o.bitsLeft ≤ n) (hn' : n ≤ o.bitsLeft + 8)
    (hib : 1 ≤ b ∧ b ≤ 8 ∧ 8 * i + (8 - b) = o.pos + n)
    (hf : f o = (o.put (v >>> (n - o.bitsLeft)) >>= fun o' =>
      o'.next.put (v <<< (8 - (n - o.bitsLeft))) >>= k))
    (hk : ∀ buf, k ⟨buf, o.opbIndex + 1, o.bitsLeft⟩ = .ok ⟨buf, i, b⟩) :
    Run.Ends (o.outputBuffer.size ≤ (o.pos + n) / 8) (f o)
      fun o' => Appended o o' (natBits n v) := by
  obtain ⟨h1, h8⟩ := ho
  obtain ⟨hb1, hb8, hpos⟩ := hib
  by_cases hsz : o.opbIndex + 1 < o.outputBuffer.size
  · left
    have hsz0 : o.opbIndex < o.outputBuffer.size := by omega
    rw [OutBits.put_bind_ok hsz0, OutBits.put_bind_ok (by exact hsz)] at hf
    refine ⟨_, hf.trans (hk _), ⟨hb1, hb8⟩, rfl, ?_, ?_⟩
    · rw [natBits_length]
      exact hpos
    · have hi := Inserted.two o.outputBuffer.cells (a := o.opbIndex) (r := 8 - o.bitsLeft) hv
        (by omega) (by omega) (by omega)
      rwa [show 8 - o.bitsLeft + n - 8 = n - o.bitsLeft by omega,
        show 16 - (8 - o.bitsLeft) - n = 8 - (n - o.bitsLeft) by omega] at hi
  · right
    refine ⟨?_, by simp only [OutBits.pos]; omega⟩
    by_cases hsz0 : o.opbIndex < o.outputBuffer.size
    · rw [hf, OutBits.put_bind_ok hsz0, OutBits.put_bind_error (by exact hsz)]
    · rw [hf, OutBits.put_bind_error hsz0]

/-- A field over three bytes. -/
theorem emits_three {f k : OutBits → Run OutBits} {n v i b : Nat} {o : OutBits} (hv : v < 2 ^ n)
    (ho : o.Wf) (hn : o.bitsLeft + 8 ≤ n) (hn' : n ≤ o.bitsLeft + 16)
    (hib : 1 ≤ b ∧ b ≤ 8 ∧ 8 * i + (8 - b) = o.pos + n)
    (hf : f o = (o.put (v >>> (n - o.bitsLeft)) >>= fun o' =>
      o'.next.put (v >>> (n - o.bitsLeft - 8)) >>= fun o' =>
      o'.next.put (v <<< (8 - (n - o.bitsLeft - 8))) >>= k))
    (hk : ∀ buf, k ⟨buf, o.opbIndex + 2, o.bitsLeft⟩ = .ok ⟨buf, i, b⟩) :
    Run.Ends (o.outputBuffer.size ≤ (o.pos + n) / 8) (f o)
      fun o' => Appended o o' (natBits n v) := by
  obtain ⟨h1, h8⟩ := ho
  obtain ⟨hb1, hb8, hpos⟩ := hib
  by_cases hsz : o.opbIndex + 2 < o.outputBuffer.size
  · left
    have hsz0 : o.opbIndex < o.outputBuffer.size := by omega
    have hsz1 : o.opbIndex + 1 < o.outputBuffer.size := by omega
    rw [OutBits.put_bind_ok hsz0, OutBits.put_bind_ok (by exact hsz1),
      OutBits.put_bind_ok (by exact hsz)] at hf
    refine ⟨_, hf.trans (hk _), ⟨hb1, hb8⟩, rfl, ?_, ?_⟩
    · rw [natBits_length]
      exact hpos
    · have hi := Inserted.three o.outputBuffer.cells (a := o.opbIndex) (r := 8 - o.bitsLeft) hv
        (by omega) (by omega) (by omega)
      rwa [show 8 - o.bitsLeft + n - 8 = n - o.bitsLeft by omega,
        show 8 - o.bitsLeft + n - 16 = n - o.bitsLeft - 8 by omega,
        show 24 - (8 - o.bitsLeft) - n = 8 - (n - o.bitsLeft - 8) by omega] at hi
  · right
    refine ⟨?_, by simp only [OutBits.pos]; omega⟩
    by_cases hsz0 : o.opbIndex < o.outputBuffer.size
    · by_cases hsz1 : o.opbIndex + 1 < o.outputBuffer.size
      · rw [hf, OutBits.put_bind_ok hsz0, OutBits.put_bind_ok (by exact hsz1),
          OutBits.put_bind_error (by exact hsz)]
      · rw [hf, OutBits.put_bind_ok hsz0, OutBits.put_bind_error (by exact hsz1)]
    · rw [hf, OutBits.put_bind_error hsz0]

theorem insertShort_emits {n v : Nat} (hn : 1 ≤ n) (hn' : n ≤ 7) (hv : v < 2 ^ n) :
    Emits (insertShort n v) (natBits n v) := by
  intro o ho
  have ⟨h1, h8⟩ := ho
  rw [natBits_length]
  by_cases hb : n + 1 ≤ o.bitsLeft ∧ o.bitsLeft ≤ 8
  · refine emits_one hv ho (by omega) (i := o.opbIndex) (b := o.bitsLeft - n)
      ⟨by omega, by omega, by simp only [OutBits.pos]; omega⟩ (if_pos hb) ?_
    intro buf
    rfl
  · refine emits_two hv ho (by omega) (by omega) (i := o.opbIndex + 1) (b := 8 - (n - o.bitsLeft))
      ⟨by omega, by omega, by simp only [OutBits.pos]; omega⟩ (if_neg hb) ?_
    intro buf
    rfl

theorem insert8Bits_emits {v : Nat} (hv : v < 2 ^ 8) : Emits (insert8Bits v) (natBits 8 v) := by
  intro o ho
  have ⟨h1, h8⟩ := ho
  rw [natBits_length]
  by_cases hb : o.bitsLeft = 8
  · have hz : v <<< (o.bitsLeft - 8) = v := by rw [hb, Nat.sub_self, Nat.shiftLeft_zero]
    refine emits_one hv ho (by omega) (i := o.opbIndex + 1) (b := 8)
      ⟨by omega, by omega, by simp only [OutBits.pos]; omega⟩
      (by rw [hz]; exact if_pos hb) ?_
    intro buf
    rfl
  · refine emits_two hv ho (by omega) (by omega) (i := o.opbIndex + 1) (b := 8 - (8 - o.bitsLeft))
      ⟨by omega, by omega, by simp only [OutBits.pos]; omega⟩ (if_neg hb) ?_
    intro buf
    rfl

theorem insert9Bits_emits {v : Nat} (hv : v < 2 ^ 9) : Emits (insert9Bits v) (natBits 9 v) := by
  intro o ho
  have ⟨h1, h8⟩ := ho
  rw [natBits_length]
  by_cases hj : 8 - (9 - o.bitsLeft) = 0
  · refine emits_two hv ho (by omega) (by omega) (i := o.opbIndex + 2) (b := 8)
      ⟨by omega, by omega, by simp only [OutBits.pos]; omega⟩ rfl ?_
    intro buf
    simp only [hj, if_true]
    rfl
  · refine emits_two hv ho (by omega) (by omega) (i := o.opbIndex + 1) (b := 8 - (9 - o.bitsLeft))
      ⟨by omega, by omega, by simp only [OutBits.pos]; omega⟩ rfl ?_
    intro buf
    simp only [hj, if_false]
    rfl

theorem insertLong_emits {n v : Nat} (hn : 10 ≤ n) (hn' : n ≤ 15) (hv : v < 2 ^ n) :
    Emits (insertLong n v) (natBits n v) := by
  intro o ho
  have ⟨h1, h8⟩ := ho
  rw [natBits_length]
  by_cases hb : n - 7 ≤ o.bitsLeft ∧ o.bitsLeft ≤ 8
  · refine emits_two hv ho (by omega) (by omega) (i := o.opbIndex + 1) (b := 8 - (n - o.bitsLeft))
      ⟨by omega, by omega, by simp only [OutBits.pos]; omega⟩ (if_pos hb) ?_
    intro buf
    rfl
  · refine emits_three hv ho (by omega) (by omega) (i := o.opbIndex + 2)
      (b := 8 - (n - o.bitsLeft - 8))
      ⟨by omega, by omega, by simp only [OutBits.pos]; omega⟩ (if_neg hb) ?_
    intro buf
    rfl

theorem insert16Bits_emits {v : Nat} (hv : v < 2 ^ 16) :
    Emits (insert16Bits v) (natBits 16 v) := by
  intro o ho
  have ⟨h1, h8⟩ := ho
  rw [natBits_length]
  refine emits_three hv ho (by omega) (by omega) (i := o.opbIndex + 2)
    (b := 8 - (16 - o.bitsLeft - 8))
    ⟨by omega, by omega, by simp only [OutBits.pos]; omega⟩ rfl ?_
  intro buf
  rfl

/-! ## Literals, copy offsets, lengths of match -/

theorem insertLiteral_emits (b : UInt8) : Emits (insertLiteral b) (literalBits b) := by
  unfold insertLiteral literalBits
  split
  · exact insert8Bits_emits b.toNat_lt
  · have h7 : (b &&& 0x7f).toNat = b.toNat % 128 := by
      rw [UInt8.toNat_and]
      exact Nat.and_two_pow_sub_one_eq_mod b.toNat 7
    rw [h7]
    exact (insertShort_emits (by omega) (by omega) (by omega)).bind
      (insertShort_emits (by omega) (by omega) (Nat.mod_lt _ (by omega)))

theorem insertCopyOffset_emits {offset : Nat} (h : offset < 65536) :
    Emits (insertCopyOffset offset) (offsetBits offset) := by
  unfold insertCopyOffset offsetBits
  by_cases h1 : offset ≤ 63
  · have h6 : offset &&& 0x3f = offset := by
      rw [Nat.and_two_pow_sub_one_eq_mod offset 6]
      exact Nat.mod_eq_of_lt (by omega)
    simp only [if_pos h1, if_pos (by omega : offset < 64), h6]
    exact (insertShort_emits (by omega) (by omega) (by omega)).bind
      (insertShort_emits (by omega) (by omega) (by omega))
  simp only [if_neg h1, if_neg (by omega : ¬ offset < 64)]
  by_cases h2 : 64 ≤ offset ∧ offset ≤ 319
  · have h8 : (offset - 64) % 2 ^ 8 = offset - 64 := Nat.mod_eq_of_lt (by omega)
    simp only [if_pos h2, if_pos (by omega : offset < 320), h8]
    exact (insertShort_emits (by omega) (by omega) (by omega)).bind (insert8Bits_emits (by omega))
  simp only [if_neg h2, if_neg (by omega : ¬ offset < 320)]
  by_cases h3 : 320 ≤ offset ∧ offset ≤ 2367
  · have h11 : (offset - 320) % 2 ^ 16 = offset - 320 := Nat.mod_eq_of_lt (by omega)
    simp only [if_pos h3, if_pos (by omega : offset < 2368), h11]
    exact (insertShort_emits (by omega) (by omega) (by omega)).bind
      (insertLong_emits (by omega) (by omega) (by omega))
  · have h16 : (offset - 2368) % 2 ^ 16 = offset - 2368 := Nat.mod_eq_of_lt (by omega)
    simp only [if_neg h3, if_neg (by omega : ¬ offset < 2368), h16]
    exact (insertShort_emits (by omega) (by omega) (by omega)).bind (insert16Bits_emits (by omega))

/-- A branch of the source whose conditions do not look at the output. -/
theorem emits_ite {c : Prop} [Decidable c] {f g : OutBits → Run OutBits} {bs : List Bool}
    (hf : c → Emits f bs) (hg : ¬ c → Emits g bs) :
    Emits (fun o => if c then f o else g o) bs := by
  by_cases hc : c
  · simpa only [if_pos hc] using hf hc
  · simpa only [if_neg hc] using hg hc

theorem lomClass_eq {n lom : Nat} (hn : 2 ≤ n) (h : 2 ^ n ≤ lom) (h' : lom < 2 ^ (n + 1)) :
    lomClass lom = n - 1 := by
  have h4 : 2 ^ 2 ≤ lom := le_trans (Nat.pow_le_pow_right (by omega) hn) h
  have h0 : lom ≠ 0 := by omega
  have hlo : n ≤ lom.log2 := (Nat.le_log2 h0).2 h
  have hhi : lom.log2 < n + 1 := (Nat.log2_lt h0).2 h'
  rw [lomClass, if_neg (by omega)]
  omega

theorem natBits_two_pow_sub_two (n : Nat) :
    natBits (n + 1) (2 ^ (n + 1) - 2) = List.replicate n true ++ [false] := by
  have hx : 1 < 2 ^ (n + 1) := Nat.one_lt_two_pow (by omega)
  apply List.ext_getElem?
  intro i
  by_cases hi : i < n + 1
  · rw [natBits_getElem? _ _ _ hi, Nat.testBit_two_pow_sub_succ hx]
    by_cases hin : i < n
    · rw [List.getElem?_append_left (by simpa using hin), List.getElem?_replicate, if_pos hin]
      have h1 : Nat.testBit 1 (n - i) = false :=
        Nat.testBit_lt_two_pow (Nat.one_lt_two_pow (by omega))
      simp [h1]
    · have hin' : i = n := by omega
      subst hin'
      simp
  · rw [List.getElem?_eq_none (by simp; omega), List.getElem?_eq_none (by simp; omega)]

/-- A length of match as the source writes it: the header `2 ^ n - 2` and the rest above `2 ^ n`. -/
theorem lomBits_eq {n lom : Nat} (hn : 2 ≤ n) (h : 2 ^ n ≤ lom) (h' : lom < 2 ^ (n + 1)) :
    lomBits lom = natBits n (2 ^ n - 2) ++ natBits n (lom - 2 ^ n) := by
  obtain ⟨k, rfl⟩ : ∃ k, n = k + 2 := ⟨n - 2, by omega⟩
  rw [lomBits, lomClass_eq hn h h', lomClassBits, if_neg (by omega), natBits_two_pow_sub_two,
    List.append_assoc]
  rfl

/-- One class of `insertLom`: `ins` writes its header and the rest, which it takes from a `w` bit
variable. -/
theorem emits_lomClass {n w lom : Nat} {ins : Nat → OutBits → Run OutBits} (hn : 2 ≤ n ∧ n ≤ w)
    (h : 2 ^ n ≤ lom ∧ lom ≤ 2 ^ (n + 1) - 1)
    (hins : ∀ v < 2 ^ n, Emits (ins v) (natBits n v)) :
    Emits (fun o => ins (2 ^ n - 2) o >>= ins ((lom - 2 ^ n) % 2 ^ w)) (lomBits lom) := by
  have hp := Nat.pow_succ 2 n
  have h1 := Nat.one_le_two_pow (n := n)
  have hlt : lom - 2 ^ n < 2 ^ n := by omega
  rw [Nat.mod_eq_of_lt (hlt.trans_le (Nat.pow_le_pow_right (by omega) hn.2)),
    lomBits_eq hn.1 h.1 (by omega)]
  exact (hins _ (by omega)).bind (hins _ hlt)

/-- The single zero bit of the length three: the buffer is zero filled, so nothing is written. -/
theorem insertLom_three_emits : Emits (insertLom 3) [false] := by
  intro o ho
  left
  obtain ⟨h1, h8⟩ := ho
  have hi : Inserted o.outputBuffer.cells o.outputBuffer.cells o.pos [false] := by
    intro p
    cases p - o.pos <;> simp
  by_cases hb : o.bitsLeft - 1 = 0
  · refine ⟨⟨o.outputBuffer, o.opbIndex + 1, 8⟩, ?_, ⟨by simp, by simp⟩, rfl, ?_, hi⟩
    · rw [insertLom, if_pos rfl, if_pos hb]
      rfl
    · simp only [OutBits.pos, List.length_singleton]
      omega
  · refine ⟨⟨o.outputBuffer, o.opbIndex, o.bitsLeft - 1⟩, ?_, ⟨?_, ?_⟩, rfl, ?_, hi⟩
    · rw [insertLom, if_pos rfl, if_neg hb]
      rfl
    · simp only; omega
    · simp only; omega
    · simp only [OutBits.pos, List.length_singleton]
      omega

theorem insertLom_emits {lom : Nat} (h3 : 3 ≤ lom) (h : lom < 65536) :
    Emits (insertLom lom) (lomBits lom) := by
  by_cases heq : lom = 3
  · subst heq
    exact insertLom_three_emits
  unfold insertLom
  refine emits_ite (fun h => absurd h heq) fun _ => ?_
  refine emits_ite (fun h => emits_lomClass (n := 2) (by omega) h
    fun _ => insertShort_emits (by omega) (by omega)) fun h2 => ?_
  refine emits_ite (fun h => emits_lomClass (n := 3) (by omega) h
    fun _ => insertShort_emits (by omega) (by omega)) fun h3 => ?_
  refine emits_ite (fun h => emits_lomClass (n := 4) (by omega) h
    fun _ => insertShort_emits (by omega) (by omega)) fun h4 => ?_
  refine emits_ite (fun h => emits_lomClass (n := 5) (by omega) h
    fun _ => insertShort_emits (by omega) (by omega)) fun h5 => ?_
  refine emits_ite (fun h => emits_lomClass (n := 6) (by omega) h
    fun _ => insertShort_emits (by omega) (by omega)) fun h6 => ?_
  refine emits_ite (fun h => emits_lomClass (n := 7) (by omega) h
    fun _ => insertShort_emits (by omega) (by omega)) fun h7 => ?_
  refine emits_ite (fun h => emits_lomClass (n := 8) (by omega) h
    fun _ => insert8Bits_emits) fun h8 => ?_
  refine emits_ite (fun h => emits_lomClass (n := 9) (by omega) h
    fun _ => insert9Bits_emits) fun h9 => ?_
  refine emits_ite (fun h => emits_lomClass (n := 10) (by omega) h
    fun _ => insertLong_emits (by omega) (by omega)) fun h10 => ?_
  refine emits_ite (fun h => emits_lomClass (n := 11) (by omega) h
    fun _ => insertLong_emits (by omega) (by omega)) fun h11 => ?_
  refine emits_ite (fun h => emits_lomClass (n := 12) (by omega) h
    fun _ => insertLong_emits (by omega) (by omega)) fun h12 => ?_
  refine emits_ite (fun h => emits_lomClass (n := 13) (by omega) h
    fun _ => insertLong_emits (by omega) (by omega)) fun h13 => ?_
  refine emits_ite (fun h => emits_lomClass (n := 14) (by omega) h
    fun _ => insertLong_emits (by omega) (by omega)) fun h14 => ?_
  refine emits_ite (fun h => emits_lomClass (n := 15) (by omega) h
    fun _ => insertLong_emits (by omega) (by omega)) fun h15 => ?_
  exfalso
  omega

end Xrdp.Mppc
