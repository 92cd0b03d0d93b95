import Xrdp.Mppc.Connection

/-!
# Memory safety of the compressor, by packet length

`compress_rdp` guards only `0 < len ≤ buf_len`.  A one-byte packet makes `data_end = len - 2` wrap
around, and a packet of 58255 bytes or more can need more than the 65536 bytes of output.

* `compressRdp5_one` — a one-byte packet runs off the buffers from every state.
* `incompressible_overflow` — a long packet without a repeated three-byte string overflows the
  output buffer.
* `compressRdp5_safe_iff` — from every reachable state every packet of a length is safe exactly
  when the length is between 2 and 58254.
-/

namespace Xrdp.Mppc

open BitString Window

/-- The states of an encoder made by `mppc_enc_new(PROTO_RDP_50)` and fed through
`compress_rdp`. -/
inductive Reachable : MppcEnc → Prop where
  | new : Reachable (mppcEncNew .PROTO_RDP_50)
  | step {e e' : MppcEnc} {srcData : List UInt8} {ok : Bool} (h : Reachable e)
      (hs : compressRdp e srcData = .ok (e', ok)) : Reachable e'

/-! ## One byte -/

theorem extendMatch_le {history : Buf UInt8} {hptrEnd : Nat} (fuel : Nat)
    {cptr1 cptr2 lom r : Nat} (h : extendMatch history hptrEnd fuel cptr1 cptr2 lom = .ok r) :
    r ≤ lom + fuel := by
  induction fuel generalizing cptr1 cptr2 lom with
  | zero => cases h
  | succ fuel ih =>
    rw [extendMatch] at h
    split at h
    · obtain ⟨a, -, h⟩ := Run.bind_eq_ok.1 h
      obtain ⟨b, -, h⟩ := Run.bind_eq_ok.1 h
      split at h
      · have := ih h
        omega
      · cases h
        omega
    · cases h
      omega

/-- An iteration starts inside the history and gets no further than its size beyond. -/
theorem loopBody_ctr_le {c : LoopCtx} {s s' : LoopSt} (h : loopBody c s = .ok s') :
    s'.ctr ≤ 2 * c.historyBuffer.size + 4 := by
  unfold loopBody at h
  obtain ⟨crc, hcrc, h⟩ := Run.bind_eq_ok.1 h
  have hs : s.ctr ≤ c.historyBuffer.size := by
    unfold crcAt at hcrc
    obtain ⟨b0, hb0, -⟩ := Run.bind_eq_ok.1 hcrc
    have := (Buf.read_eq_ok hb0).1
    omega
  obtain ⟨entry, -, h⟩ := Run.bind_eq_ok.1 h
  obtain ⟨hash, -, h⟩ := Run.bind_eq_ok.1 h
  obtain ⟨a0, -, h⟩ := Run.bind_eq_ok.1 h
  obtain ⟨b0, -, h⟩ := Run.bind_eq_ok.1 h
  obtain ⟨a1, -, h⟩ := Run.bind_eq_ok.1 h
  obtain ⟨b1, -, h⟩ := Run.bind_eq_ok.1 h
  obtain ⟨a2, -, h⟩ := Run.bind_eq_ok.1 h
  obtain ⟨b2, -, h⟩ := Run.bind_eq_ok.1 h
  split at h
  · obtain ⟨out, -, h⟩ := Run.bind_eq_ok.1 h
    cases h
    simp only
    omega
  · obtain ⟨lom, hlom, h⟩ := Run.bind_eq_ok.1 h
    have := extendMatch_le _ hlom
    obtain ⟨hash', -, h⟩ := Run.bind_eq_ok.1 h
    obtain ⟨out, -, h⟩ := Run.bind_eq_ok.1 h
    obtain ⟨out', -, h⟩ := Run.bind_eq_ok.1 h
    cases h
    simp only
    omega

theorem mainLoop_dataEnd_le {c : LoopCtx} (fuel : Nat) {s s' : LoopSt}
    (h : mainLoop c fuel s = .ok s') (hlt : s.ctr < c.dataEnd) :
    c.dataEnd ≤ 2 * c.historyBuffer.size + 4 := by
  induction fuel generalizing s with
  | zero =>
    rw [mainLoop, if_pos hlt] at h
    cases h
  | succ fuel ih =>
    rw [mainLoop, if_pos hlt] at h
    obtain ⟨s1, h1, h⟩ := Run.bind_eq_ok.1 h
    have := loopBody_ctr_le h1
    by_cases hlt1 : s1.ctr < c.dataEnd
    · exact ih h hlt1
    · omega

/-- **A one-byte packet runs off the buffers**, from every state: `data_end` is `2 ^ 32 - 1`. -/
theorem compressRdp5_one {e : MppcEnc} (h : EncoderInv e) {srcData : List UInt8}
    (h1 : srcData.length = 1) (r : MppcEnc × Bool) : compressRdp5 e srcData ≠ .ok r := by
  intro hok
  unfold compressRdp5 at hok
  obtain ⟨e1, he1, hok⟩ := Run.bind_eq_ok.1 hok
  obtain ⟨e1', he1', hinv, -⟩ := @appendHistory_spec _ h srcData (by omega)
  obtain rfl : e1' = e1 := by simpa [he1] using he1'.symm
  obtain ⟨⟨hash, out⟩, henc, -⟩ := Run.bind_eq_ok.1 hok
  unfold encodePacket at henc
  obtain ⟨s, hs, henc⟩ := Run.bind_eq_ok.1 henc
  obtain ⟨s', hs', -⟩ := Run.bind_eq_ok.1 henc
  have hde : (packetCtx e1' srcData.length).dataEnd = 2 ^ 32 - 1 := by
    simp only [packetCtx, h1]
    omega
  have hctr : s.ctr ≤ 2 := by
    unfold encodeFront at hs
    split at hs
    · obtain ⟨_, -, hs⟩ := Run.bind_eq_ok.1 hs
      obtain ⟨_, -, hs⟩ := Run.bind_eq_ok.1 hs
      obtain ⟨_, -, hs⟩ := Run.bind_eq_ok.1 hs
      obtain ⟨_, -, hs⟩ := Run.bind_eq_ok.1 hs
      obtain ⟨_, -, hs⟩ := Run.bind_eq_ok.1 hs
      obtain ⟨_, -, hs⟩ := Run.bind_eq_ok.1 hs
      obtain ⟨_, -, hs⟩ := Run.bind_eq_ok.1 hs
      obtain ⟨_, -, hs⟩ := Run.bind_eq_ok.1 hs
      cases hs
      simp
    · cases hs
      simp
  have hle := mainLoop_dataEnd_le _ hs' (by omega)
  have hsz : (packetCtx e1' srcData.length).historyBuffer.size = 65536 := hinv.historySize
  omega

theorem Reachable.inv {e : MppcEnc} (h : Reachable e) : EncoderInv e := by
  induction h with
  | new => exact encoderInv_new
  | @step e e' srcData ok _ hs ih =>
    unfold compressRdp at hs
    split at hs
    · cases hs
      exact ih
    · rename_i hlen
      rw [ih.protocol] at hs
      have hbl := ih.bufLen
      by_cases h1 : srcData.length = 1
      · exact absurd hs (compressRdp5_one ih h1 _)
      · rcases @compressRdp5_spec _ ih srcData (by omega) (by omega) with
          ⟨r, hr, hdone, -⟩ | ⟨herr, -⟩
        · obtain rfl : r = (e', ok) := by simpa [hr] using hs
          exact hdone
        · simp [herr] at hs

/-! ## Long packets -/

/-- Three interleaved counters with disjoint ranges of values: no three-byte string occurs twice
in the first 65536 bytes, and every byte takes nine bits. -/
def counterByte (k : Nat) : Nat :=
  if k % 3 = 0 then 0x80 + k / 3 % 64
  else if k % 3 = 1 then 0xC0 + k / 3 / 64 % 32
  else 0xE0 + k / 3 / 2048 % 32

/-- The first `n` of them. -/
def incompressible (n : Nat) : List UInt8 := (List.range n).map fun k => UInt8.ofNat (counterByte k)

theorem counterByte_range (k : Nat) : 128 ≤ counterByte k ∧ counterByte k < 256 := by
  unfold counterByte
  split_ifs <;> omega

theorem counterByte_class (k : Nat) :
    (counterByte k < 0xC0 ↔ k % 3 = 0) ∧ (counterByte k < 0xE0 ↔ k % 3 ≠ 2) := by
  unfold counterByte
  split_ifs <;> constructor <;> omega

theorem counterByte_zero (a : Nat) : counterByte (3 * a) = 0x80 + a % 64 := by
  unfold counterByte
  rw [if_pos (by omega), Nat.mul_div_cancel_left a (by omega)]

theorem counterByte_one (a : Nat) : counterByte (3 * a + 1) = 0xC0 + a / 64 % 32 := by
  unfold counterByte
  rw [if_neg (by omega), if_pos (by omega), show (3 * a + 1) / 3 = a by omega]

theorem counterByte_two (a : Nat) : counterByte (3 * a + 2) = 0xE0 + a / 2048 % 32 := by
  unfold counterByte
  rw [if_neg (by omega), if_neg (by omega), show (3 * a + 2) / 3 = a by omega]

/-- The counters are read off three consecutive bytes, wherever they start. -/
theorem counterByte_inj {i j : Nat} (hi : i < 65536) (hj : j < 65536)
    (h0 : counterByte i = counterByte j) (h1 : counterByte (i + 1) = counterByte (j + 1))
    (h2 : counterByte (i + 2) = counterByte (j + 2)) : i = j := by
  have hr : i % 3 = j % 3 := by
    have ⟨hi0, hi1⟩ := counterByte_class i
    have ⟨hj0, hj1⟩ := counterByte_class j
    rw [h0] at hi0 hi1
    omega
  rcases (by omega : i % 3 = 0 ∨ i % 3 = 1 ∨ i % 3 = 2) with h | h | h
  · obtain ⟨a, rfl⟩ : ∃ a, i = 3 * a := ⟨i / 3, by omega⟩
    obtain ⟨b, rfl⟩ : ∃ b, j = 3 * b := ⟨j / 3, by omega⟩
    rw [counterByte_zero, counterByte_zero] at h0
    rw [counterByte_one, counterByte_one] at h1
    rw [counterByte_two, counterByte_two] at h2
    omega
  · obtain ⟨a, rfl⟩ : ∃ a, i = 3 * a + 1 := ⟨i / 3, by omega⟩
    obtain ⟨b, rfl⟩ : ∃ b, j = 3 * b + 1 := ⟨j / 3, by omega⟩
    rw [counterByte_one, counterByte_one] at h0
    rw [counterByte_two, counterByte_two] at h1
    rw [show 3 * a + 1 + 2 = 3 * (a + 1) by omega, show 3 * b + 1 + 2 = 3 * (b + 1) by omega,
      counterByte_zero, counterByte_zero] at h2
    omega
  · obtain ⟨a, rfl⟩ : ∃ a, i = 3 * a + 2 := ⟨i / 3, by omega⟩
    obtain ⟨b, rfl⟩ : ∃ b, j = 3 * b + 2 := ⟨j / 3, by omega⟩
    rw [counterByte_two, counterByte_two] at h0
    rw [show 3 * a + 2 + 1 = 3 * (a + 1) by omega, show 3 * b + 2 + 1 = 3 * (b + 1) by omega,
      counterByte_zero, counterByte_zero] at h1
    rw [show 3 * a + 2 + 2 = 3 * (a + 1) + 1 by omega,
      show 3 * b + 2 + 2 = 3 * (b + 1) + 1 by omega, counterByte_one, counterByte_one] at h2
    omega

/-- A nine-bit literal that is written lies inside the buffer. -/
theorem insertShort_fits {n v : Nat} {o o' : OutBits} (ho : o.Wf)
    (h : insertShort n v o = .ok o') : o'.pos ≤ 8 * o.outputBuffer.size := by
  obtain ⟨h1, h8⟩ := ho
  unfold insertShort at h
  split at h
  · by_cases hsz : o.opbIndex < o.outputBuffer.size
    · rw [OutBits.put_bind_ok hsz] at h
      cases h
      simp only [OutBits.pos]
      omega
    · rw [OutBits.put_bind_error hsz] at h
      cases h
  · by_cases hsz : o.opbIndex < o.outputBuffer.size
    · rw [OutBits.put_bind_ok hsz] at h
      by_cases hsz1 : o.opbIndex + 1 < o.outputBuffer.size
      · rw [OutBits.put_bind_ok (by exact hsz1)] at h
        cases h
        simp only [OutBits.pos, OutBits.next]
        omega
      · rw [OutBits.put_bind_error (by exact hsz1)] at h
        cases h
    · rw [OutBits.put_bind_error hsz] at h
      cases h

/-- Nine bits for every byte so far, all of them inside the buffer. -/
structure AllLiterals (ctr : Nat) (out : OutBits) : Prop where
  wf : out.Wf
  size : out.outputBuffer.size = 65536
  pos : out.pos = 9 * ctr
  fits : out.pos ≤ 8 * 65536

theorem AllLiterals.literal {ctr : Nat} {out : OutBits} (h : AllLiterals ctr out) {b : UInt8}
    (hb : 128 ≤ b.toNat) : Run.Ends True (insertLiteral b out) (AllLiterals (ctr + 1)) := by
  have hlt : ¬ b < 0x80 := by
    rw [UInt8.lt_iff_toNat_lt]
    simpa using hb
  rcases insertLiteral_emits b out h.wf with ⟨out', hok, ha⟩ | ⟨herr, -⟩
  · left
    refine ⟨out', hok, ha.wf, ha.size.trans h.size, ?_, ?_⟩
    · rw [ha.pos, h.pos, literalBits, if_neg hlt, List.length_append, natBits_length,
        natBits_length]
      omega
    · rw [insertLiteral, if_neg hlt] at hok
      obtain ⟨o1, ho1, hok⟩ := Run.bind_eq_ok.1 hok
      rcases insertShort_emits (n := 2) (v := 2) (by omega) (by omega) (by omega) out h.wf with
        ⟨o2, ho2, ha2⟩ | ⟨herr, -⟩
      · obtain rfl : o2 = o1 := by
          have := ho2.symm.trans ho1
          simpa using this
        have := insertShort_fits ha2.wf hok
        rwa [ha2.size, h.size] at this
      · have := herr.symm.trans ho1
        cases this
  · exact .inr ⟨herr, trivial⟩

/-- **A long incompressible packet overflows the output buffer.** -/
theorem incompressible_overflow {n : Nat} (hn : 58255 ≤ n) (hn' : n ≤ 65536) :
    compressRdp5 (mppcEncNew .PROTO_RDP_50) (incompressible n) = .error .outOfBounds := by
  have hlen : (incompressible n).length = n := by simp [incompressible]
  obtain ⟨e1, hok, h1, hfit, hle, -, -, hsrc, -⟩ :=
    @appendHistory_spec _ encoderInv_new (incompressible n) (by omega)
  have hoff : e1.historyOffset = 0 := Nat.le_zero.1 hle
  rw [hlen] at hfit
  have hcell : ∀ k < n, (e1.historyBuffer.cells k).toNat = counterByte k := by
    intro k hk
    have h := hsrc k (by omega)
    rw [hoff, Nat.zero_add] at h
    rw [← h]
    simp [incompressible, Nat.mod_eq_of_lt (counterByte_range k).2]
  have hI : StepInv (packetCtx e1 (incompressible n).length) (incompressible n).length True
      AllLiterals := by
    rw [hlen]
    refine ⟨fun ctr out h hlt => ?_, fun ctr out cptr2 lom h h2 h3 hl heq => ?_⟩
    · refine h.literal ?_
      simp only [packetCtx, hoff, Nat.zero_add]
      rw [hcell ctr hlt]
      exact (counterByte_range ctr).1
    · -- no three-byte string occurs twice
      exfalso
      simp only [packetCtx, hoff, Nat.zero_add] at h2 heq
      have heq' : ∀ i < 3, counterByte (cptr2 + i) = counterByte (ctr + i) := by
        intro i hi
        rw [← hcell _ (by omega), ← hcell _ (by omega), heq i (by omega)]
      have := counterByte_inj (by omega) (by omega) (heq' 0 (by omega)) (heq' 1 (by omega))
        (heq' 2 (by omega))
      omega
  have h0 : AllLiterals 0 ⟨e1.outputBuffer, 0, 8⟩ :=
    ⟨⟨by simp, by simp⟩, h1.outputSize, rfl, by simp [OutBits.pos]⟩
  unfold compressRdp5
  rw [hok, Run.ok_bind]
  rcases encodePacket_spec (packetCtx_spec h1 (by omega) (by rw [hlen]; exact hfit)) hI h0 h1.hash
    hsrc with ⟨⟨hash, out⟩, -, hall, -⟩ | ⟨herr, -⟩
  · have hp := hall.pos
    have hf := hall.fits
    rw [hlen] at hp
    omega
  · rw [herr]
    rfl

/-! ## Which lengths are safe -/

/-- **Every packet of a length is safe from every reachable state exactly when the length is
between 2 and 58254**, of the lengths `compress_rdp` lets through. -/
theorem compressRdp5_safe_iff {n : Nat} (h0 : 0 < n) (hn : n ≤ RDP_50_HIST_BUF_LEN) :
    (∀ e srcData, Reachable e → srcData.length = n → ∃ r, compressRdp5 e srcData = .ok r) ↔
      2 ≤ n ∧ n ≤ 58254 := by
  have hn' : n ≤ 65536 := hn
  constructor
  · intro h
    constructor
    · by_contra h2
      obtain ⟨r, hr⟩ := h _ [0] .new (by simp only [List.length_singleton]; omega)
      exact compressRdp5_one encoderInv_new rfl r hr
    · by_contra h2
      obtain ⟨r, hr⟩ := h _ (incompressible n) .new (by simp [incompressible])
      rw [incompressible_overflow (by omega) hn'] at hr
      cases hr
  · rintro ⟨h2, hle⟩ e srcData he rfl
    rcases compressRdp5_spec he.inv h2 hn' with ⟨r, hr, -⟩ | ⟨-, hfull⟩
    · exact ⟨r, hr⟩
    · omega

theorem compressRdp5_safe_iff_three :
    (∀ e srcData, Reachable e → srcData.length = 3 → ∃ r, compressRdp5 e srcData = .ok r) ↔
      2 ≤ 3 ∧ 3 ≤ 58254 :=
  compressRdp5_safe_iff (by decide) (by decide)

/-- The fresh encoder and the one-byte packet `00`, which `compress_rdp` lets through. -/
theorem one_zero_byte_unsafe :
    ¬ ∀ e srcData, Reachable e → 0 < srcData.length → srcData.length ≤ e.bufLen →
      ∃ r, compressRdp5 e srcData = .ok r := by
  intro h
  obtain ⟨r, hr⟩ := h _ [0] .new (by decide) (by decide)
  exact compressRdp5_one encoderInv_new rfl r hr

end Xrdp.Mppc
