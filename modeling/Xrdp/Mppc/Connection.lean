import Xrdp.Mppc.MainLoop

/-!
# MPPC over a connection

What one call of `compress_rdp_5` does to the pair of the encoder and a standard decoder, and from
it what every sequence of packets does.

* `EncoderInv` — the encoder's own invariant; `InStep` — the decoder's history follows it.
* `compressRdp5_spec` — one packet of at least two bytes: the encoder gives up and asks for a
  flush, or the decoder reproduces the packet and stays in step.
* `mppc_round_trip` — every packet of a connection is reproduced, at every prefix of it.
-/

namespace Xrdp.Mppc

open BitString Window

/-! ## The invariants -/

/-- The encoder's invariant between packets. -/
structure EncoderInv (e : MppcEnc) : Prop where
  protocol : e.protocolType = .PROTO_RDP_50
  bufLen : e.bufLen = 65536
  historySize : e.historyBuffer.size = 65536
  outputSize : e.outputBuffer.size = 65536
  hash : HashBelow e.hashTable (max 1 e.historyOffset)
  offset_le : e.historyOffset ≤ 65536
  hold : e.flagsHold = 0 ∨ (e.flagsHold = 0x40 ∨ e.flagsHold = 0xC0) ∧ e.historyOffset = 0

/-- The decoder holds the encoder's history, unless a reset is going to be announced. -/
def InStep (e : MppcEnc) (d : Decoder) : Prop :=
  e.flagsHold = 0 → Agree e.historyBuffer.cells (d.history, d.offset) e.historyOffset

/-- `outputBuffer[0..bytes_in_opb)`. -/
def MppcEnc.sent (e : MppcEnc) : List UInt8 :=
  (List.range e.bytesInOpb).map e.outputBuffer.cells

theorem encoderInv_new : EncoderInv (mppcEncNew .PROTO_RDP_50) where
  protocol := rfl
  bufLen := rfl
  historySize := rfl
  outputSize := rfl
  hash := .zero rfl (fun _ _ => rfl) (by simp)
  offset_le := by simp [mppcEncNew]
  hold := .inr ⟨.inl rfl, rfl⟩

theorem inStep_new (d : Decoder) : InStep (mppcEncNew .PROTO_RDP_50) d := by
  intro h
  cases h

/-- Whatever is held back, the decoder is in step once it has seen the flags. -/
theorem applyFlags_agree {e : MppcEnc} {d : Decoder} (h : EncoderInv e) (hs : InStep e d) :
    Agree e.historyBuffer.cells
      ((d.applyFlags (PACKET_COMPR_TYPE_64K ||| PACKET_COMPRESSED ||| e.flagsHold)).history,
        (d.applyFlags (PACKET_COMPR_TYPE_64K ||| PACKET_COMPRESSED ||| e.flagsHold)).offset)
      e.historyOffset := by
  rcases h.hold with h0 | ⟨h40 | hC0, hoff⟩
  · rw [h0]
    exact hs h0
  · rw [h40, hoff]
    exact ⟨rfl, fun j hj => absurd hj (by omega)⟩
  · rw [hC0, hoff]
    exact ⟨rfl, fun j hj => absurd hj (by omega)⟩

theorem compressed_flag {e : MppcEnc} (h : EncoderInv e) :
    (PACKET_COMPR_TYPE_64K ||| PACKET_COMPRESSED ||| e.flagsHold) &&& PACKET_COMPRESSED_FLAG ≠ 0 := by
  rcases h.hold with h0 | ⟨h40 | hC0, -⟩
  · rw [h0]; decide
  · rw [h40]; decide
  · rw [hC0]; decide

/-! ## The steps of one packet -/

theorem hold_reset {e : MppcEnc} (h : EncoderInv e) :
    e.flagsHold ||| (PACKET_AT_FRONT ||| PACKET_FLUSHED) = 0xC0 := by
  rcases h.hold with h0 | ⟨h40 | hC0, -⟩
  · rw [h0]; rfl
  · rw [h40]; rfl
  · rw [hC0]; rfl

/-- After the rewind the packet fits, and the decoder is as much in step as before. -/
theorem rewind_spec {e : MppcEnc} (h : EncoderInv e) {len : Nat} (hlen : len ≤ 65536) :
    ∃ e', rewind e len = .ok e' ∧ EncoderInv e' ∧ e'.historyOffset + len ≤ 65536 ∧
      e'.historyOffset ≤ e.historyOffset ∧ e'.outputBuffer = e.outputBuffer ∧
      e'.flags = e.flags ∧ ∀ d, InStep e d → InStep e' d := by
  have hbl := h.bufLen
  unfold rewind
  split
  · rw [Buf.memset0_ok (by rw [h.hash.size, hbl]), Run.ok_bind,
      Buf.memset0_ok (by rw [h.historySize, hbl])]
    refine ⟨_, rfl, ⟨h.protocol, hbl, h.historySize, h.outputSize, ?_, by simp,
      .inr ⟨.inr (hold_reset h), rfl⟩⟩, by simpa using hlen, by simp, rfl, rfl, ?_⟩
    · exact .zero h.hash.size (fun i hi => by simp only [hbl, if_pos hi]) (by simp)
    · intro d _ h0
      rw [show _ = 0xC0 from hold_reset h] at h0
      cases h0
  · rename_i hr
    exact ⟨e, rfl, h, by omega, le_rfl, rfl, rfl, fun d hd => hd⟩

/-- `appendHistory` leaves the packet behind the old history. -/
theorem appendHistory_spec {e : MppcEnc} (h : EncoderInv e) {srcData : List UInt8}
    (hlen : srcData.length ≤ 65536) :
    ∃ e', appendHistory e srcData = .ok e' ∧ EncoderInv e' ∧
      e'.historyOffset + srcData.length ≤ 65536 ∧ e'.historyOffset ≤ e.historyOffset ∧
      e'.flags = PACKET_COMPR_TYPE_64K ∧
      (∀ i < srcData.length, e'.outputBuffer.cells i = 0) ∧
      (∀ i, (hi : i < srcData.length) →
        srcData[i] = e'.historyBuffer.cells (e'.historyOffset + i)) ∧
      ∀ d, InStep e d → InStep e' d := by
  unfold appendHistory
  rw [Buf.memset0_ok (by rw [h.outputSize]; exact hlen), Run.ok_bind]
  obtain ⟨e1, hr, h1, hfit, hle, ho1, hf1, hstep1⟩ := rewind_spec (e := { e with
    outputBuffer := { e.outputBuffer with
      cells := fun j => if j < srcData.length then 0 else e.outputBuffer.cells j }
    flags := PACKET_COMPR_TYPE_64K }) { h with outputSize := h.outputSize } hlen
  rw [hr, Run.ok_bind, Buf.memcpy_ok (by rw [h1.historySize]; exact hfit)]
  refine ⟨_, rfl, { h1 with historySize := h1.historySize }, hfit, hle, hf1, ?_, ?_, ?_⟩
  · intro i hi
    simp only [ho1, if_pos hi]
  · intro i hi
    simp [List.getElem?_eq_getElem hi]
  · intro d hd h0
    refine (hstep1 d hd h0).congr fun j hj => ?_
    simp only [if_neg (by omega : ¬ e1.historyOffset ≤ j)]

theorem packetCtx_spec {e : MppcEnc} (h : EncoderInv e) {len : Nat} (h2 : 2 ≤ len)
    (hfit : e.historyOffset + len ≤ 65536) : PacketCtx (packetCtx e len) len :=
  ⟨h2, h.historySize, hfit, rfl, rfl, by simp only [packetCtx]; omega⟩

/-- The bytes of an encoded packet decode to it. -/
theorem decode_encoded {c : LoopCtx} {out0 out : OutBits} {ts : List (Token UInt8)}
    {srcData : List UInt8} (h : Encoded c out0 srcData.length out ts)
    (h0 : ∀ i < srcData.length, out0.outputBuffer.cells i = 0) (hp0 : out0.pos = 0)
    (hsrc : ∀ i, (hi : i < srcData.length) →
      srcData[i] = c.historyBuffer.cells (c.historyPointer + i))
    {n : Nat} (hn : out.pos ≤ 8 * n ∧ 8 * n < out.pos + 8) (hnl : n ≤ srcData.length)
    {d : Decoder} {flags : Nat} (hflags : flags &&& PACKET_COMPRESSED_FLAG ≠ 0)
    (hd : Agree c.historyBuffer.cells ((d.applyFlags flags).history, (d.applyFlags flags).offset)
      c.historyPointer) :
    ∃ d', d.decode flags ((List.range n).map out.outputBuffer.cells) = some (d', srcData) ∧
      Agree c.historyBuffer.cells (d'.history, d'.offset) (c.historyPointer + srcData.length) := by
  have hpos : out.pos = (tokensBits ts).length := by rw [h.appended.pos, hp0, Nat.zero_add]
  have hins := h.appended.inserted
  rw [hp0] at hins
  have hwr : Written out.outputBuffer.cells (8 * srcData.length) (tokensBits ts) :=
    (Written.nil h0).insert hins
  have hbytes := byteBits_range hwr (n := n) (by omega) (by omega)
  have hlen := length_le_tokensBits h.valid
  have hts : decodeTokens (byteBits ((List.range n).map out.outputBuffer.cells)).length
      (byteBits ((List.range n).map out.outputBuffer.cells)) = some ts := by
    rw [hbytes]
    refine decodeTokens_tokensBits h.valid (by simp; omega) ?_
    rw [List.length_append]
    omega
  obtain ⟨w', hrun, hw', hagree⟩ := h.window _ hd
  refine ⟨⟨w'.1, w'.2⟩, ?_, hw', hagree⟩
  have hout : (List.range (w'.2 - (d.applyFlags flags).offset)).map
      (fun i => w'.1 ((d.applyFlags flags).offset + i)) = srcData := by
    have hoff : (d.applyFlags flags).offset = c.historyPointer := hd.1
    rw [hoff, hw', show c.historyPointer + srcData.length - c.historyPointer = srcData.length by
      omega]
    apply List.ext_getElem
    · simp
    · intro i hi hi'
      rw [List.getElem_map, List.getElem_range, hagree _ (by omega), hsrc i hi']
  simp only [Decoder.decode, if_neg hflags, hts]
  simp [hrun, hout]

/-! ## One packet -/

/-- What one call leaves behind: the encoder gave up and holds a flush back, or the decoder
reproduces the packet. -/
def PacketDone (e : MppcEnc) (srcData : List UInt8) (r : MppcEnc × Bool) : Prop :=
  EncoderInv r.1 ∧ (r.2 = false → r.1.flagsHold ≠ 0) ∧
    (r.2 = true → ∀ d, InStep e d →
      ∃ d', d.decode r.1.flags r.1.sent = some (d', srcData) ∧ InStep r.1 d')

/-- **One packet**, from any state of the invariant. -/
theorem compressRdp5_spec {e : MppcEnc} (h : EncoderInv e) {srcData : List UInt8}
    (h2 : 2 ≤ srcData.length) (hlen : srcData.length ≤ 65536) :
    Run.Ends (65536 ≤ 9 * srcData.length / 8) (compressRdp5 e srcData)
      (PacketDone e srcData) := by
  obtain ⟨e1, hok, h1, hfit, -, hflags, hzero, hsrc, hstep⟩ := appendHistory_spec h hlen
  have hc := packetCtx_spec h1 h2 hfit
  have hwf : OutBits.Wf ⟨e1.outputBuffer, 0, 8⟩ := ⟨by simp, by simp⟩
  unfold compressRdp5
  rw [hok, Run.ok_bind]
  refine ((encodePacket_spec hc (stepInv_encoded hc) ⟨[], Encoded.nil hwf⟩ h1.hash hsrc).mono
    (fun hfull => ?_) fun _ h => h).bind fun (hash, out) ⟨⟨ts, henc⟩, hhash⟩ => ?_
  · have hos : e1.outputBuffer.size = 65536 := h1.outputSize
    simp only [Full, OutBits.pos, hos] at hfull
    omega
  have hsize : out.outputBuffer.size = 65536 := henc.appended.size.trans h1.outputSize
  obtain ⟨n, hn, hpos⟩ : ∃ n, (if out.bitsLeft ≠ 8 then out.opbIndex + 1 else out.opbIndex) = n ∧
      out.pos ≤ 8 * n ∧ 8 * n < out.pos + 8 := by
    obtain ⟨hw1, hw8⟩ := henc.appended.wf
    refine ⟨_, rfl, ?_⟩
    unfold OutBits.pos
    split <;> omega
  simp only [finishPacket, hn]
  split
  · -- "compressed data longer than uncompressed data"
    rw [Buf.memset0_ok (by rw [hhash.size, h1.bufLen]), Run.ok_bind,
      Buf.memset0_ok (by rw [h1.bufLen]; exact h1.historySize.ge), Run.ok_bind]
    refine .ok (P := PacketDone e srcData) ⟨⟨h1.protocol, h1.bufLen, h1.historySize, hsize, ?_,
      by simp, .inr ⟨.inr (hold_reset h1), rfl⟩⟩, fun _ h0 => ?_, by simp⟩
    · exact .zero hhash.size (fun i hi => by simp only [h1.bufLen, if_pos hi]) (by simp)
    · rw [show _ = 0xC0 from hold_reset h1] at h0
      cases h0
  · rename_i hle
    refine .ok (P := PacketDone e srcData) ⟨⟨h1.protocol, h1.bufLen, h1.historySize, hsize, ?_,
      hfit, .inl rfl⟩, by simp, fun _ d hd => ?_⟩
    · exact hhash.mono (by simp only; omega)
    · obtain ⟨d', hdec, hd'⟩ := decode_encoded henc hzero rfl hsrc hpos (by omega)
        (compressed_flag h1) (applyFlags_agree h1 (hstep d hd))
      refine ⟨d', ?_, fun _ => hd'⟩
      simp only [hflags, MppcEnc.sent]
      exact hdec

/-- **A compressed packet is no longer than the packet**, and its flags are a byte that says so. -/
theorem compressRdp5_compressed {e e' : MppcEnc} (h : EncoderInv e) {srcData : List UInt8}
    (hlen : srcData.length ≤ 65536) (hok : compressRdp5 e srcData = .ok (e', true)) :
    e'.flags < 256 ∧ e'.flags &&& PACKET_COMPRESSED_FLAG ≠ 0 ∧
      e'.bytesInOpb ≤ srcData.length := by
  obtain ⟨e1, happ, h1, -, -, hflags, -⟩ := appendHistory_spec h hlen
  rw [compressRdp5, happ, Run.ok_bind] at hok
  obtain ⟨⟨hash, out⟩, -, hfin⟩ := Run.bind_eq_ok.1 hok
  simp only [finishPacket] at hfin
  generalize (if out.bitsLeft ≠ 8 then out.opbIndex + 1 else out.opbIndex) = opbIndex at hfin
  split at hfin
  · -- given up
    obtain ⟨_, -, hfin⟩ := Run.bind_eq_ok.1 hfin
    obtain ⟨_, -, hfin⟩ := Run.bind_eq_ok.1 hfin
    cases hfin
  · rename_i hle
    cases hfin
    refine ⟨?_, ?_, Nat.le_of_not_lt hle⟩
    · simp only [hflags]
      rcases h1.hold with h0 | ⟨h40 | hC0, -⟩
      · rw [h0]; decide
      · rw [h40]; decide
      · rw [hC0]; decide
    · simp only [hflags]
      exact compressed_flag h1

/-! ## A connection -/

/-- The packets of a connection through `compress_rdp_5`: flags and data of each compressed
packet, `none` for one that is sent uncompressed. -/
def compressAll : MppcEnc → List (List UInt8) → Run (List (Option (Nat × List UInt8)))
  | _, [] => .ok []
  | e, p :: ps => do
    let (e', ok) ← compressRdp5 e p
    let rest ← compressAll e' ps
    return (if ok then some (e'.flags, e'.sent) else none) :: rest

/-- The client's side: uncompressed packets do not reach the decoder. -/
def decodeAll : Decoder → List (Option (Nat × List UInt8)) → Option (List (Option (List UInt8)))
  | _, [] => some []
  | d, none :: ss => (decodeAll d ss).map (none :: ·)
  | d, some (flags, data) :: ss =>
    (d.decode flags data).bind fun (d', out) => (decodeAll d' ss).map (some out :: ·)

/-- What the client should have for each packet: itself, unless it was sent uncompressed. -/
def expected (packets : List (List UInt8)) (sent : List (Option (Nat × List UInt8))) :
    List (Option (List UInt8)) :=
  List.zipWith (fun p s => s.map fun _ => p) packets sent

theorem compressAll_decodeAll (packets : List (List UInt8)) {e : MppcEnc} {d : Decoder}
    (h : EncoderInv e) (hd : InStep e d)
    (hp : ∀ p ∈ packets, 2 ≤ p.length ∧ p.length ≤ 58254) :
    ∃ sent, compressAll e packets = .ok sent ∧ sent.length = packets.length ∧
      ∀ k, compressAll e (packets.take k) = .ok (sent.take k) ∧
        decodeAll d (sent.take k) = some (expected (packets.take k) (sent.take k)) := by
  induction packets generalizing e d with
  | nil => exact ⟨[], rfl, rfl, fun k => by simp [compressAll, decodeAll, expected]⟩
  | cons p ps ih =>
    obtain ⟨⟨h2, hl⟩, hps⟩ := List.forall_mem_cons.1 hp
    rcases compressRdp5_spec h h2 (by omega) with ⟨⟨e', ok⟩, hok, h', hno, hyes⟩ | ⟨-, hfull⟩
    · -- the decoder after this packet
      have hnext : ∃ d', InStep e' d' ∧ ∀ ss out, decodeAll d' ss = some out →
          decodeAll d ((if ok then some (e'.flags, e'.sent) else none) :: ss) =
            some ((if ok then some p else none) :: out) := by
        cases ok with
        | false =>
          refine ⟨d, fun h0 => absurd h0 (hno rfl), fun ss out hss => ?_⟩
          simp [decodeAll, hss]
        | true =>
          obtain ⟨d', hdec, hd'⟩ := hyes rfl d hd
          refine ⟨d', hd', fun ss out hss => ?_⟩
          simp [decodeAll, hdec, hss]
      obtain ⟨d', hd', hdec⟩ := hnext
      obtain ⟨sent, hall, hlen, hk⟩ := ih h' hd' hps
      refine ⟨(if ok then some (e'.flags, e'.sent) else none) :: sent, ?_, by simp [hlen], ?_⟩
      · simp [compressAll, hok, hall]
      · intro k
        cases k with
        | zero => simp [compressAll, decodeAll, expected]
        | succ k =>
          obtain ⟨hkc, hkd⟩ := hk k
          refine ⟨by simp [compressAll, hok, hkc], ?_⟩
          rw [List.take_succ_cons, List.take_succ_cons, hdec _ _ hkd, expected, expected,
            List.zipWith_cons_cons]
          cases ok <;> rfl
    · omega

/-- **MPPC round trip over a whole connection**: every packet the encoder compresses is reproduced
by the decoder, after every prefix of the sequence. -/
theorem mppc_round_trip (packets : List (List UInt8))
    (h : ∀ p ∈ packets, 3 ≤ p.length ∧ p.length ≤ 16384) :
    ∃ sent, compressAll (mppcEncNew .PROTO_RDP_50) packets = .ok sent ∧
      sent.length = packets.length ∧
      ∀ k, compressAll (mppcEncNew .PROTO_RDP_50) (packets.take k) = .ok (sent.take k) ∧
        decodeAll Decoder.initial (sent.take k) =
          some (expected (packets.take k) (sent.take k)) :=
  compressAll_decodeAll packets encoderInv_new (inStep_new _) fun p hp => by
    have := h p hp
    omega

/-- Two packets: a literal run, then a back reference into the first. -/
theorem mppc_round_trip_abc :
    (∀ p ∈ [[1, 2, 3, 4], [1, 2, 3, 4, 5]], 3 ≤ p.length ∧ p.length ≤ 16384) ∧
    ∃ sent, compressAll (mppcEncNew .PROTO_RDP_50) [[1, 2, 3, 4], [1, 2, 3, 4, 5]] = .ok sent ∧
      sent.length = 2 ∧
      ∀ k, compressAll (mppcEncNew .PROTO_RDP_50) ([[1, 2, 3, 4], [1, 2, 3, 4, 5]].take k) =
          .ok (sent.take k) ∧
        decodeAll Decoder.initial (sent.take k) =
          some (expected ([[1, 2, 3, 4], [1, 2, 3, 4, 5]].take k) (sent.take k)) :=
  ⟨by decide, mppc_round_trip [[1, 2, 3, 4], [1, 2, 3, 4, 5]] (by decide)⟩

end Xrdp.Mppc
