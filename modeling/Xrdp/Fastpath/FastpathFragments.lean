import Xrdp.Mppc.Connection
import Xrdp.Fastpath.FastpathSec

/-!
# The fragments of a fast-path update

* `Sync` — the client has the keys, the counters and the compression history of the server.
* `fragment_spec` — a fragment, compressed or not, is a PDU from which the client gets the part of
  the payload back; what is behind it in memory is left alone.
-/

namespace Xrdp.Fastpath

open Mppc Wire

variable {K : Crypto}

/-! ## The update header -/

/-- The update header, with the compression flags if there is compression. -/
def updateHeader (compression : Bool) (code fragmentation flags size : Nat) : List UInt8 :=
  UInt8.ofNat ((code &&& 15) ||| ((fragmentation &&& 3) <<< 4) |||
    (((if compression then 2 else 0) &&& 3) <<< 6)) ::
    ((if compression then [UInt8.ofNat flags] else []) ++ leBytes 2 size)

theorem updateHeader_length (compression : Bool) (code fragmentation flags size : Nat) :
    (updateHeader compression code fragmentation flags size).length =
      if compression then 4 else 3 := by
  cases compression <;> simp [updateHeader]

/-- The three fields of the first byte. -/
theorem header_byte (code : Nat) {fragmentation : Nat} (hf : fragmentation < 4)
    (compression : Bool) :
    ∃ b : Nat, b = (UInt8.ofNat ((code &&& 15) ||| ((fragmentation &&& 3) <<< 4) |||
        (((if compression then 2 else 0) &&& 3) <<< 6))).toNat ∧ b % 16 = code % 16 ∧
      b / 16 % 4 = fragmentation ∧ b / 64 = if compression then 2 else 0 := by
  have hfields : ∀ a < 16, ∀ f < 4, ∀ compression : Bool,
      let b := (UInt8.ofNat (a ||| ((f &&& 3) <<< 4) |||
        (((if compression then 2 else 0) &&& 3) <<< 6))).toNat
      b % 16 = a ∧ b / 16 % 4 = f ∧ b / 64 = if compression then 2 else 0 := by decide
  have hand : code &&& 15 = code % 16 := Nat.and_two_pow_sub_one_eq_mod code 4
  rw [hand]
  exact ⟨_, rfl, hfields (code % 16) (Nat.mod_lt _ (by decide)) fragmentation hf compression⟩

/-- Reading an update that is not compressed. -/
theorem readUpdate_plain (c : Client K) (compression : Bool) (code : Nat) {fragmentation : Nat}
    (hf : fragmentation < 4) {data : List UInt8} (hlen : data.length < 65536) :
    c.readUpdate (updateHeader compression code fragmentation 0 data.length ++ data) =
      some (⟨code % 16, fragmentation, data⟩, c) := by
  obtain ⟨b, hb, h1, h2, h3⟩ := header_byte code hf compression
  rw [Client.readUpdate, updateHeader, List.cons_append, getLe_one, ← hb]
  simp only [Option.bind_eq_bind, Option.bind_some, h1, h2, h3]
  cases compression <;>
    simp [getLe_one, getLe_leBytes, hlen, PACKET_COMPRESSED_FLAG]

/-- Reading an update that is compressed. -/
theorem readUpdate_compressed {c : Client K} {decoder : Decoder} (code : Nat) {fragmentation : Nat}
    (hf : fragmentation < 4) {flags : Nat} (hflags : flags < 256)
    (hcomp : flags &&& PACKET_COMPRESSED_FLAG ≠ 0) {data out : List UInt8}
    (hlen : data.length < 65536) (hdec : c.decoder.decode flags data = some (decoder, out)) :
    c.readUpdate (updateHeader true code fragmentation flags data.length ++ data) =
      some (⟨code % 16, fragmentation, out⟩, { c with decoder }) := by
  obtain ⟨b, hb, h1, h2, h3⟩ := header_byte code hf true
  have hbyte : (UInt8.ofNat flags).toNat = flags := by
    rw [UInt8.toNat_ofNat', Nat.mod_eq_of_lt hflags]
  rw [Client.readUpdate, updateHeader, List.cons_append, getLe_one, ← hb]
  simp only [Option.bind_eq_bind, Option.bind_some, h1, h2, h3]
  simp [getLe_one, getLe_leBytes, hlen, hbyte, hcomp, hdec]

/-! ## One fragment -/

/-- Server and client agree on keys, counters and compression history. -/
structure Sync (rdp : Rdp K) (c : Client K) : Prop where
  sec : SecSync rdp.secLayer c
  inv : EncoderInv rdp.mppcEnc
  inStep : InStep rdp.mppcEnc c.decoder

/-- A stream with `data` behind the room for all the headers. -/
structure FramedData (rdp : Rdp K) (s : OutStream) (data : List UInt8) : Prop where
  start : s.data = s.secHdr
  p : s.p = s.secHdr + xrdpSecGetFastpathBytes rdp.secLayer
  bytes : bytesAt s.cells (s.p + rdp.headerBytes) data.length = data

theorem headerBytes_eq (rdp : Rdp K) (code fragmentation flags size : Nat) :
    (updateHeader rdp.rdpCompression code fragmentation flags size).length =
      rdp.headerBytes := by
  rw [updateHeader_length, Rdp.headerBytes]

/-- **The PDU of a fragment**, before the client looks at the update header. -/
theorem sendFragment_spec {rdp : Rdp K} {c : Client K} (h : SecSync rdp.secLayer c)
    {s : OutStream} {data : List UInt8} (hs : FramedData rdp s data)
    (hlen : data.length ≤ FASTPATH_FRAG_SIZE) (code fragmentation flags : Nat) :
    Sent c { s with end_ := s.p + rdp.headerBytes + data.length }
      (updateHeader rdp.rdpCompression code fragmentation flags data.length ++ data)
      (sendFragment rdp s code fragmentation flags (data.length + rdp.headerBytes)) := by
  obtain ⟨hdr, hhdr⟩ : ∃ hdr, hdr =
    updateHeader rdp.rdpCompression code fragmentation flags data.length := ⟨_, rfl⟩
  have hl : hdr.length = rdp.headerBytes := by
    rw [hhdr]
    exact headerBytes_eq rdp code fragmentation flags _
  have hl4 : hdr.length ≤ 4 := by
    rw [hl, Rdp.headerBytes]
    split <;> omega
  have hbytes := hs.bytes
  rw [← hl] at hbytes ⊢
  rw [← hhdr]
  have hsend : sendFragment rdp s code fragmentation flags (data.length + hdr.length) =
      xrdpSecSendFastpath rdp.secLayer
        { s.put hdr with end_ := s.p + hdr.length + data.length } := by
    rw [hl, sendFragment, Nat.add_sub_cancel, ← hl, hhdr]
    unfold updateHeader OutStream.outUint8 OutStream.outUint16Le
    cases rdp.rdpCompression with
    | false =>
      simp only [Bool.false_eq_true, if_false, ne_eq, not_true_eq_false, OutStream.put_put]
      rfl
    | true =>
      simp only [if_true, ne_eq, OfNat.ofNat_ne_zero, not_false_eq_true, OutStream.put_put]
      rfl
  have hframed : Framed rdp.secLayer
      { s.put hdr with end_ := s.p + hdr.length + data.length } (hdr ++ data) := by
    refine ⟨hs.start, ?_, ?_, ?_⟩
    · simp only [OutStream.put, List.length_append]
      rw [hs.p]
      omega
    · simp only [OutStream.put]
      rw [← hs.p, List.length_append, bytesAt_add, bytesAt_writeAt,
        bytesAt_writeAt_of_disjoint (.inr le_rfl), hbytes]
    · rw [List.length_append]
      simp only [FASTPATH_FRAG_SIZE] at hlen
      omega
  rw [hsend]
  have hsent := sec_spec h hframed
  refine ⟨hsent.length, hsent.level, hsent.opened, fun j hj => (hsent.cells j hj).trans ?_⟩
  rcases hj with hj | hj
  · exact writeAt_before (by rw [hs.p]; exact Nat.lt_add_right _ hj)
  · exact writeAt_behind (Nat.le_of_add_right_le hj)

/-- A fragment with `part` in it, as the client gets it. -/
structure Delivered (rdp : Rdp K) (c : Client K) (s : OutStream) (code fragmentation : Nat)
    (part : List UInt8) (r : List UInt8 × Rdp K × (Nat → UInt8)) : Prop where
  length : lengthField r.1 = some r.1.length
  received : ∃ c', c.receivePdu r.1 = some (⟨code % 16, fragmentation, part⟩, c') ∧ Sync r.2.1 c'
  compression : r.2.1.rdpCompression = rdp.rdpCompression
  level : r.2.1.secLayer.cryptLevel.mode = rdp.secLayer.cryptLevel.mode
  cells : ∀ j, s.p + rdp.headerBytes + part.length ≤ j → r.2.2 j = s.cells j

section

variable {rdp : Rdp K} {c : Client K} {s : OutStream} {part : List UInt8} {fragmentation : Nat}

theorem Delivered.of_enc {enc : MppcEnc} {code : Nat}
    {r : List UInt8 × Rdp K × (Nat → UInt8)}
    (h : Delivered { rdp with mppcEnc := enc } c s code fragmentation part r) :
    Delivered rdp c s code fragmentation part r :=
  ⟨h.length, h.received, h.compression, h.level, h.cells⟩

theorem plain_spec (h : Sync rdp c) (hs : FramedData rdp s part)
    (hlen : part.length ≤ FASTPATH_FRAG_SIZE) (code : Nat) (hf : fragmentation < 4) :
    Delivered rdp c s code fragmentation part
      (let (pdu, secLayer, cells) :=
        sendFragment rdp s code fragmentation 0 (part.length + rdp.headerBytes)
      (pdu, { rdp with secLayer }, cells)) := by
  have hsent := sendFragment_spec h.sec hs hlen code fragmentation 0
  obtain ⟨c₁, hopen, hsec, hdecoder⟩ := hsent.opened
  have hlen' : part.length < 65536 := Nat.lt_of_le_of_lt hlen (by decide)
  refine ⟨hsent.length, ⟨c₁, ?_, hsec, h.inv, hdecoder ▸ h.inStep⟩, rfl,
    hsent.level.trans h.sec.mode, fun j hj => hsent.cells j (.inr hj)⟩
  rw [Client.receivePdu, hopen]
  exact readUpdate_plain c₁ _ code hf hlen'

/-- The bytes of the compressor are in place for a fragment. -/
theorem compStream_framed (rdp : Rdp K) (enc : MppcEnc) :
    FramedData rdp (compStream enc 0 (xrdpSecGetFastpathBytes rdp.secLayer) rdp.headerBytes
      (enc.bytesInOpb + rdp.headerBytes)) enc.sent := by
  have hsec : xrdpSecGetFastpathBytes rdp.secLayer ≤ 15 := by
    rw [xrdpSecGetFastpathBytes]
    split <;> omega
  have hhdr : rdp.headerBytes ≤ 4 := by
    rw [Rdp.headerBytes]
    split <;> omega
  refine ⟨rfl, rfl, ?_⟩
  simp only [compStream, bytesAt, MppcEnc.sent, List.length_map, List.length_range]
  apply List.map_congr_left
  intro i _
  rw [outputCells, if_neg (by simp only [outputBase]; omega)]
  congr 1
  simp only [outputBase]
  omega

theorem compressed_spec (h : SecSync rdp.secLayer c) {enc : MppcEnc} (hcomp : rdp.rdpCompression)
    (hinv : EncoderInv enc) (hflags : enc.flags < 256)
    (hcompressed : enc.flags &&& PACKET_COMPRESSED_FLAG ≠ 0)
    (hbytes : enc.bytesInOpb ≤ FASTPATH_FRAG_SIZE) {d : Decoder}
    (hdec : c.decoder.decode enc.flags enc.sent = some (d, part)) (hd : InStep enc d) (code : Nat)
    (hf : fragmentation < 4) :
    Delivered rdp c s code fragmentation part
      (let (pdu, secLayer, cells) := sendFragment rdp
        (compStream enc 0 (xrdpSecGetFastpathBytes rdp.secLayer) rdp.headerBytes
          (enc.bytesInOpb + rdp.headerBytes)) code fragmentation enc.flags
        (enc.bytesInOpb + rdp.headerBytes)
      (pdu, { rdp with secLayer, mppcEnc := withOutputCells enc cells }, s.cells)) := by
  have hlen : enc.sent.length = enc.bytesInOpb := by simp [MppcEnc.sent]
  have hsent := sendFragment_spec h (compStream_framed rdp enc) (hlen.trans_le hbytes) code
    fragmentation enc.flags
  rw [hlen] at hsent
  obtain ⟨c₁, hopen, hsec, hdecoder⟩ := hsent.opened
  have hlen' : enc.sent.length < 65536 :=
    hlen ▸ Nat.lt_of_le_of_lt hbytes (by decide)
  refine ⟨hsent.length, ⟨{ c₁ with decoder := d }, ?_, ⟨hsec.mode, hsec.useCount, hsec.rc4Info,
    hsec.fipsInfo⟩, { hinv with outputSize := hinv.outputSize }, hd⟩, rfl,
    hsent.level.trans h.mode, fun j _ => rfl⟩
  rw [Client.receivePdu, hopen, hcomp, ← hlen]
  exact readUpdate_compressed code hf hflags hcompressed hlen' (hdecoder ▸ hdec)

/-- **A fragment**, compressed or not: the client gets the part of the payload that is in it. -/
theorem fragment_spec (h : Sync rdp c) (hs : FramedData rdp s part)
    (hlen : part.length + rdp.headerBytes ≤ FASTPATH_FRAG_SIZE) (code : Nat)
    (hf : fragmentation < 4) :
    ∃ r, fragment rdp s code fragmentation (part.length + rdp.headerBytes) 0
        (xrdpSecGetFastpathBytes rdp.secLayer) = .ok r ∧
      Delivered rdp c s code fragmentation part r := by
  have hpart : part.length ≤ FASTPATH_FRAG_SIZE := Nat.le_of_add_right_le hlen
  simp only [FASTPATH_FRAG_SIZE] at hlen
  unfold fragment
  split
  · rename_i hcomp
    obtain ⟨hcomp, h16⟩ := hcomp
    simp only [Nat.add_sub_cancel, hs.bytes]
    rw [compressRdp, if_neg (by rw [h.inv.bufLen]; omega), h.inv.protocol]
    rcases compressRdp5_spec h.inv (show 2 ≤ part.length by omega) (by omega) with
      ⟨⟨enc, ok⟩, hok, hinv, hno, hyes⟩ | ⟨-, hfull⟩
    · simp only [hok, Run.ok_bind]
      cases ok with
      | false =>
        refine ⟨_, rfl, ?_⟩
        apply Delivered.of_enc
        exact @plain_spec K { rdp with mppcEnc := enc } c s part fragmentation
          ⟨h.sec, hinv, fun h0 => absurd h0 (hno rfl)⟩ ⟨hs.start, hs.p, hs.bytes⟩ hpart code hf
      | true =>
        obtain ⟨hflags, hcompressed, hshorter⟩ :=
          compressRdp5_compressed h.inv (by omega) hok
        obtain ⟨d, hdec, hd⟩ := hyes rfl c.decoder h.inStep
        refine ⟨_, rfl, ?_⟩
        apply Delivered.of_enc
        exact @compressed_spec K { rdp with mppcEnc := enc } c s part fragmentation h.sec enc hcomp
          hinv hflags hcompressed (hshorter.trans hpart) d hdec hd code hf
    · omega
  · exact ⟨_, rfl, plain_spec h hs hpart code hf⟩

end

end Xrdp.Fastpath
