import Xrdp.Recv.ProcessData

/-!
# Sending in the MCS layer

* `xrdpMcsSend` — the header is written in front of the payload; one with a short length is a byte
  shorter, and the payload moves up to it.
* `mcsPacket` — what is sent.
* `peerMcsRecv` — what a peer makes of it, with the receiving functions of this side.
* `mcs_send_received` — it comes to the same channel and the same payload.
-/

namespace Xrdp.Mcs

open Wire Recv

def MCS_SDIN : Nat := 26

/-- `struct stream` with the places of the two headers. -/
structure Layers extends OutStream where
  isoHdr : Nat
  mcsHdr : Nat

/-- `xrdp_iso_init`. -/
def xrdpIsoInit (s : Layers) : Layers :=
  { s with isoHdr := s.data, p := s.data + 7, end_ := s.data }

/-- `xrdp_mcs_init`. -/
def xrdpMcsInit (s : Layers) : Layers :=
  let s := xrdpIsoInit s
  { s with mcsHdr := s.p, p := s.p + 8 }

/-- The bytes of a packet, which end at `p`. -/
def Layers.write (s : Layers) (bs : List UInt8) : Layers :=
  let out := s.toOutStream.put bs
  { s with toOutStream := { out with end_ := out.p } }

/-- `xrdp_iso_send`: what is given to the transport. -/
def xrdpIsoSend (s : Layers) : List UInt8 :=
  let out : OutStream := { s.toOutStream with p := s.isoHdr }
  let len := out.end_ - out.p
  let out := out.outUint8 3
  let out := out.outUint8 0
  let out := out.outUint16Be len
  let out := out.outUint8 2
  let out := out.outUint8 ISO_PDU_DT
  let out := out.outUint8 0x80
  out.contents

/-- `xrdp_mcs_send`. -/
def xrdpMcsSend (userid : Nat) (s : Layers) (chan : Nat) : List UInt8 :=
  let out : OutStream := { s.toOutStream with p := s.mcsHdr }
  let len := out.end_ - out.p - 8
  let out := out.outUint8 (MCS_SDIN * 4)
  let out := out.outUint16Be userid
  let out := out.outUint16Be chan
  let out := out.outUint8 0x70
  if len ≥ 128 then xrdpIsoSend { s with toOutStream := out.outUint16Be (len ||| 0x8000) }
  else
    let out := out.outUint8 len
    xrdpIsoSend { s with toOutStream := { out with
      cells := copyDown (out.end_ - out.p) out.p (out.p + 1) out.cells
      end_ := out.end_ - 1 } }

/-! ## What is sent -/

/-- The length in front of a payload. -/
def perLength (len : Nat) : List UInt8 :=
  if len ≥ 128 then beBytes 2 (len ||| 0x8000) else [UInt8.ofNat len]

/-- The part of the header that has one form. -/
def sdinHeader (userid chan : Nat) : List UInt8 :=
  [UInt8.ofNat (MCS_SDIN * 4)] ++ beBytes 2 userid ++ beBytes 2 chan ++ [0x70]

/-- A packet of `xrdp_iso_send`, the bytes behind its header given. -/
def isoPacket (body : List UInt8) : List UInt8 :=
  [3, 0] ++ beBytes 2 (7 + body.length) ++ [2, 0xF0, 0x80] ++ body

/-- The headers of the two layers, and the payload. -/
def mcsPacket (userid chan : Nat) (payload : List UInt8) : List UInt8 :=
  isoPacket (sdinHeader userid chan ++ perLength payload.length ++ payload)

/-- What is in front of a payload in memory, and what is written there. -/
theorem bytesAt_headers (cells : Nat → UInt8) (a : Nat) (iso mcs : List UInt8) (n : Nat) :
    bytesAt (writeAt (writeAt cells (a + iso.length) mcs) a iso) a (iso.length + mcs.length + n) =
      iso ++ mcs ++ bytesAt cells (a + iso.length + mcs.length) n := by
  rw [bytesAt_add, bytesAt_add, bytesAt_writeAt]
  congr 1
  · congr 1
    rw [bytesAt_writeAt_of_disjoint (.inr (Nat.le_refl _)), bytesAt_writeAt]
  · rw [bytesAt_writeAt_of_disjoint (.inr (by omega)), bytesAt_writeAt_of_disjoint (.inr (by omega)),
      ← Nat.add_assoc]

theorem copyDown_writeAt (n : Nat) {dst src a : Nat} (hlt : dst < src) (cells : Nat → UInt8)
    {bs : List UInt8} (h : a + bs.length ≤ dst) :
    copyDown n dst src (writeAt cells a bs) = writeAt (copyDown n dst src cells) a bs := by
  funext j
  rw [copyDown_apply hlt]
  by_cases hin : dst ≤ j ∧ j < dst + n
  · rw [if_pos hin, writeAt_behind (by omega), writeAt_behind (by omega), copyDown_apply hlt,
      if_pos hin]
  · have hj : copyDown n dst src cells j = cells j := by rw [copyDown_apply hlt, if_neg hin]
    rw [if_neg hin, writeAt, writeAt, hj]

@[simp] theorem sdinHeader_length (userid chan : Nat) : (sdinHeader userid chan).length = 6 := by
  simp [sdinHeader]

/-- What is written from the place of the second header on, in front of what is in memory. -/
theorem xrdpIsoSend_writeAt (s : Layers) (cells : Nat → UInt8) (mcs : List UInt8) (n : Nat)
    (hiso : s.isoHdr = s.data) (hcells : s.cells = writeAt cells (s.data + 7) mcs)
    (hend : s.end_ = s.data + 7 + mcs.length + n) :
    xrdpIsoSend s = isoPacket (mcs ++ bytesAt cells (s.data + 7 + mcs.length) n) := by
  have hlen : s.end_ - s.isoHdr = 7 + (mcs.length + n) := by omega
  simp only [xrdpIsoSend, OutStream.outUint8, OutStream.outUint16Be, OutStream.put_put, hlen]
  simp only [OutStream.contents, OutStream.put, hiso, hcells]
  rw [show s.end_ - s.data = 7 + mcs.length + n by omega]
  have := bytesAt_headers cells s.data
    ([UInt8.ofNat 3] ++ [UInt8.ofNat 0] ++ beBytes 2 (7 + (mcs.length + n)) ++ [UInt8.ofNat 2] ++
      [UInt8.ofNat ISO_PDU_DT] ++ [UInt8.ofNat 0x80]) mcs n
  simp only [List.length_append, List.length_singleton, beBytes_length] at this
  rw [this, isoPacket, List.length_append, bytesAt_length]
  simp [ISO_PDU_DT]

/-- **What is sent of a stream**, the payload of which is behind the places of the two headers. -/
theorem xrdpMcsSend_of (userid chan n : Nat) (s : Layers) (hiso : s.isoHdr = s.data)
    (hmcs : s.mcsHdr = s.data + 7) (hend : s.end_ = s.data + 15 + n) :
    xrdpMcsSend userid s chan =
      isoPacket (sdinHeader userid chan ++ perLength n ++ bytesAt s.cells (s.data + 15) n) := by
  have hlen : s.end_ - s.mcsHdr - 8 = n := by omega
  simp only [xrdpMcsSend, OutStream.outUint8, OutStream.outUint16Be, OutStream.put_put, hlen]
  by_cases hlong : n ≥ 128
  · rw [if_pos hlong]
    have hper : perLength n = beBytes 2 (n ||| 0x8000) := by rw [perLength, if_pos hlong]
    rw [hper]
    rw [xrdpIsoSend_writeAt _ s.cells (sdinHeader userid chan ++ beBytes 2 (n ||| 0x8000)) n]
    · simp [OutStream.put, Nat.add_assoc]
    · exact hiso
    · simp [OutStream.put, hmcs, sdinHeader]
    · simp [OutStream.put, hend, Nat.add_assoc]
  · rw [if_neg hlong]
    have hper : perLength n = [UInt8.ofNat n] := by rw [perLength, if_neg hlong]
    rw [hper]
    -- the header is a byte shorter, and what is behind it moves up to it
    rw [xrdpIsoSend_writeAt _ (copyDown (n + 1) (s.data + 14) (s.data + 15) s.cells)
      (sdinHeader userid chan ++ [UInt8.ofNat n]) n]
    · simp [OutStream.put, bytesAt_copyDown, Nat.add_assoc]
    · exact hiso
    · simp only [OutStream.put, hmcs, hend]
      rw [copyDown_writeAt]
      · simp [sdinHeader, Nat.add_assoc, Nat.add_sub_add_left, show 15 + n - 14 = n + 1 by omega]
      · simp
      · exact Nat.le_refl _
    · simp [OutStream.put, hend]

/-- **What is sent**: the headers and the payload, with nothing between them. -/
theorem xrdpMcsSend_eq (userid chan : Nat) (s : Layers) (payload : List UInt8) :
    xrdpMcsSend userid ((xrdpMcsInit s).write payload) chan = mcsPacket userid chan payload := by
  rw [xrdpMcsSend_of userid chan payload.length _ rfl rfl rfl, mcsPacket]
  congr 2
  exact bytesAt_writeAt

/-! ## What a peer makes of it -/

/-- The peer's part of `xrdp_mcs_recv`: what it takes is an indication, not a request. -/
def peerMcsRecv : In Nat := do
  libxrdpForceRead
  xrdpIsoRecv
  checkRem 1
  let opcode ← inUint8
  if opcode / 4 ≠ MCS_SDIN then fail
  else xrdpMcsRecvSdrq

/-- The bytes of a packet one by one, up to its length field. -/
theorem mcsPacket_bytes (userid chan : Nat) (payload : List UInt8) :
    mcsPacket userid chan payload =
      3 :: 0 :: UInt8.ofNat ((13 + (perLength payload.length).length + payload.length) / 256) ::
      UInt8.ofNat (13 + (perLength payload.length).length + payload.length) :: 2 :: 0xF0 :: 0x80 ::
      104 :: UInt8.ofNat (userid / 256) :: UInt8.ofNat userid ::
      UInt8.ofNat (chan / 256) :: UInt8.ofNat chan :: 0x70 ::
      (perLength payload.length ++ payload) := by
  have hlen : 7 + (6 + ((perLength payload.length).length + payload.length)) =
      13 + (perLength payload.length).length + payload.length := by omega
  simp [mcsPacket, isoPacket, hlen]
  simp [sdinHeader, beBytes, leBytes, MCS_SDIN]

theorem mcsPacket_length (userid chan : Nat) (payload : List UInt8) :
    (mcsPacket userid chan payload).length =
      13 + (perLength payload.length).length + payload.length := by
  simp [mcsPacket_bytes]
  omega

theorem perLength_length (len : Nat) : (perLength len).length = if len ≥ 128 then 2 else 1 := by
  unfold perLength
  split <;> simp

theorem perLength_length_le (len : Nat) : (perLength len).length ≤ 2 := by
  rw [perLength_length]
  split <;> omega

/-- The length in the first header is that of the packet. -/
theorem libxrdpGetPduBytes_mcsPacket (userid chan : Nat) {payload : List UInt8}
    (hlen : payload.length < 0x4000) (rest : List UInt8) :
    libxrdpGetPduBytes ((mcsPacket userid chan payload ++ rest).take 4) =
      (mcsPacket userid chan payload).length := by
  have hper := perLength_length_le payload.length
  rw [mcsPacket_length, mcsPacket_bytes]
  simp [libxrdpGetPduBytes]
  omega

/-- The peer's session with a packet read from the transport. -/
def received (peer : Session) (sent rest : List UInt8) : Session :=
  { peer with
    cells := writeAt peer.cells 0 sent, p := 0, end_ := sent.length, nextPacket := none, wire := rest }

theorem libxrdpForceRead_mcsPacket (userid chan : Nat) {payload : List UInt8}
    (hlen : payload.length < 0x4000) (rest : List UInt8) (peer : Session) :
    libxrdpForceRead { peer with wire := mcsPacket userid chan payload ++ rest } =
      some ((), received peer (mcsPacket userid chan payload) rest) := by
  have hper := perLength_length_le payload.length
  have hpkt := mcsPacket_length userid chan payload
  have hmax : max 4 (mcsPacket userid chan payload).length = (mcsPacket userid chan payload).length :=
    Nat.max_eq_right (by omega)
  simp only [libxrdpForceRead, libxrdpGetPduBytes_mcsPacket userid chan hlen rest, hmax]
  rw [if_neg (by simp; omega), if_neg (by omega), if_neg (by simp), List.take_left, List.drop_left]
  rfl

/-- A session, `n` bytes on. -/
def skip (s : Session) (n : Nat) : Session := { s with p := s.p + n }

@[simp] theorem skip_skip (s : Session) (n m : Nat) : skip (skip s n) m = skip s (n + m) := by
  simp [skip, Nat.add_assoc]

@[simp] theorem byte_skip (s : Session) (n i : Nat) : (skip s n).byte i = s.byte (n + i) := by
  simp [skip, Session.byte, Nat.add_assoc]

/-- A step of a reader that does not fail. -/
theorem In.bind_some {α β : Type} {m : In α} {s s' : Session} {a : α} (h : m s = some (a, s'))
    (f : α → In β) : (m >>= f) s = f a s' := by
  show (m s).bind _ = _
  rw [h]
  rfl

theorem inUint8_skip (s : Session) : inUint8 s = some (s.byte 0, skip s 1) := rfl

theorem inUint8s_skip (n : Nat) (s : Session) : inUint8s n s = some ((), skip s n) := rfl

theorem inUint16Be_skip (s : Session) :
    inUint16Be s = some (256 * s.byte 0 + s.byte 1, skip s 2) := rfl

theorem checkRem_skip {n m : Nat} {s : Session} (h : (s.p + (m + n) : Int) ≤ s.end_) :
    checkRem n (skip s m) = some ((), skip s m) :=
  if_pos (by simp only [skip]; omega)

theorem checkRem_some {n : Nat} {s : Session} (h : (s.p + n : Int) ≤ s.end_) :
    checkRem n s = some ((), s) := if_pos h

/-- The first layer's header, taken off. -/
theorem xrdpIsoRecv_skip {s : Session} (hver : s.byte 0 = 3) (hplen : 4 ≤ 256 * s.byte 2 + s.byte 3)
    (hli : s.byte 4 = 2) (hcode : s.byte 5 = ISO_PDU_DT) (hrem : (s.p + 7 : Int) ≤ s.end_) :
    xrdpIsoRecv s = some ((), skip s 7) := by
  have hmsg : xrdpIsoRecvMsg s = some ((ISO_PDU_DT, 2), skip s 7) := by
    rw [xrdpIsoRecvMsg, In.bind_some (inUint8_skip s), if_neg (not_not.2 hver),
      In.bind_some (inUint8s_skip 1 _), In.bind_some (inUint16Be_skip _), if_neg (by simp; omega)]
    simp only [skip_skip, Nat.reduceAdd]
    rw [In.bind_some (checkRem_skip (by omega)), In.bind_some (inUint8_skip _),
      In.bind_some (inUint8_skip _), if_pos (by simpa using hcode)]
    simp only [skip_skip, Nat.reduceAdd, byte_skip]
    rw [In.bind_some (checkRem_skip (by omega)), In.bind_some (inUint8s_skip 1 _), hli, hcode]
    simp only [skip_skip, Nat.reduceAdd]
    rfl
  rw [xrdpIsoRecv, In.bind_some hmsg]
  rfl

/-- The header of the second layer behind its first byte, taken off. -/
theorem xrdpMcsRecvSdrq_skip {s : Session} {n : Nat}
    (hn : n = if s.byte 5 &&& 0x80 ≠ 0 then 2 else 1) (hrem : (s.p + (5 + n) : Int) ≤ s.end_) :
    xrdpMcsRecvSdrq s = some (256 * s.byte 2 + s.byte 3, skip s (5 + n)) := by
  have hn1 : 1 ≤ n := by rw [hn]; split <;> omega
  rw [xrdpMcsRecvSdrq, In.bind_some (checkRem_some (by omega)), In.bind_some (inUint8s_skip 2 s),
    In.bind_some (inUint16Be_skip _), In.bind_some (inUint8s_skip 1 _), In.bind_some (inUint8_skip _)]
  simp only [skip_skip, Nat.reduceAdd, byte_skip]
  by_cases hlong : s.byte 5 &&& 0x80 ≠ 0
  · rw [if_pos hlong] at hn ⊢
    rw [In.bind_some (checkRem_skip (by omega)), In.bind_some (inUint8s_skip 1 _), hn, skip_skip]
    rfl
  · rw [if_neg hlong] at hn ⊢
    rw [hn]
    rfl

/-- The first byte of the length field says whether there is a second. -/
theorem perLength_head {len : Nat} (hlen : len < 0x4000) (tail : List UInt8) :
    ∃ b more, perLength len ++ tail = b :: more ∧
      (perLength len).length = if b.toNat &&& 0x80 ≠ 0 then 2 else 1 := by
  have hshort : ∀ k < 128, k &&& 0x80 = 0 := by decide
  have hlongs : ∀ k < 64, (128 + k) &&& 0x80 ≠ 0 := by decide
  by_cases hlong : len ≥ 128
  · have hor : len ||| 0x8000 = 0x8000 + len := by
      rw [Nat.or_comm]
      exact (Nat.two_pow_add_eq_or_of_lt (show len < 2 ^ 15 by omega) 1).symm
    refine ⟨UInt8.ofNat ((0x8000 + len) / 256), UInt8.ofNat (0x8000 + len) :: tail, ?_, ?_⟩
    · rw [perLength, if_pos hlong, hor]
      simp [beBytes, leBytes]
    · rw [perLength_length, if_pos hlong, if_pos]
      rw [UInt8.toNat_ofNat', show (0x8000 + len) / 256 % 2 ^ 8 = 128 + len / 256 by omega]
      exact hlongs _ (by omega)
  · refine ⟨UInt8.ofNat len, tail, by rw [perLength, if_neg hlong]; rfl, ?_⟩
    rw [perLength_length, if_neg hlong, if_neg]
    rw [UInt8.toNat_ofNat', Nat.mod_eq_of_lt (by omega)]
    exact not_not.2 (hshort _ (by omega))

/-- Reading the headers. -/
theorem peerMcsRecv_mcsPacket (userid : Nat) {chan : Nat} {payload : List UInt8}
    (hchan : chan < 65536) (hlen : payload.length < 0x4000) (rest : List UInt8) (peer : Session) :
    peerMcsRecv { peer with wire := mcsPacket userid chan payload ++ rest } =
      some (chan, skip (received peer (mcsPacket userid chan payload) rest)
        (13 + (perLength payload.length).length)) := by
  obtain ⟨b, more, hb, hper⟩ := perLength_head hlen payload
  have hpkt := mcsPacket_length userid chan payload
  have hbytes := mcsPacket_bytes userid chan payload
  have hread := libxrdpForceRead_mcsPacket userid chan hlen rest peer
  rw [hb] at hbytes
  generalize mcsPacket userid chan payload = sent at *
  generalize (perLength payload.length).length = n at *
  have hn : 1 ≤ n ∧ n ≤ 2 := by rw [hper]; split <;> omega
  have hbyte : ∀ i, (received peer sent rest).byte i = ((sent[i]?).getD (peer.cells i)).toNat := by
    intro i
    simp [received, writeAt, Session.byte]
  have hver : (received peer sent rest).byte 0 = 3 := by rw [hbyte, hbytes]; rfl
  have hplen : 4 ≤ 256 * (received peer sent rest).byte 2 + (received peer sent rest).byte 3 := by
    rw [hbyte, hbyte, hbytes]
    simp
    omega
  have hli : (received peer sent rest).byte 4 = 2 := by rw [hbyte, hbytes]; rfl
  have hcode : (received peer sent rest).byte 5 = ISO_PDU_DT := by rw [hbyte, hbytes]; rfl
  have hop : (received peer sent rest).byte 7 / 4 = MCS_SDIN := by rw [hbyte, hbytes]; simp [MCS_SDIN]
  have hch : 256 * (received peer sent rest).byte 10 + (received peer sent rest).byte 11 = chan := by
    rw [hbyte, hbyte, hbytes]
    simp
    omega
  have hfst : (received peer sent rest).byte 13 = b.toNat := by rw [hbyte, hbytes]; rfl
  have hend : (received peer sent rest).end_ = sent.length := rfl
  have hp : (received peer sent rest).p = 0 := rfl
  generalize received peer sent rest = s at *
  rw [peerMcsRecv, In.bind_some hread, In.bind_some (xrdpIsoRecv_skip hver hplen hli hcode (by omega)),
    In.bind_some (checkRem_skip (by omega)), In.bind_some (inUint8_skip _),
    if_neg (by rw [byte_skip]; exact not_not.2 hop), skip_skip,
    xrdpMcsRecvSdrq_skip (n := n) (by rw [byte_skip, hfst, hper]) (by simp only [skip]; omega)]
  simp only [byte_skip, skip_skip, Nat.reduceAdd, hch]
  rw [show 8 + (5 + n) = 13 + n by omega]

/-- The length in the first header. -/
theorem tpktLength_mcsPacket (userid chan : Nat) {payload : List UInt8}
    (hlen : payload.length < 0x4000) :
    getBe 2 ((mcsPacket userid chan payload).drop 2) =
      some ((mcsPacket userid chan payload).length, (mcsPacket userid chan payload).drop 4) := by
  have hper := perLength_length_le payload.length
  rw [mcsPacket_length]
  simp only [mcsPacket, isoPacket, List.append_assoc, List.cons_append, List.nil_append,
    List.drop_succ_cons, List.drop_zero]
  rw [getBe_beBytes, List.drop_left' (by simp)]
  simp
  omega

/-- Reading the headers leaves the payload. -/
theorem payload_received (userid chan : Nat) (payload rest : List UInt8) (peer : Session) :
    bytesAt (received peer (mcsPacket userid chan payload) rest).cells
      (0 + (13 + (perLength payload.length).length)) payload.length = payload := by
  let body := sdinHeader userid chan ++ perLength payload.length
  let headers := [3, 0] ++ beBytes 2 (7 + (body ++ payload).length) ++ [2, 0xF0, 0x80] ++ body
  have hlen : headers.length = 13 + (perLength payload.length).length := by
    simp [headers, body]
    omega
  have hsent : mcsPacket userid chan payload = headers ++ payload := by
    simp [headers, body, mcsPacket, isoPacket]
  rw [received, hsent, ← hlen, ← writeAt_append]
  exact bytesAt_writeAt

/-- **What is sent is received**: a peer that reads with the functions of this side comes to the same
channel and the same payload, nothing of what follows is read, and the length in the first header is
that of the packet. -/
theorem mcs_send_received (userid : Nat) {chan : Nat} {payload : List UInt8} (hchan : chan < 65536)
    (hlen : payload.length < 0x4000) (s : Layers) (peer : Session) (rest : List UInt8) :
    let sent := xrdpMcsSend userid ((xrdpMcsInit s).write payload) chan
    getBe 2 (sent.drop 2) = some (sent.length, sent.drop 4) ∧
      ∃ peer', peerMcsRecv { peer with wire := sent ++ rest } = some (chan, peer') ∧
        bytesAt peer'.cells peer'.p (peer'.end_ - peer'.p).toNat = payload ∧ peer'.wire = rest := by
  intro sent
  have hsent : sent = mcsPacket userid chan payload := xrdpMcsSend_eq userid chan s payload
  rw [hsent]
  refine ⟨tpktLength_mcsPacket userid chan hlen, _,
    peerMcsRecv_mcsPacket userid hchan hlen rest peer, ?_, rfl⟩
  have hsize : ((skip (received peer (mcsPacket userid chan payload) rest)
      (13 + (perLength payload.length).length)).end_ -
      (skip (received peer (mcsPacket userid chan payload) rest)
        (13 + (perLength payload.length).length)).p).toNat = payload.length := by
    simp only [skip, received, mcsPacket_length]
    omega
  rw [hsize]
  exact payload_received userid chan payload rest peer

theorem mcs_send_received_long :
    let s : Layers := ⟨⟨fun _ => 0, 0, 0, 0, 0, 0⟩, 0, 0⟩
    let peer : Session := ⟨fun _ => 0, 0, 0, none, [], false, 0, 0, true, false, 0⟩
    let payload : List UInt8 := List.replicate 200 7
    let sent := xrdpMcsSend 1001 ((xrdpMcsInit s).write payload) 1003
    getBe 2 (sent.drop 2) = some (sent.length, sent.drop 4) ∧
      ∃ peer', peerMcsRecv { peer with wire := sent ++ [3, 0] } = some (1003, peer') ∧
        bytesAt peer'.cells peer'.p (peer'.end_ - peer'.p).toNat = payload ∧ peer'.wire = [3, 0] :=
  mcs_send_received 1001 (by omega) (by rw [List.length_replicate]; omega) _ _ _

end Xrdp.Mcs
