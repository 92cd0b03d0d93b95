import Xrdp.Fastpath.FastpathFragments

/-!
# Fragmentation of fast-path updates is transparent

* `fragmentLoop_spec` — the fragments are flagged in order and make up the payload.
* `sendUpdates_spec` — any number of updates leaves client and server in agreement.
* `fastpath_transparent` — every update of a connection, whatever was sent before it.
-/

namespace Xrdp.Fastpath

open Mppc Wire

variable {K : Crypto}

/-! ## The loop -/

/-- The flags of the fragments that follow one flagged `start`; 0 if there was none. -/
def FlagsFrom (start : Nat) (flags : List Nat) : Prop :=
  if start = 0 then
    flags = [FASTPATH_FRAGMENT_SINGLE] ∨ ∃ n, flags =
      FASTPATH_FRAGMENT_FIRST :: (List.replicate n FASTPATH_FRAGMENT_NEXT ++
        [FASTPATH_FRAGMENT_LAST])
  else ∃ n, flags = List.replicate n FASTPATH_FRAGMENT_NEXT ++ [FASTPATH_FRAGMENT_LAST]

theorem FlagsFrom.last {start : Nat} : FlagsFrom start [if start ≠ 0 then 1 else start] := by
  unfold FlagsFrom
  split
  · rename_i h
    exact .inl (by rw [h]; rfl)
  · rename_i h
    exact ⟨0, by simp; rfl⟩

theorem FlagsFrom.cons {start next : Nat} {flags : List Nat}
    (h : start = 0 ∧ next = 2 ∨ start ≠ 0 ∧ next = 3) (hf : FlagsFrom next flags) :
    FlagsFrom start (next :: flags) := by
  rcases h with ⟨rfl, rfl⟩ | ⟨h0, rfl⟩
  · obtain ⟨n, rfl⟩ := hf
    exact .inr ⟨n, rfl⟩
  · obtain ⟨n, rfl⟩ := hf
    rw [FlagsFrom, if_neg h0]
    exact ⟨n + 1, rfl⟩

/-- PDUs whose fragments, in order, are `payload`. -/
structure Reassembles (code start : Nat) (payload : List UInt8) (pdus : List (List UInt8))
    (frags : List Fragment) : Prop where
  lengths : ∀ pdu ∈ pdus, lengthField pdu = some pdu.length
  codes : ∀ f ∈ frags, f.updateCode = code % 16
  flags : FlagsFrom start (frags.map Fragment.fragmentation)
  payload : frags.flatMap Fragment.payload = payload

theorem Reassembles.cons {code start next : Nat} {part rest pdu : List UInt8}
    {pdus : List (List UInt8)} {frags : List Fragment}
    (hpdu : lengthField pdu = some pdu.length)
    (hnext : start = 0 ∧ next = 2 ∨ start ≠ 0 ∧ next = 3)
    (h : Reassembles code next rest pdus frags) :
    Reassembles code start (part ++ rest) (pdu :: pdus) (⟨code % 16, next, part⟩ :: frags) :=
  ⟨List.forall_mem_cons.2 ⟨hpdu, h.lengths⟩, List.forall_mem_cons.2 ⟨rfl, h.codes⟩,
    .cons hnext h.flags, by rw [List.flatMap_cons, h.payload]⟩

/-- The first part of the data is framed as well. -/
theorem FramedData.left {rdp : Rdp K} {s : OutStream} {part rest : List UInt8}
    (h : FramedData rdp s (part ++ rest)) : FramedData rdp s part := by
  refine ⟨h.start, h.p, ?_⟩
  have hbytes := h.bytes
  rw [List.length_append, bytesAt_add] at hbytes
  exact (List.append_inj hbytes (by simp)).1

/-- What follows a fragment is framed, in the memory after it, by the headers laid over its end. -/
theorem FramedData.right {rdp rdp' : Rdp K} {c : Client K} {s : OutStream}
    {code fragmentation : Nat} {part rest pdu : List UInt8} {cells : Nat → UInt8}
    (h : FramedData rdp s (part ++ rest))
    (hd : Delivered rdp c s code fragmentation part (pdu, rdp', cells)) :
    FramedData rdp'
      { s with
        cells
        p := s.p + (part.length + rdp.headerBytes) - rdp'.headerBytes
        secHdr := s.p + (part.length + rdp.headerBytes) - rdp'.headerBytes -
          xrdpSecGetFastpathBytes rdp.secLayer
        data := s.p + (part.length + rdp.headerBytes) - rdp'.headerBytes -
          xrdpSecGetFastpathBytes rdp.secLayer } rest := by
  have hhdr : rdp'.headerBytes = rdp.headerBytes := by
    rw [Rdp.headerBytes, Rdp.headerBytes, hd.compression]
  have hsec : xrdpSecGetFastpathBytes rdp'.secLayer = xrdpSecGetFastpathBytes rdp.secLayer := by
    rw [xrdpSecGetFastpathBytes, xrdpSecGetFastpathBytes, hd.level]
  have hp := h.p
  refine ⟨rfl, by simp only [hhdr, hsec]; omega, ?_⟩
  have hbytes := h.bytes
  rw [List.length_append, bytesAt_add] at hbytes
  rw [← (List.append_inj hbytes (by simp)).2]
  simp only [bytesAt_length, hhdr]
  rw [show s.p + (part.length + rdp.headerBytes) - rdp.headerBytes + rdp.headerBytes =
    s.p + rdp.headerBytes + part.length by omega]
  exact bytesAt_congr fun j hj _ => hd.cells j hj

/-- **The loop**: the fragments it sends make up the rest of the payload. -/
theorem fragmentLoop_spec (code fuel : Nat) {rdp : Rdp K} {c : Client K} {s : OutStream}
    {rest : List UInt8} {start : Nat} (h : Sync rdp c) (hs : FramedData rdp s rest)
    (hend : s.end_ = s.p + (rest.length + rdp.headerBytes)) (hfuel : rest.length < fuel)
    (hstart : start = 0 ∨ start = 2 ∨ start = 3) :
    ∃ pdus rdp' frags c', fragmentLoop code (xrdpSecGetFastpathBytes rdp.secLayer) 0
        (xrdpSecGetFastpathBytes rdp.secLayer) fuel rdp s start = .ok (pdus, rdp') ∧
      c.receive pdus = some (frags, c') ∧ Sync rdp' c' ∧
      Reassembles code start rest pdus frags := by
  induction fuel generalizing rdp c s rest start with
  | zero => omega
  | succ fuel ih =>
    have hhdr : rdp.headerBytes ≤ 4 := by
      rw [Rdp.headerBytes]
      split <;> omega
    have hlen : s.end_ - s.p = rest.length + rdp.headerBytes := by omega
    unfold fragmentLoop
    simp only [hlen]
    by_cases hlong : rest.length + rdp.headerBytes > FASTPATH_FRAG_SIZE
    · -- a full fragment, and more to come
      obtain ⟨next, hnext, hnext'⟩ : ∃ next,
          (if start = 0 then 2 else if start = 2 then 3 else start) = next ∧
            (start = 0 ∧ next = 2 ∨ start ≠ 0 ∧ next = 3) := by
        rcases hstart with rfl | rfl | rfl <;> exact ⟨_, rfl, by decide⟩
      obtain ⟨part, rest', rfl, hpart⟩ : ∃ part rest', rest = part ++ rest' ∧
          part.length + rdp.headerBytes = FASTPATH_FRAG_SIZE := by
        refine ⟨rest.take (FASTPATH_FRAG_SIZE - rdp.headerBytes), rest.drop _,
          (List.take_append_drop ..).symm, ?_⟩
        simp only [FASTPATH_FRAG_SIZE] at hlong ⊢
        rw [List.length_take]
        omega
      obtain ⟨⟨pdu, rdp₁, cells⟩, hfrag, hdel⟩ := fragment_spec h hs.left hpart.le code
        (show next < 4 by omega)
      rw [if_pos hlong]
      simp only [hnext, ← hpart, hfrag, Run.ok_bind]
      rw [List.length_append] at hend hfuel
      have hlong' : 0 < rest'.length := by
        rw [List.length_append] at hlong
        omega
      have hhdr' : rdp₁.headerBytes = rdp.headerBytes := by
        rw [Rdp.headerBytes, Rdp.headerBytes, hdel.compression]
      have hsec : xrdpSecGetFastpathBytes rdp₁.secLayer =
          xrdpSecGetFastpathBytes rdp.secLayer := by
        rw [xrdpSecGetFastpathBytes, xrdpSecGetFastpathBytes, hdel.level]
      obtain ⟨c₁, hrecv, hsync⟩ := hdel.received
      simp only [FASTPATH_FRAG_SIZE] at hpart
      obtain ⟨pdus, rdp', frags, c', hloop, hrecvs, hsync', hre⟩ := ih hsync (hs.right hdel)
        (show s.end_ = _ by simp only [hhdr']; omega) (by omega)
        (show next = 0 ∨ next = 2 ∨ next = 3 by omega)
      rw [hsec] at hloop
      rw [if_pos (by omega)]
      simp only [hloop, Run.ok_bind, Run.pure_eq]
      refine ⟨_, _, ⟨code % 16, next, part⟩ :: frags, c', rfl, ?_, hsync', .cons hdel.length
        hnext' hre⟩
      rw [Client.receive, hrecv]
      simp only [Option.bind_eq_bind, Option.bind_some, hrecvs]
      rfl
    · -- the last fragment
      have hflag : (if start ≠ 0 then 1 else start) < 4 := by
        split <;> omega
      obtain ⟨⟨pdu, rdp', cells⟩, hfrag, hdel⟩ := fragment_spec h hs
        (Nat.le_of_not_lt hlong) code hflag
      rw [if_neg hlong]
      simp only [hfrag, Run.ok_bind]
      rw [if_neg (by omega)]
      obtain ⟨c', hrecv, hsync⟩ := hdel.received
      refine ⟨_, _, [⟨code % 16, if start ≠ 0 then 1 else start, rest⟩], c', rfl, ?_, hsync, ?_⟩
      · rw [Client.receive, hrecv]
        rfl
      · exact ⟨List.forall_mem_singleton.2 hdel.length, List.forall_mem_singleton.2 rfl, .last,
          by simp⟩

/-! ## A connection -/

/-- An update, and the memory its stream is in. -/
structure Update where
  code : Nat
  payload : List UInt8
  cells : Nat → UInt8
  base : Nat

def sendUpdate (rdp : Rdp K) (u : Update) : Run (List (List UInt8) × Rdp K) :=
  xrdpRdpSendFastpath rdp (updateStream rdp u.cells u.base u.payload) u.code (u.payload.length + 1)

def sendUpdates (rdp : Rdp K) : List Update → Run (List (List UInt8) × Rdp K)
  | [] => .ok ([], rdp)
  | u :: us => do
    let (pdus, rdp) ← sendUpdate rdp u
    let (pdus', rdp) ← sendUpdates rdp us
    pure (pdus ++ pdus', rdp)

theorem Client.receive_append {pdus pdus' : List (List UInt8)} {frags frags' : List Fragment}
    {c c' c'' : Client K} (h : c.receive pdus = some (frags, c'))
    (h' : c'.receive pdus' = some (frags', c'')) :
    c.receive (pdus ++ pdus') = some (frags ++ frags', c'') := by
  induction pdus generalizing c frags with
  | nil =>
    cases h
    exact h'
  | cons pdu pdus ih =>
    rw [Client.receive] at h
    simp only [Option.bind_eq_bind, Option.bind_eq_some_iff, Option.pure_def,
      Option.some_inj, Prod.exists, Prod.mk.injEq] at h
    obtain ⟨frag, c₁, hpdu, frags₁, c₂, hrest, rfl, rfl⟩ := h
    rw [List.cons_append, Client.receive, hpdu]
    simp only [Option.bind_eq_bind, Option.bind_some, ih hrest]
    rfl

theorem updateStream_framed (rdp : Rdp K) (u : Update) :
    FramedData rdp { updateStream rdp u.cells u.base u.payload with
      p := (updateStream rdp u.cells u.base u.payload).rdpHdr } u.payload :=
  ⟨rfl, rfl, bytesAt_writeAt⟩

/-- **One update** between a server and a client in agreement. -/
theorem sendUpdate_spec {rdp : Rdp K} {c : Client K} (h : Sync rdp c) (u : Update) :
    ∃ pdus rdp' frags c', sendUpdate rdp u = .ok (pdus, rdp') ∧
      c.receive pdus = some (frags, c') ∧ Sync rdp' c' ∧
      Reassembles u.code 0 u.payload pdus frags := by
  have hloop := fragmentLoop_spec u.code (u.payload.length + 1) h (updateStream_framed rdp u)
    (by simp only [updateStream, OutStream.put]; omega) (Nat.lt_succ_self _) (.inl rfl)
  unfold sendUpdate xrdpRdpSendFastpath
  have hsec : (updateStream rdp u.cells u.base u.payload).secHdr -
      (updateStream rdp u.cells u.base u.payload).data = 0 := Nat.sub_self _
  have hrdp : (updateStream rdp u.cells u.base u.payload).rdpHdr -
      (updateStream rdp u.cells u.base u.payload).data = xrdpSecGetFastpathBytes rdp.secLayer :=
    Nat.add_sub_cancel_left ..
  simpa only [hsec, hrdp] using hloop

/-- Any number of updates leaves client and server in agreement. -/
theorem sendUpdates_spec {rdp : Rdp K} {c : Client K} (h : Sync rdp c) (us : List Update) :
    ∃ pdus rdp' frags c', sendUpdates rdp us = .ok (pdus, rdp') ∧
      c.receive pdus = some (frags, c') ∧ Sync rdp' c' := by
  induction us generalizing rdp c with
  | nil => exact ⟨[], rdp, [], c, rfl, rfl, h⟩
  | cons u us ih =>
    obtain ⟨pdus, rdp₁, frags, c₁, hsend, hrecv, h₁, -⟩ := sendUpdate_spec h u
    obtain ⟨pdus', rdp', frags', c', hsends, hrecvs, h'⟩ := ih h₁
    refine ⟨pdus ++ pdus', rdp', frags ++ frags', c', ?_,
      Client.receive_append hrecv hrecvs, h'⟩
    rw [sendUpdates, hsend, Run.ok_bind]
    simp only [hsends, Run.ok_bind, Run.pure_eq]

/-- The server at the start of a connection. -/
def Rdp.connect (rdpCompression : Bool) (secLayer : Sec K) : Rdp K :=
  ⟨rdpCompression, mppcEncNew .PROTO_RDP_50, secLayer⟩

/-- The client at the start of a connection, with the keys of the server. -/
def Client.connect (secLayer : Sec K) : Client K :=
  ⟨secLayer.cryptLevel.mode, secLayer.encryptUseCount, secLayer.rc4Info, secLayer.fipsInfo,
    .initial⟩

theorem sync_connect (rdpCompression : Bool) (secLayer : Sec K) :
    Sync (Rdp.connect rdpCompression secLayer) (Client.connect secLayer) :=
  ⟨⟨rfl, rfl, rfl, rfl⟩, encoderInv_new, inStep_new _⟩

/-- **Fragmentation is transparent**: after any updates of a connection, the PDUs of the next one
have the length they say, are flagged in order, and make up its payload at the client. -/
theorem fastpath_transparent (rdpCompression : Bool) (secLayer : Sec K) (earlier : List Update)
    (u : Update) :
    ∃ sent rdp got c, sendUpdates (Rdp.connect rdpCompression secLayer) earlier = .ok (sent, rdp) ∧
      (Client.connect secLayer).receive sent = some (got, c) ∧
      ∃ pdus rdp' frags c', sendUpdate rdp u = .ok (pdus, rdp') ∧
        c.receive pdus = some (frags, c') ∧ Reassembles u.code 0 u.payload pdus frags := by
  obtain ⟨sent, rdp, got, c, hsent, hgot, h⟩ :=
    sendUpdates_spec (sync_connect rdpCompression secLayer) earlier
  obtain ⟨pdus, rdp', frags, c', hsend, hrecv, -, hre⟩ := sendUpdate_spec h u
  exact ⟨sent, rdp, got, c, hsent, hgot, pdus, rdp', frags, c', hsend, hrecv, hre⟩

/-- A cipher that adds a counter to each byte. -/
def counterCipher (block : Nat) : Cipher where
  State := UInt8
  encrypt s d := (d.map (· + s), s + 1)
  decrypt s d := (d.map (· - s), s + 1)
  block
  encrypt_length := by simp
  decrypt_encrypt := by simp [Function.comp_def]

/-- A cryptography of counters, with empty signatures. -/
def counterCrypto : Crypto :=
  ⟨counterCipher 1, rfl, fun k => k, counterCipher 8, rfl, fun _ _ => 0, fun _ _ _ => 0⟩

/-- Two bytes through RC4 are one PDU of sixteen bytes. -/
example :
    (sendUpdate (.connect false ⟨.CRYPT_LEVEL_HIGH, 0, (7 : UInt8), (0 : UInt8)⟩ : Rdp counterCrypto)
      ⟨1, [5, 6], fun _ => 0, 100⟩).map Prod.fst =
        .ok [[128, 128, 16, 0, 0, 0, 0, 0, 0, 0, 0, 8, 9, 7, 12, 13]] := by
  decide +kernel

end Xrdp.Fastpath
