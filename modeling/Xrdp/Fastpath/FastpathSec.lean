import Xrdp.Fastpath.FastpathFormat

/-!
# The security layer, opened by the client

* `SecSync` — the client has the keys and the counters of the server.
* `sec_spec` — what the layer puts around an update the client takes off again, the length field
  is the length, and the memory around the message is left as it was.
-/

namespace Xrdp.Fastpath

open Wire

variable {K : Crypto}

/-- Server and client agree on level, keys and counters. -/
structure SecSync (sec : Sec K) (c : Client K) : Prop where
  mode : c.mode = sec.cryptLevel.mode
  useCount : c.decryptUseCount = sec.encryptUseCount
  rc4Info : c.rc4Info = sec.rc4Info
  fipsInfo : c.fipsInfo = sec.fipsInfo

theorem or_8000 {n : Nat} (h : n < 2 ^ 15) : n ||| 0x8000 = n + 2 ^ 15 := by
  rw [Nat.or_comm, show (0x8000 : Nat) = 2 ^ 15 * 1 from rfl, ← Nat.two_pow_add_eq_or_of_lt h 1]
  omega

theorem getLe_one (b : UInt8) (rest : List UInt8) : getLe 1 (b :: rest) = some (b.toNat, rest) := by
  simp [getLe]

/-- A PDU with a length field that says so. -/
theorem lengthField_eq {b : UInt8} {n : Nat} {rest : List UInt8} (h : n < 2 ^ 15) :
    lengthField (b :: (beBytes 2 (n ||| 0x8000) ++ rest)) = some n := by
  rw [lengthField, List.drop_one, List.tail_cons, getBe_beBytes, or_8000 h, Option.bind_some]
  simp only
  rw [if_pos (by omega), Option.some_inj]
  omega

/-! ## Ciphers -/

/-- **Decrypting undoes encrypting**, and both sides stay together. -/
theorem rc4_spec {sec : Sec K} {c : Client K} (h : SecSync sec c) (data : List UInt8) :
    (xrdpSecEncrypt sec data).1.length = data.length ∧
      (c.rc4Decrypt (xrdpSecEncrypt sec data).1).1 = data ∧
      SecSync (xrdpSecEncrypt sec data).2 (c.rc4Decrypt (xrdpSecEncrypt sec data).1).2 := by
  have hblock : K.rc4.block ∣ data.length := K.rc4_block ▸ one_dvd _
  unfold xrdpSecEncrypt Client.rc4Decrypt
  rw [h.useCount, h.rc4Info]
  split
  · simp only [K.rc4.decrypt_encrypt _ _ hblock, K.rc4.encrypt_length _ _ hblock]
    exact ⟨trivial, trivial, h.mode, rfl, rfl, h.fipsInfo⟩
  · simp only [h.rc4Info, K.rc4.decrypt_encrypt _ _ hblock, K.rc4.encrypt_length _ _ hblock]
    exact ⟨trivial, trivial, h.mode, congrArg (· + 1) h.useCount, rfl, h.fipsInfo⟩

theorem xrdpSecEncrypt_level (sec : Sec K) (data : List UInt8) :
    (xrdpSecEncrypt sec data).2.cryptLevel = sec.cryptLevel := by
  unfold xrdpSecEncrypt
  split <;> rfl

theorem fips_spec {sec : Sec K} {c : Client K} (h : SecSync sec c) {data : List UInt8}
    (hblock : 8 ∣ data.length) :
    (xrdpSecFipsEncrypt sec data).1.length = data.length ∧
      (c.fipsDecrypt (xrdpSecFipsEncrypt sec data).1).1 = data ∧
      SecSync (xrdpSecFipsEncrypt sec data).2
        (c.fipsDecrypt (xrdpSecFipsEncrypt sec data).1).2 := by
  rw [← K.des3_block] at hblock
  unfold xrdpSecFipsEncrypt Client.fipsDecrypt
  simp only [h.fipsInfo, K.des3.decrypt_encrypt _ _ hblock, K.des3.encrypt_length _ _ hblock]
  exact ⟨trivial, trivial, h.mode, congrArg (· + 1) h.useCount, h.rc4Info, rfl⟩

/-! ## The layer -/

/-- A stream with an update in it, room for the headers of the security layer in front. -/
structure Framed (sec : Sec K) (s : OutStream) (update : List UInt8) : Prop where
  data : s.data = s.secHdr
  end_ : s.end_ = s.secHdr + xrdpSecGetFastpathBytes sec + update.length
  body : bytesAt s.cells (s.secHdr + xrdpSecGetFastpathBytes sec) update.length = update
  fits : update.length + 24 ≤ 2 ^ 15

/-- A stream sent through the layer, and opened by a client. -/
structure Sent (c : Client K) (s : OutStream) (update : List UInt8)
    (r : List UInt8 × Sec K × (Nat → UInt8)) : Prop where
  length : lengthField r.1 = some r.1.length
  level : r.2.1.cryptLevel.mode = c.mode
  opened : ∃ c', c.openPdu r.1 = some (update, c') ∧ SecSync r.2.1 c' ∧ c'.decoder = c.decoder
  cells : ∀ j, j < s.secHdr ∨ s.end_ ≤ j → r.2.2 j = s.cells j

section

variable {sec : Sec K} {c : Client K} {s : OutStream} {update : List UInt8}

theorem sec_none (h : SecSync sec c) (hs : Framed sec s update)
    (hmode : sec.cryptLevel.mode = .none) : Sent c s update (xrdpSecSendFastpath sec s) := by
  obtain ⟨hdata, hend, hupd, hfits⟩ := hs
  have hsec : xrdpSecGetFastpathBytes sec = 3 := by simp [xrdpSecGetFastpathBytes, hmode]
  rw [hsec] at hend hupd
  have hlen : s.end_ - s.secHdr = 3 + update.length := by omega
  set hdr : List UInt8 := UInt8.ofNat (0 <<< 6) :: beBytes 2 ((3 + update.length) ||| 0x8000)
    with hhdr
  have h3 : hdr.length = 3 := by simp [hdr]
  have hsend : xrdpSecSendFastpath sec s =
      (hdr ++ update, sec, writeAt s.cells s.secHdr hdr) := by
    simp only [xrdpSecSendFastpath, hmode, OutStream.outUint8, OutStream.outUint16Be,
      OutStream.put_put, hlen, List.singleton_append, ← hhdr]
    simp only [OutStream.contents, OutStream.put, hdata, hlen]
    rw [bytesAt_add, ← h3, bytesAt_writeAt, bytesAt_writeAt_of_disjoint (.inr le_rfl), h3, hupd]
  rw [hsend]
  have hpdu : (hdr ++ update).length = 3 + update.length := by simp [h3]
  have hfield : lengthField (hdr ++ update) = some (hdr ++ update).length := by
    rw [hpdu, hhdr, List.cons_append]
    exact lengthField_eq (by omega)
  refine ⟨hfield, h.mode.symm, ⟨c, ?_, h, rfl⟩, fun j hj => ?_⟩
  · rw [Client.openPdu, hfield]
    simp only [hhdr, List.cons_append, getLe_one, Option.bind_eq_bind, Option.bind_some,
      getBe_beBytes, h.mode, hmode, Client.decryptUpdate]
    rfl
  · rcases hj with hj | hj
    · exact writeAt_before hj
    · exact writeAt_behind (by omega)

theorem sec_rc4 (h : SecSync sec c) (hs : Framed sec s update)
    (hmode : sec.cryptLevel.mode = .rc4) : Sent c s update (xrdpSecSendFastpath sec s) := by
  obtain ⟨hdata, hend, hupd, hfits⟩ := hs
  have hsec : xrdpSecGetFastpathBytes sec = 11 := by simp [xrdpSecGetFastpathBytes, hmode]
  rw [hsec] at hend hupd
  have hlen : s.end_ - s.secHdr = 11 + update.length := by omega
  set hdr : List UInt8 := UInt8.ofNat (2 <<< 6) :: beBytes 2 ((11 + update.length) ||| 0x8000)
    with hhdr
  have h3 : hdr.length = 3 := by simp [hdr]
  obtain ⟨hout, hdec, hsync⟩ := rc4_spec h update
  set r := xrdpSecEncrypt sec update with hr
  obtain ⟨sig, hsig, hsend⟩ : ∃ sig : List UInt8, sig.length = 8 ∧ xrdpSecSendFastpath sec s =
      (hdr ++ sig ++ r.1, r.2, writeAt s.cells s.secHdr (hdr ++ sig ++ r.1)) := by
    refine ⟨List.ofFn (K.sign (bytesAt (writeAt s.cells s.secHdr hdr) (s.secHdr + 3 + 8)
      update.length)), List.length_ofFn, ?_⟩
    simp only [xrdpSecSendFastpath, hmode, OutStream.outUint8, OutStream.outUint16Be,
      OutStream.put_put, hlen, List.singleton_append, ← hhdr]
    simp only [OutStream.contents, OutStream.put, hdata, hlen, h3, Nat.add_sub_cancel_left]
    set sig := List.ofFn (K.sign (bytesAt (writeAt s.cells s.secHdr hdr) (s.secHdr + 3 + 8)
      update.length)) with hsigdef
    have hsig : sig.length = 8 := List.length_ofFn
    have hhs : (hdr ++ sig).length = 11 := by simp [h3, hsig]
    rw [show s.secHdr + 3 = s.secHdr + hdr.length by rw [h3], writeAt_append,
      show s.secHdr + hdr.length + 8 = s.secHdr + (hdr ++ sig).length by rw [h3, hhs],
      bytesAt_writeAt_of_disjoint (.inr le_rfl), hhs, hupd, ← hr,
      show s.secHdr + 11 = s.secHdr + (hdr ++ sig).length by rw [hhs], writeAt_append]
    rw [show 11 + update.length = (hdr ++ sig ++ r.1).length by
      rw [List.length_append, hhs, hout], bytesAt_writeAt]
  rw [hsend]
  have hpdu : (hdr ++ sig ++ r.1).length = 11 + update.length := by simp [h3, hsig, hout]; omega
  have hfield : lengthField (hdr ++ sig ++ r.1) = some (hdr ++ sig ++ r.1).length := by
    rw [hpdu, hhdr, List.append_assoc, List.cons_append]
    exact lengthField_eq (by omega)
  have hlevel : r.2.cryptLevel.mode = c.mode := by
    rw [h.mode, hr, xrdpSecEncrypt_level]
  refine ⟨hfield, hlevel, ⟨(c.rc4Decrypt r.1).2, ?_, hsync, ?_⟩, fun j hj => ?_⟩
  · rw [Client.openPdu, hfield]
    simp only [hhdr, List.cons_append, List.append_assoc, getLe_one, Option.bind_eq_bind,
      Option.bind_some, getBe_beBytes, h.mode, hmode, Client.decryptUpdate, getBytes_append hsig]
    rw [if_pos ⟨trivial, rfl⟩, ← hdec]
    rfl
  · simp only [Client.rc4Decrypt]
    split <;> rfl
  · rcases hj with hj | hj
    · exact writeAt_before hj
    · exact writeAt_behind (by omega)

theorem put_end (s : OutStream) (e : Nat) (bs : List UInt8) :
    ({ s with end_ := e } : OutStream).put bs = { s.put bs with end_ := e } := rfl

theorem sec_fips (h : SecSync sec c) (hs : Framed sec s update)
    (hmode : sec.cryptLevel.mode = .fips) : Sent c s update (xrdpSecSendFastpath sec s) := by
  obtain ⟨hdata, hend, hupd, hfits⟩ := hs
  have hsec : xrdpSecGetFastpathBytes sec = 15 := by simp [xrdpSecGetFastpathBytes, hmode]
  rw [hsec] at hend hupd
  have hlen : s.end_ - s.secHdr = 15 + update.length := by omega
  set n := update.length with hn
  obtain ⟨pad, hpad⟩ : ∃ pad, pad = (8 - n % 8) % 8 := ⟨_, rfl⟩
  have hpad8 : pad < 8 := by omega
  set hdr : List UInt8 := UInt8.ofNat (2 <<< 6) :: (beBytes 2 ((15 + n + pad) ||| 0x8000) ++
    (leBytes 2 16 ++ ([UInt8.ofNat 1] ++ [UInt8.ofNat pad]))) with hhdr
  have h7 : hdr.length = 7 := by simp [hdr]
  set body := update ++ List.replicate pad 0 with hbody
  have hbodylen : body.length = n + pad := by simp [body, hn]
  obtain ⟨hout, hdec, hsync⟩ := @fips_spec K sec c h body (by rw [hbodylen]; omega)
  set r := xrdpSecFipsEncrypt sec body with hr
  -- the PDU, and the memory afterwards
  obtain ⟨sig, hsig, hpdu, hsec', hcells⟩ : ∃ sig : List UInt8, sig.length = 8 ∧
      (xrdpSecSendFastpath sec s).1 = hdr ++ sig ++ r.1 ∧
      (xrdpSecSendFastpath sec s).2.1 = r.2 ∧
      (xrdpSecSendFastpath sec s).2.2 = writeAt (writeAt s.cells s.secHdr (hdr ++ sig ++ r.1))
        (s.secHdr + 15 + n) (bytesAt s.cells (s.secHdr + 15 + n) pad) := by
    refine ⟨List.ofFn (K.fipsSign sec.encryptUseCount (bytesAt (writeAt s.cells s.secHdr hdr)
      (s.secHdr + 7 + 8) n)), List.length_ofFn, ?_⟩
    simp only [xrdpSecSendFastpath, hmode, OutStream.outUint8, OutStream.outUint16Be,
      OutStream.outUint16Le, OutStream.put_put, put_end, hlen, Nat.add_sub_cancel_left, ← hpad,
      List.append_assoc, List.nil_append, List.cons_append]
    simp only [OutStream.contents, OutStream.put, hdata]
    rw [show UInt8.ofNat (2 <<< 6) :: (beBytes 2 ((15 + n + pad) ||| 0x8000) ++
      (leBytes 2 16 ++ [UInt8.ofNat 1, UInt8.ofNat pad])) = hdr from rfl, h7]
    set sig := List.ofFn (K.fipsSign sec.encryptUseCount (bytesAt (writeAt s.cells s.secHdr hdr)
      (s.secHdr + 7 + 8) n)) with hsigdef
    have hsig : sig.length = 8 := List.length_ofFn
    have hhs : (hdr ++ sig).length = 15 := by simp [h7, hsig]
    have hcs : (hdr ++ (sig ++ r.1)).length = 15 + n + pad := by
      rw [← List.append_assoc, List.length_append, hhs, hout, hbodylen, Nat.add_assoc]
    have hplain : bytesAt (writeAt (writeAt s.cells s.secHdr (hdr ++ sig)) (s.secHdr + 7 + 8 + n)
        (List.replicate pad 0)) (s.secHdr + 7 + 8) (n + pad) = body := by
      rw [bytesAt_add, bytesAt_writeAt_of_disjoint (.inl le_rfl),
        bytesAt_writeAt_of_disjoint (.inr (by rw [hhs])), hupd, hbody]
      congr 1
      have := @bytesAt_writeAt (writeAt s.cells s.secHdr (hdr ++ sig)) (s.secHdr + 7 + 8 + n)
        (List.replicate pad 0)
      rwa [List.length_replicate] at this
    rw [show s.secHdr + 7 = s.secHdr + hdr.length by rw [h7], writeAt_append, h7, hplain, ← hr]
    -- the encrypted bytes cover the padding
    have hcover : writeAt (writeAt (writeAt s.cells s.secHdr (hdr ++ sig)) (s.secHdr + 7 + 8 + n)
        (List.replicate pad 0)) (s.secHdr + 7 + 8) r.1 =
        writeAt s.cells s.secHdr (hdr ++ (sig ++ r.1)) := by
      rw [← List.append_assoc, ← @writeAt_append s.cells s.secHdr (hdr ++ sig) r.1, hhs]
      funext j
      by_cases hj : s.secHdr + 7 + 8 ≤ j ∧ j < s.secHdr + 7 + 8 + r.1.length
      · simp [writeAt, hj.1, show j - (s.secHdr + 15) < r.1.length by omega]
      · rw [hout, hbodylen] at hj
        rcases Nat.lt_or_ge j (s.secHdr + 7 + 8) with hlt | hge
        · rw [writeAt_before hlt, writeAt_before (by omega), writeAt_before hlt]
        · have hbehind : ∀ X : Nat → UInt8, writeAt X (s.secHdr + 15) r.1 j = X j :=
            fun X => writeAt_behind (by rw [hout, hbodylen]; omega)
          rw [Nat.add_assoc s.secHdr 7 8, hbehind, hbehind,
            writeAt_behind (by rw [List.length_replicate]; omega)]
    rw [hcover]
    refine ⟨?_, rfl, ?_⟩
    · rw [show s.end_ + pad - s.secHdr = (hdr ++ (sig ++ r.1)).length by omega, bytesAt_writeAt]
    · rw [bytesAt_writeAt_of_disjoint (.inr (by omega))]
  have hpdulen : (hdr ++ sig ++ r.1).length = 15 + n + pad := by
    simp [h7, hsig, hout, hbodylen]
    omega
  have hfield : lengthField (hdr ++ sig ++ r.1) = some (hdr ++ sig ++ r.1).length := by
    rw [hpdulen, hhdr, List.append_assoc, List.cons_append, List.append_assoc]
    exact lengthField_eq (by omega)
  refine ⟨hpdu ▸ hfield, hsec' ▸ h.mode.symm, ⟨(c.fipsDecrypt r.1).2, ?_, hsec' ▸ hsync, rfl⟩, fun j hj => ?_⟩
  · have hpadtoNat : (UInt8.ofNat pad).toNat = pad := by
      rw [UInt8.toNat_ofNat', Nat.mod_eq_of_lt (by omega)]
    rw [hpdu, Client.openPdu, hfield]
    simp only [hhdr, List.cons_append, List.append_assoc, getLe_one, Option.bind_eq_bind,
      Option.bind_some, getBe_beBytes, h.mode, hmode, Client.decryptUpdate, getLe_leBytes,
      List.nil_append, hpadtoNat, getBytes_append hsig]
    rw [if_pos ⟨trivial, rfl⟩, if_pos (by decide), hdec, hbodylen, Nat.add_sub_cancel, hbody,
      List.take_left' hn.symm]
    rfl
  · rw [hcells]
    rcases hj with hj | hj
    · rw [writeAt_before (by omega), writeAt_before hj]
    · rcases Nat.lt_or_ge j (s.end_ + pad) with hlt | hge
      · simp [writeAt, bytesAt, show s.secHdr + 15 + n ≤ j by omega,
          show j - (s.secHdr + 15 + n) < pad by omega]
      · rw [writeAt_behind (by rw [bytesAt_length]; omega), writeAt_behind (by omega)]

/-- **The client takes off what the security layer puts on.** -/
theorem sec_spec (h : SecSync sec c) (hs : Framed sec s update) :
    Sent c s update (xrdpSecSendFastpath sec s) := by
  cases hmode : sec.cryptLevel.mode with
  | none => exact sec_none h hs hmode
  | rc4 => exact sec_rc4 h hs hmode
  | fips => exact sec_fips h hs hmode

end

end Xrdp.Fastpath
