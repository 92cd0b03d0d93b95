import Xrdp.Transport.DataIn

/-!
# PDUs of a client, however they arrive

* `Wants` — how many bytes of a PDU are wanted, and what is done when they are there.
* `processDataIn_steps`, `checkWaitObjs_turned` — a step leads to more being wanted of the same PDU,
  or hands it over and starts afresh.
* `Handler.Framed` — the PDUs are handed over one by one.
* `Handler.Quiet` — what handles a PDU does not read the one behind it.
* `framed_of_quiet`, `quiet_of_framed` — the one comes with the other.
-/

namespace Xrdp.Transport

/-! ## The headers of PDUs -/

theorem highBit_iff (h : UInt8) : h.toNat &&& 0x80 ≠ 0 ↔ 128 ≤ h.toNat := by
  revert h
  decide +kernel

theorem lowBits (h : UInt8) (hhigh : 128 ≤ h.toNat) : h.toNat &&& 0x7F = h.toNat - 128 := by
  revert h
  decide +kernel

theorem shift8_or (a : Nat) (b : UInt8) : a <<< 8 ||| b.toNat = 256 * a + b.toNat := by
  rw [← Nat.shiftLeft_add_eq_or_of_lt b.toNat_lt, Nat.shiftLeft_eq]
  omega

theorem pduBytes_tpkt (h1 h2 h3 : UInt8) (body : List UInt8) :
    libxrdpGetPduBytes (3 :: h1 :: h2 :: h3 :: body) = .ok (256 * h2.toNat + h3.toNat) := by
  rw [← shift8_or]
  rfl

theorem pduBytes_short {h0 h1 : UInt8} (body : List UInt8) (hfast : h0 ≠ 3)
    (hshort : h1.toNat < 128) : libxrdpGetPduBytes (h0 :: h1 :: body) = .ok h1.toNat := by
  have hbit : ¬ (h1.toNat &&& 0x80 ≠ 0) := by
    rw [highBit_iff]
    omega
  unfold libxrdpGetPduBytes
  dsimp only
  rw [if_neg hfast, if_neg hbit]

theorem pduBytes_long {h0 h1 : UInt8} (h2 : UInt8) (body : List UInt8) (hfast : h0 ≠ 3)
    (hlong : 128 ≤ h1.toNat) : libxrdpGetPduBytes (h0 :: h1 :: h2 :: body) =
      .ok (256 * (h1.toNat - 128) + h2.toNat) := by
  unfold libxrdpGetPduBytes
  dsimp only
  rw [if_neg hfast, if_pos ((highBit_iff h1).2 hlong), lowBits h1 hlong, shift8_or]

theorem ClientPdu.two_le {pdu : List UInt8} (h : ClientPdu pdu) : 2 ≤ pdu.length := by
  cases h
  all_goals simp only [List.length_cons]
  all_goals omega

theorem ClientPdu.length_le {pdu : List UInt8} (h : ClientPdu pdu) : pdu.length ≤ IN_SIZE := by
  unfold IN_SIZE
  cases h with
  | tpkt h1 h2 h3 body hlen hmax => exact hmax
  | short h0 h1 body _ hshort hlen =>
    simp only [List.length_cons]
    omega
  | long h0 h1 h2 body _ _ hlen =>
    have := h1.toNat_lt
    have := h2.toNat_lt
    simp only [List.length_cons]
    omega

/-! ## A sequential parser -/

/-- A whole PDU says its length. -/
theorem ClientPdu.pduBytes {pdu : List UInt8} (h : ClientPdu pdu) (more : List UInt8) :
    libxrdpGetPduBytes (pdu ++ more) = .ok pdu.length := by
  cases h with
  | tpkt h1 h2 h3 body hlen _ =>
    have := pduBytes_tpkt h1 h2 h3 (body ++ more)
    rwa [← hlen] at this
  | short h0 h1 body hfast hshort hlen =>
    have := pduBytes_short (body ++ more) hfast hshort
    rwa [← hlen] at this
  | long h0 h1 h2 body hfast hlong hlen =>
    have := pduBytes_long h2 (body ++ more) hfast hlong
    rwa [← hlen] at this

/-- A part of a PDU says nothing, or the length of the PDU. -/
theorem ClientPdu.pduBytes_part {part more : List UInt8} (h : ClientPdu (part ++ more)) {len : Nat}
    (hlen : libxrdpGetPduBytes part = .ok len) : len = (part ++ more).length := by
  have hwhole := h.pduBytes []
  rw [List.append_nil] at hwhole
  have hsame : libxrdpGetPduBytes (part ++ more) = .ok len := by
    unfold libxrdpGetPduBytes at hlen
    split at hlen
    · rename_i h0 h1 header
      split at hlen
      · rename_i htpkt
        split at hlen
        · rename_i h2 h3 body
          rw [← hlen, htpkt]
          rfl
        · cases hlen
      · rename_i hfast
        split at hlen
        · rename_i hbit
          split at hlen
          · rename_i h2 body
            unfold libxrdpGetPduBytes
            dsimp only [List.cons_append]
            rw [← hlen, if_neg hfast, if_pos hbit]
          · cases hlen
        · rename_i hbit
          unfold libxrdpGetPduBytes
          dsimp only [List.cons_append]
          rw [← hlen, if_neg hfast, if_neg hbit]
    · cases hlen
  rw [hwhole] at hsame
  cases hsame
  rfl

/-- Some bytes at the front of a PDU, but not all. -/
def Part (part : List UInt8) : Prop :=
  ∃ more, more ≠ [] ∧ ClientPdu (part ++ more)

theorem part_nil : Part [] :=
  ⟨[0, 2], by simp, .short 0 2 [] (by decide) (by decide) rfl⟩

theorem parsePdus_part {part : List UInt8} (h : Part part) (fuel : Nat) :
    parsePdus fuel part = [] := by
  obtain ⟨more, hmore, hpdu⟩ := h
  cases fuel with
  | zero => rfl
  | succ fuel =>
    unfold parsePdus
    cases hlen : libxrdpGetPduBytes part with
    | error e => rfl
    | ok len =>
      have hwhole := hpdu.pduBytes_part hlen
      have hpos := List.length_pos_of_ne_nil hmore
      rw [List.length_append] at hwhole
      dsimp only
      rw [if_neg (by omega)]

/-- A sequential parser finds PDUs one by one. -/
theorem parsePdus_append {pdus : List (List UInt8)} (hpdus : ∀ pdu ∈ pdus, ClientPdu pdu)
    (rest : List UInt8) {fuel : Nat} (hfuel : (pdus.flatten ++ rest).length ≤ fuel) :
    ∃ fuel', parsePdus fuel (pdus.flatten ++ rest) = pdus ++ parsePdus fuel' rest := by
  induction pdus generalizing fuel with
  | nil => exact ⟨fuel, rfl⟩
  | cons pdu pdus ih =>
    have hpdu := hpdus pdu List.mem_cons_self
    have htwo := hpdu.two_le
    rw [List.flatten_cons, List.append_assoc] at hfuel ⊢
    rw [List.length_append] at hfuel
    cases fuel with
    | zero => omega
    | succ fuel =>
      obtain ⟨fuel', hrest⟩ := @ih (fun p hp => hpdus p (List.mem_cons_of_mem _ hp)) fuel (by omega)
      refine ⟨fuel', ?_⟩
      rw [parsePdus, hpdu.pduBytes]
      dsimp only
      rw [if_pos (by rw [List.length_append]; omega), List.take_left, List.drop_left, hrest,
        List.cons_append]

/-- **A sequential parser** of PDUs and a part of one finds the PDUs. -/
theorem parsePdus_flatten {pdus : List (List UInt8)} (hpdus : ∀ pdu ∈ pdus, ClientPdu pdu)
    {part : List UInt8} (hpart : Part part) {fuel : Nat}
    (hfuel : (pdus.flatten ++ part).length ≤ fuel) :
    parsePdus fuel (pdus.flatten ++ part) = pdus := by
  obtain ⟨fuel', h⟩ := parsePdus_append hpdus part hfuel
  rw [h, parsePdus_part hpart, List.append_nil]

/-! ## What is wanted -/

/-- The `extra_flags` and `header_size` while PDUs arrive. -/
inductive Wants : Nat → Nat → List (List UInt8) → Prop
  | two (pdus : List (List UInt8)) : Wants 1 2 pdus
  | tpkt (h1 h2 h3 : UInt8) (body : List UInt8) (pdus : List (List UInt8)) :
      Wants 2 4 ((3 :: h1 :: h2 :: h3 :: body) :: pdus)
  | long (h0 h1 h2 : UInt8) (body : List UInt8) (pdus : List (List UInt8)) (hfast : h0 ≠ 3)
      (hlong : 128 ≤ h1.toNat) : Wants 2 3 ((h0 :: h1 :: h2 :: body) :: pdus)
  | whole (pdu : List UInt8) (pdus : List (List UInt8)) : Wants 3 pdu.length (pdu :: pdus)

/-- The transport waits for more of the first of some PDUs. -/
structure Waits (t : ServerTrans) (pdus : List (List UInt8)) : Prop where
  up : t.status = .UP
  bytes : t.inS ++ t.sck = pdus.flatten
  short : t.inS.length < t.headerSize
  wants : Wants t.extraFlags t.headerSize pdus

/-- The transport as it is behind a PDU. -/
structure ServerTrans.Fresh (t : ServerTrans) : Prop where
  up : t.status = .UP
  inS : t.inS = []
  headerSize : t.headerSize = 2
  extraFlags : t.extraFlags = 1

/-- What a call of `xrdp_process_data_in` comes to: more is wanted of the same PDU, or it is handed
over. -/
inductive Steps (env : Handler) (t : ServerTrans) (pdus : List (List UInt8)) :
    Int → ServerTrans → Prop
  | same {t' : ServerTrans} (hhanded : t'.handed = t.handed) (hsck : t'.sck = t.sck)
      (hwaits : Waits t' pdus) : Steps env t pdus 0 t'
  | next {rv : Int} {t' : ServerTrans} (pdu : List UInt8) (pdus' : List (List UInt8))
      (hpdus : pdus = pdu :: pdus') (hhanded : t'.handed = t.handed ++ [pdu])
      (hsck : t'.sck = pdus'.flatten.drop (env.processData t.handed pdu pdus'.flatten).2)
      (hrv : rv = 0 ↔ (env.processData t.handed pdu pdus'.flatten).1 = 0)
      (hfresh : rv = 0 → t'.Fresh) : Steps env t pdus rv t'

/-- Some bytes come in. -/
def Turn.brings (turn : Turn) : Bool :=
  match turn.recv with
  | .bytes n => n ≠ 0
  | _ => false

/-- The connection fails. -/
def Turn.fails (turn : Turn) : Bool := turn.sendFails || turn.recv matches .closed

/-- What a turn comes to. -/
inductive Turned (env : Handler) (turn : Turn) (t : ServerTrans) (pdus : List (List UInt8))
    (rv : Int) (t' : ServerTrans) : Prop
  | same (hhanded : t'.handed = t.handed) (hbytes : t'.inS ++ t'.sck = pdus.flatten)
      (hpart : Part t'.inS) (hfails : rv ≠ 0 → turn.fails) (hle : t'.sck.length ≤ t.sck.length)
      (hless : turn.brings → t.sck ≠ [] → t'.sck.length < t.sck.length)
      (hwaits : rv = 0 → Waits t' pdus) : Turned env turn t pdus rv t'
  | next (pdu : List UInt8) (pdus' : List (List UInt8)) (hpdus : pdus = pdu :: pdus')
      (hhanded : t'.handed = t.handed ++ [pdu])
      (hsck : t'.sck = pdus'.flatten.drop (env.processData t.handed pdu pdus'.flatten).2)
      (hok : rv = 0 → (env.processData t.handed pdu pdus'.flatten).1 = 0)
      (hfails : rv ≠ 0 → turn.fails ∨ (env.processData t.handed pdu pdus'.flatten).1 ≠ 0)
      (hfresh : rv = 0 → t'.Fresh) : Turned env turn t pdus rv t'

section

variable {env : Handler} {t : ServerTrans} {pdu : List UInt8} {pdus : List (List UInt8)}

/-- What is wanted fits into `in_s`. -/
theorem Wants.le_size {flags size : Nat} (h : Wants flags size pdus)
    (hpdus : ∀ pdu ∈ pdus, ClientPdu pdu) : size ≤ IN_SIZE := by
  cases h with
  | whole pdu pdus => exact (hpdus pdu List.mem_cons_self).length_le
  | _ => decide

/-- No more is wanted than a PDU. -/
theorem Wants.le_length {flags size : Nat} (h : Wants flags size (pdu :: pdus))
    (hpdu : ClientPdu pdu) : size ≤ pdu.length := by
  cases h with
  | two => exact hpdu.two_le
  | whole => exact le_rfl
  | tpkt h1 h2 h3 body => exact Nat.le_add_left 4 body.length
  | long h0 h1 h2 body => exact Nat.le_add_left 3 body.length

theorem Waits.part (h : Waits t pdus) (hpdus : ∀ pdu ∈ pdus, ClientPdu pdu) : Part t.inS := by
  obtain ⟨-, hbytes, hshort, hwants⟩ := h
  cases pdus with
  | nil =>
    rw [(List.append_eq_nil_iff.1 hbytes).1]
    exact part_nil
  | cons pdu pdus =>
    have hpdu := hpdus pdu List.mem_cons_self
    have hlt := hshort.trans_le (hwants.le_length hpdu)
    have hin : t.inS = pdu.take t.inS.length := by
      have := congrArg (List.take t.inS.length) hbytes
      rwa [List.take_left, List.flatten_cons, List.take_append_of_le_length hlt.le] at this
    refine ⟨pdu.drop t.inS.length, ?_, ?_⟩
    · rw [ne_eq, List.drop_eq_nil_iff]
      omega
    · have hpdu' : t.inS ++ pdu.drop t.inS.length = pdu := by
        conv_lhs => rw [hin]
        rw [List.length_take, min_eq_left hlt.le, List.take_append_drop]
      rwa [hpdu']

/-- Behind a PDU, the transport waits for the next one. -/
theorem ServerTrans.Fresh.waits (h : t.Fresh) (hsck : t.sck = pdus.flatten) : Waits t pdus where
  up := h.up
  bytes := by rw [h.inS, hsck, List.nil_append]
  short := by
    rw [h.inS, h.headerSize]
    exact Nat.zero_lt_two
  wants := by
    rw [h.extraFlags, h.headerSize]
    exact .two pdus

/-- Only what has been handed over and what is to be read count. -/
theorem Steps.of_same {t₁ t' : ServerTrans} {rv : Int} (h : Steps env t₁ pdus rv t')
    (hhanded : t₁.handed = t.handed) (hsck : t₁.sck = t.sck) : Steps env t pdus rv t' := by
  cases h with
  | same hh hs hwaits => exact .same (hh.trans hhanded) (hs.trans hsck) hwaits
  | next pdu pdus' hpdus hh hs hrv hfresh =>
    rw [hhanded] at hh hs hrv
    exact .next pdu pdus' hpdus hh hs hrv hfresh

theorem wholePdu_steps (hup : t.status = .UP) (hin : t.inS = pdu) (hsck : t.sck = pdus.flatten) :
    ∃ rv t', t.wholePdu env = (rv, t') ∧ Steps env t (pdu :: pdus) rv t' := by
  subst hin
  unfold ServerTrans.wholePdu
  rw [hsck]
  dsimp only
  by_cases hrv : (env.processData t.handed t.inS pdus.flatten).1 = 0
  · rw [if_neg (not_not.2 hrv)]
    exact ⟨_, _, rfl, .next t.inS pdus rfl rfl rfl (iff_of_true rfl hrv) fun _ => ⟨hup, rfl, rfl, rfl⟩⟩
  · rw [if_pos hrv]
    exact ⟨_, _, rfl, .next t.inS pdus rfl rfl rfl (iff_of_false one_ne_zero hrv)
      fun h => absurd h one_ne_zero⟩

/-- Enough of the header has been received. -/
theorem pduBytes_steps (hup : t.status = .UP)
    (hbytes : t.inS ++ t.sck = pdu ++ pdus.flatten) (hle : t.inS.length ≤ pdu.length)
    (hheader : libxrdpGetPduBytes t.inS = .ok pdu.length) :
    ∃ rv t', t.pduBytes env = .ok (rv, t') ∧ Steps env t (pdu :: pdus) rv t' := by
  unfold ServerTrans.pduBytes
  rw [hheader, Run.ok_bind]
  dsimp only
  split
  · rename_i hmore
    exact ⟨0, _, rfl, .same rfl rfl ⟨hup, hbytes, hmore, .whole pdu pdus⟩⟩
  · rename_i hall
    obtain ⟨hin, hsck⟩ := List.append_inj hbytes (by omega)
    obtain ⟨rv, t', hrun, hsteps⟩ := @wholePdu_steps env
      { t with headerSize := pdu.length, extraFlags := 3 } pdu pdus hup hin hsck
    exact ⟨rv, t', congrArg _ hrun, hsteps.of_same rfl rfl⟩

/-- The first two bytes have been received. -/
theorem twoBytes_steps (hpdus : ∀ p ∈ pdu :: pdus, ClientPdu p) (hup : t.status = .UP)
    (hbytes : t.inS ++ t.sck = pdu ++ pdus.flatten) (hlen : t.inS.length = 2) :
    ∃ rv t', t.twoBytes env = .ok (rv, t') ∧ Steps env t (pdu :: pdus) rv t' := by
  have hpdu := hpdus pdu List.mem_cons_self
  have htwo := hpdu.two_le
  have hin : t.inS = pdu.take 2 := by
    have := congrArg (List.take 2) hbytes
    rwa [List.take_append_of_le_length hlen.ge, List.take_append_of_le_length htwo,
      List.take_of_length_le hlen.le] at this
  obtain ⟨status, inS, headerSize, extraFlags, sck, handed⟩ := t
  dsimp only at hin hup hbytes
  subst hin
  unfold ServerTrans.twoBytes
  cases hpdu with
  | tpkt h1 h2 h3 body hbody hmax =>
    exact ⟨0, _, rfl, .same rfl rfl ⟨hup, hbytes, Nat.lt_succ_of_lt (Nat.lt_succ_self 2),
      .tpkt h1 h2 h3 body pdus⟩⟩
  | long h0 h1 h2 body hfast hlong hbody =>
    simp only [List.take_succ_cons, List.take_zero, if_neg hfast, if_pos ((highBit_iff h1).2 hlong)]
    exact ⟨0, _, rfl, .same rfl rfl ⟨hup, hbytes, Nat.lt_succ_self 2,
      .long h0 h1 h2 body pdus hfast hlong⟩⟩
  | short h0 h1 body hfast hshort hbody =>
    have hbit : ¬ (h1.toNat &&& 0x80 ≠ 0) := by
      rw [highBit_iff]
      omega
    have hsize : (h0 :: h1 :: body).length = h1.toNat := hbody
    have hwhole := Wants.whole (h0 :: h1 :: body) pdus
    rw [hsize] at hwhole
    simp only [List.take_succ_cons, List.take_zero, if_neg hfast, if_neg hbit]
    split
    · rename_i hmore
      exact ⟨0, _, rfl, .same rfl rfl ⟨hup, hbytes, hmore, hwhole⟩⟩
    · have hheader : libxrdpGetPduBytes [h0, h1] = .ok (h0 :: h1 :: body).length := by
        rw [hsize]
        exact pduBytes_short [] hfast hshort
      obtain ⟨rv, t', hrun, hsteps⟩ := @pduBytes_steps env
        ⟨status, [h0, h1], h1.toNat, 3, sck, handed⟩ (h0 :: h1 :: body) pdus hup hbytes htwo hheader
      exact ⟨rv, t', hrun, hsteps.of_same rfl rfl⟩

/-- **The bytes that are wanted have been received.** -/
theorem processDataIn_steps (hpdus : ∀ pdu ∈ pdus, ClientPdu pdu) (hup : t.status = .UP)
    (hbytes : t.inS ++ t.sck = pdus.flatten) (hlen : t.inS.length = t.headerSize)
    (hwants : Wants t.extraFlags t.headerSize pdus) :
    ∃ rv t', xrdpProcessDataIn env t = .ok (rv, t') ∧ Steps env t pdus rv t' := by
  unfold xrdpProcessDataIn
  generalize hflags : t.extraFlags = flags at hwants
  generalize hsize : t.headerSize = size at hwants hlen
  cases hwants with
  | two =>
    cases pdus with
    | nil =>
      have hnil : t.inS = [] := (List.append_eq_nil_iff.1 hbytes).1
      rw [hnil] at hlen
      cases hlen
    | cons pdu pdus => exact twoBytes_steps hpdus hup hbytes hlen
  | tpkt h1 h2 h3 body pdus =>
    have hpdu := hpdus _ List.mem_cons_self
    have hin := (@List.append_inj _ t.inS [3, h1, h2, h3] _ _ hbytes hlen).1
    refine @pduBytes_steps env t _ pdus hup hbytes ?_ ?_
    · rw [hlen]
      exact Nat.le_add_left 4 body.length
    · have hheader := hpdu.pduBytes []
      rw [List.append_nil, pduBytes_tpkt] at hheader
      rw [hin, pduBytes_tpkt, hheader]
  | long h0 h1 h2 body pdus hfast hlong =>
    have hpdu := hpdus _ List.mem_cons_self
    have hin := (@List.append_inj _ t.inS [h0, h1, h2] _ _ hbytes hlen).1
    refine @pduBytes_steps env t _ pdus hup hbytes ?_ ?_
    · rw [hlen]
      exact Nat.le_add_left 3 body.length
    · have hheader := hpdu.pduBytes []
      rw [List.append_nil, pduBytes_long _ _ hfast hlong] at hheader
      rw [hin, pduBytes_long _ _ hfast hlong, hheader]
  | whole pdu pdus =>
    obtain ⟨hin, hsck⟩ := List.append_inj hbytes hlen
    obtain ⟨rv, t', hrun, hsteps⟩ := @wholePdu_steps env t pdu pdus hup hin hsck
    exact ⟨rv, t', congrArg _ hrun, hsteps⟩

/-- What waits to be sent is sent behind a call of `trans_data_in`. -/
theorem Steps.sendWaiting {t₁ t' : ServerTrans} {rv : Int} (h : Steps env t₁ pdus rv t')
    (hpdus : ∀ pdu ∈ pdus, ClientPdu pdu) (turn : Turn) (hhanded : t₁.handed = t.handed)
    (hle : t₁.sck.length ≤ t.sck.length)
    (hless : turn.brings → t.sck ≠ [] → t₁.sck.length < t.sck.length) :
    ∃ rv' t'', t'.sendWaiting turn rv = (rv', t'') ∧ Turned env turn t pdus rv' t'' := by
  unfold ServerTrans.sendWaiting
  by_cases hsend : turn.sendFails
  · have hfails : turn.fails := by simp [Turn.fails, hsend]
    rw [if_pos hsend]
    refine ⟨1, _, rfl, ?_⟩
    cases h with
    | same hh hs hwaits =>
      rw [← hs] at hle hless
      exact .same (hh.trans hhanded) hwaits.bytes (hwaits.part hpdus) (fun _ => hfails) hle hless
        fun h => absurd h one_ne_zero
    | next pdu pdus' hcons hh hs _ _ =>
      rw [hhanded] at hh hs
      exact .next pdu pdus' hcons hh hs (fun h => absurd h one_ne_zero) (fun _ => .inl hfails)
        fun h => absurd h one_ne_zero
  · rw [if_neg hsend]
    refine ⟨rv, t', rfl, ?_⟩
    cases h with
    | same hh hs hwaits =>
      rw [← hs] at hle hless
      exact .same (hh.trans hhanded) hwaits.bytes (hwaits.part hpdus) (fun h => absurd rfl h) hle
        hless fun _ => hwaits
    | next pdu pdus' hcons hh hs hrv hfresh =>
      rw [hhanded] at hh hs hrv
      exact .next pdu pdus' hcons hh hs hrv.1 (fun h => .inr (mt hrv.2 h)) hfresh

/-- Some bytes have been read. -/
theorem recv_steps (hpdus : ∀ pdu ∈ pdus, ClientPdu pdu) (h : Waits t pdus) (n : Nat) :
    ∃ t₁ rv t', t.recv n (t.headerSize - t.inS.length) = .ok t₁ ∧ t₁.handed = t.handed ∧
      t₁.sck = t.sck.drop (min n (t.headerSize - t.inS.length)) ∧ t₁.dataIn env = .ok (rv, t') ∧
      Steps env t₁ pdus rv t' := by
  obtain ⟨bytes, hbytes⟩ : ∃ bytes, bytes = t.sck.take (min n (t.headerSize - t.inS.length)) :=
    ⟨_, rfl⟩
  have hmax : t.inS.length + bytes.length ≤ t.headerSize := by
    have := h.short
    rw [hbytes, List.length_take]
    omega
  obtain ⟨t₁, ht₁⟩ : ∃ t₁ : ServerTrans, t₁ = { t with
      inS := t.inS ++ bytes, sck := t.sck.drop (min n (t.headerSize - t.inS.length)) } := ⟨_, rfl⟩
  have hstream : t₁.inS ++ t₁.sck = pdus.flatten := by
    rw [← h.bytes, ht₁, hbytes]
    dsimp only
    rw [List.append_assoc, List.take_append_drop]
  have hrecv : t.recv n (t.headerSize - t.inS.length) = .ok t₁ := by
    unfold ServerTrans.recv
    rw [← hbytes, if_pos (hmax.trans (h.wants.le_size hpdus)), ht₁]
  have hup : t₁.status = .UP := by
    rw [ht₁]
    exact h.up
  have hwants : Wants t₁.extraFlags t₁.headerSize pdus := by
    rw [ht₁]
    exact h.wants
  have hhanded : t₁.handed = t.handed := by rw [ht₁]
  have hsck : t₁.sck = t.sck.drop (min n (t.headerSize - t.inS.length)) := by rw [ht₁]
  by_cases hall : t₁.inS.length = t₁.headerSize
  · obtain ⟨rv, t', hrun, hsteps⟩ := processDataIn_steps hpdus hup hstream hall hwants
    refine ⟨t₁, rv, t', hrecv, hhanded, hsck, ?_, hsteps⟩
    rw [ServerTrans.dataIn, if_pos hall, hrun]
  · refine ⟨t₁, 0, t₁, hrecv, hhanded, hsck, ?_, .same rfl rfl ⟨hup, hstream, ?_, hwants⟩⟩
    · rw [ServerTrans.dataIn, if_neg hall]
    · have hlen : t₁.inS.length = t.inS.length + bytes.length := by rw [ht₁, List.length_append]
      have hsize : t₁.headerSize = t.headerSize := by rw [ht₁]
      omega

/-- A turn that brings some bytes. -/
theorem checkWaitObjs_bytes {n : Nat} {sendFails : Bool} {t₁ t' : ServerTrans} {rv : Int}
    (hup : t.status = .UP) (hrecv : t.recv n (t.headerSize - t.inS.length) = .ok t₁)
    (hin : t₁.dataIn env = .ok (rv, t')) : transCheckWaitObjs env ⟨.bytes n, sendFails⟩ t =
      .ok (t'.sendWaiting ⟨.bytes n, sendFails⟩ rv) := by
  unfold transCheckWaitObjs
  rw [if_neg (not_not.2 hup)]
  simp only [and_false, if_false, hrecv, Run.ok_bind, hin, Bool.false_eq_true]

/-- **A call of `trans_check_wait_objs`** -/
theorem checkWaitObjs_turned (hpdus : ∀ pdu ∈ pdus, ClientPdu pdu) (h : Waits t pdus)
    (turn : Turn) : ∃ rv t', transCheckWaitObjs env turn t = .ok (rv, t') ∧
      Turned env turn t pdus rv t' := by
  have hsame : Steps env t pdus 0 t := .same rfl rfl h
  have hmore : t.headerSize - t.inS.length > 0 := by
    have := h.short
    omega
  obtain ⟨recv, sendFails⟩ := turn
  cases recv with
  | none =>
    obtain ⟨rv, t', hsend, hturned⟩ := hsame.sendWaiting hpdus ⟨.none, sendFails⟩ rfl le_rfl
      fun h => absurd h Bool.false_ne_true
    refine ⟨rv, t', ?_, hturned⟩
    unfold transCheckWaitObjs
    rw [if_neg (not_not.2 h.up)]
    exact congrArg _ hsend
  | wouldBlock =>
    obtain ⟨rv, t', hsend, hturned⟩ := hsame.sendWaiting hpdus ⟨.wouldBlock, sendFails⟩ rfl le_rfl
      fun h => absurd h Bool.false_ne_true
    refine ⟨rv, t', ?_, hturned⟩
    have hin : t.dataIn env = .ok (0, t) := if_neg h.short.ne
    unfold transCheckWaitObjs
    rw [if_neg (not_not.2 h.up)]
    simp only [and_false, if_false, Run.ok_bind, hin, hsend, Bool.false_eq_true]
  | closed =>
    refine ⟨1, { t with status := .DOWN }, ?_, .same rfl h.bytes (h.part hpdus)
      (fun _ => Bool.or_true _) le_rfl (fun h => absurd h Bool.false_ne_true) fun h => absurd h one_ne_zero⟩
    unfold transCheckWaitObjs
    rw [if_neg (not_not.2 h.up)]
    simp only [hmore, and_true, if_true]
  | bytes n =>
    obtain ⟨t₁, rv, t', hrecv, hhanded, hsck, hin, hsteps⟩ := @recv_steps env t pdus hpdus h n
    have hle : t₁.sck.length ≤ t.sck.length := by
      rw [hsck, List.length_drop]
      exact Nat.sub_le _ _
    have hless : Turn.brings ⟨.bytes n, sendFails⟩ → t.sck ≠ [] → t₁.sck.length < t.sck.length := by
      intro hbrings hne
      have hn : n ≠ 0 := of_decide_eq_true hbrings
      have hpos := List.length_pos_of_ne_nil hne
      rw [hsck, List.length_drop]
      omega
    obtain ⟨rv', t'', hsend, hturned⟩ :=
      hsteps.sendWaiting hpdus ⟨.bytes n, sendFails⟩ hhanded hle hless
    exact ⟨rv', t'', (checkWaitObjs_bytes h.up hrecv hin).trans (congrArg _ hsend), hturned⟩

/-- A PDU that is handed over has not been read as a whole before. -/
theorem Waits.sck_length (h : Waits t (pdu :: pdus)) (hpdu : ClientPdu pdu) :
    pdus.flatten.length < t.sck.length := by
  have hlt := h.short.trans_le (h.wants.le_length hpdu)
  have hlen := congrArg List.length h.bytes
  simp only [List.flatten_cons, List.length_append] at hlen
  omega

end

/-! ## Runs -/

/-- What the calls in the main loop come to: some PDUs have been handed over, and a part of the
next one has been received. -/
structure Ran (env : Handler) (turns : List Turn) (t : ServerTrans) (pdus : List (List UInt8))
    (rv : Int) (t' : ServerTrans) (done pdus' : List (List UInt8)) (part : List UInt8) : Prop where
  run : mainLoop env turns t = .ok (rv, t')
  split : pdus = done ++ pdus'
  handed : t'.handed = t.handed ++ done
  bytes : part ++ t'.sck = pdus'.flatten
  isPart : Part part
  waits : rv = 0 → part = t'.inS ∧ Waits t' pdus'
  /-- Each turn that brings something makes it a byte less, as long as there are any. -/
  progress : rv = 0 → min (turns.countP Turn.brings) t.sck.length + t'.sck.length ≤ t.sck.length
  fails : rv ≠ 0 → (∃ turn ∈ turns, turn.fails) ∨
    ∃ before pdu, t'.handed = before ++ [pdu] ∧ (env.processData before pdu t'.sck).1 ≠ 0

/-- No PDU that is handed over, after some others, makes what handles it read what is behind it. -/
def Handler.Quiet (env : Handler) : List (List UInt8) → List (List UInt8) → Prop
  | _, [] => True
  | done, pdu :: pdus =>
    min (env.processData done pdu pdus.flatten).2 pdus.flatten.length = 0 ∧
      ((env.processData done pdu pdus.flatten).1 = 0 → env.Quiet (done ++ [pdu]) pdus)

section

variable {env : Handler} {t : ServerTrans} {pdu : List UInt8} {pdus : List (List UInt8)}

theorem mainLoop_cons_zero {turn : Turn} {t' : ServerTrans}
    (h : transCheckWaitObjs env turn t = .ok (0, t')) (turns : List Turn) :
    mainLoop env (turn :: turns) t = mainLoop env turns t' := by
  rw [mainLoop, h, Run.ok_bind]
  exact if_neg (not_not.2 rfl)

theorem mainLoop_cons_fails {turn : Turn} {rv : Int} {t' : ServerTrans}
    (h : transCheckWaitObjs env turn t = .ok (rv, t')) (hrv : rv ≠ 0) (turns : List Turn) :
    mainLoop env (turn :: turns) t = .ok (rv, t') := by
  rw [mainLoop, h, Run.ok_bind]
  exact if_pos hrv

theorem mainLoop_append {turns : List Turn} {t' : ServerTrans}
    (h : mainLoop env turns t = .ok (0, t')) (more : List Turn) :
    mainLoop env (turns ++ more) t = mainLoop env more t' := by
  induction turns generalizing t with
  | nil =>
    cases h
    rfl
  | cons turn turns ih =>
    cases hturn : transCheckWaitObjs env turn t with
    | error e =>
      rw [mainLoop, hturn] at h
      cases h
    | ok r =>
      obtain ⟨rv, t₁⟩ := r
      by_cases hrv : rv = 0
      · subst hrv
        rw [mainLoop_cons_zero hturn] at h
        rw [List.cons_append, mainLoop_cons_zero hturn]
        exact ih h
      · rw [mainLoop_cons_fails hturn hrv] at h
        cases h
        exact absurd rfl hrv

/-- **The calls in the main loop**, if what handles a PDU leaves the next one alone. -/
theorem mainLoop_spec (hpdus : ∀ pdu ∈ pdus, ClientPdu pdu) (turns : List Turn)
    (h : Waits t pdus) (hquiet : env.Quiet t.handed pdus) :
    ∃ rv t' done pdus' part, Ran env turns t pdus rv t' done pdus' part := by
  induction turns generalizing pdus t with
  | nil =>
    refine ⟨0, t, [], pdus, t.inS, rfl, rfl, (List.append_nil _).symm, h.bytes, h.part hpdus,
      fun _ => ⟨rfl, h⟩, fun _ => ?_, fun h => absurd rfl h⟩
    rw [List.countP_nil, Nat.zero_min, Nat.zero_add]
  | cons turn turns ih =>
    obtain ⟨rv, t₁, hrun, hturned⟩ := @checkWaitObjs_turned env t pdus hpdus h turn
    have hcount : (turn :: turns).countP Turn.brings =
        turns.countP Turn.brings + if turn.brings then 1 else 0 := List.countP_cons
    cases hturned with
    | same hhanded hbytes hpart hfails hle hless hwaits =>
      by_cases hrv : rv = 0
      · subst hrv
        rw [← hhanded] at hquiet
        obtain ⟨rv, t', done, pdus', part, hran⟩ := ih hpdus (hwaits rfl) hquiet
        refine ⟨rv, t', done, pdus', part, (mainLoop_cons_zero hrun turns).trans hran.run, hran.split,
          by rw [hran.handed, hhanded], hran.bytes, hran.isPart, hran.waits, fun hrv => ?_,
          fun hrv => ?_⟩
        · have hsum := hran.progress hrv
          rw [hcount]
          split
          · have hsome : t.sck.length ≠ 0 → t₁.sck.length < t.sck.length := fun hne =>
              hless ‹_› (mt List.length_eq_zero_iff.2 hne)
            omega
          · omega
        · exact (hran.fails hrv).imp_left fun hfails => by
            obtain ⟨turn, hmem, hfail⟩ := hfails
            exact ⟨turn, List.mem_cons_of_mem _ hmem, hfail⟩
      · exact ⟨rv, t₁, [], pdus, t₁.inS, mainLoop_cons_fails hrun hrv turns, rfl,
          by rw [hhanded, List.append_nil], hbytes, hpart, fun h => absurd h hrv,
          fun h => absurd h hrv, fun _ => .inl ⟨turn, List.mem_cons_self, hfails hrv⟩⟩
    | next pdu pdus₁ hcons hhanded hsck hok hfails hfresh =>
      subst hcons
      have hlt := h.sck_length (hpdus pdu List.mem_cons_self)
      have hall : t₁.sck = pdus₁.flatten := by
        rw [hsck, List.drop_eq_drop_min, hquiet.1, List.drop_zero]
      by_cases hrv : rv = 0
      · subst hrv
        have hquiet' := hquiet.2 (hok rfl)
        rw [← hhanded] at hquiet'
        obtain ⟨rv, t', done, pdus', part, hran⟩ :=
          ih (fun p hp => hpdus p (List.mem_cons_of_mem _ hp)) ((hfresh rfl).waits hall) hquiet'
        refine ⟨rv, t', pdu :: done, pdus', part, (mainLoop_cons_zero hrun turns).trans hran.run,
          by rw [hran.split, List.cons_append], ?_, hran.bytes, hran.isPart, hran.waits, fun hrv => ?_,
          fun hrv => ?_⟩
        · rw [hran.handed, hhanded, List.append_assoc, List.singleton_append]
        · have hsum := hran.progress hrv
          rw [hall] at hsum
          rw [hcount]
          split <;> omega
        · exact (hran.fails hrv).imp_left fun hfails => by
            obtain ⟨turn, hmem, hfail⟩ := hfails
            exact ⟨turn, List.mem_cons_of_mem _ hmem, hfail⟩
      · refine ⟨rv, t₁, [pdu], pdus₁, [], mainLoop_cons_fails hrun hrv turns, rfl, hhanded, hall,
          part_nil, fun h => absurd h hrv, fun h => absurd h hrv, fun _ => ?_⟩
        obtain hfail | hfail := hfails hrv
        · exact .inl ⟨turn, List.mem_cons_self, hfail⟩
        · rw [← hall] at hfail
          exact .inr ⟨t.handed, pdu, hhanded, hfail⟩

end

/-! ## What is handed over -/

/-- A run hands over what a parser finds in what has been received: every PDU is handed over as
soon as all of it has been received, with nothing left in the buffer, and as long as no call fails
some bytes of the next one are still missing.  Every turn that brings something is used, and a call
fails only if the connection does, or at a PDU that is not accepted. -/
structure Handler.FramedAs (env : Handler) (pdus : List (List UInt8)) (turns : List Turn) (rv : Int)
    (t : ServerTrans) (received : List UInt8) : Prop where
  run : mainLoop env turns (.start pdus.flatten) = .ok (rv, t)
  stream : received ++ t.sck = pdus.flatten
  parsed : t.handed = parsePdus received.length received
  all : t.sck = [] → t.handed = pdus
  missing : rv = 0 → received = t.handed.flatten ++ t.inS ∧ t.inS.length < t.headerSize
  fresh : rv = 0 → ∀ turn t', transCheckWaitObjs env turn t = .ok (0, t') →
    t'.handed = t.handed ∨ ∃ pdu, t'.handed = t.handed ++ [pdu] ∧ t'.inS = []
  progress : rv = 0 → min (turns.countP Turn.brings) pdus.flatten.length ≤ received.length
  fails : rv ≠ 0 → (∃ turn ∈ turns, turn.fails) ∨
    ∃ before pdu, t.handed = before ++ [pdu] ∧ (env.processData before pdu t.sck).1 ≠ 0

/-- What the turns bring of the stream is framed. -/
def Handler.Framed (env : Handler) (pdus : List (List UInt8)) (turns : List Turn) : Prop :=
  ∃ rv t received, env.FramedAs pdus turns rv t received

section

variable {env : Handler} {t : ServerTrans} {pdu : List UInt8} {pdus : List (List UInt8)}

/-- A session that has just come up waits for the first of the PDUs. -/
theorem start_waits (pdus : List (List UInt8)) : Waits (.start pdus.flatten) pdus :=
  ⟨rfl, rfl, Nat.zero_lt_two, .two pdus⟩

/-- **PDUs are framed** if what handles one leaves the next one alone. -/
theorem framed_of_quiet (hpdus : ∀ pdu ∈ pdus, ClientPdu pdu) (hquiet : env.Quiet [] pdus)
    (turns : List Turn) : env.Framed pdus turns := by
  obtain ⟨rv, t, done, pdus', part, hran⟩ := mainLoop_spec hpdus turns (start_waits pdus) hquiet
  have hdone : t.handed = done := hran.handed
  have hsplit := hran.split
  subst hsplit
  have hstream : (done.flatten ++ part) ++ t.sck = (done ++ pdus').flatten := by
    rw [List.append_assoc, hran.bytes, List.flatten_append]
  have hparse : t.handed = parsePdus (done.flatten ++ part).length (done.flatten ++ part) := by
    rw [parsePdus_flatten (fun p hp => hpdus p (List.mem_append_left _ hp)) hran.isPart le_rfl, hdone]
  refine ⟨rv, t, done.flatten ++ part, hran.run, hstream, hparse, fun hall => ?_, fun hrv => ?_,
    fun hrv turn t' hturn => ?_, fun hrv => ?_, hran.fails⟩
  · have hreceived : done.flatten ++ part = (done ++ pdus').flatten ++ [] := by
      rw [← hstream, hall, List.append_nil, List.append_nil]
    rw [hparse, hreceived, parsePdus_flatten hpdus part_nil le_rfl]
  · obtain ⟨hin, hwait⟩ := hran.waits hrv
    exact ⟨by rw [hin, hdone], hwait.short⟩
  · obtain ⟨rv', t'', hrun, hturned⟩ := @checkWaitObjs_turned env t pdus'
      (fun p hp => hpdus p (List.mem_append_right _ hp)) (hran.waits hrv).2 turn
    rw [hrun] at hturn
    cases hturn
    cases hturned with
    | same hsame => exact .inl hsame
    | next pdu _ _ hnext _ _ _ hfresh => exact .inr ⟨pdu, hnext, (hfresh rfl).inS⟩
  · have hsum : min _ (done ++ pdus').flatten.length + t.sck.length ≤ (done ++ pdus').flatten.length :=
      hran.progress hrv
    have hlen := congrArg List.length hstream
    rw [List.length_append] at hlen
    omega

/-- Fed byte by byte, the transport hands over the next PDU. -/
theorem greedy_hands (hpdus : ∀ p ∈ pdu :: pdus, ClientPdu p) (h : Waits t (pdu :: pdus)) :
    ∃ turns rv t', mainLoop env turns t = .ok (rv, t') ∧ t'.handed = t.handed ++ [pdu] ∧
      t'.sck = pdus.flatten.drop (env.processData t.handed pdu pdus.flatten).2 ∧
      ((env.processData t.handed pdu pdus.flatten).1 = 0 → rv = 0 ∧ t'.Fresh) := by
  induction hm : t.sck.length using Nat.strongRecOn generalizing t with
  | ind m ih =>
    have hlt := h.sck_length (hpdus pdu List.mem_cons_self)
    obtain ⟨rv, t₁, hrun, hturned⟩ := @checkWaitObjs_turned env t _ hpdus h ⟨.bytes 1, false⟩
    cases hturned with
    | same hhanded _ _ hfails _ hless hwaits =>
      have hrv : rv = 0 := by
        by_contra hrv
        exact absurd (hfails hrv) Bool.false_ne_true
      subst hrv
      have hshorter : t₁.sck.length < m := by
        rw [← hm]
        exact hless rfl (List.ne_nil_of_length_pos (by omega))
      obtain ⟨turns, rv, t', hloop, hrest⟩ := ih _ hshorter (hwaits rfl) rfl
      rw [hhanded] at hrest
      exact ⟨_ :: turns, rv, t', (mainLoop_cons_zero hrun turns).trans hloop, hrest⟩
    | next pdu' pdus' hcons hhanded hsck hok hfails hfresh =>
      cases hcons
      have hloop : mainLoop env [⟨.bytes 1, false⟩] t = .ok (rv, t₁) := by
        by_cases hrv : rv = 0
        · subst hrv
          exact mainLoop_cons_zero hrun []
        · exact mainLoop_cons_fails hrun hrv []
      refine ⟨_, rv, t₁, hloop, hhanded, hsck, fun haccept => ?_⟩
      have hrv : rv = 0 := by
        by_contra hrv
        obtain hfail | hfail := hfails hrv
        · exact absurd hfail Bool.false_ne_true
        · exact hfail haccept
      exact ⟨hrv, hfresh hrv⟩

/-- What handles a PDU reads the next one as a whole, if it reads anything. -/
def Handler.ReadsWhole (env : Handler) : Prop :=
  ∀ done pdu next more, ClientPdu next → (env.processData done pdu (next ++ more)).2 ≠ 0 →
    next.length ≤ (env.processData done pdu (next ++ more)).2

/-- A PDU is read without being handed over, if what handles another one reads it. -/
theorem swallows (hwhole : env.ReadsWhole) (hpdus : ∀ pdu ∈ pdus, ClientPdu pdu) (h : Waits t pdus)
    (hloud : ¬ env.Quiet t.handed pdus) :
    ∃ turns rv t' before pdu next more, mainLoop env turns t = .ok (rv, t') ∧
      pdus = before ++ pdu :: next :: more ∧ t'.handed = t.handed ++ before ++ [pdu] ∧
      t'.sck.length ≤ more.flatten.length := by
  induction pdus generalizing t with
  | nil => exact absurd trivial hloud
  | cons pdu pdus ih =>
    obtain ⟨turns, rv, t₁, hloop, hhanded, hsck, haccept⟩ := @greedy_hands env t pdu pdus hpdus h
    by_cases hread : min (env.processData t.handed pdu pdus.flatten).2 pdus.flatten.length = 0
    · have hok : (env.processData t.handed pdu pdus.flatten).1 = 0 := by
        by_contra hrv
        exact hloud ⟨hread, fun h => absurd h hrv⟩
      have hloud' : ¬ env.Quiet t₁.handed pdus := by
        rw [hhanded]
        exact fun h => hloud ⟨hread, fun _ => h⟩
      have hall : t₁.sck = pdus.flatten := by
        rw [hsck, List.drop_eq_drop_min, hread, List.drop_zero]
      obtain ⟨hrv, hfresh⟩ := haccept hok
      subst hrv
      obtain ⟨turns', rv, t', before, pdu', next, more, hloop', hsplit, hhanded', hless⟩ :=
        ih (fun p hp => hpdus p (List.mem_cons_of_mem _ hp)) (hfresh.waits hall) hloud'
      refine ⟨turns ++ turns', rv, t', pdu :: before, pdu', next, more,
        (mainLoop_append hloop turns').trans hloop', by rw [hsplit, List.cons_append], ?_, hless⟩
      rw [hhanded', hhanded]
      simp
    · cases pdus with
      | nil => exact absurd (Nat.min_zero _) hread
      | cons next more =>
        have hnext := hpdus next (List.mem_cons_of_mem _ List.mem_cons_self)
        have hsome := hwhole t.handed pdu next more.flatten hnext fun h0 => hread (by
          rw [List.flatten_cons, h0, Nat.zero_min])
        refine ⟨turns, rv, t₁, [], pdu, next, more, hloop, rfl, by rw [hhanded, List.append_nil], ?_⟩
        rw [hsck, List.length_drop, List.flatten_cons, List.length_append]
        omega

/-- **PDUs are framed only so**: if what handles a PDU reads the next one, that one has been
received and is not handed over. -/
theorem quiet_of_framed (hwhole : env.ReadsWhole) (hpdus : ∀ pdu ∈ pdus, ClientPdu pdu)
    (hframed : ∀ turns, env.Framed pdus turns) : env.Quiet [] pdus := by
  by_contra hloud
  obtain ⟨turns, rv, t, before, pdu, next, more, hloop, hsplit, hhanded, hless⟩ :=
    swallows hwhole hpdus (start_waits pdus) hloud
  obtain ⟨rv', t', received, hf⟩ := hframed turns
  have hrun := hf.run
  rw [hloop] at hrun
  cases hrun
  subst hsplit
  -- what has been received goes beyond the next PDU
  have hstream : received ++ t.sck = (before ++ [pdu, next]).flatten ++ more.flatten := by
    rw [hf.stream]
    simp
  obtain ⟨extra, hextra⟩ : (before ++ [pdu, next]).flatten <+: received := by
    refine List.prefix_of_prefix_length_le ⟨more.flatten, hstream.symm⟩ ⟨t.sck, rfl⟩ ?_
    have hlen := congrArg List.length hstream
    rw [List.length_append, List.length_append] at hlen
    omega
  have hparsed := hf.parsed
  obtain ⟨fuel, hparse⟩ := @parsePdus_append (before ++ [pdu, next])
    (fun p hp => hpdus p (by simp at hp ⊢; tauto)) extra _ le_rfl
  rw [← hextra, hparse, hhanded] at hparsed
  have hlen := congrArg List.length hparsed
  simp [ServerTrans.start] at hlen

end

end Xrdp.Transport
