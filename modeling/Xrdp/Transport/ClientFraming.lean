import Xrdp.Recv.ForceReads
import Xrdp.Transport.Framing

/-!
# PDUs of a client, and what is done with them

`xrdp_process_data_in` hands the PDUs to `libxrdp_process_data`, whose layers read the next packet
themselves behind a channel join request: `libxrdp_force_read` is "only used during connection",
but `xrdp_mcs_recv` calls it in a running session too.

* `Layers`, `Layers.handler` — what `libxrdp_process_data` does with a PDU.
* `Layers.ReadsOn` — the PDUs behind which it reads on.
* `client_framing_iff` — the PDUs are handed over as a sequential parser finds them, however they
  arrive, just if no such PDU is followed by another.
-/

namespace Xrdp.Transport

open Xrdp.Recv (Session Env libxrdpProcessData forceReadLeft)

/-- What there is besides the PDUs. -/
structure Layers where
  /-- What is done while the client connects. -/
  connect : List UInt8 → Int × Bool × Nat
  /-- `in_s` and the state of the layers, after some PDUs. -/
  session : List (List UInt8) → Session
  /-- What the rest of the program does in the rounds over the next PDU. -/
  envs : List (List UInt8) → Nat → Env
  /-- The rounds after which a call of `libxrdp_process_data` has not returned. -/
  fuel : Nat

/-- What `libxrdp_process_data` starts with. -/
def Layers.packet (L : Layers) (done : List (List UInt8)) (pdu sck : List UInt8) : Session :=
  { L.session done with
    cells := writeAt (L.session done).cells 0 pdu
    p := 0
    end_ := pdu.length
    nextPacket := none
    wire := sck
    cont := true
    deadLockCounter := 0 }

/-- `libxrdp_process_data` for the PDUs of a session. -/
def Layers.handler (L : Layers) : Handler where
  connect := L.connect
  processData done pdu sck :=
    let (rv, left) := libxrdpProcessData L.fuel (L.envs done) (L.packet done pdu sck)
    (rv, sck.length - left.length)

/-- A PDU is, or leads to, a channel join request: the next packet is read behind it. -/
def Layers.ReadsOn (L : Layers) (done : List (List UInt8)) (pdu : List UInt8) : Prop :=
  Recv.ReadsOn L.fuel (L.envs done) (L.packet done pdu [])

/-- A PDU with nothing behind it is processed without an error. -/
def Layers.Accepts (L : Layers) (done : List (List UInt8)) (pdu : List UInt8) : Prop :=
  (libxrdpProcessData L.fuel (L.envs done) (L.packet done pdu [])).1 = 0

/-- No PDU that is handed over and reads on is followed by another. -/
def Layers.Quiet (L : Layers) : List (List UInt8) → List (List UInt8) → Prop
  | _, [] => True
  | done, pdu :: pdus =>
    (L.ReadsOn done pdu → pdus = []) ∧ (L.Accepts done pdu → L.Quiet (done ++ [pdu]) pdus)

/-! ## What is read -/

/-- The next PDU is read as a whole, or more than it. -/
theorem forceReadLeft_pdu {next : List UInt8} (h : ClientPdu next) (more : List UInt8) :
    (forceReadLeft (next ++ more)).length ≤ more.length := by
  have hbytes : 4 ≤ (next ++ more).length →
      Recv.libxrdpGetPduBytes ((next ++ more).take 4) = next.length := by
    intro hlong
    cases h with
    | tpkt h1 h2 h3 body hlen hmax => exact hlen.symm
    | short h0 h1 body hfast hshort hlen =>
      have hbit : ¬ (h1.toNat &&& 0x80 ≠ 0) := by
        rw [highBit_iff]
        omega
      have hfast' : h0.toNat ≠ 3 := fun h => hfast (UInt8.toNat_inj.1 h)
      change (if h0.toNat = 3 then _ else if h1.toNat &&& 0x80 ≠ 0 then _ else h1.toNat) = _
      rw [if_neg hfast', if_neg hbit]
      exact hlen.symm
    | long h0 h1 h2 body hfast hhigh hlen =>
      have hfast' : h0.toNat ≠ 3 := fun h => hfast (UInt8.toNat_inj.1 h)
      change (if h0.toNat = 3 then _ else if h1.toNat &&& 0x80 ≠ 0 then
        256 * (h1.toNat &&& 0x7F) + h2.toNat else _) = _
      rw [if_neg hfast', if_pos ((highBit_iff h1).2 hhigh), lowBits h1 hhigh]
      exact hlen.symm
  have hmax := h.length_le
  have htwo := h.two_le
  unfold IN_SIZE at hmax
  unfold forceReadLeft
  dsimp only
  split
  · exact Nat.zero_le _
  · rename_i hlong
    rw [hbytes (by omega), if_neg (by omega), List.length_drop, List.length_append]
    omega

section

variable {L : Layers} {done : List (List UInt8)} {pdu : List UInt8}

/-- A PDU that does not read on is processed as if nothing else were there. -/
theorem handler_apart (h : ¬ L.ReadsOn done pdu) (sck : List UInt8) :
    ((L.handler.processData done pdu sck).1 = 0 ↔ L.Accepts done pdu) ∧
      (L.handler.processData done pdu sck).2 = 0 := by
  have hsame := Recv.processData_apart h sck
  have hpacket : (L.packet done pdu []).withWire sck = L.packet done pdu sck := rfl
  rw [hpacket] at hsame
  unfold Layers.handler Layers.Accepts
  dsimp only
  rw [hsame]
  exact ⟨Iff.rfl, Nat.sub_self _⟩

/-- Behind a PDU that reads on, the next one is read as a whole. -/
theorem handler_readsOn (h : L.ReadsOn done pdu) {next : List UInt8} (hnext : ClientPdu next)
    (more : List UInt8) : next.length ≤ (L.handler.processData done pdu (next ++ more)).2 := by
  have hleft := Recv.processData_joins h (next ++ more)
  have hpacket : (L.packet done pdu []).withWire (next ++ more) = L.packet done pdu (next ++ more) := rfl
  have hmore := forceReadLeft_pdu hnext more
  rw [hpacket] at hleft
  unfold Layers.handler
  dsimp only
  rw [List.length_append]
  omega

theorem handler_readsWhole (L : Layers) : L.handler.ReadsWhole := by
  intro done pdu next more hnext hread
  by_cases h : L.ReadsOn done pdu
  · exact handler_readsOn h hnext more
  · exact absurd (handler_apart h (next ++ more)).2 hread

/-- What handles the PDUs leaves the next one alone. -/
theorem handler_quiet_iff (L : Layers) (done : List (List UInt8)) {pdus : List (List UInt8)}
    (hpdus : ∀ pdu ∈ pdus, ClientPdu pdu) : L.handler.Quiet done pdus ↔ L.Quiet done pdus := by
  induction pdus generalizing done with
  | nil => exact Iff.rfl
  | cons pdu pdus ih =>
    have hrest := ih (done ++ [pdu]) fun p hp => hpdus p (List.mem_cons_of_mem _ hp)
    unfold Handler.Quiet Layers.Quiet
    rw [hrest]
    by_cases h : L.ReadsOn done pdu
    · cases pdus with
      | nil => simp [Layers.Quiet]
      | cons next more =>
        have hnext := hpdus next (List.mem_cons_of_mem _ List.mem_cons_self)
        have htwo := hnext.two_le
        have hread := handler_readsOn h hnext more.flatten
        refine iff_of_false (fun hquiet => ?_) fun hquiet => ?_
        · have hmin := hquiet.1
          rw [List.flatten_cons, List.length_append] at hmin
          omega
        · exact absurd (hquiet.1 h) (List.cons_ne_nil next more)
    · obtain ⟨haccept, hread⟩ := handler_apart h pdus.flatten
      rw [haccept, hread, Nat.zero_min]
      exact and_congr (iff_of_true rfl fun hr => absurd hr h) Iff.rfl

end

/-- **The PDUs of a client** are handed over as a sequential parser finds them, however they arrive,
just if no PDU that is handed over and leads to a channel join request is followed by another. -/
theorem client_framing_iff (L : Layers) (pdus : List (List UInt8))
    (hpdus : ∀ pdu ∈ pdus, ClientPdu pdu) :
    (∀ turns, L.handler.Framed pdus turns) ↔ L.Quiet [] pdus := by
  rw [← handler_quiet_iff L [] hpdus]
  exact ⟨quiet_of_framed (handler_readsWhole L) hpdus, framed_of_quiet hpdus⟩

/-- A packet that is processed in one round is no join request unless the round starts at one. -/
theorem readsOn_one {fuel : Nat} {envs : Nat → Env} {s : Session} (hjoins : ¬ s.Joins)
    (hone : Recv.iteration (envs 0) s = none) : ¬ Recv.ReadsOn fuel envs s := by
  rintro ⟨k, -, s', hrounds, -, hj⟩
  cases k with
  | zero =>
    cases hrounds
    exact hjoins hj
  | succ k =>
    rw [Recv.rounds_succ, hone] at hrounds
    cases hrounds

/-- Layers that do nothing with the PDUs. -/
def quietLayers : Layers where
  connect _ := (0, true, 0)
  session _ := Recv.sessionOf []
  envs _ _ := Recv.quietEnv
  fuel := 8

/-- A key is pressed. -/
def keyPress : List UInt8 := [4, 4, 0, 0x1E]

/-- A synchronise PDU. -/
def synchronise : List UInt8 :=
  [3, 0, 0, 32, 2, 0xF0, 0x80, 100, 0, 0, 3, 0xEB, 0x70, 18,
    18, 0, 0x17, 0, 0xEA, 3,
    0, 0, 0, 0, 0, 0, 0, 0, 31, 0, 0, 0]

/-- A request for channel 1003. -/
def channelJoin : List UInt8 := [3, 0, 0, 12, 2, 0xF0, 0x80, 0x38, 0, 3, 3, 0xEB]

theorem keyPress_pdu : ClientPdu keyPress := .short 4 4 [0, 0x1E] (by decide) (by decide) rfl

theorem channelJoin_pdu : ClientPdu channelJoin :=
  .tpkt 0 0 12 [2, 0xF0, 0x80, 0x38, 0, 3, 3, 0xEB] rfl (by decide)

/-- A key press, a synchronise PDU, and a join request with nothing behind it. -/
theorem client_framing_joinLast :
    quietLayers.Quiet [] [keyPress, synchronise, channelJoin] ∧
      ∀ turns, quietLayers.handler.Framed [keyPress, synchronise, channelJoin] turns := by
  have hkey : ¬ quietLayers.ReadsOn [] keyPress := by
    refine readsOn_one (fun h => ?_) rfl
    have hfast : (quietLayers.packet [] keyPress []).byte 0 = 4 := rfl
    exact absurd (hfast.symm.trans h.2.1) (by decide)
  have hsync : ¬ quietLayers.ReadsOn [keyPress] synchronise := readsOn_one (fun h => h.2.2 rfl) rfl
  have hquiet : quietLayers.Quiet [] [keyPress, synchronise, channelJoin] :=
    ⟨fun h => absurd h hkey, fun _ => ⟨fun h => absurd h hsync, fun _ => ⟨fun _ => rfl, fun _ => trivial⟩⟩⟩
  refine ⟨hquiet, (client_framing_iff quietLayers _ ?_).2 hquiet⟩
  intro pdu hpdu
  simp only [List.mem_cons, List.not_mem_nil, or_false] at hpdu
  rcases hpdu with rfl | rfl | rfl
  · exact keyPress_pdu
  · exact .tpkt 0 0 32 (synchronise.drop 4) rfl (by decide)
  · exact channelJoin_pdu

/-- What comes of a join request with two key presses behind it, if four bytes are read. -/
theorem mainLoop_channelJoin {env : Handler}
    (hread : env.processData [] channelJoin (keyPress ++ keyPress) = (1, 4)) :
    mainLoop env (List.replicate 3 ⟨.bytes 12, false⟩)
      (.start [channelJoin, keyPress, keyPress].flatten) =
        .ok (1, ⟨.UP, channelJoin, 12, 3, keyPress, [channelJoin]⟩) := by
  -- two bytes, the header, the rest
  have htwo : transCheckWaitObjs env ⟨.bytes 12, false⟩
      (.start [channelJoin, keyPress, keyPress].flatten) =
        .ok (0, ⟨.UP, channelJoin.take 2, 4, 2, channelJoin.drop 2 ++ keyPress ++ keyPress, []⟩) := rfl
  have hheader : transCheckWaitObjs env ⟨.bytes 12, false⟩
      ⟨.UP, channelJoin.take 2, 4, 2, channelJoin.drop 2 ++ keyPress ++ keyPress, []⟩ =
        .ok (0, ⟨.UP, channelJoin.take 4, 12, 3, channelJoin.drop 4 ++ keyPress ++ keyPress, []⟩) := rfl
  have hrest : transCheckWaitObjs env ⟨.bytes 12, false⟩
      ⟨.UP, channelJoin.take 4, 12, 3, channelJoin.drop 4 ++ keyPress ++ keyPress, []⟩ =
        .ok (1, ⟨.UP, channelJoin, 12, 3, keyPress, [channelJoin]⟩) := by
    have hwhole : ServerTrans.wholePdu env ⟨.UP, channelJoin, 12, 3, keyPress ++ keyPress, []⟩ =
        (1, ⟨.UP, channelJoin, 12, 3, keyPress, [channelJoin]⟩) := by
      simp only [ServerTrans.wholePdu, hread]
      rfl
    exact @checkWaitObjs_bytes env _ 12 false ⟨.UP, channelJoin, 12, 3, keyPress ++ keyPress, []⟩
      _ _ rfl rfl (congrArg Except.ok hwhole)
  change mainLoop _ (_ :: _ :: _ :: []) _ = _
  rw [mainLoop_cons_zero htwo, mainLoop_cons_zero hheader, mainLoop_cons_fails hrest one_ne_zero]

/-- **A channel join request in a running session**: the key press behind it is read, is not handed
over, and ends the session, as it is no TPKT. -/
theorem channelJoin_swallows : ∃ t,
    mainLoop quietLayers.handler (List.replicate 3 ⟨.bytes 12, false⟩)
      (.start [channelJoin, keyPress, keyPress].flatten) = .ok (1, t) ∧
    t.handed = [channelJoin] ∧ t.sck = keyPress ∧
    ¬ ∀ (L : Layers) (pdus : List (List UInt8)) (turns : List Turn),
      (∀ pdu ∈ pdus, ClientPdu pdu) → L.handler.Framed pdus turns := by
  have hread : quietLayers.handler.processData [] channelJoin (keyPress ++ keyPress) = (1, 4) := by
    decide +kernel
  have hrun := mainLoop_channelJoin hread
  refine ⟨_, hrun, rfl, rfl, fun hall => ?_⟩
  obtain ⟨rv, t, received, hframed⟩ := hall quietLayers [channelJoin, keyPress, keyPress]
    (List.replicate 3 ⟨.bytes 12, false⟩) (by
      intro pdu hpdu
      simp only [List.mem_cons, List.not_mem_nil, or_false] at hpdu
      rcases hpdu with rfl | rfl | rfl
      · exact channelJoin_pdu
      · exact keyPress_pdu
      · exact keyPress_pdu)
  have hsame := hframed.run
  rw [hrun] at hsame
  cases hsame
  have hreceived : received = channelJoin ++ keyPress :=
    List.append_cancel_right (hframed.stream.trans (rfl : _ = (channelJoin ++ keyPress) ++ keyPress))
  have hparsed := congrArg List.length hframed.parsed
  have hparse := @parsePdus_flatten [channelJoin, keyPress]
    (fun p hp => by
      simp only [List.mem_cons, List.not_mem_nil, or_false] at hp
      rcases hp with rfl | rfl
      · exact channelJoin_pdu
      · exact keyPress_pdu) [] part_nil _ le_rfl
  have hsplit : [channelJoin, keyPress].flatten ++ [] = channelJoin ++ keyPress := rfl
  rw [hsplit] at hparse
  rw [hreceived, hparse] at hparsed
  cases hparsed

end Xrdp.Transport
