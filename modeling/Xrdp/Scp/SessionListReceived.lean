import Xrdp.Scp.SessionListSent

/-!
# What is received of a list of sessions

* `SameSession` — sessions that do not differ in what is sent of them.
* `recvPackets_wire` — packets as they should be are put together again.
* `recvPackets_empty` — so is nothing at all, where that is said.
* `CountsFit` — the sessions of the packets are no more than the first packet has announced.
* `recvPackets_iff` — the client stays in its memory just if they are.
-/

namespace Xrdp.Scp

open Wire Overlay StateTRules Chunks Sesman

/-! ## Sessions -/

/-- Sessions that are the same, but for `status`, which nothing uses, and addresses of the other
type. -/
structure SameSession (a b : ScpDisconnectedSession) : Prop where
  SID : a.SID = b.SID
  type : a.type = b.type
  height : a.height = b.height
  width : a.width = b.width
  bpp : a.bpp = b.bpp
  idle : a.idleDays = b.idleDays ∧ a.idleHours = b.idleHours ∧ a.idleMinutes = b.idleMinutes
  date : a.connYear = b.connYear ∧ a.connMonth = b.connMonth ∧ a.connDay = b.connDay
  time : a.connHour = b.connHour ∧ a.connMinute = b.connMinute
  addrType : a.addrType = b.addrType
  ipv4addr : b.addrType = SCP_ADDRESS_TYPE_IPV4 → a.ipv4addr = b.ipv4addr
  ipv6addr : b.addrType = SCP_ADDRESS_TYPE_IPV6 → a.ipv6addr = b.ipv6addr

/-- What is sent of a session behind its number. -/
def sessionRest (cds : ScpDisconnectedSession) : List UInt8 :=
  cds.type :: (beBytes 2 cds.height.toNat ++ (beBytes 2 cds.width.toNat ++ (cds.bpp :: cds.idleDays ::
    cds.idleHours :: cds.idleMinutes :: (beBytes 2 cds.connYear.toNat ++ (cds.connMonth ::
      cds.connDay :: cds.connHour :: cds.connMinute :: cds.addrType :: addrBytes cds)))))

theorem sessionBytes_eq (cds : ScpDisconnectedSession) :
    sessionBytes cds = beBytes 4 cds.SID.toNat ++ sessionRest cds := by
  simp [sessionBytes, sessionFields, sessionRest]

/-- **A session is read as it was sent.** -/
theorem inSession_append (cds : ScpDisconnectedSession) (rest : List UInt8) :
    ∃ fields, inSession (sessionRest cds ++ rest) = .ok (fields, rest) ∧
      ∀ old : ScpDisconnectedSession, SameSession (fields { old with SID := cds.SID }) cds := by
  rw [inSession, sessionRest]
  simp only [List.cons_append, List.append_assoc]
  rw [bind_ok (inUint8_cons _ _), bind_ok (inUint16Be_append _ _), bind_ok (inUint16Be_append _ _),
    bind_ok (inUint8_cons _ _), bind_ok (inUint8_cons _ _), bind_ok (inUint8_cons _ _),
    bind_ok (inUint8_cons _ _), bind_ok (inUint16Be_append _ _), bind_ok (inUint8_cons _ _),
    bind_ok (inUint8_cons _ _), bind_ok (inUint8_cons _ _), bind_ok (inUint8_cons _ _),
    bind_ok (inUint8_cons _ _)]
  by_cases h4 : cds.addrType = SCP_ADDRESS_TYPE_IPV4
  · have h6 : cds.addrType ≠ SCP_ADDRESS_TYPE_IPV6 := by
      rw [h4]
      decide
    rw [if_pos h4, addrBytes, if_pos h4, bind_ok (inUint32Be_append _ _)]
    refine ⟨_, rfl, fun old => ?_⟩
    exact ⟨rfl, rfl, rfl, rfl, rfl, ⟨rfl, rfl, rfl⟩, ⟨rfl, rfl, rfl⟩, ⟨rfl, rfl⟩, rfl, fun _ => rfl,
      fun h => absurd h h6⟩
  · by_cases h6 : cds.addrType = SCP_ADDRESS_TYPE_IPV6
    · rw [if_neg h4, if_pos h6, addrBytes, if_neg h4, if_pos h6,
        bind_ok (inUint8a_append _ cds.ipv6addr.bytes_length)]
      refine ⟨_, rfl, fun old => ?_⟩
      rw [dif_pos cds.ipv6addr.bytes_length]
      exact ⟨rfl, rfl, rfl, rfl, rfl, ⟨rfl, rfl, rfl⟩, ⟨rfl, rfl, rfl⟩, ⟨rfl, rfl⟩, rfl,
        fun h => absurd h h4, fun _ => rfl⟩
    · rw [if_neg h4, if_neg h6, addrBytes, if_neg h4, if_neg h6]
      refine ⟨_, rfl, fun old => ?_⟩
      exact ⟨rfl, rfl, rfl, rfl, rfl, ⟨rfl, rfl, rfl⟩, ⟨rfl, rfl, rfl⟩, ⟨rfl, rfl⟩, rfl,
        fun h => absurd h h4, fun h => absurd h h6⟩

theorem inStream_ok {α : Type} {run : Run α} {a : α} (h : run = .ok a) : inStream run = .ok a := by
  rw [h]
  rfl

/-- The sessions of a packet are stored. -/
theorem storeSessions_append {sescnt : Nat} (fresh : Nat → ScpDisconnectedSession)
    (sessions stored : List ScpDisconnectedSession) (rest : List UInt8)
    (h : stored.length + sessions.length ≤ sescnt) : ∃ got,
      storeSessions sescnt fresh sessions.length stored (sessions.flatMap sessionBytes ++ rest) =
        .ok (stored ++ got) ∧ List.Forall₂ SameSession got sessions := by
  induction sessions generalizing stored with
  | nil =>
    refine ⟨[], ?_, .nil⟩
    rw [List.append_nil]
    rfl
  | cons cds sessions ih =>
    rw [List.length_cons] at h
    obtain ⟨fields, hin, hsame⟩ := inSession_append cds (sessions.flatMap sessionBytes ++ rest)
    obtain ⟨session, hsession⟩ : ∃ session, session =
      fields { fresh stored.length with SID := cds.SID } := ⟨_, rfl⟩
    have hlen : (stored ++ [session]).length + sessions.length ≤ sescnt := by
      rw [List.length_append, List.length_singleton]
      omega
    obtain ⟨got, hrun, hgot⟩ := ih (stored ++ [session]) hlen
    refine ⟨session :: got, ?_, .cons (hsession ▸ hsame _) hgot⟩
    have hSID := inStream_ok (inUint32Be_append (sessionRest cds ++ (sessions.flatMap sessionBytes ++
      rest)) cds.SID)
    rw [List.length_cons, storeSessions, List.flatMap_cons, sessionBytes_eq]
    simp only [List.append_assoc]
    rw [hSID]
    dsimp only [Except.bind, bind]
    rw [if_pos (by omega), inStream_ok hin]
    dsimp only
    rw [← hsession, hrun, List.append_assoc, List.singleton_append]

/-! ## Packets -/

/-- A protocol with numbers of two bytes. -/
structure ListProtocol.Ok (proto : ListProtocol) : Prop where
  cmdset : proto.cmdset < 2 ^ 16
  cmd : proto.cmd < 2 ^ 16

theorem readPacketHead_append {proto : ListProtocol} (hproto : proto.Ok) {sescnt : Nat}
    (hsescnt : sescnt < 2 ^ 32) (continued pktcnt : UInt8) (rest : List UInt8) :
    readPacketHead proto (beBytes 2 proto.cmdset ++ (beBytes 2 proto.cmd ++ (beBytes 4 sescnt ++
      (continued :: pktcnt :: rest)))) = .ok (some ⟨UInt32.ofNat sescnt, continued, pktcnt⟩, rest) := by
  have hcmdset := UInt16.toNat_ofNat_of_lt' hproto.cmdset
  have hcmd := UInt16.toNat_ofNat_of_lt' hproto.cmd
  rw [readPacketHead, bind_ok (inUint16Be_nat hproto.cmdset _), if_neg (not_not.2 hcmdset),
    bind_ok (inUint16Be_nat hproto.cmd _), if_neg (not_not.2 hcmd), bind_ok (inUint32Be_nat hsescnt _),
    bind_ok (inUint8_cons _ _), bind_ok (inUint8_cons _ _)]
  rfl

variable {proto : ListProtocol} {memory : UInt32 → Bool} (fresh : Nat → ScpDisconnectedSession)

/-- What follows from a packet. -/
def afterHead (proto : ListProtocol) (memory : UInt32 → Bool) (fresh : Nat → ScpDisconnectedSession)
    (total : Option UInt32) (stored : List ScpDisconnectedSession) (message : List UInt8 × List UInt8)
    (head : PacketHead) (p : List UInt8) : Except ListFault ListResult :=
  let sescnt := total.getD head.sescnt
  if total = none ∧ proto.emptyEnds ∧ sescnt = 0 then .ok (.list 0 [])
  else if total = none ∧ ¬memory sescnt then .ok (.err .internalErr)
  else
    match storeSessions sescnt.toNat fresh head.pktcnt.toNat stored p with
    | .error e => .error e
    | .ok stored =>
      if head.continued ≠ 0 then
        recvPackets proto memory fresh (some sescnt) stored message.1 message.2
      else .ok (.list sescnt stored)

theorem recvPackets_eq (total : Option UInt32) (stored : List ScpDisconnectedSession)
    (inS sck : List UInt8) : recvPackets proto memory fresh total stored inS sck =
      match recvMessage 12 inS sck with
      | .error e => .error (.stream e)
      | .ok (.error err) => .ok (.err err.clientState)
      | .ok (.ok message) =>
        match readPacketHead proto message.1 with
        | .error e => .error (.stream e)
        | .ok (none, _) => .ok (.err .sequenceErr)
        | .ok (some head, p) => afterHead proto memory fresh total stored message head p := by
  rw [recvPackets]
  split
  case h_1 e he => rw [he]
  case h_2 err he => rw [he]
  case h_3 message he =>
    rw [he]
    rfl

theorem recvPackets_of_message {total : Option UInt32} {stored : List ScpDisconnectedSession}
    {inS sck p : List UInt8} {message : List UInt8 × List UInt8} {head : PacketHead}
    (hrecv : recvMessage 12 inS sck = .ok (.ok message))
    (hhead : readPacketHead proto message.1 = .ok (some head, p)) :
    recvPackets proto memory fresh total stored inS sck =
      afterHead proto memory fresh total stored message head p := by
  rw [recvPackets_eq, hrecv]
  dsimp only
  rw [hhead]

/-- A packet comes in, and its numbers are read. -/
theorem recvMessage_packet (hproto : proto.Ok) {sescnt : Nat} (hsescnt : sescnt < 2 ^ 32)
    {c : List ScpDisconnectedSession} (hc : c.length ≤ SCP_SERVER_MAX_LIST_SIZE) {inS : List UInt8}
    (hin : inS.length = 8196) (continued : Bool) (rest : List UInt8) : ∃ message stale,
      message.length = 8196 ∧
      recvMessage 12 inS (packetBytes proto.cmdset proto.cmd sescnt continued c ++ rest) =
        .ok (.ok (message, rest)) ∧
      readPacketHead proto message = .ok (some ⟨UInt32.ofNat sescnt, if continued then 1 else 0,
        UInt8.ofNat c.length⟩, c.flatMap sessionBytes ++ stale) := by
  rw [SCP_SERVER_MAX_LIST_SIZE] at hc
  have hbytes := flatMap_sessionBytes_length_le c
  obtain ⟨body, hbody⟩ : ∃ body, body = beBytes 2 proto.cmdset ++ (beBytes 2 proto.cmd ++
      (beBytes 4 sescnt ++ ((if continued then 1 else 0) :: UInt8.ofNat c.length ::
        c.flatMap sessionBytes))) := ⟨_, rfl⟩
  have hbodyLen : body.length = 10 + (c.flatMap sessionBytes).length := by
    rw [hbody]
    simp only [List.length_append, List.length_cons, beBytes_length]
    omega
  have hpacket : packetBytes proto.cmdset proto.cmd sescnt continued c ++ rest =
      beBytes 4 1 ++ (beBytes 4 (body.length + 8) ++ (body ++ rest)) := by
    have hsize : 18 + (c.flatMap sessionBytes).length = body.length + 8 := by omega
    rw [packetBytes, messageHead, hsize, hbody]
    simp
  obtain ⟨stale, hstale, hrecv⟩ := @recvMessage_append 12 inS body rest (by omega) (by omega)
    (by omega) (by omega)
  have hhead := readPacketHead_append hproto hsescnt (if continued then 1 else 0)
    (UInt8.ofNat c.length) (c.flatMap sessionBytes ++ stale)
  have hbodyStale : body ++ stale = beBytes 2 proto.cmdset ++ (beBytes 2 proto.cmd ++
      (beBytes 4 sescnt ++ ((if continued then 1 else 0) :: UInt8.ofNat c.length ::
        (c.flatMap sessionBytes ++ stale)))) := by
    rw [hbody]
    simp
  refine ⟨body ++ stale, stale, ?_, hpacket ▸ hrecv, hbodyStale ▸ hhead⟩
  rw [List.length_append]
  omega

/-- One packet comes in. -/
theorem recvPackets_packet (hproto : proto.Ok) {sescnt : Nat} (hsescnt : sescnt < 2 ^ 32)
    {total : Option UInt32} (htotal : ∀ n, total = some n → n = UInt32.ofNat sescnt)
    (hmemory : memory (UInt32.ofNat sescnt)) {c stored : List ScpDisconnectedSession}
    (hc : c.length ≤ SCP_SERVER_MAX_LIST_SIZE) (hroom : stored.length + c.length ≤ sescnt)
    (hempty : total = none → proto.emptyEnds = true → sescnt ≠ 0) {inS : List UInt8}
    (hin : inS.length = 8196) (continued : Bool) (rest : List UInt8) :
    ∃ got inS', List.Forall₂ SameSession got c ∧ inS'.length = 8196 ∧
      recvPackets proto memory fresh total stored inS
        (packetBytes proto.cmdset proto.cmd sescnt continued c ++ rest) =
      if continued then
        recvPackets proto memory fresh (some (UInt32.ofNat sescnt)) (stored ++ got) inS' rest
      else .ok (.list (UInt32.ofNat sescnt) (stored ++ got)) := by
  obtain ⟨message, stale, hmessage, hrecv, hhead⟩ :=
    recvMessage_packet hproto hsescnt hc hin continued rest
  have hcount : (UInt8.ofNat c.length).toNat = c.length :=
    UInt8.toNat_ofNat_of_lt' (by rw [SCP_SERVER_MAX_LIST_SIZE] at hc; rw [UInt8.size]; omega)
  have hnumber : (UInt32.ofNat sescnt).toNat = sescnt := UInt32.toNat_ofNat_of_lt' hsescnt
  obtain ⟨got, hstore, hgot⟩ := storeSessions_append fresh c stored stale hroom
  have hgetD : total.getD (UInt32.ofNat sescnt) = UInt32.ofNat sescnt := by
    cases htot : total with
    | none => rfl
    | some n => exact htotal n htot
  have hends : ¬(total = none ∧ proto.emptyEnds = true ∧ UInt32.ofNat sescnt = 0) := by
    rintro ⟨hnone, hends, hzero⟩
    refine hempty hnone hends ?_
    rw [← hnumber, hzero]
    rfl
  refine ⟨got, message, hgot, hmessage, ?_⟩
  rw [recvPackets_of_message fresh hrecv hhead, afterHead]
  dsimp only
  rw [hgetD, if_neg hends, if_neg (fun h => h.2 hmemory), hcount, hnumber, hstore]
  cases continued with
  | false => rfl
  | true => rfl

/-- **The packets of a list come in.** -/
theorem recvPackets_wire (hproto : proto.Ok) {sescnt : Nat} (hsescnt : sescnt < 2 ^ 32)
    (hmemory : memory (UInt32.ofNat sescnt)) {cs : List (List ScpDisconnectedSession)} (hcs : cs ≠ [])
    (hc : ∀ c ∈ cs, c.length ≤ SCP_SERVER_MAX_LIST_SIZE) {total : Option UInt32}
    (htotal : ∀ n, total = some n → n = UInt32.ofNat sescnt)
    {stored : List ScpDisconnectedSession} (hlen : stored.length + cs.flatten.length = sescnt)
    (hempty : total = none → proto.emptyEnds = true → sescnt ≠ 0) {inS : List UInt8}
    (hin : inS.length = 8196) : ∃ got, List.Forall₂ SameSession got cs.flatten ∧
      recvPackets proto memory fresh total stored inS (wire proto.cmdset proto.cmd sescnt cs) =
        .ok (.list (UInt32.ofNat sescnt) (stored ++ got)) := by
  induction cs generalizing total stored inS with
  | nil => exact absurd rfl hcs
  | cons c cs ih =>
    rw [List.flatten_cons, List.length_append] at hlen
    have hroom : stored.length + c.length ≤ sescnt := by omega
    obtain ⟨got, inS', hgot, hin', hrun⟩ := recvPackets_packet fresh hproto hsescnt htotal hmemory
      (hc c List.mem_cons_self) hroom hempty hin (!cs.isEmpty) (wire proto.cmdset proto.cmd sescnt cs)
    rw [wire, hrun, List.flatten_cons]
    cases hcsEq : cs with
    | nil =>
      refine ⟨got, ?_, rfl⟩
      rw [List.flatten_nil, List.append_nil]
      exact hgot
    | cons c₂ cs₂ =>
      rw [← hcsEq]
      have hne : cs ≠ [] := by
        rw [hcsEq]
        exact List.cons_ne_nil _ _
      have hc' : ∀ c ∈ cs, c.length ≤ SCP_SERVER_MAX_LIST_SIZE := fun c h =>
        hc c (List.mem_cons_of_mem _ h)
      have htotal' : ∀ n, some (UInt32.ofNat sescnt) = some n → n = UInt32.ofNat sescnt := fun n h =>
        (Option.some_injective _ h).symm
      have hlen' : (stored ++ got).length + cs.flatten.length = sescnt := by
        rw [List.length_append, hgot.length_eq]
        omega
      have hempty' : some (UInt32.ofNat sescnt) = none → proto.emptyEnds = true → sescnt ≠ 0 :=
        fun h => by cases h
      obtain ⟨gots, hgots, hruns⟩ := ih hne hc' htotal' hlen' hempty' hin'
      refine ⟨got ++ gots, List.rel_append hgot hgots, ?_⟩
      rw [hcsEq] at hruns ⊢
      rw [List.isEmpty_cons, Bool.not_false, if_pos rfl, hruns, List.append_assoc]

/-- An empty list comes in, if nothing is read behind it. -/
theorem recvPackets_empty (hproto : proto.Ok) (hends : proto.emptyEnds = true) {inS : List UInt8}
    (hin : inS.length = 8196) :
    recvPackets proto memory fresh none [] inS (packetBytes proto.cmdset proto.cmd 0 false []) =
      .ok (.list 0 []) := by
  obtain ⟨message, stale, -, hrecv, hhead⟩ :=
    @recvMessage_packet _ hproto 0 (by decide) [] (Nat.zero_le _) _ hin false []
  rw [List.append_nil] at hrecv
  rw [recvPackets_of_message fresh hrecv hhead, afterHead]
  dsimp only
  exact if_pos ⟨rfl, hends, rfl⟩

/-- Nothing comes in. -/
theorem recvPackets_nil (total : Option UInt32) (stored : List ScpDisconnectedSession)
    (inS : List UInt8) :
    recvPackets proto memory fresh total stored inS [] = .ok (.err .networkErr) := by
  have hrecv : recvMessage 12 inS [] = .ok (.error .network) := rfl
  rw [recvPackets_eq, hrecv]
  rfl

/-! ## Memory -/

/-- How many of `n` sessions begin in a stream, and whether all of them are in it. -/
def sessionsIn : Nat → List UInt8 → Nat × Bool
  | 0, _ => (0, true)
  | n + 1, p =>
    match inUint32Be p with
    | .error _ => (0, false)
    | .ok (_, p) =>
      match inSession p with
      | .error _ => (1, false)
      | .ok (_, p) => ((sessionsIn n p).1 + 1, (sessionsIn n p).2)

/-- The sessions in the packets are never more than the first packet has announced. -/
def CountsFit (proto : ListProtocol) (memory : UInt32 → Bool) (total : Option UInt32) (stored : Nat)
    (inS sck : List UInt8) : Prop :=
  match _h : recvMessage 12 inS sck with
  | .error _ => True
  | .ok (.error _) => True
  | .ok (.ok message) =>
    match readPacketHead proto message.1 with
    | .error _ => True
    | .ok (none, _) => True
    | .ok (some head, p) =>
      let sescnt := total.getD head.sescnt
      let sessions := sessionsIn head.pktcnt.toNat p
      -- nothing is stored of an empty list, or without memory
      total = none ∧ (proto.emptyEnds ∧ sescnt = 0 ∨ ¬memory sescnt) ∨
        stored + sessions.1 ≤ sescnt.toNat ∧ (sessions.2 → head.continued ≠ 0 →
          CountsFit proto memory (some sescnt) (stored + head.pktcnt.toNat) message.1 message.2)
termination_by sck.length
decreasing_by exact recvMessage_shorter _h

theorem countsFit_eq (total : Option UInt32) (stored : Nat) (inS sck : List UInt8) :
    CountsFit proto memory total stored inS sck =
      match recvMessage 12 inS sck with
      | .error _ => True
      | .ok (.error _) => True
      | .ok (.ok message) =>
        match readPacketHead proto message.1 with
        | .error _ => True
        | .ok (none, _) => True
        | .ok (some head, p) =>
          total = none ∧ (proto.emptyEnds ∧ total.getD head.sescnt = 0 ∨
              ¬memory (total.getD head.sescnt)) ∨
            stored + (sessionsIn head.pktcnt.toNat p).1 ≤ (total.getD head.sescnt).toNat ∧
              ((sessionsIn head.pktcnt.toNat p).2 → head.continued ≠ 0 →
                CountsFit proto memory (some (total.getD head.sescnt)) (stored + head.pktcnt.toNat)
                  message.1 message.2) := by
  rw [CountsFit]
  split
  case h_1 e he => rw [he]
  case h_2 err he => rw [he]
  case h_3 message he => rw [he]

/-- What storing `n` sessions comes to: there is no memory any more, or the stream ends, or not. -/
inductive Stores (sescnt n : Nat) (stored : List ScpDisconnectedSession) (sessions : Nat × Bool) :
    Except ListFault (List ScpDisconnectedSession) → Prop where
  | full (h : sescnt < stored.length + sessions.1) : Stores sescnt n stored sessions (.error .sessions)
  | stream (e : Stuck) (h : stored.length + sessions.1 ≤ sescnt) (hpart : sessions.2 = false) :
    Stores sescnt n stored sessions (.error (.stream e))
  | all (stored' : List ScpDisconnectedSession) (hlen : stored'.length = stored.length + n)
    (hn : sessions.1 = n) (h : stored.length + n ≤ sescnt) (hall : sessions.2 = true) :
    Stores sescnt n stored sessions (.ok stored')

theorem storeSessions_stores (sescnt n : Nat) {stored : List ScpDisconnectedSession}
    (hstored : stored.length ≤ sescnt) (p : List UInt8) :
    Stores sescnt n stored (sessionsIn n p) (storeSessions sescnt fresh n stored p) := by
  induction n generalizing stored p with
  | zero => exact .all stored rfl rfl hstored rfl
  | succ n ih =>
    rw [sessionsIn, storeSessions]
    cases hSID : inUint32Be p with
    | error e => exact .stream e hstored rfl
    | ok r =>
      obtain ⟨SID, p₁⟩ := r
      rw [inStream_ok rfl]
      dsimp only [Except.bind, bind]
      by_cases hroom : stored.length < sescnt
      · rw [if_pos hroom]
        cases hfields : inSession p₁ with
        | error e => exact .stream e hroom rfl
        | ok r =>
          obtain ⟨fields, p₂⟩ := r
          obtain ⟨session, hsession⟩ : ∃ session, session =
            fields { fresh stored.length with SID } := ⟨_, rfl⟩
          have hlen : (stored ++ [session]).length = stored.length + 1 := List.length_append
          have hrest := @ih (stored ++ [session]) (by omega) p₂
          rw [inStream_ok rfl]
          dsimp only
          rw [← hsession]
          generalize storeSessions sescnt fresh n (stored ++ [session]) p₂ = run at hrest
          cases hrest with
          | full h =>
            apply Stores.full
            dsimp only
            omega
          | stream e h hpart =>
            refine Stores.stream e ?_ hpart
            dsimp only
            omega
          | all stored' hlen' hn h hall =>
            exact Stores.all stored' (by omega) (congrArg (· + 1) hn) (by omega) hall
      · rw [if_neg hroom]
        apply Stores.full
        cases inSession p₁ with
        | error e =>
          dsimp only
          omega
        | ok r =>
          dsimp only
          omega

/-- **The client stays in the memory for the list** just if the sessions of the packets are never
more than the first packet has announced. -/
theorem recvPackets_iff {total : Option UInt32} {stored : List ScpDisconnectedSession}
    (hsome : ∀ n, total = some n → stored.length ≤ n.toNat) (hnone : total = none → stored = [])
    (inS sck : List UInt8) :
    recvPackets proto memory fresh total stored inS sck ≠ .error .sessions ↔
      CountsFit proto memory total stored.length inS sck := by
  induction hlen : sck.length using Nat.strongRecOn generalizing total stored inS sck with
  | ind len ih =>
    rw [recvPackets_eq, countsFit_eq]
    cases hrecv : recvMessage 12 inS sck with
    | error e => exact iff_of_true (fun h => nomatch h) trivial
    | ok r =>
      cases r with
      | error err => exact iff_of_true (fun h => nomatch h) trivial
      | ok message =>
        dsimp only
        have hshorter := recvMessage_shorter hrecv
        cases hhead : readPacketHead proto message.1 with
        | error e => exact iff_of_true (fun h => nomatch h) trivial
        | ok r =>
          obtain ⟨head, p⟩ := r
          cases head with
          | none => exact iff_of_true (fun h => nomatch h) trivial
          | some head =>
            dsimp only
            obtain ⟨sescnt, hsescnt⟩ : ∃ sescnt, sescnt = total.getD head.sescnt := ⟨_, rfl⟩
            have hstored : stored.length ≤ sescnt.toNat := by
              cases htotal : total with
              | none =>
                rw [hnone htotal]
                exact Nat.zero_le _
              | some n =>
                rw [hsescnt, htotal]
                exact hsome n htotal
            rw [afterHead, ← hsescnt]
            by_cases hends : total = none ∧ proto.emptyEnds = true ∧ sescnt = 0
            · rw [if_pos hends]
              exact iff_of_true (fun h => nomatch h) (.inl ⟨hends.1, .inl hends.2⟩)
            · rw [if_neg hends]
              by_cases hno : total = none ∧ ¬memory sescnt = true
              · rw [if_pos hno]
                exact iff_of_true (fun h => nomatch h) (.inl ⟨hno.1, .inr hno.2⟩)
              · have hstores : ¬(total = none ∧ (proto.emptyEnds = true ∧ sescnt = 0 ∨
                    ¬memory sescnt = true)) := by
                  rintro ⟨htotal, h | h⟩
                  · exact hends ⟨htotal, h⟩
                  · exact hno ⟨htotal, h⟩
                rw [if_neg hno, or_iff_right hstores]
                have hcases := storeSessions_stores fresh sescnt.toNat head.pktcnt.toNat hstored p
                generalize storeSessions sescnt.toNat fresh head.pktcnt.toNat stored p = run at hcases
                cases hcases with
                | full h => exact iff_of_false (fun h => h rfl) fun hfit => absurd hfit.1 (by omega)
                | stream e h hpart =>
                  refine iff_of_true (fun h => nomatch h) ⟨h, fun hall => ?_⟩
                  rw [hpart] at hall
                  cases hall
                | all stored' hlen' hn h hall =>
                  dsimp only
                  rw [hn, and_iff_right h, hall, forall_prop_of_true rfl]
                  by_cases hcontinued : head.continued ≠ 0
                  · rw [if_pos hcontinued, forall_prop_of_true hcontinued, ← hlen']
                    have hsome' : ∀ n, some sescnt = some n → stored'.length ≤ n.toNat := by
                      intro n hn
                      rw [← Option.some_injective _ hn]
                      omega
                    have hnone' : some sescnt = none → stored' = [] := fun h => nomatch h
                    exact ih _ (hlen ▸ hshorter) hsome' hnone' _ _ rfl
                  · rw [if_neg hcontinued]
                    exact iff_of_true (fun h => nomatch h) fun h => absurd h hcontinued

end Xrdp.Scp
