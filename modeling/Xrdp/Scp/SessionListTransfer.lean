import Xrdp.Scp.SessionListReceived

/-!
# Lists of sessions from the server to a client

* `Arrives` — a client that asks for a list has it in the end.
* `v1Transfers_iff`, `mngTransfers_iff` — a list makes its way just if its addresses are in the stream
  already, as they are not written to it.
* `list_sessions_iff` — both, and when the client stays in the memory for the list.
-/

namespace Xrdp.Scp

open Wire Overlay StateTRules Chunks Sesman

/-- What the functions of clients have in common. -/
abbrev GetSessionList := (UInt32 → Bool) → (Nat → ScpDisconnectedSession) → Stream 8196 →
  Stream 8196 → List UInt8 → Except ListFault (List UInt8 × ListResult)

/-- A client sends its request, is sent packets, and has the list. -/
def Arrives (get : GetSessionList) (outC inC : Stream 8196) (request packets : List UInt8)
    (l : SessionList) : Prop :=
  ∀ (memory : UInt32 → Bool) (fresh : Nat → ScpDisconnectedSession),
    memory (UInt32.ofNat l.sessions.length) = true → ∃ scount got,
      get memory fresh outC inC packets = .ok (request, .list scount got) ∧
      scount.toNat = l.sessions.length ∧ List.Forall₂ SameSession got l.sessions

/-- What `scp_v1s_list_sessions` sends behind its notice, `scp_v1c_get_session_list` has in the end;
and the list of the server is what it was. -/
def V1Transfers (outS inS : Stream 8192) (outC inC : Stream 8196) (l : SessionList) : Prop :=
  ∃ request notice packets, notice.length = 12 ∧
    scpV1sListSessions outS inS request l = .ok ⟨.listed, notice ++ packets, l.sessions⟩ ∧
    Arrives scpV1cGetSessionList outC inC request packets l

/-- What `scp_v1s_mng_list_sessions` sends, `scp_v1c_mng_get_session_list` has in the end; and the list
of the server is what it was. -/
def MngTransfers (outS : Stream 8192) (outC inC : Stream 8196) (l : SessionList) : Prop :=
  ∃ request packets, scpV1sMngListSessions outS l = .ok ⟨.listed, packets, l.sessions⟩ ∧
    Arrives scpV1cMngGetSessionList outC inC request packets l

/-! ## The server -/

theorem sendMessage_ok {outS message : List UInt8} {n : Nat} (hn : message.length = n)
    (h : n ≤ outS.length) : sendMessage outS message n = .ok (message, overlay outS 0 message) := by
  have hlen : (message ++ outS.drop message.length).length = outS.length := by
    rw [List.length_append, List.length_drop]
    omega
  rw [sendMessage, putBytes, if_pos (by omega), Run.ok_bind, scpTcpForceSend,
    if_pos (by rw [hlen]; omega), Run.ok_bind, Int.toNat_natCast, List.take_left' hn, overlay_zero]
  rfl

/-- The loop over the packets of a list. -/
theorem outPackets_list (l : SessionList) (cmdset cmd p : Nat) {data : List UInt8}
    (hdata : 3618 ≤ data.length) :
    (2147483600 < l.sessions.length → ∀ r, outPackets cmdset cmd l.sessions.length
      (pktcnt l.sessions.length) 0 l.sessions ⟨data, p⟩ ≠ .ok r) ∧
    (l.sessions.length ≤ 2147483600 → ∃ ds s', outPackets cmdset cmd l.sessions.length
        (pktcnt l.sessions.length) 0 l.sessions ⟨data, p⟩ =
        .ok ((ds, wire cmdset cmd l.sessions.length (chunks SCP_SERVER_MAX_LIST_SIZE ds)), s') ∧
      (AddressesThere cmdset cmd l.sessions.length data
        (chunks SCP_SERVER_MAX_LIST_SIZE l.sessions) ↔ ds = l.sessions)) := by
  have hlt := l.sescnt_lt
  constructor
  · intro hlong r
    have hlast : 2 ^ 31 ≤ (0 + pktcnt l.sessions.length) * SCP_SERVER_MAX_LIST_SIZE := by
      rw [pktcnt, SCP_SERVER_MAX_LIST_SIZE]
      split <;> omega
    have hnear : (0 + pktcnt l.sessions.length) * SCP_SERVER_MAX_LIST_SIZE <
        2 ^ 31 + SCP_SERVER_MAX_LIST_SIZE := by
      rw [pktcnt, SCP_SERVER_MAX_LIST_SIZE]
      split <;> omega
    have hpos : 0 < pktcnt l.sessions.length := by
      rw [pktcnt, SCP_SERVER_MAX_LIST_SIZE]
      split <;> omega
    exact outPackets_overflow hlt hlast hnear hpos rfl
  · intro hlen
    have hsize : 0 < SCP_SERVER_MAX_LIST_SIZE := by decide
    obtain ⟨ds, s', hrun, -, hcarried⟩ := @outPackets_spec data p cmdset cmd _ 0 [] hlen l.sessions
      hdata (fun _ => rfl) (Nat.zero_add _)
    refine ⟨ds, s', hrun, (carriedPackets_iff hcarried).trans ⟨fun h => ?_, fun h => by rw [h]⟩⟩
    rw [← flatten_chunks hsize ds, h, flatten_chunks hsize]

/-- What has been sent of a list that is what it was. -/
theorem outPackets_unchanged (l : SessionList) {cmdset cmd p : Nat} {data packets : List UInt8}
    (hdata : 3618 ≤ data.length) {s' : OutStream}
    (h : outPackets cmdset cmd l.sessions.length (pktcnt l.sessions.length) 0 l.sessions ⟨data, p⟩ =
      .ok ((l.sessions, packets), s')) : l.sessions.length ≤ 2147483600 ∧
      AddressesThere cmdset cmd l.sessions.length data (chunks SCP_SERVER_MAX_LIST_SIZE l.sessions) ∧
      packets = wire cmdset cmd l.sessions.length (chunks SCP_SERVER_MAX_LIST_SIZE l.sessions) := by
  obtain ⟨hlong, hlist⟩ := outPackets_list l cmdset cmd p hdata
  rcases Nat.lt_or_ge 2147483600 l.sessions.length with hlen | hlen
  · exact absurd h (hlong hlen _)
  · obtain ⟨ds, s₁, hrun, hiff⟩ := hlist hlen
    rw [h] at hrun
    cases hrun
    exact ⟨hlen, hiff.2 rfl, rfl⟩

/-- What is sent of a list with its addresses in the stream already. -/
theorem outPackets_there (l : SessionList) {cmdset cmd : Nat} (p : Nat) {data : List UInt8}
    (hdata : 3618 ≤ data.length) (hlen : l.sessions.length ≤ 2147483600)
    (hthere : AddressesThere cmdset cmd l.sessions.length data
      (chunks SCP_SERVER_MAX_LIST_SIZE l.sessions)) : ∃ s',
      outPackets cmdset cmd l.sessions.length (pktcnt l.sessions.length) 0 l.sessions ⟨data, p⟩ =
        .ok ((l.sessions, wire cmdset cmd l.sessions.length
          (chunks SCP_SERVER_MAX_LIST_SIZE l.sessions)), s') := by
  obtain ⟨ds, s', hrun, hiff⟩ := (outPackets_list l cmdset cmd p hdata).2 hlen
  rw [hiff.1 hthere] at hrun
  exact ⟨s', hrun⟩

/-- The request for the list is one. -/
theorem awaitRequest_listed {inS : List UInt8} (hin : inS.length = 8192) :
    awaitRequest inS (messageHead 12 SCP_COMMAND_SET_DEFAULT 41) = .ok .listed := by
  obtain ⟨stale, -, hrecv⟩ := @recvMessage_append 12 inS
    (beBytes 2 SCP_COMMAND_SET_DEFAULT ++ beBytes 2 41) [] (by omega) (by simp; omega) (by simp)
    (by simp)
  have hmessage : messageHead 12 SCP_COMMAND_SET_DEFAULT 41 = beBytes 4 1 ++ (beBytes 4
      ((beBytes 2 SCP_COMMAND_SET_DEFAULT ++ beBytes 2 41).length + 8) ++
        (beBytes 2 SCP_COMMAND_SET_DEFAULT ++ beBytes 2 41 ++ [])) := by decide
  rw [awaitRequest, hmessage, hrecv, Run.ok_bind]
  dsimp only
  rw [List.append_assoc, inUint16Be_nat (by decide), Run.ok_bind]
  dsimp only
  rw [if_neg (by decide), inUint16Be_nat (by decide), Run.ok_bind]
  rfl

/-- What the server of version 1 sends first. -/
def listNotice : List UInt8 := messageHead 12 SCP_COMMAND_SET_DEFAULT 40

theorem sendMessage_notice (outS : Stream 8192) :
    sendMessage outS.data listNotice 12 = .ok (listNotice, overlay outS.data 0 listNotice) := by
  have hdata := outS.data_length
  exact @sendMessage_ok outS.data listNotice 12 (by decide) (by omega)

/-- What a server of version 1 does that has been asked. -/
theorem scpV1sListSessions_eq (outS : Stream 8192) {inS : Stream 8192} {request : List UInt8}
    (hrequest : awaitRequest inS.data request = .ok .listed) (l : SessionList) :
    scpV1sListSessions outS inS request l =
      (outPackets SCP_COMMAND_SET_DEFAULT 42 l.sessions.length (pktcnt l.sessions.length) 0 l.sessions
        ⟨overlay outS.data 0 listNotice, 0⟩).map fun r =>
          ⟨.listed, listNotice ++ r.1.2, r.1.1⟩ := by
  rw [scpV1sListSessions, ← listNotice, sendMessage_notice, Run.ok_bind]
  dsimp only
  rw [hrequest, Run.ok_bind, if_neg (not_not.2 rfl)]
  cases outPackets SCP_COMMAND_SET_DEFAULT 42 l.sessions.length (pktcnt l.sessions.length) 0
    l.sessions ⟨overlay outS.data 0 listNotice, 0⟩ <;> rfl

/-- A server of version 1 that lists its sessions has been asked. -/
theorem awaitRequest_of_listed {outS inS : Stream 8192} {request sent : List UInt8}
    {l : SessionList} {ds : List ScpDisconnectedSession}
    (h : scpV1sListSessions outS inS request l = .ok ⟨.listed, sent, ds⟩) :
    awaitRequest inS.data request = .ok .listed := by
  rw [scpV1sListSessions, ← listNotice, sendMessage_notice, Run.ok_bind] at h
  obtain ⟨state, hstate, h⟩ := Run.bind_eq_ok.1 h
  split at h
  · cases h
    exact hstate
  · rename_i hlisted
    rw [hstate, not_not.1 hlisted]

/-! ## The client -/

theorem v1ListProtocol_ok : v1ListProtocol.Ok := ⟨by decide, by decide⟩

theorem mngListProtocol_ok : mngListProtocol.Ok := ⟨by decide, by decide⟩

/-- A list that is not empty arrives. -/
theorem arrives_wire {proto : ListProtocol} (hproto : proto.Ok) (outC inC : Stream 8196)
    {l : SessionList} (hne : l.sessions ≠ []) :
    Arrives (getSessionList proto) outC inC (messageHead 12 proto.cmdset proto.request)
      (wire proto.cmdset proto.cmd l.sessions.length (chunks SCP_SERVER_MAX_LIST_SIZE l.sessions)) l := by
  intro memory fresh hmemory
  have hlt := l.sescnt_lt
  have hdata := outC.data_length
  have hsize : 0 < SCP_SERVER_MAX_LIST_SIZE := by decide
  have hsend : sendMessage outC.data (messageHead 12 proto.cmdset proto.request) 12 =
      .ok (_, _) := @sendMessage_ok outC.data _ 12 (messageHead_length ..) (by omega)
  have hempty : (none : Option UInt32) = none → proto.emptyEnds = true → l.sessions.length ≠ 0 :=
    fun _ _ h => hne (List.length_eq_zero_iff.1 h)
  have htotal : ∀ n, none = some n → n = UInt32.ofNat l.sessions.length := fun _ h => nomatch h
  have hlen : ([] : List ScpDisconnectedSession).length +
      (chunks SCP_SERVER_MAX_LIST_SIZE l.sessions).flatten.length = l.sessions.length := by
    rw [flatten_chunks hsize, List.length_nil, Nat.zero_add]
  obtain ⟨got, hgot, hrun⟩ := recvPackets_wire fresh hproto (by omega) hmemory
    (mt (chunks_eq_nil hsize).1 hne) (fun c hc => (length_of_mem_chunks hsize _ c hc).2) htotal hlen
    hempty inC.data_length
  rw [flatten_chunks hsize] at hgot
  refine ⟨UInt32.ofNat l.sessions.length, got, ?_, UInt32.toNat_ofNat_of_lt' (by
    rw [UInt32.size]
    omega), hgot⟩
  rw [getSessionList, inStream_ok hsend, hrun]
  rfl

/-- An empty list arrives, where nothing is read behind it. -/
theorem arrives_empty (outC inC : Stream 8196) {l : SessionList} (h : l.sessions = []) :
    Arrives scpV1cMngGetSessionList outC inC (messageHead 12 SCP_COMMAND_SET_MANAGE SCP_CMD_MNG_LIST_REQ)
      (packetBytes SCP_COMMAND_SET_MANAGE SCP_CMD_MNG_LIST 0 false []) l := by
  intro memory fresh hmemory
  have hdata := outC.data_length
  have hsend : sendMessage outC.data
      (messageHead 12 SCP_COMMAND_SET_MANAGE SCP_CMD_MNG_LIST_REQ) 12 = .ok (_, _) :=
    @sendMessage_ok outC.data _ 12 (messageHead_length ..) (by omega)
  have hrun := @recvPackets_empty mngListProtocol memory fresh mngListProtocol_ok rfl inC.data
    inC.data_length
  refine ⟨0, [], ?_, by rw [h]; rfl, by rw [h]; exact .nil⟩
  rw [mngListProtocol] at hrun
  rw [scpV1cMngGetSessionList, getSessionList, mngListProtocol]
  dsimp only at hrun ⊢
  rw [inStream_ok hsend, hrun]
  rfl

/-- A session whose address is that of the host itself. -/
def localSession : ScpDisconnectedSession where
  SID := 1
  type := 0
  status := 0
  height := 600
  width := 800
  bpp := 24
  idleDays := 0
  idleHours := 0
  idleMinutes := 0
  connYear := 2020
  connMonth := 1
  connDay := 1
  connHour := 0
  connMinute := 0
  addrType := SCP_ADDRESS_TYPE_IPV4
  ipv4addr := 0x7f000001
  ipv6addr := ⟨List.replicate 16 0, zeroAddr_length⟩

/-- Nothing arrives if nothing is sent. -/
theorem not_arrives_nil {proto : ListProtocol} {outC inC : Stream 8196} {request : List UInt8}
    {l : SessionList} : ¬Arrives (getSessionList proto) outC inC request [] l := by
  intro h
  obtain ⟨scount, got, hrun, -, -⟩ := h (fun _ => true) (fun _ => localSession) rfl
  rw [getSessionList, recvPackets_nil] at hrun
  cases hsend : inStream (sendMessage outC.data (messageHead 12 proto.cmdset proto.request) 12) with
  | error e =>
    rw [hsend] at hrun
    cases hrun
  | ok r =>
    rw [hsend] at hrun
    cases hrun

/-! ## The whole -/

/-- **A list makes its way in version 1** just if it is not empty, its packets can be counted, and its
addresses are in the stream already. -/
theorem v1Transfers_iff (outS inS : Stream 8192) (outC inC : Stream 8196) (l : SessionList) :
    V1Transfers outS inS outC inC l ↔ l.sessions ≠ [] ∧ l.sessions.length ≤ 2147483600 ∧
      AddressesThere SCP_COMMAND_SET_DEFAULT 42 l.sessions.length (overlay outS.data 0 listNotice)
        (chunks SCP_SERVER_MAX_LIST_SIZE l.sessions) := by
  have hdata := outS.data_length
  have hnotice : (overlay outS.data 0 listNotice).length = outS.data.length := by
    apply length_overlay
    rw [listNotice, messageHead_length]
    omega
  constructor
  · rintro ⟨request, notice, packets, hnoticeLen, hsent, harrives⟩
    rw [scpV1sListSessions_eq outS (awaitRequest_of_listed hsent)] at hsent
    cases hrun : outPackets SCP_COMMAND_SET_DEFAULT 42 l.sessions.length (pktcnt l.sessions.length) 0
        l.sessions ⟨overlay outS.data 0 listNotice, 0⟩ with
    | error e =>
      rw [hrun] at hsent
      cases hsent
    | ok r =>
      obtain ⟨⟨ds, packets'⟩, s'⟩ := r
      rw [hrun] at hsent
      have hresult := Except.ok.inj hsent
      have hds : ds = l.sessions := congrArg ListSent.sessions hresult
      have hpackets := (List.append_inj (congrArg ListSent.sent hresult) (by
        rw [hnoticeLen, listNotice, messageHead_length])).2
      rw [hds] at hrun
      obtain ⟨hlen, hthere, hwire⟩ := outPackets_unchanged l (by omega) hrun
      refine ⟨fun hnil => ?_, hlen, hthere⟩
      rw [← hpackets, hwire, hnil, chunks_nil] at harrives
      exact not_arrives_nil harrives
  · rintro ⟨hne, hlen, hthere⟩
    obtain ⟨s', hrun⟩ := outPackets_there l 0 (by omega) hlen hthere
    refine ⟨_, listNotice, _, messageHead_length .., ?_,
      arrives_wire v1ListProtocol_ok outC inC hne⟩
    exact (scpV1sListSessions_eq outS (awaitRequest_listed inS.data_length) l).trans (by
      rw [hrun]
      rfl)

theorem scpV1sMngListSessions_nil (outS : Stream 8192) {l : SessionList} (hnil : l.sessions = []) :
    scpV1sMngListSessions outS l = .ok ⟨.listed,
      packetBytes SCP_COMMAND_SET_MANAGE SCP_CMD_MNG_LIST 0 false [], l.sessions⟩ := by
  have hdata := outS.data_length
  obtain ⟨c', hpacket, hcarried⟩ := @outPacket_spec outS.data [] 0 0 [] [] (by omega)
    ⟨rfl, rfl, .inr ⟨by decide, rfl⟩⟩ (by decide) SCP_COMMAND_SET_MANAGE SCP_CMD_MNG_LIST 0
  have hc' : c' = [] := List.length_eq_zero_iff.1 hcarried.lengths.1
  rw [hc', List.append_nil, List.append_nil] at hpacket
  rw [scpV1sMngListSessions, hnil]
  dsimp only [List.length_nil]
  rw [if_pos rfl, outPackets, bind_ok hpacket]
  dsimp only
  rw [outPackets, bind_ok rfl]
  rfl

theorem scpV1sMngListSessions_eq (outS : Stream 8192) {l : SessionList} (hne : l.sessions ≠ []) :
    scpV1sMngListSessions outS l =
      (outPackets SCP_COMMAND_SET_MANAGE SCP_CMD_MNG_LIST l.sessions.length
        (pktcnt l.sessions.length) 0 l.sessions ⟨outS.data, 0⟩).map fun r =>
          ⟨.listed, r.1.2, r.1.1⟩ := by
  rw [scpV1sMngListSessions]
  dsimp only
  rw [if_neg (mt List.length_eq_zero_iff.1 hne)]
  cases outPackets SCP_COMMAND_SET_MANAGE SCP_CMD_MNG_LIST l.sessions.length
    (pktcnt l.sessions.length) 0 l.sessions ⟨outS.data, 0⟩ <;> rfl

/-- **A list makes its way for management** just if its packets can be counted, and its addresses are
in the stream already. -/
theorem mngTransfers_iff (outS : Stream 8192) (outC inC : Stream 8196) (l : SessionList) :
    MngTransfers outS outC inC l ↔ l.sessions.length ≤ 2147483600 ∧
      AddressesThere SCP_COMMAND_SET_MANAGE SCP_CMD_MNG_LIST l.sessions.length outS.data
        (chunks SCP_SERVER_MAX_LIST_SIZE l.sessions) := by
  have hdata := outS.data_length
  by_cases hnil : l.sessions = []
  · refine iff_of_true ⟨_, _, scpV1sMngListSessions_nil outS hnil, arrives_empty outC inC hnil⟩ ?_
    rw [hnil, chunks_nil]
    exact ⟨Nat.zero_le _, trivial⟩
  · rw [MngTransfers]
    simp only [scpV1sMngListSessions_eq outS hnil]
    constructor
    · rintro ⟨request, packets, hsent, -⟩
      cases hrun : outPackets SCP_COMMAND_SET_MANAGE SCP_CMD_MNG_LIST l.sessions.length
          (pktcnt l.sessions.length) 0 l.sessions ⟨outS.data, 0⟩ with
      | error e =>
        rw [hrun] at hsent
        cases hsent
      | ok r =>
        obtain ⟨⟨ds, packets'⟩, s'⟩ := r
        rw [hrun] at hsent
        have hds : ds = l.sessions := congrArg ListSent.sessions (Except.ok.inj hsent)
        rw [hds] at hrun
        obtain ⟨hlen, hthere, -⟩ := outPackets_unchanged l (by omega) hrun
        exact ⟨hlen, hthere⟩
    · rintro ⟨hlen, hthere⟩
      obtain ⟨s', hrun⟩ := outPackets_there l 0 (by omega) hlen hthere
      refine ⟨_, _, ?_, arrives_wire mngListProtocol_ok outC inC hnil⟩
      rw [hrun]
      rfl

/-- The client has not left the memory for the list. -/
def StaysInList (get : GetSessionList) (memory : UInt32 → Bool)
    (fresh : Nat → ScpDisconnectedSession) (outC inC : Stream 8196) (sck : List UInt8) : Prop :=
  get memory fresh outC inC sck ≠ .error .sessions

theorem staysInList_iff {proto : ListProtocol} (memory : UInt32 → Bool)
    (fresh : Nat → ScpDisconnectedSession) (outC inC : Stream 8196) (sck : List UInt8) :
    StaysInList (getSessionList proto) memory fresh outC inC sck ↔
      CountsFit proto memory none 0 inC.data sck := by
  have hdata := outC.data_length
  have hsend : sendMessage outC.data (messageHead 12 proto.cmdset proto.request) 12 =
      .ok (_, _) := @sendMessage_ok outC.data _ 12 (messageHead_length ..) (by omega)
  have hiff := @recvPackets_iff proto memory fresh none [] (fun _ h => nomatch h) (fun _ => rfl)
    inC.data sck
  rw [List.length_nil] at hiff
  rw [← hiff, StaysInList, getSessionList, inStream_ok hsend]
  refine not_congr ?_
  dsimp only [Except.bind, bind]
  cases recvPackets proto memory fresh none [] inC.data sck with
  | error e =>
    constructor
    · intro h
      cases h
      rfl
    · intro h
      cases h
      rfl
  | ok result => exact iff_of_false (fun h => nomatch h) (fun h => nomatch h)

/-- **When lists of sessions make their way, and clients are safe**: a list arrives, and stays what it
is, just if its addresses are in the stream already, where they should be written, its packets can be
counted in an `int`, and it is not empty in version 1; a client stays in the memory for the list just
if the sessions in the packets are never more than the first packet has announced. -/
theorem list_sessions_iff (outS inS : Stream 8192) (outC inC : Stream 8196) (l : SessionList)
    (memory : UInt32 → Bool) (fresh : Nat → ScpDisconnectedSession) (sck : List UInt8) :
    (V1Transfers outS inS outC inC l ↔ l.sessions ≠ [] ∧ l.sessions.length ≤ 2147483600 ∧
      AddressesThere SCP_COMMAND_SET_DEFAULT 42 l.sessions.length (overlay outS.data 0 listNotice)
        (chunks SCP_SERVER_MAX_LIST_SIZE l.sessions)) ∧
    (MngTransfers outS outC inC l ↔ l.sessions.length ≤ 2147483600 ∧
      AddressesThere SCP_COMMAND_SET_MANAGE SCP_CMD_MNG_LIST l.sessions.length outS.data
        (chunks SCP_SERVER_MAX_LIST_SIZE l.sessions)) ∧
    (StaysInList scpV1cGetSessionList memory fresh outC inC sck ↔
      CountsFit v1ListProtocol memory none 0 inC.data sck) ∧
    (StaysInList scpV1cMngGetSessionList memory fresh outC inC sck ↔
      CountsFit mngListProtocol memory none 0 inC.data sck) :=
  ⟨v1Transfers_iff outS inS outC inC l, mngTransfers_iff outS outC inC l,
    staysInList_iff memory fresh outC inC sck, staysInList_iff memory fresh outC inC sck⟩

/-- The address of the host itself, and a stream of zeros. -/
theorem address_lost : ¬V1Transfers (zeroStream 8192) (zeroStream 8192) (zeroStream 8196)
    (zeroStream 8196) ⟨[localSession], by decide⟩ := by
  rw [v1Transfers_iff]
  rintro ⟨-, -, hthere⟩
  rw [chunks_step (by decide) (List.cons_ne_nil _ _)] at hthere
  have haddr := hthere.1.1
  rw [drop_overlay (Nat.zero_le _) (by decide), zeroStream, List.drop_replicate,
    List.take_replicate] at haddr
  revert haddr
  decide

end Xrdp.Scp
