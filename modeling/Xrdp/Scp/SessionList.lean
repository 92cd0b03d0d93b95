import Xrdp.Scp.Message
import Xrdp.Sesman.Session

/-!
# Lists of sessions on their way to a client

* `scpV1sListSessions`, `scpV1sMngListSessions` — `libscp_v1s.c` and `libscp_v1s_mng.c`: a list goes
  out in packets of a hundred sessions.
* `scpV1cGetSessionList`, `scpV1cMngGetSessionList` — `libscp_v1c.c` and `libscp_v1c_mng.c`: it comes
  in.

What is sent makes its way to the peer.
-/

namespace Xrdp.Scp

open Wire Sesman

def SCP_SERVER_MAX_LIST_SIZE : Nat := 100
def SCP_CMD_MNG_LIST_REQ : Nat := 5
def SCP_CMD_MNG_LIST : Nat := 6

/-- A list whose length is an `int`. -/
structure SessionList where
  sessions : List ScpDisconnectedSession
  sescnt_lt : sessions.length < 2 ^ 31

/-! ## The server -/

/-- The fields of a session up to the type of its address. -/
def sessionFields (cds : ScpDisconnectedSession) : List UInt8 :=
  beBytes 4 cds.SID.toNat ++ [cds.type] ++ beBytes 2 cds.height.toNat ++ beBytes 2 cds.width.toNat ++
    [cds.bpp, cds.idleDays, cds.idleHours, cds.idleMinutes] ++ beBytes 2 cds.connYear.toNat ++
    [cds.connMonth, cds.connDay, cds.connHour, cds.connMinute, cds.addrType]

/-- One session goes out: what it is then, and the bytes it counts for.  Its address is not written:
it is read. -/
def outSession (cds : ScpDisconnectedSession) : Wr (ScpDisconnectedSession × Nat) := do
  outBytes (sessionFields cds)
  if cds.addrType = SCP_ADDRESS_TYPE_IPV4 then do
    let addr ← inBytes 4
    pure ({ cds with ipv4addr := UInt32.ofNat (leVal addr.1.reverse) }, 13 + 7 + 4)
  else if cds.addrType = SCP_ADDRESS_TYPE_IPV6 then do
    let addr ← inBytes 16
    pure ({ cds with ipv6addr := ⟨addr.1, addr.2⟩ }, 13 + 7 + 16)
  else pure (cds, 13 + 7)

/-- The sessions of a packet, the list `ds` from `i` on. -/
def outSessions : Nat → Nat → List ScpDisconnectedSession → Wr (List ScpDisconnectedSession × Nat)
  | 0, _, ds => pure (ds, 0)
  | n + 1, i, ds =>
    match ds[i]? with
    | none => fun _ => .error .outOfBounds
    | some cds => do
      let (cds, size) ← outSession cds
      let (ds, sizes) ← outSessions n (i + 1) (ds.set i cds)
      pure (ds, size + sizes)

/-- One packet, of a list of `sescnt` sessions. -/
def outPacket (cmdset cmd sescnt idx : Nat) (ds : List ScpDisconnectedSession) :
    Wr (List ScpDisconnectedSession × List UInt8) := do
  let last : Bool := int ((idx + 1) * SCP_SERVER_MAX_LIST_SIZE : Nat) ≥ sescnt
  let pidx := if last then sescnt - idx * SCP_SERVER_MAX_LIST_SIZE else SCP_SERVER_MAX_LIST_SIZE
  setPointer 8
  outBytes (beBytes 2 cmdset ++ beBytes 2 cmd ++ beBytes 4 sescnt ++
    [if last then 0 else 1, UInt8.ofNat pidx])
  let (ds, sizes) ← outSessions pidx (idx * SCP_SERVER_MAX_LIST_SIZE) ds
  let size := 4 + 4 + 2 + 2 + 4 + 1 + 1 + sizes
  setPointer 0
  outBytes (beBytes 4 1 ++ beBytes 4 size)
  let sent ← sendStream (int size)
  pure (ds, sent)

/-- `n` packets, from the packet `idx` on. -/
def outPackets (cmdset cmd sescnt : Nat) : Nat → Nat → List ScpDisconnectedSession →
    Wr (List ScpDisconnectedSession × List UInt8)
  | 0, _, ds => pure (ds, [])
  | n + 1, idx, ds => do
    let (ds, packet) ← outPacket cmdset cmd sescnt idx ds
    let (ds, packets) ← outPackets cmdset cmd sescnt n (idx + 1) ds
    pure (ds, packet ++ packets)

/-- The number of packets. -/
def pktcnt (sescnt : Nat) : Nat :=
  sescnt / SCP_SERVER_MAX_LIST_SIZE + if sescnt % SCP_SERVER_MAX_LIST_SIZE ≠ 0 then 1 else 0

/-- How a server that lists its sessions goes on. -/
inductive ListState where
  /-- It waits for an answer. -/
  | listed
  | networkErr
  | versionErr
  | sizeErr
  | sequenceErr
  deriving DecidableEq

def MessageErr.listState : MessageErr → ListState
  | .network => .networkErr
  | .version => .versionErr
  | .size => .sizeErr

/-- What has become of a list: what has been sent, and what the list is then. -/
structure ListSent where
  state : ListState
  sent : List UInt8
  sessions : List ScpDisconnectedSession

/-- The client asks for the list. -/
def awaitRequest (inS sck : List UInt8) : Run ListState := do
  match ← recvMessage 12 inS sck with
  | .error err => pure err.listState
  | .ok (inS, _) => do
    let (cmdset, p) ← inUint16Be inS
    if cmdset.toNat ≠ SCP_COMMAND_SET_DEFAULT then pure .sequenceErr
    else do
      let (cmd, _) ← inUint16Be p
      if cmd ≠ 41 then pure .sequenceErr else pure .listed

/-- `scp_v1s_list_sessions`, up to the answer. -/
def scpV1sListSessions (outS inS : Stream 8192) (sck : List UInt8) (l : SessionList) :
    Run ListSent := do
  let (notice, outS) ← sendMessage outS.data (messageHead 12 SCP_COMMAND_SET_DEFAULT 40) 12
  let state ← awaitRequest inS.data sck
  if state ≠ .listed then pure ⟨state, notice, l.sessions⟩
  else do
    let sescnt := l.sessions.length
    let ((ds, packets), _) ←
      outPackets SCP_COMMAND_SET_DEFAULT 42 sescnt (pktcnt sescnt) 0 l.sessions ⟨outS, 0⟩
    pure ⟨.listed, notice ++ packets, ds⟩

/-- `scp_v1s_mng_list_sessions`, up to the answer. -/
def scpV1sMngListSessions (outS : Stream 8192) (l : SessionList) : Run ListSent := do
  let sescnt := l.sessions.length
  let ((ds, packets), _) ← outPackets SCP_COMMAND_SET_MANAGE SCP_CMD_MNG_LIST sescnt
    (if sescnt = 0 then 1 else pktcnt sescnt) 0 l.sessions ⟨outS.data, 0⟩
  pure ⟨.listed, packets, ds⟩

/-! ## The client -/

/-- Why a client has no result: it has left a stream, or the memory for the list. -/
inductive ListFault where
  | stream (e : Stuck)
  | sessions
  deriving DecidableEq

/-- What has to do with streams. -/
def inStream {α : Type} (run : Run α) : Except ListFault α := run.mapError .stream

/-- What a client has in the end. -/
inductive ListResult where
  | err (state : ScpClientState)
  | list (scount : UInt32) (sessions : List ScpDisconnectedSession)

/-- What is read of a session behind its number, as it changes an entry of the list. -/
def inSession : Rd (ScpDisconnectedSession → ScpDisconnectedSession) := do
  let type ← inUint8
  let height ← inUint16Be
  let width ← inUint16Be
  let bpp ← inUint8
  let idleDays ← inUint8
  let idleHours ← inUint8
  let idleMinutes ← inUint8
  let connYear ← inUint16Be
  let connMonth ← inUint8
  let connDay ← inUint8
  let connHour ← inUint8
  let connMinute ← inUint8
  let addrType ← inUint8
  let fields (ds : ScpDisconnectedSession) : ScpDisconnectedSession := { ds with
    type, height, width, bpp, idleDays, idleHours, idleMinutes, connYear, connMonth, connDay,
    connHour, connMinute, addrType }
  if addrType = SCP_ADDRESS_TYPE_IPV4 then do
    let ipv4addr ← inUint32Be
    pure fun ds => { fields ds with ipv4addr }
  else if addrType = SCP_ADDRESS_TYPE_IPV6 then do
    let buf ← inUint8a 16
    pure fun ds => if h : buf.length = 16 then { fields ds with ipv6addr := ⟨buf, h⟩ } else fields ds
  else pure fields

/-- The sessions of a packet are stored behind those of the packets before, in memory for `sescnt`
sessions, which holds `fresh` before. -/
def storeSessions (sescnt : Nat) (fresh : Nat → ScpDisconnectedSession) :
    Nat → List ScpDisconnectedSession → List UInt8 → Except ListFault (List ScpDisconnectedSession)
  | 0, stored, _ => .ok stored
  | n + 1, stored, p => do
    let (SID, p) ← inStream (inUint32Be p)
    if stored.length < sescnt then do
      let (fields, p) ← inStream (inSession p)
      storeSessions sescnt fresh n (stored ++ [fields { fresh stored.length with SID }]) p
    else .error .sessions

/-- What the two protocols do not share: their numbers, and whether there is nothing to be read
behind an empty list. -/
structure ListProtocol where
  cmdset : Nat
  request : Nat
  cmd : Nat
  emptyEnds : Bool

/-- What a packet has before its sessions. -/
structure PacketHead where
  sescnt : UInt32
  continued : UInt8
  pktcnt : UInt8

/-- The numbers of a packet are read, if it is one. -/
def readPacketHead (proto : ListProtocol) : Rd (Option PacketHead) := do
  let cmdset ← inUint16Be
  if cmdset.toNat ≠ proto.cmdset then pure none
  else do
    let cmd ← inUint16Be
    if cmd.toNat ≠ proto.cmd then pure none
    else do
      let sescnt ← inUint32Be
      let continued ← inUint8
      let pktcnt ← inUint8
      pure (some ⟨sescnt, continued, pktcnt⟩)

/-- What is left at a socket is less than there was. -/
theorem recvMessage_shorter {least : Nat} {inS sck : List UInt8} {message : List UInt8 × List UInt8}
    (h : recvMessage least inS sck = .ok (.ok message)) : message.2.length < sck.length := by
  have hrecv : ∀ {data sck : List UInt8} {len : Int} {r : List UInt8 × List UInt8},
      scpTcpForceRecv sck data len = .ok (some r) →
        r.2.length + len.toNat = sck.length := by
    intro data sck len r hr
    unfold scpTcpForceRecv at hr
    dsimp only at hr
    split at hr
    · cases hr
    split at hr
    · cases hr
    · cases hr
      rw [List.length_drop]
      omega
  unfold recvMessage at h
  obtain ⟨first, hfirst, h⟩ := Run.bind_eq_ok.1 h
  cases first with
  | none => cases h
  | some r =>
    have hfirst := hrecv hfirst
    obtain ⟨⟨version, p⟩, -, h⟩ := Run.bind_eq_ok.1 h
    dsimp only at h
    split at h
    · cases h
    obtain ⟨⟨size, p'⟩, -, h⟩ := Run.bind_eq_ok.1 h
    dsimp only at h
    split at h
    · cases h
    obtain ⟨second, hsecond, h⟩ := Run.bind_eq_ok.1 h
    cases second with
    | none => cases h
    | some r' =>
      cases h
      have hsecond := hrecv hsecond
      omega

/-- The packets come in; `total` is the number of sessions that the first packet has announced, and
`memory` is whether there is memory for so many. -/
def recvPackets (proto : ListProtocol) (memory : UInt32 → Bool)
    (fresh : Nat → ScpDisconnectedSession) (total : Option UInt32)
    (stored : List ScpDisconnectedSession) (inS sck : List UInt8) : Except ListFault ListResult :=
  match _h : recvMessage 12 inS sck with
  | .error e => .error (.stream e)
  | .ok (.error err) => .ok (.err err.clientState)
  | .ok (.ok message) =>
    match readPacketHead proto message.1 with
    | .error e => .error (.stream e)
    | .ok (none, _) => .ok (.err .sequenceErr)
    | .ok (some head, p) =>
      let sescnt := total.getD head.sescnt
      if total = none ∧ proto.emptyEnds ∧ sescnt = 0 then .ok (.list 0 [])
      else if total = none ∧ ¬memory sescnt then .ok (.err .internalErr)
      else
        match storeSessions sescnt.toNat fresh head.pktcnt.toNat stored p with
        | .error e => .error e
        | .ok stored =>
          if head.continued ≠ 0 then
            recvPackets proto memory fresh (some sescnt) stored message.1 message.2
          else .ok (.list sescnt stored)
termination_by sck.length
decreasing_by exact recvMessage_shorter _h

/-- What `scp_v1c_get_session_list` and `scp_v1c_mng_get_session_list` share: what is sent, and what
the client has in the end. -/
def getSessionList (proto : ListProtocol) (memory : UInt32 → Bool)
    (fresh : Nat → ScpDisconnectedSession) (outS inS : Stream 8196) (sck : List UInt8) :
    Except ListFault (List UInt8 × ListResult) := do
  let (request, _) ← inStream (sendMessage outS.data (messageHead 12 proto.cmdset proto.request) 12)
  let result ← recvPackets proto memory fresh none [] inS.data sck
  pure (request, result)

def v1ListProtocol : ListProtocol := ⟨SCP_COMMAND_SET_DEFAULT, 41, 42, false⟩

def mngListProtocol : ListProtocol :=
  ⟨SCP_COMMAND_SET_MANAGE, SCP_CMD_MNG_LIST_REQ, SCP_CMD_MNG_LIST, true⟩

/-- `scp_v1c_get_session_list`. -/
def scpV1cGetSessionList := getSessionList v1ListProtocol

/-- `scp_v1c_mng_get_session_list`. -/
def scpV1cMngGetSessionList := getSessionList mngListProtocol

end Xrdp.Scp
