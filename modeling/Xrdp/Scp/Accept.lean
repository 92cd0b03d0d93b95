import Xrdp.Lib.Extent
import Xrdp.Scp.LoginRoundTrip

/-!
# What `scp_vXs_accept` may read

The server's side of a new connection, for every version (`sesman/libscp/libscp_vX.c`,
`libscp_v0.c`, `libscp_v1s.c` and `libscp_v1s_mng.c`), on streams that hold only what has been
received: receiving more than a stream has room for is an error, and so is reading a field behind
what has been received.

* `Received.scpV0sAccept` — version 0, strings with 16-bit lengths and optional fields.
* `Received.scpV1sAccept`, `Received.scpV1sMngAccept` — version 1.
* `Received.scpVXsAccept` — all of it.
* `scpVXsAccept_of_received` — on a stream with room for the message, what is accepted here is
  accepted whatever the stream held before.
-/

namespace Xrdp.Scp

open Wire Extent StateTRules

/-! ## Sessions -/

/-- A session with what only version 0 can say about it. -/
structure ScpFullSession extends ScpSession where
  domain : Option CString
  program : Option CString
  directory : Option CString
  clientIp : Option CString
  deriving DecidableEq

/-- How `scp_vXs_accept` ends. -/
inductive AcceptState where
  | ok (session : ScpFullSession)
  | startManage (session : ScpSession)
  | versionErr
  | networkErr
  | sequenceErr
  | internalErr
  | sessionTypeErr
  | sizeErr
  deriving DecidableEq

/-- A session that version 1 has asked for. -/
def ScpSession.full (s : ScpSession) : ScpFullSession where
  toScpSession := s
  domain := none
  program := none
  directory := none
  clientIp := none

section

variable (s : ScpFullSession) (str : CString)

/-- `scp_session_set_domain`. -/
def scpSessionSetDomain : ScpFullSession := { s with domain := some str }

/-- `scp_session_set_program`. -/
def scpSessionSetProgram : ScpFullSession := { s with program := some str }

/-- `scp_session_set_directory`. -/
def scpSessionSetDirectory : ScpFullSession := { s with directory := some str }

/-- `scp_session_set_client_ip`. -/
def scpSessionSetClientIp : ScpFullSession := { s with clientIp := some str }

end

namespace Received

/-! ## Receiving -/

/-- `scp_tcp_force_recv` to the start of a stream with room for `capacity` bytes: what is received
and what is left at the socket, or `none` if the connection ends before. -/
def scpTcpForceRecv (capacity : Nat) (sck : List UInt8) (len : Int) :
    Run (Option (List UInt8 × List UInt8)) :=
  let n := len.toNat
  if capacity < min n sck.length then .error .outOfBounds
  else if sck.length < n then .ok none
  else .ok (some (sck.take n, sck.drop n))

/-! ## Version 0 -/

/-- A string with its length in two bytes. -/
def readString16 : Rd CString := do
  let sz ← inUint16Be
  let buf ← inUint8a sz.toNat
  pure (.ofBuf buf)

/-- `s_check_rem`: the end of the stream is the end of what has been received. -/
def sCheckRem (n : Nat) : Rd Bool := fun s => .ok (decide (n ≤ s.length), s)

/-- A field that may be missing: an empty one is not set. -/
def readOptional (set : ScpFullSession → CString → ScpFullSession) (session : ScpFullSession) :
    Rd ScpFullSession := do
  if ← sCheckRem 2 then do
    let sz ← inUint16Be
    if 0 < sz.toNat then do
      let buf ← inUint8a sz.toNat
      pure (set session (.ofBuf buf))
    else pure session
  else pure session

/-- The username and the password. -/
def readUser (session : ScpSession) : Rd ScpSession := do
  let username ← readString16
  let session := scpSessionSetUsername session username
  let password ← readString16
  pure (scpSessionSetPassword session password)

/-- The fields that later clients have added. -/
def readOptionals (session : ScpFullSession) : Rd AcceptState := do
  let session ← readOptional scpSessionSetDomain session
  let session ← readOptional scpSessionSetProgram session
  let session ← readOptional scpSessionSetDirectory session
  let session ← readOptional scpSessionSetClientIp session
  pure (.ok session)

/-- A session of one of the types, from the username on. -/
def readSession0 (type : UInt8) : Rd AcceptState := do
  let session := (scpSessionSetVersion scpSessionCreate 0).getD scpSessionCreate
  let session := (scpSessionSetType session type).getD session
  let session ← readUser session
  let width ← inUint16Be
  let session := scpSessionSetWidth session width
  let height ← inUint16Be
  let session := scpSessionSetHeight session height
  let sz ← inUint16Be
  match scpSessionSetBpp session sz.toUInt8 with
  | none => pure .internalErr
  | some session => readOptionals session.full

/-- The code `SCP_GW_AUTHENTICATION`. -/
def readGateway : Rd AcceptState := do
  let session := (scpSessionSetVersion scpSessionCreate 0).getD scpSessionCreate
  let session := (scpSessionSetType session SCP_GW_AUTHENTICATION).getD session
  let session ← readUser session
  pure (.ok session.full)

/-- The code and what it asks for. -/
def readCode : Rd AcceptState := do
  let code ← inUint16Be
  if code = 0 then readSession0 SCP_SESSION_TYPE_XVNC
  else if code = 10 then readSession0 SCP_SESSION_TYPE_XRDP
  else if code = 20 then readSession0 SCP_SESSION_TYPE_XORG
  else if code = SCP_GW_AUTHENTICATION.toUInt16 then readGateway
  else pure .sequenceErr

/-- `scp_v0s_accept` with the version checked.  The stream is made larger for it; no size is too
small or too large. -/
def scpV0sAccept (sck p : List UInt8) : Run AcceptState := do
  let (size, _) ← inUint32Be p
  -- a size below 8 wraps: nothing is received, and the code is behind it
  let received ← scpTcpForceRecv 8196 sck (int (size - 8).toNat)
  match received with
  | none => pure .networkErr
  | some (data, _) => do
    let (state, _) ← readCode data
    pure state

/-! ## Version 1 -/

/-- `scp_v1s_mng_accept`. -/
def scpV1sMngAccept : Rd AcceptState := do
  let cmd ← inUint16Be
  if cmd ≠ 1 then pure .sequenceErr
  else do
    let session := (scpSessionSetVersion scpSessionCreate 1).getD scpSessionCreate
    let session := (scpSessionSetType session SCP_SESSION_TYPE_MANAGE).getD session
    let username ← readString
    let session := scpSessionSetUsername session username
    let password ← readString
    let session := scpSessionSetPassword session password
    let session ← readAddr session
    let hostname ← readString
    pure (.startManage (scpSessionSetHostname session hostname))

/-- What `readSession` ends with; the last two are not among it. -/
def ofSession : ScpServerState → AcceptState
  | .ok session => .ok session.full
  | .versionErr => .versionErr
  | .networkErr => .networkErr
  | .sequenceErr => .sequenceErr
  | .internalErr => .internalErr
  | .sessionTypeErr => .sessionTypeErr
  | .sizeErr => .sizeErr
  | .v0sAccept => .versionErr
  | .mngAccept => .sequenceErr

/-- The command set and the command. -/
def readCommand : Rd AcceptState := do
  let cmdset ← inUint16Be
  if cmdset.toNat = SCP_COMMAND_SET_MANAGE then scpV1sMngAccept
  else if cmdset.toNat = SCP_COMMAND_SET_RSR then pure .sequenceErr
  else do
    let cmd ← inUint16Be
    if cmd ≠ 1 then pure .sequenceErr
    else do
      let state ← readSession
      pure (ofSession state)

/-- `scp_v1s_accept` with the version checked. -/
def scpV1sAccept (sck p : List UInt8) : Run AcceptState := do
  let (size, _) ← inUint32Be p
  if size.toNat < 12 then pure .sizeErr
  else do
    let received ← scpTcpForceRecv 8192 sck (int (size - 8).toNat)
    match received with
    | none => pure .networkErr
    | some (data, _) => do
      let (state, _) ← readCommand data
      pure state

/-- `scp_vXs_accept` on a stream of `scp_process_start`. -/
def scpVXsAccept (sck : List UInt8) : Run AcceptState := do
  let received ← scpTcpForceRecv 8192 sck 8
  match received with
  | none => pure .networkErr
  | some (data, sck) => do
    let (version, p) ← inUint32Be data
    if version = 0 then scpV0sAccept sck p
    else if version = 1 then scpV1sAccept sck p
    else pure .versionErr

end Received

/-! ## Whatever the streams held before -/

theorem rdOf_extends {α : Type} {get : List UInt8 → Option (α × List UInt8)}
    (h : ∀ s a s' t, get s = some (a, s') → get (s ++ t) = some (a, s' ++ t)) :
    Extends (rdOf get) := by
  intro s a s' t hs
  unfold rdOf at hs ⊢
  cases hget : get s with
  | none =>
    rw [hget] at hs
    cases hs
  | some r =>
    rw [hget] at hs
    cases hs
    rw [h _ _ _ t hget]

theorem getBytes_extends (n : Nat) (s a s' t : List UInt8) (h : getBytes n s = some (a, s')) :
    getBytes n (s ++ t) = some (a, s' ++ t) := by
  unfold getBytes at h ⊢
  split at h
  · cases h
    rw [if_pos (by simp; omega), List.take_append_of_le_length ‹_›,
      List.drop_append_of_le_length ‹_›]
  · cases h

theorem getBe_extends (n : Nat) (s : List UInt8) (v : Nat) (s' t : List UInt8)
    (h : getBe n s = some (v, s')) : getBe n (s ++ t) = some (v, s' ++ t) := by
  unfold getBe at h ⊢
  obtain ⟨⟨block, rest⟩, hblock, h⟩ := Option.bind_eq_some_iff.1 h
  obtain ⟨⟨v', rest'⟩, hv, h⟩ := Option.map_eq_some_iff.1 h
  cases h
  rw [getBytes_extends n s _ _ t hblock, Option.bind_some]
  exact Option.map_eq_some_iff.2 ⟨_, hv, rfl⟩

theorem inUint8_extends : Extends inUint8 := by
  apply rdOf_extends
  intro s a s' t h
  cases s with
  | nil => cases h
  | cons b s =>
    cases h
    rfl

/-- A big-endian field as a number of some type. -/
theorem mapBe_extends {α : Type} (n : Nat) (f : Nat → α) :
    Extends (rdOf fun s => (getBe n s).map fun (v, s) => (f v, s)) := by
  apply rdOf_extends
  intro s a s' t h
  obtain ⟨⟨v, rest⟩, hv, h⟩ := Option.map_eq_some_iff.1 h
  cases h
  exact Option.map_eq_some_iff.2 ⟨_, getBe_extends n s v _ t hv, rfl⟩

theorem inUint16Be_extends : Extends inUint16Be := mapBe_extends 2 UInt16.ofNat

theorem inUint32Be_extends : Extends inUint32Be := mapBe_extends 4 UInt32.ofNat

theorem inUint8a_extends (n : Nat) : Extends (inUint8a n) := rdOf_extends (getBytes_extends n)

theorem readString_extends : Extends readString :=
  inUint8_extends.bind fun _ => (inUint8a_extends _).bind fun _ => Extends.pure

theorem readAddr_extends (session : ScpSession) : Extends (readAddr session) := by
  apply inUint8_extends.bind
  intro sz
  apply Extends.ite
  · exact inUint32Be_extends.bind fun _ => Extends.pure
  apply Extends.ite
  · apply (inUint8a_extends 16).bind
    intro buf
    split
    · exact Extends.pure
    · exact Extends.pure
  · exact Extends.pure

theorem readCredentials_extends (session : ScpSession) : Extends (readCredentials session) :=
  readString_extends.bind fun _ => readString_extends.bind fun _ =>
    readString_extends.bind fun _ => Extends.pure

theorem readLogin_extends (session : ScpSession) : Extends (readLogin session) := by
  apply inUint16Be_extends.bind
  intro height
  apply inUint16Be_extends.bind
  intro width
  apply inUint8_extends.bind
  intro bpp
  dsimp only
  split
  · exact Extends.pure
  · apply inUint8_extends.bind
    intro rsr
    apply (inUint8a_extends 17).bind
    intro locale
    apply (readAddr_extends _).bind
    intro session
    exact readCredentials_extends session

theorem readSession_extends : Extends readSession := by
  apply inUint8_extends.bind
  intro sz
  exact Extends.ite Extends.pure (readLogin_extends _)

theorem readCommand_extends : Extends readCommand := by
  apply inUint16Be_extends.bind
  intro cmdset
  apply Extends.ite Extends.pure
  apply Extends.ite Extends.pure
  apply inUint16Be_extends.bind
  intro cmd
  exact Extends.ite Extends.pure readSession_extends

/-- A message of version 1, up to a management session, is read as `readCommand` reads it. -/
theorem readCommand_of_received {s : List UInt8} {state : AcceptState} {s' : List UInt8}
    (h : Received.readCommand s = .ok (state, s')) :
    ∃ old rest, readCommand s = .ok (old, rest) ∧
      (old = .mngAccept ∨ Received.ofSession old = state) := by
  obtain ⟨cmdset, s₁, hcmdset, h⟩ := bind_eq_ok.1 h
  unfold readCommand
  rw [bind_ok hcmdset]
  by_cases hmanage : cmdset.toNat = SCP_COMMAND_SET_MANAGE
  · rw [if_pos hmanage]
    exact ⟨_, _, rfl, .inl rfl⟩
  rw [if_neg hmanage] at h ⊢
  by_cases hrsr : cmdset.toNat = SCP_COMMAND_SET_RSR
  · rw [if_pos hrsr] at h ⊢
    cases h
    exact ⟨_, _, rfl, .inr rfl⟩
  rw [if_neg hrsr] at h ⊢
  obtain ⟨cmd, s₂, hcmd, h⟩ := bind_eq_ok.1 h
  rw [bind_ok hcmd]
  by_cases hone : cmd ≠ 1
  · rw [if_pos hone] at h ⊢
    cases h
    exact ⟨_, _, rfl, .inr rfl⟩
  · rw [if_neg hone] at h ⊢
    obtain ⟨old, s₃, hold, h⟩ := bind_eq_ok.1 h
    cases h
    exact ⟨old, _, hold, .inr rfl⟩

/-- A stream has what is received in front of what it held. -/
theorem scpTcpForceRecv_of_received {sck data : List UInt8} {len : Int} {r}
    (h : Received.scpTcpForceRecv data.length sck len = .ok r) :
    scpTcpForceRecv sck data len =
      .ok (r.map fun (received, sck) => (received ++ data.drop len.toNat, sck)) := by
  unfold Received.scpTcpForceRecv at h
  unfold scpTcpForceRecv
  dsimp only at h ⊢
  split at h
  · cases h
  split at h
  · cases h
    rw [if_neg ‹_›, if_pos ‹_›]
    rfl
  · cases h
    rw [if_neg ‹_›, if_neg ‹_›]
    rfl

theorem received_length {capacity : Nat} {sck : List UInt8} {len : Int} {r : List UInt8 × List UInt8}
    (h : Received.scpTcpForceRecv capacity sck len = .ok (some r)) : r.1.length = len.toNat := by
  unfold Received.scpTcpForceRecv at h
  dsimp only at h
  split at h
  · cases h
  split at h
  · cases h
  · cases h
    rw [List.length_take]
    omega

theorem scpV1sAccept_of_received {sck data p t : List UInt8} {state : AcceptState}
    (hdata : data.length = 8192) (h : Received.scpV1sAccept sck p = .ok state) :
    ∃ old, scpV1sAccept sck data (p ++ t) = .ok old ∧
      (old = .mngAccept ∨ Received.ofSession old = state) := by
  obtain ⟨⟨size, p'⟩, hsize, h⟩ := Run.bind_eq_ok.1 h
  unfold scpV1sAccept
  rw [inUint32Be_extends _ _ _ t hsize, Run.ok_bind]
  dsimp only at h ⊢
  by_cases hsmall : size.toNat < 12
  · rw [if_pos hsmall] at h ⊢
    cases h
    exact ⟨_, rfl, .inr rfl⟩
  have hlen : ((size - 8).toNat : Int) = size.toNat - 8 := by
    have hle : (8 : UInt32) ≤ size := UInt32.le_iff_toNat_le.2 (by
      have h8 : (8 : UInt32).toNat = 8 := rfl
      omega)
    rw [UInt32.toNat_sub_of_le _ _ hle]
    have h8 : (8 : UInt32).toNat = 8 := rfl
    omega
  rw [if_neg hsmall] at h ⊢
  obtain ⟨received, hreceived, h⟩ := Run.bind_eq_ok.1 h
  rw [← hdata, hlen] at hreceived
  rw [scpTcpForceRecv_of_received hreceived, Run.ok_bind]
  cases received with
  | none =>
    cases h
    exact ⟨_, rfl, .inr rfl⟩
  | some r =>
    obtain ⟨⟨state', rest⟩, hread, h⟩ := Run.bind_eq_ok.1 h
    cases h
    obtain ⟨old, rest', hold, hstate⟩ := readCommand_of_received hread
    refine ⟨old, ?_, hstate⟩
    dsimp only [Option.map_some]
    rw [readCommand_extends _ _ _ _ hold]
    rfl

/-- **What is accepted within bounds does not depend on what the stream held**; version 0 and
management are not followed there. -/
theorem scpVXsAccept_of_received (inS : Stream 8192) {sck : List UInt8} {state : AcceptState}
    (h : Received.scpVXsAccept sck = .ok state) :
    ∃ old, scpVXsAccept inS sck = .ok old ∧
      (old = .v0sAccept ∨ old = .mngAccept ∨ Received.ofSession old = state) := by
  obtain ⟨received, hreceived, h⟩ := Run.bind_eq_ok.1 h
  rw [← inS.data_length] at hreceived
  unfold scpVXsAccept
  rw [scpTcpForceRecv_of_received hreceived, Run.ok_bind]
  cases received with
  | none =>
    cases h
    exact ⟨_, rfl, .inr (.inr rfl)⟩
  | some r =>
    have hhead := received_length hreceived
    have hdata : (r.1 ++ inS.data.drop (Int.toNat 8)).length = 8192 := by
      rw [List.length_append, List.length_drop, hhead, inS.data_length]
      rfl
    obtain ⟨⟨version, p⟩, hversion, h⟩ := Run.bind_eq_ok.1 h
    dsimp only [Option.map_some] at h ⊢
    rw [inUint32Be_extends _ _ _ _ hversion, Run.ok_bind]
    dsimp only
    by_cases h0 : version = 0
    · rw [if_pos h0]
      exact ⟨_, rfl, .inl rfl⟩
    rw [if_neg h0] at h ⊢
    by_cases h1 : version = 1
    · rw [if_pos h1] at h ⊢
      obtain ⟨old, hold, hstate⟩ := scpV1sAccept_of_received hdata h
      exact ⟨old, hold, .inr hstate⟩
    · rw [if_neg h1] at h ⊢
      cases h
      exact ⟨_, rfl, .inr (.inr rfl)⟩

end Xrdp.Scp
