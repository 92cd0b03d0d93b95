import Xrdp.Lib.Wire
import Xrdp.Memory

/-!
# The login message of SCP version 1

How the client of the session manager asks for a session (`sesman/libscp`).

* `ScpSession`, `scpSessionSetType` and the others — `libscp_session.c`.
* `scpV1cConnect` — `libscp_v1c.c`: the message as it goes out.
* `scpVXsAccept` — `libscp_vX.c` and `libscp_v1s.c`: what the server makes of it.

A stream is its whole allocation, with whatever it held before.  Memory is never short.
-/

namespace Xrdp.Scp

open Wire

/-! ## Strings -/

/-- A string of C, without its terminator. -/
structure CString where
  chars : List UInt8
  noNul : 0 ∉ chars
  deriving DecidableEq

theorem noNul_nil : (0 : UInt8) ∉ ([] : List UInt8) := List.not_mem_nil

/-- The string that a buffer holds, if a terminator follows it. -/
def CString.ofBuf (buf : List UInt8) : CString where
  chars := buf.takeWhile (· ≠ 0)
  noNul := fun h => by simpa using List.mem_takeWhile_imp h

/-- An `int`. -/
def int (n : Int) : Int := n.bmod (2 ^ 32)

/-- `g_strlen`. -/
def gStrlen (s : Option CString) : Int :=
  match s with
  | none => 0
  | some s => int s.chars.length

/-- The characters that are there. -/
def charsOf (s : Option CString) : List UInt8 := (s.map (·.chars)).getD []

/-- `g_strncpy`, with the terminator at `len`. -/
def gStrncpy (src : CString) (len : Nat) : List UInt8 :=
  src.chars.take len ++ List.replicate (len - src.chars.length) 0 ++ [0]

/-! ## Sessions -/

def SCP_SESSION_TYPE_XVNC : UInt8 := 0
def SCP_SESSION_TYPE_XRDP : UInt8 := 1
def SCP_SESSION_TYPE_MANAGE : UInt8 := 2
def SCP_SESSION_TYPE_XORG : UInt8 := 3
def SCP_GW_AUTHENTICATION : UInt8 := 4
def SCP_ADDRESS_TYPE_IPV4 : UInt8 := 0
def SCP_ADDRESS_TYPE_IPV6 : UInt8 := 1
def SCP_COMMAND_SET_DEFAULT : Nat := 0
def SCP_COMMAND_SET_MANAGE : Nat := 1
def SCP_COMMAND_SET_RSR : Nat := 2

/-- An IPv6 address. -/
structure Ipv6Addr where
  bytes : List UInt8
  bytes_length : bytes.length = 16
  deriving DecidableEq

theorem zeroAddr_length : (List.replicate 16 (0 : UInt8)).length = 16 := rfl

/-- `struct SCP_SESSION`, what the login is about. -/
structure ScpSession where
  type : UInt8
  version : UInt32
  height : UInt16
  width : UInt16
  bpp : UInt8
  rsr : UInt8
  /-- `char locale[18]`. -/
  locale : List UInt8
  username : Option CString
  password : Option CString
  hostname : Option CString
  addrType : UInt8
  ipv4addr : UInt32
  ipv6addr : Ipv6Addr
  /-- `mng` is allocated. -/
  mng : Bool
  deriving DecidableEq

/-- `scp_session_create`. -/
def scpSessionCreate : ScpSession where
  type := 0
  version := 0
  height := 0
  width := 0
  bpp := 0
  rsr := 0
  locale := List.replicate 18 0
  username := none
  password := none
  hostname := none
  addrType := 0
  ipv4addr := 0
  ipv6addr := ⟨List.replicate 16 0, zeroAddr_length⟩
  mng := false

/-- What `scp_session_set_addr` is given. -/
inductive Address where
  | ipv4 (addr : UInt32)
  | ipv6 (addr : Ipv6Addr)
  deriving DecidableEq

section

variable (s : ScpSession)

/-- `scp_session_set_type`; `none` is an error that leaves the session as it was. -/
def scpSessionSetType (type : UInt8) : Option ScpSession :=
  if type = SCP_SESSION_TYPE_XVNC ∨ type = SCP_SESSION_TYPE_XRDP ∨ type = SCP_SESSION_TYPE_XORG ∨
      type = SCP_GW_AUTHENTICATION then
    some { s with type }
  else if type = SCP_SESSION_TYPE_MANAGE then some { s with type, mng := true }
  else none

/-- `scp_session_set_version`. -/
def scpSessionSetVersion (version : UInt32) : Option ScpSession :=
  if version = 0 ∨ version = 1 then some { s with version } else none

/-- `scp_session_set_height`. -/
def scpSessionSetHeight (height : UInt16) : ScpSession := { s with height }

/-- `scp_session_set_width`. -/
def scpSessionSetWidth (width : UInt16) : ScpSession := { s with width }

/-- `scp_session_set_bpp`. -/
def scpSessionSetBpp (bpp : UInt8) : Option ScpSession :=
  if bpp = 8 ∨ bpp = 15 ∨ bpp = 16 ∨ bpp = 24 ∨ bpp = 32 then some { s with bpp } else none

/-- `scp_session_set_rsr`: it is the session's own flag that is looked at. -/
def scpSessionSetRsr (_rsr : UInt8) : ScpSession := { s with rsr := if s.rsr ≠ 0 then 1 else 0 }

/-- `scp_session_set_locale`. -/
def scpSessionSetLocale (str : CString) : ScpSession := { s with locale := gStrncpy str 17 }

/-- `scp_session_set_username`. -/
def scpSessionSetUsername (str : CString) : ScpSession := { s with username := some str }

/-- `scp_session_set_password`. -/
def scpSessionSetPassword (str : CString) : ScpSession := { s with password := some str }

/-- `scp_session_set_hostname`. -/
def scpSessionSetHostname (str : CString) : ScpSession := { s with hostname := some str }

/-- `scp_session_set_addr`: `addr_type` is not set. -/
def scpSessionSetAddr (addr : Address) : ScpSession :=
  match addr with
  | .ipv4 addr => { s with ipv4addr := addr }
  | .ipv6 addr => { s with ipv6addr := addr }

end

/-! ## The client -/

/-- A stream with an allocation of `size` bytes. -/
structure Stream (size : Nat) where
  data : List UInt8
  data_length : data.length = size

/-- Bytes written from the start of a stream. -/
def putBytes (data bytes : List UInt8) : Run (List UInt8) :=
  if bytes.length ≤ data.length then .ok (bytes ++ data.drop bytes.length)
  else .error .outOfBounds

/-- `scp_tcp_force_send`: what is sent. -/
def scpTcpForceSend (data : List UInt8) (len : Int) : Run (List UInt8) :=
  if len ≤ data.length then .ok (data.take len.toNat) else .error .outOfBounds

/-- A string with its length in a byte. -/
def outString (s : Option CString) : List UInt8 :=
  let sz := (gStrlen s % 256).toNat
  UInt8.ofNat sz :: (charsOf s).take sz

/-- The size that `scp_v1c_connect` sends along. -/
def connectSize (s : ScpSession) : Nat :=
  ((19 + 17 + 4 + gStrlen s.hostname + gStrlen s.username + gStrlen s.password +
    if s.addrType = SCP_ADDRESS_TYPE_IPV4 then 4 else 16) % 2 ^ 32).toNat

/-- The body of the message. -/
def connectBody (s : ScpSession) : List UInt8 :=
  [s.type] ++ beBytes 2 s.height.toNat ++ beBytes 2 s.width.toNat ++ [s.bpp] ++ [s.rsr] ++
    s.locale.take 17 ++ [s.addrType] ++
    (if s.addrType = SCP_ADDRESS_TYPE_IPV4 then beBytes 4 s.ipv4addr.toNat
      else if s.addrType = SCP_ADDRESS_TYPE_IPV6 then s.ipv6addr.bytes else []) ++
    outString s.hostname ++ outString s.username ++ outString s.password

/-- What `scp_v1c_connect` writes. -/
def connectMessage (s : ScpSession) : List UInt8 :=
  beBytes 4 1 ++ beBytes 4 (connectSize s) ++ beBytes 2 SCP_COMMAND_SET_DEFAULT ++ beBytes 2 1 ++
    connectBody s

/-- `scp_v1c_connect`, up to the response: what is sent.  The streams of
`scp_connection_create` have 8196 bytes. -/
def scpV1cConnect (outS : Stream 8196) (s : ScpSession) : Run (List UInt8) := do
  let data ← putBytes outS.data (connectMessage s)
  scpTcpForceSend data (int (connectSize s))

/-! ## The server -/

/-- How `scp_vXs_accept` ends: with a session, an error, or in the functions for version 0 or for
management. -/
inductive ScpServerState where
  | ok (session : ScpSession)
  | versionErr
  | networkErr
  | sequenceErr
  | internalErr
  | sessionTypeErr
  | sizeErr
  | v0sAccept
  | mngAccept
  deriving DecidableEq

/-- Reading from a stream. -/
abbrev Rd := StateT (List UInt8) Run

/-- A reader off the front, within the allocation. -/
def rdOf {α : Type} (get : List UInt8 → Option (α × List UInt8)) : Rd α := fun s =>
  match get s with
  | none => .error .outOfBounds
  | some r => .ok r

/-- `in_uint8`. -/
def inUint8 : Rd UInt8 := rdOf fun s => (getLe 1 s).map fun (v, s) => (UInt8.ofNat v, s)

/-- `in_uint16_be`. -/
def inUint16Be : Rd UInt16 := rdOf fun s => (getBe 2 s).map fun (v, s) => (UInt16.ofNat v, s)

/-- `in_uint32_be`. -/
def inUint32Be : Rd UInt32 := rdOf fun s => (getBe 4 s).map fun (v, s) => (UInt32.ofNat v, s)

/-- `in_uint8a`. -/
def inUint8a (n : Nat) : Rd (List UInt8) := rdOf (getBytes n)

/-- `scp_tcp_force_recv` to the start of a stream: the stream, and what is left at the socket, or
`none` if the connection ends before.  What comes in is stored as it comes in. -/
def scpTcpForceRecv (sck data : List UInt8) (len : Int) : Run (Option (List UInt8 × List UInt8)) :=
  let n := len.toNat
  if data.length < min n sck.length then .error .outOfBounds
  else if sck.length < n then .ok none
  else .ok (some (sck.take n ++ data.drop n, sck.drop n))

/-- A string with its length in a byte, read into `buf` with a terminator behind it. -/
def readString : Rd CString := do
  let sz ← inUint8
  let buf ← inUint8a sz.toNat
  pure (.ofBuf buf)

/-- The address, if it is of a kind that is known. -/
def readAddr (session : ScpSession) : Rd ScpSession := do
  let sz ← inUint8
  if sz = SCP_ADDRESS_TYPE_IPV4 then do
    let addr ← inUint32Be
    pure (scpSessionSetAddr session (.ipv4 addr))
  else if sz = SCP_ADDRESS_TYPE_IPV6 then do
    let buf ← inUint8a 16
    if h : buf.length = 16 then pure (scpSessionSetAddr session (.ipv6 ⟨buf, h⟩))
    else pure session
  else pure session

/-- The strings of the login. -/
def readCredentials (session : ScpSession) : Rd ScpServerState := do
  let hostname ← readString
  let session := scpSessionSetHostname session hostname
  let username ← readString
  let session := scpSessionSetUsername session username
  let password ← readString
  let session := scpSessionSetPassword session password
  pure (.ok session)

/-- What follows the type of the session. -/
def readLogin (session : ScpSession) : Rd ScpServerState := do
  let height ← inUint16Be
  let session := scpSessionSetHeight session height
  let width ← inUint16Be
  let session := scpSessionSetWidth session width
  let bpp ← inUint8
  match scpSessionSetBpp session bpp with
  | none => pure .internalErr
  | some session => do
    let rsr ← inUint8
    let session := scpSessionSetRsr session rsr
    let buf ← inUint8a 17
    let session := scpSessionSetLocale session (.ofBuf buf)
    let session ← readAddr session
    readCredentials session

/-- The session that is asked for. -/
def readSession : Rd ScpServerState := do
  let session := (scpSessionSetVersion scpSessionCreate 1).getD scpSessionCreate
  let sz ← inUint8
  if sz ≠ SCP_SESSION_TYPE_XVNC ∧ sz ≠ SCP_SESSION_TYPE_XRDP then pure .sessionTypeErr
  else readLogin ((scpSessionSetType session sz).getD session)

/-- The command set and the command. -/
def readCommand : Rd ScpServerState := do
  let cmdset ← inUint16Be
  if cmdset.toNat = SCP_COMMAND_SET_MANAGE then pure .mngAccept
  else if cmdset.toNat = SCP_COMMAND_SET_RSR then pure .sequenceErr
  else do
    let cmd ← inUint16Be
    if cmd ≠ 1 then pure .sequenceErr else readSession

/-- `scp_v1s_accept` with the version checked, on a stream that has been read up to the size. -/
def scpV1sAccept (sck data p : List UInt8) : Run ScpServerState := do
  let (size, _) ← inUint32Be p
  if size.toNat < 12 then pure .sizeErr
  else do
    let received ← scpTcpForceRecv sck data (int (size.toNat - 8))
    match received with
    | none => pure .networkErr
    | some (data, _) => do
      let (state, _) ← readCommand data
      pure state

/-- `scp_vXs_accept`, with what comes in at the socket.  The streams of `scp_process_start` have
8192 bytes. -/
def scpVXsAccept (inS : Stream 8192) (sck : List UInt8) : Run ScpServerState := do
  let received ← scpTcpForceRecv sck inS.data 8
  match received with
  | none => pure .networkErr
  | some (data, sck) => do
    let (version, p) ← inUint32Be data
    if version = 0 then pure .v0sAccept
    else if version = 1 then scpV1sAccept sck data p
    else pure .versionErr

/-! ## Logins -/

/-- What a client asks for, through the setters of a session. -/
structure Login where
  type : UInt8
  height : UInt16
  width : UInt16
  bpp : UInt8
  rsr : UInt8
  locale : CString
  addr : Address
  hostname : CString
  username : CString
  password : CString

/-- The session that the setters make, if none of them has an error. -/
def Login.toSession (l : Login) : Option ScpSession := do
  let s ← scpSessionSetType scpSessionCreate l.type
  let s ← scpSessionSetVersion s 1
  let s := scpSessionSetWidth (scpSessionSetHeight s l.height) l.width
  let s ← scpSessionSetBpp s l.bpp
  let s := scpSessionSetLocale (scpSessionSetRsr s l.rsr) l.locale
  let s := scpSessionSetAddr s l.addr
  some (scpSessionSetPassword (scpSessionSetUsername (scpSessionSetHostname s l.hostname)
    l.username) l.password)

/-- A session has this address. -/
def ScpSession.HasAddr (s : ScpSession) : Address → Prop
  | .ipv4 addr => s.addrType = SCP_ADDRESS_TYPE_IPV4 ∧ s.ipv4addr = addr
  | .ipv6 addr => s.addrType = SCP_ADDRESS_TYPE_IPV6 ∧ s.ipv6addr = addr

/-- A session is what was asked for; `rsr` is a flag. -/
structure ScpSession.Is (s : ScpSession) (l : Login) : Prop where
  type : s.type = l.type
  height : s.height = l.height
  width : s.width = l.width
  bpp : s.bpp = l.bpp
  rsr : s.rsr ≠ 0 ↔ l.rsr ≠ 0
  locale : CString.ofBuf s.locale = l.locale
  addr : s.HasAddr l.addr
  hostname : s.hostname = some l.hostname
  username : s.username = some l.username
  password : s.password = some l.password

end Xrdp.Scp
