import Xrdp.Scp.ScpV1

/-!
# The sessions of the session manager

`sesman/session.c`: a chain of the sessions there are.

* `sessionStartFork`, `sessionKill` — sessions come and go.
* `sessionGetBydata`, `sessionGetByuser` — the lookups by user name.

An item in the chain is never null.  What a child process does until it ends is left out, and so
are the branches for FreeBSD.
-/

namespace Xrdp.Sesman

open Xrdp.Scp

def SESMAN_SESSION_TYPE_XRDP : UInt8 := 1
def SESMAN_SESSION_TYPE_XVNC : UInt8 := 2
def SESMAN_SESSION_TYPE_XORG : UInt8 := 3
def SESMAN_SESSION_STATUS_ACTIVE : UInt8 := 0x01
def SESMAN_SESSION_STATUS_ALL : UInt8 := 0xFF

/-- `struct session_date`. -/
structure SessionDate where
  year : UInt16
  month : UInt8
  day : UInt8
  hour : UInt8
  minute : UInt8
  deriving DecidableEq

/-- `zero_time`. -/
def SessionDate.zero : SessionDate := ⟨0, 0, 0, 0, 0⟩

/-- `struct session_item`. -/
structure SessionItem where
  name : CString
  pid : Int
  display : Int
  width : Int
  height : Int
  bpp : Int
  data : Int
  status : UInt8
  type : UInt8
  connectTime : SessionDate
  disconnectTime : SessionDate
  idleTime : SessionDate
  clientIp : CString
  guid : List UInt8
  deriving DecidableEq

/-- The bits of `enum SESMAN_CFG_SESS_POLICY`. -/
structure SessPolicy where
  d : Bool
  i : Bool
  c : Bool
  deriving DecidableEq

/-- `struct config_sessions`, as far as it is looked at. -/
structure SessConfig where
  x11DisplayOffset : Int
  maxSessions : Int
  policy : SessPolicy

/-- `g_sessions` and `g_session_count`. -/
structure Sessions where
  chain : List SessionItem
  count : Int

/-! ## Strings -/

/-- The string that `g_strncpy` leaves of one that may not be there. -/
def storedString (src : Option CString) (len : Nat) : CString :=
  match src with
  | none => .ofBuf [0]
  | some src => .ofBuf (gStrncpy src len)

/-- `g_strncmp` returns 0. -/
def gStrncmpZero (c1 c2 : CString) (len : Nat) : Bool := c1.chars.take len = c2.chars.take len

/-- `tolower` in the C locale. -/
def toLower (c : UInt8) : UInt8 := if 0x41 ≤ c ∧ c ≤ 0x5A then c + 0x20 else c

/-- `g_strncasecmp` returns 0. -/
def gStrncasecmpZero (c1 c2 : CString) (len : Nat) : Bool :=
  (c1.chars.take len).map toLower = (c2.chars.take len).map toLower

/-- `g_strncmp_d`, on strings with their terminators. -/
def gStrncmpD (delim : UInt8) : List UInt8 → List UInt8 → Nat → UInt8 → UInt8 → Int
  | c1 :: s1, c2 :: s2, n + 1, _, _ =>
    if c1 = 0 ∨ c1 ≠ c2 ∨ c1 = delim ∨ c2 = delim then c1.toNat - c2.toNat
    else gStrncmpD delim s1 s2 n c1 c2
  | _, _, _, c1, c2 => c1.toNat - c2.toNat

/-! ## Lookups -/

/-- What a client asks for when it may reconnect. -/
structure DataRequest where
  name : CString
  width : Int
  height : Int
  bpp : Int
  type : UInt8
  clientIp : CString

/-- The types of the session manager for those of the protocol. -/
def sesmanType (type : UInt8) : Option UInt8 :=
  if type = SCP_SESSION_TYPE_XVNC then some SESMAN_SESSION_TYPE_XVNC
  else if type = SCP_SESSION_TYPE_XRDP then some SESMAN_SESSION_TYPE_XRDP
  else if type = SCP_SESSION_TYPE_XORG then some SESMAN_SESSION_TYPE_XORG
  else none

/-- An item is what is asked for. -/
def SessionItem.matchesData (item : SessionItem) (policy : SessPolicy) (type : UInt8)
    (r : DataRequest) : Bool :=
  gStrncmpZero r.name item.name 255 &&
    (!policy.d || item.width == r.width && item.height == r.height) &&
    (!policy.i ||
      gStrncmpD 0x3A (r.clientIp.chars ++ [0]) (item.clientIp.chars ++ [0]) 255 0 0 == 0) &&
    (!policy.c || gStrncmpZero r.clientIp item.clientIp 255) &&
    item.bpp == r.bpp &&
    item.type == type

/-- `session_get_bydata`: where the item is in the chain. -/
def sessionGetBydata (cfg : SessConfig) (chain : List SessionItem) (r : DataRequest) :
    Option Nat :=
  -- Xvnc cannot resize
  let policy := if r.type = SCP_SESSION_TYPE_XVNC then { cfg.policy with d := true }
    else cfg.policy
  (sesmanType r.type).bind fun type => chain.findIdx? (·.matchesData policy type r)

/-- `struct SCP_DISCONNECTED_SESSION`. -/
structure ScpDisconnectedSession where
  SID : UInt32
  type : UInt8
  status : UInt8
  height : UInt16
  width : UInt16
  bpp : UInt8
  idleDays : UInt8
  idleHours : UInt8
  idleMinutes : UInt8
  connYear : UInt16
  connMonth : UInt8
  connDay : UInt8
  connHour : UInt8
  connMinute : UInt8
  addrType : UInt8
  ipv4addr : UInt32
  ipv6addr : Ipv6Addr
  deriving DecidableEq

/-- What the list says about an item. -/
def SessionItem.toDisconnected (item : SessionItem) : ScpDisconnectedSession where
  SID := UInt32.ofInt item.pid
  type := item.type
  status := 0
  height := UInt16.ofInt item.height
  width := UInt16.ofInt item.width
  bpp := UInt8.ofInt item.bpp
  idleDays := item.idleTime.day
  idleHours := item.idleTime.hour
  idleMinutes := item.idleTime.minute
  connYear := item.connectTime.year
  connMonth := item.connectTime.month
  connDay := item.connectTime.day
  connHour := item.connectTime.hour
  connMinute := item.connectTime.minute
  addrType := 0
  ipv4addr := 0
  ipv6addr := ⟨List.replicate 16 0, zeroAddr_length⟩

/-- An item is listed; the null user lists the items of all. -/
def SessionItem.matchesUser (item : SessionItem) (user : Option CString) (flags : UInt8) : Bool :=
  (match user with
    | none => true
    | some user => gStrncasecmpZero user item.name 256) &&
    item.status &&& flags != 0

/-- `session_get_byuser`, with whether there is memory. -/
def sessionGetByuser (chain : List SessionItem) (user : Option CString) (flags : UInt8)
    (memory : Bool) : List ScpDisconnectedSession :=
  if memory then (chain.filter (·.matchesUser user flags)).map (·.toDisconnected) else []

/-! ## Starting and killing -/

/-- What is taken of `struct SCP_SESSION`, with the `data` and the type that come along. -/
structure StartRequest where
  data : Int
  type : UInt8
  width : UInt16
  height : UInt16
  bpp : UInt8
  clientIp : Option CString
  username : Option CString
  guid : List UInt8

/-- The files and ports of the X servers, and `XRDP_SOCKET_PATH`. -/
structure XEnv where
  socketPath : String
  fileExists : String → Bool
  /-- There is a socket, and it cannot be bound. -/
  portTaken : String → Bool

/-- `%2.2d`. -/
def twoDigits (n : Int) : String :=
  (if n < 0 then "-" else "") ++ (if n.natAbs < 10 then "0" else "") ++ toString n.natAbs

/-- `x_server_running_check_ports`. -/
def xServerRunningCheckPorts (env : XEnv) (display : Int) : Bool :=
  let d := toString display
  env.fileExists ("/tmp/.X11-unix/X" ++ d) ||
    env.fileExists ("/tmp/.X" ++ d ++ "-lock") ||
    env.portTaken ("59" ++ twoDigits display) ||
    env.portTaken ("60" ++ twoDigits display) ||
    env.portTaken ("62" ++ twoDigits display) ||
    env.fileExists (env.socketPath ++ "/xrdp_chansrv_socket_" ++ d) ||
    env.fileExists (env.socketPath ++ "/xrdp_chansrv_audio_out_socket_" ++ d) ||
    env.fileExists (env.socketPath ++ "/xrdp_chansrv_audio_in_socket_" ++ d) ||
    env.fileExists (env.socketPath ++ "/xrdpapi_" ++ d) ||
    env.fileExists (env.socketPath ++ "/xrdp_display_" ++ d)

/-- `session_is_display_in_chain`. -/
def sessionIsDisplayInChain (chain : List SessionItem) (display : Int) : Bool :=
  chain.any (·.display == display)

/-- The loop of `session_get_avail_display_from_chain`, with the number of displays left. -/
def availDisplayLoop (env : XEnv) (chain : List SessionItem) : Nat → Int → Int
  | 0, _ => 0
  | n + 1, display =>
    if !sessionIsDisplayInChain chain display && !xServerRunningCheckPorts env display then display
    else availDisplayLoop env chain n (display + 1)

/-- `session_get_avail_display_from_chain`. -/
def sessionGetAvailDisplayFromChain (cfg : SessConfig) (env : XEnv) (chain : List SessionItem) :
    Int :=
  availDisplayLoop env chain (cfg.maxSessions + 1).toNat cfg.x11DisplayOffset

/-- What `g_fork` returns. -/
inductive ForkResult where
  | failed
  | child
  | parent (pid : Int)
  deriving DecidableEq

/-- What the rest of the system does while a session is started. -/
structure StartEnv where
  x : XEnv
  /-- The memory for the chain element is there. -/
  chainMemory : Bool
  itemMemory : Bool
  fork : ForkResult
  /-- `g_fork` for the window manager, in the child. -/
  wmFork : ForkResult
  /-- `g_fork` for the X server, in the child. -/
  displayFork : ForkResult
  time : SessionDate

/-- The item of a session that has been started. -/
def StartRequest.newItem (r : StartRequest) (pid display : Int) (time : SessionDate) :
    SessionItem where
  name := storedString r.username 255
  pid := pid
  display := display
  width := r.width.toNat
  height := r.height.toNat
  bpp := r.bpp.toNat
  data := r.data
  status := SESMAN_SESSION_STATUS_ACTIVE
  type := r.type
  connectTime := time
  disconnectTime := .zero
  idleTime := .zero
  clientIp := storedString r.clientIp 255
  guid := r.guid

/-- `session_start_fork`: what it returns, in the process that goes on; `none` if the child ends in
it. -/
def sessionStartFork (cfg : SessConfig) (env : StartEnv) (r : StartRequest) (s : Sessions) :
    Option (Int × Sessions) :=
  if s.count ≥ cfg.maxSessions then some (0, s)
  else if !env.chainMemory then some (0, s)
  else if !env.itemMemory then some (0, s)
  else
    let display := sessionGetAvailDisplayFromChain cfg env.x s.chain
    if display = 0 then some (0, s)
    else
      match env.fork with
      | .failed => some (display, s)
      | .child =>
        match env.wmFork with
        | .failed => some (display, s)
        | .child => none
        | .parent _ =>
          match env.displayFork with
          | .failed => some (display, s)
          | _ => none
      | .parent pid =>
        some (display, ⟨r.newItem pid display env.time :: s.chain, s.count + 1⟩)

def SESMAN_SESSION_KILL_OK : Int := 0
def SESMAN_SESSION_KILL_NOTFOUND : Int := 2

/-- `session_kill`. -/
def sessionKill (pid : Int) (s : Sessions) : Int × Sessions :=
  if s.chain.any (·.pid == pid) then
    (SESMAN_SESSION_KILL_OK, ⟨s.chain.eraseP (·.pid == pid), s.count - 1⟩)
  else (SESMAN_SESSION_KILL_NOTFOUND, s)

end Xrdp.Sesman
