import Xrdp.Fastpath.Fastpath

/-!
# Processing what a client sends

`libxrdp_process_data` in `libxrdp/libxrdp.c` takes a packet of the client apart: a packet may hold
several share-control PDUs, and `next_packet` says where the next one starts.  Below it are
`xrdp_rdp_recv`, the layers `xrdp_sec_recv`, `xrdp_mcs_recv` and `xrdp_iso_recv`, and fast-path
input.

What is done with the contents of a PDU is of no concern here but for how far it reads, and
whether it fails; `Env` says what the rest of the program does in one round of the loop.
-/

namespace Xrdp.Recv

open Fastpath (CryptLevel)

/-! ## The stream of a transport -/

/-- `trans->in_s`, what the client has sent and the transport has not read, and the state of the
layers. -/
structure Session where
  cells : Nat → UInt8
  p : Nat
  end_ : Int
  nextPacket : Option Nat
  wire : List UInt8
  isSecurityHeaderPresent : Bool
  numEvents : Nat
  secFlags : Nat
  upAndRunning : Bool
  /-- `cont` and `dead_lock_counter` of the loop. -/
  cont : Bool
  deadLockCounter : Nat

/-- A reader; `none` is an error return. -/
abbrev In := StateT Session Option

def fail {α : Type} : In α := fun _ => none

/-- `s_check_rem`, or an error. -/
def checkRem (n : Nat) : In Unit := fun s => if (s.p + n : Int) ≤ s.end_ then some ((), s) else none

def Session.byte (s : Session) (i : Nat) : Nat := (s.cells (s.p + i)).toNat

def inUint8s (n : Nat) : In Unit := fun s => some ((), { s with p := s.p + n })

def inUint8 : In Nat := fun s => some (s.byte 0, { s with p := s.p + 1 })

def inUint16Le : In Nat := fun s => some (s.byte 0 + 256 * s.byte 1, { s with p := s.p + 2 })

def inUint16Be : In Nat := fun s => some (256 * s.byte 0 + s.byte 1, { s with p := s.p + 2 })

def inUint32Le : In Nat := fun s =>
  some (s.byte 0 + 256 * s.byte 1 + 65536 * s.byte 2 + 16777216 * s.byte 3,
    { s with p := s.p + 4 })

/-- `libxrdp_get_pdu_bytes`. -/
def libxrdpGetPduBytes (header : List UInt8) : Nat :=
  let b i := (header.getD i 0).toNat
  if b 0 = 3 then 256 * b 2 + b 3
  else if b 1 &&& 0x80 ≠ 0 then 256 * (b 1 &&& 0x7F) + b 2
  else b 1

/-- `libxrdp_force_read`: a whole packet of the transport in place of the one in the stream. -/
def libxrdpForceRead : In Unit := fun s =>
  if s.wire.length < 4 then none
  else
    let bytes := libxrdpGetPduBytes (s.wire.take 4)
    if bytes < 1 ∨ bytes > 32 * 1024 then none
    else
      let n := max 4 bytes
      if s.wire.length < n then none
      else some ((), { s with
        cells := writeAt s.cells 0 (s.wire.take n), p := 0, end_ := n, nextPacket := none
        wire := s.wire.drop n })

/-! ## The layers -/

/-- What the rest of the program does in one round of the loop. -/
structure Env where
  /-- `session->is_term()`. -/
  isTerm : Bool
  cryptLevel : CryptLevel
  cryptMethodNone : Bool
  /-- `xrdp_sec_decrypt`. -/
  decrypt : List UInt8 → List UInt8
  /-- `xrdp_sec_fips_decrypt`. -/
  fipsDecrypt : List UInt8 → List UInt8
  /-- `xrdp_sec_process_logon_info`: the bytes it reads, `none` if it fails. -/
  logonInfo : Option Nat
  isMce : Bool
  /-- Whether a licence message can be sent. -/
  licSent : Bool
  /-- The bytes `xrdp_channel_process` reads. -/
  channelBytes : Nat
  /-- The bytes `xrdp_caps_process_confirm_active` reads. -/
  confirmActiveBytes : Nat
  /-- The bytes the handler of a data PDU reads. -/
  dataBytes : Nat

def ISO_PDU_DT : Nat := 0xF0
def MCS_DPUM : Nat := 8
def MCS_CJRQ : Nat := 14
def MCS_SDRQ : Nat := 25
def MCS_GLOBAL_CHANNEL : Nat := 1003
def SEC_CLIENT_RANDOM : Nat := 0x01
def SEC_ENCRYPT : Nat := 0x08
def SEC_LOGON_INFO : Nat := 0x40
def SEC_LICENCE_NEG : Nat := 0x80
def PDUTYPE_CONFIRMACTIVEPDU : Int := 3
def PDUTYPE_DATAPDU : Int := 7
def RDP_DATA_PDU_FONT2 : Nat := 39
def FASTPATH_INPUT_ENCRYPTED : Nat := 0x2

/-- `xrdp_iso_recv_msg`: code and length indicator. -/
def xrdpIsoRecvMsg : In (Nat × Nat) := do
  let ver ← inUint8
  if ver ≠ 3 then fail
  else do
    inUint8s 1
    let plen ← inUint16Be
    if plen < 4 then fail
    else do
      checkRem 2
      let len ← inUint8
      let code ← inUint8
      if code = ISO_PDU_DT then do
        checkRem 1
        inUint8s 1
        pure (code, len)
      else do
        checkRem 5
        inUint8s 5
        pure (code, len)

/-- `xrdp_iso_recv`. -/
def xrdpIsoRecv : In Unit := do
  let (code, len) ← xrdpIsoRecvMsg
  if code ≠ ISO_PDU_DT ∨ len ≠ 2 then fail else pure ()

/-- The header of a send-data request, behind its first byte: the channel. -/
def xrdpMcsRecvSdrq : In Nat := do
  checkRem 6
  inUint8s 2
  let chan ← inUint16Be
  inUint8s 1
  let len ← inUint8
  if len &&& 0x80 ≠ 0 then do
    checkRem 1
    inUint8s 1
    pure chan
  else pure chan

/-- The loop of `xrdp_mcs_recv`: a channel join request is answered and the next packet read. -/
def xrdpMcsRecvLoop : Nat → In Nat
  | 0 => fail
  | fuel + 1 => do
    xrdpIsoRecv
    checkRem 1
    let opcode ← inUint8
    let appid := opcode / 4
    if appid = MCS_DPUM then fail
    else if appid = MCS_CJRQ then do
      checkRem 4
      inUint8s 4
      libxrdpForceRead
      xrdpMcsRecvLoop fuel
    else if appid ≠ MCS_SDRQ then fail
    else xrdpMcsRecvSdrq

/-- `xrdp_mcs_recv`: each further packet takes bytes of the wire. -/
def xrdpMcsRecv : In Nat := fun s => xrdpMcsRecvLoop (s.wire.length + 1) s

/-- Decrypting what is left of the packet, in place. -/
def decryptRest (decrypt : List UInt8 → List UInt8) : In Unit := fun s =>
  some ((), { s with
    cells := writeAt s.cells s.p (decrypt (bytesAt s.cells s.p (s.end_ - s.p).toNat)) })

/-- The end of a FIPS packet moves before its padding. -/
def dropPad (pad : Nat) : In Unit := fun s => some ((), { s with end_ := s.end_ - pad })

/-- Decryption in `xrdp_sec_recv`. -/
def secDecrypt (env : Env) (flags : Nat) : In Unit :=
  if flags &&& SEC_ENCRYPT = 0 then pure ()
  else match env.cryptLevel with
  | .CRYPT_LEVEL_FIPS => do
    checkRem 12
    let len ← inUint16Le
    let ver ← inUint8
    if len ≠ 16 ∨ ver ≠ 1 then fail
    else do
      let pad ← inUint8
      inUint8s 8
      decryptRest env.fipsDecrypt
      dropPad pad
  | .CRYPT_LEVEL_NONE => pure ()
  | _ => do
    checkRem 8
    inUint8s 8
    decryptRest env.decrypt

/-- What `xrdp_sec_recv` returns when it does not fail. -/
inductive SecRecv where
  /-- -1, "send demand active". -/
  | demandActive
  | channel (chan : Nat)

/-- "in tls mode, no more security header from now on". -/
def dropSecurityHeader (env : Env) : In Unit := modify fun s =>
  if env.cryptLevel = .CRYPT_LEVEL_NONE ∧ env.cryptMethodNone then
    { s with isSecurityHeaderPresent := false }
  else s

/-- `xrdp_sec_recv`, behind the decryption. -/
def xrdpSecRecvFlags (env : Env) (chan flags : Nat) : In SecRecv :=
  if flags &&& SEC_CLIENT_RANDOM ≠ 0 then do
    checkRem 4
    let len ← inUint32Le
    if len ≠ 64 + 8 ∧ len ≠ 256 + 8 then fail
    else do
      checkRem (len - 8)
      inUint8s (len - 8)
      pure (.channel 1)
  else if flags &&& SEC_LOGON_INFO ≠ 0 then
    match env.logonInfo with
    | none => fail
    | some n => do
      inUint8s n
      if env.licSent then pure (if env.isMce then .demandActive else .channel 1) else fail
  else if flags &&& SEC_LICENCE_NEG ≠ 0 then
    if env.licSent then do
      dropSecurityHeader env
      pure .demandActive
    else fail
  else pure (.channel chan)

/-- `xrdp_sec_recv`. -/
def xrdpSecRecv (env : Env) : In SecRecv := do
  let chan ← xrdpMcsRecv
  checkRem 4
  if (← get).isSecurityHeaderPresent = false then pure (.channel chan)
  else do
    let flags ← inUint32Le
    secDecrypt env flags
    xrdpSecRecvFlags env chan flags

/-! ## Fast-path input -/

/-- `xrdp_fastpath_recv`. -/
def xrdpFastpathRecv : In Unit := do
  let holdp := (← get).p
  checkRem 2
  let fpHdr ← inUint8
  let byte ← inUint8
  modify fun s => { s with numEvents := (fpHdr &&& 0x3C) / 4, secFlags := (fpHdr &&& 0xC0) / 64 }
  if byte &&& 0x80 ≠ 0 then do
    checkRem 1
    let byte2 ← inUint8
    modify fun s => { s with nextPacket := some (holdp + (256 * (byte &&& 0x7F) + byte2)) }
  else modify fun s => { s with nextPacket := some (holdp + byte) }

/-- Decryption in `xrdp_sec_recv_fastpath`. -/
def fastpathDecrypt (env : Env) (secFlags : Nat) : In Unit :=
  if secFlags &&& FASTPATH_INPUT_ENCRYPTED = 0 then pure ()
  else match env.cryptLevel with
  | .CRYPT_LEVEL_FIPS => do
    checkRem 12
    let len ← inUint16Le
    inUint8s 1
    if len ≠ 0x10 then fail
    else do
      let pad ← inUint8
      inUint8s 8
      decryptRest env.fipsDecrypt
      dropPad pad
  | _ => do
    checkRem 8
    inUint8s 8
    decryptRest env.decrypt

/-- The number of events, if the header does not give it. -/
def readNumEvents (numEvents : Nat) : In Unit :=
  if numEvents = 0 then do
    checkRem 8
    let numEvents ← inUint8
    modify fun s => { s with numEvents }
  else pure ()

/-- `xrdp_sec_recv_fastpath`. -/
def xrdpSecRecvFastpath (env : Env) : In Unit := do
  xrdpFastpathRecv
  fastpathDecrypt env (← get).secFlags
  readNumEvents (← get).numEvents

/-- `xrdp_fastpath_process_EVENT_*`, by event code. -/
def xrdpFastpathProcessEvent (eventCode eventFlags : Nat) : In Unit :=
  match eventCode with
  | 0 => do checkRem 1; inUint8s 1
  | 1 => if eventFlags ≠ 0 then fail else do checkRem 6; inUint8s 6
  | 2 => if eventFlags ≠ 0 then fail else do checkRem 6; inUint8s 6
  | 4 => do checkRem 2; inUint8s 2
  | _ => pure ()

/-- The loop of `xrdp_fastpath_process_input_event`. -/
def xrdpFastpathProcessInputEvent : Nat → In Unit
  | 0 => pure ()
  | n + 1 => do
    checkRem 1
    let eventHeader ← inUint8
    xrdpFastpathProcessEvent (eventHeader / 32) (eventHeader &&& 0x1F)
    xrdpFastpathProcessInputEvent n

/-! ## Share control -/

/-- `next_packet`, if it is inside the packet. -/
def Session.inPacket (s : Session) : Option Nat := s.nextPacket.filter fun np => (np : Int) < s.end_

/-- The share-control header: the code, and where the next PDU starts. -/
def shareControl : In Int := fun s =>
  if (s.p + 6 : Int) ≤ s.end_ then
    let len := s.byte 0 + 256 * s.byte 1
    let pduCode := s.byte 2 + 256 * s.byte 3
    some ((pduCode &&& 0xF : Nat), { s with p := s.p + 6, nextPacket := s.nextPacket.map (· + len) })
  else some (0, { s with nextPacket := none })

/-- `xrdp_rdp_recv`. -/
def xrdpRdpRecv (env : Env) : In Int := do
  let s ← get
  match s.inPacket with
  | none =>
    if s.byte 0 ≠ 3 then do
      xrdpSecRecvFastpath env
      pure 2
    else do
      match ← xrdpSecRecv env with
      | .demandActive => do
        modify fun s => { s with nextPacket := none }
        pure (-1)
      | .channel chan =>
        if chan ≠ MCS_GLOBAL_CHANNEL ∧ chan > 0 then do
          inUint8s (if chan > MCS_GLOBAL_CHANNEL then env.channelBytes else 0)
          modify fun s => { s with nextPacket := none }
          pure 0
        else do
          modify fun s => { s with nextPacket := some s.p }
          shareControl
  | some np => do
    modify fun s => { s with p := np }
    shareControl

/-- `xrdp_rdp_process_data`. -/
def xrdpRdpProcessData (env : Env) : In Unit := do
  checkRem 12
  inUint8s 6
  let uncompressedLength ← inUint16Le
  let pduType2 ← inUint8
  let compressedType ← inUint8
  let compressedLength ← inUint16Le
  if compressedType ≠ 0 then fail
  else if compressedLength > uncompressedLength then fail
  else if pduType2 = RDP_DATA_PDU_FONT2 then do
    inUint8s 4
    let seq ← inUint16Le
    modify fun s => if seq = 2 ∨ seq = 3 then { s with upAndRunning := true } else s
  else inUint8s env.dataBytes

/-! ## The loop -/

/-- The counter of the `case`s that are taken to be suspect. -/
def countDeadLock : In Unit :=
  modify fun s => { s with deadLockCounter := s.deadLockCounter + 1 }

/-- The `switch` of `libxrdp_process_data`; an error sets `term`. -/
def dispatch (env : Env) (code : Int) : In Unit :=
  if code = -1 then modify fun s => { s with upAndRunning := false }
  else if code = 0 then countDeadLock
  else if code = PDUTYPE_CONFIRMACTIVEPDU then inUint8s env.confirmActiveBytes
  else if code = PDUTYPE_DATAPDU then xrdpRdpProcessData env
  else if code = 2 then do xrdpFastpathProcessInputEvent (← get).numEvents
  else countDeadLock

/-- The end of a round: whether there is another one. -/
def nextRound (s : Session) : Option Session :=
  -- "we were locked in a deadly loop"
  let s := if s.deadLockCounter > 100000 then { s with cont := false, nextPacket := none } else s
  let s := if s.cont then { s with cont := s.inPacket.isSome } else s
  if s.cont ∨ s.upAndRunning = false then some s else none

/-- One round of the loop of `libxrdp_process_data`: the state in which the next round starts,
`none` if the loop is left. -/
def iteration (env : Env) (s : Session) : Option Session :=
  if env.isTerm then none
  else
    (xrdpRdpRecv env s).bind fun (code, s) =>
      (dispatch env code s).bind fun (_, s) => nextRound s

/-- The state after `k` rounds. -/
def rounds (envs : Nat → Env) (s : Session) : Nat → Option Session
  | 0 => some s
  | k + 1 => (rounds envs s k).bind (iteration (envs k))

/-- A packet of a session that is up and running, as `libxrdp_process_data` gets it. -/
structure Session.Fresh (s : Session) : Prop where
  p : s.p = 0
  nextPacket : s.nextPacket = none
  upAndRunning : s.upAndRunning = true
  cont : s.cont = true
  deadLockCounter : s.deadLockCounter = 0

end Xrdp.Recv
