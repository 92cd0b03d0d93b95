import Xrdp.Memory
import Xrdp.Lib.Wire

/-!
# The records between a master and a slave session

A master session writes what it sends to its client into a FIFO as well, in records of one size;
the slave session of the same name reads them and sends them to its own client.

* `PacketInfo` — `PacketInfo_t` in `common/myxrdp_common.h`.
* `sendDataToSlaveSession`, `transTlsSend` — the writer, in `common/trans.c`.
-/

namespace Xrdp.Mirror

/-- `enum SessionType`. -/
inductive SessionType where
  | MASTER
  | SLAVE
  | OTHER
  | ERROR
  deriving DecidableEq

def BUFFER_PACKET_SIZE : Nat := 1024 * 16

/-- `DATA_TYPE_RDP`. -/
def DATA_TYPE_RDP : UInt16 := 0x01

/-- `DATA_TYPE_DISCONN`. -/
def DATA_TYPE_DISCONN : UInt16 := 0x03

/-- `PacketInfo_t`. -/
structure PacketInfo where
  type : UInt16
  sum : UInt32
  length : UInt32
  /-- All of `buffer`. -/
  buffer : List UInt8

/-- The bytes a record carries. -/
def PacketInfo.payload (pack : PacketInfo) : List UInt8 := pack.buffer.take pack.length.toNat

/-- `MyTransInfo_t`, with what has been written into the FIFO for the slave. -/
structure MyTransInfo where
  sessionType : SessionType
  sendToSlave : Bool
  fifo : List PacketInfo

/-- The parts of a transport that `trans_tls_send` uses. -/
structure Link where
  /-- `tls` is not null. -/
  tls : Bool
  /-- What the TLS layer has accepted. -/
  accepted : List UInt8
  pMyTransInfo : Option MyTransInfo

/-- What `SSL_get_error` says before the call is repeated. -/
inductive Want where
  | read
  | write

/-- What `SSL_write` ends with. -/
inductive SslAnswer where
  /-- Up to `n + 1` bytes are accepted. -/
  | none (n : Nat)
  | zeroReturn
  | error

/-- What happens while `trans_tls_send` runs. -/
structure Answer where
  wants : List Want
  ssl : SslAnswer
  /-- `gl_fd_can_send` in time. -/
  fifoCanSend : Bool
  /-- `gl_write` of the record. -/
  fifoWrite : Bool
  /-- What is on the stack where the record is built. -/
  stack : Nat → UInt8

/-- The number of bytes the TLS layer accepts. -/
def SslAnswer.takes (ssl : SslAnswer) (data : List UInt8) : Nat :=
  match ssl with
  | .none n => min (n + 1) data.length
  | _ => 0

theorem SslAnswer.takes_le (ssl : SslAnswer) (data : List UInt8) :
    ssl.takes data ≤ data.length := by
  unfold SslAnswer.takes
  split
  · exact min_le_right _ _
  · exact Nat.zero_le _

/-- All is accepted just if as much is accepted as there is. -/
theorem SslAnswer.take_takes (ssl : SslAnswer) (data : List UInt8) :
    data = data.take (ssl.takes data) ↔ ssl.takes data = data.length := by
  constructor
  · intro h
    have hlen := congrArg List.length h
    rw [List.length_take, min_eq_left (ssl.takes_le data)] at hlen
    exact hlen.symm
  · intro h
    rw [h, List.take_length]

/-- `ssl_tls_write`: the return value, and what has been accepted. -/
def sslTlsWrite (data : List UInt8) : List Want → SslAnswer → Int × List UInt8
  | _ :: wants, ssl => sslTlsWrite data wants ssl
  | [], .none n => (min (n + 1) data.length, data.take (n + 1))
  | [], .zeroReturn => (0, [])
  | [], .error => (-1, [])

/-- What the TLS layer accepts. -/
theorem sslTlsWrite_accepted (data : List UInt8) (wants : List Want) (ssl : SslAnswer) :
    (sslTlsWrite data wants ssl).2 = data.take (ssl.takes data) := by
  induction wants with
  | nil =>
    cases ssl with
    | none n =>
      rw [SslAnswer.takes, ← List.take_eq_take_min]
      rfl
    | zeroReturn => exact List.take_zero.symm
    | error => exact List.take_zero.symm
  | cons want wants ih => exact ih

/-- The record for some data. -/
def PacketInfo.ofData (data : List UInt8) (stack : Nat → UInt8) : PacketInfo where
  type := 1
  sum := UInt32.ofNat data.length
  length := UInt32.ofNat data.length
  buffer := data ++ (List.range' data.length (BUFFER_PACKET_SIZE - data.length)).map stack

/-- A record carries the data it was made for. -/
theorem payload_ofData {data : List UInt8} (stack : Nat → UInt8)
    (h : data.length ≤ BUFFER_PACKET_SIZE) :
    (PacketInfo.ofData data stack).payload = data := by
  have hlen : (UInt32.ofNat data.length).toNat = data.length := by
    rw [UInt32.toNat_ofNat', Nat.mod_eq_of_lt]
    unfold BUFFER_PACKET_SIZE at h
    omega
  rw [PacketInfo.payload, PacketInfo.ofData]
  dsimp only
  rw [hlen, List.take_left]

/-- `sizeof(PacketInfo_t)`. -/
def PACKET_SIZE : Nat := 12 + BUFFER_PACKET_SIZE

/-- `sendDataToSlaveSession`. -/
def sendDataToSlaveSession (p : MyTransInfo) (data : List UInt8) (a : Answer) :
    Run (Int × MyTransInfo) :=
  -- the `memcpy` into `buffer`
  if data.length ≤ BUFFER_PACKET_SIZE then
    if a.fifoCanSend = false then .ok (-1, p)
    else if a.fifoWrite = false then .ok (-1, p)
    else .ok (PACKET_SIZE, { p with fifo := p.fifo ++ [.ofData data a.stack] })
  else .error .outOfBounds

/-- `trans_tls_send`. -/
def transTlsSend (self : Link) (data : List UInt8) (a : Answer) : Run (Int × Link) :=
  if self.tls = false then .ok (1, self)
  else
    let (rv, bytes) := sslTlsWrite data a.wants a.ssl
    let self := { self with accepted := self.accepted ++ bytes }
    match self.pMyTransInfo with
    | some p =>
      if p.sendToSlave ∧ p.sessionType = .MASTER then do
        let (sent, p) ← sendDataToSlaveSession p data a
        let p := if sent < 0 then { p with sendToSlave := false } else p
        .ok (rv, { self with pMyTransInfo := some p })
      else .ok (rv, self)
    | none => .ok (rv, self)

/-! ## The callers -/

/-- `TRANS_STATUS_*`. -/
inductive Status where
  | DOWN
  | UP
  deriving DecidableEq

/-- A transport with TLS. -/
structure TlsTrans where
  status : Status
  link : Link
  /-- The streams in `wait_s`, from `p` to `end`. -/
  waitS : List (List UInt8)

/-- What happens in a turn of a loop that writes. -/
structure Turn where
  /-- `g_tcp_can_send`. -/
  canSend : Bool
  /-- `is_term`, if it is asked. -/
  term : Bool
  /-- `g_tcp_last_error_would_block`. -/
  wouldBlock : Bool
  answer : Answer

/-- A turn of the loop in `trans_send_waiting`: whether the function returns 1. -/
def TlsTrans.sendFirst (self : TlsTrans) (block : Bool) (temp : List UInt8)
    (next : List (List UInt8)) (turn : Turn) : Run (Bool × TlsTrans) :=
  if turn.canSend then do
    let (sent, link) ← transTlsSend self.link temp turn.answer
    let self := { self with link }
    if sent > 0 then
      let temp := temp.drop sent.toNat
      .ok (false, { self with waitS := if temp.isEmpty then next else temp :: next })
    else if sent = 0 then .ok (true, self)
    else .ok (!turn.wouldBlock, self)
  else .ok (block && turn.term, self)

/-- `trans_send_waiting`; no return value if the turns do not suffice. -/
def transSendWaiting (block : Bool) : List Turn → TlsTrans → Run (Option Int × TlsTrans)
  | turns, self =>
    match self.waitS, turns with
    | [], _ => .ok (some 0, self)
    | _, [] => .ok (none, self)
    | temp :: next, turn :: turns => do
      let (failed, self) ← self.sendFirst block temp next turn
      if failed then .ok (some 1, self)
      else if block then transSendWaiting block turns self
      else .ok (some 0, self)

/-- The loop of `trans_force_write_s`, for what is left. -/
def forceWriteLoop : List Turn → List UInt8 → TlsTrans → Run (Option Int × TlsTrans)
  | _, [], self => .ok (some 0, self)
  | [], _, self => .ok (none, self)
  | turn :: turns, data, self => do
    let (sent, link) ← transTlsSend self.link data turn.answer
    let self := { self with link }
    if sent = -1 then
      if turn.wouldBlock then
        if turn.canSend = false ∧ turn.term then .ok (some 1, { self with status := .DOWN })
        else forceWriteLoop turns data self
      else .ok (some 1, { self with status := .DOWN })
    else if sent = 0 then .ok (some 1, { self with status := .DOWN })
    else forceWriteLoop turns (data.drop sent.toNat) self

/-- `trans_force_write_s`. -/
def transForceWriteS (self : TlsTrans) (outS : List UInt8) (waiting turns : List Turn) :
    Run (Option Int × TlsTrans) :=
  if self.status ≠ .UP then .ok (some 1, self)
  else do
    let (rv, self) ← transSendWaiting true waiting self
    match rv with
    | none => .ok (none, self)
    | some 0 => forceWriteLoop turns outS self
    | some _ => .ok (some 1, { self with status := .DOWN })

/-- What `trans_write_copy_s` could not send waits behind the rest. -/
def TlsTrans.enqueue (self : TlsTrans) (outData : List UInt8) : TlsTrans :=
  if outData.isEmpty then self else { self with waitS := self.waitS ++ [outData] }

/-- `trans_write_copy_s`. -/
def transWriteCopyS (self : TlsTrans) (outS : List UInt8) (waiting fresh : Turn) :
    Run (Int × TlsTrans) :=
  if self.status ≠ .UP then .ok (1, self)
  else do
    let (rv, self) ← transSendWaiting false [waiting] self
    if rv ≠ some 0 then .ok (1, { self with status := .DOWN })
    else if self.waitS.isEmpty ∧ fresh.canSend then do
      let (sent, link) ← transTlsSend self.link outS fresh.answer
      let self := { self with link }
      if sent > 0 then .ok (0, self.enqueue (outS.drop sent.toNat))
      else if sent < 0 ∧ fresh.wouldBlock then .ok (0, self.enqueue outS)
      else .ok (1, self)
    else .ok (0, self.enqueue outS)

end Xrdp.Mirror
