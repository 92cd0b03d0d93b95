import Xrdp.Memory
import Xrdp.Lib.Wire

/-!
# Dynamic virtual channels

The drdynvc part of `libxrdp/xrdp_channel.c`: PDUs of the client come in chunks of a static
channel and are put together in a stream of the channel layer; the server opens and closes dynamic
channels and sends data on them.

A stream is what is left of it; a read that is not checked and leaves it is `Stuck.outOfBounds`.
-/

namespace Xrdp.Dvc

open Wire

/-- `XRDP_DRDYNVC_STATUS_*`. -/
inductive Status where
  | CLOSED
  | OPEN_SENT
  | OPEN
  | CLOSE_SENT
  deriving DecidableEq, Repr

/-- Which callbacks of `struct xrdp_drdynvc_procs` are set. -/
structure Procs where
  openResponse : Bool
  closeResponse : Bool
  dataFirst : Bool
  data : Bool
  deriving DecidableEq, Repr

/-- `struct xrdp_drdynvc`. -/
structure Drdynvc where
  status : Status
  procs : Procs
  deriving DecidableEq, Repr

/-- A slot as `g_malloc` leaves it. -/
def Drdynvc.zero : Drdynvc := ⟨.CLOSED, ⟨false, false, false, false⟩⟩

/-- The stream PDUs are put together in: its memory, and the offset of `p`. -/
structure Reassembly where
  buf : Buf UInt8
  p : Nat

/-- `struct xrdp_channel`; `s` is null until the first chunk that starts a PDU. -/
structure Channel where
  drdynvcState : Nat
  s : Option Reassembly
  drdynvcs : Nat → Drdynvc

/-- `xrdp_channel_create`. -/
def Channel.create : Channel := ⟨0, none, fun _ => .zero⟩

def Channel.setStatus (self : Channel) (id : Nat) (status : Status) : Channel :=
  { self with
    drdynvcs := fun i => if i = id then { self.drdynvcs i with status } else self.drdynvcs i }

/-- The calls into the upper layer. -/
inductive Call where
  | up
  | openResponse (chanId : Nat) (creationStatus : Int)
  | closeResponse (chanId : Nat)
  | dataFirst (chanId : Nat) (data : List UInt8) (totalBytes : Int)
  | data (chanId : Nat) (data : List UInt8)
  deriving DecidableEq, Repr

/-- The return value, the state afterwards, and the calls made. -/
structure Reply where
  rv : Int
  self : Channel
  calls : List Call

/-- An `int` from 32 bits. -/
def signed32 (v : Nat) : Int := if v < 2 ^ 31 then v else v - 2 ^ 32

/-! ## PDUs of the client -/

section

variable (callback : Call → Int)

def Channel.error (self : Channel) : Reply := ⟨1, self, []⟩

/-- A call whose return value is the one of the handler. -/
def Channel.call (self : Channel) (c : Call) : Reply := ⟨callback c, self, [c]⟩

/-- `drdynvc_get_chan_id`. -/
def drdynvcGetChanId (s : List UInt8) (cmd : Nat) : Option (Nat × List UInt8) :=
  if cmd &&& 3 = 0 then getLe 1 s
  else if cmd &&& 3 = 1 then getLe 2 s
  else getLe 4 s

/-- `drdynvc_process_capability_response`. -/
def drdynvcProcessCapabilityResponse (self : Channel) (s : List UInt8) : Run Reply :=
  match getLe 2 (s.drop 1) with
  | none => .error .outOfBounds
  | some (capVersion, _) =>
    if capVersion ≠ 2 ∧ capVersion ≠ 3 then .ok self.error
    else .ok ({ self with drdynvcState := 1 }.call callback .up)

/-- `drdynvc_process_open_channel_response`. -/
def drdynvcProcessOpenChannelResponse (self : Channel) (cmd : Nat) (s : List UInt8) : Reply :=
  match drdynvcGetChanId s cmd with
  | none => self.error
  | some (chanId, s) =>
    match getLe 4 s with
    | none => self.error
    | some (creationStatus, _) =>
      if chanId > 255 then self.error
      else
        let procs := (self.drdynvcs chanId).procs
        let self := self.setStatus chanId (if creationStatus = 0 then .OPEN else .CLOSED)
        if procs.openResponse then
          self.call callback (.openResponse chanId (signed32 creationStatus))
        else ⟨0, self, []⟩

/-- `drdynvc_process_close_channel_response`. -/
def drdynvcProcessCloseChannelResponse (self : Channel) (cmd : Nat) (s : List UInt8) : Reply :=
  match drdynvcGetChanId s cmd with
  | none => self.error
  | some (chanId, _) =>
    if chanId > 255 then self.error
    else
      let procs := (self.drdynvcs chanId).procs
      let self := self.setStatus chanId .CLOSED
      if procs.closeResponse then self.call callback (.closeResponse chanId) else ⟨0, self, []⟩

/-- The total length in `drdynvc_process_data_first`. -/
def getTotalBytes (s : List UInt8) (cmd : Nat) : Option (Int × List UInt8) :=
  if cmd / 4 &&& 3 = 0 then (getLe 1 s).map fun (v, s) => ((v : Int), s)
  else if cmd / 4 &&& 3 = 1 then (getLe 2 s).map fun (v, s) => ((v : Int), s)
  else (getLe 4 s).map fun (v, s) => (signed32 v, s)

/-- `drdynvc_process_data_first`. -/
def drdynvcProcessDataFirst (self : Channel) (cmd : Nat) (s : List UInt8) : Reply :=
  match drdynvcGetChanId s cmd with
  | none => self.error
  | some (chanId, s) =>
    match getTotalBytes s cmd with
    | none => self.error
    | some (totalBytes, s) =>
      if chanId > 255 then self.error
      else if (self.drdynvcs chanId).procs.dataFirst then
        self.call callback (.dataFirst chanId s totalBytes)
      else ⟨0, self, []⟩

/-- `drdynvc_process_data`. -/
def drdynvcProcessData (self : Channel) (cmd : Nat) (s : List UInt8) : Reply :=
  match drdynvcGetChanId s cmd with
  | none => self.error
  | some (chanId, s) =>
    if chanId > 255 then self.error
    else if (self.drdynvcs chanId).procs.data then self.call callback (.data chanId s)
    else ⟨0, self, []⟩

def CMD_DVC_OPEN_CHANNEL : Nat := 0x10
def CMD_DVC_DATA_FIRST : Nat := 0x20
def CMD_DVC_DATA : Nat := 0x30
def CMD_DVC_CLOSE_CHANNEL : Nat := 0x40
def CMD_DVC_CAPABILITY : Nat := 0x50

/-- The second `switch` of `xrdp_channel_process_drdynvc`. -/
def processCmd (self : Channel) (cmd : Nat) (s : List UInt8) : Run Reply :=
  let c := cmd &&& 0xf0
  if c = CMD_DVC_CAPABILITY then drdynvcProcessCapabilityResponse callback self s
  else if c = CMD_DVC_OPEN_CHANNEL then .ok (drdynvcProcessOpenChannelResponse callback self cmd s)
  else if c = CMD_DVC_CLOSE_CHANNEL then
    .ok (drdynvcProcessCloseChannelResponse callback self cmd s)
  else if c = CMD_DVC_DATA_FIRST then .ok (drdynvcProcessDataFirst callback self cmd s)
  else if c = CMD_DVC_DATA then .ok (drdynvcProcessData callback self cmd s)
  else .ok self.error

/-! ## Chunks -/

/-- `make_stream` and `init_stream`, with what the memory held before. -/
def initStream (fresh : Nat → UInt8) (size : Int) : Reassembly := ⟨⟨size.toNat, fresh⟩, 0⟩

/-- `out_uint8a` to the stream of the channel layer, which may be null. -/
def outUint8a (s : Option Reassembly) (bytes : List UInt8) : Run Reassembly :=
  match s with
  | none => .error .outOfBounds
  | some s => do
    let buf ← s.buf.memcpy s.p bytes
    pure ⟨buf, s.p + bytes.length⟩

/-- `in_uint8` from the stream of the channel layer. -/
def inUint8 (s : Reassembly) : Run (Nat × Reassembly) := do
  let b ← s.buf.read s.p
  pure (b.toNat, { s with p := s.p + 1 })

/-- `xrdp_channel_process_drdynvc`. -/
def xrdpChannelProcessDrdynvc (fresh : Nat → UInt8) (self : Channel) (s : List UInt8) :
    Run Reply :=
  match getLe 4 s with
  | none => .ok self.error
  | some (totalLength, s) =>
    match getLe 4 s with
    | none => .ok self.error
    | some (flags, s) =>
      if flags &&& 3 = 0 then do
        let ls ← outUint8a self.s s
        pure ⟨0, { self with s := some ls }, []⟩
      else if flags &&& 3 = 1 then do
        let ls ← outUint8a (some (initStream fresh (signed32 totalLength))) s
        pure ⟨0, { self with s := some ls }, []⟩
      else if flags &&& 3 = 2 then do
        let ls ← outUint8a self.s s
        let (cmd, ls) ← inUint8 ls
        -- the handlers get the stream of the chunk, which has been read
        processCmd callback { self with s := some ls } cmd []
      else
        match s with
        | [] => .error .outOfBounds
        | cmd :: s => processCmd callback self cmd.toNat s

end

/-! ## Calls of the server -/

/-- `drdynvc_insert_uint_124`: the bytes, and their code. -/
def drdynvcInsertUint124 (val : Nat) : List UInt8 × Nat :=
  if val ≤ 0xff then (leBytes 1 val, 0)
  else if val ≤ 0xffff then (leBytes 2 val, 1)
  else (leBytes 4 val, 2)

/-- The first id from 1 on that is closed. -/
def freeId (self : Channel) : Option Nat :=
  (List.range' 1 255).find? fun id => (self.drdynvcs id).status = .CLOSED

/-- `xrdp_channel_drdynvc_open`: the id and the message, if the message can be sent. -/
def xrdpChannelDrdynvcOpen (self : Channel) (name : List UInt8) (procs : Procs) (canSend : Bool) :
    Option (Nat × List UInt8 × Channel) :=
  match freeId self with
  | none => none
  | some id =>
    let (chId, cbChId) := drdynvcInsertUint124 id
    if canSend then
      some (id, UInt8.ofNat (CMD_DVC_OPEN_CHANNEL ||| cbChId) :: (chId ++ name ++ [0]),
        { self with drdynvcs := fun i => if i = id then ⟨.OPEN_SENT, procs⟩ else self.drdynvcs i })
    else none

/-- `(chan_id < 0) || (chan_id > 255)`. -/
def goodId (chanId : Int) : Option Nat :=
  if chanId < 0 ∨ chanId > 255 then none else some chanId.toNat

/-- `xrdp_channel_drdynvc_close`: the message, if it is accepted. -/
def xrdpChannelDrdynvcClose (self : Channel) (chanId : Int) (canSend : Bool) :
    Option (List UInt8 × Channel) :=
  match goodId chanId with
  | none => none
  | some id =>
    if (self.drdynvcs id).status ≠ .OPEN ∧ (self.drdynvcs id).status ≠ .OPEN_SENT then none
    else
      let (chId, cbChId) := drdynvcInsertUint124 id
      if canSend then
        some (UInt8.ofNat (CMD_DVC_CLOSE_CHANNEL ||| cbChId) :: chId,
          self.setStatus id .CLOSE_SENT)
      else none

/-- `xrdp_channel_drdynvc_data_first`: the message, if it is accepted. -/
def xrdpChannelDrdynvcDataFirst (self : Channel) (chanId : Int) (data : List UInt8)
    (totalDataBytes : Nat) (canSend : Bool) : Option (List UInt8) :=
  match goodId chanId with
  | none => none
  | some id =>
    if (self.drdynvcs id).status ≠ .OPEN then none
    else if data.length > 1590 then none
    else
      let (chId, cbChId) := drdynvcInsertUint124 id
      let (total, cbTotalDataSize) := drdynvcInsertUint124 totalDataBytes
      if canSend then
        some (UInt8.ofNat (CMD_DVC_DATA_FIRST ||| (cbTotalDataSize * 4) ||| cbChId) ::
          (chId ++ total ++ data))
      else none

/-- `xrdp_channel_drdynvc_data`: the message, if it is accepted. -/
def xrdpChannelDrdynvcData (self : Channel) (chanId : Int) (data : List UInt8) (canSend : Bool) :
    Option (List UInt8) :=
  match goodId chanId with
  | none => none
  | some id =>
    if (self.drdynvcs id).status ≠ .OPEN then none
    else if data.length > 1590 then none
    else
      let (chId, cbChId) := drdynvcInsertUint124 id
      if canSend then some (UInt8.ofNat (CMD_DVC_DATA ||| cbChId) :: (chId ++ data)) else none

end Xrdp.Dvc
