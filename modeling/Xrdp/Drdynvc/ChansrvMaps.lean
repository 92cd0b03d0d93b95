import Xrdp.Drdynvc.LifeCycle

/-!
# Between the channel server and the client

`xrdp/xrdp_mm.c` translates the channel ids of the channel server to those of the client and back,
with two maps of 256 entries.

* `Mm` — the maps, over the channel layer.
* `History` — which open a channel id stands for on either side.
-/

namespace Xrdp.Dvc

open Wire

/-! ## The maps -/

/-- `map[i]`, with an `int` for an index. -/
def mapGet (map : Buf Int) (i : Int) : Run Int :=
  if i < 0 then .error .outOfBounds else map.read i.toNat

/-- `map[i] = v`. -/
def mapSet (map : Buf Int) (i v : Int) : Run (Buf Int) :=
  if i < 0 then .error .outOfBounds else map.write i.toNat v

/-- `struct xrdp_mm`, and the channel layer it works on. -/
structure Mm where
  channel : Channel
  cs2xrCidMap : Buf Int
  xr2crCidMap : Buf Int

def Mm.create : Mm := ⟨.create, .alloc 256, .alloc 256⟩

/-- The callbacks of a channel of the channel server. -/
def mmProcs : Procs := ⟨true, true, true, true⟩

/-! ## To the channel server -/

/-- A message for the channel server about one of its channels. -/
structure Message where
  msgId : Nat
  chansrvChanId : Int
  body : List UInt8

/-- An `int` as 32 bits. -/
def unsigned32 (v : Int) : Nat := (v % 2 ^ 32).toNat

/-- The bytes of a message: version, size, id and size again. -/
def Message.encode (m : Message) : List UInt8 :=
  leBytes 4 0 ++ leBytes 4 (20 + m.body.length) ++ leBytes 4 m.msgId ++
    leBytes 4 (12 + m.body.length) ++ leBytes 4 (unsigned32 m.chansrvChanId) ++ m.body

/-- `xrdp_mm_drdynvc_open_response`, `_close_response`, `_data_first` and `_data`. -/
def forward (self : Mm) : Call → Run (Option Message)
  | .up => .ok none
  | .openResponse chanId creationStatus => do
    let chansrvChanId ← mapGet self.xr2crCidMap chanId
    pure (some ⟨13, chansrvChanId, leBytes 4 (unsigned32 creationStatus)⟩)
  | .closeResponse chanId => do
    let chansrvChanId ← mapGet self.xr2crCidMap chanId
    pure (some ⟨15, chansrvChanId, []⟩)
  | .dataFirst chanId data totalBytes => do
    let chansrvChanId ← mapGet self.xr2crCidMap chanId
    pure (some ⟨17, chansrvChanId,
      leBytes 4 data.length ++ leBytes 4 (unsigned32 totalBytes) ++ data⟩)
  | .data chanId data => do
    let chansrvChanId ← mapGet self.xr2crCidMap chanId
    pure (some ⟨19, chansrvChanId, leBytes 4 data.length ++ data⟩)

/-! ## From the channel server -/

/-- `xrdp_mm_trans_process_drdynvc_channel_open`: the id of the client's channel, if one is
opened. -/
def mmChannelOpen (self : Mm) (name : List UInt8) (flags chansrvChanId : Int) (canSend : Bool) :
    Run (Option (Nat × Mm)) :=
  if name.length < 1 ∨ name.length > 1024 then .ok none
  else if flags = 0 then .ok none
  else
    match xrdpChannelDrdynvcOpen self.channel (name.takeWhile (· ≠ 0)) mmProcs canSend with
    | none => .ok none
    | some (chanId, _, channel) => do
      let xr2crCidMap ← mapSet self.xr2crCidMap chanId chansrvChanId
      let cs2xrCidMap ← mapSet self.cs2xrCidMap chansrvChanId chanId
      pure (some (chanId, { channel, xr2crCidMap, cs2xrCidMap }))

/-- `xrdp_mm_trans_process_drdynvc_channel_close`. -/
def mmChannelClose (self : Mm) (chansrvChanId : Int) (canSend : Bool) : Run Mm := do
  let chanId ← mapGet self.cs2xrCidMap chansrvChanId
  match xrdpChannelDrdynvcClose self.channel chanId canSend with
  | none => pure self
  | some (_, channel) => pure { self with channel }

/-- `xrdp_mm_trans_process_drdynvc_data_first`: what is sent to the client. -/
def mmDataFirst (self : Mm) (chansrvChanId : Int) (data : List UInt8) (totalBytes : Int)
    (canSend : Bool) : Run (Option (List UInt8)) := do
  let chanId ← mapGet self.cs2xrCidMap chansrvChanId
  pure (xrdpChannelDrdynvcDataFirst self.channel chanId data (unsigned32 totalBytes) canSend)

/-- `xrdp_mm_trans_process_drdynvc_data`: what is sent to the client. -/
def mmData (self : Mm) (chansrvChanId : Int) (data : List UInt8) (canSend : Bool) :
    Run (Option (List UInt8)) := do
  let chanId ← mapGet self.cs2xrCidMap chansrvChanId
  pure (xrdpChannelDrdynvcData self.channel chanId data canSend)

/-! ## Histories -/

/-- What has been opened so far. -/
structure History where
  /-- The number of opens. -/
  serial : Nat
  /-- The last open a client's id was given out for: the channel server's id, and its number. -/
  openedFor : Nat → Option (Int × Nat)
  /-- The last open of a channel server's id: the client's id, and its number. -/
  denotes : Int → Option (Nat × Nat)

def History.empty : History := ⟨0, fun _ => none, fun _ => none⟩

/-- The open of a channel server's id with a client's id. -/
def History.record (h : History) (chansrvChanId : Int) (chanId : Nat) : History where
  serial := h.serial + 1
  openedFor i := if i = chanId then some (chansrvChanId, h.serial) else h.openedFor i
  denotes a := if a = chansrvChanId then some (chanId, h.serial) else h.denotes a

/-- The translation, and what it has translated. -/
structure Bridge where
  mm : Mm
  history : History

def Bridge.start : Bridge := ⟨.create, .empty⟩

/-- A message of the channel server, or a PDU of the client in one chunk, which is about the
channel of some open. -/
inductive BridgeEvent where
  | channelOpen (name : List UInt8) (flags chansrvChanId : Int) (canSend : Bool)
  | channelClose (chansrvChanId : Int) (canSend : Bool)
  | dataFirst (chansrvChanId : Int) (data : List UInt8) (totalBytes : Int) (canSend : Bool)
  | data (chansrvChanId : Int) (data : List UInt8) (canSend : Bool)
  | client (cmd : UInt8) (rest : List UInt8) (about : Nat)

section

variable (callback : Call → Int) (fresh : Nat → UInt8)

/-- The reply of the channel layer to a PDU of the client. -/
def Bridge.reply (b : Bridge) (cmd : UInt8) (rest : List UInt8) : Run Reply :=
  xrdpChannelProcessDrdynvc callback fresh b.mm.channel (whole (cmd :: rest)).packet

/-- The messages to the channel server that a PDU of the client results in. -/
def Bridge.messages (b : Bridge) (reply : Reply) : Run (List (Option Message)) :=
  reply.calls.mapM (forward b.mm)

/-- One event. -/
def Bridge.step (b : Bridge) : BridgeEvent → Run Bridge
  | .channelOpen name flags chansrvChanId canSend => do
    match ← mmChannelOpen b.mm name flags chansrvChanId canSend with
    | none => pure b
    | some (chanId, mm) => pure ⟨mm, b.history.record chansrvChanId chanId⟩
  | .channelClose chansrvChanId canSend => do
    let mm ← mmChannelClose b.mm chansrvChanId canSend
    pure { b with mm }
  | .dataFirst chansrvChanId data totalBytes canSend => do
    let _ ← mmDataFirst b.mm chansrvChanId data totalBytes canSend
    pure b
  | .data chansrvChanId data canSend => do
    let _ ← mmData b.mm chansrvChanId data canSend
    pure b
  | .client cmd rest _ => do
    let reply ← b.reply callback fresh cmd rest
    let _ ← b.messages reply
    pure { b with mm := { b.mm with channel := reply.self } }

end

end Xrdp.Dvc
