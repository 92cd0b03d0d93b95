import Xrdp.Lib.Frames
import Xrdp.Lib.Wire
import Xrdp.Transport.DataIn

/-!
# The transports that are read from

`trans_check_wait_objs` in `common/trans.c` reads up to `header_size` bytes into `in_s`, for every
transport of the program; what `header_size` is, the transport's own `trans_data_in` says, from
what the peer has announced.

* `Setup.transCheckWaitObjs` — the reader; going beyond the allocation of `in_s` is an error.
* `xrdpMmChanDataIn`, `xrdpMmSesmanDataIn` — `xrdp/xrdp_mm.c`.
* `libDataIn` — `xup/xup.c`.
* `myTransDataIn`, `myApiTransDataIn` — `sesman/chansrv/chansrv.c`.
* `Peer.run` — what a peer sends, read in turns.
* `Peer.Overruns` — the streams of a peer that announce more than there is room for, and have it.

What is done with a message that has been read is a parameter, as far as its return value; for a
PDU of a client also how much is read of the socket then, by `libxrdp_force_read`, which compares
what it wants with the size of `in_s` itself.
-/

namespace Xrdp.Transport

open Wire Frames

/-- An `int`. -/
def int (v : Int) : Int := v.bmod (2 ^ 32)

/-- `in_uint32_le` into an `int`, at some place. -/
def int32At (s : List UInt8) (i : Nat) : Int := int (leVal ((s.drop i).take 4))

/-- `in_uint32_be` into an `int`, at some place. -/
def int32BeAt (s : List UInt8) (i : Nat) : Int := int (leVal ((s.drop i).take 4).reverse)

/-- `struct trans`, as far as it is read from, with the other end of its socket. -/
structure InTrans where
  status : Status
  /-- `in_s`, from `data` to `end`. -/
  inS : List UInt8
  headerSize : Int
  extraFlags : Nat
  /-- What the peer has sent or will send, and has not been read. -/
  sck : List UInt8
  /-- The messages that have been handled. -/
  handed : List (List UInt8)

/-- A transport that is connected. -/
def InTrans.start (headerSize : Int) (extraFlags : Nat) (sck : List UInt8) : InTrans :=
  ⟨.UP, [], headerSize, extraFlags, sck, []⟩

/-- What a transport is given when it is set up. -/
structure Setup where
  /-- The size of `in_s`. -/
  inSize : Nat
  noStreamInitOnDataIn : Bool
  /-- `trans_data_in`, and what the socket does if it is read there. -/
  transDataIn : Recv → InTrans → Run (Int × InTrans)

/-! ## The reader -/

section

variable (setup : Setup)

/-- `trans_recv`, for up to `toRead` bytes. -/
def Setup.transRecv (n toRead : Nat) (t : InTrans) : Run InTrans :=
  let bytes := t.sck.take (min n toRead)
  if t.inS.length + bytes.length ≤ setup.inSize then
    .ok { t with inS := t.inS ++ bytes, sck := t.sck.drop (min n toRead) }
  else .error .outOfBounds

/-- `trans_data_in` is called if all bytes that are wanted are there. -/
def Setup.dataIn (recv : Recv) (t : InTrans) : Run (Int × InTrans) :=
  if (t.inS.length : Int) = t.headerSize then do
    let (rv, t) ← setup.transDataIn recv t
    .ok (rv, if setup.noStreamInitOnDataIn then t else { t with inS := [] })
  else .ok (0, t)

/-- `trans_send_waiting` at the end of `trans_check_wait_objs`. -/
def InTrans.sendWaiting (turn : Turn) (rv : Int) (t : InTrans) : Int × InTrans :=
  if turn.sendFails then (1, { t with status := .DOWN }) else (rv, t)

/-- `trans_check_wait_objs` for a connected transport. -/
def Setup.transCheckWaitObjs (turn : Turn) (t : InTrans) : Run (Int × InTrans) :=
  if t.status ≠ .UP then .ok (1, t)
  else
    match turn.recv with
    | .none => .ok (t.sendWaiting turn 0)
    | recv => do
      let toRead := int (t.headerSize - t.inS.length)
      if toRead > 0 ∧ recv matches .closed then .ok (1, { t with status := .DOWN })
      else
        let t ← match recv with
          | .bytes n => setup.transRecv n toRead.toNat t
          | _ => .ok t
        let (rv, t) ← setup.dataIn recv t
        .ok (t.sendWaiting turn rv)

/-- The calls of `trans_check_wait_objs`, up to one that fails: the transport is deleted then. -/
def Setup.mainLoop : List Turn → InTrans → Run (Int × InTrans) := loop setup.transCheckWaitObjs

end

/-- `trans_force_read`, until all is there or the connection ends. -/
def InTrans.forceRead (inSize : Nat) (size : Int) (t : InTrans) : Int × InTrans :=
  if t.status ≠ .UP then (1, t)
  else if size ≤ 0 then (0, t)
  else if inSize < t.inS.length + size then (1, t)
  else if t.sck.length < size then
    (1, { t with status := .DOWN, inS := t.inS ++ t.sck, sck := [] })
  else (0, { t with inS := t.inS ++ t.sck.take size.toNat, sck := t.sck.drop size.toNat })

/-! ## What is called when data is there -/

/-- What is made of the messages of the peers: a return value, for a message after some others. -/
structure Handlers where
  client : Handler
  /-- `xrdp_mm_chan_process_msg`. -/
  chanProcessMsg : List (List UInt8) → List UInt8 → Int
  /-- The reply of the session manager. -/
  sesmanReply : List (List UInt8) → List UInt8 → Int
  /-- `lib_mod_process_message`. -/
  libModProcessMessage : List (List UInt8) → List UInt8 → Int
  /-- `process_message`. -/
  processMessage : List (List UInt8) → List UInt8 → Int
  /-- The channel that is asked for. -/
  apiOpen : List UInt8 → Int
  /-- What is sent to the channel. -/
  apiData : List (List UInt8) → List UInt8 → Int

section

variable (process : List (List UInt8) → List UInt8 → Int) (t : InTrans)

/-- `xrdp_mm_chan_data_in`: the header is not handed on. -/
def xrdpMmChanDataIn : Int × InTrans :=
  let size := int32At t.inS 4
  if t.extraFlags = 0 ∧ size > 8 then (0, { t with headerSize := size, extraFlags := 1 })
  else
    (process t.handed (t.inS.drop 8),
      { t with inS := [], headerSize := 8, extraFlags := 0, handed := t.handed ++ [t.inS] })

/-- `case 2` of `lib_data_in`. -/
def libWholeMessage : Int × InTrans :=
  let handed := t.handed ++ [t.inS]
  if process t.handed t.inS ≠ 0 then (1, { t with handed })
  else (0, { t with inS := [], headerSize := 8, extraFlags := 1, handed })

/-- `lib_data_in`. -/
def libDataIn : Int × InTrans :=
  match t.extraFlags with
  | 1 =>
    let len := int32At t.inS 4
    if len < 0 ∨ len > 128 * 1024 then (1, t)
    else if len > 0 then (0, { t with headerSize := len + 8, extraFlags := 2 })
    else libWholeMessage process t
  | 2 => libWholeMessage process t
  | _ => (0, t)

/-- The rest of a message of this size is read at once. -/
def forcedDataIn (inSize : Nat) (size : Int) : Int × InTrans :=
  let (error, t) := t.forceRead inSize (int (size - 8))
  if error = 0 then (process t.handed t.inS, { t with handed := t.handed ++ [t.inS] })
  else (error, t)

/-- `xrdp_mm_sesman_data_in`. -/
def xrdpMmSesmanDataIn (inSize : Nat) : Int × InTrans :=
  forcedDataIn process t inSize (int32BeAt t.inS 4)

/-- `my_trans_data_in`. -/
def myTransDataIn (inSize : Nat) : Int × InTrans :=
  forcedDataIn process t inSize (int32At t.inS 4)

end

/-- `my_api_trans_data_in`: a header, the channel, and from then on whatever there is. -/
def myApiTransDataIn (h : Handlers) (inSize : Nat) (recv : Recv) (t : InTrans) : Int × InTrans :=
  match t.extraFlags with
  | 0 =>
    let bytes := int32At t.inS 0
    let ver := int32At t.inS 4
    if ver ≠ 0 then (1, t) else (0, { t with headerSize := bytes, extraFlags := 1 })
  | 1 =>
    -- an error before the stream is reset makes no difference: the transport is deleted
    (h.apiOpen t.inS,
      { t with inS := [], headerSize := 0, extraFlags := 2, handed := t.handed ++ [t.inS] })
  | _ =>
    match recv with
    | .bytes n =>
      let data := t.sck.take (min n inSize)
      if data.length < 1 then (1, t)
      else
        (h.apiData t.handed data,
          { t with inS := [], sck := t.sck.drop (min n inSize), handed := t.handed ++ [data] })
    | _ => (1, t)

/-! ## The transports -/

section

variable (h : Handlers)

/-- `chan_trans` of `struct xrdp_mm`. -/
def chanTrans : Setup where
  inSize := 8192
  noStreamInitOnDataIn := true
  transDataIn _ t := .ok (xrdpMmChanDataIn h.chanProcessMsg t)

/-- `sesman_trans` of `struct xrdp_mm`. -/
def sesmanTrans : Setup where
  inSize := 8192
  noStreamInitOnDataIn := false
  transDataIn _ t := .ok (xrdpMmSesmanDataIn h.sesmanReply t 8192)

/-- `trans` of `struct mod` in `xup`. -/
def modTrans : Setup where
  inSize := 8 * 8192
  noStreamInitOnDataIn := true
  transDataIn _ t := .ok (libDataIn h.libModProcessMessage t)

/-- `g_con_trans` of the channel server. -/
def conTrans : Setup where
  inSize := 8192
  noStreamInitOnDataIn := false
  transDataIn _ t := .ok (myTransDataIn h.processMessage t 8192)

/-- A transport of `g_api_con_trans_list`. -/
def apiTrans : Setup where
  inSize := 8192 * 4
  noStreamInitOnDataIn := true
  transDataIn recv t := .ok (myApiTransDataIn h (8192 * 4) recv t)

end

/-- The transport `server_trans` of `xrdp_process_main_loop`. -/
def ServerTrans.connect (sck : List UInt8) : ServerTrans := ⟨.UP, [], 0, 0, sck, []⟩

/-- Who sends to a transport. -/
inductive Peer where
  | client
  | chansrv
  | sesman
  | xup
  | xrdp
  | chansrvApi
  deriving DecidableEq

/-- What a peer sends is read in turns; an error is a byte behind the allocation of `in_s`. -/
def Peer.run (h : Handlers) (sck : List UInt8) (turns : List Turn) : Peer → Run Int
  | .client => (mainLoop h.client turns (.connect sck)).map (·.1)
  | .chansrv => ((chanTrans h).mainLoop turns (.start 8 0 sck)).map (·.1)
  | .sesman => ((sesmanTrans h).mainLoop turns (.start 8 0 sck)).map (·.1)
  | .xup => ((modTrans h).mainLoop turns (.start 8 1 sck)).map (·.1)
  | .xrdp => ((conTrans h).mainLoop turns (.start 8 0 sck)).map (·.1)
  | .chansrvApi => ((apiTrans h).mainLoop turns (.start 8 0 sck)).map (·.1)

/-! ## What is announced -/

/-- The bytes of a PDU that say how long it is, and those before them. -/
def pduHeader (s : List UInt8) : Nat :=
  if s.head? = some 3 then 4 else if (s.getD 1 0).toNat &&& 0x80 ≠ 0 then 3 else 2

/-- A PDU of a client: it has its header, even if it says that it is shorter. -/
def pduFrame (s : List UInt8) : Option Nat :=
  match libxrdpGetPduBytes s with
  | .ok len => some (max len (pduHeader s))
  | .error _ => none

/-- A message of the channel server. -/
def chanFrame (s : List UInt8) : Option Nat :=
  if s.length < 8 then none else some (max 8 (int32At s 4).toNat)

/-- A message for `xup`. -/
def xupFrame (s : List UInt8) : Option Nat :=
  if s.length < 8 ∨ int32At s 4 < 0 ∨ int32At s 4 > 128 * 1024 then none
  else some ((int32At s 4).toNat + 8)

section

variable (h : Handlers)

def clientFormat : Format UInt8 where
  capacity := IN_SIZE
  frame := pduFrame
  ok done pdu rest := (h.client.processData done pdu rest).1 = 0
  skip done pdu rest := (h.client.processData done pdu rest).2

def chanFormat : Format UInt8 where
  capacity := 8192
  frame := chanFrame
  ok done message _ := h.chanProcessMsg done (message.drop 8) = 0
  skip _ _ _ := 0

def xupFormat : Format UInt8 where
  capacity := 8 * 8192
  frame := xupFrame
  ok done message _ := h.libModProcessMessage done message = 0
  skip _ _ _ := 0

end

/-- A client connects, and what it sends then. -/
inductive Connects (env : Handler) : List UInt8 → List UInt8 → Prop
  | up {sck : List UInt8} {read : Nat} (h : env.connect sck = (0, true, read)) :
      Connects env sck (sck.drop read)
  | again {sck s : List UInt8} {read : Nat} (h : env.connect sck = (0, false, read))
      (hs : Connects env (sck.drop read) s) : Connects env sck s

/-- A client of the channel server announces how much it wants to say, its header included. -/
def ApiOverruns (s : List UInt8) : Prop :=
  8 ≤ s.length ∧ int32At s 4 = 0 ∧
    8192 * 4 < min (8 + (int (int32At s 0 - 8)).toNat) s.length

/-- The peer sends more than there is room for, as it has announced. -/
def Peer.Overruns (h : Handlers) (sck : List UInt8) : Peer → Prop
  | .client => ∃ s, Connects h.client sck s ∧ Frames.Overruns (clientFormat h) [] s
  | .chansrv => Frames.Overruns (chanFormat h) [] sck
  | .sesman => False
  | .xup => Frames.Overruns (xupFormat h) [] sck
  | .xrdp => False
  | .chansrvApi => ApiOverruns sck

end Xrdp.Transport
