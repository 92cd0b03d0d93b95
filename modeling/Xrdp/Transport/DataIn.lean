import Xrdp.Memory
import Xrdp.Transport.Trans

/-!
# Data from the client

`trans_check_wait_objs` in `common/trans.c` reads what is missing of `header_size` bytes, and calls
`xrdp_process_data_in` in `xrdp/xrdp_process.c` when they are there; that says how many bytes are
wanted next, and hands a PDU that is there to `libxrdp_process_data`.

* `libxrdpGetPduBytes`, `xrdpProcessDataIn`, `transCheckWaitObjs` — the code.
* `ClientPdu`, `parsePdus` — what a client sends, and a parser that has all of it.
-/

namespace Xrdp.Transport

/-- `libxrdp_get_pdu_bytes`, as far as the header has been received. -/
def libxrdpGetPduBytes : List UInt8 → Run Nat
  | h0 :: h1 :: header =>
    if h0 = 0x03 then
      match header with
      | h2 :: h3 :: _ => .ok (h2.toNat <<< 8 ||| h3.toNat)
      | _ => .error .outOfBounds
    else if h1.toNat &&& 0x80 ≠ 0 then
      match header with
      | h2 :: _ => .ok ((h1.toNat &&& 0x7F) <<< 8 ||| h2.toNat)
      | [] => .error .outOfBounds
    else .ok h1.toNat
  | _ => .error .outOfBounds

/-- What `libxrdp_process_data` does.  It may read the socket itself, by `libxrdp_force_read`. -/
structure Handler where
  /-- While the client connects, given what is to be read of the socket: the return value, whether
  the session is up and running then, and how many bytes have been read. -/
  connect : List UInt8 → Int × Bool × Nat
  /-- For a PDU, after some others, and given what is to be read of the socket: the return value,
  and how many bytes have been read. -/
  processData : List (List UInt8) → List UInt8 → List UInt8 → Int × Nat

/-- The transport `server_trans` of a process, with the other end of its socket. -/
structure ServerTrans where
  status : Status
  /-- `in_s`, from `data`, where `p` is, to `end`. -/
  inS : List UInt8
  headerSize : Nat
  extraFlags : Nat
  /-- What the client has sent or will send, and has not been read. -/
  sck : List UInt8
  /-- The PDUs that have been handed to `libxrdp_process_data`. -/
  handed : List (List UInt8)

/-- The size of `in_s`. -/
def IN_SIZE : Nat := 32 * 1024

section

variable (env : Handler)

/-- `case 3` of `xrdp_process_data_in`. -/
def ServerTrans.wholePdu (t : ServerTrans) : Int × ServerTrans :=
  let (rv, read) := env.processData t.handed t.inS t.sck
  let t := { t with handed := t.handed ++ [t.inS], sck := t.sck.drop read }
  if rv ≠ 0 then (1, t) else (0, { t with inS := [], headerSize := 2, extraFlags := 1 })

/-- `case 2` of `xrdp_process_data_in`. -/
def ServerTrans.pduBytes (t : ServerTrans) : Run (Int × ServerTrans) := do
  let len ← libxrdpGetPduBytes t.inS
  let t := { t with headerSize := len, extraFlags := 3 }
  if t.headerSize > t.inS.length then .ok (0, t) else .ok (t.wholePdu env)

/-- `case 1` of `xrdp_process_data_in`. -/
def ServerTrans.twoBytes (t : ServerTrans) : Run (Int × ServerTrans) :=
  match t.inS with
  | p0 :: p1 :: _ =>
    let t :=
      if p0 = 3 then { t with headerSize := 4, extraFlags := 2 }
      else if p1.toNat &&& 0x80 ≠ 0 then { t with headerSize := 3, extraFlags := 2 }
      else { t with headerSize := p1.toNat, extraFlags := 3 }
    if t.headerSize > t.inS.length then .ok (0, t) else t.pduBytes env
  | _ => .error .outOfBounds

/-- `case 0` of `xrdp_process_data_in`. -/
def ServerTrans.connecting (t : ServerTrans) : Int × ServerTrans :=
  let (rv, upAndRunning, read) := env.connect t.sck
  let t := { t with sck := t.sck.drop read }
  if rv ≠ 0 then (1, t)
  else if upAndRunning then (0, { t with headerSize := 2, extraFlags := 1, inS := [] })
  else (0, t)

/-- `xrdp_process_data_in`. -/
def xrdpProcessDataIn (t : ServerTrans) : Run (Int × ServerTrans) :=
  match t.extraFlags with
  | 0 => .ok (t.connecting env)
  | 1 => t.twoBytes env
  | 2 => t.pduBytes env
  | 3 => .ok (t.wholePdu env)
  | _ => .ok (0, t)

/-- What comes of reading. -/
inductive Recv where
  /-- There is nothing to read, or too much waits to be sent for the client. -/
  | none
  | wouldBlock
  /-- The connection is closed, or fails. -/
  | closed
  /-- Up to `n` bytes. -/
  | bytes (n : Nat)

/-- What happens in a call of `trans_check_wait_objs`. -/
structure Turn where
  recv : Recv
  /-- `trans_send_waiting` fails. -/
  sendFails : Bool

/-- `trans_recv`, for up to `toRead` bytes. -/
def ServerTrans.recv (t : ServerTrans) (n toRead : Nat) : Run ServerTrans :=
  let bytes := t.sck.take (min n toRead)
  if t.inS.length + bytes.length ≤ IN_SIZE then
    .ok { t with inS := t.inS ++ bytes, sck := t.sck.drop (min n toRead) }
  else .error .outOfBounds

/-- `trans_data_in` is called if all bytes that are wanted are there. -/
def ServerTrans.dataIn (t : ServerTrans) : Run (Int × ServerTrans) :=
  if t.inS.length = t.headerSize then xrdpProcessDataIn env t else .ok (0, t)

/-- `trans_send_waiting` at the end of `trans_check_wait_objs`. -/
def ServerTrans.sendWaiting (turn : Turn) (rv : Int) (t : ServerTrans) : Int × ServerTrans :=
  if turn.sendFails then (1, { t with status := .DOWN }) else (rv, t)

/-- `trans_check_wait_objs` for a connected transport. -/
def transCheckWaitObjs (turn : Turn) (t : ServerTrans) : Run (Int × ServerTrans) :=
  if t.status ≠ .UP then .ok (1, t)
  else
    match turn.recv with
    | .none => .ok (t.sendWaiting turn 0)
    | recv => do
      let toRead := t.headerSize - t.inS.length
      if toRead > 0 ∧ recv matches .closed then .ok (1, { t with status := .DOWN })
      else
        let t ← match recv with
          | .bytes n => t.recv n toRead
          | _ => .ok t
        let (rv, t) ← t.dataIn env
        .ok (t.sendWaiting turn rv)

/-- The calls of `trans_check_wait_objs` in the main loop, up to one that fails. -/
def mainLoop : List Turn → ServerTrans → Run (Int × ServerTrans)
  | [], t => .ok (0, t)
  | turn :: turns, t => do
    let (rv, t) ← transCheckWaitObjs env turn t
    if rv ≠ 0 then .ok (rv, t) else mainLoop turns t

end

/-! ## What a client sends -/

/-- A well-formed PDU of a client. -/
inductive ClientPdu : List UInt8 → Prop
  | tpkt (h1 h2 h3 : UInt8) (body : List UInt8)
      (hlen : body.length + 4 = 256 * h2.toNat + h3.toNat) (hmax : body.length + 4 ≤ 32768) :
      ClientPdu (3 :: h1 :: h2 :: h3 :: body)
  | short (h0 h1 : UInt8) (body : List UInt8) (hfast : h0 ≠ 3) (hshort : h1.toNat < 128)
      (hlen : body.length + 2 = h1.toNat) : ClientPdu (h0 :: h1 :: body)
  | long (h0 h1 h2 : UInt8) (body : List UInt8) (hfast : h0 ≠ 3) (hlong : 128 ≤ h1.toNat)
      (hlen : body.length + 3 = 256 * (h1.toNat - 128) + h2.toNat) :
      ClientPdu (h0 :: h1 :: h2 :: body)

/-- The PDUs at the front of a stream, as far as they are whole. -/
def parsePdus : Nat → List UInt8 → List (List UInt8)
  | 0, _ => []
  | fuel + 1, s =>
    match libxrdpGetPduBytes s with
    | .ok len =>
      if 0 < len ∧ len ≤ s.length then s.take len :: parsePdus fuel (s.drop len) else []
    | .error _ => []

/-- The transport of a session that has just come up. -/
def ServerTrans.start (sck : List UInt8) : ServerTrans := ⟨.UP, [], 2, 1, sck, []⟩

end Xrdp.Transport
