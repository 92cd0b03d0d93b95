import Mathlib

/-!
# Encoder jobs

`xrdp/xrdp_encoder.c` and the part of `xrdp/xrdp_mm.c` that takes its results: the main thread
queues jobs for the encoder thread, which queues results for the main thread, which sends them to
the client, and with the last one of a job acknowledges its frame and frees it.

* `processEncJpg`, `processEncRfx`, `processEncH264` — what is queued for a job.
* `World` — the two threads and their queues.
-/

namespace Xrdp.Encoder

/-- Four entries of `crects` or `drects`. -/
structure Rect where
  x : Int
  y : Int
  cx : Int
  cy : Int
  deriving DecidableEq

/-- `struct xrdp_enc_data`. -/
structure EncData where
  drects : List Rect
  crects : List Rect
  flags : Int
  frameId : Int

/-- `struct xrdp_enc_data_done`; the job is known by its number. -/
structure EncDone where
  compBytes : Int
  padBytes : Int
  enc : Nat
  last : Bool
  x : Int
  y : Int
  cx : Int
  cy : Int
  deriving DecidableEq

/-- The codecs an encoder is made for. -/
inductive Codec where
  | jpg
  | rfx
  | h264
  deriving DecidableEq

/-- What memory and compressors do for a job. -/
structure Env where
  /-- The buffer for the bytes of a rectangle, or of the whole job, is allocated. -/
  malloc : Nat → Bool
  /-- `libxrdp_codec_jpeg_compress` for a rectangle, in a buffer of some size: the return value,
  and the size of what is in the buffer. -/
  jpegCompress : Nat → Rect → Int → Int × Int
  /-- `rfxcodec_encode`. -/
  rfxcodecEncode : List Rect → List Rect → Int × Int
  /-- The result itself is allocated in `process_enc_rfx`. -/
  newDone : Bool
  /-- The size of the screen. -/
  width : Int
  height : Int

/-! ## The encoder thread -/

/-- An `int`. -/
def int (v : Int) : Int := v.bmod (2 ^ 32)

/-- `cx < 1 || cy < 1`. -/
def Rect.Degenerate (r : Rect) : Prop := r.cx < 1 ∨ r.cy < 1

instance (r : Rect) : Decidable r.Degenerate := inferInstanceAs (Decidable (_ ∨ _))

/-- The size of the buffer for a rectangle. -/
def Rect.outDataBytes (r : Rect) : Int := max (int ((r.cx + 4) * r.cy * 4)) 8192

/-- The loop of `process_enc_jpg`: the return value, and the results. -/
def jpgLoop (env : Env) (enc numCrects : Nat) : Nat → List Rect → Int × List EncDone
  | _, [] => (0, [])
  | index, r :: crects =>
    if r.Degenerate then jpgLoop env enc numCrects (index + 1) crects
    else if r.outDataBytes < 1 ∨ r.outDataBytes > 16 * 1024 * 1024 then (1, [])
    else if env.malloc index = false then (1, [])
    else
      let (error, outDataBytes) := env.jpegCompress index r r.outDataBytes
      if error < 0 then (1, [])
      else
        let (rv, dones) := jpgLoop env enc numCrects (index + 1) crects
        (rv, ⟨outDataBytes + 2, 256, enc, index + 1 = numCrects, r.x, r.y, r.cx, r.cy⟩ :: dones)

/-- `process_enc_jpg`. -/
def processEncJpg (env : Env) (enc : Nat) (data : EncData) : Int × List EncDone :=
  jpgLoop env enc data.crects.length 0 data.crects

/-- `XRDP_SURCMD_PREFIX_BYTES`. -/
def XRDP_SURCMD_PREFIX_BYTES : Int := 256

/-- `process_enc_rfx`. -/
def processEncRfx (env : Env) (enc : Nat) (data : EncData) : Int × List EncDone :=
  let (error, outDataBytes) :=
    if data.crects ≠ [] ∧ data.drects ≠ [] ∧ env.malloc 0 then
      env.rfxcodecEncode data.drects data.crects
    else (1, 0)
  if env.newDone = false then (1, [])
  else
    (0, [⟨if error = 0 then outDataBytes else 0, XRDP_SURCMD_PREFIX_BYTES, enc, true, 0, 0,
      env.width, env.height⟩])

/-- `process_enc_h264`. -/
def processEncH264 : Int × List EncDone := (0, [])

/-- `process_enc`. -/
def processEnc (codec : Codec) (env : Env) (enc : Nat) (data : EncData) : Int × List EncDone :=
  match codec with
  | .jpg => processEncJpg env enc data
  | .rfx => processEncRfx env enc data
  | .h264 => processEncH264

/-! ## The main thread -/

/-- The queues of the encoder, the results that the encoder thread has yet to queue, and what the
main thread has done. -/
structure World where
  /-- The number of jobs so far. -/
  serial : Nat
  fifoToProc : List Nat
  encoding : List EncDone
  fifoProcessed : List EncDone
  freed : Nat → Bool
  frameIdClient : Int
  frameIdServer : Int
  frameIdServerSent : Int
  /-- The jobs whose frames have been acknowledged, the last one first. -/
  acked : List Nat
  /-- The calls of `mod_frame_ack`, the last one first. -/
  modFrameAcks : List (Int × Int)

def World.start : World := ⟨0, [], [], [], fun _ => false, 0, 0, 0, [], []⟩

/-- What the threads do, and a frame acknowledgement of the client. -/
inductive Action where
  | paintRects
  | encode
  | queueDone
  | processDone
  | frameAck (frameId : Int)

/-- What a connection has been set up with, and what is sent to it. -/
structure Setup where
  codec : Codec
  useFrameAcks : Bool
  framesInFlight : Int
  job : Nat → EncData
  env : Nat → Env

section

variable (s : Setup)

/-- `xrdp_mm_update_module_frame_ack`. -/
def World.updateModuleFrameAck (w : World) : World :=
  if int (w.frameIdClient + s.framesInFlight) > w.frameIdServer ∧
      w.frameIdServer > w.frameIdServerSent
  then { w with
    frameIdServerSent := w.frameIdServer, modFrameAcks := (0, w.frameIdServer) :: w.modFrameAcks }
  else w

/-- The frame of a job is acknowledged. -/
def World.ack (w : World) (enc : Nat) : World :=
  let w := { w with acked := enc :: w.acked }
  if s.useFrameAcks then { w with frameIdServer := (s.job enc).frameId }.updateModuleFrameAck s
  else { w with modFrameAcks := ((s.job enc).flags, (s.job enc).frameId) :: w.modFrameAcks }

/-- One turn of `xrdp_mm_process_enc_done`; `none` if it refers to a job that has been freed. -/
def World.processDone (w : World) (encDone : EncDone) : Option World :=
  if (encDone.compBytes > 0 ∨ encDone.last) ∧ w.freed encDone.enc then none
  else if encDone.last then
    some { w.ack s encDone.enc with
      freed := fun i => if i = encDone.enc then true else w.freed i }
  else some w

/-- `xrdp_mm_frame_ack`. -/
def World.frameAck (w : World) (frameId : Int) : World :=
  if s.useFrameAcks = false then w
  else if frameId < 0 ∨ frameId > w.frameIdServer then
    { w with frameIdClient := w.frameIdServer }.updateModuleFrameAck s
  else { w with frameIdClient := max frameId w.frameIdClient }.updateModuleFrameAck s

/-- One action, if it is possible; `none` after a reference to freed memory. -/
def World.step (w : World) : Action → Option World
  | .paintRects => some { w with serial := w.serial + 1, fifoToProc := w.fifoToProc ++ [w.serial] }
  | .encode =>
    match w.encoding, w.fifoToProc with
    | [], enc :: fifoToProc =>
      if w.freed enc then none
      else
        some { w with
          fifoToProc, encoding := (processEnc s.codec (s.env enc) enc (s.job enc)).2 }
    | _, _ => some w
  | .queueDone =>
    match w.encoding with
    | [] => some w
    | encDone :: encoding =>
      -- the rectangles of the job are read between its results
      if w.freed encDone.enc then none
      else some { w with encoding, fifoProcessed := w.fifoProcessed ++ [encDone] }
  | .processDone =>
    match w.fifoProcessed with
    | [] => some w
    | encDone :: fifoProcessed => { w with fifoProcessed }.processDone s encDone
  | .frameAck frameId => some (w.frameAck s frameId)

/-- A run. -/
def World.run (w : World) (as : List Action) : Option World := as.foldlM (World.step s) w

end

end Xrdp.Encoder
