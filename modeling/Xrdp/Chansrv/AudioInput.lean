import Xrdp.Lib.Wire
import Xrdp.Memory

/-!
# The audio input channel

`sesman/chansrv/audin.c`: what the client sends is put together from fragments, the client's formats are kept in a
table, and the format with the current number is the one that the channel is opened with.  Memory is given for every
size that is not negative.
-/

namespace Xrdp.Chansrv.AudioInput

open Wire

/-- The value of an `int` expression. -/
def int (v : Int) : Int := v.bmod (2 ^ 32)

/-- `struct xr_wave_format_ex`; nothing is where `data` points if it is `NULL`. -/
structure WaveFormat where
  wFormatTag : Nat
  nChannels : Nat
  nSamplesPerSec : Nat
  nAvgBytesPerSec : Nat
  nBlockAlign : Nat
  wBitsPerSample : Nat
  cbSize : Nat
  data : List UInt8
  deriving DecidableEq, Repr

/-- `g_in_s`: the announced size, and what has been written. -/
structure InStream where
  total : Int
  got : List UInt8
  deriving DecidableEq, Repr

abbrev FormatTable := Buf (Option WaveFormat)

/-- The variables of `audin.c`, and the FIFO of `sound.c`. -/
structure Audin where
  gInS : Option InStream
  gClientFormats : Option FormatTable
  gCurrentFormat : Int
  gInFifo : List (List UInt8)
  gBytesInFifo : Int

def start : Audin := ⟨none, none, 0, [], 0⟩

/-- What a function returns, and what it has given to `chansrv_drdynvc_data`. -/
structure Outcome where
  rv : Int
  sent : List (List UInt8)
  audin : Audin

/-! ## Streams -/

/-- `in_uint16_le`, `in_uint32_le`, off what is left of a message. -/
def inLe (n : Nat) (s : List UInt8) : Run (Nat × List UInt8) :=
  match getLe n s with
  | some r => .ok r
  | none => .error .outOfBounds

/-- `in_uint8a`. -/
def inBytes (n : Nat) (s : List UInt8) : Run (List UInt8 × List UInt8) :=
  match getBytes n s with
  | some r => .ok r
  | none => .error .outOfBounds

/-- `s_check_rem(s, n)` of a message. -/
def checkRem (s : List UInt8) (n : Nat) : Bool := n ≤ s.length

/-! ## Tables -/

/-- `g_new0(struct xr_wave_format_ex *, n)`; the size that is asked for is not negative. -/
def newTable (n : Int) : Option FormatTable :=
  if n < 0 then none else some ⟨n.toNat, fun _ => none⟩

def readTable (t : Option FormatTable) (i : Int) : Run (Option WaveFormat) :=
  match t with
  | none => .error .outOfBounds
  | some t => if i < 0 then .error .outOfBounds else t.read i.toNat

def writeTable (t : Option FormatTable) (i : Nat) (wf : WaveFormat) : Run (Option FormatTable) :=
  match t with
  | none => .error .outOfBounds
  | some t => (t.write i (some wf)).map some

/-- The loop of `cleanup_client_formats`, of so many steps at most. -/
def cleanupLoop (t : FormatTable) : Nat → Nat → Run Unit
  | 0, _ => .error .outOfFuel
  | n + 1, index => do
    match ← t.read index with
    | some _ => cleanupLoop t n (index + 1)
    | none => return ()

def cleanupClientFormats (a : Audin) : Run Audin :=
  match a.gClientFormats with
  | none => .ok a
  | some t => do
    cleanupLoop t (t.size + 1) 0
    return { a with gClientFormats := none }

/-! ## Messages to the client -/

/-- A format, as it is written. -/
def formatBytes (wf : WaveFormat) : List UInt8 :=
  leBytes 2 wf.wFormatTag ++ leBytes 2 wf.nChannels ++ leBytes 4 wf.nSamplesPerSec ++ leBytes 4 wf.nAvgBytesPerSec ++
    leBytes 2 wf.nBlockAlign ++ leBytes 2 wf.wBitsPerSample ++ leBytes 2 wf.cbSize ++ wf.data.take wf.cbSize

/-- `g_pcm_44100`. -/
def gPcm44100 : WaveFormat := ⟨1, 2, 44100, 176400, 4, 16, 0, [0]⟩

def formatsMessage : List UInt8 := 2 :: (leBytes 4 1 ++ leBytes 4 0 ++ formatBytes gPcm44100)

def openMessage (format : Int) (wf : WaveFormat) : List UInt8 :=
  3 :: (leBytes 4 2048 ++ leBytes 4 (format % 2 ^ 32).toNat ++ formatBytes wf)

/-- The message is written into a stream of 8192 bytes. -/
def audinSendOpen (a : Audin) : Run (List UInt8) := do
  match ← readTable a.gClientFormats a.gCurrentFormat with
  | none => .error .outOfBounds
  | some wf =>
    if wf.data.length < wf.cbSize ∨ 8192 < (openMessage a.gCurrentFormat wf).length then .error .outOfBounds
    else return openMessage a.gCurrentFormat wf

/-! ## Messages of the client -/

/-- What `chansrv_drdynvc_data` returns. -/
abbrev Env := List UInt8 → Int

def audinProcessVersion (env : Env) (a : Audin) (s : List UInt8) : Run Outcome :=
  if ! checkRem s 4 then .ok ⟨1, [], a⟩
  else do
    let (_, _) ← inLe 4 s
    return ⟨env formatsMessage, [formatsMessage], a⟩

/-- The fields of a format. -/
def inFormat (s : List UInt8) : Run (WaveFormat × List UInt8) := do
  let (wFormatTag, s) ← inLe 2 s
  let (nChannels, s) ← inLe 2 s
  let (nSamplesPerSec, s) ← inLe 4 s
  let (nAvgBytesPerSec, s) ← inLe 4 s
  let (nBlockAlign, s) ← inLe 2 s
  let (wBitsPerSample, s) ← inLe 2 s
  let (cbSize, s) ← inLe 2 s
  return (⟨wFormatTag, nChannels, nSamplesPerSec, nAvgBytesPerSec, nBlockAlign, wBitsPerSample, cbSize, []⟩, s)

/-- The loop of `audin_process_formats`, with so many formats to go; it tells whether it has come to its end. -/
def formatsLoop : Nat → Nat → Option FormatTable → List UInt8 → Run (Bool × Option FormatTable)
  | 0, _, t, _ => .ok (true, t)
  | n + 1, index, t, s =>
    if ! checkRem s 18 then .ok (false, t)
    else do
      let (wf, s) ← inFormat s
      let t ← writeTable t index wf
      if wf.cbSize > 0 then
        if ! checkRem s wf.cbSize then return (false, t)
        else do
          let (data, s) ← inBytes wf.cbSize s
          let t ← writeTable t index { wf with data := data }
          formatsLoop n (index + 1) t s
      else formatsLoop n (index + 1) t s

def audinProcessFormats (a : Audin) (s : List UInt8) : Run Outcome := do
  let a ← cleanupClientFormats a
  if ! checkRem s 8 then return ⟨1, [], a⟩
  else do
    let (v, s) ← inLe 4 s
    let (_, s) ← inBytes 4 s
    let numFormats := int v
    let (done, t) ← formatsLoop numFormats.toNat 0 (newTable (int (numFormats + 1))) s
    let a := { a with gClientFormats := t }
    if done then do
      let opened ← audinSendOpen a
      return ⟨0, [opened], a⟩
    else return ⟨1, [], a⟩

def audinProcessOpenReply (a : Audin) (s : List UInt8) : Run Outcome :=
  if ! checkRem s 4 then .ok ⟨1, [], a⟩
  else do
    let (_, _) ← inLe 4 s
    return ⟨0, [], a⟩

def audinProcessData (a : Audin) (s : List UInt8) : Run Outcome :=
  .ok ⟨0, [], { a with gInFifo := a.gInFifo ++ [s], gBytesInFifo := int (a.gBytesInFifo + s.length) }⟩

def audinProcessFormatChange (a : Audin) (s : List UInt8) : Run Outcome :=
  if ! checkRem s 4 then .ok ⟨1, [], a⟩
  else do
    let (v, _) ← inLe 4 s
    return ⟨0, [], { a with gCurrentFormat := int v }⟩

/-- The `switch` of `audin_process_msg`. -/
def audinProcessCode (env : Env) (a : Audin) (s : List UInt8) (code : Nat) : Run Outcome :=
  if code = 1 then audinProcessVersion env a s
  else if code = 2 then audinProcessFormats a s
  else if code = 4 then audinProcessOpenReply a s
  else if code = 5 then .ok ⟨0, [], a⟩
  else if code = 6 then audinProcessData a s
  else if code = 7 then audinProcessFormatChange a s
  else .ok ⟨0, [], a⟩

def audinProcessMsg (env : Env) (a : Audin) (s : List UInt8) : Run Outcome :=
  if ! checkRem s 1 then .ok ⟨1, [], a⟩
  else do
    let (code, s) ← inLe 1 s
    audinProcessCode env a s code

/-! ## Fragments -/

/-- `s_check_rem(g_in_s, bytes)`, which compares addresses; the buffer is `NULL` if no size has been announced, or a
negative one. -/
def fragmentFits (st : InStream) (bytes : Nat) : Bool :=
  ((st.got.length : Int) + bytes) % 2 ^ 64 ≤ st.total % 2 ^ 64

/-- `out_uint8a(g_in_s, data, bytes)`. -/
def writeFragment (st : InStream) (data : List UInt8) : Run InStream :=
  if data ≠ [] ∧ st.total.toNat < st.got.length + data.length then .error .outOfBounds
  else .ok { st with got := st.got ++ data }

def audinDataFragment (env : Env) (a : Audin) (data : List UInt8) : Run Outcome :=
  match a.gInS with
  | none => .error .outOfBounds
  | some st =>
    if ! fragmentFits st data.length then .ok ⟨1, [], a⟩
    else do
      let st ← writeFragment st data
      if (st.got.length : Int) = st.total then do
        let out ← audinProcessMsg env { a with gInS := some st } st.got
        return { out with audin := { out.audin with gInS := none } }
      else return ⟨0, [], { a with gInS := some st }⟩

def audinDataFirst (env : Env) (a : Audin) (data : List UInt8) (totalBytes : Int) : Run Outcome :=
  audinDataFragment env { a with gInS := some ⟨totalBytes, []⟩ } data

def audinData (env : Env) (a : Audin) (data : List UInt8) : Run Outcome :=
  match a.gInS with
  | none => audinProcessMsg env a data
  | some _ => audinDataFragment env a data

def audinCloseResponse (a : Audin) : Run Outcome := do
  let a ← cleanupClientFormats a
  return ⟨0, [], { a with gInS := none }⟩

/-- Bytes whose number is an `int`. -/
abbrev Fragment := { data : List UInt8 // data.length < 2 ^ 31 }

/-- What comes from the client. -/
inductive Event where
  | first (data : Fragment) (totalBytes : Int32)
  | data (data : Fragment)
  | closeResponse

def step (env : Env) (a : Audin) : Event → Run Outcome
  | .first data totalBytes => audinDataFirst env a data.1 totalBytes.toInt
  | .data data => audinData env a data.1
  | .closeResponse => audinCloseResponse a

end Xrdp.Chansrv.AudioInput
