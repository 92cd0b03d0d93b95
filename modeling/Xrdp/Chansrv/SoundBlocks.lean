import Xrdp.Fastpath.OutStream
import Xrdp.Lib.Runs
import Xrdp.Memory

/-!
# Sound output

`sesman/chansrv/sound.c` collects the PCM data of the sound server in `g_buffer` and sends it to the client in
blocks, which a codec may have made smaller.  A block goes out in two parts, of which the first has its first
four bytes.

* `Codecs` — the codec libraries: what they answer is not known, but they do not write more than they may.
* `Sound.sendWaveDataChunk` — a block is encoded and sent; `Sound.sendWaveData` — a message.
* `Sound.coded` — what a codec makes of a block.
* `Ok` — the data is cut into blocks, and each has been sent in two parts with its real size.
* `blocks_right_iff` — all is right just as long as no codec makes less than four bytes of a block.
-/

namespace Xrdp.Chansrv.SoundBlocks

open Runs Wire

/-- `sound_wave_compress_fdk_aac`, `sound_wave_compress_opus` and `sound_wave_compress_mp3lame`. -/
inductive Codec where
  | fdkAac
  | opus
  | mp3lame
  deriving DecidableEq, Repr

/-- What comes of the creation of an encoder: none, one with parameters that cannot be set, or one that can be
used. -/
inductive Opening where
  | failed
  | noParams
  | ready
  deriving DecidableEq, Repr

/-- The codec libraries and the clock, at each block. -/
structure Codecs where
  /-- `XRDP_FDK_AAC`, `XRDP_OPUS`, `XRDP_MP3LAME`. -/
  built : Codec → Bool
  opens : Codec → Nat → Opening
  /-- What is made of the input, with room for so many bytes; `none` is an error. -/
  encode : Codec → Nat → List UInt8 → Nat → Option (List UInt8)
  time : Nat → Nat
  encode_le : ∀ c n input room out, encode c n input room = some out → out.length ≤ room

/-- A block of PCM data, the block size that was in force, and what it has been encoded to. -/
structure Block where
  size : Nat
  pcm : List UInt8
  encoded : List UInt8

/-- The state of the sound output. -/
structure Sound where
  /-- `g_buffer`, `g_buf_index` and `g_bbuf_size`. -/
  buffer : Buf UInt8
  bufIndex : Nat
  bbufSize : Nat
  timeDiff : Int
  bestTimeDiff : Int
  /-- `g_client_does_fdk_aac` and so on, `g_client_fdk_aac_index` and so on, and whether there is an encoder. -/
  clientDoes : Codec → Bool
  clientIndex : Codec → Nat
  encoder : Codec → Bool
  currentClientFormatIndex : Nat
  blockNo : Nat
  /-- How many blocks have been encoded. -/
  count : Nat
  /-- What has come, the blocks, and what has been sent, since the last close. -/
  accepted : List UInt8
  blocks : List Block
  pdus : List (List UInt8)

/-- `MAX_BBUF_SIZE`. -/
def maxBbufSize : Nat := 1024 * 16

namespace Sound

def start : Sound where
  buffer := .alloc maxBbufSize
  bufIndex := 0
  bbufSize := 1024 * 8
  timeDiff := 0
  bestTimeDiff := 0
  clientDoes := fun _ => false
  clientIndex := fun _ => 0
  encoder := fun _ => false
  currentClientFormatIndex := 0
  blockNo := 0
  count := 0
  accepted := []
  blocks := []
  pdus := []

/-- Whether there is an encoder, and whether it can be used; `params` if its parameters must be set. -/
def started (env : Codecs) (s : Sound) (c : Codec) (params : Bool) : Bool × Bool :=
  if s.encoder c then (true, true)
  else match env.opens c s.count with
    | .failed => (false, false)
    | .noParams => (true, !params)
    | .ready => (true, true)

/-- The bytes of a buffer from a place on. -/
def read (buffer : Buf UInt8) (off : Nat) (n : Int) : Run (List UInt8) :=
  if 0 ≤ n ∧ off + n ≤ buffer.size then .ok (bytesAt buffer.cells off n.toNat) else .error .outOfBounds

/-- A block that is too short is filled up with silence. -/
def fill (buffer : Buf UInt8) (dataBytes bbufSize : Nat) : Run (Buf UInt8) :=
  if dataBytes < bbufSize then buffer.memcpy dataBytes (List.replicate (bbufSize - dataBytes) 0) else .ok buffer

/-- What the three have in common: `params` if the parameters of the encoder must be set, and `takes` if an
output of some length is used for so many bytes. -/
def compressWith (env : Codecs) (c : Codec) (params : Bool) (takes : Nat → Nat → Bool) (s : Sound)
    (dataBytes formatIndex : Nat) : Run (Sound × Nat × Nat) :=
  if !env.built c || !s.clientDoes c then .ok (s, dataBytes, formatIndex)
  else
    let started := s.started env c params
    let s := { s with encoder := Function.update s.encoder c started.1 }
    if !started.2 then .ok (s, dataBytes, formatIndex)
    else do
      let buffer ← fill s.buffer dataBytes s.bbufSize
      let input ← read buffer 0 (max dataBytes s.bbufSize : Nat)
      match env.encode c s.count input dataBytes with
      | none => .ok ({ s with buffer := buffer }, dataBytes, formatIndex)
      | some cdata =>
        if takes cdata.length dataBytes then do
          let buffer ← buffer.memcpy 0 cdata
          .ok ({ s with buffer := buffer }, cdata.length, s.clientIndex c)
        else .ok ({ s with buffer := buffer }, dataBytes, formatIndex)

/-- `sound_wave_compress_fdk_aac`: any output is used. -/
def compressFdkAac (env : Codecs) : Sound → Nat → Nat → Run (Sound × Nat × Nat) :=
  compressWith env .fdkAac false fun _ _ => true

/-- `sound_wave_compress_opus`. -/
def compressOpus (env : Codecs) : Sound → Nat → Nat → Run (Sound × Nat × Nat) :=
  compressWith env .opus false fun cdataBytes dataBytes => 0 < cdataBytes && cdataBytes < dataBytes

/-- `sound_wave_compress_mp3lame`: the encoder stays if its parameters cannot be set. -/
def compressMp3lame (env : Codecs) : Sound → Nat → Nat → Run (Sound × Nat × Nat) :=
  compressWith env .mp3lame true fun cdataBytes dataBytes => 0 < cdataBytes && cdataBytes < dataBytes

/-- `sound_wave_compress`. -/
def waveCompress (env : Codecs) (s : Sound) (dataBytes formatIndex : Nat) : Run (Sound × Nat × Nat) :=
  if s.clientDoes .fdkAac then compressFdkAac env { s with bbufSize := 4096 } dataBytes formatIndex
  else if s.clientDoes .opus then compressOpus env { s with bbufSize := 11520 } dataBytes formatIndex
  else if s.clientDoes .mp3lame then compressMp3lame env { s with bbufSize := 11520 } dataBytes formatIndex
  else .ok (s, dataBytes, formatIndex)

/-- What is written to a stream of some size. -/
def stream (size : Nat) (bytes : List UInt8) : Run (List UInt8) :=
  if bytes.length ≤ size then .ok bytes else .error .outOfBounds

/-- `SNDC_WAVE`. -/
def sndcWave : Nat := 0x02

/-- `sound_send_wave_data_chunk` of what is in the buffer; the second part is its result. -/
def sendWaveDataChunk (env : Codecs) (s : Sound) (dataBytes : Nat) : Run (Sound × Nat) :=
  if dataBytes < 4 ∨ dataBytes > 128 * 1024 then .ok (s, 1)
  else do
    let r ← s.waveCompress env dataBytes s.currentClientFormatIndex
    let s := { r.1 with blockNo := r.1.blockNo + 1 }
    let dataBytes := r.2.1
    let first ← read s.buffer 0 4
    let info ← stream (16 + dataBytes) (leBytes 2 sndcWave ++ leBytes 2 (16 - 4 + dataBytes - 4) ++
      leBytes 2 (env.time s.count) ++ leBytes 2 r.2.2 ++ [UInt8.ofNat s.blockNo] ++ leBytes 3 0 ++ first)
    let second ← read s.buffer 4 ((dataBytes : Int) - 4)
    let wave ← stream (16 + dataBytes) (leBytes 4 0 ++ second)
    .ok ({ s with count := s.count + 1, pdus := s.pdus ++ [info, wave] }, 0)

/-! ## What a codec makes of a block -/

/-- The codec that is tried, with the size of the next block and whether its parameters must be set. -/
def codec (s : Sound) : Option (Codec × Nat × Bool) :=
  if s.clientDoes .fdkAac then some (.fdkAac, 4096, false)
  else if s.clientDoes .opus then some (.opus, 11520, false)
  else if s.clientDoes .mp3lame then some (.mp3lame, 11520, true)
  else none

/-- The size of the blocks after the next one. -/
def nextSize (s : Sound) : Nat := match s.codec with
  | none => s.bbufSize
  | some (_, size, _) => size

/-- The output of a codec that is used for a block. -/
def output (env : Codecs) (s : Sound) (pcm : List UInt8) : Option (List UInt8) := match s.codec with
  | none => none
  | some (c, size, params) =>
    if env.built c && (s.started env c params).2 then
      (env.encode c s.count (pcm ++ List.replicate (size - pcm.length) 0) pcm.length).filter fun cdata =>
        c = .fdkAac || 0 < cdata.length && cdata.length < pcm.length
    else none

/-- What a block is encoded to. -/
def coded (env : Codecs) (s : Sound) (pcm : List UInt8) : List UInt8 := (s.output env pcm).getD pcm

/-! ## Messages -/

/-- The next block, as soon as it is complete; it is noted what it is and what it is encoded to. -/
def sendBlock (env : Codecs) (s : Sound) : Run (Sound × Nat) :=
  let pcm := bytesAt s.buffer.cells 0 s.bbufSize
  let block : Block := { size := s.bbufSize, pcm := pcm, encoded := s.coded env pcm }
  { s with bufIndex := 0, blocks := s.blocks ++ [block] }.sendWaveDataChunk env s.bbufSize

/-- The loop of `sound_send_wave_data`. -/
def sendLoop (env : Codecs) : Nat → Sound → List UInt8 → Run (Sound × Nat)
  | _, s, [] => .ok (s, 0)
  | 0, _, _ :: _ => .error .outOfFuel
  | n + 1, s, data =>
    let chunkBytes : Int := min ((s.bbufSize : Int) - s.bufIndex) data.length
    if chunkBytes < 1 then .ok (s, 1)
    else do
      let buffer ← s.buffer.memcpy s.bufIndex (data.take chunkBytes.toNat)
      let s := { s with buffer := buffer, bufIndex := s.bufIndex + chunkBytes.toNat }
      if s.bufIndex ≥ s.bbufSize then do
        let r ← s.sendBlock env
        if r.2 = 2 then .ok (r.1, 0)
        else if r.2 ≠ 0 then .ok (r.1, 1)
        else sendLoop env n r.1 (data.drop chunkBytes.toNat)
      else sendLoop env n s (data.drop chunkBytes.toNat)

/-- The data of a message: if the client is late, a quarter of it, as silence. -/
def taken (s : Sound) (data : List UInt8) : List UInt8 :=
  if s.timeDiff > s.bestTimeDiff + 250 then List.replicate (data.length / 4 / 4 * 4) 0 else data

/-- What is noted before the loop. -/
def begun (s : Sound) (data : List UInt8) : Sound :=
  { s with
    timeDiff := if s.timeDiff > s.bestTimeDiff + 250 then 0 else s.timeDiff
    accepted := s.accepted ++ s.taken data }

/-- `sound_send_wave_data`. -/
def sendWaveData (env : Codecs) (s : Sound) (data : List UInt8) : Run (Sound × Nat) :=
  sendLoop env data.length (s.begun data) (s.taken data)

/-- `sound_send_close`, with the message itself left out of what is noted. -/
def sendClose (s : Sound) : Sound :=
  { s with bestTimeDiff := 0, bufIndex := 0, accepted := [], blocks := [], pdus := [] }

end Sound

/-- A message of the sound server, with data or to close; what the client can do, and its confirmation, which leaves
some times. -/
inductive Event where
  | pcm (data : List UInt8)
  | close
  | formats (clientDoes : Codec → Bool) (clientIndex : Codec → Nat) (currentClientFormatIndex : Nat)
  | confirm (timeDiff bestTimeDiff : Int)

def Sound.step (env : Codecs) (s : Sound) : Event → Run (Sound × Nat)
  | .pcm data => s.sendWaveData env data
  | .close => .ok (s.sendClose, 0)
  | .formats clientDoes clientIndex current =>
    .ok ({ s with clientDoes := clientDoes, clientIndex := clientIndex, currentClientFormatIndex := current }, 0)
  | .confirm timeDiff bestTimeDiff => .ok ({ s with timeDiff := timeDiff, bestTimeDiff := bestTimeDiff }, 0)

/-- An event is handled without an error. -/
def Next (env : Codecs) (s : Sound) (e : Event) (s' : Sound) : Prop := s.step env e = .ok (s', 0)

/-! ## What is promised -/

/-- The two parts of a block, with the size that both have. -/
structure Parts (b : Block) (info wave : List UInt8) : Prop where
  kind : info.take 2 = leBytes 2 Sound.sndcWave
  size : leVal ((info.drop 2).take 2) = info.length - 4 + (wave.length - 4)
  head : info.length = 16
  pad : wave.take 4 = leBytes 4 0
  data : info.drop 12 ++ wave.drop 4 = b.encoded

/-- What has come since the last close is cut into blocks, each of the size in force, and what is left is in the
buffer; each block has been sent once. -/
structure Ok (s : Sound) : Prop where
  cut : s.accepted = s.blocks.flatMap Block.pcm ++ bytesAt s.buffer.cells 0 s.bufIndex
  rest : s.bufIndex < s.bbufSize
  size : ∀ b ∈ s.blocks, b.pcm.length = b.size
  sent : ∃ parts : List (List UInt8 × List UInt8), s.pdus = parts.flatMap (fun p => [p.1, p.2]) ∧
    List.Forall₂ (fun b p => Parts b p.1 p.2) s.blocks parts

def RunRight (env : Codecs) (es : List Event) : Prop := Always (Next env) Ok .start es

/-! ## When it holds -/

/-- A codec makes less than four bytes of a block. -/
def Tiny (env : Codecs) (s : Sound) (pcm : List UInt8) : Prop :=
  ∃ cdata, s.output env pcm = some cdata ∧ cdata.length < 4

/-- No block of a message is tiny. -/
def LoopFits (env : Codecs) : Nat → Sound → List UInt8 → Prop
  | 0, _, _ => True
  | n + 1, s, data =>
    s.bbufSize ≤ s.bufIndex + data.length →
      ¬ Tiny env s (bytesAt s.buffer.cells 0 s.bufIndex ++ data.take (s.bbufSize - s.bufIndex)) ∧
        ∀ s', Sound.sendLoop env 1 s (data.take (s.bbufSize - s.bufIndex)) = .ok (s', 0) →
          LoopFits env n s' (data.drop (s.bbufSize - s.bufIndex))

/-- No block that an event completes is tiny. -/
def Fits (env : Codecs) (s : Sound) : Event → Prop
  | .pcm data => LoopFits env data.length (s.begun data) (s.taken data)
  | _ => True

/-! ## The buffer -/

namespace Sound

theorem read_ok {buffer : Buf UInt8} {off n : Nat} (h : off + n ≤ buffer.size) :
    read buffer off n = .ok (bytesAt buffer.cells off n) := by
  rw [read, if_pos ⟨by omega, by omega⟩, Int.toNat_natCast]

theorem read_negative {buffer : Buf UInt8} {off : Nat} {n : Int} (h : n < 0) :
    read buffer off n = .error .outOfBounds := if_neg (by omega)

theorem memcpy_eq {buffer : Buf UInt8} {off : Nat} {src : List UInt8} (h : off + src.length ≤ buffer.size) :
    buffer.memcpy off src = .ok ⟨buffer.size, writeAt buffer.cells off src⟩ := Buf.memcpy_ok h

/-- A buffer that is filled up. -/
theorem bytesAt_filled (cells : Nat → UInt8) (n : Nat) (bytes : List UInt8) :
    bytesAt (writeAt cells n bytes) 0 (n + bytes.length) = bytesAt cells 0 n ++ bytes := by
  rw [bytesAt_add, bytesAt_writeAt_of_disjoint (by omega), Nat.zero_add, bytesAt_writeAt]

theorem fill_ok {buffer : Buf UInt8} {dataBytes bbufSize : Nat} (hsize : bbufSize ≤ buffer.size) :
    fill buffer dataBytes bbufSize = .ok ⟨buffer.size, writeAt buffer.cells dataBytes (List.replicate (bbufSize - dataBytes) 0)⟩ := by
  unfold fill
  split_ifs with hshort
  · exact memcpy_eq (by simp; omega)
  · have hempty : writeAt buffer.cells dataBytes [] = buffer.cells := by
      funext j
      simp [writeAt]
    rw [Nat.sub_eq_zero_of_le (by omega), List.replicate_zero, hempty]

/-! ## Codecs -/

/-- What is left of the state when a block has been encoded to some bytes, at the front of the buffer. -/
structure Compressed (s : Sound) (bytes : List UInt8) (s' : Sound) (n : Nat) : Prop where
  same : s' = { s with buffer := s'.buffer, encoder := s'.encoder }
  room : s'.buffer.size = s.buffer.size
  length : n = bytes.length
  bytes : bytesAt s'.buffer.cells 0 n = bytes

theorem compressWith_spec (env : Codecs) (c : Codec) (params : Bool) (takes : Nat → Nat → Bool) {s : Sound}
    {dataBytes : Nat} (hdata : dataBytes ≤ s.buffer.size) (hsize : s.bbufSize ≤ s.buffer.size)
    (formatIndex : Nat) : ∃ s' n f, compressWith env c params takes s dataBytes formatIndex = .ok (s', n, f) ∧
      Compressed s ((if env.built c && s.clientDoes c && (s.started env c params).2 then
        (env.encode c s.count (bytesAt s.buffer.cells 0 dataBytes ++ List.replicate (s.bbufSize - dataBytes) 0)
          dataBytes).filter fun cdata => takes cdata.length dataBytes
        else none).getD (bytesAt s.buffer.cells 0 dataBytes)) s' n := by
  have hraw : ∀ fill encoder, Compressed s (bytesAt s.buffer.cells 0 dataBytes)
      { s with buffer := ⟨s.buffer.size, writeAt s.buffer.cells dataBytes fill⟩, encoder := encoder } dataBytes :=
    fun _ _ => ⟨rfl, rfl, bytesAt_length.symm, bytesAt_writeAt_of_disjoint (by omega)⟩
  have hsame : ∀ encoder, Compressed s (bytesAt s.buffer.cells 0 dataBytes) { s with encoder := encoder } dataBytes :=
    fun _ => ⟨rfl, rfl, bytesAt_length.symm, rfl⟩
  unfold compressWith
  by_cases hdoes : (env.built c && s.clientDoes c) = true
  · rw [if_neg (by simpa using hdoes), hdoes, Bool.true_and]
    dsimp only
    by_cases hstart : (s.started env c params).2 = true
    · have hfill := @fill_ok s.buffer dataBytes _ hsize
      have hmax : max dataBytes s.bbufSize =
          dataBytes + (List.replicate (s.bbufSize - dataBytes) (0 : UInt8)).length := by
        rw [List.length_replicate]
        omega
      rw [if_neg (by simpa using hstart), if_pos hstart, hfill, Run.ok_bind, hmax,
        read_ok (by rw [← hmax, Nat.zero_add]; exact max_le hdata hsize), Run.ok_bind, bytesAt_filled]
      cases hencode : env.encode c s.count
          (bytesAt s.buffer.cells 0 dataBytes ++ List.replicate (s.bbufSize - dataBytes) 0) dataBytes with
      | none => exact ⟨_, _, _, rfl, hraw _ _⟩
      | some cdata =>
        have hroom := env.encode_le _ _ _ _ _ hencode
        dsimp only
        by_cases htakes : takes cdata.length dataBytes = true
        · rw [if_pos htakes, Option.filter_some, if_pos htakes]
          rw [memcpy_eq (by dsimp only; omega), Run.ok_bind]
          refine ⟨_, _, _, rfl, rfl, rfl, rfl, ?_⟩
          show bytesAt (writeAt _ 0 cdata) 0 cdata.length = cdata
          exact bytesAt_writeAt
        · rw [if_neg htakes, Option.filter_some, if_neg htakes]
          exact ⟨_, _, _, rfl, hraw _ _⟩
    · rw [if_pos (by simpa using hstart), if_neg hstart]
      exact ⟨_, _, _, rfl, hsame _⟩
  · rw [if_pos (by simpa [← Bool.not_and] using hdoes), Bool.eq_false_iff.2 hdoes, Bool.false_and]
    exact ⟨_, _, _, rfl, hsame _⟩

/-- **The codec in force encodes the block at the front of the buffer.** -/
theorem waveCompress_spec (env : Codecs) {s : Sound} {dataBytes : Nat} (hroom : s.buffer.size = maxBbufSize)
    (hdata : dataBytes ≤ maxBbufSize) (formatIndex : Nat) :
    ∃ s' n f, s.waveCompress env dataBytes formatIndex = .ok (s', n, f) ∧
      Compressed { s with bbufSize := s.nextSize } (s.coded env (bytesAt s.buffer.cells 0 dataBytes)) s' n := by
  have hcoded : ∀ c size params takes, s.codec = some (c, size, params) → s.clientDoes c = true →
      (∀ n, takes n dataBytes = (c = .fdkAac || 0 < n && n < dataBytes)) → size ≤ maxBbufSize →
      ∃ s' n f, compressWith env c params takes { s with bbufSize := size } dataBytes formatIndex = .ok (s', n, f) ∧
        Compressed { s with bbufSize := s.nextSize } (s.coded env (bytesAt s.buffer.cells 0 dataBytes)) s' n := by
    intro c size params takes hcodec hdoes htakes hsize
    obtain ⟨s', n, f, heq, hcompressed⟩ := @compressWith_spec env c params takes { s with bbufSize := size } dataBytes
      (by rw [hroom]; exact hdata) (by rw [hroom]; exact hsize) formatIndex
    refine ⟨s', n, f, heq, ?_⟩
    have hnext : s.nextSize = size := by
      unfold nextSize
      rw [hcodec]
    unfold coded output
    rw [hnext, hcodec]
    simpa [hdoes, htakes, started] using hcompressed
  unfold waveCompress
  split_ifs with hfdk hopus hmp3
  · exact hcoded .fdkAac 4096 false _ (by simp [codec, hfdk]) hfdk (by simp) (by decide)
  · exact hcoded .opus 11520 false _ (by simp [codec, hfdk, hopus]) hopus (by simp) (by decide)
  · exact hcoded .mp3lame 11520 true _ (by simp [codec, hfdk, hopus, hmp3]) hmp3 (by simp) (by decide)
  · have hcodec : s.codec = none := by simp [codec, hfdk, hopus, hmp3]
    have hnext : s.nextSize = s.bbufSize := by
      unfold nextSize
      rw [hcodec]
    have hbytes : s.coded env (bytesAt s.buffer.cells 0 dataBytes) = bytesAt s.buffer.cells 0 dataBytes := by
      unfold coded output
      rw [hcodec]
      rfl
    rw [hnext, hbytes]
    exact ⟨s, _, _, rfl, rfl, rfl, bytesAt_length.symm, rfl⟩

theorem coded_length_le (env : Codecs) (s : Sound) (pcm : List UInt8) :
    (s.coded env pcm).length ≤ pcm.length := by
  unfold coded
  cases houtput : s.output env pcm with
  | none => exact Nat.le_refl _
  | some cdata =>
    unfold output at houtput
    split at houtput
    case h_1 => cases houtput
    case h_2 =>
      split_ifs at houtput
      obtain ⟨hencode, -⟩ := Option.filter_eq_some_iff.1 houtput
      exact env.encode_le _ _ _ _ _ hencode

theorem tiny_iff {env : Codecs} {s : Sound} {pcm : List UInt8} (hpcm : 4 ≤ pcm.length) :
    Tiny env s pcm ↔ (s.coded env pcm).length < 4 := by
  unfold Tiny coded
  cases s.output env pcm with
  | none => simpa using hpcm
  | some cdata => simp

/-- What is left of the state when a block has been sent. -/
structure Sent (env : Codecs) (s s' : Sound) (block : Block) : Prop where
  room : s'.buffer.size = s.buffer.size
  index : s'.bufIndex = s.bufIndex
  size : s'.bbufSize = s.nextSize
  accepted : s'.accepted = s.accepted
  blocks : s'.blocks = s.blocks
  pdus : ∃ info wave, s'.pdus = s.pdus ++ [info, wave] ∧ Parts block info wave

/-- **A block goes out in two parts, if it is not tiny.** -/
theorem sendWaveDataChunk_spec (env : Codecs) {s : Sound} {dataBytes : Nat} (hroom : s.buffer.size = maxBbufSize)
    (hleast : 4 ≤ dataBytes) (hmost : dataBytes ≤ maxBbufSize) (block : Block)
    (hblock : block.encoded = s.coded env (bytesAt s.buffer.cells 0 dataBytes)) :
    (4 ≤ block.encoded.length → ∃ s', s.sendWaveDataChunk env dataBytes = .ok (s', 0) ∧ Sent env s s' block) ∧
      (block.encoded.length < 4 → s.sendWaveDataChunk env dataBytes = .error .outOfBounds) := by
  obtain ⟨s', n, f, heq, hcompressed⟩ := waveCompress_spec env hroom hmost s.currentClientFormatIndex
  have hlength : block.encoded.length ≤ maxBbufSize := by
    rw [hblock]
    exact Nat.le_trans (coded_length_le env s _) (by simpa using hmost)
  rw [← hblock] at hcompressed
  have hroom' : s'.buffer.size = maxBbufSize := hcompressed.room.trans hroom
  have hbound : ¬ (dataBytes < 4 ∨ dataBytes > 128 * 1024) := by
    unfold maxBbufSize at hmost
    omega
  have hfirst : read s'.buffer 0 4 = .ok (bytesAt s'.buffer.cells 0 4) := read_ok (by rw [hroom']; decide)
  have hinfo : ∀ head : List UInt8, head.length = 12 → stream (16 + n) (head ++ bytesAt s'.buffer.cells 0 4) =
      .ok (head ++ bytesAt s'.buffer.cells 0 4) := fun head hhead => if_pos (by simp [hhead])
  unfold sendWaveDataChunk
  rw [if_neg hbound, heq, Run.ok_bind]
  dsimp only
  rw [hfirst, Run.ok_bind, hinfo _ rfl, Run.ok_bind]
  constructor
  · intro hfour
    obtain ⟨m, hm⟩ : ∃ m, n = 4 + m := ⟨n - 4, by rw [hcompressed.length]; omega⟩
    have hn : n ≤ maxBbufSize := by rwa [hcompressed.length]
    have hsecond : read s'.buffer 4 ((n : Int) - 4) = .ok (bytesAt s'.buffer.cells 4 m) := by
      have hm' : (n : Int) - 4 = (m : Nat) := by omega
      rw [hm']
      exact read_ok (by rw [hroom']; omega)
    rw [hsecond, Run.ok_bind, stream, if_pos (by simp [leBytes, hm]; omega), Run.ok_bind]
    have hpdus : s'.pdus = s.pdus := by rw [hcompressed.same]
    refine ⟨_, rfl, hcompressed.room, ?_, ?_, ?_, ?_, _, _,
      congrArg (· ++ [_, _]) hpdus, ?_⟩
    · show s'.bufIndex = s.bufIndex
      rw [hcompressed.same]
    · show s'.bbufSize = s.nextSize
      rw [hcompressed.same]
    · show s'.accepted = s.accepted
      rw [hcompressed.same]
    · show s'.blocks = s.blocks
      rw [hcompressed.same]
    · constructor
      · rfl
      · have hsize : leVal (leBytes 2 (16 - 4 + n - 4)) = 16 - 4 + n - 4 := by
          rw [leVal_leBytes]
          exact Nat.mod_eq_of_lt (by unfold maxBbufSize at hn; omega)
        refine Eq.trans hsize ?_
        simp [leBytes, hm]
        omega
      · simp [leBytes]
      · rfl
      · rw [← hcompressed.bytes, hm, bytesAt_add]
        rfl
  · intro htiny
    have hnegative : (n : Int) - 4 < 0 := by rw [hcompressed.length]; omega
    rw [read_negative hnegative, Run.error_bind]

/-! ## Messages -/

/-- Data is put into the buffer. -/
def put (s : Sound) (data : List UInt8) : Sound :=
  { s with
    buffer := ⟨s.buffer.size, writeAt s.buffer.cells s.bufIndex data⟩
    bufIndex := s.bufIndex + data.length }

/-- In order, with `data` still to be put into the buffer. -/
structure Held (s : Sound) (data : List UInt8) : Prop where
  cut : s.accepted = s.blocks.flatMap Block.pcm ++ bytesAt s.buffer.cells 0 s.bufIndex ++ data
  rest : s.bufIndex < s.bbufSize
  size : ∀ b ∈ s.blocks, b.pcm.length = b.size
  sent : ∃ parts : List (List UInt8 × List UInt8), s.pdus = parts.flatMap (fun p => [p.1, p.2]) ∧
    List.Forall₂ (fun b p => Parts b p.1 p.2) s.blocks parts
  room : s.buffer.size = maxBbufSize
  least : 4 ≤ s.bbufSize
  most : s.bbufSize ≤ maxBbufSize

theorem Held.ok {s : Sound} (h : Held s []) : Ok s where
  cut := by simpa using h.cut
  rest := h.rest
  size := h.size
  sent := h.sent

/-- Data that does not fill the buffer. -/
theorem sendLoop_part {env : Codecs} {s : Sound} {data : List UInt8} (h : Held s data) (hne : data ≠ [])
    (hpart : s.bufIndex + data.length < s.bbufSize) (n : Nat) :
    sendLoop env (n + 1) s data = .ok (s.put data, 0) ∧ Held (s.put data) [] := by
  have hlength : 0 < data.length := List.length_pos_iff.2 hne
  have hmost := h.most
  have hroom := h.room
  constructor
  · have hchunk : min ((s.bbufSize : Int) - s.bufIndex) data.length = data.length := by omega
    rw [sendLoop, hchunk, if_neg (by omega), Int.toNat_natCast, List.take_length, List.drop_length,
      memcpy_eq (by omega), Run.ok_bind]
    · dsimp only
      rw [if_neg (by omega)]
      cases n <;> rfl
    · exact hne
  · exact ⟨by simp [put, bytesAt_filled, h.cut], hpart, h.size, h.sent, hroom, h.least, hmost⟩

/-- Data that does. -/
theorem sendLoop_full (env : Codecs) {s : Sound} {data : List UInt8} (hrest : s.bufIndex < s.bbufSize)
    (hmost : s.bbufSize ≤ s.buffer.size) (hfull : s.bbufSize ≤ s.bufIndex + data.length) (n : Nat) :
    sendLoop env (n + 1) s data =
      (do
        let r ← (s.put (data.take (s.bbufSize - s.bufIndex))).sendBlock env
        if r.2 = 2 then .ok (r.1, 0)
        else if r.2 ≠ 0 then .ok (r.1, 1)
        else sendLoop env n r.1 (data.drop (s.bbufSize - s.bufIndex))) := by
  have hchunk : min ((s.bbufSize : Int) - s.bufIndex) data.length = (s.bbufSize - s.bufIndex : Nat) := by omega
  have htake : (data.take (s.bbufSize - s.bufIndex)).length = s.bbufSize - s.bufIndex := by
    rw [List.length_take]
    omega
  rw [sendLoop, hchunk, if_neg (by omega), Int.toNat_natCast, memcpy_eq (by omega), Run.ok_bind]
  · dsimp only
    rw [if_pos (by omega), put, htake]
  · rintro rfl
    rw [List.length_nil] at hfull
    omega

theorem nextSize_bounds {s : Sound} (hleast : 4 ≤ s.bbufSize) (hmost : s.bbufSize ≤ maxBbufSize) :
    4 ≤ s.nextSize ∧ s.nextSize ≤ maxBbufSize := by
  unfold nextSize codec
  split_ifs
  case neg => exact ⟨hleast, hmost⟩
  all_goals simp [maxBbufSize]

/-- The block that is completed by some data. -/
def completed (s : Sound) (data : List UInt8) : List UInt8 :=
  bytesAt s.buffer.cells 0 s.bufIndex ++ data.take (s.bbufSize - s.bufIndex)

/-- **A block that is complete is sent, and the next one begins, if it is not tiny.** -/
theorem sendBlock_spec (env : Codecs) {s : Sound} {data : List UInt8} (h : Held s data)
    (hfull : s.bbufSize ≤ s.bufIndex + data.length) :
    (¬ Tiny env s (s.completed data) → ∃ s', (s.put (data.take (s.bbufSize - s.bufIndex))).sendBlock env = .ok (s', 0) ∧
        Held s' (data.drop (s.bbufSize - s.bufIndex))) ∧
      (Tiny env s (s.completed data) →
        (s.put (data.take (s.bbufSize - s.bufIndex))).sendBlock env = .error .outOfBounds) := by
  have hrest := h.rest
  have htake : (data.take (s.bbufSize - s.bufIndex)).length = s.bbufSize - s.bufIndex := by
    rw [List.length_take]
    omega
  have hpcm : bytesAt (s.put (data.take (s.bbufSize - s.bufIndex))).buffer.cells 0 s.bbufSize = s.completed data := by
    have hfilled := bytesAt_filled s.buffer.cells s.bufIndex (data.take (s.bbufSize - s.bufIndex))
    rw [htake, Nat.add_sub_cancel' (Nat.le_of_lt hrest)] at hfilled
    exact hfilled
  have hlength : (s.completed data).length = s.bbufSize := by
    rw [← hpcm, bytesAt_length]
  have hchunk := @sendWaveDataChunk_spec env
    { s.put (data.take (s.bbufSize - s.bufIndex)) with
      bufIndex := 0
      blocks := s.blocks ++ [⟨s.bbufSize, s.completed data, s.coded env (s.completed data)⟩] }
    s.bbufSize h.room h.least h.most ⟨s.bbufSize, s.completed data, s.coded env (s.completed data)⟩
    (by rw [← hpcm]; rfl)
  have hblock : (s.put (data.take (s.bbufSize - s.bufIndex))).sendBlock env = sendWaveDataChunk env
      { s.put (data.take (s.bbufSize - s.bufIndex)) with
        bufIndex := 0
        blocks := s.blocks ++ [⟨s.bbufSize, s.completed data, s.coded env (s.completed data)⟩] } s.bbufSize := by
    unfold sendBlock
    dsimp only [put] at hpcm ⊢
    rw [hpcm]
    rfl
  rw [hblock, tiny_iff (by rw [hlength]; exact h.least)]
  constructor
  · intro hsome
    obtain ⟨s', heq, hsent⟩ := hchunk.1 (by simpa using hsome)
    obtain ⟨hleast, hmost⟩ := nextSize_bounds h.least h.most
    refine ⟨s', heq, ?_⟩
    constructor
    case cut =>
      rw [hsent.accepted, hsent.blocks, hsent.index]
      show s.accepted = _
      rw [h.cut]
      simp [completed, bytesAt]
    case rest =>
      rw [hsent.index, hsent.size]
      exact Nat.lt_of_lt_of_le (Nat.succ_pos 3) hleast
    case size =>
      rw [hsent.blocks]
      intro b hb
      rcases List.mem_append.1 hb with hold | hnew
      · exact h.size b hold
      · rw [List.mem_singleton.1 hnew]
        exact hlength
    case sent =>
      obtain ⟨parts, hpdus, hparts⟩ := h.sent
      obtain ⟨info, wave, hpdus', hnew⟩ := hsent.pdus
      rw [hsent.blocks]
      refine ⟨parts ++ [(info, wave)], ?_, List.rel_append hparts (List.Forall₂.cons hnew List.Forall₂.nil)⟩
      rw [hpdus', List.flatMap_append, ← hpdus]
      rfl
    case room => exact hsent.room.trans h.room
    case least =>
      rw [hsent.size]
      exact hleast
    case most =>
      rw [hsent.size]
      exact hmost
  · exact hchunk.2

/-- **The loop comes to an end with all data in order, just if no block is tiny.** -/
theorem sendLoop_iff (env : Codecs) {s : Sound} {data : List UInt8} (h : Held s data) {n : Nat}
    (hn : data.length ≤ n) :
    (LoopFits env n s data → ∃ s', sendLoop env n s data = .ok (s', 0) ∧ Held s' []) ∧
      (¬ LoopFits env n s data → ∀ r, sendLoop env n s data ≠ .ok r) := by
  induction n generalizing s data with
  | zero =>
    obtain rfl : data = [] := List.length_eq_zero_iff.1 (Nat.le_zero.1 hn)
    exact ⟨fun _ => ⟨s, rfl, h⟩, fun hnot => absurd trivial hnot⟩
  | succ n ih =>
    have hrest := h.rest
    by_cases hfull : s.bbufSize ≤ s.bufIndex + data.length
    · have hlength : (data.drop (s.bbufSize - s.bufIndex)).length ≤ n := by
        rw [List.length_drop]
        omega
      obtain ⟨hsends, hstops⟩ := sendBlock_spec env h hfull
      have hmost : s.bbufSize ≤ s.buffer.size := by
        rw [h.room]
        exact h.most
      rw [sendLoop_full env hrest hmost hfull]
      by_cases htiny : Tiny env s (s.completed data)
      · rw [hstops htiny]
        exact ⟨fun hfits => absurd htiny (hfits hfull).1, fun _ r hr => nomatch hr⟩
      · obtain ⟨s', heq, hheld⟩ := hsends htiny
        -- the state after the block
        have hone : ∀ s'', sendLoop env 1 s (data.take (s.bbufSize - s.bufIndex)) = .ok (s'', 0) ↔ s' = s'' := by
          intro s''
          have htake : (data.take (s.bbufSize - s.bufIndex)).length = s.bbufSize - s.bufIndex := by
            rw [List.length_take]
            omega
          rw [sendLoop_full env hrest hmost (by omega), List.take_take, Nat.min_self, heq,
            List.drop_eq_nil_of_le (Nat.le_of_eq htake)]
          simp [sendLoop]
        have hfits : LoopFits env (n + 1) s data ↔ LoopFits env n s' (data.drop (s.bbufSize - s.bufIndex)) := by
          constructor
          · exact fun hfits => (hfits hfull).2 s' ((hone s').2 rfl)
          · intro hfits _
            refine ⟨htiny, fun s'' hs'' => ?_⟩
            rwa [← (hone s'').1 hs'']
        rw [heq, hfits]
        exact ih hheld hlength
    · refine ⟨fun _ => ?_, fun hnot => absurd (fun h' => absurd h' hfull) hnot⟩
      by_cases hne : data = []
      · subst hne
        exact ⟨s, rfl, h⟩
      · exact ⟨_, sendLoop_part h hne (Nat.lt_of_not_le hfull) n⟩

theorem sendLoop_of_tiny {env : Codecs} {s : Sound} {data : List UInt8} (h : Held s data)
    (hfull : s.bbufSize ≤ s.bufIndex + data.length) (htiny : Tiny env s (s.completed data)) {n : Nat}
    (hn : data.length ≤ n) : ∀ r, sendLoop env n s data ≠ .ok r := by
  refine (sendLoop_iff env h hn).2 fun hfits => ?_
  cases n with
  | zero =>
    have hrest := h.rest
    omega
  | succ n => exact (hfits hfull).1 htiny

theorem taken_length_le (s : Sound) (data : List UInt8) : (s.taken data).length ≤ data.length := by
  unfold taken
  split_ifs
  · rw [List.length_replicate]
    omega
  · exact Nat.le_refl _

theorem Held.begun {s : Sound} (h : Held s []) (data : List UInt8) : Held (s.begun data) (s.taken data) where
  cut := by
    have hcut := h.cut
    rw [List.append_nil] at hcut
    show s.accepted ++ s.taken data = _
    rw [hcut]
    rfl
  rest := h.rest
  size := h.size
  sent := h.sent
  room := h.room
  least := h.least
  most := h.most

theorem held_start : Held start [] where
  cut := rfl
  rest := by decide
  size _ h := nomatch h
  sent := ⟨[], rfl, .nil⟩
  room := rfl
  least := by decide
  most := by decide

end Sound

/-! ## Runs -/

open Sound

theorem step_iff (env : Codecs) {s : Sound} (h : Held s []) (e : Event) :
    StepIff (Next env) Ok (fun s => Held s []) (Fits env) s e := by
  have hdet : ∀ s e s₁ s₂, Next env s e s₁ → Next env s e s₂ → s₁ = s₂ := by
    intro s e s₁ s₂ h₁ h₂
    exact (Prod.mk.inj (Except.ok.inj (h₁.symm.trans h₂))).1
  have hfine : ∀ s', Next env s e s' → Held s' [] → Fits env s e →
      StepIff (Next env) Ok (fun s => Held s []) (Fits env) s e := by
    intro s' hnext hheld hfits
    exact .of_next hdet hnext (iff_of_true hheld.ok hfits) fun _ => hheld
  cases e with
  | pcm data =>
    obtain ⟨hgoes, hstops⟩ := sendLoop_iff env (h.begun data) (taken_length_le s data)
    by_cases hfits : Fits env s (.pcm data)
    · obtain ⟨s', heq, hheld⟩ := hgoes hfits
      exact hfine s' heq hheld hfits
    · exact .of_stuck (fun s' => hstops hfits (s', 0)) hfits
  | close =>
    have hleast := h.least
    refine hfine _ rfl ⟨rfl, ?_, fun _ hb => (nomatch hb), ⟨[], rfl, .nil⟩, h.room, hleast, h.most⟩ trivial
    exact Nat.lt_of_lt_of_le (Nat.succ_pos 3) hleast
  | formats clientDoes clientIndex current =>
    exact hfine _ rfl ⟨h.cut, h.rest, h.size, h.sent, h.room, h.least, h.most⟩ trivial
  | confirm timeDiff bestTimeDiff =>
    exact hfine _ rfl ⟨h.cut, h.rest, h.size, h.sent, h.room, h.least, h.most⟩ trivial

/-- **All data is sent in blocks, just as long as no codec makes less than four bytes of a block.** -/
theorem blocks_right_iff (env : Codecs) (es : List Event) :
    RunRight env es ↔ AllFit (Next env) (Fits env) .start es := by
  refine always_iff ?_ (fun s h => Held.ok h) (fun s e h => step_iff env h e) held_start es
  intro s e s₁ s₂ h₁ h₂
  exact (Prod.mk.inj (Except.ok.inj (h₁.symm.trans h₂))).1

/-- Codecs that make nothing of a block, as an AAC encoder does of the first one. -/
def silent : Codecs where
  built := fun _ => true
  opens := fun _ _ => .ready
  encode := fun _ _ _ _ => some []
  time := fun _ => 0
  encode_le := by
    intro c n input room out h
    cases h
    exact Nat.zero_le room

/-- A block of which the encoder makes nothing. -/
theorem empty_block_not_right : ¬ RunRight silent
    [.formats (fun _ => true) (fun _ => 2) 0, .pcm (List.replicate 8192 0)] := by
  have hlength : (List.replicate 8192 (0 : UInt8)).length = 8192 := List.length_replicate
  generalize List.replicate 8192 (0 : UInt8) = data at hlength
  intro h
  obtain ⟨s', ⟨s, hformats, s'', hpcm, -⟩, -⟩ := h _ (List.prefix_refl _)
  cases hformats
  have hheld : Held { Sound.start with clientDoes := fun _ => true, clientIndex := fun _ => 2 } [] :=
    ⟨held_start.cut, held_start.rest, held_start.size, held_start.sent, held_start.room, held_start.least,
      held_start.most⟩
  have htaken : taken { Sound.start with clientDoes := fun _ => true, clientIndex := fun _ => 2 } data = data :=
    if_neg (by decide)
  have hbegun := hheld.begun data
  refine sendLoop_of_tiny hbegun ?_ ⟨[], rfl, Nat.succ_pos 3⟩ (taken_length_le _ _) _ hpcm
  rw [htaken, hlength]
  exact Nat.le_refl 8192

end Xrdp.Chansrv.SoundBlocks
