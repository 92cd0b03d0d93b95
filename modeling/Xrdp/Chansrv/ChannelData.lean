import Xrdp.Chansrv.ChannelOutput

/-!
# Channel data for the channel server

A chunk of a static channel, from the client's PDU to the handlers of the channel server.

* `xrdpChannelProcess_ok`, `long_chunk_overruns` — the message for a chunk, and which chunks have
  room in the stream.
* `processMessage_channelData` — what `process_message` makes of it.
* `channel_data_arrives` — a chunk that has room arrives.
-/

namespace Xrdp.Chansrv

open Wire

/-- A number stored in an `int`. -/
def toInt (n : Nat) : Int :=
  if n % 2 ^ 32 < 2 ^ 31 then (n % 2 ^ 32 : Nat) else (n % 2 ^ 32 : Nat) - 2 ^ 32

/-- A little-endian field read without a check. -/
def readLe (n : Nat) (s : List UInt8) : Run (Nat × List UInt8) :=
  match getLe n s with
  | none => .error .outOfBounds
  | some r => .ok r

/-! ## In xrdp -/

def LOWORD (n : Nat) : Nat := n % 65536
def HIWORD (n : Nat) : Nat := n / 65536 % 65536
def MAKELONG (lo hi : Nat) : Nat := hi % 65536 * 65536 + lo % 65536

/-- The message of `xrdp_mm_process_channel_data`. -/
def channelDataMessage (id flags : Nat) (totalLength : Int) (data : List UInt8) : List UInt8 :=
  leBytes 4 0 ++ leBytes 4 (8 + 8 + 2 + 2 + 2 + 4 + data.length) ++ leBytes 4 5 ++
    leBytes 4 (8 + 2 + 2 + 2 + 4 + data.length) ++ leBytes 2 id ++ leBytes 2 flags ++
    leBytes 2 data.length ++ leBytes 4 (totalLength % 2 ^ 32).toNat ++ data

/-- The memory of `chan_trans`'s output stream, which every user of it asks for. -/
def chanTransOutSize : Nat := 8192

/-- `xrdp_mm_process_channel_data`: what is written to `chan_trans`. -/
def xrdpMmProcessChannelData (chanTransUp : Bool) (param1 : Nat) (param2 : Int)
    (param3 : List UInt8) (param4 : Int) : Run (Option (List UInt8)) :=
  if chanTransUp then
    let id := LOWORD param1
    let flags := HIWORD param1
    let length := param2
    let totalLength := if param4 < length then length else param4
    if 0 ≤ length ∧ length ≤ param3.length ∧ 26 + length ≤ chanTransOutSize then
      .ok (some (channelDataMessage id flags totalLength (param3.take length.toNat)))
    else .error .outOfBounds
  else .ok none

/-- `xrdp_channel_process` and `xrdp_channel_call_callback`: a chunk of a channel other than the one
for dynamic channels. -/
def xrdpChannelProcess (chanTransUp : Bool) (channelId : UInt16) (s : List UInt8) :
    Run (Option (List UInt8)) := do
  let (length, s) ← readLe 4 s
  let (flags, s) ← readLe 4 s
  xrdpMmProcessChannelData chanTransUp (MAKELONG channelId.toNat flags) s.length s (toInt length)

/-! ## In the channel server -/

/-- What a handler of channel data is given; `data` is what is left of the stream. -/
structure ChannelDataIn where
  chanId : Nat
  chanFlags : Nat
  length : Nat
  totalLength : Int
  data : List UInt8
  deriving DecidableEq

/-- `process_message_channel_data`. -/
def processMessageChannelData (s : List UInt8) : Run ChannelDataIn := do
  let (chanId, s) ← readLe 2 s
  let (chanFlags, s) ← readLe 2 s
  let (length, s) ← readLe 2 s
  let (totalLength, s) ← readLe 4 s
  pure ⟨chanId, chanFlags, length, toInt totalLength, s⟩

/-- `process_message` from `p` on: the channel data it hands out.  What it does with other messages
is left out. -/
def processMessage (s : List UInt8) : Nat → Int → Run (List ChannelDataIn)
  | 0, _ => .error .outOfFuel
  | fuel + 1, p =>
    if p + 8 ≤ s.length then
      if p < 0 then .error .outOfBounds
      else do
        let (id, rest) ← readLe 4 (s.drop p.toNat)
        let (size, rest) ← readLe 4 rest
        let nextMsg := p + toInt size
        if id = 5 then
          let call ← processMessageChannelData rest
          let calls ← processMessage s fuel nextMsg
          pure (call :: calls)
        else processMessage s fuel nextMsg
    else .ok []

/-- The memory of the input stream of `g_con_trans`. -/
def conTransInSize : Nat := 8192

/-- `my_trans_data_in`, which has eight bytes of `sck` and reads the others of the message. -/
def myTransDataIn (sck : List UInt8) : Run (Option (List ChannelDataIn)) := do
  let (_id, s) ← readLe 4 sck
  let (size, s) ← readLe 4 s
  let size := toInt size - 8
  if 0 < size ∧ (8 + size > conTransInSize ∨ size > s.length) then pure none
  else
    let inS := sck.take (8 + size.toNat)
    let calls ← processMessage inS (inS.length + 1) 8
    pure (some calls)

/-! ## The message -/

theorem readLe_leBytes {n v : Nat} (h : v < 256 ^ n) (rest : List UInt8) :
    readLe n (leBytes n v ++ rest) = .ok (v, rest) := by
  rw [readLe, getLe_leBytes, Nat.mod_eq_of_lt h]

theorem toInt_of_lt {n : Nat} (h : n < 2 ^ 31) : toInt n = n := by
  rw [toInt, Nat.mod_eq_of_lt (by omega), if_pos h]

theorem toInt_unsigned (n : Int) (hlo : -2 ^ 31 ≤ n) (hhi : n < 2 ^ 31) :
    toInt (n % 2 ^ 32).toNat = n := by
  rw [toInt]
  split <;> omega

theorem toInt_range (n : Nat) : -2 ^ 31 ≤ toInt n ∧ toInt n < 2 ^ 31 := by
  rw [toInt]
  split <;> omega

theorem word_MAKELONG (lo hi : Nat) :
    LOWORD (MAKELONG lo hi) = lo % 65536 ∧ HIWORD (MAKELONG lo hi) = hi % 65536 := by
  rw [LOWORD, HIWORD, MAKELONG]
  omega

theorem channelDataMessage_length (id flags : Nat) (totalLength : Int) (data : List UInt8) :
    (channelDataMessage id flags totalLength data).length = 26 + data.length := by
  simp only [channelDataMessage, List.length_append, leBytes_length]

/-- `n` bytes from `off` on. -/
def fieldAt (bytes : List UInt8) (off n : Nat) : Option Nat :=
  (getLe n (bytes.drop off)).map Prod.fst

/-- The two sizes and the length of the data say what is there. -/
structure SizesAgree (message data : List UInt8) : Prop where
  size : fieldAt message 4 4 = some message.length
  msgSize : fieldAt message 12 4 = some (message.length - 8)
  length : fieldAt message 20 2 = some data.length

theorem fieldAt_append {before rest : List UInt8} {off n v : Nat} (hoff : before.length = off)
    (hv : v < 256 ^ n) : fieldAt (before ++ (leBytes n v ++ rest)) off n = some v := by
  rw [fieldAt, ← hoff, List.drop_left, getLe_leBytes, Nat.mod_eq_of_lt hv]
  rfl

theorem channelDataMessage_sizes (id flags : Nat) (totalLength : Int) {data : List UInt8}
    (h : data.length < 65536) :
    SizesAgree (channelDataMessage id flags totalLength data) data where
  size := by
    rw [channelDataMessage_length, channelDataMessage]
    simp only [List.append_assoc]
    exact fieldAt_append (leBytes_length 4 0) (by omega)
  msgSize := by
    have hsplit : channelDataMessage id flags totalLength data =
        (leBytes 4 0 ++ leBytes 4 (8 + 8 + 2 + 2 + 2 + 4 + data.length) ++ leBytes 4 5) ++
          (leBytes 4 (8 + 2 + 2 + 2 + 4 + data.length) ++ (leBytes 2 id ++ leBytes 2 flags ++
            leBytes 2 data.length ++ leBytes 4 (totalLength % 2 ^ 32).toNat ++ data)) := by
      simp only [channelDataMessage, List.append_assoc]
    rw [channelDataMessage_length, hsplit, fieldAt_append (by simp) (by omega)]
    congr 1
    omega
  length := by
    have hsplit : channelDataMessage id flags totalLength data =
        (leBytes 4 0 ++ leBytes 4 (8 + 8 + 2 + 2 + 2 + 4 + data.length) ++ leBytes 4 5 ++
          leBytes 4 (8 + 2 + 2 + 2 + 4 + data.length) ++ leBytes 2 id ++ leBytes 2 flags) ++
          (leBytes 2 data.length ++ (leBytes 4 (totalLength % 2 ^ 32).toNat ++ data)) := by
      simp only [channelDataMessage, List.append_assoc]
    rw [hsplit]
    exact fieldAt_append (by simp) (by omega)

/-! ## Which chunks have room -/

/-- The bytes of a chunk, behind the header of its PDU. -/
def chunkPdu (totalLength flags : UInt32) (data : List UInt8) : List UInt8 :=
  leBytes 4 totalLength.toNat ++ (leBytes 4 flags.toNat ++ data)

section

variable {channelId : UInt16} {totalLength flags : UInt32} {data : List UInt8}

theorem xrdpChannelProcess_chunkPdu (chanTransUp : Bool) (channelId : UInt16)
    (totalLength flags : UInt32) (data : List UInt8) :
    xrdpChannelProcess chanTransUp channelId (chunkPdu totalLength flags data) =
      xrdpMmProcessChannelData chanTransUp (MAKELONG channelId.toNat flags.toNat) data.length data
        (toInt totalLength.toNat) := by
  rw [xrdpChannelProcess, chunkPdu, readLe_leBytes totalLength.toNat_lt, Run.ok_bind]
  dsimp only
  rw [readLe_leBytes flags.toNat_lt, Run.ok_bind]

/-- A total length that is less than the length of the chunk is replaced by that. -/
theorem xrdpChannelProcess_ok (hlen : data.length ≤ 8166) :
    xrdpChannelProcess true channelId (chunkPdu totalLength flags data) =
      .ok (some (channelDataMessage channelId.toNat (flags.toNat % 65536)
        (max (toInt totalLength.toNat) data.length) data)) := by
  have hid : channelId.toNat % 65536 = channelId.toNat := Nat.mod_eq_of_lt channelId.toNat_lt
  have hfits : 0 ≤ (data.length : Int) ∧ (data.length : Int) ≤ data.length ∧
      26 + (data.length : Int) ≤ chanTransOutSize := by
    rw [chanTransOutSize]
    omega
  rw [xrdpChannelProcess_chunkPdu, xrdpMmProcessChannelData, if_pos rfl]
  dsimp only
  rw [if_pos hfits, (word_MAKELONG _ _).1, (word_MAKELONG _ _).2, hid, Int.toNat_natCast,
    List.take_length]
  congr 3
  omega

/-- **A longer chunk is written over the end of the stream.** -/
theorem long_chunk_overruns (hlen : 8166 < data.length) :
    xrdpChannelProcess true channelId (chunkPdu totalLength flags data) = .error .outOfBounds := by
  rw [xrdpChannelProcess_chunkPdu, xrdpMmProcessChannelData, if_pos rfl]
  dsimp only
  rw [if_neg]
  rw [chanTransOutSize]
  omega

end

/-! ## What arrives -/

/-- `process_message_channel_data` reads the fields that were written. -/
theorem processMessageChannelData_fields {id flags : Nat} {totalLength : Int} {data : List UInt8}
    (hid : id < 65536) (hflags : flags < 65536) (hdata : data.length < 65536)
    (hlo : -2 ^ 31 ≤ totalLength) (hhi : totalLength < 2 ^ 31) :
    processMessageChannelData (leBytes 2 id ++ (leBytes 2 flags ++ (leBytes 2 data.length ++
      (leBytes 4 (totalLength % 2 ^ 32).toNat ++ data)))) =
      .ok ⟨id, flags, data.length, totalLength, data⟩ := by
  rw [processMessageChannelData, readLe_leBytes hid, Run.ok_bind]
  dsimp only
  rw [readLe_leBytes hflags, Run.ok_bind]
  dsimp only
  rw [readLe_leBytes hdata, Run.ok_bind]
  dsimp only
  rw [readLe_leBytes (by omega), Run.ok_bind]
  dsimp only
  rw [toInt_unsigned totalLength hlo hhi]
  rfl

/-- `process_message` hands out what the one message has. -/
theorem processMessage_channelData {id flags : Nat} {totalLength : Int} {data : List UInt8}
    (hid : id < 65536) (hflags : flags < 65536) (hdata : data.length < 65536)
    (hlo : -2 ^ 31 ≤ totalLength) (hhi : totalLength < 2 ^ 31) (fuel : Nat) :
    processMessage (channelDataMessage id flags totalLength data) (fuel + 2) 8 =
      .ok [⟨id, flags, data.length, totalLength, data⟩] := by
  obtain ⟨message, hmessage⟩ : ∃ m, m = channelDataMessage id flags totalLength data := ⟨_, rfl⟩
  have hlength : message.length = 26 + data.length := by
    rw [hmessage, channelDataMessage_length]
  have hbody : message.drop (8 : Int).toNat = leBytes 4 5 ++
      (leBytes 4 (8 + 2 + 2 + 2 + 4 + data.length) ++ (leBytes 2 id ++ (leBytes 2 flags ++
        (leBytes 2 data.length ++ (leBytes 4 (totalLength % 2 ^ 32).toNat ++ data))))) := by
    rw [hmessage, channelDataMessage]
    simp only [List.append_assoc]
    rw [← List.append_assoc]
    exact List.drop_left' (by simp)
  have hnext : toInt (8 + 2 + 2 + 2 + 4 + data.length) = 18 + data.length := by
    rw [toInt_of_lt (by omega)]
    omega
  rw [← hmessage, processMessage, if_pos (by omega), if_neg (by decide), hbody,
    readLe_leBytes (by decide), Run.ok_bind]
  dsimp only
  rw [readLe_leBytes (by omega), Run.ok_bind]
  dsimp only
  rw [if_pos rfl, processMessageChannelData_fields hid hflags hdata hlo hhi, Run.ok_bind, hnext,
    processMessage, if_neg (by omega)]
  rfl

/-- **Channel data arrives.**  The message for a chunk of at most 8166 bytes has room, its sizes are
right, and whatever follows it, the channel server's handlers are given the chunk: its channel, the
low half of its flags, its data and the greater of its total length and its length. -/
theorem channel_data_arrives (channelId : UInt16) (totalLength flags : UInt32) (data : List UInt8)
    (hlen : data.length ≤ 8166) :
    ∃ message, xrdpChannelProcess true channelId (chunkPdu totalLength flags data) =
        .ok (some message) ∧ message.length ≤ chanTransOutSize ∧ SizesAgree message data ∧
      ∀ rest, myTransDataIn (message ++ rest) =
        .ok (some [⟨channelId.toNat, flags.toNat % 65536, data.length,
          max (toInt totalLength.toNat) data.length, data⟩]) := by
  have hrange := toInt_range totalLength.toNat
  obtain ⟨message, hmessage⟩ : ∃ m, m = channelDataMessage channelId.toNat (flags.toNat % 65536)
    (max (toInt totalLength.toNat) data.length) data := ⟨_, rfl⟩
  have hlength : message.length = 26 + data.length := by
    rw [hmessage, channelDataMessage_length]
  refine ⟨message, ?_, ?_, ?_, fun rest => ?_⟩
  · rw [hmessage]
    exact xrdpChannelProcess_ok hlen
  · rw [chanTransOutSize]
    omega
  · rw [hmessage]
    exact channelDataMessage_sizes _ _ _ (by omega)
  · obtain ⟨tail, htail⟩ : ∃ tail, message =
        leBytes 4 0 ++ (leBytes 4 (8 + 8 + 2 + 2 + 2 + 4 + data.length) ++ tail) := by
      refine ⟨leBytes 4 5 ++ (leBytes 4 (8 + 2 + 2 + 2 + 4 + data.length) ++
        (leBytes 2 channelId.toNat ++ (leBytes 2 (flags.toNat % 65536) ++ (leBytes 2 data.length ++
          (leBytes 4 (max (toInt totalLength.toNat) data.length % 2 ^ 32).toNat ++ data))))), ?_⟩
      simp only [hmessage, channelDataMessage, List.append_assoc]
    have hlenTail : tail.length = 18 + data.length := by
      rw [htail, List.length_append, List.length_append, leBytes_length, leBytes_length] at hlength
      omega
    have hhead : message ++ rest =
        leBytes 4 0 ++ (leBytes 4 (8 + 8 + 2 + 2 + 2 + 4 + data.length) ++ (tail ++ rest)) := by
      rw [htail, List.append_assoc, List.append_assoc]
    have hsize : toInt (8 + 8 + 2 + 2 + 2 + 4 + data.length) - 8 = 18 + data.length := by
      rw [toInt_of_lt (by omega)]
      omega
    have htake : (message ++ rest).take (8 + (18 + (data.length : Int)).toNat) = message :=
      List.take_left' (by omega)
    have hroom : ¬(0 < 18 + (data.length : Int) ∧ (8 + (18 + (data.length : Int)) > conTransInSize ∨
        18 + (data.length : Int) > (tail ++ rest).length)) := by
      rw [conTransInSize, List.length_append]
      omega
    have hfuel : message.length + 1 = (data.length + 25) + 2 := by omega
    rw [myTransDataIn, hhead, readLe_leBytes (by decide), Run.ok_bind]
    dsimp only
    rw [readLe_leBytes (by omega), Run.ok_bind]
    dsimp only
    rw [hsize, if_neg hroom, ← hhead, htake, hfuel, hmessage,
      processMessage_channelData channelId.toNat_lt (by omega) (by omega) (by omega) (by omega)]
    rfl

theorem channel_data_arrives_short :
    ∃ message, xrdpChannelProcess true 2 (chunkPdu 5 3 [1, 2, 3, 4, 5]) = .ok (some message) ∧
      message.length ≤ chanTransOutSize ∧ SizesAgree message [1, 2, 3, 4, 5] ∧
      ∀ rest, myTransDataIn (message ++ rest) = .ok (some [⟨2, 3, 5, 5, [1, 2, 3, 4, 5]⟩]) :=
  channel_data_arrives 2 5 3 [1, 2, 3, 4, 5] (by decide)

/-- The chunk arrives with the total length and the flags that the client sent. -/
def ArrivesUnchanged (channelId : UInt16) (totalLength flags : UInt32) (data : List UInt8) : Prop :=
  ∃ message, xrdpChannelProcess true channelId (chunkPdu totalLength flags data) =
      .ok (some message) ∧ message.length ≤ chanTransOutSize ∧ SizesAgree message data ∧
    myTransDataIn message =
      .ok (some [⟨channelId.toNat, flags.toNat, data.length, totalLength.toNat, data⟩])

/-- A total length of zero for a byte of data is replaced, and a chunk of 8167 bytes has no room. -/
theorem chunk_changed_or_too_long :
    ¬ArrivesUnchanged 0 0 0 [7] ∧ ¬ArrivesUnchanged 0 8167 0 (List.replicate 8167 0) := by
  constructor
  · rintro ⟨message, hprocess, -, -, harrives⟩
    rw [xrdpChannelProcess_ok (by decide)] at hprocess
    injection hprocess with hprocess
    injection hprocess with hprocess
    rw [← hprocess] at harrives
    revert harrives
    decide
  · rintro ⟨message, hprocess, -⟩
    rw [long_chunk_overruns (by rw [List.length_replicate]; decide)] at hprocess
    cases hprocess

end Xrdp.Chansrv
