import Xrdp.Lib.Runs
import Xrdp.Lib.Yields
import Xrdp.Memory
import Xrdp.Vnc.VncInput

/-!
# The clipboard of a VNC server

Texts that the server sends are kept, and given to the client when it asks (`vnc/vnc.c`).  What a text
is sent with is a stream of 8192 bytes, which is not looked at for room.

* `ClipRelay`, `libProcessChannelData` — the requests of the client.
* `DataRequest.Right` — what an answer should be.
* `vnc_clip_iff` — the texts and requests with which all answers are right.
-/

namespace Xrdp.VncClient

open Wire Runs

/-! ## Requests -/

/-- What is sent to the channel: its bytes, the whole length that is said, and flags. -/
structure Sent where
  bytes : List UInt8
  total : Nat
  flags : Nat
  deriving DecidableEq, Repr

/-- A request for data, with the text that has been kept by then and the answer. -/
structure DataRequest where
  format : Nat
  text : Option ClipData
  answer : Option Sent
  deriving DecidableEq, Repr

/-- The module, with what has been answered, and what has gone to the server. -/
structure ClipRelay where
  vnc : Vnc
  formatAcks : List Sent
  requests : List DataRequest
  cutTexts : List (List UInt8)

/-- Bytes are put into a stream with so much room. -/
def outBytes (room : Nat) (s bytes : List UInt8) : Run (List UInt8) :=
  if s.length + bytes.length ≤ room then .ok (s ++ bytes) else .error .outOfBounds

/-- A chunk of one piece. -/
def sendToChannel (bytes : List UInt8) : Sent := ⟨bytes, bytes.length, 3⟩

/-- A character of a format. -/
def outChar (wide : Bool) (c : UInt8) : List UInt8 := if wide then [c, 0] else [c]

/-- `clip_data_s->data[index]`. -/
def ClipData.char (clip : ClipData) (index : Nat) : Run UInt8 :=
  match clip.data[index]? with
  | some c => .ok c
  | none => .error .outOfBounds

/-- One pass of the loop over the characters. -/
def outNext (clip : ClipData) (wide : Bool) (s : List UInt8) (index : Nat) : Run (List UInt8) := do
  let c ← clip.char index
  outBytes 8192 s (outChar wide c)

/-- The loop over the characters; `clip_data_s->size` of them are taken to be there. -/
def outText (clip : ClipData) (wide : Bool) (s : List UInt8) : Run (List UInt8) :=
  (List.range clip.size).foldlM (outNext clip wide) s

/-- The answer to `CLIPRDR_DATA_REQUEST`. -/
def dataResponse (clip : ClipData) (wide : Bool) : Run Sent := do
  let s ← outBytes 8192 [] (leBytes 2 5 ++ leBytes 2 1)
  let s ← outBytes 8192 s (leBytes 4 (if wide then clip.size * 2 + 2 else clip.size + 1))
  let s ← outText clip wide s
  let s ← outBytes 8192 s (if wide then [0, 0] else [0])
  let s ← outBytes 8192 s [0, 0, 0, 0]
  return sendToChannel s

namespace ClipRelay

/-- `CLIPRDR_FORMAT_ANNOUNCE`. -/
def formatAnnounce (r : ClipRelay) : ClipRelay :=
  { r with formatAcks := r.formatAcks ++
      [sendToChannel (leBytes 2 3 ++ leBytes 2 1 ++ leBytes 4 0 ++ [0, 0, 0, 0])] }

/-- `CLIPRDR_DATA_REQUEST`: only two formats are answered. -/
def dataRequest (r : ClipRelay) (format : Nat) : Run ClipRelay :=
  let answered (answer : Option Sent) : ClipRelay :=
    { r with requests := r.requests ++ [⟨format, r.vnc.clipDataS, answer⟩] }
  if format ≠ 1 ∧ format ≠ 13 then .ok (answered none)
  else match r.vnc.clipDataS with
    | none => .error .outOfBounds
    | some clip => do
      let sent ← dataResponse clip (format == 13)
      return answered (some sent)

/-- `CLIPRDR_DATA_RESPONSE`: the bytes behind the header become a text for the server. -/
def clientCutText (r : ClipRelay) (length : Int) (bytes : List UInt8) : Run ClipRelay := do
  let clipBytes := min length 256
  let room := (clipBytes + 24).toNat
  let s ← outBytes room [] ([6, 0, 0, 0] ++ beBytes 4 (clipBytes % 2 ^ 32).toNat)
  if clipBytes.toNat ≤ bytes.length then
    let s ← outBytes room s (bytes.take clipBytes.toNat)
    return { r with cutTexts := r.cutTexts ++ [s] }
  else .error .outOfBounds

/-- `lib_process_channel_data` of a chunk. -/
def libProcessChannelData (r : ClipRelay) (bytes : List UInt8) : Run ClipRelay :=
  if bytes.length < 8 then .error .outOfBounds
  else
    let type := leVal (bytes.take 2)
    let length := int32 (leVal ((bytes.drop 4).take 4))
    if type = 2 then .ok r.formatAnnounce
    else if type = 4 then
      if length < 4 then r.dataRequest 0
      else if bytes.length < 12 then .error .outOfBounds
      else r.dataRequest (leVal ((bytes.drop 8).take 4))
    else if type = 5 then r.clientCutText length (bytes.drop 8)
    else .ok r

end ClipRelay

/-- What happens: the server sends a text, of which this comes, or the client sends a chunk. -/
inductive ClipEvent where
  | clipText (incoming : List UInt8) (fails : Nat → Bool)
  | channelData (bytes : List UInt8)

/-- What comes of an event; an error of a text closes the connection. -/
def ClipRelay.step (r : ClipRelay) : ClipEvent → Run ClipRelay
  | .clipText incoming fails => .ok { r with
      vnc := { r.vnc with incoming := 3 :: incoming }.libDataIn fails }
  | .channelData bytes => r.libProcessChannelData bytes

def ClipNext (r : ClipRelay) (e : ClipEvent) (r' : ClipRelay) : Prop := r.step e = .ok r'

/-! ## What is promised -/

/-- A text in a format, with its end. -/
def encodeText (wide : Bool) (text : List UInt8) : List UInt8 :=
  text.flatMap (outChar wide) ++ if wide then [0, 0] else [0]

/-- A response that is of one piece, says its length and has this text. -/
def Carries (sent : Sent) (wide : Bool) (text : List UInt8) : Prop :=
  sent = sendToChannel (leBytes 2 5 ++ leBytes 2 1 ++ leBytes 4 (encodeText wide text).length ++
    encodeText wide text ++ [0, 0, 0, 0])

/-- It says that it has failed. -/
def Failed (sent : Sent) : Prop := sent.bytes.take 4 = leBytes 2 5 ++ leBytes 2 2

/-- With a text that has been kept, a request for one of the two formats has the whole text as its
answer; without any, each request has an answer that is empty or has failed. -/
def DataRequest.Right (q : DataRequest) : Prop :=
  match q.text with
  | none => ∃ sent, q.answer = some sent ∧ (Failed sent ∨ Carries sent (q.format == 13) [])
  | some clip =>
    (q.format = 1 ∨ q.format = 13 → q.answer ≠ none) ∧
      ∀ sent, q.answer = some sent →
        clip.data.length = clip.said ∧ Carries sent (q.format == 13) clip.data

/-- All answers are right. -/
def ClipRelay.Holds (r : ClipRelay) : Prop := ∀ q ∈ r.requests, q.Right

/-! ## When it holds -/

/-- A text has been kept, and for the two formats it is whole and has room in the stream. -/
def RequestFits (clip : Option ClipData) (format : Nat) : Prop :=
  match clip with
  | none => False
  | some clip => (format = 1 → clip.data.length = clip.said ∧ clip.said + 13 ≤ 8192) ∧
    (format = 13 → clip.data.length = clip.said ∧ 2 * clip.said + 14 ≤ 8192)

/-- A chunk has what its header says. -/
def ChunkFits (clip : Option ClipData) (bytes : List UInt8) : Prop :=
  8 ≤ bytes.length ∧
    if leVal (bytes.take 2) = 4 then
      if int32 (leVal ((bytes.drop 4).take 4)) < 4 then RequestFits clip 0
      else 12 ≤ bytes.length ∧ RequestFits clip (leVal ((bytes.drop 8).take 4))
    else if leVal (bytes.take 2) = 5 then
      -16 ≤ int32 (leVal ((bytes.drop 4).take 4)) ∧
        min (int32 (leVal ((bytes.drop 4).take 4))) 256 ≤ (bytes.length - 8 : Nat)
    else True

/-- The condition on an event: one on chunks, with the text that has been kept. -/
def ClipRelay.EventFits (r : ClipRelay) : ClipEvent → Prop
  | .clipText _ _ => True
  | .channelData bytes => ChunkFits r.vnc.clipDataS bytes

/-! ## Responses -/

/-- The bytes of a character. -/
def charSize (wide : Bool) : Nat := if wide then 2 else 1

@[simp] theorem outChar_length (wide : Bool) (c : UInt8) : (outChar wide c).length = charSize wide := by
  cases wide <;> rfl

@[simp] theorem chars_length (wide : Bool) (text : List UInt8) :
    (text.flatMap (outChar wide)).length = charSize wide * text.length := by
  simp [List.length_flatMap, Nat.mul_comm]

theorem encodeText_length (wide : Bool) (text : List UInt8) :
    (encodeText wide text).length = if wide then text.length * 2 + 2 else text.length + 1 := by
  cases wide <;> simp [encodeText, charSize]

theorem outBytes_bind {β : Type} {room : Nat} {s bytes : List UInt8} {f : List UInt8 → Run β}
    {P : β → Prop} :
    (outBytes room s bytes >>= f).Yields P ↔
      s.length + bytes.length ≤ room ∧ (f (s ++ bytes)).Yields P :=
  Except.yields_guard_bind

/-- The loop over the first characters. -/
theorem outChars_yields (clip : ClipData) (wide : Bool) {s : List UInt8} (hs : s.length ≤ 8192) (n : Nat)
    (P : List UInt8 → Prop) :
    ((List.range n).foldlM (outNext clip wide) s).Yields P ↔
      n ≤ clip.data.length ∧ s.length + charSize wide * n ≤ 8192 ∧
        P (s ++ (clip.data.take n).flatMap (outChar wide)) := by
  induction n generalizing P with
  | zero => simp [hs]
  | succ n ih =>
    rw [List.range_succ, List.foldlM_append, Except.yields_bind, ih]
    simp only [List.foldlM_cons, List.foldlM_nil, bind_pure, outNext, ClipData.char]
    rcases Nat.lt_or_ge n clip.data.length with hlt | hge
    · rw [List.getElem?_eq_getElem hlt]
      simp only [Run.ok_bind]
      rw [outBytes, Except.yields_guard, List.take_add_one, List.getElem?_eq_getElem hlt]
      have hlength : (s ++ (clip.data.take n).flatMap (outChar wide)).length =
          s.length + charSize wide * n := by
        rw [List.length_append, chars_length, List.length_take, Nat.min_eq_left hlt.le]
      rw [hlength, outChar_length, Nat.mul_add, Nat.mul_one, ← Nat.add_assoc]
      simp only [Option.toList_some, List.flatMap_append, List.flatMap_cons, List.flatMap_nil,
        List.append_nil, List.append_assoc]
      constructor
      · rintro ⟨-, -, hroom, hP⟩
        exact ⟨hlt, hroom, hP⟩
      · rintro ⟨-, hroom, hP⟩
        exact ⟨hlt.le, by omega, hroom, hP⟩
    · rw [List.getElem?_eq_none hge]
      simp only [Run.error_bind, Except.yields_error]
      constructor
      · rintro ⟨-, -, hfalse⟩
        exact hfalse.elim
      · rintro ⟨hlt, -⟩
        omega

/-- The response with a text: all that is taken to be there is, and the stream has room. -/
theorem dataResponse_yields (clip : ClipData) (wide : Bool) (P : Sent → Prop) :
    (dataResponse clip wide).Yields P ↔
      clip.size ≤ clip.data.length ∧ charSize wide * clip.size + charSize wide + 12 ≤ 8192 ∧
        P (sendToChannel (leBytes 2 5 ++ leBytes 2 1 ++
          leBytes 4 (if wide then clip.size * 2 + 2 else clip.size + 1) ++
          encodeText wide (clip.data.take clip.size) ++ [0, 0, 0, 0])) := by
  have hend : (if wide then ([0, 0] : List UInt8) else [0]).length = charSize wide := by
    cases wide <;> rfl
  unfold dataResponse outText
  rw [outBytes_bind, outBytes_bind, Except.yields_bind, outChars_yields]
  · simp only [outBytes_bind, Except.yields_pure, List.length_append, leBytes_length, hend, chars_length,
      List.length_take, List.length_cons, List.length_nil, List.nil_append, List.append_assoc, encodeText]
    constructor
    · rintro ⟨-, -, hsize, -, -, hroom, hP⟩
      rw [Nat.min_eq_left hsize] at hroom
      exact ⟨hsize, by omega, hP⟩
    · rintro ⟨hsize, hroom, hP⟩
      rw [Nat.min_eq_left hsize]
      exact ⟨by omega, by omega, hsize, by omega, by omega, by omega, hP⟩
  · simp

/-! ## Steps -/

/-- What is kept is no more than has been said. -/
def ClipRelay.Kept (r : ClipRelay) : Prop :=
  ∀ clip, r.vnc.clipDataS = some clip → clip.data.length ≤ clip.size ∧ clip.size ≤ clip.said

def ClipRelay.Good (r : ClipRelay) : Prop := r.Kept ∧ r.Holds

theorem holds_append {r r' : ClipRelay} {q : DataRequest} (h : r.Holds)
    (hrequests : r'.requests = r.requests ++ [q]) : r'.Holds ↔ q.Right := by
  unfold ClipRelay.Holds
  rw [hrequests, List.forall_mem_append, List.forall_mem_singleton]
  exact and_iff_right h

/-- An answer with a text that has been kept. -/
theorem answered_right {clip : ClipData} (wide : Bool) (hdata : clip.data.length ≤ clip.size)
    (hsaid : clip.size ≤ clip.said) (P : Sent → Prop)
    (hP : ∀ sent, P sent ↔ clip.data.length = clip.said ∧ Carries sent wide clip.data) :
    (dataResponse clip wide).Yields P ↔
      clip.data.length = clip.said ∧ charSize wide * clip.said + charSize wide + 12 ≤ 8192 := by
  rw [dataResponse_yields, hP]
  constructor
  · rintro ⟨hsize, hroom, hwhole, -⟩
    have heq : clip.size = clip.said := by omega
    rw [heq] at hroom
    exact ⟨hwhole, hroom⟩
  · rintro ⟨hwhole, hroom⟩
    have hsize : clip.size = clip.data.length := by omega
    rw [← hwhole] at hroom
    rw [hsize, List.take_length, Carries, encodeText_length]
    exact ⟨Nat.le_refl _, hroom, hwhole, rfl⟩

theorem dataRequest_yields {r : ClipRelay} (h : r.Good) (format : Nat) :
    (r.dataRequest format).Yields ClipRelay.Holds ↔ RequestFits r.vnc.clipDataS format := by
  obtain ⟨hkept, hholds⟩ := h
  unfold ClipRelay.dataRequest RequestFits
  dsimp only
  by_cases hformat : format ≠ 1 ∧ format ≠ 13
  · rw [if_pos hformat, Except.yields_ok, holds_append hholds rfl]
    unfold DataRequest.Right
    cases r.vnc.clipDataS with
    | none => simp
    | some clip => simp [hformat.1, hformat.2]
  · rw [if_neg hformat]
    cases hclip : r.vnc.clipDataS with
    | none => simp
    | some clip =>
      obtain ⟨hdata, hsaid⟩ := hkept clip hclip
      dsimp only
      rw [Except.yields_bind]
      refine (answered_right (format == 13) hdata hsaid _ fun sent => ?_).trans ?_
      · rw [Except.yields_pure, holds_append hholds rfl]
        unfold DataRequest.Right
        simp
      · have hor : format = 1 ∨ format = 13 := by omega
        rcases hor with rfl | rfl
        · simp [charSize]
        · simp [charSize]

theorem clientCutText_yields {r : ClipRelay} (h : r.Holds) (length : Int) (bytes : List UInt8) :
    (r.clientCutText length bytes).Yields ClipRelay.Holds ↔
      -16 ≤ length ∧ min length 256 ≤ (bytes.length : Nat) := by
  unfold ClipRelay.clientCutText
  dsimp only
  rw [outBytes_bind]
  simp only [List.nil_append, List.length_nil, List.length_append, List.length_cons, beBytes_length,
    Nat.zero_add, Nat.reduceAdd]
  split
  · rename_i hbytes
    rw [outBytes_bind, Except.yields_pure]
    simp only [List.length_append, List.length_cons, List.length_nil, beBytes_length, List.length_take]
    have hsame : ∀ cutTexts, ClipRelay.Holds { r with cutTexts := cutTexts } := fun _ => h
    constructor
    · rintro ⟨hroom, -⟩
      omega
    · rintro ⟨hlow, hle⟩
      exact ⟨by omega, by omega, hsame _⟩
  · rename_i hbytes
    rw [Except.yields_error, and_false, false_iff]
    rintro ⟨-, hle⟩
    omega

theorem libProcessChannelData_yields {r : ClipRelay} (h : r.Good) (bytes : List UInt8) :
    (r.libProcessChannelData bytes).Yields ClipRelay.Holds ↔ ChunkFits r.vnc.clipDataS bytes := by
  unfold ClipRelay.libProcessChannelData ChunkFits
  by_cases hheader : bytes.length < 8
  · rw [if_pos hheader, Except.yields_error, false_iff]
    omega
  rw [if_neg hheader, and_iff_right (Nat.not_lt.1 hheader)]
  dsimp only
  by_cases hannounce : leVal (bytes.take 2) = 2
  · rw [if_pos hannounce, if_neg (by omega), if_neg (by omega), iff_true]
    exact Except.yields_ok.2 h.2
  rw [if_neg hannounce]
  by_cases hrequest : leVal (bytes.take 2) = 4
  · rw [if_pos hrequest, if_pos hrequest]
    split
    · exact dataRequest_yields h 0
    · split
      · rename_i hshort
        rw [Except.yields_error, false_iff]
        omega
      · rename_i hlong
        rw [dataRequest_yields h, and_iff_right (Nat.not_lt.1 hlong)]
  rw [if_neg hrequest, if_neg hrequest]
  by_cases hresponse : leVal (bytes.take 2) = 5
  · rw [if_pos hresponse, if_pos hresponse, clientCutText_yields h.2, List.length_drop]
  rw [if_neg hresponse, if_neg hresponse, iff_true]
  exact Except.yields_ok.2 h.2

/-! ## Texts -/

@[simp] theorem forceRead_clipDataS (v : Vnc) (room : Nat) (size : Int) :
    (v.forceRead room size).2.clipDataS = v.clipDataS := by
  unfold Vnc.forceRead
  split_ifs <;> rfl

theorem taken_kept (said : Nat) (incoming : List UInt8) :
    (incoming.take (int32 said).toNat).length ≤ (int32 said).toNat ∧ (int32 said).toNat ≤ said := by
  refine ⟨List.length_take_le (int32 said).toNat incoming, ?_⟩
  unfold int32
  omega

/-- A text that has come, as far as it has. -/
theorem libClipData_kept (fails : Nat → Bool) (v : Vnc) :
    ∀ clip, (v.libClipData fails).2.clipDataS = some clip →
      clip.data.length ≤ clip.size ∧ clip.size ≤ clip.said := by
  intro clip hclip
  unfold Vnc.libClipData at hclip
  have hheader := forceRead_clipDataS { v with clipDataS := none } 8192 7
  obtain ⟨o, v', hread⟩ : ∃ o v', Vnc.forceRead { v with clipDataS := none } 8192 7 = (o, v') :=
    ⟨_, _, rfl⟩
  rw [hread] at hheader hclip
  cases o with
  | none =>
    have hnone : v'.clipDataS = none := hheader
    have hsome : v'.clipDataS = some clip := hclip
    rw [hnone] at hsome
    cases hsome
  | some bytes =>
    dsimp only [Vnc.reading] at hclip
    have htaken := taken_kept (beVal (bytes.drop 3)) v'.incoming
    generalize beVal (bytes.drop 3) = said at hclip htaken
    generalize int32 said = size at hclip htaken
    generalize hv : Vnc.record { v' with clipDataS := some ⟨said, size.toNat,
      v'.incoming.take size.toNat⟩ } [.size size said] = w at hclip
    have hw := congrArg Vnc.clipDataS hv
    have hkept := forceRead_clipDataS w size.toNat size
    generalize w.forceRead size.toNat size = read at hclip hkept
    obtain ⟨o, w'⟩ := read
    have hsame : w'.clipDataS = some clip := by
      cases o with
      | none => exact hclip
      | some text => exact hclip
    have hw' : w'.clipDataS = w.clipDataS := hkept
    rw [hw', ← hw] at hsame
    cases hsame
    exact htaken

theorem clipText_kept {r : ClipRelay} (h : r.Kept) (incoming : List UInt8) (fails : Nat → Bool) :
    ClipRelay.Kept { r with vnc := { r.vnc with incoming := 3 :: incoming }.libDataIn fails } := by
  have hmessage : ∀ v : Vnc, v.libModProcessMessage fails 3 = v.libClipData fails := fun _ => rfl
  unfold Vnc.libDataIn
  dsimp only
  cases hup : r.vnc.up with
  | false => exact h
  | true =>
    dsimp only
    rw [hmessage]
    have hclip := libClipData_kept fails ⟨incoming, true, r.vnc.modBpp, r.vnc.modWidth, r.vnc.modHeight,
      r.vnc.palette, r.vnc.suppressOutput, r.vnc.clipDataS, r.vnc.accesses, r.vnc.calls⟩
    generalize Vnc.libClipData fails _ = result at hclip ⊢
    obtain ⟨error, v⟩ := result
    cases error with
    | true => exact hclip
    | false => exact hclip

theorem libProcessChannelData_vnc {r r' : ClipRelay} {bytes : List UInt8}
    (h : r.libProcessChannelData bytes = .ok r') : r'.vnc = r.vnc := by
  have hrequest : ∀ format, r.dataRequest format = .ok r' → r'.vnc = r.vnc := by
    intro format hstep
    unfold ClipRelay.dataRequest at hstep
    dsimp only at hstep
    split at hstep
    · cases hstep
      rfl
    · split at hstep
      · cases hstep
      · obtain ⟨sent, -, hstep⟩ := Run.bind_eq_ok.1 hstep
        cases hstep
        rfl
  unfold ClipRelay.libProcessChannelData at h
  dsimp only at h
  split at h
  · cases h
  split at h
  · cases h
    rfl
  split at h
  · split at h
    · exact hrequest 0 h
    · split at h
      · cases h
      · exact hrequest _ h
  split at h
  · unfold ClipRelay.clientCutText at h
    obtain ⟨s, -, h⟩ := Run.bind_eq_ok.1 h
    split at h
    · obtain ⟨s', -, h⟩ := Run.bind_eq_ok.1 h
      cases h
      rfl
    · cases h
  · cases h
    rfl

/-! ## Runs -/

/-- The module when it is connected. -/
def ClipRelay.start (vnc : Vnc) : ClipRelay := ⟨{ vnc with clipDataS := none }, [], [], []⟩

theorem clipNext_det (r : ClipRelay) (e : ClipEvent) (r₁ r₂ : ClipRelay) (h₁ : ClipNext r e r₁)
    (h₂ : ClipNext r e r₂) : r₁ = r₂ := Except.ok.inj (Eq.trans (Eq.symm h₁) h₂)

/-- **The clipboard of a VNC server**: every request is answered with the whole text that has been
kept, within the text and the stream, just if one has been kept whole whenever the client asks and has
room with the header, and the chunks of the client are as long as they say. -/
theorem vnc_clip_iff (vnc : Vnc) (es : List ClipEvent) :
    Always ClipNext ClipRelay.Holds (.start vnc) es ↔
      AllFit ClipNext ClipRelay.EventFits (.start vnc) es := by
  refine always_iff clipNext_det (fun r (h : r.Good) => h.2) (fun r e h => ?_) ?_ es
  · cases e with
    | clipText incoming fails =>
      exact .of_next clipNext_det rfl (iff_of_true h.2 trivial)
        fun _ => ⟨clipText_kept h.1 incoming fails, h.2⟩
    | channelData bytes =>
      refine ⟨libProcessChannelData_yields h bytes, fun r' hnext hholds => ⟨?_, hholds⟩⟩
      intro clip hclip
      rw [libProcessChannelData_vnc hnext] at hclip
      exact h.1 clip hclip
  · exact ⟨fun _ h => (nomatch h), fun _ h => (nomatch h)⟩

/-- The client asks for Unicode text before the server has sent any. -/
theorem request_without_text :
    ¬ Always ClipNext ClipRelay.Holds (.start (.start 24 640 480 []))
      [.channelData [4, 0, 0, 0, 4, 0, 0, 0, 13, 0, 0, 0]] := by
  intro h
  obtain ⟨r', ⟨r, hnext, -⟩, -⟩ := h _ (List.prefix_refl _)
  have hnone : ∀ r : ClipRelay, r.vnc.clipDataS = none → r.dataRequest 13 = .error .outOfBounds := by
    intro r hr
    simp [ClipRelay.dataRequest, hr]
  have hstep : ∀ r : ClipRelay, r.step (.channelData [4, 0, 0, 0, 4, 0, 0, 0, 13, 0, 0, 0]) =
      r.dataRequest 13 := fun r => by
    simp [ClipRelay.step, ClipRelay.libProcessChannelData, leVal, int32]
  rw [ClipNext, hstep, hnone _ rfl] at hnext
  cases hnext

end Xrdp.VncClient
