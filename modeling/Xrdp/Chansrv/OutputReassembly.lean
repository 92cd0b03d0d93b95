import Xrdp.Chansrv.ChannelOutput

/-!
# Channel output is put together again

* `sendPieces_spec`, `piecesFrom_fragments` — the messages for a static channel carry the pieces of
  the block.
* `sendDataLoop_spec`, `receive_dvcPdus` — those for a dynamic channel, and what the client makes
  of them.
* `channel_output_reassembles` — both, for every block that is not refused.
-/

namespace Xrdp.Chansrv

open Wire Chunks

/-! ## Messages are read as they were written -/

/-- The header in front of a message's contents. -/
theorem readMessage_header {id : Nat} (hid : id < 2 ^ 32) {body : List UInt8} {size msgSize : Nat}
    (hsize : size = 16 + body.length) (hmsg : msgSize = 8 + body.length)
    (hlen : size < 2 ^ 32) :
    readMessage (leBytes 4 0 ++ (leBytes 4 size ++ (leBytes 4 id ++ (leBytes 4 msgSize ++ body)))) =
      some (id, body) := by
  have h1 : size % 256 ^ 4 = size := Nat.mod_eq_of_lt hlen
  have h2 : msgSize % 256 ^ 4 = msgSize := Nat.mod_eq_of_lt (by omega)
  have h3 : id % 256 ^ 4 = id := Nat.mod_eq_of_lt hid
  simp only [readMessage, getLe_leBytes, Option.bind_eq_bind, Option.bind_some, h1, h2, h3,
    List.length_append, leBytes_length]
  rw [if_pos ⟨by omega, hmsg⟩]

def Piece.message (p : Piece) : List UInt8 :=
  channelMessage p.chanId p.chanFlags p.totalSize p.data

/-- The fields of a piece have their width. -/
structure Piece.Fits (p : Piece) : Prop where
  chanId : p.chanId < 2 ^ 16
  chanFlags : p.chanFlags < 2 ^ 16
  totalSize : p.totalSize < 2 ^ 32
  data : p.data.length < 2 ^ 16

theorem readPiece_message {p : Piece} (h : p.Fits) : readPiece p.message = some p := by
  have h1 : p.chanId % 256 ^ 2 = p.chanId := Nat.mod_eq_of_lt h.chanId
  have h2 : p.chanFlags % 256 ^ 2 = p.chanFlags := Nat.mod_eq_of_lt h.chanFlags
  have h3 : p.totalSize % 256 ^ 4 = p.totalSize := Nat.mod_eq_of_lt h.totalSize
  have h4 : p.data.length % 256 ^ 2 = p.data.length := Nat.mod_eq_of_lt h.data
  have hdata := h.data
  rw [Piece.message, channelMessage, readPiece]
  simp only [List.append_assoc]
  rw [readMessage_header (by decide) (by simp [leBytes_length]; omega)
    (by simp [leBytes_length]; omega) (by omega)]
  simp only [Option.bind_eq_bind, Option.bind_some, getLe_leBytes, h1, h2, h3, h4]
  rw [if_pos ⟨trivial, trivial⟩]

/-! ## Writing -/

namespace ConTrans

variable {t : ConTrans} {message : List UInt8}

theorem writeCopy_spec (h : message.length ≤ t.outSize) :
    ∃ error t', t.writeCopy message = .ok (error, t') ∧ t'.accepts = t.accepts ∧
      (error = 0 ∧ t'.sent = t.sent ++ [message] ∨
        error ≠ 0 ∧ t'.sent = t.sent ∧ t.accepts t.writes = false) := by
  rw [writeCopy, if_pos h]
  cases hacc : t.accepts t.writes with
  | true => exact ⟨0, _, rfl, rfl, .inl ⟨rfl, rfl⟩⟩
  | false => exact ⟨1, _, rfl, rfl, .inr ⟨by decide, rfl, rfl⟩⟩

theorem delivers_nil (t : ConTrans) : t.Delivers [] 0 t where
  prefix_ := ⟨0, Nat.le_refl _, by simp, by simp⟩
  succeeds _ := rfl

/-- A write that fails is the last. -/
theorem delivers_failed {t' : ConTrans} {rv : Nat} (hrv : rv ≠ 0) (hsent : t'.sent = t.sent)
    (hacc : t.accepts t.writes = false) (messages : List (List UInt8)) :
    t.Delivers (message :: messages) rv t' where
  prefix_ := ⟨0, Nat.zero_le _, by simp [hsent], by simp [hrv]⟩
  succeeds h := by
    have := h t.writes
    rw [hacc] at this
    cases this

/-- Behind a write that succeeds, the others. -/
theorem Delivers.cons {t' t'' : ConTrans} {rv : Nat} {messages : List (List UInt8)}
    (h : t'.Delivers messages rv t'') (hsent : t'.sent = t.sent ++ [message])
    (hacc : t'.accepts = t.accepts) : t.Delivers (message :: messages) rv t'' where
  prefix_ := by
    obtain ⟨n, hn, hs, hrv⟩ := h.prefix_
    refine ⟨n + 1, Nat.succ_le_succ hn, ?_, ?_⟩
    · rw [hs, hsent, List.take_succ_cons, List.append_assoc, List.singleton_append]
    · rw [hrv, List.length_cons, Nat.add_right_cancel_iff]
  succeeds hall := h.succeeds (hacc ▸ hall)

/-- **A message is written, and behind it the others**, unless that fails. -/
theorem writeCopy_next {β : Type} {n rvFail : Nat} (hfail : rvFail ≠ 0) {f : ConTrans → β}
    {g : ConTrans → Run (Nat × β)} {messages : List (List UInt8)}
    (hfits : message.length ≤ (t.getOutS n).outSize)
    (hnext : ∀ t₁, ∃ rv t₂, g t₁ = .ok (rv, f t₂) ∧ t₁.Delivers messages rv t₂) :
    ∃ rv t', ((t.getOutS n).writeCopy message >>= fun (error, t) =>
        if error ≠ 0 then pure (rvFail, f t) else g t) = .ok (rv, f t') ∧
      t.Delivers (message :: messages) rv t' := by
  obtain ⟨error, t₁, hw, hacc, h⟩ := writeCopy_spec hfits
  rw [hw, Run.ok_bind]
  dsimp only
  rcases h with ⟨rfl, hsent⟩ | ⟨herror, hsent, hfalse⟩
  · obtain ⟨rv, t₂, hrun, hdelivers⟩ := hnext t₁
    rw [if_neg (fun h => h rfl)]
    exact ⟨rv, t₂, hrun, hdelivers.cons hsent hacc⟩
  · rw [if_pos herror]
    exact ⟨rvFail, t₁, rfl, delivers_failed (t := t) hfail hsent hfalse _⟩

end ConTrans

/-! ## Static channels -/

/-- The pieces of a block, the last of them marked; `chanFlags` are the flags of the first. -/
def piecesFrom (chanId totalSize : Nat) : Nat → List (List UInt8) → List Piece
  | _, [] => []
  | chanFlags, [data] => [⟨chanId, chanFlags ||| 2, totalSize, data⟩]
  | chanFlags, data :: rest => ⟨chanId, chanFlags, totalSize, data⟩ :: piecesFrom chanId totalSize 0 rest

/-- The messages of one block: consecutive pieces of it, none empty or too long, with its total size;
the first and only the first is marked as first, the last and only the last as last. -/
structure Fragments (chanId : Nat) (block : List UInt8) (pieces : List Piece) : Prop where
  joins : (pieces.map (·.data)).flatten = block
  bounded : ∀ p ∈ pieces, 0 < p.data.length ∧ p.data.length ≤ MAX_CHANNEL_FRAG_BYTES
  header : ∀ p ∈ pieces, p.chanId = chanId ∧ p.totalSize = block.length
  first : ∀ i, (h : i < pieces.length) → (pieces[i].chanFlags &&& 1 ≠ 0 ↔ i = 0)
  last : ∀ i, (h : i < pieces.length) → (pieces[i].chanFlags &&& 2 ≠ 0 ↔ i + 1 = pieces.length)

/-- What is taken and what is left when no more than `n` elements are to be taken. -/
theorem take_drop_min (n : Nat) (data : List UInt8) :
    data.take (min n data.length) = data.take n ∧ data.drop (min n data.length) = data.drop n := by
  rcases Nat.le_total n data.length with h | h
  · rw [Nat.min_eq_left h]
    exact ⟨rfl, rfl⟩
  · rw [Nat.min_eq_right h, List.drop_length, List.drop_eq_nil_of_le h, List.take_length,
      List.take_of_length_le h]
    exact ⟨rfl, rfl⟩

/-- One turn of the loop. -/
theorem sendPieces_step {chanId totalSize : Nat} {t : ConTrans} {chanFlags : Nat}
    {data : List UInt8} (hdata : data ≠ []) :
    sendPieces chanId totalSize t chanFlags data = (do
      let (error, t) ← (t.getOutS (26 + (data.take MAX_CHANNEL_FRAG_BYTES).length)).writeCopy
        (channelMessage chanId
          (if data.drop MAX_CHANNEL_FRAG_BYTES = [] then chanFlags ||| 2 else chanFlags) totalSize
          (data.take MAX_CHANNEL_FRAG_BYTES))
      if error ≠ 0 then pure (3, t)
      else sendPieces chanId totalSize t 0 (data.drop MAX_CHANNEL_FRAG_BYTES)) := by
  have hlast : min MAX_CHANNEL_FRAG_BYTES data.length ≥ data.length ↔
      data.drop MAX_CHANNEL_FRAG_BYTES = [] := by
    rw [List.drop_eq_nil_iff]
    omega
  rw [sendPieces, dif_pos (List.length_pos_of_ne_nil hdata)]
  simp only [(take_drop_min _ data).1, (take_drop_min _ data).2, hlast, List.length_take]

theorem channelMessage_length (chanId chanFlags totalSize : Nat) (data : List UInt8) :
    (channelMessage chanId chanFlags totalSize data).length = 26 + data.length := by
  simp only [channelMessage, List.length_append, leBytes_length]

/-- The loop of `send_channel_data` writes the pieces of what is left. -/
theorem sendPieces_spec (chanId totalSize : Nat) (data : List UInt8) (t : ConTrans)
    (chanFlags : Nat) :
    ∃ rv t', sendPieces chanId totalSize t chanFlags data = .ok (rv, t') ∧
      t.Delivers ((piecesFrom chanId totalSize chanFlags
        (chunks MAX_CHANNEL_FRAG_BYTES data)).map Piece.message) rv t' := by
  have hn : 0 < MAX_CHANNEL_FRAG_BYTES := by decide
  induction data using chunks_induction hn generalizing t chanFlags with
  | nil =>
    refine ⟨0, t, ?_, ?_⟩
    · rw [sendPieces, dif_neg (show ¬0 < ([] : List UInt8).length from Nat.lt_irrefl 0)]
      rfl
    · rw [chunks_nil]
      exact ConTrans.delivers_nil t
  | step data hdata ih =>
    -- the first piece is the last just if nothing is left behind it
    have hpieces : (piecesFrom chanId totalSize chanFlags
          (chunks MAX_CHANNEL_FRAG_BYTES data)).map Piece.message =
        channelMessage chanId
            (if data.drop MAX_CHANNEL_FRAG_BYTES = [] then chanFlags ||| 2 else chanFlags) totalSize
            (data.take MAX_CHANNEL_FRAG_BYTES) ::
          (piecesFrom chanId totalSize 0
            (chunks MAX_CHANNEL_FRAG_BYTES (data.drop MAX_CHANNEL_FRAG_BYTES))).map
              Piece.message := by
      rw [chunks_step hn hdata]
      cases hrest : chunks MAX_CHANNEL_FRAG_BYTES (data.drop MAX_CHANNEL_FRAG_BYTES) with
      | nil =>
        rw [if_pos ((chunks_eq_nil hn).1 hrest)]
        rfl
      | cons piece rest =>
        have hne : data.drop MAX_CHANNEL_FRAG_BYTES ≠ [] := by
          intro h
          rw [h, chunks_nil] at hrest
          cases hrest
        rw [if_neg hne]
        rfl
    have hfits := le_of_eq_of_le
      (channelMessage_length chanId
        (if data.drop MAX_CHANNEL_FRAG_BYTES = [] then chanFlags ||| 2 else chanFlags) totalSize
        (data.take MAX_CHANNEL_FRAG_BYTES))
      (Nat.le_max_right t.outSize (26 + (data.take MAX_CHANNEL_FRAG_BYTES).length))
    rw [sendPieces_step hdata, hpieces]
    exact ConTrans.writeCopy_next (f := id) (by decide) hfits fun t₁ => ih t₁ 0

section

variable {chanId totalSize : Nat}

theorem map_data_piecesFrom (chanFlags : Nat) (cs : List (List UInt8)) :
    (piecesFrom chanId totalSize chanFlags cs).map (·.data) = cs := by
  induction cs generalizing chanFlags with
  | nil => rfl
  | cons data rest ih =>
    cases rest with
    | nil => rfl
    | cons data' rest => exact congrArg (data :: ·) (ih 0)

theorem length_piecesFrom (chanFlags : Nat) (cs : List (List UInt8)) :
    (piecesFrom chanId totalSize chanFlags cs).length = cs.length := by
  rw [← List.length_map (f := (·.data)), map_data_piecesFrom]

theorem piecesFrom_header (chanFlags : Nat) (cs : List (List UInt8)) :
    ∀ p ∈ piecesFrom chanId totalSize chanFlags cs,
      p.chanId = chanId ∧ p.totalSize = totalSize := by
  induction cs generalizing chanFlags with
  | nil =>
    intro p h
    cases h
  | cons data rest ih =>
    cases rest with
    | nil =>
      intro p h
      obtain rfl := List.mem_singleton.1 h
      exact ⟨rfl, rfl⟩
    | cons data' rest =>
      intro p h
      rcases List.mem_cons.1 h with rfl | h
      · exact ⟨rfl, rfl⟩
      · exact ih 0 p h

/-- The flags of a piece are those of the first, if it is the first, with the mark of the last, if it
is the last. -/
theorem chanFlags_piecesFrom (chanFlags : Nat) (cs : List (List UInt8)) (i : Nat)
    (h : i < (piecesFrom chanId totalSize chanFlags cs).length) :
    (piecesFrom chanId totalSize chanFlags cs)[i].chanFlags =
      (if i = 0 then chanFlags else 0) ||| (if i + 1 = cs.length then 2 else 0) := by
  induction cs generalizing chanFlags i with
  | nil => cases h
  | cons data rest ih =>
    cases rest with
    | nil =>
      obtain rfl : i = 0 := by
        rw [length_piecesFrom, List.length_singleton] at h
        omega
      rfl
    | cons data' rest =>
      cases i with
      | zero =>
        rw [if_pos rfl, if_neg (by simp)]
        exact (Nat.or_zero _).symm
      | succ i =>
        have hi : i < (piecesFrom chanId totalSize 0 (data' :: rest)).length := by
          rw [length_piecesFrom] at h ⊢
          exact Nat.lt_of_succ_lt_succ h
        have hcons := ih 0 i hi
        simp only [ite_self] at hcons
        simp only [Nat.succ_ne_zero, if_false, List.length_cons (a := data),
          Nat.add_right_cancel_iff, ← hcons]
        rfl

end

/-- The two marks do not get in each other's way. -/
theorem marks_iff (first last : Prop) [Decidable first] [Decidable last] :
    (((if first then 1 else 0) ||| (if last then 2 else 0)) &&& 1 ≠ 0 ↔ first) ∧
      (((if first then 1 else 0) ||| (if last then 2 else 0)) &&& 2 ≠ 0 ↔ last) := by
  by_cases hf : first <;> by_cases hl : last <;> simp [hf, hl]

/-- **The pieces that are written are those of the block.** -/
theorem piecesFrom_fragments (chanId : Nat) (block : List UInt8) :
    Fragments chanId block
      (piecesFrom chanId block.length 1 (chunks MAX_CHANNEL_FRAG_BYTES block)) where
  joins := by
    rw [map_data_piecesFrom]
    exact flatten_chunks (by decide) block
  bounded p hp := by
    apply length_of_mem_chunks (by decide) block
    rw [← @map_data_piecesFrom chanId block.length 1
      (chunks MAX_CHANNEL_FRAG_BYTES block)]
    exact List.mem_map_of_mem hp
  header := piecesFrom_header 1 _
  first i h := by
    rw [chanFlags_piecesFrom]
    exact (marks_iff _ _).1
  last i h := by
    rw [chanFlags_piecesFrom, length_piecesFrom]
    exact (marks_iff _ _).2

/-! ## Dynamic channels -/

def DvcPdu.chanId : DvcPdu → Nat
  | .dataFirst chanId .. => chanId
  | .data chanId _ => chanId

/-- The message that is read as a piece. -/
def DvcPdu.message : DvcPdu → List UInt8
  | .dataFirst chanId totalBytes bytes =>
    leBytes 4 0 ++ leBytes 4 (28 + bytes.length) ++ leBytes 4 16 ++ leBytes 4 (20 + bytes.length) ++
      leBytes 4 chanId ++ leBytes 4 bytes.length ++ leBytes 4 totalBytes ++ bytes
  | .data chanId bytes =>
    leBytes 4 0 ++ leBytes 4 (24 + bytes.length) ++ leBytes 4 18 ++ leBytes 4 (16 + bytes.length) ++
      leBytes 4 chanId ++ leBytes 4 bytes.length ++ bytes

theorem readDvc_dataFirst {chanId totalBytes : Nat} {data : List UInt8} (hid : chanId < 2 ^ 32)
    (htotal : totalBytes < 2 ^ 32) (hdata : data.length ≤ 1590) :
    readDvc (DvcPdu.dataFirst chanId totalBytes data).message =
      some (.dataFirst chanId totalBytes data) := by
  have h1 : chanId % 256 ^ 4 = chanId := Nat.mod_eq_of_lt hid
  have h2 : totalBytes % 256 ^ 4 = totalBytes := Nat.mod_eq_of_lt htotal
  have h3 : data.length % 256 ^ 4 = data.length := Nat.mod_eq_of_lt (by omega)
  rw [DvcPdu.message, readDvc]
  simp only [List.append_assoc]
  rw [readMessage_header (by decide) (by simp [leBytes_length]; omega)
    (by simp [leBytes_length]; omega) (by omega)]
  simp only [Option.bind_eq_bind, Option.bind_some, getLe_leBytes, h1, h2, h3]
  rw [if_neg (by omega)]
  rfl

theorem readDvc_data {chanId : Nat} {data : List UInt8} (hid : chanId < 2 ^ 32)
    (hdata : data.length ≤ 1590) :
    readDvc (DvcPdu.data chanId data).message = some (.data chanId data) := by
  have h1 : chanId % 256 ^ 4 = chanId := Nat.mod_eq_of_lt hid
  have h3 : data.length % 256 ^ 4 = data.length := Nat.mod_eq_of_lt (by omega)
  rw [DvcPdu.message, readDvc]
  simp only [List.append_assoc]
  rw [readMessage_header (by decide) (by simp [leBytes_length]; omega)
    (by simp [leBytes_length]; omega) (by omega)]
  simp only [Option.bind_eq_bind, Option.bind_some, getLe_leBytes, h1, h3]
  rw [if_neg (by omega), if_neg (by decide), if_pos ⟨trivial, trivial⟩]

/-- The loop of `chansrv_drdynvc_send_data` writes what is left as data. -/
theorem sendDataLoop_spec (chanId : UInt32) (data : List UInt8) (t : ConTrans) :
    ∃ rv t', sendDataLoop t chanId data = .ok (rv, t') ∧
      t.Delivers ((chunks 1590 data).map fun piece => (DvcPdu.data chanId.toNat piece).message)
        rv t' := by
  induction data using chunks_induction (n := 1590) (by decide) generalizing t with
  | nil =>
    refine ⟨0, t, ?_, ?_⟩
    · rw [sendDataLoop, dif_neg (show ¬0 < ([] : List UInt8).length from Nat.lt_irrefl 0)]
      rfl
    · rw [chunks_nil]
      exact ConTrans.delivers_nil t
  | step data hdata ih =>
    have hfits : (DvcPdu.data chanId.toNat (data.take 1590)).message.length ≤
        (t.getOutS 8192).outSize := by
      refine le_trans ?_ (Nat.le_max_right t.outSize 8192)
      simp only [DvcPdu.message, List.length_append, leBytes_length, List.length_take]
      omega
    rw [sendDataLoop, dif_pos (List.length_pos_of_ne_nil hdata), chunks_step (by decide) hdata,
      List.map_cons]
    simp only [(take_drop_min _ data).1, (take_drop_min _ data).2]
    exact ConTrans.writeCopy_next (f := id) (by decide) hfits ih

/-- What is written of a block for a dynamic channel. -/
def dvcPdus (chanId : UInt32) (block : List UInt8) : List DvcPdu :=
  if block.length > 1590 then
    .dataFirst chanId.toNat block.length (block.take 1590) ::
      (chunks 1590 (block.drop 1590)).map (.data chanId.toNat)
  else (chunks 1590 block).map (.data chanId.toNat)

theorem sendData_spec (chanId : UInt32) (block : List UInt8) (t : ConTrans) :
    ∃ rv t', chansrvDrdynvcSendData (some t) chanId block = .ok (rv, some t') ∧
      t.Delivers ((dvcPdus chanId block).map DvcPdu.message) rv t' := by
  rw [chansrvDrdynvcSendData, dvcPdus]
  dsimp only
  split
  · have hfits : (DvcPdu.dataFirst chanId.toNat block.length (block.take 1590)).message.length ≤
        (t.getOutS 8192).outSize := by
      refine le_trans ?_ (Nat.le_max_right t.outSize 8192)
      simp only [DvcPdu.message, List.length_append, leBytes_length, List.length_take]
      omega
    rw [List.map_cons, List.map_map]
    refine ConTrans.writeCopy_next (f := some) (g := fun t => do
      let (rv, t) ← sendDataLoop t chanId (block.drop 1590)
      pure (rv, some t)) Nat.one_ne_zero hfits fun t₁ => ?_
    obtain ⟨rv, t₂, hrun, hdelivers⟩ := sendDataLoop_spec chanId (block.drop 1590) t₁
    rw [hrun]
    exact ⟨rv, t₂, rfl, hdelivers⟩
  · obtain ⟨rv, t', hrun, hdelivers⟩ := sendDataLoop_spec chanId block t
    rw [hrun, List.map_map]
    exact ⟨rv, t', rfl, hdelivers⟩

/-! ## The client's end -/

/-- While there is a part of a block, data is appended until the total length is reached. -/
theorem receive_appends (chanId total : Nat) (blocks : List (List UInt8)) (rest got : List UInt8)
    (hrest : rest ≠ []) (htotal : total = (got ++ rest).length) :
    ((chunks 1590 rest).map (DvcPdu.data chanId)).foldl DvcClient.receive
      ⟨some (total, got), blocks⟩ = ⟨none, blocks ++ [got ++ rest]⟩ := by
  induction rest using chunks_induction (n := 1590) (by decide) generalizing got with
  | nil => exact absurd rfl hrest
  | step rest hne ih =>
    have hsplit : got ++ rest = (got ++ rest.take 1590) ++ rest.drop 1590 := by
      rw [List.append_assoc, List.take_append_drop]
    rw [chunks_step (by decide) hne, List.map_cons, List.foldl_cons, DvcClient.receive]
    dsimp only
    by_cases hlast : rest.drop 1590 = []
    · have hall : rest.take 1590 = rest :=
        List.take_of_length_le (List.drop_eq_nil_iff.1 hlast)
      rw [hlast, hall, if_neg (by omega), chunks_nil]
      rfl
    · have hpos := List.length_pos_of_ne_nil hlast
      rw [hsplit, List.length_append] at htotal
      rw [if_pos (by omega), ih _ hlast (by rw [htotal, @List.length_append _ _ (rest.drop 1590)]), ← hsplit]

/-- **The client puts the block together.** -/
theorem receive_dvcPdus (chanId : UInt32) {block : List UInt8} (hblock : block ≠ [])
    (blocks : List (List UInt8)) :
    (dvcPdus chanId block).foldl DvcClient.receive ⟨none, blocks⟩ =
      ⟨none, blocks ++ [block]⟩ := by
  rw [dvcPdus]
  split
  case isTrue h =>
    have hrest : block.drop 1590 ≠ [] := fun hnil => by
      have := List.drop_eq_nil_iff.1 hnil
      omega
    rw [List.foldl_cons, DvcClient.receive, if_pos (by rw [List.length_take]; omega)]
    rw [receive_appends chanId.toNat block.length blocks _ _ hrest
      (by rw [List.take_append_drop]), List.take_append_drop]
  case isFalse h =>
    rw [chunks_step (by decide) hblock, List.drop_eq_nil_of_le (by omega), chunks_nil,
      List.take_of_length_le (by omega)]
    rfl

theorem readDvc_dvcPdus (chanId : UInt32) {block : List UInt8} (hlen : block.length < 2 ^ 31) :
    ((dvcPdus chanId block).map DvcPdu.message).map readDvc = (dvcPdus chanId block).map some := by
  have hid : chanId.toNat < 2 ^ 32 := chanId.toNat_lt
  have hdata : ∀ data : List UInt8, ∀ p ∈ (chunks 1590 data).map (DvcPdu.data chanId.toNat),
      readDvc p.message = some p := by
    intro data p hp
    obtain ⟨piece, hpiece, rfl⟩ := List.mem_map.1 hp
    exact readDvc_data hid (length_of_mem_chunks (by decide) data piece hpiece).2
  rw [List.map_map]
  apply List.map_congr_left
  intro p hp
  rw [dvcPdus] at hp
  split at hp
  · rcases List.mem_cons.1 hp with rfl | hp
    · exact readDvc_dataFirst hid (by omega) (by rw [List.length_take]; omega)
    · exact hdata _ p hp
  · exact hdata _ p hp

theorem chanId_dvcPdus (chanId : UInt32) (block : List UInt8) :
    ∀ p ∈ dvcPdus chanId block, p.chanId = chanId.toNat := by
  have hdata : ∀ data : List UInt8, ∀ p ∈ (chunks 1590 data).map (DvcPdu.data chanId.toNat),
      p.chanId = chanId.toNat := by
    intro data p hp
    obtain ⟨piece, -, rfl⟩ := List.mem_map.1 hp
    rfl
  intro p hp
  rw [dvcPdus] at hp
  split at hp
  · rcases List.mem_cons.1 hp with rfl | hp
    · rfl
    · exact hdata _ p hp
  · exact hdata _ p hp

/-! ## Both kinds of channels -/

/-- `messages` are those of a block for a static channel. -/
def CarriesBlock (chanId : Nat) (block : List UInt8) (messages : List (List UInt8)) : Prop :=
  ∃ pieces : List Piece, messages.map readPiece = pieces.map some ∧ Fragments chanId block pieces

/-- From `messages` the client gets the block, whatever it got before. -/
def Reassembles (chanId : UInt32) (block : List UInt8) (messages : List (List UInt8)) : Prop :=
  ∃ pdus : List DvcPdu, messages.map readDvc = pdus.map some ∧ (∀ p ∈ pdus, p.chanId = chanId.toNat) ∧
    ∀ blocks, pdus.foldl DvcClient.receive ⟨none, blocks⟩ = ⟨none, blocks ++ [block]⟩

theorem sendChannelData_spec (t : ConTrans) {chanId : Nat} (hid : chanId ≤ 31)
    {block : List UInt8} (hpos : 0 < block.length) (hmax : block.length ≤ MAX_CHANNEL_BYTES) :
    ∃ rv t' messages, sendChannelData (some t) chanId block = .ok (rv, some t') ∧
      t.Delivers messages rv t' ∧ CarriesBlock chanId block messages := by
  obtain ⟨rv, t', hrun, hdelivers⟩ := sendPieces_spec chanId block.length block t 1
  refine ⟨rv, t', _, ?_, hdelivers, _, ?_, piecesFrom_fragments chanId block⟩
  · rw [sendChannelData, if_neg (by omega)]
    dsimp only
    rw [Int.toNat_natCast, hrun]
    rfl
  · have hfragments := piecesFrom_fragments chanId block
    rw [List.map_map]
    apply List.map_congr_left
    intro p hp
    rw [MAX_CHANNEL_BYTES] at hmax
    have hdata : p.data.length ≤ 1600 := (hfragments.bounded p hp).2
    obtain ⟨hchan, htotal⟩ := hfragments.header p hp
    obtain ⟨i, hi, rfl⟩ := List.getElem_of_mem hp
    refine readPiece_message ⟨by omega, ?_, by omega, by omega⟩
    rw [chanFlags_piecesFrom]
    split <;> split <;> decide

/-- **Channel output is put together again.**  A block for a static channel is refused if it is longer
than `MAX_CHANNEL_BYTES`; otherwise the messages carry it in pieces.  A block for a dynamic channel
is put together by the client.  The messages are written up to the first write that fails. -/
theorem channel_output_reassembles (t : ConTrans) :
    (∀ chanId : Nat, chanId ≤ 31 → ∀ block : List UInt8, 0 < block.length →
      if block.length ≤ MAX_CHANNEL_BYTES then
        ∃ rv t' messages, sendChannelData (some t) chanId block = .ok (rv, some t') ∧
          t.Delivers messages rv t' ∧ CarriesBlock chanId block messages
      else sendChannelData (some t) chanId block = .ok (1, some t)) ∧
    ∀ (chanId : UInt32) (block : List UInt8), 0 < block.length → block.length < 2 ^ 31 →
      ∃ rv t' messages, chansrvDrdynvcSendData (some t) chanId block = .ok (rv, some t') ∧
        t.Delivers messages rv t' ∧ Reassembles chanId block messages := by
  constructor
  · intro chanId hid block hpos
    split
    case isTrue h => exact sendChannelData_spec t hid hpos h
    case isFalse h => rw [sendChannelData, if_pos (by omega)]
  · intro chanId block hpos hlen
    obtain ⟨rv, t', hrun, hdelivers⟩ := sendData_spec chanId block t
    refine ⟨rv, t', _, hrun, hdelivers, _, readDvc_dvcPdus chanId hlen, chanId_dvcPdus chanId block,
      ?_⟩
    exact receive_dvcPdus chanId (List.ne_nil_of_length_pos hpos)

/-- A block of four pieces for a static channel, and one of three for a dynamic one. -/
theorem channel_output_reassembles_pieces :
    let t : ConTrans := ⟨0, fun _ => true, 0, []⟩
    (∃ rv t' messages, sendChannelData (some t) 3 (List.replicate 5000 7) = .ok (rv, some t') ∧
        t.Delivers messages rv t' ∧ CarriesBlock 3 (List.replicate 5000 7) messages) ∧
      ∃ rv t' messages, chansrvDrdynvcSendData (some t) 9 (List.replicate 4000 8) = .ok (rv, some t') ∧
        t.Delivers messages rv t' ∧ Reassembles 9 (List.replicate 4000 8) messages := by
  intro t
  obtain ⟨hstatic, hdynamic⟩ := channel_output_reassembles t
  constructor
  · have hlength : (List.replicate 5000 (7 : UInt8)).length = 5000 := List.length_replicate
    generalize List.replicate 5000 (7 : UInt8) = block at hlength ⊢
    have h := hstatic 3 (by decide) block (by omega)
    rwa [if_pos (by rw [MAX_CHANNEL_BYTES]; omega)] at h
  · have hlength : (List.replicate 4000 (8 : UInt8)).length = 4000 := List.length_replicate
    exact hdynamic 9 _ (by omega) (by omega)

/-- A block that is too long for a static channel. -/
def hugeBlock : List UInt8 := List.replicate (MAX_CHANNEL_BYTES + 1) 0

/-- Nothing of it is written, though no write fails. -/
theorem huge_block_refused :
    ¬∀ (t : ConTrans) (chanId : Nat), chanId ≤ 31 → ∀ block : List UInt8, 0 < block.length →
      ∃ rv t' messages, sendChannelData (some t) chanId block = .ok (rv, some t') ∧
        t.Delivers messages rv t' ∧ CarriesBlock chanId block messages := by
  intro h
  have hlen : hugeBlock.length = MAX_CHANNEL_BYTES + 1 := List.length_replicate
  obtain ⟨rv, t', messages, hrun, hdelivers, -⟩ :=
    h ⟨0, fun _ => true, 0, []⟩ 0 (by decide) hugeBlock (by rw [hlen]; exact Nat.succ_pos _)
  rw [sendChannelData, if_pos (by omega)] at hrun
  injection hrun with hrun
  injection hrun with hrv ht
  have := hdelivers.succeeds fun _ => rfl
  omega

end Xrdp.Chansrv
