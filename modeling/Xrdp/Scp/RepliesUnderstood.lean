import Xrdp.Scp.Replies

/-!
# Which replies are understood

* `sendText_iff` — what goes out with a text.
* `receiveReply_message` — a message that is whole is read.
* `reply_understood_iff` — the replies that a client makes of what they mean: all with a display, and
  denials and password requests with a text that fits the stream; no connection error, and no denial
  of management with a text.
-/

namespace Xrdp.Scp

open Wire Overlay StateTRules

/-! ## Messages -/

/-- A message as it should be. -/
def message (cmdset cmd : Nat) (tail : List UInt8) : List UInt8 :=
  messageHead (12 + tail.length) cmdset cmd ++ tail

variable {cmdset cmd : Nat} {tail : List UInt8}

theorem message_length (cmdset cmd : Nat) (tail : List UInt8) :
    (message cmdset cmd tail).length = 12 + tail.length := by
  rw [message, List.length_append, messageHead_length]

/-- It is as long as it says. -/
theorem announcedSize_message (h : 12 + tail.length < 2 ^ 32) :
    announcedSize (message cmdset cmd tail) = some (message cmdset cmd tail).length := by
  have hdrop : (message cmdset cmd tail).drop 4 =
      beBytes 4 (12 + tail.length) ++ (beBytes 2 cmdset ++ (beBytes 2 cmd ++ tail)) := by
    rw [message, messageHead]
    simp only [List.append_assoc]
    exact List.drop_left' (beBytes_length 4 1)
  have hmod : (12 + tail.length) % 256 ^ 4 = 12 + tail.length := Nat.mod_eq_of_lt h
  rw [announcedSize, hdrop, getBe_beBytes, hmod, message_length]
  rfl

theorem sendMessage_message (outS : Stream 8192) {sent : List UInt8 × List UInt8} {n : Nat}
    {bytes : List UInt8} (hn : bytes.length = n) :
    sendMessage outS.data bytes n = .ok sent ↔
      n ≤ 8192 ∧ sent = (bytes, bytes ++ outS.data.drop n) := by
  have hdata := outS.data_length
  rw [sendMessage, putBytes]
  by_cases hroom : n ≤ 8192
  · have hlen : (bytes ++ outS.data.drop bytes.length).length = 8192 := by
      rw [List.length_append, List.length_drop]
      omega
    rw [if_pos (by omega), Run.ok_bind, scpTcpForceSend, if_pos (by rw [hlen]; omega),
      Int.toNat_natCast, List.take_left' hn, hn, Run.ok_bind, and_iff_right hroom]
    exact ⟨fun h => (Except.ok.inj h).symm, fun h => h ▸ rfl⟩
  · rw [if_neg (by omega)]
    exact iff_of_false (fun h => by cases h) fun h => hroom h.1

/-- **A message that is whole is read**, if what is behind it does not matter. -/
theorem receiveReply_message {least : Nat} {read : Rd ReplyEnd} {replyEnd : ReplyEnd}
    (inS : Stream 8196) (s : ReplySession) (rest : List UInt8) (hleast : least ≤ 12)
    (hlen : tail.length ≤ 8180) (hread : ∀ stale, ∃ left,
      read (beBytes 2 cmdset ++ (beBytes 2 cmd ++ (tail ++ stale))) = .ok (replyEnd, left)) :
    receiveReply least read inS s (message cmdset cmd tail ++ rest) = .ok replyEnd := by
  have hdata := inS.data_length
  obtain ⟨body, hbody⟩ : ∃ body, body = beBytes 2 cmdset ++ (beBytes 2 cmd ++ tail) := ⟨_, rfl⟩
  have hbodyLen : body.length = 4 + tail.length := by
    rw [hbody]
    simp only [List.length_append, beBytes_length]
    omega
  have hmessage : message cmdset cmd tail ++ rest =
      beBytes 4 1 ++ (beBytes 4 (body.length + 8) ++ (body ++ rest)) := by
    have hsize : 12 + tail.length = body.length + 8 := by omega
    rw [message, messageHead, hsize, hbody]
    simp only [List.append_assoc]
  obtain ⟨stale, -, hrecv⟩ := @recvMessage_append least inS.data body rest (by omega) (by omega)
    (by omega) (by omega)
  obtain ⟨left, hrun⟩ := hread stale
  have hbodyStale : body ++ stale = beBytes 2 cmdset ++ (beBytes 2 cmd ++ (tail ++ stale)) := by
    rw [hbody]
    simp only [List.append_assoc]
  rw [receiveReply, hmessage, hrecv, Run.ok_bind]
  dsimp only
  rw [hbodyStale, hrun]
  rfl

/-! ## Texts -/

theorem gStrlen_le (reason : Option CString) : gStrlen reason ≤ (charsOf reason).length := by
  cases reason with
  | none => exact Int.le_refl 0
  | some reason => exact int_le _

theorem replyLength_le (reason : Option CString) :
    replyLength reason ≤ (charsOf reason).length := by
  have h := gStrlen_le reason
  rw [replyLength]
  split <;> omega

/-- The length of a text that fits the stream. -/
theorem replyLength_eq {reason : Option CString} (h : (charsOf reason).length ≤ 8178) :
    replyLength reason = (charsOf reason).length := by
  have hlen : gStrlen reason = (charsOf reason).length := by
    cases reason with
    | none => rfl
    | some reason => exact int_of_small (Nat.lt_of_le_of_lt h (by decide))
  rw [replyLength, hlen, if_neg (by omega)]

/-- What is sent behind the command. -/
def textTail (reason : Option CString) : List UInt8 :=
  beBytes 2 (replyLength reason).toNat ++ (charsOf reason).take (replyLength reason).toNat

theorem textTail_length (reason : Option CString) :
    (textTail reason).length = 2 + (replyLength reason).toNat := by
  have hle := replyLength_le reason
  rw [textTail, List.length_append, beBytes_length, List.length_take, Nat.min_eq_left (by omega)]

/-- **What goes out with a text**, if it fits the stream. -/
theorem sendText_iff (outS : Stream 8192) (reason : Option CString) (sent : List UInt8) :
    sendText cmdset cmd outS reason = .ok sent ↔
      0 ≤ replyLength reason ∧ replyLength reason ≤ 8178 ∧
        sent = message cmdset cmd (textTail reason) := by
  rw [sendText]
  dsimp only
  by_cases hneg : replyLength reason < 0
  · rw [if_pos hneg]
    exact iff_of_false (fun h => nomatch h) fun h => absurd hneg (Int.not_lt.2 h.1)
  · have htail := textTail_length reason
    have hmessage : messageHead ((replyLength reason).toNat + 14) cmdset cmd ++
        (beBytes 2 (replyLength reason).toNat ++ (charsOf reason).take (replyLength reason).toNat) =
          message cmdset cmd (textTail reason) := by
      have hsize : (replyLength reason).toNat + 14 = 12 + (textTail reason).length := by omega
      rw [message, ← hsize, textTail]
    have hlen := message_length cmdset cmd (textTail reason)
    rw [if_neg hneg, hmessage, Run.bind_eq_ok, and_iff_right (Int.not_lt.1 hneg)]
    simp only [sendMessage_message outS (show (message cmdset cmd (textTail reason)).length =
      (replyLength reason).toNat + 14 by omega)]
    constructor
    · rintro ⟨r, ⟨hroom, rfl⟩, h⟩
      exact ⟨by omega, (Except.ok.inj h).symm⟩
    · rintro ⟨hroom, rfl⟩
      exact ⟨_, ⟨by omega, rfl⟩, rfl⟩

/-- The text of a string that is cut off. -/
theorem ofBuf_take_charsOf (reason : Option CString) {n : Nat}
    (h : n = (charsOf reason).length) : (CString.ofBuf ((charsOf reason).take n)).chars =
      charsOf reason := by
  rw [h, List.take_length]
  cases reason with
  | none => rfl
  | some reason => exact congrArg CString.chars reason.ofBuf_chars

/-- A reply with a text, and the function that reads it. -/
theorem readText_textTail {reason : Option CString} (s : ReplySession) (state : ScpClientState)
    (hle : replyLength reason ≤ 8178) (hge : 0 ≤ replyLength reason) (stale : List UInt8) :
    readText true s state (textTail reason ++ stale) = .ok ((state, { s with
      errstr := some (.ofBuf ((charsOf reason).take (replyLength reason).toNat)) }), stale) := by
  have hmax := replyLength_le reason
  have hlen : ((charsOf reason).take (replyLength reason).toNat).length =
      (UInt16.ofNat (replyLength reason).toNat).toNat := by
    rw [List.length_take, Nat.min_eq_left (by omega), UInt16.toNat_ofNat_of_lt'
      (by rw [UInt16.size]; omega)]
  rw [readText, textTail, List.append_assoc, bind_ok (inUint16Be_nat (by omega) _), if_pos rfl,
    bind_ok (inUint8a_append stale hlen)]
  rfl

/-- A reply with a text is understood just if its text fits the stream. -/
theorem understood_text {reply : Reply} {reason : Option CString} {state : ScpClientState}
    {outS : Stream 8192} {inS : Stream 8196} {s : ReplySession}
    (hsend : reply.send outS = sendText SCP_COMMAND_SET_DEFAULT cmd outS reason)
    (hreaders : reply.readers = [scpV1cCheckResponse true])
    (hread : ∀ p, readResponse true s (beBytes 2 SCP_COMMAND_SET_DEFAULT ++ (beBytes 2 cmd ++ p)) =
      readText true s state p)
    (hmeans : ∀ replyEnd, reply.Means replyEnd ↔
      replyEnd.1 = state ∧ charsOf replyEnd.2.errstr = charsOf reason) :
    Understood reply outS inS s ↔ (charsOf reason).length ≤ 8178 := by
  have hmax := replyLength_le reason
  -- what a client has of a text that has gone out
  have hclient : 0 ≤ replyLength reason → replyLength reason ≤ 8178 → ∀ rest,
      scpV1cCheckResponse true inS s (message SCP_COMMAND_SET_DEFAULT cmd (textTail reason) ++ rest) =
        .ok (state, { s with errstr := some (.ofBuf ((charsOf reason).take
          (replyLength reason).toNat)) }) := by
    intro hge hle rest
    have htail := textTail_length reason
    refine receiveReply_message inS s rest (by omega) (by omega) fun stale => ⟨stale, ?_⟩
    rw [hread, readText_textTail s state hle hge]
  constructor
  · rintro ⟨sent, hsent, -, read, hmem, replyEnd, hrun, hend⟩
    rw [hsend, sendText_iff] at hsent
    obtain ⟨hge, hle, rfl⟩ := hsent
    rw [hreaders, List.mem_singleton] at hmem
    subst hmem
    have heq := (hrun []).symm.trans (hclient hge hle [])
    cases heq
    obtain ⟨-, htext⟩ := (hmeans _).1 hend
    have hcut := CString.ofBuf_length_le ((charsOf reason).take (replyLength reason).toNat)
    have hlen : (charsOf reason).length ≤ (replyLength reason).toNat := by
      rw [← htext]
      refine Nat.le_trans hcut ?_
      rw [List.length_take]
      exact Nat.min_le_left _ _
    omega
  · intro hlen
    have heq := replyLength_eq hlen
    have htail := textTail_length reason
    refine ⟨_, hsend.trans ((sendText_iff outS reason _).2 ⟨by omega, by omega, rfl⟩),
      announcedSize_message (by omega), _, hreaders ▸ List.mem_singleton_self _, _,
      hclient (by omega) (by omega), (hmeans _).2 ⟨rfl, ?_⟩⟩
    exact ofBuf_take_charsOf reason (by omega)

/-! ## Replies without a text -/

section

variable {outS : Stream 8192} {inS : Stream 8196} {s : ReplySession}

theorem sendDisplay_ok (outS : Stream 8192) (cmd : Nat) (d : UInt16) :
    sendDisplay cmd outS d = .ok (message SCP_COMMAND_SET_DEFAULT cmd (beBytes 2 d.toNat)) := by
  have hmessage : messageHead 14 SCP_COMMAND_SET_DEFAULT cmd ++ beBytes 2 d.toNat =
      message SCP_COMMAND_SET_DEFAULT cmd (beBytes 2 d.toNat) := by
    rw [message, beBytes_length]
  have hlen : (message SCP_COMMAND_SET_DEFAULT cmd (beBytes 2 d.toNat)).length = 14 := by
    rw [message_length, beBytes_length]
  rw [sendDisplay, hmessage, ((sendMessage_message outS hlen).2 ⟨by decide, rfl⟩)]
  rfl

theorem sendHead_ok (outS : Stream 8192) (cmdset cmd : Nat) :
    sendHead cmdset cmd outS = .ok (message cmdset cmd []) := by
  have hmessage : messageHead 12 cmdset cmd = message cmdset cmd [] := by
    rw [message, List.append_nil]
    rfl
  have hlen : (message cmdset cmd []).length = 12 := message_length ..
  rw [sendHead, hmessage, ((sendMessage_message outS hlen).2 ⟨by decide, rfl⟩)]
  rfl

/-- A display is read. -/
theorem readResponse_display (memory : Bool) (d : UInt16) (stale : List UInt8) :
    readResponse memory s (beBytes 2 SCP_COMMAND_SET_DEFAULT ++ (beBytes 2 30 ++
      (beBytes 2 d.toNat ++ stale))) = .ok ((.ok, { s with display := d }), stale) := by
  rw [readResponse, bind_ok (inUint16Be_nat (by decide) _), if_neg (by decide),
    bind_ok (inUint16Be_nat (by decide) _), if_neg (by decide), if_neg (by decide),
    if_neg (by decide), if_pos (by decide), bind_ok (inUint16Be_append _ _)]
  rfl

theorem readSelected_display (d : UInt16) (stale : List UInt8) :
    readSelected s (beBytes 2 SCP_COMMAND_SET_DEFAULT ++ (beBytes 2 46 ++
      (beBytes 2 d.toNat ++ stale))) = .ok ((.ok, { s with display := d }), stale) := by
  rw [readSelected, bind_ok (inUint16Be_nat (by decide) _), if_neg (by decide),
    bind_ok (inUint16Be_nat (by decide) _), if_neg (by decide), bind_ok (inUint16Be_append _ _)]
  rfl

theorem understood_connectNewSession (d : UInt16) :
    Understood (.connectNewSession d) outS inS s := by
  refine ⟨_, sendDisplay_ok outS 30 d, announcedSize_message (by rw [beBytes_length]; decide), _,
    List.mem_singleton_self _, (.ok, { s with display := d }), fun rest => ?_, rfl, rfl⟩
  exact receiveReply_message inS s rest (by decide) (by rw [beBytes_length]; decide) fun stale =>
    ⟨stale, readResponse_display true d stale⟩

theorem understood_reconnectSession (d : UInt16) :
    Understood (.reconnectSession d) outS inS s := by
  refine ⟨_, sendDisplay_ok outS 46 d, announcedSize_message (by rw [beBytes_length]; decide), _,
    List.mem_singleton_self _, (.ok, { s with display := d }), fun rest => ?_, rfl, rfl⟩
  exact receiveReply_message inS s rest (by decide) (by rw [beBytes_length]; decide) fun stale =>
    ⟨stale, readSelected_display d stale⟩

theorem understood_sessionList : Understood .sessionList outS inS s := by
  refine ⟨_, sendHead_ok outS SCP_COMMAND_SET_DEFAULT 40, announcedSize_message (by decide), _,
    List.mem_singleton_self _, (.sessionList, s), fun rest => ?_, rfl⟩
  refine receiveReply_message inS s rest (by decide) (by decide) fun stale => ⟨stale, ?_⟩
  rw [readResponse, bind_ok (inUint16Be_nat (by decide) _), if_neg (by decide),
    bind_ok (inUint16Be_nat (by decide) _)]
  rfl

theorem understood_mngAllowConnection : Understood .mngAllowConnection outS inS s := by
  refine ⟨_, sendHead_ok outS SCP_COMMAND_SET_MANAGE SCP_CMD_MNG_LOGIN_ALLOW,
    announcedSize_message (by decide), _, List.mem_singleton_self _, (.ok, s), fun rest => ?_, rfl⟩
  refine receiveReply_message inS s rest (by decide) (by decide) fun stale => ⟨stale, ?_⟩
  rw [readMngResponse, bind_ok (inUint16Be_nat (by decide) _), if_neg (by decide),
    bind_ok (inUint16Be_nat (by decide) _), if_pos (by decide)]
  rfl

/-! ## Replies that are not understood -/

/-- A connection error goes out with what the stream holds in the place of its text. -/
theorem scpV1sConnectionError_sent {error : Option CString} {sent : List UInt8}
    (h : scpV1sConnectionError outS error = .ok sent) : ∃ tail, tail.length ≤ 8180 ∧
      sent = message SCP_COMMAND_SET_DEFAULT SCP_CMD_CONN_ERROR tail := by
  have hdata := outS.data_length
  obtain ⟨len, hlen⟩ : ∃ len, len = (gStrlen error % 2 ^ 16).toNat := ⟨_, rfl⟩
  obtain ⟨head, hhead⟩ : ∃ head, head =
    messageHead (12 + len) SCP_COMMAND_SET_DEFAULT SCP_CMD_CONN_ERROR := ⟨_, rfl⟩
  have hheadLen : head.length = 12 := by rw [hhead, messageHead_length]
  rw [scpV1sConnectionError] at h
  dsimp only at h
  rw [← hlen, ← hhead, sendMessage, putBytes, if_pos (by omega), Run.ok_bind, scpTcpForceSend] at h
  have hdataLen : (head ++ outS.data.drop head.length).length = 8192 := by
    rw [List.length_append, List.length_drop]
    omega
  rw [hdataLen, Int.toNat_natCast] at h
  split at h
  case isFalse => cases h
  case isTrue hroom =>
    cases h
    have htail : ((outS.data.drop 12).take len).length = len := by
      rw [List.length_take, List.length_drop]
      omega
    refine ⟨(outS.data.drop 12).take len, by omega, ?_⟩
    rw [message, htail, ← hhead, hheadLen, ← hheadLen, List.take_length_add_append]

theorem not_understood_connectionError (error : Option CString) :
    ¬Understood (.connectionError error) outS inS s := by
  rintro ⟨sent, hsent, -, read, hmem, replyEnd, hrun, hend⟩
  obtain ⟨tail, htail, rfl⟩ := scpV1sConnectionError_sent hsent
  have hresponse : scpV1cCheckResponse true inS s
      (message SCP_COMMAND_SET_DEFAULT SCP_CMD_CONN_ERROR tail ++ []) = .ok (.sequenceErr, s) := by
    refine receiveReply_message inS s [] (by decide) htail fun stale => ⟨tail ++ stale, ?_⟩
    rw [readResponse, bind_ok (inUint16Be_nat (by decide) _), if_neg (by decide),
      bind_ok (inUint16Be_nat (by decide) _)]
    rfl
  have hselected : scpV1cSelectSession inS s
      (message SCP_COMMAND_SET_DEFAULT SCP_CMD_CONN_ERROR tail ++ []) = .ok (.sequenceErr, s) := by
    refine receiveReply_message inS s [] (by decide) htail fun stale => ⟨tail ++ stale, ?_⟩
    rw [readSelected, bind_ok (inUint16Be_nat (by decide) _), if_neg (by decide),
      bind_ok (inUint16Be_nat (by decide) _)]
    rfl
  have hstate : replyEnd = (.sequenceErr, s) := by
    rcases List.mem_cons.1 hmem with rfl | hmem
    · exact Except.ok.inj ((hrun []).symm.trans hresponse)
    · rw [List.mem_singleton.1 hmem] at hrun
      exact Except.ok.inj ((hrun []).symm.trans hselected)
  rw [hstate] at hend
  cases hend.1

/-- A client takes one byte of the length for the whole of it, and the other for a part of the text. -/
theorem readMngResponse_textTail {reason : Option CString} (hge : 0 ≤ replyLength reason)
    (hle : replyLength reason ≤ 8178) : ∃ buf : List UInt8,
      buf.length = (replyLength reason).toNat / 256 ∧ ∀ stale, ∃ left,
        readMngResponse true s (beBytes 2 SCP_COMMAND_SET_MANAGE ++ (beBytes 2 SCP_CMD_MNG_LOGIN_DENY ++
          (textTail reason ++ stale))) =
            .ok ((.connectionDenied, { s with errstr := some (.ofBuf buf) }), left) := by
  have hmax := replyLength_le reason
  obtain ⟨n, hn⟩ : ∃ n, n = (replyLength reason).toNat := ⟨_, rfl⟩
  obtain ⟨text, htext⟩ : ∃ text, text = UInt8.ofNat n :: (charsOf reason).take n := ⟨_, rfl⟩
  have htextLen : text.length = n + 1 := by
    rw [htext, List.length_cons, List.length_take, Nat.min_eq_left (by omega)]
  have htail : textTail reason = UInt8.ofNat (n / 256) :: text := by
    rw [textTail, ← hn, htext]
    rfl
  have hdim : (UInt8.ofNat (n / 256)).toNat = n / 256 :=
    UInt8.toNat_ofNat_of_lt' (by rw [UInt8.size]; omega)
  have hbuf : (text.take (n / 256)).length = (UInt8.ofNat (n / 256)).toNat := by
    rw [List.length_take, htextLen, hdim]
    omega
  refine ⟨text.take (n / 256), by rw [hbuf, hdim, hn], fun stale =>
    ⟨text.drop (n / 256) ++ stale, ?_⟩⟩
  have hread := inUint8a_append (text.drop (n / 256) ++ stale) hbuf
  rw [← List.append_assoc, List.take_append_drop] at hread
  rw [htail, readMngResponse, bind_ok (inUint16Be_nat (by decide) _), if_neg (by decide),
    bind_ok (inUint16Be_nat (by decide) _), if_neg (by decide), if_pos (by decide),
    List.cons_append, bind_ok (inUint8_cons _ _), bind_ok hread]
  rfl

/-- A denial of management is understood just if it has no text. -/
theorem understood_mngDenyConnection (reason : Option CString) :
    Understood (.mngDenyConnection reason) outS inS s ↔ charsOf reason = [] := by
  have hmax := replyLength_le reason
  have htail := textTail_length reason
  have hclient : 0 ≤ replyLength reason → replyLength reason ≤ 8178 → ∃ buf : List UInt8,
      buf.length = (replyLength reason).toNat / 256 ∧ ∀ rest, scpV1cMngCheckResponse true inS s
        (message SCP_COMMAND_SET_MANAGE SCP_CMD_MNG_LOGIN_DENY (textTail reason) ++ rest) =
          .ok (.connectionDenied, { s with errstr := some (.ofBuf buf) }) := by
    intro hge hle
    obtain ⟨buf, hbuf, hread⟩ := readMngResponse_textTail (s := s) hge hle
    exact ⟨buf, hbuf, fun rest =>
      receiveReply_message inS s rest (by decide) (by omega) fun stale => hread stale⟩
  constructor
  · rintro ⟨sent, hsent, -, read, hmem, replyEnd, hrun, hend⟩
    obtain ⟨hge, hle, rfl⟩ := (sendText_iff outS reason sent).1 hsent
    obtain ⟨buf, hbuf, hclient⟩ := hclient hge hle
    rw [List.mem_singleton.1 hmem] at hrun
    have heq := Except.ok.inj ((hrun []).symm.trans (hclient []))
    rw [heq] at hend
    have htext : (CString.ofBuf buf).chars = charsOf reason := hend.2
    have hcut := CString.ofBuf_length_le buf
    rw [htext] at hcut
    exact List.length_eq_zero_iff.1 (by omega)
  · intro hnil
    have hfits : (charsOf reason).length ≤ 8178 := by
      rw [hnil]
      decide
    have heq := replyLength_eq hfits
    rw [hnil, List.length_nil] at heq
    obtain ⟨buf, hbuf, hclient⟩ := hclient (by omega) (by omega)
    have hbufNil : buf = [] := List.length_eq_zero_iff.1 (by omega)
    refine ⟨_, (sendText_iff outS reason _).2 ⟨by omega, by omega, rfl⟩,
      announcedSize_message (by omega), _, List.mem_singleton_self _, _, hclient, rfl, ?_⟩
    rw [hbufNil, hnil]
    rfl

end

/-! ## The whole -/

/-- The replies that can be understood. -/
def Reply.Fits : Reply → Prop
  | .connectNewSession _ | .sessionList | .reconnectSession _ | .mngAllowConnection => True
  | .denyConnection reason | .requestPassword reason => (charsOf reason).length ≤ 8178
  | .mngDenyConnection reason => charsOf reason = []
  | .connectionError _ => False

/-- **Which replies are understood**, whatever the streams held before. -/
theorem reply_understood_iff (reply : Reply) (outS : Stream 8192) (inS : Stream 8196)
    (s : ReplySession) : Understood reply outS inS s ↔ reply.Fits := by
  cases reply with
  | connectNewSession d => exact iff_of_true (understood_connectNewSession d) trivial
  | denyConnection reason =>
    have hread : ∀ p, readResponse true s (beBytes 2 SCP_COMMAND_SET_DEFAULT ++ (beBytes 2 2 ++ p)) =
        readText true s .connectionDenied p := by
      intro p
      rw [readResponse, bind_ok (inUint16Be_nat (by decide) _), if_neg (by decide),
        bind_ok (inUint16Be_nat (by decide) _), if_pos (by decide)]
    exact understood_text rfl rfl hread fun _ => Iff.rfl
  | requestPassword reason =>
    have hread : ∀ p, readResponse true s (beBytes 2 SCP_COMMAND_SET_DEFAULT ++ (beBytes 2 3 ++ p)) =
        readText true s .resendCredentials p := by
      intro p
      rw [readResponse, bind_ok (inUint16Be_nat (by decide) _), if_neg (by decide),
        bind_ok (inUint16Be_nat (by decide) _), if_neg (by decide), if_pos (by decide)]
    exact understood_text rfl rfl hread fun _ => Iff.rfl
  | connectionError error => exact iff_of_false (not_understood_connectionError error) id
  | sessionList => exact iff_of_true understood_sessionList trivial
  | reconnectSession d => exact iff_of_true (understood_reconnectSession d) trivial
  | mngAllowConnection => exact iff_of_true understood_mngAllowConnection trivial
  | mngDenyConnection reason => exact understood_mngDenyConnection reason

/-- A denial of management that says `no`. -/
theorem mng_denial_lost : ¬∀ reply outS inS s, Understood reply outS inS s := by
  intro h
  have hnil := (understood_mngDenyConnection (some ⟨[0x6e, 0x6f], by decide⟩)).1
    (h _ (zeroStream 8192) (zeroStream 8196) ⟨0, none⟩)
  cases hnil

end Xrdp.Scp
