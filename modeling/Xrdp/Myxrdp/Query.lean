import Mathlib.Logic.Function.Basic
import Xrdp.Lib.CharArrays
import Xrdp.Lib.Yields
import Xrdp.Memory

/-!
# The query for a connection

A service is asked over UDP where a session is to be connected to (`xrdp/myxrdp_query.c`); its answer
is JSON, whose strings are copied into the arrays of a record.

* `ConnInfo`, `parseConnection`, `queryConnRedisServer` — the record, and the query.
* `QueryRight` — what a query should leave.
* `query_iff` — the condition under which it does.
-/

namespace Xrdp.Myxrdp

open CharArrays

/-! ## JSON -/

/-- A `cJSON`. -/
inductive Json where
  | null
  | bool (b : Bool)
  | number (n : Int)
  | string (s : Text)
  | array (items : List Json)
  | object (members : List (Text × Json))

/-- `cJSON_Parse` of a text, and `cJSON_Print`. -/
structure CJson where
  parse : Text → Option Json
  print : Json → Text

/-- The bytes of a literal. -/
def ofString (s : String) : List UInt8 := s.toList.map fun c => UInt8.ofNat c.toNat

/-- `tolower`. -/
def tolower (c : UInt8) : UInt8 := if 65 ≤ c ∧ c ≤ 90 then c + 32 else c

/-- `cJSON_GetObjectItem`: the first member whose name is `name`, whatever the case. -/
def getObjectItem (name : List UInt8) : Json → Option Json
  | .object members =>
    (members.find? fun m => m.1.bytes.map tolower = name.map tolower).map (·.2)
  | _ => none

/-! ## The record -/

/-- The strings of a `ConnInfo_t` that are in the answer. -/
inductive StringField where
  | hostname
  | username
  | password
  | port
  | protocol
  | connectPath
  | domain
  | initialProgram
  | securityType
  | console
  deriving DecidableEq, Repr

/-- The size of its array. -/
def StringField.size : StringField → Nat
  | .hostname => 256
  | .username => 256
  | .password => 256
  | .port => 20
  | .protocol => 128
  | .connectPath => 256
  | .domain => 256
  | .initialProgram => 256
  | .securityType => 20
  | .console => 256

/-- Its key. -/
def StringField.key : StringField → List UInt8
  | .hostname => ofString "hostname"
  | .username => ofString "username"
  | .password => ofString "password"
  | .port => ofString "port"
  | .protocol => ofString "protocol"
  | .connectPath => ofString "connect_path"
  | .domain => ofString "domain"
  | .initialProgram => ofString "initial-program"
  | .securityType => ofString "security"
  | .console => ofString "console"

/-- The flags. -/
inductive FlagField where
  | shareDaskFlag
  | upsideClipFlag
  | downsideClipFlag
  | fileUpsideClipFlag
  | fileDownsideClipFlag
  | mstsc
  deriving DecidableEq, Repr

def FlagField.key : FlagField → List UInt8
  | .shareDaskFlag => ofString "enable-drive"
  | .upsideClipFlag => ofString "upside_clip_flag"
  | .downsideClipFlag => ofString "downside_clip_flag"
  | .fileUpsideClipFlag => ofString "file_upside_clip_flag"
  | .fileDownsideClipFlag => ofString "file_downside_clip_flag"
  | .mstsc => ofString "mstsc"

/-- `ConnInfo_t`. -/
structure ConnInfo where
  string : (f : StringField) → Chars f.size
  flag : FlagField → Int
  ssid : Chars 256

/-- What is used of `struct xrdp_client_info`. -/
structure ClientInfo where
  username : Chars 256
  terminated : username.Terminated
  width : Int
  height : Int
  bpp : Int

/-- The name as a text. -/
def ClientInfo.name (client : ClientInfo) : Text := ⟨client.username.text, zero_notMem_text _⟩

/-! ## The query -/

/-- `my_mem_copy`. -/
def myMemCopy {n : Nat} (dest : Chars n) (src : Text) : Chars n :=
  if h : n < src.bytes.length then dest else (Chars.zero n).put src.bytes (Nat.not_lt.1 h)

/-- `value_string_update`. -/
def valueStringUpdate {n : Nat} (item : Option Json) (pbuf : Chars n) : Chars n :=
  match item with
  | some (.string s) => myMemCopy pbuf s
  | _ => pbuf

/-- `value_bool_update`. -/
def valueBoolUpdate (item : Option Json) (num : Int) : Int :=
  match item with
  | some (.string s) => if s.bytes = ofString "true" then 1 else num
  | _ => num

/-- `parse_connection`: the update of each field. -/
def parseConnection (J : CJson) (buffer : Text) (conn : ConnInfo) : Bool × ConnInfo :=
  match J.parse buffer with
  | none => (false, conn)
  | some root =>
    (true, { conn with
      string := fun f => valueStringUpdate (getObjectItem f.key root) (conn.string f)
      flag := fun f => valueBoolUpdate (getObjectItem f.key root) (conn.flag f) })

/-- `packet_json_string`. -/
def packetJsonString (client : ClientInfo) : Json :=
  .object [
    (⟨ofString "type", by decide⟩, .string ⟨ofString "YHXX", by decide⟩),
    (⟨ofString "sessionId", by decide⟩, .string client.name),
    (⟨ofString "width", by decide⟩, .number client.width),
    (⟨ofString "height", by decide⟩, .number client.height),
    (⟨ofString "bpp", by decide⟩, .number client.bpp)]

/-- The environment: cJSON, and whether there is a log. -/
structure Setting where
  json : CJson
  logs : Bool

/-- The text of the query. -/
def Setting.packet (S : Setting) (client : ClientInfo) : List UInt8 :=
  (S.json.print (packetJsonString client)).bytes

/-- `LOG_BUFFER_SIZE`. -/
def logBufferSize : Nat := 1024

/-- `log_message`: `vsnprintf` keeps to its size, but `len` is that of the whole text, and a newline and
a zero are put at `buff[len + 28]`. -/
def Setting.logMessage (S : Setting) (text : List UInt8) : Run Unit :=
  if S.logs = false then .ok ()
  else if text.length + 29 < logBufferSize + 31 then .ok ()
  else .error .outOfBounds

/-- A text is read up to its zero. -/
def cString (bs : List UInt8) : Run Text :=
  if Terminated bs then .ok ⟨text bs, zero_notMem_text bs⟩ else .error .outOfBounds

/-- What becomes of the query outside. -/
inductive Exchange where
  | noSocket
  | notSent
  | noReply
  | reply (datagram : List UInt8)

/-- `buffer` when `recvfrom` has had a datagram. -/
def recvBuffer (datagram : List UInt8) : List UInt8 :=
  datagram.take 2048 ++ List.replicate (2048 - (datagram.take 2048).length) 0

/-- `udp_recv_data` with what follows it. -/
def receive (S : Setting) (conn : ConnInfo) (datagram : List UInt8) : Run (Bool × ConnInfo) :=
  if datagram = [] then .ok (false, conn)
  else do
    if S.logs then
      let s ← cString (recvBuffer datagram)
      S.logMessage (ofString "udp_recv:" ++ s.bytes ++ ofString "\n")
    let s ← cString (recvBuffer datagram)
    return parseConnection S.json s conn

/-- `query_conn_redis_server`. -/
def queryConnRedisServer (S : Setting) (conn : ConnInfo) (client : ClientInfo) (e : Exchange) :
    Run (Bool × ConnInfo) :=
  let conn := { conn with ssid := myMemCopy conn.ssid client.name }
  match e with
  | .noSocket => .ok (false, conn)
  | .notSent => do
    S.logMessage (ofString "send packet failed:" ++ S.packet client)
    return (false, conn)
  | .noReply => do
    S.logMessage (ofString "send:" ++ S.packet client)
    return (false, conn)
  | .reply datagram => do
    S.logMessage (ofString "send:" ++ S.packet client)
    receive S conn datagram

/-! ## What is promised -/

/-- The reply, up to its first zero. -/
def replyText (datagram : List UInt8) : Text := ⟨text (datagram.take 2048), zero_notMem_text _⟩

/-- The JSON of a reply. -/
def replyJson (S : Setting) : Exchange → Option Json
  | .reply datagram => if datagram = [] then none else S.json.parse (replyText datagram)
  | _ => none

/-- The string of a key, if there is one. -/
def stringOf (key : List UInt8) (root : Option Json) : Option Text :=
  match root.bind (getObjectItem key) with
  | some (.string s) => some s
  | _ => none

/-- All strings are terminated, and each is the one of its key if that fits, and as before if not. -/
structure QueryRight (S : Setting) (conn : ConnInfo) (e : Exchange) (conn' : ConnInfo) : Prop where
  terminated : ∀ f, (conn'.string f).Terminated
  ssid : conn'.ssid.Terminated
  copied : ∀ f s, stringOf f.key (replyJson S e) = some s → s.bytes.length < f.size →
    (conn'.string f).text = s.bytes
  kept : ∀ f, (∀ s, stringOf f.key (replyJson S e) = some s → f.size ≤ s.bytes.length) →
    conn'.string f = conn.string f

/-! ## When it holds -/

/-- A text that can be logged. -/
def LogFits (S : Setting) (length : Nat) : Prop := S.logs = true → length ≤ 1025

/-- A string does not fill its array; and one that does not come, or is too long, is terminated
already. -/
def FieldFits {n : Nat} (old : Chars n) : Option Text → Prop
  | some s => s.bytes.length ≠ n ∧ (n < s.bytes.length → old.Terminated)
  | none => old.Terminated

/-- The condition: on every field, and what is logged is not too long; the reply has a zero or is shorter
than the buffer. -/
def QueryFits (S : Setting) (conn : ConnInfo) (client : ClientInfo) (e : Exchange) : Prop :=
  (∀ f, FieldFits (conn.string f) (stringOf f.key (replyJson S e))) ∧
    match e with
    | .noSocket => True
    | .notSent => LogFits S (19 + (S.packet client).length)
    | .noReply => LogFits S (5 + (S.packet client).length)
    | .reply datagram => LogFits S (5 + (S.packet client).length) ∧
      (datagram ≠ [] → (datagram.length < 2048 ∨ 0 ∈ datagram.take 2048) ∧
        LogFits S (10 + (replyText datagram).bytes.length))

/-! ## Steps -/

theorem logMessage_bind {β : Type} {S : Setting} {t : List UInt8} {f : Unit → Run β} {P : β → Prop} :
    (S.logMessage t >>= f).Yields P ↔ LogFits S t.length ∧ (f ()).Yields P := by
  unfold Setting.logMessage LogFits
  cases S.logs with
  | false => simp
  | true =>
    have hsize : t.length + 29 < logBufferSize + 31 ↔ t.length ≤ 1025 := by
      unfold logBufferSize
      omega
    simp only [Bool.true_eq_false, if_false, forall_const, Except.yields_guard_bind, hsize]

theorem cString_bind {β : Type} {bs : List UInt8} {f : Text → Run β} {P : β → Prop} :
    (cString bs >>= f).Yields P ↔
      Terminated bs ∧ (f ⟨text bs, zero_notMem_text bs⟩).Yields P :=
  Except.yields_guard_bind

theorem terminated_recvBuffer (datagram : List UInt8) :
    Terminated (recvBuffer datagram) ↔ datagram.length < 2048 ∨ 0 ∈ datagram.take 2048 := by
  unfold Terminated recvBuffer
  rw [List.mem_append, List.mem_replicate, List.length_take, Or.comm]
  refine or_congr_left ?_
  simp only [and_true, ne_eq]
  omega

theorem text_recvBuffer (datagram : List UInt8) :
    (⟨text (recvBuffer datagram), zero_notMem_text _⟩ : Text) = replyText datagram := by
  unfold replyText
  simp only [recvBuffer, text_append_replicate]

/-- What an update of a string comes to. -/
theorem valueStringUpdate_right {n : Nat} (old : Chars n) (item : Option Json) (s? : Option Text)
    (hs : s? = match item with
      | some (.string s) => some s
      | _ => none) :
    ((valueStringUpdate item old).Terminated ∧
      (∀ s, s? = some s → s.bytes.length < n → (valueStringUpdate item old).text = s.bytes) ∧
      ((∀ s, s? = some s → n ≤ s.bytes.length) → valueStringUpdate item old = old)) ↔
      FieldFits old s? := by
  have hkept : (old.Terminated ∧ (∀ s : Text, none = some s → s.bytes.length < n → old.text = s.bytes) ∧
      ((∀ s : Text, none = some s → n ≤ s.bytes.length) → old = old)) ↔ FieldFits old none := by
    simp [FieldFits]
  cases item with
  | none =>
    subst hs
    exact hkept
  | some json =>
    cases json with
    | string s =>
      subst hs
      simp only [FieldFits, Option.some.injEq, forall_eq']
      unfold valueStringUpdate myMemCopy
      dsimp only
      split
      · rename_i hlong
        simp [hlong, Nat.ne_of_gt hlong, Nat.not_lt.2 hlong.le]
      · rename_i hshort
        rcases Nat.lt_or_eq_of_le (Nat.not_lt.1 hshort) with hlt | heq
        · obtain ⟨htext, hterminated⟩ := Chars.text_put_zero s.noZero hlt
          refine iff_of_true ⟨hterminated, fun _ => htext, fun hle => ?_⟩ ⟨hlt.ne, fun hgt => ?_⟩
          · omega
          · omega
        · exact iff_of_false (fun hright => Chars.not_terminated_put s.noZero _ heq hright.1)
            (fun hfits => hfits.1 heq)
    | null =>
      subst hs
      exact hkept
    | bool b =>
      subst hs
      exact hkept
    | number k =>
      subst hs
      exact hkept
    | array items =>
      subst hs
      exact hkept
    | object members =>
      subst hs
      exact hkept

/-- The record when all strings have been updated. -/
theorem queryRight_iff {S : Setting} {conn conn' : ConnInfo} {client : ClientInfo} {e : Exchange}
    (hssid : conn'.ssid = myMemCopy conn.ssid client.name)
    (hstring : ∀ f, conn'.string f =
      valueStringUpdate ((replyJson S e).bind (getObjectItem f.key)) (conn.string f)) :
    QueryRight S conn e conn' ↔
      ∀ f, FieldFits (conn.string f) (stringOf f.key (replyJson S e)) := by
  have hname : client.name.bytes.length < 256 := by
    have hlt := text_length_lt client.terminated
    rwa [List.Vector.toList_length] at hlt
  have hterminated : conn'.ssid.Terminated := by
    rw [hssid, myMemCopy, dif_neg (Nat.not_lt.2 hname.le)]
    exact (Chars.text_put_zero client.name.noZero hname).2
  have hfield := fun f : StringField => valueStringUpdate_right (conn.string f)
    ((replyJson S e).bind (getObjectItem f.key)) (stringOf f.key (replyJson S e)) rfl
  simp only [← hstring] at hfield
  constructor
  · intro h f
    exact (hfield f).1 ⟨h.terminated f, h.copied f, h.kept f⟩
  · intro h
    refine ⟨fun f => ((hfield f).2 (h f)).1, hterminated, fun f => ((hfield f).2 (h f)).2.1,
      fun f => ((hfield f).2 (h f)).2.2⟩

/-- A query without an answer. -/
theorem unanswered_iff {S : Setting} {conn : ConnInfo} {client : ClientInfo} {e : Exchange}
    (he : replyJson S e = none) :
    QueryRight S conn e { conn with ssid := myMemCopy conn.ssid client.name } ↔
      ∀ f, FieldFits (conn.string f) (stringOf f.key (replyJson S e)) :=
  queryRight_iff rfl fun f => by rw [he]; rfl

theorem parseConnection_right {S : Setting} {conn : ConnInfo} {client : ClientInfo}
    {datagram : List UInt8} (hne : datagram ≠ []) :
    QueryRight S conn (.reply datagram)
        (parseConnection S.json (replyText datagram)
          { conn with ssid := myMemCopy conn.ssid client.name }).2 ↔
      ∀ f, FieldFits (conn.string f) (stringOf f.key (replyJson S (.reply datagram))) := by
  have hjson : replyJson S (.reply datagram) = S.json.parse (replyText datagram) := if_neg hne
  unfold parseConnection
  cases hparse : S.json.parse (replyText datagram) with
  | none => exact unanswered_iff (hjson.trans hparse)
  | some root =>
    refine queryRight_iff rfl fun f => ?_
    rw [hjson, hparse]
    rfl

theorem receive_iff (S : Setting) (conn : ConnInfo) (client : ClientInfo) (datagram : List UInt8) :
    (receive S { conn with ssid := myMemCopy conn.ssid client.name } datagram).Yields
        (fun r => QueryRight S conn (.reply datagram) r.2) ↔
      (∀ f, FieldFits (conn.string f) (stringOf f.key (replyJson S (.reply datagram)))) ∧
        (datagram ≠ [] → (datagram.length < 2048 ∨ 0 ∈ datagram.take 2048) ∧
          LogFits S (10 + (replyText datagram).bytes.length)) := by
  unfold receive
  by_cases hempty : datagram = []
  · rw [if_pos hempty, Except.yields_ok]
    simp only [hempty, ne_eq, not_true_eq_false, false_imp_iff, and_true]
    exact unanswered_iff rfl
  rw [if_neg hempty]
  have hlog : (ofString "udp_recv:" ++ (replyText datagram).bytes ++ ofString "\n").length =
      10 + (replyText datagram).bytes.length := by
    rw [List.length_append, List.length_append]
    show 9 + _ + 1 = _
    omega
  have hparse : QueryRight S conn (.reply datagram) (parseConnection S.json (replyText datagram)
      { conn with ssid := myMemCopy conn.ssid client.name }).2 ↔ _ := parseConnection_right hempty
  have hlast : (do
      let s ← cString (recvBuffer datagram)
      return parseConnection S.json s
        { conn with ssid := myMemCopy conn.ssid client.name } : Run (Bool × ConnInfo)).Yields
        (fun r => QueryRight S conn (.reply datagram) r.2) ↔
      (datagram.length < 2048 ∨ 0 ∈ datagram.take 2048) ∧
        ∀ f, FieldFits (conn.string f) (stringOf f.key (replyJson S (.reply datagram))) := by
    rw [cString_bind, text_recvBuffer, terminated_recvBuffer, Except.yields_pure, hparse]
  simp only [ne_eq, hempty, not_false_eq_true, forall_const]
  cases hlogs : S.logs with
  | false =>
    have hfits : LogFits S (10 + (replyText datagram).bytes.length) := by simp [LogFits, hlogs]
    show Except.Yields (do
      let s ← cString (recvBuffer datagram)
      return parseConnection S.json s _ : Run (Bool × ConnInfo)) _ ↔ _
    rw [hlast, and_iff_left hfits, and_comm]
  | true =>
    show Except.Yields (do
      let s ← cString (recvBuffer datagram)
      S.logMessage (ofString "udp_recv:" ++ s.bytes ++ ofString "\n")
      let s ← cString (recvBuffer datagram)
      return parseConnection S.json s _ : Run (Bool × ConnInfo)) _ ↔ _
    rw [cString_bind, text_recvBuffer, terminated_recvBuffer, logMessage_bind, hlog, hlast]
    tauto

/-- **The query for a connection**: it leaves every string terminated and as the answer says, just if
no string fills its array exactly, the others have been terminated before, the answer fits the buffer
with a zero, and what is logged fits that of the log. -/
theorem query_iff (S : Setting) (conn : ConnInfo) (client : ClientInfo) (e : Exchange) :
    (queryConnRedisServer S conn client e).Yields (fun r => QueryRight S conn e r.2) ↔
      QueryFits S conn client e := by
  have hsend : (ofString "send:" ++ S.packet client).length = 5 + (S.packet client).length :=
    List.length_append
  unfold queryConnRedisServer QueryFits
  dsimp only
  cases e with
  | noSocket => rw [Except.yields_ok, unanswered_iff rfl, and_true]
  | notSent =>
    have hfailed : (ofString "send packet failed:" ++ S.packet client).length =
        19 + (S.packet client).length := List.length_append
    rw [logMessage_bind, hfailed, Except.yields_pure, unanswered_iff rfl, and_comm]
  | noReply => rw [logMessage_bind, hsend, Except.yields_pure, unanswered_iff rfl, and_comm]
  | reply datagram =>
    rw [logMessage_bind, hsend, receive_iff]
    tauto

/-! ## A string that fills its array -/

/-- A reply with a port of 20 characters. -/
def fullPort : List UInt8 := ofString "\x7b\"port\":\"01234567890123456789\"\x7d"

/-- The query of a client without a name. -/
def queryText : List UInt8 :=
  ofString "\x7b\n\t\"type\":\t\"YHXX\",\n\t\"sessionId\":\t\"\",\n\t\"width\":\t1024," ++
    ofString "\n\t\"height\":\t768,\n\t\"bpp\":\t24\n\x7d"

/-- What is parsed of that reply. -/
def fullPortSetting : Setting where
  json := {
    parse := fun s => if s.bytes = fullPort then
        some (.object [(⟨ofString "port", by decide⟩,
          .string ⟨ofString "01234567890123456789", by decide⟩)])
      else none
    print := fun _ => ⟨queryText, by decide⟩ }
  logs := true

/-- The port is left without a zero. -/
theorem full_port_not_terminated :
    ¬ (queryConnRedisServer fullPortSetting ⟨fun f => .zero f.size, fun _ => 0, .zero 256⟩
        ⟨.zero 256, by decide, 1024, 768, 24⟩ (.reply fullPort)).Yields
      (fun r => QueryRight fullPortSetting ⟨fun f => .zero f.size, fun _ => 0, .zero 256⟩
        (.reply fullPort) r.2) := by
  rintro ⟨r, hrun, hright⟩
  have hport := hright.terminated .port
  cases hrun
  revert hport
  decide

end Xrdp.Myxrdp
