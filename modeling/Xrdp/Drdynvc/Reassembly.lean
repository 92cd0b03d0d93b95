import Xrdp.Drdynvc.Channel

/-!
# Putting the chunks of a dynamic-channel PDU together

A PDU in one chunk is processed as it is.  One in several chunks is collected in the stream of the
channel layer, and the byte read as its command is the one behind the collected bytes.

* `feed` — a sequence of chunks.
* `feed_split` — a PDU in several chunks makes the reader leave the stream.
* `feed_notFirst`, `feed_exceeds` — so do chunks out of order, and more bytes than announced in
  several chunks.
* `refused_iff` — which PDUs in one chunk are refused; how many bytes are announced does not matter.
* `reassembly_iff` — chunks are processed as they should be just if there is nothing to put
  together.
-/

namespace Xrdp.Dvc

open Wire

/-- A chunk of a static channel. -/
structure Chunk where
  totalLength : UInt32
  flags : UInt32
  bytes : List UInt8

def Chunk.packet (c : Chunk) : List UInt8 :=
  leBytes 4 c.totalLength.toNat ++ (leBytes 4 c.flags.toNat ++ c.bytes)

/-- What two sequences of chunks have in common if they have the same effect: the last return
value, `drdynvc_state` and the dynamic channels, and the calls. -/
structure Effect where
  rv : Int
  drdynvcState : Nat
  drdynvcs : Nat → Drdynvc
  calls : List Call

section

variable (callback : Call → Int) (fresh : Nat → UInt8)

/-- The replies to a sequence of chunks, each processed in the state after those before it. -/
def feed (self : Channel) : List Chunk → Run (List Reply)
  | [] => .ok []
  | c :: cs => do
    let r ← xrdpChannelProcessDrdynvc callback fresh self c.packet
    let rs ← feed r.self cs
    pure (r :: rs)

/-- The effect of a sequence of chunks. -/
def effect (self : Channel) (cs : List Chunk) : Run Effect := do
  let rs ← feed callback fresh self cs
  let last := rs.getLastD ⟨0, self, []⟩
  pure ⟨last.rv, last.self.drdynvcState, last.self.drdynvcs, rs.flatMap Reply.calls⟩

/-- The PDU in one chunk. -/
def whole (pdu : List UInt8) : Chunk := ⟨UInt32.ofNat pdu.length, 3, pdu⟩

/-- What is done with a PDU in one chunk. -/
def processWhole (self : Channel) : List UInt8 → Run Reply
  | [] => .error .outOfBounds
  | cmd :: s => processCmd callback self cmd.toNat s

/-- What is behind the flags, by flags. -/
theorem process_packet (self : Channel) (c : Chunk) :
    xrdpChannelProcessDrdynvc callback fresh self c.packet =
      if c.flags.toNat &&& 3 = 0 then do
        let ls ← outUint8a self.s c.bytes
        pure ⟨0, { self with s := some ls }, []⟩
      else if c.flags.toNat &&& 3 = 1 then do
        let ls ← outUint8a (some (initStream fresh (signed32 c.totalLength.toNat))) c.bytes
        pure ⟨0, { self with s := some ls }, []⟩
      else if c.flags.toNat &&& 3 = 2 then do
        let ls ← outUint8a self.s c.bytes
        let (cmd, ls) ← inUint8 ls
        processCmd callback { self with s := some ls } cmd []
      else processWhole callback self c.bytes := by
  have htotal : c.totalLength.toNat % 256 ^ 4 = c.totalLength.toNat :=
    Nat.mod_eq_of_lt c.totalLength.toNat_lt
  have hflags : c.flags.toNat % 256 ^ 4 = c.flags.toNat := Nat.mod_eq_of_lt c.flags.toNat_lt
  simp only [xrdpChannelProcessDrdynvc, Chunk.packet, getLe_leBytes, htotal, hflags]
  rfl

end

/-! ## Sequences of chunks -/

/-- The bytes of chunks. -/
def bytesOf (cs : List Chunk) : List UInt8 := cs.flatMap Chunk.bytes

/-- The chunks of a PDU behind the first one: the last one is flagged. -/
def IsRest (total : Nat) : List Chunk → Prop
  | [] => False
  | [c] => c.flags.toNat &&& 3 = 2 ∧ c.totalLength.toNat = total
  | c :: cs => c.flags.toNat &&& 3 = 0 ∧ c.totalLength.toNat = total ∧ IsRest total cs

/-- `cs` is `pdu` in chunks. -/
def IsSplit (pdu : List UInt8) : List Chunk → Prop
  | [] => False
  | [c] => c.flags.toNat &&& 3 = 3 ∧ c.totalLength.toNat = pdu.length ∧ c.bytes = pdu
  | c :: cs => c.flags.toNat &&& 3 = 1 ∧ c.totalLength.toNat = pdu.length ∧
    IsRest pdu.length cs ∧ bytesOf (c :: cs) = pdu

/-- A drdynvc PDU of the client: one of the five commands, and of a capability response the
version. -/
def IsPdu : List UInt8 → Prop
  | [] => False
  | cmd :: rest =>
    cmd.toNat &&& 0xf0 ∈ [CMD_DVC_CAPABILITY, CMD_DVC_OPEN_CHANNEL, CMD_DVC_CLOSE_CHANNEL,
      CMD_DVC_DATA_FIRST, CMD_DVC_DATA] ∧
    (cmd.toNat &&& 0xf0 = CMD_DVC_CAPABILITY → 3 ≤ rest.length)

/-- The first chunk is not flagged as first. -/
def NotFirst : List Chunk → Prop
  | [] => False
  | c :: _ => c.flags.toNat &&& 1 = 0

/-- Chunks that go on with a PDU; the last one may be flagged. -/
def Continues : List Chunk → Prop
  | [] => True
  | [d] => d.flags.toNat &&& 1 = 0
  | d :: ds => d.flags.toNat &&& 3 = 0 ∧ Continues ds

/-- The chunks of a PDU: one for all of it, or the first one and some that go on with it. -/
def Opens (c : Chunk) (ds : List Chunk) : Prop :=
  (c.flags.toNat &&& 3 = 3 ∧ ds = []) ∨ (c.flags.toNat &&& 3 = 1 ∧ Continues ds)

/-- The chunks of a PDU with more bytes than the first one announces. -/
def Exceeds (c : Chunk) (ds : List Chunk) : Prop :=
  Opens c ds ∧ c.totalLength.toNat < (bytesOf (c :: ds)).length

/-- The callback for a PDU. -/
inductive CallsBack (self : Channel) : List UInt8 → Call → Prop
  | up {cmd : UInt8} {s rest : List UInt8} {version : Nat} (hcmd : cmd.toNat &&& 0xf0 = CMD_DVC_CAPABILITY)
      (hversion : getLe 2 (s.drop 1) = some (version, rest)) (h : version = 2 ∨ version = 3) :
      CallsBack self (cmd :: s) .up
  | openResponse {cmd : UInt8} {s s' rest : List UInt8} {chanId status : Nat}
      (hcmd : cmd.toNat &&& 0xf0 = CMD_DVC_OPEN_CHANNEL)
      (hid : drdynvcGetChanId s cmd.toNat = some (chanId, s')) (hmax : chanId ≤ 255)
      (hstatus : getLe 4 s' = some (status, rest)) (hproc : (self.drdynvcs chanId).procs.openResponse) :
      CallsBack self (cmd :: s) (.openResponse chanId (signed32 status))
  | closeResponse {cmd : UInt8} {s s' : List UInt8} {chanId : Nat}
      (hcmd : cmd.toNat &&& 0xf0 = CMD_DVC_CLOSE_CHANNEL)
      (hid : drdynvcGetChanId s cmd.toNat = some (chanId, s')) (hmax : chanId ≤ 255)
      (hproc : (self.drdynvcs chanId).procs.closeResponse) : CallsBack self (cmd :: s) (.closeResponse chanId)
  | dataFirst {cmd : UInt8} {s s' rest : List UInt8} {chanId : Nat} {total : Int}
      (hcmd : cmd.toNat &&& 0xf0 = CMD_DVC_DATA_FIRST)
      (hid : drdynvcGetChanId s cmd.toNat = some (chanId, s')) (hmax : chanId ≤ 255)
      (htotal : getTotalBytes s' cmd.toNat = some (total, rest)) (hproc : (self.drdynvcs chanId).procs.dataFirst) :
      CallsBack self (cmd :: s) (.dataFirst chanId rest total)
  | data {cmd : UInt8} {s s' : List UInt8} {chanId : Nat} (hcmd : cmd.toNat &&& 0xf0 = CMD_DVC_DATA)
      (hid : drdynvcGetChanId s cmd.toNat = some (chanId, s')) (hmax : chanId ≤ 255)
      (hproc : (self.drdynvcs chanId).procs.data) : CallsBack self (cmd :: s) (.data chanId s')

/-- A PDU that is refused: one of no command, one without a field, one of a channel that there cannot be, and
one that its callback refuses. -/
inductive Refused (callback : Call → Int) (self : Channel) : List UInt8 → Prop
  | unknown {cmd : UInt8} {s : List UInt8} (hcmd : cmd.toNat &&& 0xf0 ∉ [CMD_DVC_CAPABILITY,
      CMD_DVC_OPEN_CHANNEL, CMD_DVC_CLOSE_CHANNEL, CMD_DVC_DATA_FIRST, CMD_DVC_DATA]) :
      Refused callback self (cmd :: s)
  | version {cmd : UInt8} {s rest : List UInt8} {version : Nat}
      (hcmd : cmd.toNat &&& 0xf0 = CMD_DVC_CAPABILITY)
      (hversion : getLe 2 (s.drop 1) = some (version, rest)) (h : version ≠ 2 ∧ version ≠ 3) :
      Refused callback self (cmd :: s)
  | noChannel {cmd : UInt8} {s : List UInt8} (hcmd : cmd.toNat &&& 0xf0 ∈ [CMD_DVC_OPEN_CHANNEL,
      CMD_DVC_CLOSE_CHANNEL, CMD_DVC_DATA_FIRST, CMD_DVC_DATA])
      (hid : ∀ chanId s', drdynvcGetChanId s cmd.toNat = some (chanId, s') → 255 < chanId) :
      Refused callback self (cmd :: s)
  | noStatus {cmd : UInt8} {s s' : List UInt8} {chanId : Nat}
      (hcmd : cmd.toNat &&& 0xf0 = CMD_DVC_OPEN_CHANNEL)
      (hid : drdynvcGetChanId s cmd.toNat = some (chanId, s')) (hstatus : getLe 4 s' = none) :
      Refused callback self (cmd :: s)
  | noTotal {cmd : UInt8} {s s' : List UInt8} {chanId : Nat}
      (hcmd : cmd.toNat &&& 0xf0 = CMD_DVC_DATA_FIRST)
      (hid : drdynvcGetChanId s cmd.toNat = some (chanId, s')) (htotal : getTotalBytes s' cmd.toNat = none) :
      Refused callback self (cmd :: s)
  | callback {pdu : List UInt8} {c : Call} (hcall : CallsBack self pdu c) (h : callback c ≠ 0) :
      Refused callback self pdu

/-- An error is returned for one of the chunks, and nothing outside of the streams is touched. -/
def Rejected (r : Run (List Reply)) : Prop := ∃ rs, r = .ok rs ∧ ∃ reply ∈ rs, reply.rv ≠ 0

/-! ## What the code does with them -/

section

variable {callback : Call → Int} {fresh : Nat → UInt8} {self : Channel} {r : Reassembly}

theorem outUint8a_spec {bytes : List UInt8} :
    (r.p + bytes.length ≤ r.buf.size ∧ ∃ r', outUint8a (some r) bytes = .ok r' ∧
      r'.p = r.p + bytes.length ∧ r'.buf.size = r.buf.size) ∨
    (r.buf.size < r.p + bytes.length ∧ outUint8a (some r) bytes = .error .outOfBounds) := by
  rcases Nat.lt_or_ge r.buf.size (r.p + bytes.length) with h | h
  · refine .inr ⟨h, ?_⟩
    rw [outUint8a, Buf.memcpy, if_neg (Nat.not_le.2 h), Run.error_bind]
  · obtain ⟨b, hb, -, ht⟩ := Buf.memcpy_spec h
    refine .inl ⟨h, ⟨b, r.p + bytes.length⟩, ?_, rfl, ht.size⟩
    rw [outUint8a, hb]
    rfl

theorem inUint8_full (h : r.buf.size ≤ r.p) : inUint8 r = .error .outOfBounds := by
  rw [inUint8, Buf.read, if_neg (Nat.not_lt.2 h), Run.error_bind]

theorem feed_cons_error {c : Chunk} {cs : List Chunk} {e : Stuck}
    (h : xrdpChannelProcessDrdynvc callback fresh self c.packet = .error e) :
    feed callback fresh self (c :: cs) = .error e := by
  rw [feed, h, Run.error_bind]

theorem feed_cons_of_next {c : Chunk} {cs : List Chunk} {reply : Reply} {e : Stuck}
    (h : xrdpChannelProcessDrdynvc callback fresh self c.packet = .ok reply)
    (hcs : feed callback fresh reply.self cs = .error e) :
    feed callback fresh self (c :: cs) = .error e := by
  rw [feed, h, Run.ok_bind, hcs, Run.error_bind]

/-- A chunk in the middle is appended, if there is room. -/
theorem process_middle (hs : self.s = some r) {c : Chunk} (hc : c.flags.toNat &&& 3 = 0) :
    (r.p + c.bytes.length ≤ r.buf.size ∧ ∃ self' r',
      xrdpChannelProcessDrdynvc callback fresh self c.packet = .ok ⟨0, self', []⟩ ∧
        self'.s = some r' ∧ r'.p = r.p + c.bytes.length ∧ r'.buf.size = r.buf.size) ∨
    (r.buf.size < r.p + c.bytes.length ∧
      xrdpChannelProcessDrdynvc callback fresh self c.packet = .error .outOfBounds) := by
  rw [process_packet, if_pos hc, hs]
  rcases @outUint8a_spec r c.bytes with ⟨hle, r', hok, hp, hsize⟩ | ⟨hlt, herr⟩
  · exact .inl ⟨hle, { self with s := some r' }, r', by rw [hok]; rfl, rfl, hp, hsize⟩
  · exact .inr ⟨hlt, by rw [herr, Run.error_bind]⟩

/-- **The last chunk** of a full stream: the command is read behind the stream. -/
theorem process_last (hs : self.s = some r) {c : Chunk} (hc : c.flags.toNat &&& 3 = 2)
    (hfull : r.buf.size ≤ r.p + c.bytes.length) :
    xrdpChannelProcessDrdynvc callback fresh self c.packet = .error .outOfBounds := by
  rw [process_packet, hc, if_neg (by decide), if_neg (by decide), if_pos rfl, hs]
  rcases @outUint8a_spec r c.bytes with ⟨-, r', hok, hp, hsize⟩ | ⟨-, herr⟩
  · rw [hok, Run.ok_bind, inUint8_full (by rw [hp, hsize]; exact hfull), Run.error_bind]
  · rw [herr, Run.error_bind]

/-- The rest of a PDU that fills the stream. -/
theorem feed_rest {total : Nat} {cs : List Chunk} (hcs : IsRest total cs) (hs : self.s = some r)
    (hfull : r.buf.size ≤ r.p + (bytesOf cs).length) :
    feed callback fresh self cs = .error .outOfBounds := by
  induction cs generalizing self r with
  | nil => exact hcs.elim
  | cons c cs ih =>
    rw [bytesOf, List.flatMap_cons, List.length_append] at hfull
    cases cs with
    | nil =>
      rw [List.flatMap_nil, List.length_nil, Nat.add_zero] at hfull
      exact feed_cons_error (process_last hs hcs.1 hfull)
    | cons d ds =>
      obtain ⟨hflags, -, hrest⟩ := hcs
      rcases @process_middle callback fresh self r hs c hflags with
        ⟨-, self', r', hok, hs', hp, hsize⟩ | ⟨-, herr⟩
      · refine feed_cons_of_next hok (ih hrest hs' ?_)
        rw [hp, hsize, bytesOf]
        omega
      · exact feed_cons_error herr

/-- More bytes than there is room for. -/
theorem feed_continues {ds : List Chunk} (rest : List Chunk) (hds : Continues ds)
    (hs : self.s = some r) (hp : r.p ≤ r.buf.size)
    (hexceed : r.buf.size < r.p + (bytesOf ds).length) :
    feed callback fresh self (ds ++ rest) = .error .outOfBounds := by
  induction ds generalizing self r with
  | nil =>
    rw [bytesOf, List.flatMap_nil, List.length_nil] at hexceed
    omega
  | cons d ds ih =>
    rw [bytesOf, List.flatMap_cons, List.length_append] at hexceed
    have hmiddle : d.flags.toNat &&& 3 = 0 → Continues ds →
        feed callback fresh self (d :: ds ++ rest) = .error .outOfBounds := by
      intro hflags hds
      rcases @process_middle callback fresh self r hs d hflags with
        ⟨hle, self', r', hok, hs', hp', hsize⟩ | ⟨-, herr⟩
      · refine feed_cons_of_next hok (ih hds hs' (by omega) ?_)
        rw [hp', hsize, bytesOf]
        omega
      · exact feed_cons_error herr
    cases ds with
    | nil =>
      by_cases hflags : d.flags.toNat &&& 3 = 0
      · exact hmiddle hflags trivial
      · have hlast : d.flags.toNat &&& 3 = 2 := by
          have h1 : d.flags.toNat &&& 1 = d.flags.toNat % 2 :=
            Nat.and_two_pow_sub_one_eq_mod _ 1
          have h3 : d.flags.toNat &&& 3 = d.flags.toNat % 4 :=
            Nat.and_two_pow_sub_one_eq_mod _ 2
          have hd : d.flags.toNat &&& 1 = 0 := hds
          omega
        rw [List.flatMap_nil, List.length_nil, Nat.add_zero] at hexceed
        exact feed_cons_error (process_last hs hlast hexceed.le)
    | cons e es => exact hmiddle hds.1 hds.2

/-- The first chunk of several makes a stream of the announced length, if there is room in it. -/
theorem process_first {c : Chunk} (hc : c.flags.toNat &&& 3 = 1) :
    (∃ self' r', xrdpChannelProcessDrdynvc callback fresh self c.packet = .ok ⟨0, self', []⟩ ∧
      self'.s = some r' ∧ r'.p = c.bytes.length ∧ r'.p ≤ r'.buf.size ∧
      r'.buf.size ≤ c.totalLength.toNat) ∨
    xrdpChannelProcessDrdynvc callback fresh self c.packet = .error .outOfBounds := by
  have hsize : (signed32 c.totalLength.toNat).toNat ≤ c.totalLength.toNat := by
    unfold signed32
    split <;> omega
  rw [process_packet, hc, if_neg (by decide), if_pos rfl]
  rcases @outUint8a_spec (initStream fresh (signed32 c.totalLength.toNat)) c.bytes with
    ⟨hle, r', hok, hp, hsz⟩ | ⟨-, herr⟩
  · refine .inl ⟨{ self with s := some r' }, r', by rw [hok]; rfl, rfl, ?_, ?_, ?_⟩
    · rw [hp, initStream, Nat.zero_add]
    · rw [hp, hsz]
      exact hle
    · rw [hsz]
      exact hsize
  · exact .inr (by rw [herr, Run.error_bind])

end

section

variable (callback : Call → Int) (fresh : Nat → UInt8) (self : Channel)

/-- **A PDU in several chunks** makes the reader leave the stream of the channel layer. -/
theorem feed_split {pdu : List UInt8} {cs : List Chunk} (h : IsSplit pdu cs)
    (hcs : cs.length ≠ 1) : feed callback fresh self cs = .error .outOfBounds := by
  match cs, h with
  | [], h => exact h.elim
  | [_], _ => exact absurd rfl hcs
  | c :: d :: ds, ⟨hflags, htotal, hrest, hbytes⟩ =>
    have hlen : c.totalLength.toNat = c.bytes.length + (bytesOf (d :: ds)).length := by
      rw [htotal, ← hbytes, bytesOf, List.flatMap_cons, List.length_append, bytesOf]
    rcases @process_first callback fresh self c hflags with
      ⟨self', r', hok, hs', hp, -, hsize⟩ | herr
    · exact feed_cons_of_next hok (feed_rest hrest hs' (by omega))
    · exact feed_cons_error herr

/-- **More bytes than announced** are written behind the stream of the channel layer. -/
theorem feed_exceeds {c : Chunk} {ds : List Chunk} (hflags : c.flags.toNat &&& 3 = 1) (hds : Continues ds)
    (hexceed : c.totalLength.toNat < (bytesOf (c :: ds)).length) (rest : List Chunk) :
    feed callback fresh self (c :: (ds ++ rest)) = .error .outOfBounds := by
  rw [bytesOf, List.flatMap_cons, List.length_append] at hexceed
  rcases @process_first callback fresh self c hflags with
    ⟨self', r', hok, hs', hp, hle, hsize⟩ | herr
  · exact feed_cons_of_next hok (feed_continues rest hds hs' hle (by rw [bytesOf]; omega))
  · exact feed_cons_error herr

/-- **A chunk out of order** is written through a null pointer if there is no stream yet. -/
theorem feed_notFirst {cs : List Chunk} (h : NotFirst cs) (hs : self.s = none) :
    feed callback fresh self cs = .error .outOfBounds := by
  cases cs with
  | nil => exact h.elim
  | cons c cs =>
    apply feed_cons_error
    have h1 : c.flags.toNat &&& 1 = c.flags.toNat % 2 := Nat.and_two_pow_sub_one_eq_mod _ 1
    have h3 : c.flags.toNat &&& 3 = c.flags.toNat % 4 := Nat.and_two_pow_sub_one_eq_mod _ 2
    have h0 : c.flags.toNat &&& 1 = 0 := h
    rw [process_packet, hs]
    by_cases hc : c.flags.toNat &&& 3 = 0
    · rw [if_pos hc]
      rfl
    · rw [if_neg hc, if_neg (by omega), if_pos (by omega)]
      rfl

/-! ## Reassembly -/

/-- What a PDU in one chunk does. -/
theorem process_single {c : Chunk} {cmd : UInt8} {rest : List UInt8}
    (hflags : c.flags.toNat &&& 3 = 3) (hbytes : c.bytes = cmd :: rest) :
    xrdpChannelProcessDrdynvc callback fresh self c.packet =
      processCmd callback self cmd.toNat rest := by
  rw [process_packet, hflags, if_neg (by decide), if_neg (by decide), if_neg (by decide), hbytes, processWhole]

theorem whole_flags (pdu : List UInt8) : (whole pdu).flags.toNat &&& 3 = 3 := by
  have : (3 : UInt32).toNat &&& 3 = 3 := by decide
  exact this

/-- A PDU in one chunk is read inside of it. -/
theorem processCmd_ok {cmd : UInt8} {rest : List UInt8} (h : IsPdu (cmd :: rest)) :
    ∃ reply, processCmd callback self cmd.toNat rest = .ok reply := by
  unfold processCmd
  dsimp only
  split
  · rename_i hcap
    obtain ⟨v, hv⟩ : ∃ v, getLe 2 (rest.drop 1) = some v := by
      match rest, h.2 hcap with
      | [_], hl => simp at hl
      | [_, _], hl => simp at hl
      | _ :: a :: b :: _, _ => simp [getLe]
    rw [drdynvcProcessCapabilityResponse, hv]
    dsimp only
    split
    · exact ⟨_, rfl⟩
    · exact ⟨_, rfl⟩
  · split_ifs
    all_goals exact ⟨_, rfl⟩

/-- PDUs in one chunk leave the stream of the channel layer as it is. -/
theorem processCmd_s {cmd : Nat} {rest : List UInt8} {reply : Reply}
    (h : processCmd callback self cmd rest = .ok reply) : reply.self.s = self.s := by
  unfold processCmd at h
  dsimp only at h
  split at h
  · unfold drdynvcProcessCapabilityResponse at h
    split at h
    · cases h
    · split at h
      all_goals
        cases h
        rfl
  unfold drdynvcProcessOpenChannelResponse drdynvcProcessCloseChannelResponse
    drdynvcProcessDataFirst drdynvcProcessData at h
  dsimp only at h
  split_ifs at h
  all_goals
    cases h
    repeat' split
    all_goals rfl

section

variable {callback self} {cmd : UInt8} {s : List UInt8}

/-- What a PDU is handed to, by its command. -/
theorem processCmd_capability (hcmd : cmd.toNat &&& 0xf0 = CMD_DVC_CAPABILITY) :
    processCmd callback self cmd.toNat s = drdynvcProcessCapabilityResponse callback self s := by
  simp [processCmd, hcmd]

theorem processCmd_openChannel (hcmd : cmd.toNat &&& 0xf0 = CMD_DVC_OPEN_CHANNEL) :
    processCmd callback self cmd.toNat s =
      .ok (drdynvcProcessOpenChannelResponse callback self cmd.toNat s) := by
  simp [processCmd, hcmd, CMD_DVC_OPEN_CHANNEL, CMD_DVC_CAPABILITY]

theorem processCmd_closeChannel (hcmd : cmd.toNat &&& 0xf0 = CMD_DVC_CLOSE_CHANNEL) :
    processCmd callback self cmd.toNat s =
      .ok (drdynvcProcessCloseChannelResponse callback self cmd.toNat s) := by
  simp [processCmd, hcmd, CMD_DVC_OPEN_CHANNEL, CMD_DVC_CAPABILITY, CMD_DVC_CLOSE_CHANNEL]

theorem processCmd_dataFirst (hcmd : cmd.toNat &&& 0xf0 = CMD_DVC_DATA_FIRST) :
    processCmd callback self cmd.toNat s = .ok (drdynvcProcessDataFirst callback self cmd.toNat s) := by
  simp [processCmd, hcmd, CMD_DVC_OPEN_CHANNEL, CMD_DVC_CAPABILITY, CMD_DVC_CLOSE_CHANNEL, CMD_DVC_DATA_FIRST]

theorem processCmd_data (hcmd : cmd.toNat &&& 0xf0 = CMD_DVC_DATA) :
    processCmd callback self cmd.toNat s = .ok (drdynvcProcessData callback self cmd.toNat s) := by
  simp [processCmd, hcmd, CMD_DVC_OPEN_CHANNEL, CMD_DVC_CAPABILITY, CMD_DVC_CLOSE_CHANNEL, CMD_DVC_DATA_FIRST,
    CMD_DVC_DATA]

theorem processCmd_unknown (hcmd : cmd.toNat &&& 0xf0 ∉ [CMD_DVC_CAPABILITY, CMD_DVC_OPEN_CHANNEL,
    CMD_DVC_CLOSE_CHANNEL, CMD_DVC_DATA_FIRST, CMD_DVC_DATA]) :
    processCmd callback self cmd.toNat s = .ok self.error := by
  simp only [List.mem_cons, List.not_mem_nil, or_false, not_or] at hcmd
  obtain ⟨h₁, h₂, h₃, h₄, h₅⟩ := hcmd
  simp [processCmd, h₁, h₂, h₃, h₄, h₅]

/-- The callback for a PDU is called, and what it returns is returned. -/
theorem processCmd_of_calls {c : Call} (h : CallsBack self (cmd :: s) c) :
    ∃ reply, processCmd callback self cmd.toNat s = .ok reply ∧ reply.rv = callback c := by
  cases h with
  | up hcmd hversion h =>
    rw [processCmd_capability hcmd]
    rcases h with rfl | rfl <;>
      simp [drdynvcProcessCapabilityResponse, hversion, Channel.call, -List.drop_one]
  | openResponse hcmd hid hmax hstatus hproc =>
    rw [processCmd_openChannel hcmd]
    simp [drdynvcProcessOpenChannelResponse, hid, hstatus, Nat.not_lt.2 hmax, hproc, Channel.call]
  | closeResponse hcmd hid hmax hproc =>
    rw [processCmd_closeChannel hcmd]
    simp [drdynvcProcessCloseChannelResponse, hid, Nat.not_lt.2 hmax, hproc, Channel.call]
  | dataFirst hcmd hid hmax htotal hproc =>
    rw [processCmd_dataFirst hcmd]
    simp [drdynvcProcessDataFirst, hid, htotal, Nat.not_lt.2 hmax, hproc, Channel.call]
  | data hcmd hid hmax hproc =>
    rw [processCmd_data hcmd]
    simp [drdynvcProcessData, hid, Nat.not_lt.2 hmax, hproc, Channel.call]

/-- A PDU of no channel that there can be. -/
theorem processCmd_of_noChannel (hcmd : cmd.toNat &&& 0xf0 ∈ [CMD_DVC_OPEN_CHANNEL, CMD_DVC_CLOSE_CHANNEL,
      CMD_DVC_DATA_FIRST, CMD_DVC_DATA])
    (hid : ∀ chanId s', drdynvcGetChanId s cmd.toNat = some (chanId, s') → 255 < chanId) :
    ∃ reply, processCmd callback self cmd.toNat s = .ok reply ∧ reply.rv ≠ 0 := by
  simp only [List.mem_cons, List.not_mem_nil, or_false] at hcmd
  cases hchan : drdynvcGetChanId s cmd.toNat with
  | none =>
    obtain h | h | h | h := hcmd
    · simp [processCmd_openChannel h, drdynvcProcessOpenChannelResponse, hchan, Channel.error]
    · simp [processCmd_closeChannel h, drdynvcProcessCloseChannelResponse, hchan, Channel.error]
    · simp [processCmd_dataFirst h, drdynvcProcessDataFirst, hchan, Channel.error]
    · simp [processCmd_data h, drdynvcProcessData, hchan, Channel.error]
  | some p =>
    have hmax : 255 < p.1 := hid p.1 p.2 hchan
    obtain h | h | h | h := hcmd
    · cases hstatus : getLe 4 p.2 with
      | none =>
        simp [processCmd_openChannel h, drdynvcProcessOpenChannelResponse, hchan, hstatus, Channel.error]
      | some v =>
        simp [processCmd_openChannel h, drdynvcProcessOpenChannelResponse, hchan, hstatus, hmax, Channel.error]
    · simp [processCmd_closeChannel h, drdynvcProcessCloseChannelResponse, hchan, hmax, Channel.error]
    · cases htotal : getTotalBytes p.2 cmd.toNat with
      | none => simp [processCmd_dataFirst h, drdynvcProcessDataFirst, hchan, htotal, Channel.error]
      | some v => simp [processCmd_dataFirst h, drdynvcProcessDataFirst, hchan, htotal, hmax, Channel.error]
    · simp [processCmd_data h, drdynvcProcessData, hchan, hmax, Channel.error]

/-- A refused PDU has an error returned. -/
theorem processCmd_of_refused (h : Refused callback self (cmd :: s)) :
    ∃ reply, processCmd callback self cmd.toNat s = .ok reply ∧ reply.rv ≠ 0 := by
  cases h with
  | unknown hcmd => simp [processCmd_unknown hcmd, Channel.error]
  | version hcmd hversion h =>
    simp [processCmd_capability hcmd, drdynvcProcessCapabilityResponse, hversion, h, Channel.error, -List.drop_one]
  | noChannel hcmd hid => exact processCmd_of_noChannel hcmd hid
  | noStatus hcmd hid hstatus =>
    simp [processCmd_openChannel hcmd, drdynvcProcessOpenChannelResponse, hid, hstatus, Channel.error]
  | noTotal hcmd hid htotal =>
    simp [processCmd_dataFirst hcmd, drdynvcProcessDataFirst, hid, htotal, Channel.error]
  | callback hcall h =>
    obtain ⟨reply, hok, hrv⟩ := processCmd_of_calls hcall
    exact ⟨reply, hok, hrv ▸ h⟩

/-- A PDU that has an error returned is refused. -/
theorem refused_of_processCmd {reply : Reply} (h : processCmd callback self cmd.toNat s = .ok reply)
    (hrv : reply.rv ≠ 0) : Refused callback self (cmd :: s) := by
  by_cases hcap : cmd.toNat &&& 0xf0 = CMD_DVC_CAPABILITY
  · rw [processCmd_capability hcap, drdynvcProcessCapabilityResponse] at h
    cases hversion : getLe 2 (s.drop 1) with
    | none => simp [hversion, -List.drop_one] at h
    | some v =>
      simp only [hversion] at h
      split at h
      case isTrue hunknown => exact .version hcap hversion hunknown
      case isFalse hknown =>
        cases h
        refine .callback (.up hcap hversion ?_) hrv
        simpa [or_iff_not_imp_left] using hknown
  by_cases hopenChannel : cmd.toNat &&& 0xf0 = CMD_DVC_OPEN_CHANNEL
  · rw [processCmd_openChannel hopenChannel] at h
    cases h
    cases hid : drdynvcGetChanId s cmd.toNat with
    | none => exact .noChannel (by simp [hopenChannel]) (by simp [hid])
    | some p =>
      by_cases hmax : 255 < p.1
      · refine .noChannel (by simp [hopenChannel]) fun chanId s' hsome => ?_
        rw [hid] at hsome
        cases hsome
        exact hmax
      cases hstatus : getLe 4 p.2 with
      | none => exact .noStatus hopenChannel hid hstatus
      | some v =>
        by_cases hproc : (self.drdynvcs p.1).procs.openResponse
        · refine .callback (.openResponse hopenChannel hid (Nat.not_lt.1 hmax) hstatus hproc) ?_
          simpa [drdynvcProcessOpenChannelResponse, hid, hstatus, hmax, hproc, Channel.call] using hrv
        · simp [drdynvcProcessOpenChannelResponse, hid, hstatus, hmax, hproc] at hrv
  by_cases hcloseChannel : cmd.toNat &&& 0xf0 = CMD_DVC_CLOSE_CHANNEL
  · rw [processCmd_closeChannel hcloseChannel] at h
    cases h
    cases hid : drdynvcGetChanId s cmd.toNat with
    | none => exact .noChannel (by simp [hcloseChannel]) (by simp [hid])
    | some p =>
      by_cases hmax : 255 < p.1
      · refine .noChannel (by simp [hcloseChannel]) fun chanId s' hsome => ?_
        rw [hid] at hsome
        cases hsome
        exact hmax
      by_cases hproc : (self.drdynvcs p.1).procs.closeResponse
      · refine .callback (.closeResponse hcloseChannel hid (Nat.not_lt.1 hmax) hproc) ?_
        simpa [drdynvcProcessCloseChannelResponse, hid, hmax, hproc, Channel.call] using hrv
      · simp [drdynvcProcessCloseChannelResponse, hid, hmax, hproc] at hrv
  by_cases hdataFirst : cmd.toNat &&& 0xf0 = CMD_DVC_DATA_FIRST
  · rw [processCmd_dataFirst hdataFirst] at h
    cases h
    cases hid : drdynvcGetChanId s cmd.toNat with
    | none => exact .noChannel (by simp [hdataFirst]) (by simp [hid])
    | some p =>
      by_cases hmax : 255 < p.1
      · refine .noChannel (by simp [hdataFirst]) fun chanId s' hsome => ?_
        rw [hid] at hsome
        cases hsome
        exact hmax
      cases htotal : getTotalBytes p.2 cmd.toNat with
      | none => exact .noTotal hdataFirst hid htotal
      | some v =>
        by_cases hproc : (self.drdynvcs p.1).procs.dataFirst
        · refine .callback (.dataFirst hdataFirst hid (Nat.not_lt.1 hmax) htotal hproc) ?_
          simpa [drdynvcProcessDataFirst, hid, htotal, hmax, hproc, Channel.call] using hrv
        · simp [drdynvcProcessDataFirst, hid, htotal, hmax, hproc] at hrv
  by_cases hdata : cmd.toNat &&& 0xf0 = CMD_DVC_DATA
  · rw [processCmd_data hdata] at h
    cases h
    cases hid : drdynvcGetChanId s cmd.toNat with
    | none => exact .noChannel (by simp [hdata]) (by simp [hid])
    | some p =>
      by_cases hmax : 255 < p.1
      · refine .noChannel (by simp [hdata]) fun chanId s' hsome => ?_
        rw [hid] at hsome
        cases hsome
        exact hmax
      by_cases hproc : (self.drdynvcs p.1).procs.data
      · refine .callback (.data hdata hid (Nat.not_lt.1 hmax) hproc) ?_
        simpa [drdynvcProcessData, hid, hmax, hproc, Channel.call] using hrv
      · simp [drdynvcProcessData, hid, hmax, hproc] at hrv
  exact .unknown (by simp [hcap, hopenChannel, hcloseChannel, hdataFirst, hdata])

end

/-- **A PDU in one chunk** has an error returned just if it is refused. -/
theorem refused_iff {cmd : UInt8} {s : List UInt8} :
    (∃ reply, processCmd callback self cmd.toNat s = .ok reply ∧ reply.rv ≠ 0) ↔
      Refused callback self (cmd :: s) :=
  ⟨fun ⟨_, hok, hrv⟩ => refused_of_processCmd hok hrv, processCmd_of_refused⟩

/-- What is asked of a sequence of chunks: a PDU in chunks has the effect of the whole PDU, and
chunks out of order or too many bytes are rejected. -/
def Meets (cs : List Chunk) : Prop :=
  (∀ pdu, IsPdu pdu → IsSplit pdu cs →
    effect callback fresh self cs = effect callback fresh self [whole pdu]) ∧
  (NotFirst cs → Rejected (feed callback fresh self cs)) ∧
  ∀ c ds rest, cs = c :: (ds ++ rest) → Exceeds c ds → Rejected (feed callback fresh self (c :: ds))

theorem not_rejected {cs : List Chunk}
    (h : feed callback fresh self cs = .error .outOfBounds) :
    ¬ Rejected (feed callback fresh self cs) := by
  rintro ⟨rs, hok, -⟩
  rw [h] at hok
  cases hok

end

/-- **A PDU in one chunk** is rejected just if it is refused. -/
theorem single_rejected_iff (callback : Call → Int) (fresh : Nat → UInt8) (self : Channel) {c : Chunk}
    (hflags : c.flags.toNat &&& 3 = 3) (hne : c.bytes ≠ []) :
    Rejected (feed callback fresh self [c]) ↔ Refused callback self c.bytes := by
  obtain ⟨cmd, s, hbytes⟩ := List.exists_cons_of_ne_nil hne
  rw [feed, process_single callback fresh self hflags hbytes, hbytes, ← refused_iff]
  cases processCmd callback self cmd.toNat s with
  | error e =>
    refine iff_of_false ?_ ?_
    · rintro ⟨rs, hok, -⟩
      cases hok
    · rintro ⟨reply, hok, -⟩
      cases hok
  | ok reply =>
    simp [Rejected, feed]

/-- **Chunks are processed as they should be just if there is nothing to put together**, before
the first stream of a connection: a PDU has to come in one chunk, nothing may be out of order, and what
exceeds the length that is announced has to be a PDU in one chunk that is refused anyway. -/
theorem reassembly_iff (callback : Call → Int) (fresh : Nat → UInt8) (drdynvcState : Nat)
    (drdynvcs : Nat → Drdynvc) (cs : List Chunk) :
    Meets callback fresh ⟨drdynvcState, none, drdynvcs⟩ cs ↔
      ¬ NotFirst cs ∧
      (∀ c ds rest, cs = c :: (ds ++ rest) → Exceeds c ds →
        c.flags.toNat &&& 3 = 3 ∧ Refused callback ⟨drdynvcState, none, drdynvcs⟩ c.bytes) ∧
      ∀ pdu, IsPdu pdu → IsSplit pdu cs → cs.length = 1 := by
  have hnonempty : ∀ {c : Chunk}, c.totalLength.toNat < (bytesOf [c]).length → c.bytes ≠ [] := by
    intro c hexceed hnil
    simp [bytesOf, hnil] at hexceed
  constructor
  · rintro ⟨hsplit, hfirst, hexceeds⟩
    refine ⟨fun h => ?_, fun c ds rest hcs h => ?_, fun pdu hpdu h => ?_⟩
    · exact not_rejected _ _ _ (feed_notFirst _ _ _ h rfl) (hfirst h)
    · have hrejected := hexceeds c ds rest hcs h
      obtain ⟨⟨hflags, rfl⟩ | ⟨hflags, hds⟩, hexceed⟩ := h
      · exact ⟨hflags, (single_rejected_iff _ _ _ hflags (hnonempty hexceed)).1 hrejected⟩
      · have hstuck := feed_exceeds callback fresh ⟨drdynvcState, none, drdynvcs⟩ hflags hds hexceed []
        rw [List.append_nil] at hstuck
        exact absurd hrejected (not_rejected _ _ _ hstuck)
    · by_contra hlen
      have heq := hsplit pdu hpdu h
      rw [effect, feed_split _ _ _ h hlen, Run.error_bind] at heq
      -- the whole PDU has an effect
      match pdu, hpdu with
      | cmd :: rest, hpdu =>
        obtain ⟨reply, hok⟩ := processCmd_ok callback ⟨drdynvcState, none, drdynvcs⟩ hpdu
        have hone : xrdpChannelProcessDrdynvc callback fresh ⟨drdynvcState, none, drdynvcs⟩
            (whole (cmd :: rest)).packet = .ok reply :=
          (process_single callback fresh _ (whole_flags _) rfl).trans hok
        rw [effect, feed, hone] at heq
        cases heq
  · rintro ⟨hfirst, hexceeds, hone⟩
    refine ⟨fun pdu hpdu h => ?_, fun h => absurd h hfirst, fun c ds rest hcs h => ?_⟩
    · match cs, hone pdu hpdu h, h with
      | [c], _, ⟨hflags, _, hbytes⟩ =>
        match pdu, hpdu with
        | cmd :: rest, _ =>
          rw [effect, effect, feed, feed, process_single callback fresh _ hflags hbytes,
            process_single callback fresh _ (whole_flags (cmd :: rest)) rfl]
    · obtain ⟨hflags, hrefused⟩ := hexceeds c ds rest hcs h
      obtain ⟨⟨-, rfl⟩ | ⟨hfirst, -⟩, hexceed⟩ := h
      · exact (single_rejected_iff _ _ _ hflags (hnonempty hexceed)).2 hrefused
      · rw [hflags] at hfirst
        exact absurd hfirst (by decide)

/-- A close of channel 5 in two chunks: the PDU is understood as a whole, and in chunks it is
read past its end. -/
theorem reassembly_close :
    IsPdu [0x40, 5] ∧ IsSplit [0x40, 5] [⟨2, 1, [0x40]⟩, ⟨2, 2, [5]⟩] ∧
      effect (fun _ => 0) (fun _ => 0) .create [⟨2, 1, [0x40]⟩, ⟨2, 2, [5]⟩] =
        .error .outOfBounds ∧
      (∃ e, effect (fun _ => 0) (fun _ => 0) .create [whole [0x40, 5]] = .ok e ∧ e.rv = 0) ∧
      ¬ Meets (fun _ => 0) (fun _ => 0) .create [⟨2, 1, [0x40]⟩, ⟨2, 2, [5]⟩] := by
  have hpdu : IsPdu [0x40, 5] := ⟨by decide, by decide⟩
  have hsplit : IsSplit [0x40, 5] [⟨2, 1, [0x40]⟩, ⟨2, 2, [5]⟩] :=
    ⟨by decide, by decide, ⟨by decide, by decide⟩, by decide⟩
  have herr : effect (fun _ => 0) (fun _ => 0) .create [⟨2, 1, [0x40]⟩, ⟨2, 2, [5]⟩] =
      .error .outOfBounds := rfl
  refine ⟨hpdu, hsplit, herr, ⟨_, rfl, rfl⟩, fun h => ?_⟩
  have heq := h.1 _ hpdu hsplit
  rw [herr] at heq
  cases heq

end Xrdp.Dvc
