import Xrdp.Mirror.PacketInfo
import Xrdp.Lib.Runs

/-!
# What a slave shows

A master writes its records into a FIFO, which is a stream of bytes: the kernel may take a record
in several pieces, and a read of the slave may return fewer bytes than it asks for.

* `slaveRead` — `myxrdp_slave_read` in `xrdp/myxrdp_devel.c`.
* `Slave.Faithful` — what is left of the stream is whole records, and what the slave has sent is
  the payloads of the others.
* `slave_read_iff` — the runs in which this is so at all times.
-/

namespace Xrdp.Mirror

open Wire

/-! ## Records on the wire -/

/-- The memory of a record. -/
def PacketInfo.bytes (pack : PacketInfo) (pad : UInt16) : List UInt8 :=
  leBytes 2 pack.type.toNat ++ (leBytes 2 pad.toNat ++ (leBytes 4 pack.sum.toNat ++
    (leBytes 4 pack.length.toNat ++ pack.buffer)))

/-- What some memory is as a record. -/
def PacketInfo.ofBytes (mem : List UInt8) : PacketInfo where
  type := UInt16.ofNat (leVal (mem.take 2))
  sum := UInt32.ofNat (leVal ((mem.drop 4).take 4))
  length := UInt32.ofNat (leVal ((mem.drop 8).take 4))
  buffer := mem.drop 12

theorem PacketInfo.bytes_length (pack : PacketInfo) (pad : UInt16) :
    (pack.bytes pad).length = 12 + pack.buffer.length := by
  simp only [PacketInfo.bytes, List.length_append, leBytes_length]
  omega

theorem PacketInfo.ofBytes_bytes (pack : PacketInfo) (pad : UInt16) :
    PacketInfo.ofBytes (pack.bytes pad) = pack := by
  have htype := Nat.mod_eq_of_lt pack.type.toNat_lt
  have hsum := Nat.mod_eq_of_lt pack.sum.toNat_lt
  have hlength := Nat.mod_eq_of_lt pack.length.toNat_lt
  obtain ⟨type, sum, length, buffer⟩ := pack
  simp only [PacketInfo.ofBytes, PacketInfo.bytes, List.take_append, List.drop_append,
    leBytes_length, Nat.sub_self, List.take_zero, List.append_nil, Nat.reduceSub, List.drop_zero,
    List.drop_of_length_le, List.take_of_length_le, Nat.reduceLeDiff, List.nil_append,
    leVal_leBytes, Nat.reducePow, le_refl]
  simp_all

/-- A record that a master writes. -/
structure Record where
  pack : PacketInfo
  pad : UInt16
  size : pack.buffer.length = BUFFER_PACKET_SIZE
  type : pack.type = DATA_TYPE_RDP ∧ pack.length.toNat ≤ BUFFER_PACKET_SIZE ∨
    pack.type = DATA_TYPE_DISCONN

namespace Record

def bytes (r : Record) : List UInt8 := r.pack.bytes r.pad

/-- The bytes for the slave's client. -/
def payload (r : Record) : List UInt8 :=
  if r.pack.type = DATA_TYPE_RDP then r.pack.payload else []

theorem size_ofData {data : List UInt8} (stack : Nat → UInt8) (h : data.length ≤ BUFFER_PACKET_SIZE) :
    (PacketInfo.ofData data stack).buffer.length = BUFFER_PACKET_SIZE := by
  simp [PacketInfo.ofData]
  omega

theorem type_ofData {data : List UInt8} (stack : Nat → UInt8) (h : data.length ≤ BUFFER_PACKET_SIZE) :
    (PacketInfo.ofData data stack).type = DATA_TYPE_RDP ∧
        (PacketInfo.ofData data stack).length.toNat ≤ BUFFER_PACKET_SIZE ∨
      (PacketInfo.ofData data stack).type = DATA_TYPE_DISCONN :=
  .inl ⟨rfl, (Nat.mod_le _ _).trans h⟩

/-- `sendDataToSlaveSession`. -/
def ofData (data : List UInt8) (stack : Nat → UInt8) (pad : UInt16)
    (h : data.length ≤ BUFFER_PACKET_SIZE) : Record where
  pack := .ofData data stack
  pad
  size := size_ofData stack h
  type := type_ofData stack h

theorem bytes_length (r : Record) : r.bytes.length = PACKET_SIZE := by
  rw [bytes, PacketInfo.bytes_length, r.size, PACKET_SIZE]

theorem payload_ofData (data : List UInt8) (stack : Nat → UInt8) (pad : UInt16)
    (h : data.length ≤ BUFFER_PACKET_SIZE) : (ofData data stack pad h).payload = data :=
  Mirror.payload_ofData stack h

theorem flatMap_bytes_length (recs : List Record) :
    (recs.flatMap bytes).length = recs.length * PACKET_SIZE := by
  induction recs with
  | nil => simp
  | cons r recs ih =>
    rw [List.flatMap_cons, List.length_append, ih, bytes_length, List.length_cons]
    ring

end Record

/-! ## The slave -/

/-- The slave process, the FIFO it reads and what the master has still to write into it. -/
structure Slave where
  sessionType : SessionType
  /-- `my_trans->tls` is not null. -/
  tls : Bool
  /-- What its TLS layer has accepted. -/
  accepted : List UInt8
  /-- The main loop goes on. -/
  running : Bool
  fifo : List UInt8
  unwritten : List UInt8

/-- What happens in a turn of the slave's main loop. -/
structure ReadTurn where
  /-- `g_is_wait_obj_set` of the FIFO. -/
  isSet : Bool
  /-- The read returns up to so many bytes; 0 stands for an error as well. -/
  n : Nat
  wants : List Want
  ssl : SslAnswer

/-- `ssl_tls_write` of the data in a record. -/
def sslWriteBuffer (pack : PacketInfo) (t : ReadTurn) : Run (List UInt8) :=
  -- the length is passed as an `int`
  if 2 ^ 31 ≤ pack.length.toNat then .ok []
  else if pack.length.toNat ≤ pack.buffer.length then
    .ok (sslTlsWrite pack.payload t.wants t.ssl).2
  else .error .outOfBounds

/-- `myxrdp_slave_read`. -/
def slaveRead (self : Slave) (t : ReadTurn) : Run (Int × Slave) :=
  if self.sessionType ≠ .SLAVE then .ok (0, self)
  else if t.isSet then
    let data := self.fifo.take (min t.n PACKET_SIZE)
    let self := { self with fifo := self.fifo.drop (min t.n PACKET_SIZE) }
    if data.isEmpty then .ok (1, self)
    else
      -- `bzero`
      let pack := PacketInfo.ofBytes (data ++ List.replicate (PACKET_SIZE - data.length) 0)
      if pack.type = DATA_TYPE_RDP then
        if pack.length > 0 ∧ self.tls then do
          let bytes ← sslWriteBuffer pack t
          .ok (0, { self with accepted := self.accepted ++ bytes })
        else .ok (0, self)
      else if pack.type = DATA_TYPE_DISCONN then .ok (1, self)
      else .ok (0, self)
  else .ok (0, self)

/-- What happens to the two processes. -/
inductive Slave.Event where
  /-- The kernel takes more bytes from the master. -/
  | write (n : Nat)
  /-- A turn of the slave's main loop. -/
  | turn (t : ReadTurn)

def Slave.step (s : Slave) : Slave.Event → Run Slave
  | .write n =>
    .ok { s with fifo := s.fifo ++ s.unwritten.take n, unwritten := s.unwritten.drop n }
  | .turn t =>
    if s.running then do
      let (rv, s) ← slaveRead s t
      .ok { s with running := rv = 0 }
    else .ok s

def Slave.run (s : Slave) (events : List Slave.Event) : Run Slave := events.foldlM Slave.step s

/-- A slave before its first turn. -/
def Slave.start (tls : Bool) (recs : List Record) : Slave where
  sessionType := .SLAVE
  tls
  accepted := []
  running := true
  fifo := []
  unwritten := recs.flatMap Record.bytes

/-- What is left of the stream is whole records, and what the slave has sent is the payloads of
the others. -/
def Slave.Faithful (recs : List Record) (s : Slave) : Prop :=
  ∃ before after, recs = before ++ after ∧ s.fifo ++ s.unwritten = after.flatMap Record.bytes ∧
    s.accepted = before.flatMap Record.payload

/-- The condition on an event. -/
structure Slave.TurnFits (s : Slave) (t : ReadTurn) : Prop where
  /-- A read that returns anything returns a whole record. -/
  whole : t.n = 0 ∨ s.fifo = [] ∨ PACKET_SIZE ≤ min t.n s.fifo.length
  /-- The TLS layer is there for the payload of a record, and accepts all of it. -/
  accepts : 0 < min t.n s.fifo.length →
    let pack := PacketInfo.ofBytes (s.fifo.take PACKET_SIZE)
    pack.type = DATA_TYPE_RDP → pack.payload ≠ [] →
      s.tls = true ∧ t.ssl.takes pack.payload = pack.payload.length

/-- The condition on an event. -/
def Slave.StepFits (s : Slave) : Slave.Event → Prop
  | .write _ => True
  | .turn t => s.running = true → t.isSet = true → s.TurnFits t

/-- All events meet the condition, each in the state before it. -/
def Slave.Fits : Slave → List Slave.Event → Prop :=
  Runs.AllFit (fun s e s' => s.step e = .ok s') Slave.StepFits

/-! ## One event -/

section

variable {recs : List Record} {s s' : Slave}

/-- A slave that has kept the promise so far. -/
structure Slave.Good (recs : List Record) (s : Slave) : Prop where
  slave : s.sessionType = .SLAVE
  faithful : s.Faithful recs

theorem Slave.good_start (tls : Bool) (recs : List Record) : (Slave.start tls recs).Good recs :=
  ⟨rfl, [], recs, rfl, rfl, rfl⟩

theorem Slave.step_unique (s : Slave) (e : Slave.Event) (s₁ s₂ : Slave) (h₁ : s.step e = .ok s₁)
    (h₂ : s.step e = .ok s₂) : s₁ = s₂ := Except.ok.inj (h₁.symm.trans h₂)

/-- The records that are left are known from the length of the stream. -/
theorem split_unique {before after before' after' : List Record}
    (h : before ++ after = before' ++ after')
    (hlen : (after.flatMap Record.bytes).length = (after'.flatMap Record.bytes).length) :
    before = before' ∧ after = after' := by
  rw [Record.flatMap_bytes_length, Record.flatMap_bytes_length] at hlen
  exact List.append_inj' h (Nat.eq_of_mul_eq_mul_right (by decide) hlen)

/-- An event that reads nothing and sends nothing. -/
theorem Slave.Faithful.of_eq (h : s.Faithful recs)
    (hstream : s'.fifo ++ s'.unwritten = s.fifo ++ s.unwritten) (haccepted : s'.accepted = s.accepted) :
    s'.Faithful recs := by
  obtain ⟨before, after, hrecs, hleft, hsent⟩ := h
  exact ⟨before, after, hrecs, hstream.trans hleft, haccepted.trans hsent⟩

/-- What an event comes to. -/
def Slave.StepOk (recs : List Record) (s : Slave) (e : Slave.Event) : Prop :=
  Runs.StepIff (fun s e s' => s.step e = .ok s') (Slave.Faithful recs) (Slave.Good recs)
    Slave.StepFits s e

/-- A short read leaves a part of a record. -/
theorem Slave.not_faithful_of_short (h : s.Faithful recs) {m : Nat} (hm : 0 < m)
    (hshort : m < PACKET_SIZE)
    (hlen : (s'.fifo ++ s'.unwritten).length + m = (s.fifo ++ s.unwritten).length) :
    ¬ s'.Faithful recs := by
  rintro ⟨before', after', -, hleft', -⟩
  obtain ⟨before, after, -, hleft, -⟩ := h
  rw [hleft', hleft, Record.flatMap_bytes_length, Record.flatMap_bytes_length] at hlen
  have hlt : after'.length < after.length := by
    apply Nat.lt_of_mul_lt_mul_right (a := PACKET_SIZE)
    omega
  have := Nat.mul_le_mul_right PACKET_SIZE hlt
  rw [Nat.add_one_mul] at this
  omega

/-- A whole record is read. -/
theorem Slave.faithful_read {before after : List Record} {r : Record}
    (hrecs : recs = before ++ r :: after)
    (hleft : s'.fifo ++ s'.unwritten = after.flatMap Record.bytes) {bytes : List UInt8}
    (hsent : s'.accepted = before.flatMap Record.payload ++ bytes) :
    s'.Faithful recs ↔ bytes = r.payload := by
  constructor
  · rintro ⟨before', after', hrecs', hleft', hsent'⟩
    have hsplit : (before ++ [r]) ++ after = before' ++ after' := by
      rw [List.append_assoc, ← hrecs']
      exact hrecs.symm
    obtain ⟨rfl, rfl⟩ := split_unique hsplit (by rw [← hleft, hleft'])
    rw [hsent, List.flatMap_append, List.flatMap_singleton] at hsent'
    exact List.append_cancel_left hsent'
  · intro hbytes
    refine ⟨before ++ [r], after, ?_, hleft, ?_⟩
    · rw [hrecs, List.append_assoc]
      rfl
    · rw [hsent, hbytes, List.flatMap_append, List.flatMap_singleton]

/-- The record that a whole read finds. -/
theorem Record.at_front {s : Slave} {after : List Record}
    (hleft : s.fifo ++ s.unwritten = after.flatMap Record.bytes)
    (hwhole : PACKET_SIZE ≤ s.fifo.length) :
    ∃ r rest, after = r :: rest ∧ s.fifo.take PACKET_SIZE = r.bytes ∧
      s.fifo.drop PACKET_SIZE ++ s.unwritten = rest.flatMap Record.bytes := by
  cases after with
  | nil =>
    have := congrArg List.length hleft
    rw [List.length_append, List.flatMap_nil, List.length_nil] at this
    have : 0 < PACKET_SIZE := by decide
    omega
  | cons r rest =>
    rw [List.flatMap_cons] at hleft
    refine ⟨r, rest, rfl, ?_, ?_⟩
    · have := congrArg (List.take PACKET_SIZE) hleft
      rwa [List.take_append_of_le_length hwhole, List.take_append_of_le_length r.bytes_length.ge,
        List.take_of_length_le r.bytes_length.le] at this
    · have := congrArg (List.drop PACKET_SIZE) hleft
      rwa [List.drop_append_of_le_length hwhole, List.drop_append_of_le_length r.bytes_length.ge,
        List.drop_of_length_le r.bytes_length.le, List.nil_append] at this

/-- What a slave does with a record it has read. -/
def Slave.show (s : Slave) (r : Record) (t : ReadTurn) : Int × List UInt8 :=
  if r.pack.type = DATA_TYPE_RDP then
    if r.pack.length > 0 ∧ s.tls then
      (0, r.pack.payload.take (t.ssl.takes r.pack.payload))
    else (0, [])
  else (1, [])

theorem slaveRead_whole (hslave : s.sessionType = .SLAVE) {t : ReadTurn} (hset : t.isSet = true)
    {r : Record} (hfront : s.fifo.take (min t.n PACKET_SIZE) = r.bytes) :
    slaveRead s t = .ok ((s.show r t).1, { s with
      fifo := s.fifo.drop (min t.n PACKET_SIZE)
      accepted := s.accepted ++ (s.show r t).2 }) := by
  have hnonempty : r.bytes.isEmpty = false := by
    rw [List.isEmpty_eq_false_iff, ← List.length_pos_iff, r.bytes_length]
    decide
  have hpack : PacketInfo.ofBytes (r.bytes ++ List.replicate (PACKET_SIZE - r.bytes.length) 0) =
      r.pack := by
    rw [r.bytes_length, Nat.sub_self, List.replicate_zero, List.append_nil]
    exact PacketInfo.ofBytes_bytes _ _
  unfold slaveRead Slave.show
  rw [if_neg (not_not.2 hslave), if_pos hset, hfront]
  dsimp only
  rw [hnonempty, hpack, if_neg Bool.false_ne_true]
  split
  · rename_i htype
    split
    · have hlength : r.pack.length.toNat ≤ BUFFER_PACKET_SIZE := by
        rcases r.type with h | h
        · exact h.2
        · rw [htype] at h
          cases h
      have hint : ¬ 2 ^ 31 ≤ r.pack.length.toNat := by
        unfold BUFFER_PACKET_SIZE at hlength
        omega
      rw [sslWriteBuffer, if_neg hint, if_pos (r.size ▸ hlength), Run.ok_bind,
        sslTlsWrite_accepted]
    · rw [List.append_nil]
  · rename_i htype
    rw [if_pos (r.type.resolve_left fun h => htype h.1), List.append_nil]

/-- The payload of a record is shown just if the TLS layer takes it. -/
theorem Slave.show_payload (r : Record) (t : ReadTurn) :
    (s.show r t).2 = r.payload ↔ (r.pack.type = DATA_TYPE_RDP → r.pack.payload ≠ [] →
      s.tls = true ∧ t.ssl.takes r.pack.payload = r.pack.payload.length) := by
  have hpayload : r.pack.payload = [] ↔ ¬ r.pack.length > 0 := by
    have hbuffer : r.pack.buffer ≠ [] := by
      rw [← List.length_pos_iff, r.size]
      decide
    rw [PacketInfo.payload, List.take_eq_nil_iff, or_iff_left hbuffer, gt_iff_lt, UInt32.lt_iff_toNat_lt,
      UInt32.toNat_zero, Nat.pos_iff_ne_zero, not_not]
  unfold Slave.show Record.payload
  by_cases htype : r.pack.type = DATA_TYPE_RDP
  · rw [if_pos htype, if_pos htype, forall_prop_of_true htype]
    by_cases hlength : r.pack.length > 0
    · have hne := mt hpayload.1 (not_not.2 hlength)
      rw [forall_prop_of_true hne]
      by_cases htls : s.tls = true
      · rw [if_pos ⟨hlength, htls⟩, and_iff_right htls, ← t.ssl.take_takes, eq_comm]
      · rw [if_neg fun h => htls h.2]
        exact iff_of_false (Ne.symm hne) fun h => htls h.1
    · have hnil := hpayload.2 hlength
      rw [if_neg fun h => hlength h.1, hnil]
      exact iff_of_true rfl fun h => absurd rfl h
  · rw [if_neg htype, if_neg htype]
    exact iff_of_true rfl fun h => absurd h htype

/-- A read takes what it returns off the stream. -/
theorem slaveRead_stream (hslave : s.sessionType = .SLAVE) {t : ReadTurn} (hset : t.isSet = true)
    {rv : Int} (h : slaveRead s t = .ok (rv, s')) : s'.sessionType = s.sessionType ∧
      s'.fifo = s.fifo.drop (min t.n PACKET_SIZE) ∧ s'.unwritten = s.unwritten := by
  unfold slaveRead at h
  rw [if_neg (not_not.2 hslave), if_pos hset] at h
  dsimp only at h
  split at h
  · cases h
    exact ⟨rfl, rfl, rfl⟩
  · split at h
    · split at h
      · obtain ⟨bytes, -, h⟩ := Run.bind_eq_ok.1 h
        cases h
        exact ⟨rfl, rfl, rfl⟩
      · cases h
        exact ⟨rfl, rfl, rfl⟩
    · split at h
      · cases h
        exact ⟨rfl, rfl, rfl⟩
      · cases h
        exact ⟨rfl, rfl, rfl⟩

/-- **A turn of the slave's loop** -/
theorem Slave.turn_ok (h : s.Good recs) (t : ReadTurn) : s.StepOk recs (.turn t) := by
  by_cases hrunning : s.running = true
  swap
  · have hstep : s.step (.turn t) = .ok s := if_neg hrunning
    exact .of_next Slave.step_unique hstep
      (iff_of_true h.faithful fun hf => absurd hf hrunning) fun _ => h
  by_cases hset : t.isSet = true
  swap
  · have hread : slaveRead s t = .ok (0, s) := by
      unfold slaveRead
      rw [if_neg (not_not.2 h.slave), if_neg hset]
    have hstep : s.step (.turn t) = .ok s := by
      simp only [Slave.step, hrunning, if_true, hread, Run.ok_bind, decide_true]
      rw [← hrunning]
    exact .of_next Slave.step_unique hstep
      (iff_of_true h.faithful fun _ hf => absurd hf hset) fun _ => h
  have hstep : s.step (.turn t) = (do
      let (rv, s) ← slaveRead s t
      .ok { s with running := rv = 0 }) := if_pos hrunning
  have hfits : s.StepFits (.turn t) ↔ s.TurnFits t :=
    ⟨fun hf => hf hrunning hset, fun hf _ _ => hf⟩
  have hpos : 0 < PACKET_SIZE := by decide
  obtain ⟨before, after, hrecs, hleft, hsent⟩ := h.faithful
  by_cases hzero : min t.n s.fifo.length = 0
  · -- nothing is read
    have hnil : s.fifo.take (min t.n PACKET_SIZE) = [] := by
      rw [List.take_eq_nil_iff]
      rcases Nat.eq_zero_or_pos t.n with hn | hn
      · left
        omega
      · right
        exact List.length_eq_zero_iff.1 (by omega)
    have hdrop : s.fifo.drop (min t.n PACKET_SIZE) = s.fifo := by
      have := List.take_append_drop (min t.n PACKET_SIZE) s.fifo
      rwa [hnil, List.nil_append] at this
    have hread : slaveRead s t = .ok (1, s) := by
      unfold slaveRead
      rw [if_neg (not_not.2 h.slave), if_pos hset, hnil, hdrop]
      rfl
    have hturn : s.TurnFits t := by
      refine ⟨?_, fun hlt => absurd hzero hlt.ne'⟩
      rcases Nat.eq_zero_or_pos t.n with hn | hn
      · exact .inl hn
      · exact .inr (.inl (List.length_eq_zero_iff.1 (by omega)))
    rw [hread, Run.ok_bind] at hstep
    have hfaithful : ({ s with running := decide ((1 : Int) = 0) } : Slave).Faithful recs :=
      h.faithful.of_eq rfl rfl
    exact .of_next Slave.step_unique hstep (iff_of_true hfaithful (hfits.2 hturn))
      fun hok => ⟨h.slave, hok⟩
  by_cases hwhole : PACKET_SIZE ≤ min t.n s.fifo.length
  · -- a whole record is read
    obtain ⟨r, rest, rfl, hfront, hrest⟩ :=
      Record.at_front hleft (hwhole.trans (min_le_right _ _))
    have hn : min t.n PACKET_SIZE = PACKET_SIZE := min_eq_right (hwhole.trans (min_le_left _ _))
    have hread := slaveRead_whole h.slave hset (r := r) (by rw [hn, hfront])
    rw [hn] at hread
    rw [hread, Run.ok_bind] at hstep
    have hturn : s.TurnFits t ↔ (s.show r t).2 = r.payload := by
      rw [Slave.show_payload]
      have hpack : PacketInfo.ofBytes (s.fifo.take PACKET_SIZE) = r.pack := by
        rw [hfront]
        exact PacketInfo.ofBytes_bytes _ _
      constructor
      · intro hf
        have haccepts := hf.accepts (Nat.pos_of_ne_zero hzero)
        rwa [hpack] at haccepts
      · refine fun hf => ⟨.inr (.inr hwhole), fun _ => ?_⟩
        rwa [hpack]
    rw [← hfits] at hturn
    apply Runs.StepIff.of_next Slave.step_unique hstep
    · rw [hturn]
      apply Slave.faithful_read hrecs hrest
      exact congrArg (· ++ _) hsent
    · exact fun hok => ⟨h.slave, hok⟩
  · -- a part of a record is read
    have hturn : ¬ s.TurnFits t := by
      intro hf
      rcases hf.whole with hn | hfifo | hle
      · omega
      · rw [hfifo, List.length_nil] at hzero
        omega
      · exact hwhole hle
    rw [← hfits] at hturn
    cases hread : slaveRead s t with
    | error e =>
      refine .of_stuck (fun s' hs' => ?_) hturn
      rw [hstep, hread] at hs'
      cases hs'
    | ok result =>
      obtain ⟨rv, s₁⟩ := result
      obtain ⟨htype, hfifo, hunwritten⟩ := slaveRead_stream h.slave hset hread
      rw [hread, Run.ok_bind] at hstep
      have hnot : ¬ ({ s₁ with running := decide (rv = 0) } : Slave).Faithful recs := by
        apply Slave.not_faithful_of_short h.faithful (Nat.pos_of_ne_zero hzero)
          (Nat.lt_of_not_le hwhole)
        dsimp only
        rw [hfifo, hunwritten, List.length_append, List.length_append, List.length_drop]
        omega
      exact .of_next Slave.step_unique hstep (iff_of_false hnot hturn) fun hok => absurd hok hnot

theorem Slave.step_ok (h : s.Good recs) (e : Slave.Event) : s.StepOk recs e := by
  cases e with
  | turn t => exact Slave.turn_ok h t
  | write n =>
    have hfaithful : ({ s with fifo := s.fifo ++ s.unwritten.take n
                               unwritten := s.unwritten.drop n } : Slave).Faithful recs := by
      apply h.faithful.of_eq
      · rw [List.append_assoc, List.take_append_drop]
      · rfl
    exact .of_next Slave.step_unique rfl (iff_of_true hfaithful trivial)
      fun hok => ⟨h.slave, hok⟩

end

/-- A slave that has kept the promise and read everything has sent all payloads. -/
theorem Slave.Faithful.all {recs : List Record} {s : Slave} (h : s.Faithful recs)
    (hfifo : s.fifo = []) (hunwritten : s.unwritten = []) :
    s.accepted = recs.flatMap Record.payload := by
  obtain ⟨before, after, rfl, hleft, hsent⟩ := h
  rw [hfifo, hunwritten, List.append_nil] at hleft
  have hlen := congrArg List.length hleft
  rw [Record.flatMap_bytes_length, List.length_nil, eq_comm, Nat.mul_eq_zero,
    List.length_eq_zero_iff] at hlen
  rw [hlen.resolve_right (by decide), List.append_nil, hsent]

/-- **What a slave shows**: for every sequence of records and every way in which the kernel splits
or merges them, at all times what is left of the stream is whole records, and what the slave has
sent is the payloads of the others, just if all events meet the condition: a read of the slave
that returns anything returns a whole record, and the TLS layer is there and accepts all of the
payload. -/
theorem slave_read_iff (tls : Bool) (recs : List Record) (events : List Slave.Event) :
    (∀ before, before <+: events → ∃ s, (Slave.start tls recs).run before = .ok s ∧
        s.Faithful recs) ↔
      (Slave.start tls recs).Fits events := by
  have hruns := Runs.always_iff Slave.step_unique (fun _ h => Slave.Good.faithful h)
    (fun s e h => Slave.step_ok h e) (Slave.good_start tls recs) events
  rw [Slave.Fits, ← hruns]
  simp only [Runs.Always, Runs.leads_except, Slave.run]

theorem byte_fits (b : UInt8) : [b].length ≤ BUFFER_PACKET_SIZE := by simp [BUFFER_PACKET_SIZE]

/-- The record of one byte. -/
def Record.ofByte (b : UInt8) : Record := .ofData [b] (fun _ => 0) 0 (byte_fits b)

/-- **A short read**: a record of one byte is read in two pieces, and nothing is shown. -/
theorem slave_read_split :
    ∃ s, (Slave.start true [.ofByte 0x41]).run [.write PACKET_SIZE, .turn ⟨true, 1, [], .none 0⟩,
        .turn ⟨true, PACKET_SIZE, [], .none 0⟩] = .ok s ∧ s.running = true ∧ s.fifo = [] ∧
      s.unwritten = [] ∧ s.accepted = [] ∧ ¬ s.Faithful [.ofByte 0x41] := by
  have hlen : ([Record.ofByte 0x41].flatMap Record.bytes).length = PACKET_SIZE :=
    Record.flatMap_bytes_length _
  obtain ⟨s, hrun, hrunning, hnil, hunwritten, haccepted⟩ :
      ∃ s, (Slave.start true [.ofByte 0x41]).run [.write PACKET_SIZE,
          .turn ⟨true, 1, [], .none 0⟩, .turn ⟨true, PACKET_SIZE, [], .none 0⟩] = .ok s ∧
        s.running = true ∧ s.fifo = [] ∧ s.unwritten = [] ∧ s.accepted = [] := by
    refine ⟨_, rfl, rfl, ?_, ?_, rfl⟩
    · dsimp only [Slave.start]
      rw [List.nil_append, List.drop_drop, List.drop_eq_nil_iff, List.length_take, hlen, min_self]
      exact Nat.le_add_left _ _
    · dsimp only [Slave.start]
      exact List.drop_of_length_le hlen.le
  refine ⟨s, hrun, hrunning, hnil, hunwritten, haccepted, fun h => ?_⟩
  have hall := h.all hnil hunwritten
  rw [haccepted, List.flatMap_singleton, Record.ofByte, Record.payload_ofData] at hall
  cases hall

end Xrdp.Mirror
