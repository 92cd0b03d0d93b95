import Xrdp.Drdynvc.Reassembly

/-!
# The life of a dynamic channel

The server and the client take turns in any order, with messages in flight: a create response may
answer an open that has been closed since, or none.

* `Life` — what has happened to a channel id: the last open, if nobody has closed it since, and
  whether the client has confirmed it.
* `World.Good` — a channel that is open has been confirmed.
* `step_good_iff` — one event; `life_cycle_iff` — every run: the channels are used properly just
  if the client answers only opens that stand, and sends data only on channels it has confirmed.
-/

namespace Xrdp.Dvc

open Wire

/-! ## Histories -/

/-- The history of a channel id. -/
structure Life where
  /-- The number of the last open, if neither side has closed the channel since. -/
  opened : Option Nat
  /-- The client has confirmed that open. -/
  confirmed : Bool

/-- The channel layer and the histories of its channels. -/
structure World where
  self : Channel
  /-- The number of opens so far. -/
  serial : Nat
  life : Nat → Life

def World.start : World := ⟨.create, 0, fun _ => ⟨none, false⟩⟩

def World.setLife (w : World) (id : Nat) (l : Life) : World :=
  { w with life := fun i => if i = id then l else w.life i }

/-- A call of the server, or a PDU of the client in one chunk.  A create response is sent in
answer to an open, the number of which is not in the PDU. -/
inductive Event where
  | openChannel (name : List UInt8) (procs : Procs) (canSend : Bool)
  | closeChannel (chanId : Int) (canSend : Bool)
  | dataFirst (chanId : Int) (data : List UInt8) (totalDataBytes : Nat) (canSend : Bool)
  | data (chanId : Int) (data : List UInt8) (canSend : Bool)
  | client (cmd : UInt8) (rest : List UInt8) (answers : Nat)

/-- What a PDU of the client is about. -/
inductive ClientPdu where
  | openResponse (chanId : Nat) (success : Bool)
  | close (chanId : Nat)
  | dataFirst (chanId : Nat)
  | data (chanId : Nat)
  | other

/-- The channel id of a PDU, if it is one of the 256. -/
def chanIdOf (cmd : UInt8) (rest : List UInt8) : Option (Nat × List UInt8) :=
  (drdynvcGetChanId rest cmd.toNat).filter fun r => r.1 ≤ 255

def clientPdu (cmd : UInt8) (rest : List UInt8) : ClientPdu :=
  let c := cmd.toNat &&& 0xf0
  match chanIdOf cmd rest with
  | none => .other
  | some (id, rest) =>
    if c = CMD_DVC_OPEN_CHANNEL then
      match getLe 4 rest with
      | none => .other
      | some (creationStatus, _) => .openResponse id (creationStatus = 0)
    else if c = CMD_DVC_CLOSE_CHANNEL then .close id
    else if c = CMD_DVC_DATA_FIRST then
      if (getTotalBytes rest cmd.toNat).isSome then .dataFirst id else .other
    else if c = CMD_DVC_DATA then .data id
    else .other

/-- What a PDU does to the history. -/
def World.record (w : World) (answers : Nat) : ClientPdu → World
  | .openResponse id success =>
    if (w.life id).opened = some answers then
      w.setLife id (if success then ⟨some answers, true⟩ else ⟨none, false⟩)
    else w
  | .close id => w.setLife id ⟨none, false⟩
  | _ => w

section

variable (callback : Call → Int) (fresh : Nat → UInt8)

/-- The reply to a PDU of the client. -/
def World.reply (w : World) (cmd : UInt8) (rest : List UInt8) : Run Reply :=
  xrdpChannelProcessDrdynvc callback fresh w.self (whole (cmd :: rest)).packet

/-- One event; `none` if the program has left a buffer. -/
def step (w : World) : Event → Option World
  | .openChannel name procs canSend =>
    match xrdpChannelDrdynvcOpen w.self name procs canSend with
    | none => some w
    | some (id, _, self) =>
      some { w.setLife id ⟨some w.serial, false⟩ with self, serial := w.serial + 1 }
  | .closeChannel chanId canSend =>
    match xrdpChannelDrdynvcClose w.self chanId canSend with
    | none => some w
    | some (_, self) => some { w.setLife chanId.toNat ⟨none, false⟩ with self }
  | .dataFirst .. => some w
  | .data .. => some w
  | .client cmd rest answers =>
    match w.reply callback fresh cmd rest with
    | .error _ => none
    | .ok reply => some { w.record answers (clientPdu cmd rest) with self := reply.self }

/-! ## Proper use -/

/-- A channel that is open has been confirmed. -/
def World.Good (w : World) : Prop :=
  ∀ id, (w.self.drdynvcs id).status = .OPEN → (w.life id).confirmed = true

/-- The channel a call hands data of. -/
def Call.dataId : Call → Option Nat
  | .dataFirst id _ _ => some id
  | .data id _ => some id
  | _ => none

/-- Data that is handed to the upper layer, or accepted from it, is on a confirmed channel. -/
def World.DataOk (w : World) : Event → Prop
  | .dataFirst chanId data totalDataBytes canSend =>
    (xrdpChannelDrdynvcDataFirst w.self chanId data totalDataBytes canSend).isSome →
      (w.life chanId.toNat).confirmed = true
  | .data chanId data canSend =>
    (xrdpChannelDrdynvcData w.self chanId data canSend).isSome →
      (w.life chanId.toNat).confirmed = true
  | .client cmd rest _ =>
    ∀ reply, w.reply callback fresh cmd rest = .ok reply → ∀ c ∈ reply.calls, ∀ id,
      c.dataId = some id → (w.life id).confirmed = true
  | _ => True

/-- What the client has to keep to: it confirms an open that stands, and sends data on channels
it has confirmed, if they have ever been opened. -/
def World.ProperPdu (w : World) (answers : Nat) : ClientPdu → Prop
  | .openResponse id true =>
    (w.life id).opened = some answers ∨ (w.life id).confirmed = true
  | .dataFirst id => (w.self.drdynvcs id).procs.dataFirst = true → (w.life id).confirmed = true
  | .data id => (w.self.drdynvcs id).procs.data = true → (w.life id).confirmed = true
  | _ => True

def World.Proper (w : World) : Event → Prop
  | .client cmd rest answers => w.ProperPdu answers (clientPdu cmd rest)
  | _ => True

/-- Channels are used properly all along a run. -/
def Safe (w : World) : List Event → Prop
  | [] => w.Good
  | e :: es => w.Good ∧ w.DataOk callback fresh e ∧
    ∀ w', step callback fresh w e = some w' → Safe w' es

/-- The client keeps to the rules all along a run. -/
def ProperRun (w : World) : List Event → Prop
  | [] => True
  | e :: es => w.Proper e ∧ ∀ w', step callback fresh w e = some w' → ProperRun w' es

end

/-! ## What the code does -/

/-- The channel a call is about. -/
def Call.chanId : Call → Option Nat
  | .up => none
  | .openResponse id _ => some id
  | .closeResponse id => some id
  | .dataFirst id _ _ => some id
  | .data id _ => some id

/-- Neither the channels nor their callbacks are touched. -/
def Quiet (self : Channel) (reply : Reply) : Prop :=
  reply.self.drdynvcs = self.drdynvcs ∧ ∀ c ∈ reply.calls, c.chanId = none

/-- One callback of channel `id` is called, if it is set. -/
def Calls (id : Nat) (isData set : Bool) (reply : Reply) : Prop :=
  ∃ c : Call, c.chanId = some id ∧ (c.dataId = if isData then some id else none) ∧
    reply.calls = if set then [c] else []

/-- What a PDU of the client does. -/
def ClientPdu.Done (self : Channel) (reply : Reply) : ClientPdu → Prop
  | .openResponse id success =>
    reply.self.drdynvcs = (self.setStatus id (if success then .OPEN else .CLOSED)).drdynvcs ∧
      Calls id false (self.drdynvcs id).procs.openResponse reply
  | .close id =>
    reply.self.drdynvcs = (self.setStatus id .CLOSED).drdynvcs ∧
      Calls id false (self.drdynvcs id).procs.closeResponse reply
  | .dataFirst id =>
    reply.self.drdynvcs = self.drdynvcs ∧
      Calls id true (self.drdynvcs id).procs.dataFirst reply
  | .data id =>
    reply.self.drdynvcs = self.drdynvcs ∧ Calls id true (self.drdynvcs id).procs.data reply
  | .other => Quiet self reply

section

variable {callback : Call → Int} {self : Channel} {cmd : UInt8} {rest : List UInt8}

theorem Quiet.error : Quiet self self.error := ⟨rfl, by simp [Channel.error]⟩

theorem capability_quiet {reply : Reply}
    (h : drdynvcProcessCapabilityResponse callback self rest = .ok reply) : Quiet self reply := by
  unfold drdynvcProcessCapabilityResponse at h
  split at h
  · cases h
  · split at h
    · cases h
      exact .error
    · cases h
      exact ⟨rfl, by simp [Channel.call, Call.chanId]⟩

theorem dataId_of_chanId {c : Call} (h : c.chanId = none) : c.dataId = none := by
  cases c with
  | up => rfl
  | _ => cases h

/-- A PDU without a channel id that is one of the 256 is refused. -/
theorem processCmd_noId {reply : Reply} (hid : chanIdOf cmd rest = none)
    (h : processCmd callback self cmd.toNat rest = .ok reply) : Quiet self reply := by
  have hbad : ∀ id s, drdynvcGetChanId rest cmd.toNat = some (id, s) → id > 255 := by
    intro id s hget
    rw [chanIdOf, hget] at hid
    simpa [Option.filter] using hid
  unfold processCmd at h
  dsimp only at h
  split at h
  · exact capability_quiet h
  unfold drdynvcProcessOpenChannelResponse drdynvcProcessCloseChannelResponse
    drdynvcProcessDataFirst drdynvcProcessData at h
  cases hget : drdynvcGetChanId rest cmd.toNat with
  | none =>
    simp only [hget] at h
    split_ifs at h
    all_goals
      cases h
      exact .error
  | some r =>
    obtain ⟨id, s⟩ := r
    have h255 := hbad id s hget
    simp only [hget, h255, if_true] at h
    split_ifs at h
    · cases h4 : getLe 4 s with
      | none =>
        simp only [h4] at h
        cases h
        exact .error
      | some v =>
        simp only [h4] at h
        cases h
        exact .error
    · cases h
      exact .error
    · cases ht : getTotalBytes s cmd.toNat with
      | none =>
        simp only [ht] at h
        cases h
        exact .error
      | some v =>
        simp only [ht] at h
        cases h
        exact .error
    · cases h
      exact .error
    · cases h
      exact .error

/-- **A PDU of the client** does what it is about. -/
theorem processCmd_done {reply : Reply}
    (h : processCmd callback self cmd.toNat rest = .ok reply) :
    (clientPdu cmd rest).Done self reply := by
  cases hid : chanIdOf cmd rest with
  | none =>
    rw [clientPdu, hid]
    exact processCmd_noId hid h
  | some r =>
    obtain ⟨id, s⟩ := r
    obtain ⟨hget, hle⟩ : drdynvcGetChanId rest cmd.toNat = some (id, s) ∧ id ≤ 255 := by
      rw [chanIdOf, Option.filter_eq_some_iff] at hid
      exact ⟨hid.1, by simpa using hid.2⟩
    have h255 : ¬ id > 255 := by omega
    rw [clientPdu, hid]
    unfold processCmd at h
    dsimp only at h ⊢
    split at h
    · rename_i hc
      rw [hc, if_neg (by decide), if_neg (by decide), if_neg (by decide), if_neg (by decide)]
      exact capability_quiet h
    split at h
    · rename_i hc
      rw [if_pos hc]
      rw [drdynvcProcessOpenChannelResponse, hget] at h
      cases h4 : getLe 4 s with
      | none =>
        simp only [h4] at h
        cases h
        exact .error
      | some v =>
        simp only [h4, if_neg h255] at h
        cases h
        refine ⟨?_, .openResponse id (signed32 v.1), rfl, rfl, ?_⟩
        · split <;> simp [Channel.call]
        · split <;> rfl
    split at h
    · rename_i h1 hc
      rw [if_neg h1, if_pos hc]
      rw [drdynvcProcessCloseChannelResponse, hget] at h
      simp only [if_neg h255] at h
      cases h
      refine ⟨?_, .closeResponse id, rfl, rfl, ?_⟩
      · split <;> rfl
      · split <;> rfl
    split at h
    · rename_i h1 h2 hc
      rw [if_neg h1, if_neg h2, if_pos hc]
      rw [drdynvcProcessDataFirst, hget] at h
      cases ht : getTotalBytes s cmd.toNat with
      | none =>
        simp only [ht] at h
        cases h
        exact .error
      | some v =>
        simp only [ht, if_neg h255] at h
        cases h
        rw [Option.isSome_some, if_pos rfl]
        refine ⟨?_, .dataFirst id v.2 v.1, rfl, rfl, ?_⟩
        · split <;> rfl
        · split <;> rfl
    split at h
    · rename_i h1 h2 h3 hc
      rw [if_neg h1, if_neg h2, if_neg h3, if_pos hc]
      rw [drdynvcProcessData, hget] at h
      simp only [if_neg h255] at h
      cases h
      refine ⟨?_, .data id s, rfl, rfl, ?_⟩
      · split <;> rfl
      · split <;> rfl
    · rename_i h1 h2 h3 h4
      rw [if_neg h1, if_neg h2, if_neg h3, if_neg h4]
      cases h
      exact .error

/-- The only PDU that is read past its end is a capability response. -/
theorem clientPdu_of_error {e : Stuck} (h : processCmd callback self cmd.toNat rest = .error e) :
    clientPdu cmd rest = .other := by
  have hc : cmd.toNat &&& 0xf0 = CMD_DVC_CAPABILITY := by
    unfold processCmd at h
    dsimp only at h
    split_ifs at h with hc
    exact hc
  unfold clientPdu
  dsimp only
  split
  · rfl
  · rw [hc, if_neg (by decide), if_neg (by decide), if_neg (by decide), if_neg (by decide)]

end

/-! ## One event -/

section

variable {callback : Call → Int} {fresh : Nat → UInt8} {w : World}

theorem reply_eq (cmd : UInt8) (rest : List UInt8) :
    w.reply callback fresh cmd rest = processCmd callback w.self cmd.toNat rest :=
  process_single callback fresh w.self (whole_flags _) rfl

/-- If only channel `id` changes, the others stay as they are. -/
theorem good_of_set (hw : w.Good) {w' : World} {id : Nat}
    (hother : ∀ i, i ≠ id → (w'.self.drdynvcs i).status = (w.self.drdynvcs i).status ∧
      w'.life i = w.life i)
    (hid : (w'.self.drdynvcs id).status = .OPEN → (w'.life id).confirmed = true) : w'.Good := by
  intro i hi
  by_cases h : i = id
  · subst h
    exact hid hi
  · obtain ⟨hs, hl⟩ := hother i h
    rw [hl]
    exact hw i (hs ▸ hi)

theorem good_of_same (hw : w.Good) {self : Channel} (h : self.drdynvcs = w.self.drdynvcs) :
    ({ w with self } : World).Good := by
  intro i hi
  exact hw i (by rw [← h]; exact hi)

/-- What a PDU leaves of the history. -/
theorem record_life (w : World) (answers : Nat) (pdu : ClientPdu) {id i : Nat}
    (hpdu : (∃ success, pdu = .openResponse id success) ∨ pdu = .close id) (hi : i ≠ id) :
    (w.record answers pdu).life i = w.life i := by
  rcases hpdu with ⟨success, rfl⟩ | rfl
  · unfold World.record
    dsimp only
    split
    · simp [World.setLife, hi]
    · rfl
  · simp [World.record, World.setLife, hi]

/-- A PDU that has been replied to. -/
theorem pdu_good_iff (hw : w.Good) {pdu : ClientPdu} {reply : Reply} (answers : Nat)
    (h : pdu.Done w.self reply) :
    ((∀ c ∈ reply.calls, ∀ id, c.dataId = some id → (w.life id).confirmed = true) ∧
        ({ w.record answers pdu with self := reply.self } : World).Good) ↔
      w.ProperPdu answers pdu := by
  -- no data is handed over
  have hquiet : (∀ c ∈ reply.calls, c.dataId = none) →
      ∀ c ∈ reply.calls, ∀ id, c.dataId = some id → (w.life id).confirmed = true := by
    intro hc c hmem id hid
    rw [hc c hmem] at hid
    cases hid
  have hcalls : ∀ {id : Nat} {set : Bool}, Calls id false set reply →
      ∀ c ∈ reply.calls, c.dataId = none := by
    rintro id set ⟨c, -, hdata, hc⟩ c' hc'
    rw [hc] at hc'
    split at hc'
    · rw [List.mem_singleton.1 hc']
      exact hdata
    · cases hc'
  -- data is handed over on one channel at most
  have hhands : ∀ {id : Nat} {set : Bool}, reply.self.drdynvcs = w.self.drdynvcs →
      Calls id true set reply →
      ((∀ c ∈ reply.calls, ∀ i, c.dataId = some i → (w.life i).confirmed = true) ∧
        ({ w with self := reply.self } : World).Good ↔
          (set = true → (w.life id).confirmed = true)) := by
    rintro id set hsame ⟨c, -, hdata, hc⟩
    rw [and_iff_left (good_of_same hw hsame), hc]
    cases set with
    | false => simp
    | true => simp [hdata]
  cases pdu with
  | other => exact iff_of_true ⟨hquiet fun c hc => dataId_of_chanId (h.2 c hc),
      good_of_same hw h.1⟩ trivial
  | dataFirst id => exact hhands h.1 h.2
  | data id => exact hhands h.1 h.2
  | close id =>
    refine iff_of_true ⟨hquiet (hcalls h.2), @good_of_set w hw _ id (fun i hi => ⟨?_, ?_⟩)
      fun ho => ?_⟩
      trivial
    · simp [h.1, Channel.setStatus, hi]
    · exact record_life w answers _ (.inr rfl) hi
    · simp [h.1, Channel.setStatus] at ho
  | openResponse id success =>
    have hother : ∀ i, i ≠ id →
        (reply.self.drdynvcs i).status = (w.self.drdynvcs i).status ∧
          (w.record answers (.openResponse id success)).life i = w.life i := by
      intro i hi
      refine ⟨?_, record_life w answers _ (.inl ⟨success, rfl⟩) hi⟩
      simp [h.1, Channel.setStatus, hi]
    rw [and_iff_right (hquiet (hcalls h.2))]
    cases success with
    | false =>
      refine iff_of_true (good_of_set hw hother fun ho => ?_) trivial
      simp [h.1, Channel.setStatus] at ho
    | true =>
      have hstatus : (reply.self.drdynvcs id).status = .OPEN := by
        simp [h.1, Channel.setStatus]
      have hconfirmed : ((w.record answers (.openResponse id true)).life id).confirmed = true ↔
          ((w.life id).opened = some answers ∨ (w.life id).confirmed = true) := by
        unfold World.record
        dsimp only
        split
        · rename_i ho
          simp [World.setLife, ho]
        · rename_i ho
          simp [ho]
      constructor
      · exact fun hgood => hconfirmed.1 (hgood id hstatus)
      · exact fun hc => good_of_set hw hother fun _ => hconfirmed.2 hc

theorem goodId_eq_some {chanId : Int} {id : Nat} (h : goodId chanId = some id) :
    chanId.toNat = id := by
  unfold goodId at h
  split at h
  · cases h
  · cases h
    rfl

/-- A call of the server keeps open channels confirmed. -/
theorem open_good (hw : w.Good) {name : List UInt8} {procs : Procs} {canSend : Bool}
    {w' : World} (h : step callback fresh w (.openChannel name procs canSend) = some w') :
    w'.Good := by
  unfold step at h
  dsimp only at h
  split at h
  · cases h
    exact hw
  · rename_i id msg self hopen
    cases h
    unfold xrdpChannelDrdynvcOpen at hopen
    split at hopen
    · cases hopen
    · dsimp only at hopen
      split at hopen
      · cases hopen
        refine @good_of_set w hw _ id (fun i hi => ⟨?_, ?_⟩) fun ho => ?_
        · simp [hi]
        · simp [World.setLife, hi]
        · simp at ho
      · cases hopen

theorem close_good (hw : w.Good) {chanId : Int} {canSend : Bool} {w' : World}
    (h : step callback fresh w (.closeChannel chanId canSend) = some w') : w'.Good := by
  unfold step at h
  dsimp only at h
  split at h
  · cases h
    exact hw
  · rename_i msg self hclose
    cases h
    unfold xrdpChannelDrdynvcClose at hclose
    split at hclose
    · cases hclose
    · rename_i id hid
      split at hclose
      · cases hclose
      · dsimp only at hclose
        split at hclose
        · cases hclose
          rw [goodId_eq_some hid]
          refine @good_of_set w hw _ id (fun i hi => ⟨?_, ?_⟩) fun ho => ?_
          · simp [Channel.setStatus, hi]
          · simp [World.setLife, hi]
          · simp [Channel.setStatus] at ho
        · cases hclose

/-- The server's data is accepted on confirmed channels only. -/
theorem data_ok (hw : w.Good) {chanId : Int} {data : List UInt8} {canSend : Bool}
    (h : (xrdpChannelDrdynvcData w.self chanId data canSend).isSome) :
    (w.life chanId.toNat).confirmed = true := by
  unfold xrdpChannelDrdynvcData at h
  split at h
  · cases h
  · rename_i id hid
    split at h
    · cases h
    · rename_i hstatus
      rw [goodId_eq_some hid]
      exact hw id (not_not.1 hstatus)

theorem dataFirst_ok (hw : w.Good) {chanId : Int} {data : List UInt8} {totalDataBytes : Nat}
    {canSend : Bool}
    (h : (xrdpChannelDrdynvcDataFirst w.self chanId data totalDataBytes canSend).isSome) :
    (w.life chanId.toNat).confirmed = true := by
  unfold xrdpChannelDrdynvcDataFirst at h
  split at h
  · cases h
  · rename_i id hid
    split at h
    · cases h
    · rename_i hstatus
      rw [goodId_eq_some hid]
      exact hw id (not_not.1 hstatus)

/-- **One event** leaves the channels in proper use just if it is a proper one. -/
theorem step_good_iff (hw : w.Good) (e : Event) :
    (w.DataOk callback fresh e ∧ ∀ w', step callback fresh w e = some w' → w'.Good) ↔
      w.Proper e := by
  cases e with
  | openChannel name procs canSend =>
    exact iff_of_true ⟨trivial, fun w' h => open_good hw h⟩ trivial
  | closeChannel chanId canSend =>
    exact iff_of_true ⟨trivial, fun w' h => close_good hw h⟩ trivial
  | dataFirst chanId data totalDataBytes canSend =>
    refine iff_of_true ⟨dataFirst_ok hw, fun w' h => ?_⟩ trivial
    cases h
    exact hw
  | data chanId data canSend =>
    refine iff_of_true ⟨data_ok hw, fun w' h => ?_⟩ trivial
    cases h
    exact hw
  | client cmd rest answers =>
    unfold World.DataOk World.Proper step
    dsimp only
    rw [reply_eq]
    cases hr : processCmd callback w.self cmd.toNat rest with
    | error e =>
      rw [clientPdu_of_error hr]
      refine iff_of_true ⟨?_, ?_⟩ trivial
      · intro _ h
        cases h
      · intro _ h
        cases h
    | ok reply =>
      rw [← pdu_good_iff hw answers (processCmd_done hr)]
      simp only [Except.ok.injEq, forall_eq', Option.some.injEq]

theorem good_start : World.start.Good := by
  intro id h
  cases h

theorem safe_iff (hw : w.Good) (es : List Event) :
    Safe callback fresh w es ↔ ProperRun callback fresh w es := by
  induction es generalizing w with
  | nil => exact iff_of_true hw trivial
  | cons e es ih =>
    have hgood : ∀ {w' : World}, Safe callback fresh w' es → w'.Good := by
      intro w' h
      cases es with
      | nil => exact h
      | cons e es => exact h.1
    have hstep := @step_good_iff callback fresh w hw e
    constructor
    · rintro ⟨-, hdata, hrest⟩
      refine ⟨hstep.1 ⟨hdata, fun w' h => hgood (hrest w' h)⟩, fun w' h => ?_⟩
      exact (ih (hgood (hrest w' h))).1 (hrest w' h)
    · rintro ⟨hproper, hrest⟩
      obtain ⟨hdata, hnext⟩ := hstep.2 hproper
      exact ⟨hw, hdata, fun w' h => (ih (hnext w' h)).2 (hrest w' h)⟩

end

/-- **The life cycle of dynamic channels**: in a run from the start of a connection, a channel is
open, and data passes on it, only while the client has confirmed the last open and neither side
has closed it, just if the client keeps to the rules all along the run. -/
theorem life_cycle_iff (callback : Call → Int) (fresh : Nat → UInt8) (es : List Event) :
    Safe callback fresh .start es ↔ ProperRun callback fresh .start es :=
  safe_iff good_start es

/-- The server opens a channel and closes it again, and then the answer to the open arrives. -/
def lateResponse : List Event :=
  [.openChannel [0x61] ⟨true, true, true, true⟩ true, .closeChannel 1 true,
    .client 0x10 [1, 0, 0, 0, 0] 0]

/-- **The answer undoes the close**: the channel is open. -/
theorem life_cycle_late_response :
    (∃ w₁ w₂ w₃, step (fun _ => 0) (fun _ => 0) .start
        (.openChannel [0x61] ⟨true, true, true, true⟩ true) = some w₁ ∧
      step (fun _ => 0) (fun _ => 0) w₁ (.closeChannel 1 true) = some w₂ ∧
      (w₂.self.drdynvcs 1).status = .CLOSE_SENT ∧
      step (fun _ => 0) (fun _ => 0) w₂ (.client 0x10 [1, 0, 0, 0, 0] 0) = some w₃ ∧
      (w₃.self.drdynvcs 1).status = .OPEN ∧ (w₃.life 1).confirmed = false) ∧
    ¬ Safe (fun _ => 0) (fun _ => 0) .start lateResponse := by
  refine ⟨⟨_, _, _, rfl, rfl, rfl, rfl, rfl, rfl⟩, fun h => ?_⟩
  have hgood := (((h.2.2 _ rfl).2.2 _ rfl).2.2 _ rfl)
  exact absurd (hgood 1 rfl) (by decide)

end Xrdp.Dvc
