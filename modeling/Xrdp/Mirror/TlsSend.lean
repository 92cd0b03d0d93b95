import Xrdp.Mirror.PacketInfo
import Xrdp.Lib.Runs

/-!
# What a master forwards

* `transForceWriteS_sends`, `transWriteCopyS_sends`, `transSendWaiting_sends` — the callers only
  call `trans_tls_send`, each time with what is left.
* `tls_send_iff` — the sequences of calls in which the bytes forwarded are the bytes sent.
-/

namespace Xrdp.Mirror

/-! ## Sequences of writes -/

/-- A call of `trans_tls_send`. -/
structure Call where
  data : List UInt8
  answer : Answer

/-- One call, without its return value. -/
def Link.step (l : Link) (c : Call) : Run Link := do
  let (_, l) ← transTlsSend l c.data c.answer
  .ok l

/-- A sequence of calls. -/
def Link.run (l : Link) (calls : List Call) : Run Link := calls.foldlM Link.step l

/-- The link of a master session that forwards what it sends. -/
def Link.master : Link := ⟨true, [], some ⟨.MASTER, true, []⟩⟩

/-- What has been forwarded. -/
def Link.forwarded (l : Link) : List UInt8 :=
  match l.pMyTransInfo with
  | some p => p.fifo.flatMap PacketInfo.payload
  | none => []

/-- The bytes forwarded are the bytes the TLS layer has accepted, and no record carries more than
its buffer holds. -/
structure Link.Mirrored (l : Link) : Prop where
  forwarded : l.forwarded = l.accepted
  fits : ∀ p, l.pMyTransInfo = some p → ∀ pack ∈ p.fifo,
    pack.length.toNat ≤ BUFFER_PACKET_SIZE

/-- The session forwards what it sends. -/
def Link.Forwards (l : Link) : Prop :=
  ∃ p, l.pMyTransInfo = some p ∧ p.sendToSlave = true

/-- The condition on a call. -/
structure Link.StepFits (l : Link) (c : Call) : Prop where
  /-- While the session forwards, the data fit into a record; all of them are accepted if the
  record is taken, and none if it is not. -/
  on : l.Forwards → c.data.length ≤ BUFFER_PACKET_SIZE ∧
    if c.answer.fifoCanSend ∧ c.answer.fifoWrite then c.answer.ssl.takes c.data = c.data.length
    else c.answer.ssl.takes c.data = 0
  /-- Afterwards nothing is accepted. -/
  off : ¬ l.Forwards → c.answer.ssl.takes c.data = 0

/-- All calls meet the condition, each in the state before it. -/
def Link.Fits : Link → List Call → Prop :=
  Runs.AllFit (fun l c l' => l.step c = .ok l') Link.StepFits

/-! ## The callers -/

/-- Some calls lead from one state to another. -/
def Sends (link link' : Link) : Prop := ∃ calls, link.run calls = .ok link'

theorem Sends.refl (link : Link) : Sends link link := ⟨[], rfl⟩

theorem Sends.trans {link₁ link₂ link₃ : Link} (h : Sends link₁ link₂) (h' : Sends link₂ link₃) :
    Sends link₁ link₃ := by
  obtain ⟨calls, hrun⟩ := h
  obtain ⟨calls', hrun'⟩ := h'
  refine ⟨calls ++ calls', ?_⟩
  rw [Link.run, List.foldlM_append]
  exact Run.bind_eq_ok.2 ⟨link₂, hrun, hrun'⟩

theorem Sends.one {link link' : Link} {data : List UInt8} {a : Answer} {sent : Int}
    (h : transTlsSend link data a = .ok (sent, link')) : Sends link link' := by
  refine ⟨[⟨data, a⟩], ?_⟩
  rw [Link.run, List.foldlM_cons]
  refine Run.bind_eq_ok.2 ⟨link', ?_, rfl⟩
  unfold Link.step
  exact Run.bind_eq_ok.2 ⟨_, h, rfl⟩

section

variable {self self' : TlsTrans}

theorem sendFirst_sends {block failed : Bool} {temp : List UInt8} {next : List (List UInt8)}
    {turn : Turn} (h : self.sendFirst block temp next turn = .ok (failed, self')) :
    Sends self.link self'.link := by
  unfold TlsTrans.sendFirst at h
  split at h
  · obtain ⟨⟨sent, link⟩, hsend, h⟩ := Run.bind_eq_ok.1 h
    have hone := Sends.one hsend
    dsimp only at h
    split at h
    · cases h
      exact hone
    · split at h
      · cases h
        exact hone
      · cases h
        exact hone
  · cases h
    exact .refl _

theorem transSendWaiting_sends {block : Bool} {turns : List Turn} {rv : Option Int}
    (h : transSendWaiting block turns self = .ok (rv, self')) : Sends self.link self'.link := by
  induction turns generalizing self with
  | nil =>
    unfold transSendWaiting at h
    cases hwait : self.waitS with
    | nil =>
      simp only [hwait] at h
      cases h
      exact .refl _
    | cons temp next =>
      simp only [hwait] at h
      cases h
      exact .refl _
  | cons turn turns ih =>
    unfold transSendWaiting at h
    cases hwait : self.waitS with
    | nil =>
      simp only [hwait] at h
      cases h
      exact .refl _
    | cons temp next =>
      simp only [hwait] at h
      obtain ⟨⟨failed, self₁⟩, hfirst, h⟩ := Run.bind_eq_ok.1 h
      have hone := sendFirst_sends hfirst
      dsimp only at h
      split at h
      · cases h
        exact hone
      · split at h
        · exact hone.trans (ih h)
        · cases h
          exact hone

theorem forceWriteLoop_sends {turns : List Turn} {data : List UInt8} {rv : Option Int}
    (h : forceWriteLoop turns data self = .ok (rv, self')) : Sends self.link self'.link := by
  induction turns generalizing self data with
  | nil =>
    cases data with
    | nil =>
      cases h
      exact .refl _
    | cons b data =>
      cases h
      exact .refl _
  | cons turn turns ih =>
    cases data with
    | nil =>
      cases h
      exact .refl _
    | cons b data =>
      unfold forceWriteLoop at h
      dsimp only at h
      obtain ⟨⟨sent, link⟩, hsend, h⟩ := Run.bind_eq_ok.1 h
      have hone := Sends.one hsend
      dsimp only at h
      split at h
      · split at h
        · split at h
          · cases h
            exact hone
          · exact hone.trans (ih h)
        · cases h
          exact hone
      · split at h
        · cases h
          exact hone
        · exact hone.trans (ih h)

/-- **`trans_force_write_s`** -/
theorem transForceWriteS_sends {outS : List UInt8} {waiting turns : List Turn} {rv : Option Int}
    (h : transForceWriteS self outS waiting turns = .ok (rv, self')) :
    Sends self.link self'.link := by
  unfold transForceWriteS at h
  split at h
  · cases h
    exact .refl _
  · obtain ⟨⟨rv₁, self₁⟩, hwait, h⟩ := Run.bind_eq_ok.1 h
    have hsends := transSendWaiting_sends hwait
    dsimp only at h
    split at h
    · cases h
      exact hsends
    · exact hsends.trans (forceWriteLoop_sends h)
    · cases h
      exact hsends

theorem enqueue_link (outData : List UInt8) : (self.enqueue outData).link = self.link := by
  unfold TlsTrans.enqueue
  split
  · rfl
  · rfl

/-- **`trans_write_copy_s`** -/
theorem transWriteCopyS_sends {outS : List UInt8} {waiting fresh : Turn} {rv : Int}
    (h : transWriteCopyS self outS waiting fresh = .ok (rv, self')) :
    Sends self.link self'.link := by
  unfold transWriteCopyS at h
  split at h
  · cases h
    exact .refl _
  · obtain ⟨⟨rv₁, self₁⟩, hwait, h⟩ := Run.bind_eq_ok.1 h
    have hsends := transSendWaiting_sends hwait
    dsimp only at h
    split at h
    · cases h
      exact hsends
    · split at h
      · obtain ⟨⟨sent, link⟩, hsend, h⟩ := Run.bind_eq_ok.1 h
        have hall := hsends.trans (Sends.one hsend)
        dsimp only at h
        split at h
        · cases h
          rw [enqueue_link]
          exact hall
        · split at h
          · cases h
            rw [enqueue_link]
            exact hall
          · cases h
            exact hall
      · cases h
        rw [enqueue_link]
        exact hsends

end

/-! ## One call -/

/-- A master session that has kept the promise so far. -/
structure Link.Good (l : Link) : Prop where
  tls : l.tls = true
  master : ∃ p, l.pMyTransInfo = some p ∧ p.sessionType = .MASTER
  mirrored : l.Mirrored

theorem Link.good_master : Link.master.Good :=
  ⟨rfl, ⟨_, rfl, rfl⟩, rfl, fun p hp pack hpack => by cases hp; cases hpack⟩

section

variable {l l' : Link} {c : Call}

theorem Link.step_unique (l : Link) (c : Call) (l₁ l₂ : Link) (h₁ : l.step c = .ok l₁)
    (h₂ : l.step c = .ok l₂) : l₁ = l₂ := Except.ok.inj (h₁.symm.trans h₂)

/-- What a call comes to. -/
def Link.StepOk (l : Link) (c : Call) : Prop :=
  Runs.StepIff (fun l c l' => l.step c = .ok l') Link.Mirrored Link.Good Link.StepFits
    l c

/-- The bytes that a call adds to both sides. -/
theorem Link.StepOk.of_step (h : l.Good) (hstep : l.step c = .ok l') {p : MyTransInfo}
    (hp : l'.pMyTransInfo = some p) (hmaster : p.sessionType = .MASTER)
    (htls : l'.tls = true) {sent : List UInt8}
    (hforwarded : l'.forwarded = l.forwarded ++ sent)
    (haccepted : l'.accepted = l.accepted ++ c.data.take (c.answer.ssl.takes c.data))
    (hfits : ∀ pack ∈ p.fifo, pack.length.toNat ≤ BUFFER_PACKET_SIZE)
    (hiff : sent = c.data.take (c.answer.ssl.takes c.data) ↔ l.StepFits c) :
    l.StepOk c := by
  have hmirrored : l'.Mirrored ↔ sent = c.data.take (c.answer.ssl.takes c.data) := by
    constructor
    · intro hm
      have := hm.forwarded
      rw [hforwarded, haccepted, h.mirrored.forwarded] at this
      exact List.append_cancel_left this
    · intro hsent
      refine ⟨by rw [hforwarded, haccepted, hsent, h.mirrored.forwarded], fun q hq => ?_⟩
      rw [hp] at hq
      cases hq
      exact hfits
  exact .of_next Link.step_unique hstep (hmirrored.trans hiff)
    fun hm => ⟨htls, ⟨p, hp, hmaster⟩, hm⟩

/-- A call, in a master session. -/
theorem Link.step_master (htls : l.tls = true) {p : MyTransInfo} (hp : l.pMyTransInfo = some p)
    (hmaster : p.sessionType = .MASTER) : l.step c = (do
      let l := { l with
        accepted := l.accepted ++ c.data.take (c.answer.ssl.takes c.data) }
      if p.sendToSlave then do
        let (sent, p) ← sendDataToSlaveSession p c.data c.answer
        let p := if sent < 0 then { p with sendToSlave := false } else p
        .ok { l with pMyTransInfo := some p }
      else .ok l) := by
  unfold Link.step transTlsSend
  rw [if_neg (by simp [htls])]
  simp only [sslTlsWrite_accepted, hp, hmaster, and_true]
  split
  · simp only [bind_assoc, Run.ok_bind]
  · rfl

/-- **A call of `trans_tls_send`** -/
theorem Link.step_ok (h : l.Good) (c : Call) : l.StepOk c := by
  obtain ⟨p, hp, hmaster⟩ := h.master
  have hstep := Link.step_master (c := c) h.tls hp hmaster
  have hforwards : l.Forwards ↔ p.sendToSlave = true := by
    unfold Link.Forwards
    simp [hp]
  have hold : l.forwarded = p.fifo.flatMap PacketInfo.payload := by rw [Link.forwarded, hp]
  have hnone : ([] : List UInt8) = c.data.take (c.answer.ssl.takes c.data) ↔
      c.answer.ssl.takes c.data = 0 := by
    have := c.answer.ssl.takes_le c.data
    rw [eq_comm, List.take_eq_nil_iff]
    constructor
    · rintro (h | h)
      · exact h
      · rw [h] at this ⊢
        exact Nat.le_zero.1 this
    · exact .inl
  have hall := c.answer.ssl.take_takes c.data
  have hfits := h.mirrored.fits p hp
  by_cases hon : p.sendToSlave = true
  · rw [if_pos hon, sendDataToSlaveSession] at hstep
    have hiff : l.StepFits c ↔ c.data.length ≤ BUFFER_PACKET_SIZE ∧
        if c.answer.fifoCanSend ∧ c.answer.fifoWrite then
          c.answer.ssl.takes c.data = c.data.length
        else c.answer.ssl.takes c.data = 0 :=
      ⟨fun hf => hf.on (hforwards.2 hon), fun hf => ⟨fun _ => hf, fun hoff =>
        absurd (hforwards.2 hon) hoff⟩⟩
    by_cases hlen : c.data.length ≤ BUFFER_PACKET_SIZE
    · rw [if_pos hlen] at hstep
      rw [and_iff_right hlen] at hiff
      by_cases htaken : c.answer.fifoCanSend = true ∧ c.answer.fifoWrite = true
      · rw [if_neg (by simp [htaken.1]), if_neg (by simp [htaken.2])] at hstep
        rw [if_pos htaken, ← hall] at hiff
        have hlen32 : (UInt32.ofNat c.data.length).toNat ≤ BUFFER_PACKET_SIZE :=
          (Nat.mod_le _ _).trans hlen
        refine .of_step h hstep rfl hmaster h.tls ?_ rfl ?_ hiff.symm
        · rw [hold]
          exact (List.flatMap_append ..).trans (congrArg _ ((List.flatMap_singleton ..).trans
            (payload_ofData c.answer.stack hlen)))
        · intro pack hpack
          rcases List.mem_append.1 hpack with hpack | hpack
          · exact hfits pack hpack
          · rw [List.mem_singleton.1 hpack]
            exact hlen32
      · rw [if_neg htaken, ← hnone] at hiff
        have hstep' : l.step c = .ok { l with
            accepted := l.accepted ++ c.data.take (c.answer.ssl.takes c.data)
            pMyTransInfo := some { p with sendToSlave := false } } := by
          rw [hstep]
          split
          · rfl
          · split
            · rfl
            · rename_i hsend hwrite
              exact absurd ⟨by simpa using hsend, by simpa using hwrite⟩ htaken
        refine .of_step h hstep' rfl hmaster h.tls ?_ rfl hfits hiff.symm
        rw [hold]
        exact (List.append_nil _).symm
    · rw [if_neg hlen] at hstep
      refine .of_stuck (fun l' hl' => ?_) fun hf => hlen (hiff.1 hf).1
      rw [hstep] at hl'
      cases hl'
  · rw [if_neg hon] at hstep
    have hiff : l.StepFits c ↔ c.answer.ssl.takes c.data = 0 :=
      ⟨fun hf => hf.off fun hf' => hon (hforwards.1 hf'), fun hf => ⟨fun hf' =>
        absurd (hforwards.1 hf') hon, fun _ => hf⟩⟩
    rw [← hnone] at hiff
    refine .of_step h hstep hp hmaster h.tls ?_ rfl hfits hiff.symm
    exact (List.append_nil _).symm

end

/-- **What a master forwards**: for every sequence of writes of a master session that has begun to
forward, at all times the bytes forwarded are the bytes the TLS layer has accepted, in records that
hold them, just if all calls meet the condition: while the session forwards, the data fit into a
record, and all of them are accepted if the record is taken, and none if it is not; and nothing is
accepted after that. -/
theorem tls_send_iff (calls : List Call) :
    (∀ before, before <+: calls → ∃ l, Link.master.run before = .ok l ∧ l.Mirrored) ↔
      Link.master.Fits calls := by
  have hruns := Runs.always_iff Link.step_unique (fun _ h => Link.Good.mirrored h)
    (fun l c h => Link.step_ok h c) Link.good_master calls
  rw [Link.Fits, ← hruns]
  simp only [Runs.Always, Runs.leads_except, Link.run]

/-- **A partial write**: of two bytes the TLS layer accepts one and then the other, and three are
forwarded. -/
theorem tls_send_partial :
    ∃ t l, transForceWriteS ⟨.UP, Link.master, []⟩ [0x61, 0x62] []
        (List.replicate 2 ⟨true, false, false, [], .none 0, true, true, fun _ => 0⟩) =
      .ok (some 0, t) ∧ l = t.link ∧ l.accepted = [0x61, 0x62] ∧
      l.forwarded = [0x61, 0x62, 0x62] ∧ ¬ l.Mirrored := by
  have hforwarded : [PacketInfo.ofData [0x61, 0x62] fun _ => 0,
      PacketInfo.ofData [0x62] fun _ => 0].flatMap PacketInfo.payload = [0x61, 0x62, 0x62] := by
    rw [List.flatMap_cons, List.flatMap_singleton, payload_ofData _ (by decide),
      payload_ofData _ (by decide)]
    rfl
  refine ⟨_, _, rfl, rfl, rfl, hforwarded, fun h => ?_⟩
  have h := hforwarded.symm.trans h.forwarded
  exact absurd h (by decide)

end Xrdp.Mirror
