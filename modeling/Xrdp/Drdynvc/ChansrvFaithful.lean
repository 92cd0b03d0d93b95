import Xrdp.Drdynvc.ChansrvMaps

/-!
# The translation of channel ids, over runs

* `Bridge.Linked` — the maps hold what the history says, in every state reached.
* `bridge_step_iff` — one event keeps the translation faithful just if it is a proper one.
* `channel_ids_iff` — so does every run.
-/

namespace Xrdp.Dvc

open Wire

/-! ## Faithful translation -/

/-- The maps are inverse to each other on the channels that are open, and go by their opens. -/
def Bridge.Inverse (b : Bridge) : Prop :=
  ∀ c, (b.mm.channel.drdynvcs c).status = .OPEN → ∃ (a : Int) (n : Nat),
    b.history.openedFor c = some (a, n) ∧ b.history.denotes a = some (c, n) ∧
      c < 256 ∧ b.mm.xr2crCidMap.cells c = a ∧
      0 ≤ a ∧ a < 256 ∧ b.mm.cs2xrCidMap.cells a.toNat = c

section

variable (callback : Call → Int) (fresh : Nat → UInt8)

/-- What is sent to the channel server is about the channel that its id denotes. -/
def Bridge.MessagesOk (b : Bridge) (about : Nat) (reply : Reply) : Prop :=
  (∃ ms, b.messages reply = .ok ms) ∧
  ∀ call ∈ reply.calls, ∀ m, forward b.mm call = .ok (some m) →
    ∃ c, call.chanId = some c ∧ b.history.denotes m.chansrvChanId = some (c, about)

/-- An event stays inside the maps, and sends the channel server what it should. -/
def Bridge.StepOk (b : Bridge) : BridgeEvent → Prop
  | .client cmd rest about =>
    ∀ reply, b.reply callback fresh cmd rest = .ok reply → b.MessagesOk about reply
  | e => ∃ b', b.step callback fresh e = .ok b'

/-- The translation is faithful all along a run. -/
def Faithful (b : Bridge) : List BridgeEvent → Prop
  | [] => b.Inverse
  | e :: es => b.Inverse ∧ b.StepOk callback fresh e ∧
    ∀ b', b.step callback fresh e = .ok b' → Faithful b' es

end

/-! ## Proper use -/

/-- The last open of a client's id is also the last one of the channel server's id. -/
def Bridge.Current (b : Bridge) (c n : Nat) : Prop :=
  ∃ a, b.history.openedFor c = some (a, n) ∧ b.history.denotes a = some (c, n)

/-- An open request results in an open. -/
def Bridge.Accepts (b : Bridge) (name : List UInt8) (flags : Int) (canSend : Bool) : Prop :=
  1 ≤ name.length ∧ name.length ≤ 1024 ∧ flags ≠ 0 ∧ (freeId b.mm.channel).isSome ∧
    canSend = true

/-- The PDUs of the client that are about the last open of either side. -/
def Bridge.ProperPdu (b : Bridge) (about : Nat) : ClientPdu → Prop
  | .openResponse id true => b.Current id about
  | .openResponse id false => b.history.openedFor id ≠ none → b.Current id about
  | .close id => b.history.openedFor id ≠ none → b.Current id about
  | .dataFirst id => b.history.openedFor id ≠ none → b.Current id about
  | .data id => b.history.openedFor id ≠ none → b.Current id about
  | .other => True

/-- What both sides have to keep to. -/
def Bridge.Proper (b : Bridge) : BridgeEvent → Prop
  | .channelOpen name flags chansrvChanId canSend =>
    b.Accepts name flags canSend →
      (0 ≤ chansrvChanId ∧ chansrvChanId < 256) ∧
      ∀ c n, b.history.denotes chansrvChanId = some (c, n) →
        b.history.openedFor c = some (chansrvChanId, n) →
          (b.mm.channel.drdynvcs c).status ≠ .OPEN
  | .channelClose chansrvChanId _ => 0 ≤ chansrvChanId ∧ chansrvChanId < 256
  | .dataFirst chansrvChanId .. => 0 ≤ chansrvChanId ∧ chansrvChanId < 256
  | .data chansrvChanId .. => 0 ≤ chansrvChanId ∧ chansrvChanId < 256
  | .client cmd rest about => b.ProperPdu about (clientPdu cmd rest)

/-- Both sides keep to the rules all along a run. -/
def ProperBridge (callback : Call → Int) (fresh : Nat → UInt8) (b : Bridge) :
    List BridgeEvent → Prop
  | [] => True
  | e :: es => b.Proper e ∧
    ∀ b', b.step callback fresh e = .ok b' → ProperBridge callback fresh b' es

/-! ## What the maps hold -/

/-- The maps hold what the history says. -/
structure Bridge.Linked (b : Bridge) : Prop where
  cs2xrSize : b.mm.cs2xrCidMap.size = 256
  xr2crSize : b.mm.xr2crCidMap.size = 256
  opened : ∀ c a n, b.history.openedFor c = some (a, n) →
    c < 256 ∧ b.mm.xr2crCidMap.cells c = a ∧ 0 ≤ a ∧ a < 256
  denoted : ∀ a c n, b.history.denotes a = some (c, n) →
    0 ≤ a ∧ a < 256 ∧ b.mm.cs2xrCidMap.cells a.toNat = c
  same : ∀ c a m n, b.history.openedFor c = some (a, m) → b.history.denotes a = some (c, n) → m = n
  procs : ∀ c, (b.mm.channel.drdynvcs c).procs =
    if (b.history.openedFor c).isSome then mmProcs else Drdynvc.zero.procs

theorem linked_start : Bridge.start.Linked where
  cs2xrSize := rfl
  xr2crSize := rfl
  opened := by
    intro c a n h
    cases h
  denoted := by
    intro a c n h
    cases h
  same := by
    intro c a m n h
    cases h
  procs := fun c => rfl

theorem mapGet_ok {map : Buf Int} {i : Int} (h0 : 0 ≤ i) (h : i < map.size) :
    mapGet map i = .ok (map.cells i.toNat) := by
  rw [mapGet, if_neg (by omega), Buf.read_ok (by omega)]

theorem mapGet_eq_ok {map : Buf Int} {i v : Int} (h : mapGet map i = .ok v) :
    0 ≤ i ∧ i < map.size := by
  unfold mapGet at h
  split at h
  · cases h
  · have := (Buf.read_eq_ok h).1
    omega

theorem mapSet_ok {map : Buf Int} {i : Int} (h0 : 0 ≤ i) (h : i < map.size) (v : Int) :
    mapSet map i v = .ok { map with cells := fun j => if j = i.toNat then v else map.cells j } := by
  rw [mapSet, if_neg (by omega), Buf.write_ok (by omega)]

theorem mapSet_eq_ok {map map' : Buf Int} {i v : Int} (h : mapSet map i v = .ok map') :
    0 ≤ i ∧ i < map.size := by
  unfold mapSet at h
  split at h
  · cases h
  · unfold Buf.write at h
    split at h
    · omega
    · cases h

theorem freeId_eq_some {self : Channel} {id : Nat} (h : freeId self = some id) :
    1 ≤ id ∧ id < 256 ∧ (self.drdynvcs id).status = .CLOSED := by
  have hmem := List.mem_of_find?_eq_some h
  have hp := List.find?_some h
  rw [List.mem_range'_1] at hmem
  exact ⟨hmem.1, by omega, by simpa using hp⟩


/-! ## Requests of the channel server -/

section

variable {callback : Call → Int} {fresh : Nat → UInt8} {b b' : Bridge}

/-- The channel layer and the maps after an open with a client's id. -/
def Mm.opened (self : Mm) (chanId : Nat) (chansrvChanId : Int) : Mm where
  channel := { self.channel with
    drdynvcs := fun i => if i = chanId then ⟨.OPEN_SENT, mmProcs⟩ else self.channel.drdynvcs i }
  cs2xrCidMap := { self.cs2xrCidMap with
    cells := fun j => if j = chansrvChanId.toNat then (chanId : Int)
      else self.cs2xrCidMap.cells j }
  xr2crCidMap := { self.xr2crCidMap with
    cells := fun j => if j = chanId then chansrvChanId else self.xr2crCidMap.cells j }

@[simp] theorem Channel.setStatus_procs (self : Channel) (id : Nat) (status : Status) (c : Nat) :
    ((self.setStatus id status).drdynvcs c).procs = (self.drdynvcs c).procs := by
  by_cases hc : c = id
  · simp [Channel.setStatus, hc]
  · simp [Channel.setStatus, hc]

/-- A request that is refused changes nothing. -/
theorem open_refused {name : List UInt8} {flags a : Int} {canSend : Bool}
    (h : ¬ b.Accepts name flags canSend) :
    b.step callback fresh (.channelOpen name flags a canSend) = .ok b := by
  have hnone : mmChannelOpen b.mm name flags a canSend = .ok none := by
    unfold mmChannelOpen
    split
    · rfl
    · split
      · rfl
      · rename_i hname hflags
        have hnot : ¬ ((freeId b.mm.channel).isSome ∧ canSend = true) := by
          intro hopen
          exact h ⟨by omega, by omega, hflags, hopen⟩
        unfold xrdpChannelDrdynvcOpen
        cases hid : freeId b.mm.channel with
        | none => rfl
        | some id =>
          cases canSend with
          | false => rfl
          | true => simp [hid] at hnot
  simp [Bridge.step, hnone]

/-- A request that is accepted writes both maps, one of them where the channel server says. -/
theorem open_accepted (hb : b.Linked) {name : List UInt8} {flags a : Int} {canSend : Bool}
    (h : b.Accepts name flags canSend) :
    ∃ id, 1 ≤ id ∧ id < 256 ∧ (b.mm.channel.drdynvcs id).status = .CLOSED ∧
      ((0 ≤ a ∧ a < 256) → b.step callback fresh (.channelOpen name flags a canSend) =
        .ok ⟨b.mm.opened id a, b.history.record a id⟩) ∧
      (¬ (0 ≤ a ∧ a < 256) →
        ∀ b', b.step callback fresh (.channelOpen name flags a canSend) ≠ .ok b') := by
  obtain ⟨hlow, hhigh, hflags, hfree, hsend⟩ := h
  obtain ⟨id, hid⟩ := Option.isSome_iff_exists.1 hfree
  obtain ⟨hone, h256, hclosed⟩ := freeId_eq_some hid
  have hopen : mmChannelOpen b.mm name flags a canSend = (do
      let cs2xrCidMap ← mapSet b.mm.cs2xrCidMap a id
      pure (some (id, { b.mm.opened id a with cs2xrCidMap }))) := by
    have hname : ¬ (name.length < 1 ∨ name.length > 1024) := by omega
    have hset := @mapSet_ok b.mm.xr2crCidMap id (by omega) (by rw [hb.xr2crSize]; omega) a
    rw [mmChannelOpen, if_neg hname, if_neg hflags, xrdpChannelDrdynvcOpen, hid, hsend]
    simp only [if_true, hset]
    rfl
  refine ⟨id, hone, h256, hclosed, ?_, ?_⟩
  · rintro ⟨h0, ha⟩
    rw [Bridge.step, hopen, mapSet_ok h0 (by rw [hb.cs2xrSize]; omega)]
    rfl
  · intro hout b' hstep
    rw [Bridge.step, hopen] at hstep
    cases hset : mapSet b.mm.cs2xrCidMap a id with
    | error e =>
      rw [hset] at hstep
      cases hstep
    | ok map =>
      have hrange := mapSet_eq_ok hset
      rw [hb.cs2xrSize] at hrange
      exact hout (by omega)

theorem Bridge.Linked.opened_linked (hb : b.Linked) {id : Nat} {a : Int} (h256 : id < 256)
    (h0 : 0 ≤ a) (ha : a < 256) :
    Bridge.Linked ⟨b.mm.opened id a, b.history.record a id⟩ where
  cs2xrSize := hb.cs2xrSize
  xr2crSize := hb.xr2crSize
  opened := by
    intro c a' n h
    by_cases hc : c = id
    · simp only [History.record, hc, if_true, Option.some.injEq, Prod.mk.injEq] at h
      simp [Mm.opened, hc, h256, ← h.1, h0, ha]
    · simp only [History.record, hc, if_false] at h
      simpa [Mm.opened, hc] using hb.opened c a' n h
  denoted := by
    intro a' c n h
    by_cases hc : a' = a
    · simp only [History.record, hc, if_true, Option.some.injEq, Prod.mk.injEq] at h
      simp [Mm.opened, hc, h.1, h0, ha]
    · simp only [History.record, hc, if_false] at h
      obtain ⟨h0', ha', hcell⟩ := hb.denoted a' c n h
      have hne : a'.toNat ≠ a.toNat := by omega
      simp [Mm.opened, hne, h0', ha', hcell]
  same := by
    intro c a' m n hm hn
    by_cases hc : c = id
    · simp only [History.record, hc, if_true, Option.some.injEq, Prod.mk.injEq] at hm
      simp only [History.record, ← hm.1, if_true, Option.some.injEq, Prod.mk.injEq] at hn
      omega
    · simp only [History.record, hc, if_false] at hm
      by_cases ha' : a' = a
      · simp only [History.record, ha', if_true, Option.some.injEq, Prod.mk.injEq] at hn
        exact absurd hn.1.symm hc
      · simp only [History.record, ha', if_false] at hn
        exact hb.same c a' m n hm hn
  procs := by
    intro c
    by_cases hc : c = id
    · simp [Mm.opened, History.record, hc]
    · simpa [Mm.opened, History.record, hc] using hb.procs c

/-- An open keeps the maps inverse to each other, unless it takes the id of an open channel. -/
theorem opened_inverse_iff (hinv : b.Inverse) {id : Nat} {a : Int}
    (hid : (b.mm.channel.drdynvcs id).status = .CLOSED) (h0 : 0 ≤ a) :
    Bridge.Inverse ⟨b.mm.opened id a, b.history.record a id⟩ ↔
      ∀ c n, b.history.denotes a = some (c, n) → b.history.openedFor c = some (a, n) →
        (b.mm.channel.drdynvcs c).status ≠ .OPEN := by
  have hother : ∀ {c}, (b.mm.channel.drdynvcs c).status = .OPEN → c ≠ id := by
    rintro c hc rfl
    rw [hid] at hc
    cases hc
  constructor
  · intro h c n hden hfor hopen
    have hc := hother hopen
    obtain ⟨a', n', hfor', hden', -⟩ := h c (by simpa [Mm.opened, hc] using hopen)
    simp only [History.record, hc, if_false, hfor, Option.some.injEq, Prod.mk.injEq] at hfor'
    simp only [History.record, ← hfor'.1, if_true, Option.some.injEq, Prod.mk.injEq] at hden'
    exact hc hden'.1.symm
  · intro h c hopen
    have hc : c ≠ id := by
      rintro rfl
      simp [Mm.opened] at hopen
    have hold : (b.mm.channel.drdynvcs c).status = .OPEN := by
      simpa [Mm.opened, hc] using hopen
    obtain ⟨a', n, hfor, hden, h256, hxr, h0', ha, hcs⟩ := hinv c hold
    have hne : a' ≠ a := by
      rintro rfl
      exact h c n hden hfor hold
    have hcell : a'.toNat ≠ a.toNat := by omega
    refine ⟨a', n, ?_, ?_, h256, ?_, h0', ha, ?_⟩
    · simpa [History.record, hc] using hfor
    · simpa [History.record, hne] using hden
    · simpa [Mm.opened, hc] using hxr
    · simpa [Mm.opened, hcell] using hcs

/-- **An open request** -/
theorem open_ok_iff (hb : b.Linked) (hinv : b.Inverse) {name : List UInt8} {flags a : Int}
    {canSend : Bool} :
    (b.StepOk callback fresh (.channelOpen name flags a canSend) ∧
        ∀ b', b.step callback fresh (.channelOpen name flags a canSend) = .ok b' → b'.Inverse) ↔
      b.Proper (.channelOpen name flags a canSend) := by
  unfold Bridge.StepOk Bridge.Proper
  dsimp only
  by_cases hacc : b.Accepts name flags canSend
  · obtain ⟨id, hone, h256, hclosed, hin, hout⟩ :=
      @open_accepted callback fresh b hb name flags a canSend hacc
    rw [forall_prop_of_true hacc]
    by_cases hrange : 0 ≤ a ∧ a < 256
    · simp only [hin hrange, Except.ok.injEq, exists_eq', true_and, forall_eq', hrange,
        opened_inverse_iff hinv hclosed hrange.1, and_self]
    · constructor
      · rintro ⟨⟨b', hb'⟩, -⟩
        exact absurd hb' (hout hrange b')
      · exact fun h => absurd h.1 hrange
  · rw [open_refused hacc]
    refine iff_of_true ⟨⟨b, rfl⟩, ?_⟩ fun h => absurd h hacc
    intro b' hb'
    cases hb'
    exact hinv

theorem open_linked (hb : b.Linked) {name : List UInt8} {flags a : Int} {canSend : Bool}
    (h : b.step callback fresh (.channelOpen name flags a canSend) = .ok b') : b'.Linked := by
  by_cases hacc : b.Accepts name flags canSend
  · obtain ⟨id, hone, h256, hclosed, hin, hout⟩ :=
      @open_accepted callback fresh b hb name flags a canSend hacc
    by_cases hrange : 0 ≤ a ∧ a < 256
    · rw [hin hrange] at h
      cases h
      exact hb.opened_linked h256 hrange.1 hrange.2
    · exact absurd h (hout hrange b')
  · rw [open_refused hacc] at h
    cases h
    exact hb

/-- A channel layer with the same callbacks. -/
theorem Bridge.Linked.withChannel (hb : b.Linked) {channel : Channel}
    (h : ∀ c, (channel.drdynvcs c).procs = (b.mm.channel.drdynvcs c).procs) :
    Bridge.Linked { b with mm := { b.mm with channel } } :=
  { hb with procs := fun c => (h c).trans (hb.procs c) }

/-- A channel layer in which no more channels are open. -/
theorem Bridge.Inverse.withChannel (hinv : b.Inverse) {channel : Channel}
    (h : ∀ c, (channel.drdynvcs c).status = .OPEN → (b.mm.channel.drdynvcs c).status = .OPEN) :
    Bridge.Inverse { b with mm := { b.mm with channel } } :=
  fun c hc => hinv c (h c hc)

/-- A close request leaves the callbacks, and opens nothing. -/
theorem close_channel {self channel : Channel} {chanId : Int} {canSend : Bool} {msg : List UInt8}
    (h : xrdpChannelDrdynvcClose self chanId canSend = some (msg, channel)) (c : Nat) :
    (channel.drdynvcs c).procs = (self.drdynvcs c).procs ∧
      ((channel.drdynvcs c).status = .OPEN → (self.drdynvcs c).status = .OPEN) := by
  unfold xrdpChannelDrdynvcClose at h
  split at h
  · cases h
  · rename_i id hid
    split at h
    · cases h
    · dsimp only at h
      split at h
      · cases h
        by_cases hc : c = id
        · simp [Channel.setStatus, hc]
        · simp [Channel.setStatus, hc]
      · cases h

theorem close_linked (hb : b.Linked) {a : Int} {canSend : Bool}
    (h : b.step callback fresh (.channelClose a canSend) = .ok b') :
    b'.Linked ∧ (b.Inverse → b'.Inverse) := by
  simp only [Bridge.step, mmChannelClose, Run.bind_eq_ok] at h
  obtain ⟨mm, ⟨chanId, -, hmm⟩, hb'⟩ := h
  cases hb'
  split at hmm
  · cases hmm
    exact ⟨hb, id⟩
  · rename_i msg channel hclose
    cases hmm
    exact ⟨hb.withChannel fun c => (close_channel hclose c).1,
      fun hinv => hinv.withChannel fun c => (close_channel hclose c).2⟩

/-- The map of the channel server's ids is read. -/
theorem lookup_iff (hb : b.Linked) {a : Int} {α : Type} {f : Int → Run α}
    (hf : ∀ v, ∃ r, f v = .ok r) :
    (∃ r, (mapGet b.mm.cs2xrCidMap a >>= f) = .ok r) ↔ 0 ≤ a ∧ a < 256 := by
  constructor
  · rintro ⟨r, hr⟩
    obtain ⟨v, hv, -⟩ := Run.bind_eq_ok.1 hr
    have hrange := mapGet_eq_ok hv
    rw [hb.cs2xrSize] at hrange
    omega
  · rintro ⟨h0, ha⟩
    rw [mapGet_ok h0 (by rw [hb.cs2xrSize]; omega)]
    exact hf _

/-! ## PDUs of the client -/

theorem bridge_reply_eq (cmd : UInt8) (rest : List UInt8) :
    b.reply callback fresh cmd rest = processCmd callback b.mm.channel cmd.toNat rest :=
  process_single callback fresh b.mm.channel (whole_flags _) rfl

/-- A message about an open goes to the channel server's id of that open. -/
theorem forward_of_chanId (hb : b.Linked) {call : Call} {id n : Nat} {a : Int}
    (hcall : call.chanId = some id) (hfor : b.history.openedFor id = some (a, n)) :
    ∃ m, forward b.mm call = .ok (some m) ∧ m.chansrvChanId = a := by
  obtain ⟨h256, hcell, -⟩ := hb.opened id a n hfor
  have hget : mapGet b.mm.xr2crCidMap id = .ok a := by
    rw [mapGet_ok (by omega) (by rw [hb.xr2crSize]; omega)]
    simp [hcell]
  cases call with
  | up => cases hcall
  | openResponse chanId creationStatus =>
    cases hcall
    exact ⟨_, by rw [forward, hget]; rfl, rfl⟩
  | closeResponse chanId =>
    cases hcall
    exact ⟨_, by rw [forward, hget]; rfl, rfl⟩
  | dataFirst chanId data totalBytes =>
    cases hcall
    exact ⟨_, by rw [forward, hget]; rfl, rfl⟩
  | data chanId data =>
    cases hcall
    exact ⟨_, by rw [forward, hget]; rfl, rfl⟩

/-- What a PDU about a channel results in is right just if it is about the last open of either
side, or nothing. -/
theorem messages_ok_iff (hb : b.Linked) {id : Nat} {isData set : Bool} {reply : Reply}
    (hset : set = (b.history.openedFor id).isSome) (hcalls : Calls id isData set reply)
    (about : Nat) :
    b.MessagesOk about reply ↔ (b.history.openedFor id ≠ none → b.Current id about) := by
  obtain ⟨call, hcall, -, hc⟩ := hcalls
  unfold Bridge.MessagesOk Bridge.messages
  rw [hc]
  cases hfor : b.history.openedFor id with
  | none =>
    rw [hfor] at hset
    simp [hset]
  | some r =>
    obtain ⟨a, n⟩ := r
    obtain ⟨m, hm, ha⟩ := forward_of_chanId hb hcall hfor
    have hms : ∃ ms, [call].mapM (forward b.mm) = .ok ms := ⟨[some m], by simp [hm]⟩
    rw [hfor] at hset
    simp only [hset, Option.isSome_some, if_true, and_iff_right hms, List.mem_singleton,
      forall_eq, hm, Except.ok.injEq, Option.some.injEq, forall_eq', hcall, exists_eq_left', ha,
      ne_eq, reduceCtorEq, not_false_eq_true, forall_true_left]
    constructor
    · intro hden
      have hn := hb.same id a n about hfor hden
      exact ⟨a, by rw [hfor, hn], hden⟩
    · rintro ⟨a', hfor', hden⟩
      rw [hfor, Option.some.injEq, Prod.mk.injEq] at hfor'
      rw [hfor'.1]
      exact hden

theorem forward_of_noChanId {mm : Mm} {call : Call} (h : call.chanId = none) :
    forward mm call = .ok none := by
  cases call with
  | up => rfl
  | _ => cases h

/-- Calls about no channel result in no message. -/
theorem quiet_messages_ok {reply : Reply} (about : Nat)
    (h : ∀ call ∈ reply.calls, call.chanId = none) : b.MessagesOk about reply := by
  have hms : ∀ calls : List Call, (∀ call ∈ calls, call.chanId = none) →
      ∃ ms, calls.mapM (forward b.mm) = .ok ms := by
    intro calls hcalls
    induction calls with
    | nil => exact ⟨[], rfl⟩
    | cons call calls ih =>
      obtain ⟨ms, hms⟩ := ih fun c hc => hcalls c (List.mem_cons_of_mem _ hc)
      refine ⟨none :: ms, ?_⟩
      rw [List.mapM_cons, forward_of_noChanId (hcalls call List.mem_cons_self), hms]
      rfl
  refine ⟨hms reply.calls h, fun call hmem m hm => ?_⟩
  rw [forward_of_noChanId (h call hmem)] at hm
  cases hm

theorem Bridge.Current.inverse_at (hb : b.Linked) {id n : Nat} (h : b.Current id n) :
    ∃ (a : Int) (n : Nat), b.history.openedFor id = some (a, n) ∧
      b.history.denotes a = some (id, n) ∧ id < 256 ∧ b.mm.xr2crCidMap.cells id = a ∧
      0 ≤ a ∧ a < 256 ∧ b.mm.cs2xrCidMap.cells a.toNat = id := by
  obtain ⟨a, hfor, hden⟩ := h
  obtain ⟨h256, hxr, h0, ha⟩ := hb.opened id a n hfor
  exact ⟨a, n, hfor, hden, h256, hxr, h0, ha, (hb.denoted a id n hden).2.2⟩

/-- A PDU leaves the callbacks. -/
theorem done_procs {self : Channel} {pdu : ClientPdu} {reply : Reply} (h : pdu.Done self reply)
    (c : Nat) : (reply.self.drdynvcs c).procs = (self.drdynvcs c).procs := by
  cases pdu with
  | openResponse id success => rw [h.1, Channel.setStatus_procs]
  | close id => rw [h.1, Channel.setStatus_procs]
  | dataFirst id => rw [h.1]
  | data id => rw [h.1]
  | other => rw [h.1]

/-- A PDU that opens no channel keeps the maps inverse to each other. -/
theorem done_inverse (hinv : b.Inverse) {pdu : ClientPdu} {reply : Reply}
    (h : pdu.Done b.mm.channel reply) (hpdu : ∀ id, pdu ≠ .openResponse id true) :
    Bridge.Inverse { b with mm := { b.mm with channel := reply.self } } := by
  have hclose : ∀ {id : Nat}, reply.self.drdynvcs = (b.mm.channel.setStatus id .CLOSED).drdynvcs →
      Bridge.Inverse { b with mm := { b.mm with channel := reply.self } } := by
    intro id heq
    refine hinv.withChannel fun c hc => ?_
    by_cases hid : c = id
    · simp [heq, Channel.setStatus, hid] at hc
    · simpa [heq, Channel.setStatus, hid] using hc
  cases pdu with
  | openResponse id success =>
    cases success with
    | true => exact absurd rfl (hpdu id)
    | false => exact hclose h.1
  | close id => exact hclose h.1
  | dataFirst id => exact hinv.withChannel fun c hc => h.1 ▸ hc
  | data id => exact hinv.withChannel fun c hc => h.1 ▸ hc
  | other => exact hinv.withChannel fun c hc => h.1 ▸ hc

/-- After a create response with success the maps are inverse to each other if it is about the
last open of either side, and only if the channel has been opened at all. -/
theorem open_response_inverse (hb : b.Linked) (hinv : b.Inverse) {id : Nat} {reply : Reply}
    (h : (ClientPdu.openResponse id true).Done b.mm.channel reply) :
    (∀ n, b.Current id n → Bridge.Inverse { b with mm := { b.mm with channel := reply.self } }) ∧
      (Bridge.Inverse { b with mm := { b.mm with channel := reply.self } } →
        b.history.openedFor id ≠ none) := by
  constructor
  · intro n hcur c hc
    by_cases hid : c = id
    · rw [hid]
      exact hcur.inverse_at hb
    · exact hinv c (by simpa [h.1, Channel.setStatus, hid] using hc)
  · intro h' hnone
    obtain ⟨a, n, hfor, -⟩ := h' id (by simp [h.1, Channel.setStatus])
    simp [hnone] at hfor

/-- **A PDU of the client** that has been replied to. -/
theorem pdu_ok_iff (hb : b.Linked) (hinv : b.Inverse) {pdu : ClientPdu} {reply : Reply}
    (about : Nat) (h : pdu.Done b.mm.channel reply) :
    (b.MessagesOk about reply ∧
        ((∃ ms, b.messages reply = .ok ms) →
          Bridge.Inverse { b with mm := { b.mm with channel := reply.self } })) ↔
      b.ProperPdu about pdu := by
  have hset : ∀ {id : Nat} {f : Procs → Bool}, f mmProcs = true → f Drdynvc.zero.procs = false →
      f (b.mm.channel.drdynvcs id).procs = (b.history.openedFor id).isSome := by
    intro id f htrue hfalse
    rw [hb.procs]
    split
    · rename_i hsome
      rw [htrue, hsome]
    · rename_i hnone
      rw [hfalse]
      simpa using hnone
  cases pdu with
  | other =>
    have hinv' := done_inverse hinv h (by intro id; exact nofun)
    exact iff_of_true ⟨quiet_messages_ok about h.2, fun _ => hinv'⟩ trivial
  | dataFirst id =>
    have hinv' := done_inverse hinv h (by intro i; exact nofun)
    rw [messages_ok_iff hb (hset (f := Procs.dataFirst) rfl rfl) h.2, and_iff_left fun _ => hinv']
    rfl
  | data id =>
    have hinv' := done_inverse hinv h (by intro i; exact nofun)
    rw [messages_ok_iff hb (hset (f := Procs.data) rfl rfl) h.2, and_iff_left fun _ => hinv']
    rfl
  | close id =>
    have hinv' := done_inverse hinv h (by intro i; exact nofun)
    rw [messages_ok_iff hb (hset (f := Procs.closeResponse) rfl rfl) h.2,
      and_iff_left fun _ => hinv']
    rfl
  | openResponse id success =>
    have hmsg := messages_ok_iff hb (hset (f := Procs.openResponse) rfl rfl) h.2 about
    cases success with
    | false =>
      have hinv' := done_inverse hinv h (by intro i; exact nofun)
      rw [hmsg, and_iff_left fun _ => hinv']
      rfl
    | true =>
      obtain ⟨hto, hfrom⟩ := open_response_inverse hb hinv h
      constructor
      · rintro ⟨hok, himp⟩
        exact hmsg.1 hok (hfrom (himp hok.1))
      · intro hcur
        exact ⟨hmsg.2 fun _ => hcur, fun _ => hto about hcur⟩

/-! ## Runs -/

theorem client_step_eq_ok {cmd : UInt8} {rest : List UInt8} {about : Nat} :
    b.step callback fresh (.client cmd rest about) = .ok b' ↔
      ∃ reply, b.reply callback fresh cmd rest = .ok reply ∧ (∃ ms, b.messages reply = .ok ms) ∧
        b' = { b with mm := { b.mm with channel := reply.self } } := by
  simp only [Bridge.step, Run.bind_eq_ok]
  constructor
  · rintro ⟨reply, hreply, ms, hms, h⟩
    cases h
    exact ⟨reply, hreply, ⟨ms, hms⟩, rfl⟩
  · rintro ⟨reply, hreply, ⟨ms, hms⟩, rfl⟩
    exact ⟨reply, hreply, ms, hms, rfl⟩

theorem client_ok_iff (hb : b.Linked) (hinv : b.Inverse) {cmd : UInt8} {rest : List UInt8}
    {about : Nat} :
    (b.StepOk callback fresh (.client cmd rest about) ∧
        ∀ b', b.step callback fresh (.client cmd rest about) = .ok b' → b'.Inverse) ↔
      b.Proper (.client cmd rest about) := by
  simp only [client_step_eq_ok]
  unfold Bridge.StepOk Bridge.Proper
  dsimp only
  rw [bridge_reply_eq]
  cases hr : processCmd callback b.mm.channel cmd.toNat rest with
  | error e =>
    rw [clientPdu_of_error hr]
    simp [Bridge.ProperPdu]
  | ok reply =>
    rw [← pdu_ok_iff hb hinv about (processCmd_done hr)]
    simp only [Except.ok.injEq, forall_eq', exists_eq_left']
    constructor
    · exact fun ⟨hok, hstep⟩ => ⟨hok, fun hms => hstep _ ⟨hms, rfl⟩⟩
    · rintro ⟨hok, hstep⟩
      refine ⟨hok, ?_⟩
      rintro b' ⟨hms, rfl⟩
      exact hstep hms

/-- **One event** keeps the translation faithful just if it is a proper one. -/
theorem bridge_step_iff (hb : b.Linked) (hinv : b.Inverse) (e : BridgeEvent) :
    (b.StepOk callback fresh e ∧ ∀ b', b.step callback fresh e = .ok b' → b'.Inverse) ↔
      b.Proper e := by
  cases e with
  | channelOpen name flags a canSend => exact open_ok_iff hb hinv
  | client cmd rest about => exact client_ok_iff hb hinv
  | channelClose a canSend =>
    have hread : (∃ b', b.step callback fresh (.channelClose a canSend) = .ok b') ↔
        0 ≤ a ∧ a < 256 := by
      rw [Bridge.step, mmChannelClose, bind_assoc]
      refine lookup_iff hb fun v => ?_
      split
      · exact ⟨_, rfl⟩
      · exact ⟨_, rfl⟩
    exact (and_iff_left fun b' h => (close_linked hb h).2 hinv).trans hread
  | dataFirst a data totalBytes canSend =>
    have hread : (∃ b', b.step callback fresh (.dataFirst a data totalBytes canSend) = .ok b') ↔
        0 ≤ a ∧ a < 256 := by
      rw [Bridge.step, mmDataFirst, bind_assoc]
      exact lookup_iff hb fun v => ⟨_, rfl⟩
    refine (and_iff_left fun b' h => ?_).trans hread
    simp only [Bridge.step, Run.bind_eq_ok] at h
    obtain ⟨-, -, h⟩ := h
    cases h
    exact hinv
  | data a data canSend =>
    have hread : (∃ b', b.step callback fresh (.data a data canSend) = .ok b') ↔
        0 ≤ a ∧ a < 256 := by
      rw [Bridge.step, mmData, bind_assoc]
      exact lookup_iff hb fun v => ⟨_, rfl⟩
    refine (and_iff_left fun b' h => ?_).trans hread
    simp only [Bridge.step, Run.bind_eq_ok] at h
    obtain ⟨-, -, h⟩ := h
    cases h
    exact hinv

/-- **Every event** keeps the maps linked to the history. -/
theorem bridge_linked (hb : b.Linked) {e : BridgeEvent} (h : b.step callback fresh e = .ok b') :
    b'.Linked := by
  cases e with
  | channelOpen name flags a canSend => exact open_linked hb h
  | channelClose a canSend => exact (close_linked hb h).1
  | dataFirst a data totalBytes canSend =>
    simp only [Bridge.step, Run.bind_eq_ok] at h
    obtain ⟨-, -, h⟩ := h
    cases h
    exact hb
  | data a data canSend =>
    simp only [Bridge.step, Run.bind_eq_ok] at h
    obtain ⟨-, -, h⟩ := h
    cases h
    exact hb
  | client cmd rest about =>
    obtain ⟨reply, hreply, -, rfl⟩ := client_step_eq_ok.1 h
    rw [bridge_reply_eq] at hreply
    exact hb.withChannel (done_procs (processCmd_done hreply))

theorem inverse_start : Bridge.start.Inverse := by
  intro c h
  cases h

theorem faithful_iff (hb : b.Linked) (hinv : b.Inverse) (es : List BridgeEvent) :
    Faithful callback fresh b es ↔ ProperBridge callback fresh b es := by
  induction es generalizing b with
  | nil => exact iff_of_true hinv trivial
  | cons e es ih =>
    have hnow : ∀ {b' : Bridge}, Faithful callback fresh b' es → b'.Inverse := by
      intro b' h
      cases es with
      | nil => exact h
      | cons e es => exact h.1
    have hstep := @bridge_step_iff callback fresh b hb hinv e
    constructor
    · rintro ⟨-, hok, hrest⟩
      refine ⟨hstep.1 ⟨hok, fun b' h => hnow (hrest b' h)⟩, fun b' h => ?_⟩
      exact (ih (bridge_linked hb h) (hnow (hrest b' h))).1 (hrest b' h)
    · rintro ⟨hproper, hrest⟩
      obtain ⟨hok, hnext⟩ := hstep.2 hproper
      exact ⟨hinv, hok, fun b' h => (ih (bridge_linked hb h) (hnext b' h)).2 (hrest b' h)⟩

end

/-- **The translation of channel ids**: in a run from the start of a connection, the maps are
inverse to each other on the open channels, what is sent to the channel server is about the channel
its id denotes, and every index is inside the maps, just if both sides keep to the rules all along
the run. -/
theorem channel_ids_iff (callback : Call → Int) (fresh : Nat → UInt8) (es : List BridgeEvent) :
    Faithful callback fresh .start es ↔ ProperBridge callback fresh .start es :=
  faithful_iff linked_start inverse_start es

/-- The channel server opens its channel 5, closes it, and opens 5 again before the client's
answer to the close, which gives it another channel of the client's; then the client answers the
close, which is about the first open. -/
def reopened : List BridgeEvent :=
  [.channelOpen [0x61] 1 5 true, .client 0x10 [1, 0, 0, 0, 0] 0, .channelClose 5 true,
    .channelOpen [0x61] 1 5 true, .client 0x40 [1] 0]

/-- **The answer is passed on for the wrong channel**: the channel server is told that its channel
5 is closed, which denotes the client's channel 2 and is being opened. -/
theorem channel_ids_crossed :
    (∃ b₁ b₂ b₃ b₄ reply,
      Bridge.start.step (fun _ => 0) (fun _ => 0) (.channelOpen [0x61] 1 5 true) = .ok b₁ ∧
      b₁.step (fun _ => 0) (fun _ => 0) (.client 0x10 [1, 0, 0, 0, 0] 0) = .ok b₂ ∧
      b₂.step (fun _ => 0) (fun _ => 0) (.channelClose 5 true) = .ok b₃ ∧
      b₃.step (fun _ => 0) (fun _ => 0) (.channelOpen [0x61] 1 5 true) = .ok b₄ ∧
      b₄.history.denotes 5 = some (2, 1) ∧
      b₄.reply (fun _ => 0) (fun _ => 0) 0x40 [1] = .ok reply ∧
      b₄.messages reply = .ok [some ⟨15, 5, []⟩]) ∧
    ¬ Faithful (fun _ => 0) (fun _ => 0) .start reopened := by
  refine ⟨⟨_, _, _, _, _, rfl, rfl, rfl, rfl, rfl, rfl, rfl⟩, ?_⟩
  intro h
  obtain ⟨-, -, h⟩ := h
  obtain ⟨-, -, h⟩ := h _ rfl
  obtain ⟨-, -, h⟩ := h _ rfl
  obtain ⟨-, -, h⟩ := h _ rfl
  obtain ⟨-, hok, -⟩ := h _ rfl
  obtain ⟨c, hc, hden⟩ := (hok _ rfl).2 (.closeResponse 1) (by decide) ⟨15, 5, []⟩ rfl
  cases hden

end Xrdp.Dvc
