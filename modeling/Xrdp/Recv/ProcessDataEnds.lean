import Xrdp.Recv.ProcessData

/-!
# When the loop over a client's packet ends

* `Forward`, `Reads` — what the layers do to the stream: they read on, and never back.
* `Closed` — properties of readers that the layers have if the readers have it that they are made of.
* `Session.Stalls` — the rounds that consume nothing: a length of 0 in a header.
* `iteration_spec` — what a round does to the position in the packet.
* `process_data_ends` — without such rounds the loop ends; with one it may not.
-/

namespace Xrdp.Recv

/-! ## Reading on -/

/-- What reading does. -/
structure Reads (s s' : Session) : Prop where
  wire : s'.wire = s.wire
  nextPacket : s'.nextPacket = s.nextPacket
  deadLockCounter : s'.deadLockCounter = s.deadLockCounter
  end_ : s'.end_ = s.end_
  p : s.p ≤ s'.p

/-- What reading and decrypting do: padding is taken off the end. -/
structure Forward (s s' : Session) : Prop where
  wire : s'.wire = s.wire
  nextPacket : s'.nextPacket = s.nextPacket
  deadLockCounter : s'.deadLockCounter = s.deadLockCounter
  end_ : s'.end_ ≤ s.end_
  p : s.p ≤ s'.p

/-- A reader changes the session as `R` says. -/
def Moves {α : Type} (R : Session → Session → Prop) (m : In α) : Prop :=
  ∀ s a s', m s = some (a, s') → R s s'

theorem In.bind_eq_some {α β : Type} {m : In α} {f : α → In β} {s s'' : Session} {b : β} :
    (m >>= f) s = some (b, s'') ↔ ∃ a s', m s = some (a, s') ∧ f a s' = some (b, s'') := by
  change (m s).bind (fun r => f r.1 r.2) = _ ↔ _
  rw [Option.bind_eq_some_iff]
  constructor
  · rintro ⟨⟨a, s'⟩, h, h'⟩
    exact ⟨a, s', h, h'⟩
  · rintro ⟨a, s', h, h'⟩
    exact ⟨(a, s'), h, h'⟩

theorem Reads.refl (s : Session) : Reads s s := ⟨rfl, rfl, rfl, rfl, le_rfl⟩

theorem Reads.trans {s s' s'' : Session} (h : Reads s s') (h' : Reads s' s'') : Reads s s'' :=
  ⟨h'.wire.trans h.wire, h'.nextPacket.trans h.nextPacket,
    h'.deadLockCounter.trans h.deadLockCounter, h'.end_.trans h.end_, h.p.trans h'.p⟩

theorem Reads.forward {s s' : Session} (h : Reads s s') : Forward s s' :=
  ⟨h.wire, h.nextPacket, h.deadLockCounter, h.end_.le, h.p⟩

theorem Forward.trans {s s' s'' : Session} (h : Forward s s') (h' : Forward s' s'') :
    Forward s s'' :=
  ⟨h'.wire.trans h.wire, h'.nextPacket.trans h.nextPacket,
    h'.deadLockCounter.trans h.deadLockCounter, h'.end_.trans h.end_, h.p.trans h'.p⟩

theorem Moves.forward {α : Type} {m : In α} (h : Moves Reads m) : Moves Forward m :=
  fun s a s' hm => (h s a s' hm).forward

theorem Moves.fail {α : Type} {R : Session → Session → Prop} : Moves R (fail : In α) := by
  intro s a s' h
  cases h

section

variable {α β : Type}

theorem Moves.pure {a : α} : Moves Reads (pure a : In α) := by
  intro s b s' h
  cases h
  exact .refl s

theorem Moves.seq {m : In α} {f : α → In β} (h : Moves Reads m) (hf : ∀ a, Moves Reads (f a)) :
    Moves Reads (m >>= f) := by
  intro s b s'' hm
  obtain ⟨a, s', ha, hb⟩ := In.bind_eq_some.1 hm
  exact (h _ _ _ ha).trans (hf _ _ _ _ hb)

theorem Moves.seqForward {m : In α} {f : α → In β} (h : Moves Forward m)
    (hf : ∀ a, Moves Forward (f a)) : Moves Forward (m >>= f) := by
  intro s b s'' hm
  obtain ⟨a, s', ha, hb⟩ := In.bind_eq_some.1 hm
  exact (h _ _ _ ha).trans (hf _ _ _ _ hb)

end

theorem checkRem_eq_some {n : Nat} {s s' : Session} {a : Unit}
    (h : checkRem n s = some (a, s')) : (s.p + n : Int) ≤ s.end_ ∧ s' = s := by
  unfold checkRem at h
  split at h
  · cases h
    exact ⟨‹_›, rfl⟩
  · cases h

theorem Moves.checkRem {n : Nat} : Moves Reads (checkRem n) := by
  intro s a s' h
  rw [(checkRem_eq_some h).2]
  exact .refl s

/-- A reader that only moves `p`. -/
theorem Moves.read {α : Type} (v : Session → α) (n : Nat) :
    Moves Reads (fun s => some (v s, { s with p := s.p + n }) : In α) := by
  intro s a s' h
  cases h
  exact ⟨rfl, rfl, rfl, rfl, Nat.le_add_right _ _⟩

theorem Moves.get : Moves Reads (get : In Session) := by
  intro s a s' h
  cases h
  exact .refl s

theorem Moves.decryptRest {decrypt : List UInt8 → List UInt8} :
    Moves Reads (decryptRest decrypt) := by
  intro s a s' h
  cases h
  exact ⟨rfl, rfl, rfl, rfl, le_rfl⟩

theorem Moves.dropPad {pad : Nat} : Moves Forward (dropPad pad) := by
  intro s a s' h
  cases h
  exact ⟨rfl, rfl, rfl, by simp only; omega, le_rfl⟩

/-! ## The layers -/

/-- A change of the session that is no reading. -/
structure Quiet (f : Session → Session) : Prop where
  reads : ∀ s, Reads s (f s)
  wire : ∀ s w, f { s with wire := w } = { f s with wire := w }

/-- A property that readers have if those have it that they are put together of. -/
structure Closed (P : (α : Type) → In α → Prop) : Prop where
  pure : ∀ {α : Type} {a : α}, P α (pure a)
  fail : ∀ {α : Type}, P α fail
  seq : ∀ {α β : Type} {m : In α} {f : α → In β}, P α m → (∀ a, P β (f a)) → P β (m >>= f)
  modify : ∀ {f : Session → Session}, Quiet f → P Unit (modify f)
  checkRem : ∀ {n : Nat}, P Unit (checkRem n)
  inUint8s : ∀ {n : Nat}, P Unit (inUint8s n)
  inUint8 : P Nat inUint8
  inUint16Le : P Nat inUint16Le
  inUint16Be : P Nat inUint16Be
  inUint32Le : P Nat inUint32Le
  decryptRest : ∀ {decrypt : List UInt8 → List UInt8}, P Unit (decryptRest decrypt)

namespace Closed

variable {P : (α : Type) → In α → Prop} (h : Closed P)
include h

theorem xrdpIsoRecv : P _ xrdpIsoRecv := by
  have hmsg : P _ xrdpIsoRecvMsg := by
    refine h.seq h.inUint8 fun ver => ?_
    split
    · exact h.fail
    refine h.seq h.inUint8s fun _ => h.seq h.inUint16Be fun plen => ?_
    split
    · exact h.fail
    refine h.seq h.checkRem fun _ => h.seq h.inUint8 fun len => h.seq h.inUint8 fun code => ?_
    split
    · exact h.seq h.checkRem fun _ => h.seq h.inUint8s fun _ => h.pure
    · exact h.seq h.checkRem fun _ => h.seq h.inUint8s fun _ => h.pure
  refine h.seq hmsg fun r => ?_
  dsimp only
  split
  · exact h.fail
  · exact h.pure

theorem xrdpMcsRecvSdrq : P _ xrdpMcsRecvSdrq := by
  refine h.seq h.checkRem fun _ => h.seq h.inUint8s fun _ => h.seq h.inUint16Be fun chan =>
    h.seq h.inUint8s fun _ => h.seq h.inUint8 fun len => ?_
  split
  · exact h.seq h.checkRem fun _ => h.seq h.inUint8s fun _ => h.pure
  · exact h.pure

/-- Decrypting takes padding off the end. -/
theorem secDecrypt (hpad : ∀ pad, P Unit (dropPad pad)) (env : Env) (flags : Nat) :
    P _ (secDecrypt env flags) := by
  unfold Recv.secDecrypt
  split
  · exact h.pure
  split
  · refine h.seq h.checkRem fun _ => h.seq h.inUint16Le fun len => h.seq h.inUint8 fun ver => ?_
    split
    · exact h.fail
    · exact h.seq h.inUint8 fun pad => h.seq h.inUint8s fun _ => h.seq h.decryptRest fun _ => hpad pad
  · exact h.pure
  · exact h.seq h.checkRem fun _ => h.seq h.inUint8s fun _ => h.decryptRest

theorem fastpathDecrypt (hpad : ∀ pad, P Unit (dropPad pad)) (env : Env) (secFlags : Nat) :
    P _ (fastpathDecrypt env secFlags) := by
  unfold Recv.fastpathDecrypt
  split
  · exact h.pure
  split
  · refine h.seq h.checkRem fun _ => h.seq h.inUint16Le fun len => h.seq h.inUint8s fun _ => ?_
    split
    · exact h.fail
    · exact h.seq h.inUint8 fun pad => h.seq h.inUint8s fun _ => h.seq h.decryptRest fun _ => hpad pad
  · exact h.seq h.checkRem fun _ => h.seq h.inUint8s fun _ => h.decryptRest

theorem xrdpSecRecvFlags (env : Env) (chan flags : Nat) : P _ (xrdpSecRecvFlags env chan flags) := by
  unfold Recv.xrdpSecRecvFlags
  split
  · refine h.seq h.checkRem fun _ => h.seq h.inUint32Le fun len => ?_
    split
    · exact h.fail
    · exact h.seq h.checkRem fun _ => h.seq h.inUint8s fun _ => h.pure
  split
  · split
    · exact h.fail
    · refine h.seq h.inUint8s fun _ => ?_
      split
      · exact h.pure
      · exact h.fail
  split
  · split
    · refine h.seq (h.modify ⟨fun s => ?_, fun s w => ?_⟩) fun _ => h.pure
      · split
        · exact ⟨rfl, rfl, rfl, rfl, le_rfl⟩
        · exact .refl s
      · split <;> rfl
    · exact h.fail
  · exact h.pure

theorem fastpathInputEvent (n : Nat) : P _ (xrdpFastpathProcessInputEvent n) := by
  induction n with
  | zero => exact h.pure
  | succ n ih =>
    refine h.seq h.checkRem fun _ => h.seq h.inUint8 fun header => h.seq ?_ fun _ => ih
    unfold xrdpFastpathProcessEvent
    split
    · exact h.seq h.checkRem fun _ => h.inUint8s
    · split
      · exact h.fail
      · exact h.seq h.checkRem fun _ => h.inUint8s
    · split
      · exact h.fail
      · exact h.seq h.checkRem fun _ => h.inUint8s
    · exact h.seq h.checkRem fun _ => h.inUint8s
    · exact h.pure

theorem xrdpRdpProcessData (env : Env) : P _ (xrdpRdpProcessData env) := by
  refine h.seq h.checkRem fun _ => h.seq h.inUint8s fun _ => h.seq h.inUint16Le fun _ =>
    h.seq h.inUint8 fun _ => h.seq h.inUint8 fun _ => h.seq h.inUint16Le fun _ => ?_
  split
  · exact h.fail
  split
  · exact h.fail
  split
  · refine h.seq h.inUint8s fun _ => h.seq h.inUint16Le fun _ => h.modify ⟨fun s => ?_, fun s w => ?_⟩
    · split
      · exact ⟨rfl, rfl, rfl, rfl, le_rfl⟩
      · exact .refl s
    · split <;> rfl
  · exact h.inUint8s

end Closed

theorem readsClosed : Closed fun _ => Moves Reads where
  pure := .pure
  fail := .fail
  seq := .seq
  modify := by
    intro f hf s a s' hm
    cases hm
    exact hf.reads s
  checkRem := .checkRem
  inUint8s := .read _ _
  inUint8 := .read _ 1
  inUint16Le := .read _ 2
  inUint16Be := .read _ 2
  inUint32Le := .read _ 4
  decryptRest := .decryptRest

theorem forwardClosed : Closed fun _ => Moves Forward where
  pure := readsClosed.pure.forward
  fail := .fail
  seq := .seqForward
  modify := fun hf => (readsClosed.modify hf).forward
  checkRem := readsClosed.checkRem.forward
  inUint8s := readsClosed.inUint8s.forward
  inUint8 := readsClosed.inUint8.forward
  inUint16Le := readsClosed.inUint16Le.forward
  inUint16Be := readsClosed.inUint16Be.forward
  inUint32Le := readsClosed.inUint32Le.forward
  decryptRest := readsClosed.decryptRest.forward

/-! ## Taking bytes -/

/-- From position `i` of the packet to position `j`, of the same packet or of one that has been
read since. -/
def Taken (s : Session) (i : Nat) (s' : Session) (j : Nat) : Prop :=
  (s'.wire = s.wire ∧ i < j ∧ i < s.end_ ∧ s'.end_ ≤ s.end_) ∨
    (s'.wire.length < s.wire.length ∧ s'.wire.length + s'.end_ ≤ s.wire.length ∧ 0 < j)

theorem Taken.mono {s s' s'' : Session} {i j k : Nat} (h : Taken s i s' j)
    (hw : s''.wire = s'.wire) (he : s''.end_ ≤ s'.end_) (hk : j ≤ k) : Taken s i s'' k := by
  rcases h with ⟨hw', hij, hi, he'⟩ | ⟨hw', he', hj⟩
  · exact .inl ⟨hw.trans hw', hij.trans_le hk, hi, he.trans he'⟩
  · refine .inr ⟨hw ▸ hw', ?_, hj.trans_le hk⟩
    rw [hw]
    omega

theorem Taken.forward {s s' s'' : Session} {i j k : Nat} (h : Taken s i s' j)
    (hf : Forward s' s'') (hk : j ≤ k) : Taken s i s'' k := h.mono hf.wire hf.end_ hk

theorem libxrdpForceRead_spec {s s' : Session} {a : Unit}
    (h : libxrdpForceRead s = some (a, s')) :
    s'.wire.length < s.wire.length ∧ s'.wire.length + s'.end_ = s.wire.length := by
  unfold libxrdpForceRead at h
  split at h
  · cases h
  simp only at h
  split at h
  · cases h
  split at h
  · cases h
  cases h
  simp only [List.length_drop]
  omega

/-- **The MCS loop** takes bytes, whatever number of packets it reads. -/
theorem xrdpMcsRecvLoop_taken (fuel : Nat) {s s' : Session} {chan : Nat}
    (h : xrdpMcsRecvLoop fuel s = some (chan, s')) : Taken s s.p s' s'.p := by
  induction fuel generalizing s with
  | zero => cases h
  | succ fuel ih =>
    obtain ⟨_, s₁, hiso, hrest⟩ := In.bind_eq_some.1 h
    obtain ⟨_, s₂, hrem, hrest⟩ := In.bind_eq_some.1 hrest
    obtain ⟨opcode, s₃, hread, htail⟩ := In.bind_eq_some.1 hrest
    clear h hrest
    have h₁ := readsClosed.xrdpIsoRecv _ _ _ hiso
    obtain ⟨hle, rfl⟩ := checkRem_eq_some hrem
    have hend := h₁.end_
    have hp := h₁.p
    -- the first byte of the MCS header
    have h₃ : Taken s s.p s₃ s₃.p := by
      cases hread
      exact .inl ⟨h₁.wire, Nat.lt_succ_of_le h₁.p, by omega, h₁.end_.le⟩
    split at htail
    · cases htail
    split at htail
    · -- a channel join request
      obtain ⟨_, s₄, hrem', hrest⟩ := In.bind_eq_some.1 htail
      obtain ⟨_, s₅, hskip, hrest⟩ := In.bind_eq_some.1 hrest
      obtain ⟨_, s₆, hforce, hloop⟩ := In.bind_eq_some.1 hrest
      obtain ⟨-, rfl⟩ := checkRem_eq_some hrem'
      have hw : s₅.wire = s.wire := by
        cases hskip
        cases hread
        exact h₁.wire
      obtain ⟨hlt, heq⟩ := libxrdpForceRead_spec hforce
      rw [hw] at hlt heq
      rcases ih hloop with ⟨hw', hij, -, he'⟩ | ⟨hw', he', hj⟩
      · exact .inr ⟨hw' ▸ hlt, by rw [hw']; omega, by omega⟩
      · exact .inr ⟨hw'.trans hlt, by omega, hj⟩
    split at htail
    · cases htail
    · have hr := readsClosed.xrdpMcsRecvSdrq _ _ _ htail
      exact h₃.forward hr.forward hr.p

theorem In.bind_congr {α β : Type} {m : In α} {f g : α → In β} {s : Session}
    (h : ∀ a s', m s = some (a, s') → f a s' = g a s') : (m >>= f) s = (m >>= g) s := by
  change (m s).bind (fun r => f r.1 r.2) = (m s).bind fun r => g r.1 r.2
  cases hm : m s with
  | none => rfl
  | some r => exact h r.1 r.2 hm

/-- More rounds than there are bytes are never needed: the MCS loop does not run out of them. -/
theorem xrdpMcsRecvLoop_fuel {n m : Nat} {s : Session} (hn : s.wire.length < n)
    (hm : s.wire.length < m) : xrdpMcsRecvLoop n s = xrdpMcsRecvLoop m s := by
  induction n generalizing m s with
  | zero => omega
  | succ n ih =>
    cases m with
    | zero => omega
    | succ m =>
      refine In.bind_congr fun _ s₁ hiso => In.bind_congr fun _ s₂ hrem =>
        In.bind_congr fun opcode s₃ hread => ?_
      have hw : s₃.wire = s.wire := by
        obtain ⟨-, rfl⟩ := checkRem_eq_some hrem
        rw [(readsClosed.inUint8 _ _ _ hread).wire, (readsClosed.xrdpIsoRecv _ _ _ hiso).wire]
      split
      · rfl
      split
      · refine In.bind_congr fun _ s₄ hrem' => In.bind_congr fun _ s₅ hskip =>
          In.bind_congr fun _ s₆ hforce => ?_
        obtain ⟨-, rfl⟩ := checkRem_eq_some hrem'
        have hlt := (libxrdpForceRead_spec hforce).1
        rw [(readsClosed.inUint8s _ _ _ hskip).wire, hw] at hlt
        exact ih (by omega) (by omega)
      · rfl

theorem xrdpSecRecv_taken (env : Env) {s s' : Session} {r : SecRecv}
    (h : xrdpSecRecv env s = some (r, s')) : Taken s s.p s' s'.p := by
  obtain ⟨chan, s₁, hmcs, hrest⟩ := In.bind_eq_some.1 h
  have hf : Forward s₁ s' := by
    refine (?_ : Moves Forward _) s₁ r s' hrest
    have hf := forwardClosed
    refine hf.seq hf.checkRem fun _ => hf.seq Moves.get.forward fun g => ?_
    split
    · exact hf.pure
    · exact hf.seq hf.inUint32Le fun flags => hf.seq (hf.secDecrypt (fun _ => .dropPad) env flags)
        fun _ => hf.xrdpSecRecvFlags env chan flags
  exact (xrdpMcsRecvLoop_taken _ hmcs).forward hf hf.p

/-! ## Fast-path input -/

/-- The length field of a fast-path header. -/
def Session.fastpathLength (s : Session) : Nat :=
  if s.byte 1 &&& 0x80 ≠ 0 then 256 * (s.byte 1 &&& 0x7F) + s.byte 2 else s.byte 1

theorem xrdpFastpathRecv_spec {s s' : Session} {a : Unit} (h : xrdpFastpathRecv s = some (a, s')) :
    Reads { s with nextPacket := some (s.p + s.fastpathLength) } s' ∧ s.p + 2 ≤ s'.p ∧
      (s.p + 2 : Int) ≤ s.end_ := by
  obtain ⟨_, _, hget, hrest⟩ := In.bind_eq_some.1 h
  cases hget
  obtain ⟨_, s₁, hrem, hrest⟩ := In.bind_eq_some.1 hrest
  obtain ⟨hle, rfl⟩ := checkRem_eq_some hrem
  obtain ⟨_, _, hread, hrest⟩ := In.bind_eq_some.1 hrest
  cases hread
  obtain ⟨_, _, hread, hrest⟩ := In.bind_eq_some.1 hrest
  cases hread
  obtain ⟨_, _, hmod, hrest⟩ := In.bind_eq_some.1 hrest
  cases hmod
  unfold Session.fastpathLength
  change (if s₁.byte 1 &&& 0x80 ≠ 0 then _ else _ : In Unit) _ = _ at hrest
  split at hrest
  · rename_i hbyte
    rw [if_pos hbyte]
    obtain ⟨_, s₂, hrem, hrest⟩ := In.bind_eq_some.1 hrest
    obtain ⟨-, rfl⟩ := checkRem_eq_some hrem
    obtain ⟨_, _, hread, hrest⟩ := In.bind_eq_some.1 hrest
    cases hread
    cases hrest
    exact ⟨⟨rfl, rfl, rfl, rfl, by simp only; omega⟩, by simp only; omega, hle⟩
  · rename_i hbyte
    rw [if_neg hbyte]
    cases hrest
    exact ⟨⟨rfl, rfl, rfl, rfl, by simp only; omega⟩, le_rfl, hle⟩

/-- **A fast-path header**: where it says the next packet is, and room for the events. -/
theorem xrdpSecRecvFastpath_spec {env : Env} {s s' : Session} {a : Unit}
    (h : xrdpSecRecvFastpath env s = some (a, s')) :
    Forward { s with nextPacket := some (s.p + s.fastpathLength) } s' ∧ s.p + 2 ≤ s'.p ∧
      (s.p + 2 : Int) ≤ s.end_ ∧ (s'.numEvents = 0 → (s'.p : Int) ≤ s'.end_) := by
  obtain ⟨_, s₁, hrecv, hrest⟩ := In.bind_eq_some.1 h
  obtain ⟨_, _, hget, hrest⟩ := In.bind_eq_some.1 hrest
  cases hget
  obtain ⟨_, s₂, hdec, hrest⟩ := In.bind_eq_some.1 hrest
  obtain ⟨_, _, hget, hnum⟩ := In.bind_eq_some.1 hrest
  cases hget
  obtain ⟨hreads, hp, hend⟩ := xrdpFastpathRecv_spec hrecv
  have hforward := hreads.forward.trans (forwardClosed.fastpathDecrypt (fun _ => .dropPad) _ _ _ _ _ hdec)
  have hp₂ := (forwardClosed.fastpathDecrypt (fun _ => .dropPad) _ _ _ _ _ hdec).p
  by_cases hne : s₂.numEvents = 0
  · rw [readNumEvents, if_pos hne] at hnum
    obtain ⟨_, s₃, hrem, hcount⟩ := In.bind_eq_some.1 hnum
    obtain ⟨hle, rfl⟩ := checkRem_eq_some hrem
    obtain ⟨_, _, hread, hmod⟩ := In.bind_eq_some.1 hcount
    cases hread
    cases hmod
    refine ⟨⟨hforward.wire, hforward.nextPacket, hforward.deadLockCounter, hforward.end_, ?_⟩,
      ?_, hend, fun _ => ?_⟩
    · exact hforward.p.trans (Nat.le_add_right _ _)
    · simp only
      omega
    · simp only
      omega
  · rw [readNumEvents, if_neg hne] at hnum
    cases hnum
    exact ⟨hforward, hp.trans hp₂, hend, fun h0 => absurd h0 hne⟩

theorem fastpathInputEvent_room {n : Nat} {s s' : Session} {a : Unit}
    (h : xrdpFastpathProcessInputEvent n s = some (a, s')) (hn : n ≠ 0) :
    (s.p : Int) ≤ s.end_ := by
  cases n with
  | zero => exact absurd rfl hn
  | succ n =>
    obtain ⟨_, _, hrem, -⟩ := In.bind_eq_some.1 h
    have := (checkRem_eq_some hrem).1
    omega

/-! ## One round -/

/-- Where the next round starts. -/
def Session.pos (s : Session) : Nat := s.inPacket.getD s.p

theorem pos_of_lt {s : Session} {np : Nat} (h : s.nextPacket = some np)
    (hlt : (np : Int) < s.end_) : s.pos = np := by
  simp [Session.pos, Session.inPacket, h, Option.filter, hlt]

theorem pos_of_none {s : Session} (h : s.inPacket = none) : s.pos = s.p := by
  simp [Session.pos, h]

theorem inPacket_eq_some {s : Session} {np : Nat} :
    s.inPacket = some np ↔ s.nextPacket = some np ∧ (np : Int) < s.end_ := by
  simp [Session.inPacket, Option.filter_eq_some_iff]

/-- How much a return code adds to `dead_lock_counter`. -/
def counted (code : Int) : Nat :=
  if code = -1 ∨ code = 2 ∨ code = PDUTYPE_CONFIRMACTIVEPDU ∨ code = PDUTYPE_DATAPDU then 0 else 1

theorem dispatch_spec {env : Env} {code : Int} {s s' : Session} {a : Unit}
    (h : dispatch env code s = some (a, s')) :
    Reads { s with deadLockCounter := s.deadLockCounter + counted code } s' := by
  unfold dispatch at h
  split at h
  · rename_i hc
    cases h
    exact ⟨rfl, rfl, by simp [counted, hc], rfl, le_rfl⟩
  split at h
  · rename_i hc
    cases h
    exact ⟨rfl, rfl, by simp [counted, hc, PDUTYPE_CONFIRMACTIVEPDU, PDUTYPE_DATAPDU], rfl, le_rfl⟩
  split at h
  · rename_i hc
    have hr := readsClosed.inUint8s _ _ _ h
    exact ⟨hr.wire, hr.nextPacket, by simpa [counted, hc] using hr.deadLockCounter, hr.end_, hr.p⟩
  split at h
  · rename_i hc
    have hr := readsClosed.xrdpRdpProcessData _ _ _ _ h
    exact ⟨hr.wire, hr.nextPacket, by simpa [counted, hc] using hr.deadLockCounter, hr.end_, hr.p⟩
  split at h
  · rename_i hc
    obtain ⟨_, _, hget, hevents⟩ := In.bind_eq_some.1 h
    cases hget
    have hr := readsClosed.fastpathInputEvent _ _ _ _ hevents
    exact ⟨hr.wire, hr.nextPacket, by simpa [counted, hc] using hr.deadLockCounter, hr.end_, hr.p⟩
  · rename_i h1 _ h3 h4 h5
    cases h
    exact ⟨rfl, rfl, by simp [counted, h1, h3, h4, h5], rfl, le_rfl⟩

/-- What the end of a round leaves. -/
theorem nextRound_spec {s s' : Session} (h : nextRound s = some s') :
    s'.wire = s.wire ∧ s'.p = s.p ∧ s'.end_ = s.end_ ∧
      s'.deadLockCounter = s.deadLockCounter ∧
      s'.nextPacket = if s.deadLockCounter > 100000 then none else s.nextPacket := by
  unfold nextRound at h
  split at h
  all_goals
    dsimp only at h
    split at h
    all_goals
      split at h
      · cases h
        simp_all
      · cases h

/-- **A packet of the transport** that is not fast-path input takes bytes, and so does the next
PDU in it. -/
theorem xrdpRdpRecv_tpkt {env : Env} {s s' : Session} {code : Int} (hnone : s.inPacket = none)
    (h3 : s.byte 0 = 3) (h : xrdpRdpRecv env s = some (code, s')) :
    Taken s s.p s' s'.p ∧ ∀ np, s'.nextPacket = some np → Taken s s.p s' np := by
  obtain ⟨_, _, hget, hmatch⟩ := In.bind_eq_some.1 h
  cases hget
  simp only [hnone, h3, ne_eq, not_true_eq_false, if_false] at hmatch
  obtain ⟨r, s₁, hsec, htail⟩ := In.bind_eq_some.1 hmatch
  have h₁ := xrdpSecRecv_taken env hsec
  cases r with
  | demandActive =>
    cases htail
    exact ⟨h₁, fun np hnp => by cases hnp⟩
  | channel chan =>
    dsimp only at htail
    split at htail
    · cases htail
      refine ⟨h₁.mono rfl le_rfl (Nat.le_add_right _ _), ?_⟩
      exact fun np hnp => by cases hnp
    · obtain ⟨_, s₂, hmod, hshare⟩ := In.bind_eq_some.1 htail
      cases hmod
      unfold shareControl at hshare
      split at hshare
      · cases hshare
        refine ⟨h₁.mono rfl le_rfl (Nat.le_add_right _ _), ?_⟩
        intro np hnp
        cases hnp
        exact h₁.mono rfl le_rfl (Nat.le_add_right _ _)
      · cases hshare
        exact ⟨h₁, fun np hnp => by cases hnp⟩

/-- The share-control header at `i`: the length of its PDU, and its code. -/
def Session.totalLength (s : Session) (i : Nat) : Nat :=
  (s.cells i).toNat + 256 * (s.cells (i + 1)).toNat

def Session.pduCode (s : Session) (i : Nat) : Int :=
  (((s.cells (i + 2)).toNat + 256 * (s.cells (i + 3)).toNat) &&& 0xF : Nat)

/-- **The rounds that consume nothing**, unless they leave the loop.  Inside a packet: the
share-control header gives a length of 0, or is cut off.  At the start of a packet: the fast-path
header gives a length of 0.  The counter is what ends them, of those that are counted. -/
def Session.Stalls (s : Session) : Prop :=
  match s.inPacket with
  | some np =>
    (np + 6 : Int) ≤ s.end_ →
      s.totalLength np = 0 ∧ s.deadLockCounter + counted (s.pduCode np) ≤ 100000
  | none => s.byte 0 ≠ 3 ∧ s.fastpathLength = 0 ∧ s.deadLockCounter ≤ 100000

/-- A round that begins inside a packet. -/
theorem round_inPacket {env : Env} {s s₁ s₂ s' : Session} {np : Nat} {code : Int} {a : Unit}
    (hnp : s.inPacket = some np) (hrecv : xrdpRdpRecv env s = some (code, s₁))
    (hdisp : dispatch env code s₁ = some (a, s₂)) (hnext : nextRound s₂ = some s') :
    (s.Stalls ∧ s'.wire = s.wire ∧ s'.pos = s.pos) ∨
      (¬ s.Stalls ∧ Taken s s.pos s' s'.pos) := by
  obtain ⟨hnext', hlt⟩ := inPacket_eq_some.1 hnp
  obtain ⟨_, _, hget, hmatch⟩ := In.bind_eq_some.1 hrecv
  cases hget
  simp only [hnp] at hmatch
  obtain ⟨_, _, hmod, hshare⟩ := In.bind_eq_some.1 hmatch
  cases hmod
  have hd := dispatch_spec hdisp
  obtain ⟨hw, hp, he, -, hn⟩ := nextRound_spec hnext
  have hpos : s.pos = np := pos_of_lt hnext' hlt
  have hdp := hd.p
  rw [shareControl] at hshare
  simp only at hshare
  split at hshare
  · rename_i hrem
    cases hshare
    have hdead : s₂.deadLockCounter = s.deadLockCounter + counted (s.pduCode np) :=
      hd.deadLockCounter
    have hnp₂ : s₂.nextPacket = some (np + s.totalLength np) := by
      rw [hd.nextPacket]
      simp only [hnext']
      rfl
    have hend : s'.end_ = s.end_ := he.trans hd.end_
    have hwire : s'.wire = s.wire := hw.trans hd.wire
    rw [Session.Stalls, hnp, hpos]
    simp only [hrem, forall_const]
    by_cases hdl : s₂.deadLockCounter > 100000
    · -- the counter has run out
      rw [if_pos hdl] at hn
      have hin : s'.inPacket = none := by simp [Session.inPacket, hn]
      refine .inr ⟨fun h => by omega, ?_⟩
      rw [pos_of_none hin, hp]
      exact .inl ⟨hwire, by simp only at hdp; omega, hlt, hend.le⟩
    · rw [if_neg hdl, hnp₂] at hn
      by_cases h0 : s.totalLength np = 0
      · rw [h0, Nat.add_zero] at hn
        exact .inl ⟨⟨h0, by omega⟩, hwire, pos_of_lt hn (hend ▸ hlt)⟩
      · refine .inr ⟨fun h => h0 h.1, ?_⟩
        by_cases hlt' : ((np + s.totalLength np : Nat) : Int) < s'.end_
        · rw [pos_of_lt hn hlt']
          exact .inl ⟨hwire, by omega, hlt, hend.le⟩
        · have hin : s'.inPacket = none := by
            rw [Option.eq_none_iff_forall_ne_some]
            intro i hi
            obtain ⟨hi, hilt⟩ := inPacket_eq_some.1 hi
            rw [hn, Option.some_inj] at hi
            exact hlt' (hi ▸ hilt)
          rw [pos_of_none hin, hp]
          exact .inl ⟨hwire, by simp only at hdp; omega, hlt, hend.le⟩
  · -- the header is cut off
    rename_i hrem
    cases hshare
    rw [dispatch, if_neg (by decide), if_pos rfl] at hdisp
    cases hdisp
    refine .inl ⟨?_, hw, ?_⟩
    · rw [Session.Stalls, hnp]
      exact fun h => absurd h hrem
    · have hin : s'.inPacket = none := by simp [Session.inPacket, hn]
      rw [pos_of_none hin, hp, hpos]

/-- A round that begins with a packet of the transport. -/
theorem round_tpkt {env : Env} {s s₁ s₂ s' : Session} {code : Int} {a : Unit}
    (hnone : s.inPacket = none) (h3 : s.byte 0 = 3) (hrecv : xrdpRdpRecv env s = some (code, s₁))
    (hdisp : dispatch env code s₁ = some (a, s₂)) (hnext : nextRound s₂ = some s') :
    ¬ s.Stalls ∧ Taken s s.pos s' s'.pos := by
  obtain ⟨h₁, hnp₁⟩ := xrdpRdpRecv_tpkt hnone h3 hrecv
  have hd := dispatch_spec hdisp
  obtain ⟨hw, hp, he, -, hn⟩ := nextRound_spec hnext
  have hwire : s'.wire = s₁.wire := hw.trans hd.wire
  have hend : s'.end_ = s₁.end_ := he.trans hd.end_
  refine ⟨?_, ?_⟩
  · rw [Session.Stalls, hnone]
    exact fun h => h.1 h3
  · rw [pos_of_none hnone]
    cases hin : s'.inPacket with
    | none =>
      rw [pos_of_none hin]
      exact h₁.mono hwire hend.le (hp ▸ hd.p)
    | some np =>
      obtain ⟨hnp, hlt⟩ := inPacket_eq_some.1 hin
      rw [pos_of_lt hnp hlt]
      rw [hn] at hnp
      split at hnp
      · cases hnp
      · rw [hd.nextPacket] at hnp
        exact (hnp₁ np hnp).mono hwire hend.le le_rfl

/-- A round that begins with fast-path input. -/
theorem round_fastpath {env : Env} {s s₁ s₂ s' : Session} {code : Int} {a : Unit}
    (hnone : s.inPacket = none) (h3 : s.byte 0 ≠ 3) (hrecv : xrdpRdpRecv env s = some (code, s₁))
    (hdisp : dispatch env code s₁ = some (a, s₂)) (hnext : nextRound s₂ = some s') :
    (s.Stalls ∧ s'.wire = s.wire ∧ s'.pos = s.pos) ∨
      (¬ s.Stalls ∧ Taken s s.pos s' s'.pos) := by
  obtain ⟨_, _, hget, hmatch⟩ := In.bind_eq_some.1 hrecv
  cases hget
  simp only [hnone, h3, ne_eq, not_false_eq_true, if_true] at hmatch
  obtain ⟨_, s₁, hsec, hpure⟩ := In.bind_eq_some.1 hmatch
  cases hpure
  obtain ⟨hf, hp₁, hroom, hnum⟩ := xrdpSecRecvFastpath_spec hsec
  have hd := dispatch_spec hdisp
  obtain ⟨hw, hp, he, -, hn⟩ := nextRound_spec hnext
  have hdp := hd.p
  simp only at hdp
  have hin₁ : (s₁.p : Int) ≤ s₁.end_ := by
    by_cases h0 : s₁.numEvents = 0
    · exact hnum h0
    · rw [dispatch, if_neg (by decide), if_neg (by decide), if_neg (by decide),
        if_neg (by decide), if_pos rfl] at hdisp
      obtain ⟨_, _, hget, hevents⟩ := In.bind_eq_some.1 hdisp
      cases hget
      exact fastpathInputEvent_room hevents h0
  have hwire : s'.wire = s.wire := hw.trans (hd.wire.trans hf.wire)
  have hend : s'.end_ = s₁.end_ := he.trans hd.end_
  have hend' : s'.end_ ≤ s.end_ := hend.trans_le hf.end_
  have hdead : s₂.deadLockCounter = s.deadLockCounter :=
    hd.deadLockCounter.trans hf.deadLockCounter
  have hnp : s₂.nextPacket = some (s.p + s.fastpathLength) :=
    hd.nextPacket.trans hf.nextPacket
  rw [hdead, hnp] at hn
  rw [Session.Stalls, hnone, pos_of_none hnone]
  simp only [h3, ne_eq, not_false_eq_true, true_and]
  have hbehind : s'.inPacket = none → Taken s s.p s' s'.pos := fun hin => by
    rw [pos_of_none hin, hp]
    exact .inl ⟨hwire, by omega, by omega, hend'⟩
  by_cases hdl : s.deadLockCounter > 100000
  · rw [if_pos hdl] at hn
    exact .inr ⟨fun h => by omega, hbehind (by simp [Session.inPacket, hn])⟩
  · rw [if_neg hdl] at hn
    by_cases h0 : s.fastpathLength = 0
    · rw [h0, Nat.add_zero] at hn
      exact .inl ⟨⟨h0, by omega⟩, hwire, pos_of_lt hn (by omega)⟩
    · refine .inr ⟨fun h => h0 h.1, ?_⟩
      by_cases hlt : ((s.p + s.fastpathLength : Nat) : Int) < s'.end_
      · rw [pos_of_lt hn hlt]
        exact .inl ⟨hwire, by omega, by omega, hend'⟩
      · apply hbehind
        rw [Option.eq_none_iff_forall_ne_some]
        intro i hi
        obtain ⟨hi, hilt⟩ := inPacket_eq_some.1 hi
        rw [hn, Option.some_inj] at hi
        exact hlt (hi ▸ hilt)

/-- **One round** that does not leave the loop stays where it is if it stalls, and takes bytes if
it does not. -/
theorem iteration_spec {env : Env} {s s' : Session} (h : iteration env s = some s') :
    (s.Stalls ∧ s'.wire = s.wire ∧ s'.pos = s.pos) ∨
      (¬ s.Stalls ∧ Taken s s.pos s' s'.pos) := by
  unfold iteration at h
  split at h
  · cases h
  obtain ⟨⟨code, s₁⟩, hrecv, hrest⟩ := Option.bind_eq_some_iff.1 h
  obtain ⟨⟨a, s₂⟩, hdisp, hnext⟩ := Option.bind_eq_some_iff.1 hrest
  cases hin : s.inPacket with
  | some np => exact round_inPacket hin hrecv hdisp hnext
  | none =>
    by_cases h3 : s.byte 0 = 3
    · exact .inr (round_tpkt hin h3 hrecv hdisp hnext)
    · exact round_fastpath hin h3 hrecv hdisp hnext

/-! ## The whole loop -/

/-- A round consumes a byte of the packet, or has fetched another one. -/
def Progress (s s' : Session) : Prop :=
  s'.wire.length < s.wire.length ∨ (s'.wire = s.wire ∧ s.pos < s'.pos)

/-- A round that does not leave the loop makes progress just if it does not stall. -/
theorem progress_iff {env : Env} {s s' : Session} (h : iteration env s = some s') :
    Progress s s' ↔ ¬ s.Stalls := by
  rcases iteration_spec h with ⟨hs, hw, hp⟩ | ⟨hs, ⟨hw, hlt, -, -⟩ | ⟨hw, -, -⟩⟩
  · refine iff_of_false ?_ (not_not.2 hs)
    rintro (hlt | ⟨-, hlt⟩)
    · exact absurd hlt (hw ▸ lt_irrefl _)
    · exact absurd hlt (hp ▸ lt_irrefl _)
  · exact iff_of_true (.inr ⟨hw, hlt⟩) hs
  · exact iff_of_true (.inl hw) hs

/-- The bytes the client has sent that are not consumed. -/
def Session.left (s : Session) : Nat := s.wire.length + (s.end_ - s.pos).toNat

theorem left_lt {env : Env} {s s' : Session} (h : iteration env s = some s') (hs : ¬ s.Stalls) :
    s'.left < s.left := by
  rcases iteration_spec h with ⟨hst, -⟩ | ⟨-, ⟨hw, hlt, hin, he⟩ | ⟨hw, he, hp⟩⟩
  · exact absurd hst hs
  · rw [Session.left, Session.left, hw]
    omega
  · rw [Session.left, Session.left]
    omega

theorem rounds_add_left {envs : Nat → Env} {s : Session}
    (h : ∀ k s', rounds envs s k = some s' → ¬ s'.Stalls) (k : Nat) {s' : Session}
    (hk : rounds envs s k = some s') : s'.left + k ≤ s.left := by
  induction k generalizing s' with
  | zero =>
    cases hk
    exact le_rfl
  | succ k ih =>
    obtain ⟨s₁, h₁, hiter⟩ := Option.bind_eq_some_iff.1 hk
    have := ih h₁
    have := left_lt hiter (h k s₁ h₁)
    omega

/-- **The loop over a packet**: of the rounds that do not leave it, those make progress that do not
stall, and if none stalls the loop ends within one round more than there are bytes. -/
theorem process_data_ends (envs : Nat → Env) (s : Session) :
    (∀ k s₁ s₂, rounds envs s k = some s₁ → rounds envs s (k + 1) = some s₂ →
      (Progress s₁ s₂ ↔ ¬ s₁.Stalls)) ∧
    ((∀ k s', rounds envs s k = some s' → ¬ s'.Stalls) →
      ∃ n ≤ s.left + 1, rounds envs s n = none) := by
  constructor
  · intro k s₁ s₂ h₁ h₂
    rw [rounds, h₁] at h₂
    exact progress_iff h₂
  · intro h
    refine ⟨s.left + 1, le_rfl, ?_⟩
    cases hk : rounds envs s (s.left + 1) with
    | none => rfl
    | some s' =>
      have := rounds_add_left h _ hk
      omega

/-- A client that only sends, and a program that does nothing with it. -/
def quietEnv : Env where
  isTerm := false
  cryptLevel := .CRYPT_LEVEL_NONE
  cryptMethodNone := true
  decrypt d := d
  fipsDecrypt d := d
  logonInfo := none
  isMce := false
  licSent := true
  channelBytes := 0
  confirmActiveBytes := 0
  dataBytes := 0

/-- A synchronise PDU whose share-control header gives a length of 0. -/
def zeroLengthPdu : List UInt8 :=
  [3, 0, 0, 32, 2, 0xF0, 0x80, 100, 0, 0, 3, 0xEB, 0x70, 18,
    0, 0, 0x17, 0, 0xEA, 3,
    0, 0, 0, 0, 0, 0, 0, 0, 31, 0, 0, 0]

/-- The session of a packet, with no more to come. -/
def sessionOf (packet : List UInt8) : Session where
  cells i := packet.getD i 0
  p := 0
  end_ := packet.length
  nextPacket := none
  wire := []
  isSecurityHeaderPresent := false
  numEvents := 0
  secFlags := 0
  upAndRunning := true
  cont := true
  deadLockCounter := 0

/-- A key press is one round. -/
example : rounds (fun _ => quietEnv) (sessionOf [0x04, 4, 0, 0x1E]) 1 = none := rfl

/-- **The loop need not end**: of a data PDU with a length of 0 no byte is ever consumed. -/
theorem process_data_not_ends :
    ∃ envs s, s.Fresh ∧ (∀ n, rounds envs s n ≠ none) ∧
      ∃ k s₁ s₂, rounds envs s k = some s₁ ∧ rounds envs s (k + 1) = some s₂ ∧
        ¬ Progress s₁ s₂ := by
  have h₁ : iteration quietEnv (sessionOf zeroLengthPdu) =
      some { sessionOf zeroLengthPdu with p := 32, nextPacket := some 14 } := rfl
  have h₂ : iteration quietEnv { sessionOf zeroLengthPdu with p := 32, nextPacket := some 14 } =
      some { sessionOf zeroLengthPdu with p := 32, nextPacket := some 14 } := rfl
  have hrun : ∀ n, rounds (fun _ => quietEnv) (sessionOf zeroLengthPdu) (n + 1) =
      some { sessionOf zeroLengthPdu with p := 32, nextPacket := some 14 } := by
    intro n
    induction n with
    | zero => exact h₁
    | succ n ih => rw [rounds, ih, Option.bind_some, h₂]
  refine ⟨fun _ => quietEnv, sessionOf zeroLengthPdu, ⟨rfl, rfl, rfl, rfl, rfl⟩, fun n => ?_,
    1, _, _, hrun 0, hrun 1, ?_⟩
  · cases n with
    | zero => exact Option.some_ne_none _
    | succ n => simp [hrun n]
  · rintro (h | ⟨-, h⟩)
    · exact absurd h (lt_irrefl _)
    · exact absurd h (lt_irrefl _)

end Xrdp.Recv
