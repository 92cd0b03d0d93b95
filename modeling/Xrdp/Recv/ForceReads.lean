import Xrdp.Recv.ProcessDataEnds

/-!
# What is read of the socket while a packet is processed

`xrdp_mcs_recv` answers a channel join request, and then reads the next packet from the socket, by
`libxrdp_force_read`, whether the session is up or not.  Nothing else in `libxrdp_process_data`
reads the socket once a packet has been given to it.

* `libxrdpProcessData` — the return value, and what it leaves on the wire.
* `Session.Joins` — a round of its loop starts at a channel join request.
* `Apart` — a reader that has nothing to do with the wire.
* `processData_apart` — if no round starts at a join request, the wire is left alone.
* `processData_joins` — otherwise at least one packet is read.
-/

namespace Xrdp.Recv

/-! ## The code -/

/-- What `libxrdp_force_read` leaves on the wire, if it fails or not. -/
def forceReadLeft (wire : List UInt8) : List UInt8 :=
  if wire.length < 4 then []
  else
    let bytes := libxrdpGetPduBytes (wire.take 4)
    if bytes < 1 ∨ bytes > 32 * 1024 then wire.drop 4 else wire.drop (max 4 bytes)

/-- A channel join request, as `xrdp_mcs_recv` takes it. -/
def joinRequest : In Unit := do
  xrdpIsoRecv
  checkRem 1
  let opcode ← inUint8
  if opcode / 4 = MCS_CJRQ then do
    checkRem 4
    inUint8s 4
  else fail

/-- What the loop of `xrdp_mcs_recv` leaves on the wire if it fails. -/
def xrdpMcsRecvLeft : Nat → Session → List UInt8
  | 0, s => s.wire
  | fuel + 1, s =>
    match joinRequest s with
    | none => s.wire
    | some (_, s₁) =>
      match libxrdpForceRead s₁ with
      | none => forceReadLeft s₁.wire
      | some (_, s₂) => xrdpMcsRecvLeft fuel s₂

/-- What `xrdp_rdp_recv` leaves on the wire if it fails. -/
def xrdpRdpRecvLeft (s : Session) : List UInt8 :=
  if s.inPacket = none ∧ s.byte 0 = 3 then xrdpMcsRecvLeft (s.wire.length + 1) s else s.wire

/-- `libxrdp_process_data` with a packet: the return value, and what is left on the wire.  A loop
that is not over after `fuel` rounds has not returned; that counts as an error. -/
def libxrdpProcessData : Nat → (Nat → Env) → Session → Int × List UInt8
  | 0, _, s => (1, s.wire)
  | fuel + 1, envs, s =>
    if (envs 0).isTerm then (0, s.wire)
    else
      match xrdpRdpRecv (envs 0) s with
      | none => (1, xrdpRdpRecvLeft s)
      | some (code, s₁) =>
        match dispatch (envs 0) code s₁ with
        | none => (0, s₁.wire)
        | some (_, s₂) =>
          match nextRound s₂ with
          | none => (0, s₂.wire)
          | some s' => libxrdpProcessData fuel (fun k => envs (k + 1)) s'

/-- The next round takes a packet of the transport, and it is a channel join request. -/
def Session.Joins (s : Session) : Prop := s.inPacket = none ∧ s.byte 0 = 3 ∧ joinRequest s ≠ none

/-- One of the next `fuel` rounds starts at a channel join request. -/
def ReadsOn (fuel : Nat) (envs : Nat → Env) (s : Session) : Prop :=
  ∃ k < fuel, ∃ s', rounds envs s k = some s' ∧ (envs k).isTerm = false ∧ s'.Joins

/-! ## Readers that have nothing to do with the wire -/

/-- The same with something else on the wire. -/
def Session.withWire (s : Session) (wire : List UInt8) : Session := { s with wire }

@[simp] theorem withWire_wire (s : Session) (w : List UInt8) : (s.withWire w).wire = w := rfl
@[simp] theorem withWire_byte (s : Session) (w : List UInt8) : (s.withWire w).byte = s.byte := rfl
@[simp] theorem withWire_inPacket (s : Session) (w : List UInt8) :
    (s.withWire w).inPacket = s.inPacket := rfl
/-- The result of a reader with something else on the wire. -/
def rewire {α : Type} (w : List UInt8) (r : α × Session) : α × Session := (r.1, r.2.withWire w)

/-- Whatever is on the wire, a reader does the same. -/
def Apart {α : Type} (m : In α) : Prop := ∀ s w, m (s.withWire w) = (m s).map (rewire w)

section

variable {α β : Type}

theorem rewire_wire {r : Option (α × Session)} {w : List UInt8} {a : α} {s' : Session}
    (h : r = r.map (rewire w)) (hr : r = some (a, s')) : s'.wire = w := by
  rw [hr] at h
  have hs' : s' = s'.withWire w := congrArg Prod.snd (Option.some.inj h)
  calc s'.wire = (s'.withWire w).wire := congrArg Session.wire hs'
    _ = w := rfl

/-- It leaves the wire alone. -/
theorem Apart.wire {m : In α} (h : Apart m) {s s' : Session} {a : α} (hm : m s = some (a, s')) :
    s'.wire = s.wire :=
  rewire_wire (h s s.wire) hm

theorem Apart.pure {a : α} : Apart (pure a : In α) := by
  intro s w
  rfl

theorem Apart.fail : Apart (fail : In α) := by
  intro s w
  rfl

theorem Apart.seq {m : In α} {f : α → In β} (h : Apart m) (hf : ∀ a, Apart (f a)) :
    Apart (m >>= f) := by
  intro s w
  change (m (s.withWire w)).bind (fun r => f r.1 r.2) = ((m s).bind fun r => f r.1 r.2).map _
  rw [h s w]
  cases m s with
  | none => rfl
  | some r => exact hf r.1 r.2 w

/-- What is asked of the session may be anything but the wire. -/
theorem Apart.get {f : Session → In α} (h : ∀ s, Apart (f s)) (hf : ∀ s w, f (s.withWire w) = f s) :
    Apart (get >>= f) := by
  intro s w
  change f (s.withWire w) (s.withWire w) = (f s s).map _
  rw [hf, h]

theorem Apart.modify {g : Session → Session} (h : ∀ s w, g (s.withWire w) = (g s).withWire w) :
    Apart (modify g : In Unit) := by
  intro s w
  exact congrArg (fun s => some ((), s)) (h s w)

/-- A reader that only moves `p`. -/
theorem Apart.read {v : Session → α} {n : Nat} (h : ∀ s w, v (s.withWire w) = v s) :
    Apart (fun s => some (v s, { s with p := s.p + n }) : In α) := by
  intro s w
  exact congrArg (fun a => some (a, { s.withWire w with p := s.p + n })) (h s w)

end

theorem Apart.checkRem {n : Nat} : Apart (checkRem n) := by
  intro s w
  unfold Recv.checkRem
  change (if (s.p + n : Int) ≤ s.end_ then _ else _) = _
  split <;> rfl

theorem Apart.decryptRest {decrypt : List UInt8 → List UInt8} : Apart (decryptRest decrypt) := by
  intro s w
  rfl

theorem Apart.dropPad {pad : Nat} : Apart (dropPad pad) := by
  intro s w
  rfl

/-! ## The layers -/

theorem apartClosed : Closed fun _ => Apart where
  pure := .pure
  fail := .fail
  seq := .seq
  modify := fun hf => .modify hf.wire
  checkRem := .checkRem
  inUint8s := .read fun _ _ => rfl
  inUint8 := .read fun _ _ => rfl
  inUint16Le := .read fun _ _ => rfl
  inUint16Be := .read fun _ _ => rfl
  inUint32Le := .read fun _ _ => rfl
  decryptRest := .decryptRest

theorem Apart.joinRequest : Apart joinRequest := by
  refine .seq apartClosed.xrdpIsoRecv fun _ => .seq .checkRem fun _ => .seq apartClosed.inUint8 fun opcode => ?_
  split
  · exact .seq .checkRem fun _ => apartClosed.inUint8s
  · exact .fail

theorem Apart.xrdpSecRecvFastpath (env : Env) : Apart (xrdpSecRecvFastpath env) := by
  have hheader : Apart xrdpFastpathRecv := by
    refine .get (fun s => ?_) fun s w => rfl
    refine .seq .checkRem fun _ => .seq apartClosed.inUint8 fun fpHdr => .seq apartClosed.inUint8 fun byte =>
      .seq (.modify fun s w => rfl) fun _ => ?_
    split
    · exact .seq .checkRem fun _ => .seq apartClosed.inUint8 fun byte2 => .modify fun s w => rfl
    · exact .modify fun s w => rfl
  refine .seq hheader fun _ => .get (fun s => ?_) fun s w => rfl
  refine .seq (apartClosed.fastpathDecrypt (fun _ => .dropPad) env s.secFlags) fun _ =>
    .get (fun s => ?_) fun s w => rfl
  unfold readNumEvents
  split
  · exact .seq .checkRem fun _ => .seq apartClosed.inUint8 fun _ => .modify fun s w => rfl
  · exact .pure

theorem Apart.shareControl : Apart shareControl := by
  intro s w
  unfold Recv.shareControl
  change (if (s.p + 6 : Int) ≤ s.end_ then _ else _) = _
  split <;> rfl

theorem Apart.dispatch (env : Env) (code : Int) : Apart (dispatch env code) := by
  unfold Recv.dispatch
  split
  · exact .modify fun s w => rfl
  split
  · exact .modify fun s w => rfl
  split
  · exact apartClosed.inUint8s
  split
  · exact apartClosed.xrdpRdpProcessData env
  split
  · exact .get (fun s => apartClosed.fastpathInputEvent s.numEvents) fun s w => rfl
  · exact .modify fun s w => rfl

theorem nextRound_withWire (s : Session) (w : List UInt8) :
    nextRound (s.withWire w) = (nextRound s).map (·.withWire w) := by
  obtain ⟨cells, p, end_, nextPacket, wire, sec, numEvents, secFlags, up, cont, counter⟩ := s
  unfold nextRound Session.withWire Session.inPacket
  dsimp only
  split <;> split <;> split <;> rfl

/-! ## Rounds without a channel join request -/

/-- `xrdp_mcs_recv` for anything but a channel join request. -/
def xrdpMcsRecvHere : In Nat := do
  xrdpIsoRecv
  checkRem 1
  let opcode ← inUint8
  if opcode / 4 = MCS_SDRQ then xrdpMcsRecvSdrq else fail

/-- `xrdp_sec_recv`, behind `xrdp_mcs_recv`. -/
def xrdpSecRecvBehind (env : Env) (chan : Nat) : In SecRecv := do
  checkRem 4
  if (← get).isSecurityHeaderPresent = false then pure (.channel chan)
  else do
    let flags ← inUint32Le
    secDecrypt env flags
    xrdpSecRecvFlags env chan flags

theorem Apart.xrdpMcsRecvHere : Apart xrdpMcsRecvHere := by
  refine .seq apartClosed.xrdpIsoRecv fun _ => .seq .checkRem fun _ => .seq apartClosed.inUint8 fun opcode => ?_
  split
  · exact apartClosed.xrdpMcsRecvSdrq
  · exact .fail

theorem Apart.xrdpSecRecvBehind (env : Env) (chan : Nat) : Apart (xrdpSecRecvBehind env chan) := by
  refine .seq .checkRem fun _ => .get (fun s => ?_) fun s w => rfl
  split
  · exact .pure
  · exact .seq apartClosed.inUint32Le fun flags => .seq (apartClosed.secDecrypt (fun _ => .dropPad) env flags) fun _ =>
      apartClosed.xrdpSecRecvFlags env chan flags

/-- What comes of a bind. -/
theorem In.bind_apply {α β : Type} (m : In α) (f : α → In β) (s : Session) :
    (m >>= f) s = (m s).bind fun r => f r.1 r.2 := rfl

theorem get_apply (s : Session) : (get : In Session) s = some (s, s) := rfl

/-- **The MCS loop** reads no further packet, or is at a channel join request. -/
theorem xrdpMcsRecvLoop_succ (fuel : Nat) (s : Session) :
    xrdpMcsRecvLoop (fuel + 1) s =
      match joinRequest s with
      | none => xrdpMcsRecvHere s
      | some (_, s₁) => (libxrdpForceRead s₁).bind fun r => xrdpMcsRecvLoop fuel r.2 := by
  rw [xrdpMcsRecvLoop, joinRequest, xrdpMcsRecvHere]
  simp only [In.bind_apply]
  cases xrdpIsoRecv s with
  | none => rfl
  | some r =>
    simp only [Option.bind_some]
    cases checkRem 1 r.2 with
    | none => rfl
    | some r₁ =>
      simp only [Option.bind_some]
      cases inUint8 r₁.2 with
      | none => rfl
      | some r₂ =>
        obtain ⟨opcode, s₂⟩ := r₂
        simp only [Option.bind_some]
        by_cases hjoin : opcode / 4 = MCS_CJRQ
        · have hdpum : opcode / 4 ≠ MCS_DPUM := by
            rw [hjoin]
            decide
          have hsdrq : opcode / 4 ≠ MCS_SDRQ := by
            rw [hjoin]
            decide
          rw [if_neg hdpum, if_pos hjoin, if_pos hjoin, if_neg hsdrq]
          simp only [In.bind_apply]
          cases checkRem 4 s₂ <;> rfl
        · rw [if_neg hjoin, if_neg hjoin]
          by_cases hsdrq : opcode / 4 = MCS_SDRQ
          · have hdpum : opcode / 4 ≠ MCS_DPUM := by
              rw [hsdrq]
              decide
            rw [if_neg hdpum, if_neg (not_not.2 hsdrq), if_pos hsdrq]
            rfl
          · rw [if_pos hsdrq, if_neg hsdrq, ite_self]
            rfl

/-- `xrdp_rdp_recv`, behind `xrdp_sec_recv`. -/
def xrdpRdpRecvBehind (env : Env) : SecRecv → In Int
  | .demandActive => do
    modify fun s => { s with nextPacket := none }
    pure (-1)
  | .channel chan =>
    if chan ≠ MCS_GLOBAL_CHANNEL ∧ chan > 0 then do
      inUint8s (if chan > MCS_GLOBAL_CHANNEL then env.channelBytes else 0)
      modify fun s => { s with nextPacket := none }
      pure 0
    else do
      modify fun s => { s with nextPacket := some s.p }
      shareControl

/-- A packet of the transport, behind `xrdp_mcs_recv`. -/
def packetBehind (env : Env) (chan : Nat) : In Int :=
  xrdpSecRecvBehind env chan >>= xrdpRdpRecvBehind env

theorem Apart.packetBehind (env : Env) (chan : Nat) : Apart (packetBehind env chan) := by
  refine .seq (.xrdpSecRecvBehind env chan) fun r => ?_
  cases r with
  | demandActive => exact .seq (.modify fun s w => rfl) fun _ => .pure
  | channel chan =>
    unfold xrdpRdpRecvBehind
    dsimp only
    split
    · exact .seq apartClosed.inUint8s fun _ => .seq (.modify fun s w => rfl) fun _ => .pure
    · exact .seq (.modify fun s w => rfl) fun _ => .shareControl

section

variable {env : Env} {s : Session}

theorem xrdpRdpRecv_packet (hnone : s.inPacket = none) (h3 : s.byte 0 = 3) :
    xrdpRdpRecv env s = (xrdpMcsRecv s).bind fun r => packetBehind env r.1 r.2 := by
  unfold xrdpRdpRecv
  rw [In.bind_apply, get_apply, Option.bind_some]
  simp only [hnone, h3, ne_eq, not_true_eq_false, if_false]
  change ((xrdpMcsRecv s).bind fun r => xrdpSecRecvBehind env r.1 r.2).bind _ = _
  rw [Option.bind_assoc]
  cases xrdpMcsRecv s with
  | none => rfl
  | some r =>
    simp only [Option.bind_some, packetBehind, In.bind_apply]
    cases xrdpSecRecvBehind env r.1 r.2 with
    | none => rfl
    | some r' =>
      obtain ⟨r', s'⟩ := r'
      cases r' <;> rfl

theorem xrdpRdpRecv_fastpath (hnone : s.inPacket = none) (h3 : s.byte 0 ≠ 3) :
    xrdpRdpRecv env s = (xrdpSecRecvFastpath env >>= fun _ => pure 2) s := by
  unfold xrdpRdpRecv
  rw [In.bind_apply, get_apply, Option.bind_some]
  simp only [hnone, h3, ne_eq, not_false_eq_true, if_true]

theorem xrdpRdpRecv_inPacket {np : Nat} (hsome : s.inPacket = some np) :
    xrdpRdpRecv env s = ((modify fun s => { s with p := np }) >>= fun _ => shareControl) s := by
  unfold xrdpRdpRecv
  rw [In.bind_apply, get_apply, Option.bind_some]
  simp only [hsome]

theorem joins_withWire (w : List UInt8) : (s.withWire w).Joins ↔ s.Joins := by
  unfold Session.Joins
  rw [withWire_inPacket, withWire_byte, Apart.joinRequest s w, ne_eq, Option.map_eq_none_iff]

/-- **A round that does not start at a join request** does the same whatever is on the wire. -/
theorem xrdpRdpRecv_apart (h : ¬ s.Joins) (w : List UInt8) :
    xrdpRdpRecv env (s.withWire w) = (xrdpRdpRecv env s).map (rewire w) := by
  cases hin : s.inPacket with
  | some np =>
    have hin' : (s.withWire w).inPacket = some np := hin
    rw [xrdpRdpRecv_inPacket hin, xrdpRdpRecv_inPacket hin']
    exact Apart.seq (.modify fun s w => rfl) (fun _ => .shareControl) s w
  | none =>
    have hin' : (s.withWire w).inPacket = none := hin
    by_cases h3 : s.byte 0 = 3
    · have h3' : (s.withWire w).byte 0 = 3 := h3
      have hnone : joinRequest s = none := by
        by_contra hsome
        exact h ⟨hin, h3, hsome⟩
      have hnone' : joinRequest (s.withWire w) = none := by
        rw [Apart.joinRequest s w, hnone]
        rfl
      have hhere : xrdpMcsRecv s = xrdpMcsRecvHere s := by
        rw [xrdpMcsRecv, xrdpMcsRecvLoop_succ, hnone]
      have hhere' : xrdpMcsRecv (s.withWire w) = xrdpMcsRecvHere (s.withWire w) := by
        rw [xrdpMcsRecv, xrdpMcsRecvLoop_succ, hnone']
      rw [xrdpRdpRecv_packet hin h3, xrdpRdpRecv_packet hin' h3', hhere, hhere']
      exact Apart.seq .xrdpMcsRecvHere (.packetBehind env) s w
    · have h3' : (s.withWire w).byte 0 ≠ 3 := h3
      rw [xrdpRdpRecv_fastpath hin h3, xrdpRdpRecv_fastpath hin' h3']
      exact Apart.seq (.xrdpSecRecvFastpath env) (fun _ => .pure) s w

theorem xrdpRdpRecvLeft_apart (h : ¬ s.Joins) : xrdpRdpRecvLeft s = s.wire := by
  unfold xrdpRdpRecvLeft
  split
  · rename_i hhere
    have hnone : joinRequest s = none := by
      by_contra hsome
      exact h ⟨hhere.1, hhere.2, hsome⟩
    rw [xrdpMcsRecvLeft, hnone]
  · rfl

end

/-! ## Packets without a channel join request -/

section

variable {env : Env} {envs : Nat → Env} {s s' : Session} {fuel : Nat}

theorem iteration_eq_some (h : iteration env s = some s') : env.isTerm = false ∧
    ∃ code s₁ a s₂, xrdpRdpRecv env s = some (code, s₁) ∧ dispatch env code s₁ = some (a, s₂) ∧
      nextRound s₂ = some s' := by
  unfold iteration at h
  split at h
  · cases h
  · rename_i hterm
    obtain ⟨r, hrecv, hrest⟩ := Option.bind_eq_some_iff.1 h
    obtain ⟨r', hdispatch, hnext⟩ := Option.bind_eq_some_iff.1 hrest
    exact ⟨Bool.eq_false_iff.2 hterm, r.1, r.2, r'.1, r'.2, hrecv, hdispatch, hnext⟩

theorem iteration_apart (h : ¬ s.Joins) (w : List UInt8) :
    iteration env (s.withWire w) = (iteration env s).map (·.withWire w) := by
  unfold iteration
  split
  · rfl
  rw [xrdpRdpRecv_apart h]
  cases xrdpRdpRecv env s with
  | none => rfl
  | some r =>
    change (dispatch env r.1 (r.2.withWire w)).bind _ = ((dispatch env r.1 r.2).bind _).map _
    rw [Apart.dispatch env r.1 r.2 w]
    cases dispatch env r.1 r.2 with
    | none => rfl
    | some r' => exact nextRound_withWire r'.2 w

/-- The first round, and those behind it. -/
theorem rounds_succ (envs : Nat → Env) (s : Session) (k : Nat) :
    rounds envs s (k + 1) =
      (iteration (envs 0) s).bind fun s' => rounds (fun k => envs (k + 1)) s' k := by
  induction k with
  | zero =>
    change iteration (envs 0) s = _
    cases iteration (envs 0) s <;> rfl
  | succ k ih =>
    rw [rounds, ih, Option.bind_assoc]
    rfl

theorem ReadsOn.succ (hstep : iteration (envs 0) s = some s')
    (h : ReadsOn fuel (fun k => envs (k + 1)) s') : ReadsOn (fuel + 1) envs s := by
  obtain ⟨k, hk, s'', hrounds, hjoins⟩ := h
  refine ⟨k + 1, Nat.succ_lt_succ hk, s'', ?_, hjoins⟩
  rw [rounds_succ, hstep]
  exact hrounds

theorem processData_step (h : iteration (envs 0) s = some s') :
    libxrdpProcessData (fuel + 1) envs s = libxrdpProcessData fuel (fun k => envs (k + 1)) s' := by
  obtain ⟨hterm, code, s₁, a, s₂, hrecv, hdispatch, hnext⟩ := iteration_eq_some h
  rw [libxrdpProcessData, if_neg (Bool.eq_false_iff.1 hterm), hrecv]
  dsimp only
  rw [hdispatch]
  dsimp only
  rw [hnext]

/-- **A packet without a channel join request** is processed as if there were nothing on the wire,
and leaves all of it there. -/
theorem processData_apart (h : ¬ ReadsOn fuel envs s) (w : List UInt8) :
    libxrdpProcessData fuel envs (s.withWire w) = ((libxrdpProcessData fuel envs s).1, w) := by
  induction fuel generalizing envs s with
  | zero => rfl
  | succ fuel ih =>
    rw [libxrdpProcessData, libxrdpProcessData]
    by_cases hterm : (envs 0).isTerm = true
    · rw [if_pos hterm, if_pos hterm]
      rfl
    have hjoins : ¬ s.Joins := fun hj =>
      h ⟨0, Nat.succ_pos fuel, s, rfl, Bool.eq_false_iff.2 hterm, hj⟩
    rw [if_neg hterm, if_neg hterm, xrdpRdpRecv_apart hjoins]
    cases hrecv : xrdpRdpRecv (envs 0) s with
    | none =>
      dsimp only [Option.map_none]
      rw [xrdpRdpRecvLeft_apart (mt (joins_withWire w).1 hjoins), withWire_wire]
    | some r =>
      obtain ⟨code, s₁⟩ := r
      dsimp only [Option.map_some, rewire]
      rw [Apart.dispatch (envs 0) code s₁ w]
      cases hdispatch : dispatch (envs 0) code s₁ with
      | none => rfl
      | some r' =>
        obtain ⟨a, s₂⟩ := r'
        dsimp only [Option.map_some, rewire]
        rw [nextRound_withWire]
        cases hnext : nextRound s₂ with
        | none => rfl
        | some s' =>
          have hstep : iteration (envs 0) s = some s' := by
            rw [iteration, if_neg hterm, hrecv]
            change (dispatch (envs 0) code s₁).bind _ = _
            rw [hdispatch]
            exact hnext
          exact ih fun hr => h (hr.succ hstep)

end

/-! ## Packets with one -/

theorem forceReadLeft_le (wire : List UInt8) : (forceReadLeft wire).length ≤ wire.length := by
  unfold forceReadLeft
  dsimp only
  split
  · exact Nat.zero_le _
  split
  · rw [List.length_drop]
    exact Nat.sub_le _ _
  · rw [List.length_drop]
    exact Nat.sub_le _ _

theorem forceRead_left {s s' : Session} {a : Unit} (h : libxrdpForceRead s = some (a, s')) :
    s'.wire = forceReadLeft s.wire := by
  unfold libxrdpForceRead at h
  unfold forceReadLeft
  dsimp only at h ⊢
  split at h
  · cases h
  rename_i hlong
  rw [if_neg hlong]
  split at h
  · cases h
  rename_i hbytes
  rw [if_neg hbytes]
  split at h
  · cases h
  · cases h
    rfl

section

variable {env : Env} {envs : Nat → Env} {s s' : Session} {fuel : Nat}

/-- The loop of `xrdp_mcs_recv` takes a packet for each channel join request. -/
theorem mcsRecvLoop_wire {chan : Nat} (h : xrdpMcsRecvLoop fuel s = some (chan, s')) :
    s'.wire.length ≤ s.wire.length ∧
      (joinRequest s ≠ none → s'.wire.length ≤ (forceReadLeft s.wire).length) := by
  induction fuel generalizing s with
  | zero => cases h
  | succ fuel ih =>
    rw [xrdpMcsRecvLoop_succ] at h
    cases hjoin : joinRequest s with
    | none =>
      rw [hjoin] at h
      exact ⟨(congrArg List.length (Apart.xrdpMcsRecvHere.wire h)).le, fun hne => absurd rfl hne⟩
    | some r =>
      obtain ⟨a, s₁⟩ := r
      rw [hjoin] at h
      obtain ⟨r, hforce, hloop⟩ := Option.bind_eq_some_iff.1 h
      have hleft := (ih hloop).1
      rw [forceRead_left hforce, Apart.joinRequest.wire hjoin] at hleft
      exact ⟨hleft.trans (forceReadLeft_le s.wire), fun _ => hleft⟩

theorem mcsRecvLeft_le (fuel : Nat) (s : Session) :
    (xrdpMcsRecvLeft fuel s).length ≤ s.wire.length ∧
      (fuel ≠ 0 → joinRequest s ≠ none →
        (xrdpMcsRecvLeft fuel s).length ≤ (forceReadLeft s.wire).length) := by
  induction fuel generalizing s with
  | zero => exact ⟨le_rfl, fun h => absurd rfl h⟩
  | succ fuel ih =>
    rw [xrdpMcsRecvLeft]
    cases hjoin : joinRequest s with
    | none => exact ⟨le_rfl, fun _ hne => absurd rfl hne⟩
    | some r =>
      obtain ⟨a, s₁⟩ := r
      have hwire := Apart.joinRequest.wire hjoin
      dsimp only
      cases hforce : libxrdpForceRead s₁ with
      | none =>
        dsimp only
        rw [hwire]
        exact ⟨forceReadLeft_le s.wire, fun _ _ => le_rfl⟩
      | some r =>
        have hleft := (ih r.2).1
        rw [forceRead_left hforce, hwire] at hleft
        exact ⟨hleft.trans (forceReadLeft_le s.wire), fun _ _ => hleft⟩

theorem rdpRecvLeft_le (s : Session) : (xrdpRdpRecvLeft s).length ≤ s.wire.length ∧
    (s.Joins → (xrdpRdpRecvLeft s).length ≤ (forceReadLeft s.wire).length) := by
  obtain ⟨hle, hjoin⟩ := mcsRecvLeft_le (s.wire.length + 1) s
  unfold xrdpRdpRecvLeft
  split
  · exact ⟨hle, fun h => hjoin (Nat.succ_ne_zero _) h.2.2⟩
  · rename_i hnot
    exact ⟨le_rfl, fun h => absurd ⟨h.1, h.2.1⟩ hnot⟩

theorem rdpRecv_wire {code : Int} (h : xrdpRdpRecv env s = some (code, s')) :
    s'.wire.length ≤ s.wire.length ∧
      (s.Joins → s'.wire.length ≤ (forceReadLeft s.wire).length) := by
  by_cases hjoins : s.Joins
  · rw [xrdpRdpRecv_packet hjoins.1 hjoins.2.1] at h
    obtain ⟨r, hmcs, hbehind⟩ := Option.bind_eq_some_iff.1 h
    have hwire := (Apart.packetBehind env r.1).wire hbehind
    obtain ⟨hle, hleft⟩ := mcsRecvLoop_wire hmcs
    rw [hwire]
    exact ⟨hle, fun _ => hleft hjoins.2.2⟩
  · have hwire := rewire_wire (@xrdpRdpRecv_apart env s hjoins s.wire) h
    exact ⟨(congrArg List.length hwire).le, fun hj => absurd hj hjoins⟩

/-- What is left on the wire is not more than was there, and at a channel join request not more
than `libxrdp_force_read` leaves. -/
theorem processData_le (fuel : Nat) (envs : Nat → Env) (s : Session) :
    (libxrdpProcessData fuel envs s).2.length ≤ s.wire.length ∧
      (fuel ≠ 0 → (envs 0).isTerm = false → s.Joins →
        (libxrdpProcessData fuel envs s).2.length ≤ (forceReadLeft s.wire).length) := by
  induction fuel generalizing envs s with
  | zero => exact ⟨le_rfl, fun h => absurd rfl h⟩
  | succ fuel ih =>
    rw [libxrdpProcessData]
    by_cases hterm : (envs 0).isTerm = true
    · rw [if_pos hterm]
      refine ⟨le_rfl, fun _ hfalse => ?_⟩
      rw [hterm] at hfalse
      cases hfalse
    rw [if_neg hterm]
    cases hrecv : xrdpRdpRecv (envs 0) s with
    | none =>
      obtain ⟨hle, hjoins⟩ := rdpRecvLeft_le s
      exact ⟨hle, fun _ _ => hjoins⟩
    | some r =>
      obtain ⟨code, s₁⟩ := r
      obtain ⟨hle, hjoins⟩ := rdpRecv_wire hrecv
      dsimp only
      cases hdispatch : dispatch (envs 0) code s₁ with
      | none => exact ⟨hle, fun _ _ => hjoins⟩
      | some r' =>
        obtain ⟨a, s₂⟩ := r'
        have hwire := (Apart.dispatch (envs 0) code).wire hdispatch
        dsimp only
        cases hnext : nextRound s₂ with
        | none =>
          dsimp only
          rw [hwire]
          exact ⟨hle, fun _ _ => hjoins⟩
        | some s' =>
          have hrest := (ih (fun k => envs (k + 1)) s').1
          rw [(nextRound_spec hnext).1, hwire] at hrest
          exact ⟨hrest.trans hle, fun _ _ h => hrest.trans (hjoins h)⟩

/-- **A packet with a channel join request**: at least one packet is read of the wire. -/
theorem processData_joins (h : ReadsOn fuel envs s) (w : List UInt8) :
    (libxrdpProcessData fuel envs (s.withWire w)).2.length ≤ (forceReadLeft w).length := by
  induction fuel generalizing envs s with
  | zero =>
    obtain ⟨k, hk, -⟩ := h
    exact absurd hk (Nat.not_lt_zero k)
  | succ fuel ih =>
    by_cases hjoins : s.Joins ∧ (envs 0).isTerm = false
    · exact (processData_le (fuel + 1) envs (s.withWire w)).2 (Nat.succ_ne_zero fuel) hjoins.2
        ((joins_withWire w).2 hjoins.1)
    obtain ⟨k, hk, s'', hrounds, hterm, hj⟩ := h
    cases k with
    | zero =>
      cases hrounds
      exact absurd ⟨hj, hterm⟩ hjoins
    | succ k =>
      rw [rounds_succ] at hrounds
      obtain ⟨s', hstep, hrest⟩ := Option.bind_eq_some_iff.1 hrounds
      have hnot : ¬ s.Joins := fun hs => hjoins ⟨hs, (iteration_eq_some hstep).1⟩
      have hstep' : iteration (envs 0) (s.withWire w) = some (s'.withWire w) := by
        rw [iteration_apart hnot, hstep]
        rfl
      rw [processData_step hstep']
      exact ih ⟨k, Nat.lt_of_succ_lt_succ hk, s'', hrest, hterm, hj⟩

end

end Xrdp.Recv
