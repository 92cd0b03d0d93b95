import Xrdp.Mirror.PacketInfo
import Xrdp.Lib.Runs

/-!
# The mirror record in the main loop

The loop of `xrdp_process_main_loop` with what it calls of `xrdp/xrdp_wm.c` and
`xrdp/myxrdp_devel.c`, as far as the record `my_trans_info` of the window manager is concerned.

* `Process.turn` — a turn of the loop.
* `turn_keeps_record` — once there is a record, it stays, and no turn needs one in vain.
* `main_loop_iff` — the runs in which no turn needs a record that is not there.
-/

namespace Xrdp.Mirror

/-- `enum WORK_MODE`. -/
inductive WorkMode where
  | DIRECT_MENU
  | PROTOCOL_AGENT
  deriving DecidableEq

/-- `struct xrdp_wm`. -/
structure Wm where
  loginMode : Nat
  /-- `login_mode_event`. -/
  loginModeEvent : Bool
  workMode : WorkMode
  /-- The `session_type` of the record, if there is one. -/
  myTransInfo : Option SessionType
  deriving DecidableEq

/-- How the main loop ends. -/
inductive Exit where
  | term
  | selfTerm
  | wm
  | sessionId
  | serverTrans
  | fifo
  /-- `myxrdp_read_fifo_data` does not find a record. -/
  | noRecord
  /-- A pointer to a record is followed that is null. -/
  | nullPointer
  deriving DecidableEq

/-! ## The window manager -/

/-- `xrdp_wm_set_login_mode`. -/
def Wm.setLoginMode (self : Wm) (loginMode : Nat) : Wm :=
  { self with loginMode, loginModeEvent := true }

/-- The login modes that the module manager or a window sets. -/
def Wm.setLoginModes (self : Wm) (modes : List Nat) : Wm := modes.foldl Wm.setLoginMode self

/-- `xrdp_wm_create`. -/
def Wm.create : Wm := Wm.setLoginMode ⟨0, false, .DIRECT_MENU, none⟩ 0

/-- How an attempt to connect goes. -/
structure ConnAnswer where
  /-- There is a session, and it has an id. -/
  sessionId : Bool
  /-- `myxrdp_get_session_type`. -/
  sessionType : SessionType
  /-- FIFOs, arguments, the query for the connection and the preparations succeed. -/
  prepared : Bool
  /-- The login modes that `xrdp_mm_connect` sets. -/
  modes : List Nat
  /-- `xrdp_mm_connect` succeeds. -/
  connected : Bool

/-- `myxrdp_conn_manager`. -/
def myxrdpConnManager (self : Wm) (a : ConnAnswer) : Int × Wm :=
  if a.sessionId = false then (1, self)
  else
    -- the record is created if it is not there, and gets its type
    let self := { self with myTransInfo := some a.sessionType }
    match a.sessionType with
    | .MASTER =>
      if a.prepared = false then (1, self)
      else
        let self := self.setLoginModes a.modes
        if a.connected then (0, self.setLoginMode 3) else (1, self)
    | .SLAVE => if a.prepared = false then (1, self) else (0, self.setLoginMode 3)
    | _ => (1, self)

/-- How an attempt to show the menu goes. -/
structure MenuAnswer where
  /-- `directMenuPathName` is set. -/
  configured : Bool
  prepared : Bool
  modes : List Nat
  /-- `xrdp_mm_connect` succeeds and there is a `tempsid`. -/
  connected : Bool

/-- `myxrdp_direct_conn_menu`. -/
def myxrdpDirectConnMenu (self : Wm) (a : MenuAnswer) : Int × Wm :=
  if a.configured = false then (0, self)
  else if a.prepared = false then (1, self)
  else
    let self := self.setLoginModes a.modes
    if a.connected then (0, { self.setLoginMode 22 with workMode := .DIRECT_MENU }) else (1, self)

/-- What the window manager meets in a turn. -/
structure WmAnswer where
  /-- `directMenuFlag` in the configuration. -/
  directMenuFlag : Bool
  menu : MenuAnswer
  conn : ConnAnswer
  /-- The login modes that are set in `xrdp_mm_check_wait_objs`. -/
  modes : List Nat
  /-- `xrdp_mm_check_wait_objs`. -/
  mm : Int

/-- `xrdp_wm_init`. -/
def Wm.init (self : Wm) (a : WmAnswer) : Wm :=
  { self with workMode := if a.directMenuFlag then .DIRECT_MENU else .PROTOCOL_AGENT }.setLoginMode
    2

/-- `xrdp_wm_login_mode_changed`. -/
def Wm.loginModeChanged (self : Wm) (a : WmAnswer) : Int × Wm :=
  if self.loginMode = 0 then (0, (self.setLoginMode 1).init a)
  else if self.loginMode = 2 then
    match self.workMode with
    | .DIRECT_MENU => myxrdpDirectConnMenu self a.menu
    | .PROTOCOL_AGENT => myxrdpConnManager self a.conn
  else if self.loginMode = 10 then (0, self.setLoginMode 11)
  else (0, self)

/-- `xrdp_wm_check_wait_objs`. -/
def Wm.checkWaitObjs (self : Wm) (a : WmAnswer) : Int × Wm :=
  let (rv1, self) : Int × Wm := if self.loginModeEvent then
    { self with loginModeEvent := false }.loginModeChanged a else (0, self)
  let self := self.setLoginModes a.modes
  (if rv1 ≠ 0 then 1 else a.mm, self)

/-! ## The helpers for the mirror -/

/-- `myxrdp_set_wait_objs`: which of the two FIFOs is waited for. -/
def myxrdpSetWaitObjs : Option Wm → Except Exit (List Nat)
  | none => .ok []
  | some self =>
    match self.myTransInfo with
    | none => .error .nullPointer
    | some .SLAVE => .ok [0]
    | some .MASTER => .ok [1]
    | some _ => .ok []

/-- `myxrdp_read_fifo_data`, if `myxrdp_slave_read` and `myxrdp_master_read` return `rv`. -/
def myxrdpReadFifoData (rv : Int) : Option Wm → Int
  | none => 0
  | some self =>
    match self.myTransInfo with
    | none => 1
    | some .SLAVE => rv
    | some .MASTER => rv
    | some _ => 0

/-! ## The loop -/

/-- `struct xrdp_process`. -/
structure Process where
  wm : Option Wm
  deriving DecidableEq

/-- There is a window manager without a record. -/
def Process.lacksRecord (self : Process) : Bool :=
  match self.wm with
  | none => false
  | some wm => wm.myTransInfo.isNone

/-- What happens in a turn of the main loop. -/
structure LoopTurn where
  term : Bool
  selfTerm : Bool
  wm : WmAnswer
  /-- `extra_getSessionIdFromFile` succeeds. -/
  sessionIdFromFile : Bool
  /-- `xrdp_process_loop` has been called, data were processed and the session is up. -/
  up : Bool
  /-- The login modes that are set while data are processed. -/
  modes : List Nat
  /-- `trans_check_wait_objs`. -/
  serverTrans : Int
  fifo : Int

/-- What the loop does with `xrdp_wm_check_wait_objs`. -/
def Process.checkWm (self : Process) (t : LoopTurn) : Except Exit Process :=
  match self.wm with
  | none => .ok self
  | some wm =>
    let (rv, wm) := wm.checkWaitObjs t.wm
    if rv ≠ 0 then
      if wm.workMode = .DIRECT_MENU then
        let wm := { wm.setLoginMode 2 with workMode := .PROTOCOL_AGENT }
        if t.sessionIdFromFile then .ok { self with wm := some wm } else .error .sessionId
      else .error .wm
    else .ok { self with wm := some wm }

/-- `trans_check_wait_objs`, which calls `xrdp_process_loop`. -/
def Process.checkServerTrans (self : Process) (t : LoopTurn) : Except Exit Process :=
  let wm := match self.wm with
    | none => if t.up then some Wm.create else none
    | some wm => some (wm.setLoginModes t.modes)
  if t.serverTrans ≠ 0 then .error .serverTrans else .ok { self with wm }

/-- A turn of the loop in `xrdp_process_main_loop`. -/
def Process.turn (self : Process) (t : LoopTurn) : Except Exit Process := do
  let _ ← myxrdpSetWaitObjs self.wm
  if t.term then .error .term
  else if t.selfTerm then .error .selfTerm
  else do
    let self ← self.checkWm t
    let self ← self.checkServerTrans t
    if myxrdpReadFifoData t.fifo self.wm ≠ 0 then
      .error (if self.lacksRecord then .noRecord else .fifo)
    else .ok self

/-- The loop before its first turn. -/
def Process.start : Process := ⟨none⟩

def mainLoop (turns : List LoopTurn) : Except Exit Process := turns.foldlM Process.turn .start

/-- No null pointer is followed, and the loop has not been left for want of a record. -/
structure Sound (r : Except Exit Process) : Prop where
  nullPointer : r ≠ .error .nullPointer
  noRecord : r ≠ .error .noRecord

/-- The condition on a turn: if it creates the window manager, it leaves the loop in
`trans_check_wait_objs`. -/
def Process.TurnFits (self : Process) (t : LoopTurn) : Prop :=
  t.term = false → t.selfTerm = false → self.wm = none → t.up = true → t.serverTrans ≠ 0

/-- All turns meet the condition. -/
def Process.Fits : Process → List LoopTurn → Prop :=
  Runs.AllFit (fun p t p' => p.turn t = .ok p') Process.TurnFits

/-! ## With a record -/

@[simp] theorem setLoginModes_myTransInfo (self : Wm) (modes : List Nat) :
    (self.setLoginModes modes).myTransInfo = self.myTransInfo := by
  unfold Wm.setLoginModes
  induction modes generalizing self with
  | nil => rfl
  | cons mode modes ih => exact ih (self.setLoginMode mode)

@[simp] theorem setLoginMode_myTransInfo (self : Wm) (mode : Nat) :
    (self.setLoginMode mode).myTransInfo = self.myTransInfo := rfl

theorem connManager_record (self : Wm) (a : ConnAnswer) (h : self.myTransInfo ≠ none) :
    (myxrdpConnManager self a).2.myTransInfo ≠ none := by
  unfold myxrdpConnManager
  split
  · exact h
  · dsimp only
    split
    · split
      · simp
      · split
        · simp
        · simp
    · split
      · simp
      · simp
    · simp

theorem directConnMenu_record (self : Wm) (a : MenuAnswer) :
    (myxrdpDirectConnMenu self a).2.myTransInfo = self.myTransInfo := by
  unfold myxrdpDirectConnMenu
  split
  · rfl
  · split
    · rfl
    · dsimp only
      split
      · simp
      · simp

theorem loginModeChanged_record (self : Wm) (a : WmAnswer) (h : self.myTransInfo ≠ none) :
    (self.loginModeChanged a).2.myTransInfo ≠ none := by
  unfold Wm.loginModeChanged
  split
  · exact h
  · split
    · split
      · rw [directConnMenu_record]
        exact h
      · exact connManager_record self a.conn h
    · split
      · exact h
      · exact h

theorem checkWaitObjs_record (self : Wm) (a : WmAnswer) (h : self.myTransInfo ≠ none) :
    (self.checkWaitObjs a).2.myTransInfo ≠ none := by
  unfold Wm.checkWaitObjs
  dsimp only
  rw [setLoginModes_myTransInfo]
  split
  · exact loginModeChanged_record _ a h
  · exact h

/-- There is a window manager with a record. -/
def Process.HasRecord (self : Process) : Prop :=
  ∃ wm, self.wm = some wm ∧ wm.myTransInfo ≠ none

section

variable {p : Process} {t : LoopTurn}

/-- A part of a turn that is sound, and after which `P` holds. -/
def Leaves (r : Except Exit Process) (P : Process → Prop) : Prop :=
  Sound r ∧ ∀ p, r = .ok p → P p

theorem Leaves.error {e : Exit} {P : Process → Prop} (hnull : e ≠ .nullPointer)
    (hrecord : e ≠ .noRecord) : Leaves (.error e) P := by
  refine ⟨⟨?_, ?_⟩, ?_⟩
  · exact fun h => hnull (Except.error.inj h)
  · exact fun h => hrecord (Except.error.inj h)
  · exact fun p h => nomatch h

theorem Leaves.ok {P : Process → Prop} (h : P p) : Leaves (.ok p) P := by
  refine ⟨⟨?_, ?_⟩, ?_⟩
  · exact fun h => nomatch h
  · exact fun h => nomatch h
  · intro p' hp'
    cases hp'
    exact h

theorem Leaves.bind {r : Except Exit Process} {f : Process → Except Exit Process}
    {P Q : Process → Prop} (h : Leaves r P) (hf : ∀ p, P p → Leaves (f p) Q) :
    Leaves (r >>= f) Q := by
  cases r with
  | error e =>
    apply Leaves.error
    · exact fun he => h.1.nullPointer (congrArg _ he)
    · exact fun he => h.1.noRecord (congrArg _ he)
  | ok p => exact hf p (h.2 p rfl)

theorem checkWm_record (h : p.HasRecord) : Leaves (p.checkWm t) Process.HasRecord := by
  obtain ⟨wm, hwm, hrecord⟩ := h
  have hkeeps := checkWaitObjs_record wm t.wm hrecord
  unfold Process.checkWm
  rw [hwm]
  dsimp only
  split
  · split
    · split
      · exact .ok ⟨_, rfl, hkeeps⟩
      · exact .error (by decide) (by decide)
    · exact .error (by decide) (by decide)
  · exact .ok ⟨_, rfl, hkeeps⟩

theorem checkServerTrans_record (h : p.HasRecord) :
    Leaves (p.checkServerTrans t) Process.HasRecord := by
  obtain ⟨wm, hwm, hrecord⟩ := h
  unfold Process.checkServerTrans
  rw [hwm]
  dsimp only
  split
  · exact .error (by decide) (by decide)
  · refine .ok ⟨_, rfl, ?_⟩
    rwa [setLoginModes_myTransInfo]

theorem setWaitObjs_record (h : p.HasRecord) : ∃ objs, myxrdpSetWaitObjs p.wm = .ok objs := by
  obtain ⟨wm, hwm, hrecord⟩ := h
  obtain ⟨type, htype⟩ := Option.ne_none_iff_exists'.1 hrecord
  unfold myxrdpSetWaitObjs
  rw [hwm]
  dsimp only
  rw [htype]
  cases type with
  | MASTER => exact ⟨_, rfl⟩
  | SLAVE => exact ⟨_, rfl⟩
  | OTHER => exact ⟨_, rfl⟩
  | ERROR => exact ⟨_, rfl⟩

/-- **With a record**: it stays, and the turn does not end for want of one. -/
theorem turn_keeps_record (h : p.HasRecord) : Leaves (p.turn t) Process.HasRecord := by
  obtain ⟨objs, hobjs⟩ := setWaitObjs_record h
  unfold Process.turn
  rw [hobjs]
  change Leaves (if t.term = true then _ else _) _
  split
  · exact .error (by decide) (by decide)
  · split
    · exact .error (by decide) (by decide)
    · refine (checkWm_record h).bind fun p₁ h₁ => (checkServerTrans_record h₁).bind fun p₂ h₂ => ?_
      have hlacks : p₂.lacksRecord = false := by
        obtain ⟨wm, hwm, hrecord⟩ := h₂
        unfold Process.lacksRecord
        rw [hwm]
        exact Option.isNone_eq_false_iff.2 (Option.isSome_iff_ne_none.2 hrecord)
      split
      · rw [hlacks]
        exact .error (by decide) (by decide)
      · exact .ok h₂

/-! ## Without a window manager -/

/-- A turn in which there is no window manager yet. -/
theorem turn_none (hwm : p.wm = none) : p.turn t =
    if t.term then .error .term
    else if t.selfTerm then .error .selfTerm
    else if t.serverTrans ≠ 0 then .error .serverTrans
    else if t.up then .error .noRecord
    else .ok p := by
  obtain ⟨wm⟩ := p
  cases hwm
  unfold Process.turn
  change (if t.term = true then _ else _) = _
  split
  · rfl
  · split
    · rfl
    · unfold Process.checkWm Process.checkServerTrans
      dsimp only
      change ((if t.serverTrans ≠ 0 then _ else _ : Except Exit Process) >>= _) = _
      split
      · rfl
      · cases t.up with
        | true => rfl
        | false => rfl

theorem turn_none_sound (hwm : p.wm = none) : Sound (p.turn t) ↔ p.TurnFits t := by
  rw [turn_none hwm]
  unfold Process.TurnFits
  constructor
  · rintro h hterm hself - hup htrans
    apply h.noRecord
    rw [hterm, hself, hup, if_neg Bool.false_ne_true, if_neg Bool.false_ne_true,
      if_neg (not_not.2 htrans), if_pos rfl]
  · intro h
    split
    · exact (Leaves.error (P := fun _ => True) (by decide) (by decide)).1
    · split
      · exact (Leaves.error (P := fun _ => True) (by decide) (by decide)).1
      · split
        · exact (Leaves.error (P := fun _ => True) (by decide) (by decide)).1
        · rename_i hterm hself htrans
          have hup : ¬ t.up = true := fun hup =>
            htrans (h (by simpa using hterm) (by simpa using hself) hwm hup)
          rw [if_neg hup]
          exact (Leaves.ok (P := fun _ => True) trivial).1

theorem turn_none_ok (hwm : p.wm = none) {p' : Process} (h : p.turn t = .ok p') :
    p'.wm = none := by
  rw [turn_none hwm] at h
  split at h
  · cases h
  · split at h
    · cases h
    · split at h
      · cases h
      · split at h
        · cases h
        · cases h
          exact hwm

theorem run_none_sound (hwm : p.wm = none) (turns : List LoopTurn) :
    Sound (turns.foldlM Process.turn p) ↔ p.Fits turns := by
  induction turns generalizing p with
  | nil => exact iff_of_true (Leaves.ok (P := fun _ => True) trivial).1 trivial
  | cons t turns ih =>
    have hsound := turn_none_sound (t := t) hwm
    rw [List.foldlM_cons, Process.Fits, Runs.AllFit, ← hsound]
    cases hturn : p.turn t with
    | error e =>
      constructor
      · exact fun h => ⟨⟨h.nullPointer, h.noRecord⟩, fun p' hp' => by cases hp'⟩
      · exact fun h => ⟨h.1.nullPointer, h.1.noRecord⟩
    | ok p' =>
      have hok : Sound (.ok p') := (Leaves.ok (P := fun _ => True) trivial).1
      rw [and_iff_right hok]
      simp only [Except.ok.injEq, forall_eq']
      exact ih (turn_none_ok hwm hturn)

end

/-- **The mirror record in the main loop**: in a run of the main loop no null pointer is followed
and the loop is not left for want of a record just if every turn that creates the window manager
leaves the loop in `trans_check_wait_objs`: there is no record then, and `myxrdp_read_fifo_data`
takes this for a reason to stop. -/
theorem main_loop_iff (turns : List LoopTurn) :
    Sound (mainLoop turns) ↔ Process.start.Fits turns :=
  run_none_sound rfl turns

/-- A turn in which the session comes up. -/
def LoopTurn.comesUp : LoopTurn where
  term := false
  selfTerm := false
  wm := ⟨false, ⟨true, true, [], true⟩, ⟨true, .MASTER, true, [], true⟩, [], 0⟩
  sessionIdFromFile := true
  up := true
  modes := []
  serverTrans := 0
  fifo := 0

/-- **A session comes up**: the loop is left at once. -/
theorem main_loop_up :
    mainLoop [.comesUp] = .error .noRecord ∧ ¬ Sound (mainLoop [.comesUp]) :=
  ⟨by decide, fun h => h.noRecord (by decide)⟩

end Xrdp.Mirror
