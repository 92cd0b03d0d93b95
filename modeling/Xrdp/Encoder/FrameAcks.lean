import Xrdp.Encoder.EncoderAcks
import Xrdp.Lib.Runs

/-!
# Frames are acknowledged in time

What the module is told about its frames: with an encoder the frames are finished by the encoder,
and held back until the client has acknowledged enough of them; without one they are finished at
once.

* `Mm.step` — the handlers of `xrdp/xrdp_mm.c`, with or without an encoder.
* `Mm.FlowOk` — what is promised to the module.
* `frame_acks_iff` — the runs that keep to it.
-/

namespace Xrdp.Encoder

/-! ## With or without an encoder -/

/-- `struct xrdp_mm`: there may be no encoder; the module may have nothing to paint on. -/
structure Mm extends Setup where
  hasEncoder : Bool
  /-- `mod->painter` is set when the `n`-th frame is handed over. -/
  painter : Nat → Bool

/-- The `frames_in_flight` of an encoder. -/
def framesInFlight (maxUnacknowledgedFrameCount : Int32) : Int :=
  max maxUnacknowledgedFrameCount.toInt 1

/-- The id of the `i`-th frame. -/
def Mm.frameId (m : Mm) (i : Nat) : Int := (m.job i).frameId

/-- `server_paint_rects` without an encoder. -/
def Mm.paintRects (m : Mm) (w : World) : World :=
  if m.painter w.serial then
    { w with
      serial := w.serial + 1, acked := w.serial :: w.acked
      modFrameAcks := ((m.job w.serial).flags, m.frameId w.serial) :: w.modFrameAcks }
  else { w with serial := w.serial + 1 }

/-- One action; `none` after a reference to freed memory, or to an encoder that is not there. -/
def Mm.step (m : Mm) (w : World) (a : Action) : Option World :=
  if m.hasEncoder then w.step m.toSetup a
  else
    match a with
    | .paintRects => some (m.paintRects w)
    | .frameAck _ => if m.useFrameAcks = false then some w else none
    | _ => some w

/-- A run. -/
def Mm.run (m : Mm) (w : World) (as : List Action) : Option World := as.foldlM m.step w

/-! ## What is promised -/

/-- The acknowledgements so far are right. -/
structure Mm.FlowOk (m : Mm) (w : World) : Prop where
  /-- Their ids increase. -/
  rising : w.modFrameAcks.Pairwise fun a b => b.2 < a.2
  /-- They are of finished frames. -/
  finished : ∀ a ∈ w.modFrameAcks, ∃ i ∈ w.acked, a.2 ≤ m.frameId i
  client : w.frameIdClient ≤ w.frameIdServer
  /-- The module does not wait while the client has room for more. -/
  prompt : w.frameIdClient + m.framesInFlight > w.frameIdServer →
    ∀ i ∈ w.acked, m.frameId i ≤ w.frameIdServer → ∃ a ∈ w.modFrameAcks, m.frameId i ≤ a.2
  /-- Without frame acknowledgements of the client every frame is acknowledged at once. -/
  atOnce : m.useFrameAcks = false → w.modFrameAcks.map (·.2) = w.acked.map m.frameId

/-! ## When it is kept -/

/-- The sum of what the client has acknowledged and the frames in flight is an `int`, if there is
a frame that has not been acknowledged to the module. -/
def Mm.SumFits (m : Mm) (frameIdClient frameIdServer frameIdServerSent : Int) : Prop :=
  frameIdServer > frameIdServerSent → frameIdClient + m.framesInFlight < 2 ^ 31

/-- An id is larger than all that have been acknowledged. -/
def World.NewId (w : World) (frameId : Int) : Prop := ∀ a ∈ w.modFrameAcks, a.2 < frameId

/-- What the client has acknowledged after a frame acknowledgement. -/
def World.clientAfter (w : World) (frameId : Int) : Int :=
  if frameId < 0 ∨ frameId > w.frameIdServer then w.frameIdServer
  else max frameId w.frameIdClient

/-- The condition on an action, in the state before it. -/
def Mm.StepFits (m : Mm) (w : World) : Action → Prop
  | .paintRects => m.hasEncoder = false → m.painter w.serial = true →
      w.NewId (m.frameId w.serial)
  | .processDone => m.hasEncoder = true → ∀ d dones, w.fifoProcessed = d :: dones →
      d.last = true →
        if m.useFrameAcks then
          1 ≤ m.frameId d.enc ∧
            m.SumFits w.frameIdClient (m.frameId d.enc) w.frameIdServerSent
        else w.NewId (m.frameId d.enc)
  | .frameAck frameId => m.useFrameAcks = true →
      m.hasEncoder = true ∧ m.SumFits (w.clientAfter frameId) w.frameIdServer w.frameIdServerSent
  | _ => True

/-- All actions of a run meet the condition. -/
def Mm.Fits (m : Mm) : World → List Action → Prop :=
  Runs.AllFit (fun w a w' => m.step w a = some w') m.StepFits

/-! ## The order of frames -/

section

variable {s : Setup}

/-- The results are about one job after the other. -/
theorem allDones_le (s : Setup) (taken : Nat) :
    (s.allDones taken).Pairwise fun d e => d.enc ≤ e.enc := by
  rw [Setup.allDones, List.pairwise_flatMap]
  constructor
  · intro i _
    have henc := (processEnc_shaped s.codec (s.env i) i (s.job i)).1
    refine List.Pairwise.imp_of_mem (fun {d e} hd he _ => ?_)
      (processEnc_shaped s.codec (s.env i) i (s.job i)).2
    rw [henc d hd, henc e he]
  · refine List.Pairwise.imp_of_mem (fun {i j} _ _ hij d hd e he => ?_) List.pairwise_lt_range
    have hdi := (processEnc_shaped s.codec (s.env i) i (s.job i)).1 d hd
    have hej := (processEnc_shaped s.codec (s.env j) j (s.job j)).1 e he
    omega

/-- Frames are finished in the order of their jobs. -/
theorem acked_sorted {taken : Nat} {gone : List EncDone} {w : World} (h : w.Inv s taken gone) :
    w.acked.Pairwise fun i j => j < i := by
  have hpair := (allDones_le s taken).and (allDones_pairwise s taken)
  rw [← h.results, List.pairwise_append] at hpair
  rw [← List.pairwise_reverse, h.acked, List.pairwise_map, List.pairwise_filter]
  refine hpair.1.imp fun hde hd _ => ?_
  have := hde.2 hd
  omega

end

/-! ## Frames that are acknowledged at once -/

section

variable {m : Mm} {w : World}

/-- Every frame so far has been acknowledged when it was finished. -/
structure Mm.Plain (m : Mm) (w : World) : Prop where
  acks : w.modFrameAcks = w.acked.map fun i => ((m.job i).flags, m.frameId i)
  client : w.frameIdClient ≤ w.frameIdServer

/-- Then the acknowledgements are right just if their ids increase. -/
theorem Mm.Plain.flowOk_iff (h : m.Plain w) :
    m.FlowOk w ↔ w.modFrameAcks.Pairwise fun a b => b.2 < a.2 := by
  refine ⟨fun hok => hok.rising, fun hrising => ⟨hrising, ?_, h.client, ?_, fun _ => ?_⟩⟩
  · rw [h.acks]
    intro a ha
    obtain ⟨i, hi, rfl⟩ := List.mem_map.1 ha
    exact ⟨i, hi, Int.le_refl _⟩
  · intro _ i hi _
    rw [h.acks]
    exact ⟨_, List.mem_map.2 ⟨i, hi, rfl⟩, Int.le_refl _⟩
  · rw [h.acks, List.map_map]
    rfl

/-- Another frame is finished. -/
theorem Mm.Plain.next {w' : World} {i : Nat} (hok : m.FlowOk w) (h' : m.Plain w')
    (hacks : w'.modFrameAcks = ((m.job i).flags, m.frameId i) :: w.modFrameAcks) :
    m.FlowOk w' ↔ w.NewId (m.frameId i) := by
  rw [h'.flowOk_iff, hacks, List.pairwise_cons, and_iff_left hok.rising]
  rfl

end

/-! ## Frames that wait for the client -/

section

variable {m : Mm} {w : World}

/-- The counters while the client acknowledges frames. -/
structure Mm.Counted (m : Mm) (w : World) : Prop where
  positive : ∀ i ∈ w.acked, 1 ≤ m.frameId i
  server : (w.acked = [] ∧ w.frameIdServer = 0) ∨
    ∃ i acked, w.acked = i :: acked ∧ w.frameIdServer = m.frameId i
  newest : ∀ i ∈ w.acked, m.frameId i ≤ w.frameIdServer
  client : 0 ≤ w.frameIdClient ∧ w.frameIdClient ≤ w.frameIdServer
  sent : (w.modFrameAcks = [] ∧ w.frameIdServerSent = 0) ∨
    ∃ a ∈ w.modFrameAcks, a.2 = w.frameIdServerSent
  sentLe : 0 ≤ w.frameIdServerSent ∧ w.frameIdServerSent ≤ w.frameIdServer
  acks : ∀ a ∈ w.modFrameAcks, 1 ≤ a.2 ∧ a.2 ≤ w.frameIdServerSent
  rising : w.modFrameAcks.Pairwise fun a b => b.2 < a.2

theorem Mm.Counted.finished (h : m.Counted w) :
    ∀ a ∈ w.modFrameAcks, ∃ i ∈ w.acked, a.2 ≤ m.frameId i := by
  intro a ha
  have hle := Int.le_trans (h.acks a ha).2 h.sentLe.2
  rcases h.server with ⟨-, hzero⟩ | ⟨i, acked, hacked, hserver⟩
  · have := (h.acks a ha).1
    omega
  · refine ⟨i, ?_, ?_⟩
    · rw [hacked]
      exact List.mem_cons_self
    · rwa [← hserver]

/-- `xrdp_mm_update_module_frame_ack` keeps the counters in order. -/
theorem Mm.Counted.update (h : m.Counted w) : m.Counted (w.updateModuleFrameAck m.toSetup) := by
  unfold World.updateModuleFrameAck
  split
  · rename_i hcond
    have hsent := h.sentLe.1
    refine ⟨h.positive, h.server, h.newest, h.client, .inr ⟨_, List.mem_cons_self, rfl⟩,
      ⟨?_, Int.le_refl _⟩, ?_, ?_⟩
    · dsimp only
      omega
    · intro a ha
      rcases List.mem_cons.1 ha with rfl | ha
      · dsimp only
        omega
      · have := h.acks a ha
        dsimp only
        omega
    · refine List.pairwise_cons.2 ⟨fun a ha => ?_, h.rising⟩
      have := h.acks a ha
      dsimp only
      omega
  · exact h

theorem int_of_lt {v : Int} (h0 : 0 ≤ v) (h : v < 2 ^ 31) : int v = v := by
  unfold int
  exact Int.bmod_eq_of_le (by omega) (by omega)

theorem int_of_ge {v : Int} (h0 : 2 ^ 31 ≤ v) (h : v < 2 ^ 32) : int v < 0 := by
  unfold int
  rw [Int.bmod_def, Int.emod_eq_of_lt (by omega) (by simpa using h)]
  split
  · omega
  · omega

/-- **After `xrdp_mm_update_module_frame_ack`** the acknowledgements are right just if the sum in
it has been an `int`. -/
theorem Mm.Counted.update_flowOk (h : m.Counted w) (hacks : m.useFrameAcks = true)
    (hfif : 1 ≤ m.framesInFlight ∧ m.framesInFlight < 2 ^ 31) (hserver : w.frameIdServer < 2 ^ 31) :
    m.FlowOk (w.updateModuleFrameAck m.toSetup) ↔
      m.SumFits w.frameIdClient w.frameIdServer w.frameIdServerSent := by
  have hcounted := h.update
  have hok : m.FlowOk (w.updateModuleFrameAck m.toSetup) ↔
      (w.frameIdClient + m.framesInFlight > w.frameIdServer → ∀ i ∈ w.acked,
        m.frameId i ≤ w.frameIdServer →
          ∃ a ∈ (w.updateModuleFrameAck m.toSetup).modFrameAcks, m.frameId i ≤ a.2) := by
    have hsame : (w.updateModuleFrameAck m.toSetup).frameIdClient = w.frameIdClient ∧
        (w.updateModuleFrameAck m.toSetup).frameIdServer = w.frameIdServer ∧
        (w.updateModuleFrameAck m.toSetup).acked = w.acked := by
      unfold World.updateModuleFrameAck
      split
      · exact ⟨rfl, rfl, rfl⟩
      · exact ⟨rfl, rfl, rfl⟩
    constructor
    · intro hok
      have hprompt := hok.prompt
      rwa [hsame.1, hsame.2.1, hsame.2.2] at hprompt
    · intro hprompt
      refine ⟨hcounted.rising, hcounted.finished, hcounted.client.2, ?_, fun hno => ?_⟩
      · rwa [hsame.1, hsame.2.1, hsame.2.2]
      · rw [hacks] at hno
        cases hno
  rw [hok]
  have hclient := h.client
  unfold Mm.SumFits World.updateModuleFrameAck
  by_cases hnew : w.frameIdServer > w.frameIdServerSent
  · rw [forall_prop_of_true hnew]
    by_cases hsum : w.frameIdClient + m.framesInFlight < 2 ^ 31
    · refine iff_of_true (fun hroom i _ hi => ?_) hsum
      rw [int_of_lt (by omega) hsum, if_pos ⟨hroom, hnew⟩]
      exact ⟨_, List.mem_cons_self, hi⟩
    · refine iff_of_false (fun hprompt => ?_) hsum
      -- the sum is negative, so the newest frame is held back
      have hneg := int_of_ge (Int.not_lt.1 hsum) (by omega)
      have hsent := h.sentLe.1
      rw [if_neg (by omega)] at hprompt
      rcases h.server with ⟨-, hzero⟩ | ⟨i, acked, hacked, hid⟩
      · omega
      · obtain ⟨a, ha, hle⟩ := hprompt (by omega) i (by rw [hacked]; exact List.mem_cons_self)
          hid.ge
        have := (h.acks a ha).2
        omega
  · rw [if_neg (by omega)]
    refine iff_of_true (fun _ i hi hle => ?_) fun h => absurd h hnew
    have hpos := h.positive i hi
    rcases h.sent with ⟨-, hzero⟩ | ⟨a, ha, hsent⟩
    · omega
    · exact ⟨a, ha, by omega⟩

/-- Another frame is finished, and waits for the client. -/
def World.finish (w : World) (s : Setup) (i : Nat) : World :=
  { w with acked := i :: w.acked, frameIdServer := (s.job i).frameId }

theorem Mm.Counted.server_le (h : m.Counted w) {i : Nat} (hpos : 0 ≤ m.frameId i)
    (hnewest : ∀ j ∈ w.acked, m.frameId j ≤ m.frameId i) : w.frameIdServer ≤ m.frameId i := by
  rcases h.server with ⟨-, hzero⟩ | ⟨j, acked, hacked, hid⟩
  · omega
  · rw [hid]
    exact hnewest j (by rw [hacked]; exact List.mem_cons_self)

theorem Mm.Counted.finish (h : m.Counted w) {i : Nat} (hpos : 1 ≤ m.frameId i)
    (hnewest : ∀ j ∈ w.acked, m.frameId j ≤ m.frameId i) :
    m.Counted (w.finish m.toSetup i) := by
  have hserver := h.server_le (by omega) hnewest
  refine ⟨?_, .inr ⟨i, w.acked, rfl, rfl⟩, ?_, ⟨h.client.1, Int.le_trans h.client.2 hserver⟩,
    h.sent, ⟨h.sentLe.1, Int.le_trans h.sentLe.2 hserver⟩, h.acks, h.rising⟩
  · intro j hj
    rcases List.mem_cons.1 hj with rfl | hj
    · exact hpos
    · exact h.positive j hj
  · intro j hj
    rcases List.mem_cons.1 hj with rfl | hj
    · exact Int.le_refl _
    · exact hnewest j hj

/-- A frame whose id is not positive: it is the first one, and it is not acknowledged. -/
theorem Mm.Counted.finish_bad (h : m.Counted w) {i : Nat} (hpos : m.frameId i < 1)
    (hnewest : ∀ j ∈ w.acked, m.frameId j ≤ m.frameId i) (hfif : 1 ≤ m.framesInFlight) :
    ¬ m.FlowOk ((w.finish m.toSetup i).updateModuleFrameAck m.toSetup) := by
  have hfirst : w.acked = [] := by
    refine List.eq_nil_iff_forall_not_mem.2 fun j hj => ?_
    have := hnewest j hj
    have := h.positive j hj
    omega
  have hserver : w.frameIdServer = 0 := by
    rcases h.server with ⟨-, hzero⟩ | ⟨j, acked, hacked, -⟩
    · exact hzero
    · rw [hfirst] at hacked
      cases hacked
  have hsent := h.sentLe
  have hclient := h.client
  have hnone : w.modFrameAcks = [] := by
    refine List.eq_nil_iff_forall_not_mem.2 fun a ha => ?_
    have := h.acks a ha
    omega
  have hid : (w.finish m.toSetup i).frameIdServer = m.frameId i := rfl
  have hidle : (w.finish m.toSetup i).frameIdServerSent = w.frameIdServerSent := rfl
  unfold World.updateModuleFrameAck
  rw [if_neg (by omega)]
  intro hok
  have hle := hok.client
  have hprompt := hok.prompt
  rw [hid] at hle hprompt
  have hcl : (w.finish m.toSetup i).frameIdClient = w.frameIdClient := rfl
  rw [hcl] at hle hprompt
  obtain ⟨a, ha, -⟩ := hprompt (by omega) i List.mem_cons_self (Int.le_refl _)
  have hacks : (w.finish m.toSetup i).modFrameAcks = w.modFrameAcks := rfl
  rw [hacks, hnone] at ha
  cases ha

/-- **A frame is finished** while the client acknowledges frames. -/
theorem Mm.Counted.finish_flowOk (h : m.Counted w) {i : Nat} (hacks : m.useFrameAcks = true)
    (hfif : 1 ≤ m.framesInFlight ∧ m.framesInFlight < 2 ^ 31) (hmax : m.frameId i < 2 ^ 31)
    (hnewest : ∀ j ∈ w.acked, m.frameId j ≤ m.frameId i) :
    m.FlowOk ((w.finish m.toSetup i).updateModuleFrameAck m.toSetup) ↔
      1 ≤ m.frameId i ∧ m.SumFits w.frameIdClient (m.frameId i) w.frameIdServerSent := by
  by_cases hpos : 1 ≤ m.frameId i
  · rw [and_iff_right hpos]
    exact (h.finish hpos hnewest).update_flowOk hacks hfif hmax
  · refine iff_of_false (h.finish_bad (by omega) hnewest hfif.1) fun hfits => hpos hfits.1

/-- The client acknowledges a frame. -/
theorem Mm.Counted.frameAck (h : m.Counted w) (frameId : Int) :
    m.Counted { w with frameIdClient := w.clientAfter frameId } := by
  refine ⟨h.positive, h.server, h.newest, ?_, h.sent, h.sentLe, h.acks, h.rising⟩
  have := h.client
  unfold World.clientAfter
  dsimp only
  split
  · omega
  · omega

theorem frameAck_eq (hacks : m.useFrameAcks = true) (frameId : Int) :
    w.frameAck m.toSetup frameId =
      { w with frameIdClient := w.clientAfter frameId }.updateModuleFrameAck m.toSetup := by
  unfold World.frameAck World.clientAfter
  rw [if_neg (by simp [hacks])]
  split
  · rfl
  · rfl

/-! ## Steps -/

/-- What the promise is about is the same in two states. -/
structure Same (w w' : World) : Prop where
  acked : w'.acked = w.acked
  acks : w'.modFrameAcks = w.modFrameAcks
  client : w'.frameIdClient = w.frameIdClient
  server : w'.frameIdServer = w.frameIdServer
  sent : w'.frameIdServerSent = w.frameIdServerSent

section

variable {w' : World}

theorem Same.symm (h : Same w w') : Same w' w :=
  ⟨h.acked.symm, h.acks.symm, h.client.symm, h.server.symm, h.sent.symm⟩

theorem Same.plain (h : Same w w') (hplain : m.Plain w) : m.Plain w' := by
  constructor
  · rw [h.acks, h.acked]
    exact hplain.acks
  · rw [h.client, h.server]
    exact hplain.client

theorem Same.counted (h : Same w w') (hc : m.Counted w) : m.Counted w' := by
  obtain ⟨hacked, hacks, hclient, hserver, hsent⟩ := h
  obtain ⟨h₁, h₂, h₃, h₄, h₅, h₆, h₇, h₈⟩ := hc
  rw [← hacked] at h₁ h₂ h₃
  rw [← hserver] at h₂ h₃ h₄ h₆
  rw [← hclient] at h₄
  rw [← hsent] at h₅ h₆ h₇
  rw [← hacks] at h₅ h₇ h₈
  exact ⟨h₁, h₂, h₃, h₄, h₅, h₆, h₇, h₈⟩

theorem Same.ok (h : Same w w') (hok : m.FlowOk w) : m.FlowOk w' := by
  obtain ⟨hacked, hacks, hclient, hserver, -⟩ := h
  obtain ⟨h₁, h₂, h₃, h₄, h₅⟩ := hok
  rw [← hacks] at h₁
  rw [← hacks, ← hacked] at h₂ h₅
  rw [← hclient, ← hserver] at h₃
  rw [← hacks, ← hacked, ← hclient, ← hserver] at h₄
  exact ⟨h₁, h₂, h₃, h₄, h₅⟩

theorem Same.flowOk (h : Same w w') : m.FlowOk w' ↔ m.FlowOk w :=
  ⟨fun hok => h.symm.ok hok, fun hok => h.ok hok⟩

end

section

variable {s : Setup} {w' : World}

theorem Same.refl (w : World) : Same w w := ⟨rfl, rfl, rfl, rfl, rfl⟩

theorem paintRects_same (h : w.step s .paintRects = some w') : Same w w' := by
  cases h
  exact ⟨rfl, rfl, rfl, rfl, rfl⟩

theorem encode_same (h : w.step s .encode = some w') : Same w w' := by
  unfold World.step at h
  dsimp only at h
  split at h
  · split at h
    · cases h
    · cases h
      exact ⟨rfl, rfl, rfl, rfl, rfl⟩
  · cases h
    exact .refl w

theorem queueDone_same (h : w.step s .queueDone = some w') : Same w w' := by
  unfold World.step at h
  dsimp only at h
  split at h
  · cases h
    exact .refl w
  · split at h
    · cases h
    · cases h
      exact ⟨rfl, rfl, rfl, rfl, rfl⟩

theorem ack_same (s : Setup) (w : World) (i : Nat) (fifoProcessed : List EncDone)
    (freed : Nat → Bool) :
    Same (w.ack s i) { World.ack s { w with fifoProcessed } i with freed } := by
  unfold World.ack World.updateModuleFrameAck
  dsimp only
  split
  · split
    · exact ⟨rfl, rfl, rfl, rfl, rfl⟩
    · exact ⟨rfl, rfl, rfl, rfl, rfl⟩
  · exact ⟨rfl, rfl, rfl, rfl, rfl⟩

/-- Only the last result of a job does something to the acknowledgements. -/
theorem processDone_same (h : w.step s .processDone = some w') :
    (w.fifoProcessed = [] → Same w w') ∧
      ∀ d dones, w.fifoProcessed = d :: dones →
        Same (if d.last then w.ack s d.enc else w) w' := by
  unfold World.step at h
  dsimp only at h
  split at h
  · rename_i hnil
    cases h
    refine ⟨fun _ => .refl w, fun d dones hd => ?_⟩
    rw [hnil] at hd
    cases hd
  · rename_i d dones hd
    constructor
    · intro hnil
      rw [hnil] at hd
      cases hd
    · intro d' dones' hd'
      rw [hd] at hd'
      cases hd'
      unfold World.processDone at h
      split at h
      · cases h
      · split at h
        · rename_i hl
          cases h
          rw [if_pos hl]
          exact ack_same s w d.enc dones _
        · rename_i hl
          cases h
          rw [if_neg hl]
          exact ⟨rfl, rfl, rfl, rfl, rfl⟩

end

/-! ## Runs -/

/-- A state of a run in which all actions meet their condition. -/
structure Mm.Good (m : Mm) (w : World) : Prop where
  queues : m.hasEncoder = true → ∃ taken gone, w.Inv m.toSetup taken gone
  plain : ¬ (m.hasEncoder = true ∧ m.useFrameAcks = true) → m.Plain w
  counted : m.hasEncoder = true → m.useFrameAcks = true → m.Counted w
  ok : m.FlowOk w

theorem Mm.good_start (m : Mm) : m.Good .start where
  queues := fun _ => ⟨0, [], inv_start m.toSetup⟩
  plain := fun _ => ⟨rfl, Int.le_refl 0⟩
  counted := fun _ _ => ⟨nofun, .inl ⟨rfl, rfl⟩, nofun, ⟨Int.le_refl 0, Int.le_refl 0⟩,
    .inl ⟨rfl, rfl⟩, ⟨Int.le_refl 0, Int.le_refl 0⟩, nofun, .nil⟩
  ok := ⟨.nil, nofun, Int.le_refl 0, fun _ => nofun, fun _ => rfl⟩

/-- An action that leaves the acknowledgements alone. -/
theorem Mm.Good.same {w' : World} (h : m.Good w) (hsame : Same w w')
    (hqueues : m.hasEncoder = true → ∃ taken gone, w'.Inv m.toSetup taken gone) : m.Good w' :=
  ⟨hqueues, fun hno => hsame.plain (h.plain hno), fun he ha => hsame.counted (h.counted he ha),
    hsame.ok h.ok⟩

/-- What an action comes to. -/
def Mm.StepOk (m : Mm) (w : World) (a : Action) : Prop :=
  Runs.StepIff (fun w a w' => m.step w a = some w') m.FlowOk m.Good m.StepFits w a

theorem Mm.step_unique (m : Mm) (w : World) (a : Action) (w₁ w₂ : World)
    (h₁ : m.step w a = some w₁) (h₂ : m.step w a = some w₂) : w₁ = w₂ :=
  Option.some.inj (h₁.symm.trans h₂)

theorem Mm.Good.step_same {w' : World} {a : Action} (h : m.Good w) (hstep : m.step w a = some w')
    (hsame : Same w w') (hfits : m.StepFits w a)
    (hqueues : m.hasEncoder = true → ∃ taken gone, w'.Inv m.toSetup taken gone) :
    m.StepOk w a := by
  have hgood := h.same hsame hqueues
  exact .of_next m.step_unique hstep (iff_of_true hgood.ok hfits) fun _ => hgood

theorem paintRects_ok (h : m.Good w) (he : m.hasEncoder = false) : m.StepOk w .paintRects := by
  have hno : ¬ (m.hasEncoder = true ∧ m.useFrameAcks = true) := by simp [he]
  have hstep : m.step w .paintRects = some (m.paintRects w) := by
    rw [Mm.step, if_neg (by simp [he])]
  by_cases hpaint : m.painter w.serial = true
  · rw [Mm.paintRects, if_pos hpaint] at hstep
    have hplain := h.plain hno
    have hplain' : m.Plain { w with
        serial := w.serial + 1, acked := w.serial :: w.acked
        modFrameAcks := ((m.job w.serial).flags, m.frameId w.serial) :: w.modFrameAcks } := by
      refine ⟨?_, hplain.client⟩
      dsimp only
      rw [hplain.acks, List.map_cons]
    refine .of_next m.step_unique hstep ?_ fun hok => ⟨?_, fun _ => hplain', ?_, hok⟩
    · rw [hplain'.next h.ok rfl]
      exact ⟨fun hnew _ _ => hnew, fun hfits => hfits he hpaint⟩
    · exact fun hyes => absurd (he.symm.trans hyes) nofun
    · exact fun hyes => absurd (he.symm.trans hyes) nofun
  · rw [Mm.paintRects, if_neg hpaint] at hstep
    exact h.step_same hstep ⟨rfl, rfl, rfl, rfl, rfl⟩ (fun _ hp => absurd hp hpaint)
      fun hyes => absurd (he.symm.trans hyes) nofun

theorem noEncoder_ok (h : m.Good w) (he : m.hasEncoder = false) (a : Action) : m.StepOk w a := by
  have hidle : ∀ {b : Action}, m.step w b = some w → m.StepFits w b → m.StepOk w b :=
    fun hstep hfits => h.step_same hstep (.refl w) hfits fun hyes => absurd (he.symm.trans hyes) nofun
  have hstep : ∀ b, m.step w b = match b with
      | .paintRects => some (m.paintRects w)
      | .frameAck _ => if m.useFrameAcks = false then some w else none
      | _ => some w := fun b => if_neg (by simp [he])
  cases a with
  | paintRects => exact paintRects_ok h he
  | encode => exact hidle (hstep _) trivial
  | queueDone => exact hidle (hstep _) trivial
  | processDone => exact hidle (hstep _) fun hyes => absurd (he.symm.trans hyes) nofun
  | frameAck frameId =>
    have hstep := hstep (.frameAck frameId)
    dsimp only at hstep
    cases hacks : m.useFrameAcks with
    | false =>
      rw [if_pos hacks] at hstep
      exact hidle hstep fun hyes => absurd (hacks.symm.trans hyes) nofun
    | true =>
      -- the encoder is not there
      rw [if_neg (by simp [hacks])] at hstep
      refine .of_stuck (fun w' hw' => ?_) fun hfits => ?_
      · rw [hstep] at hw'
        cases hw'
      · exact absurd (he.symm.trans (hfits hacks).1) nofun

section

variable {d : EncDone} {dones : List EncDone} {w' : World} {taken : Nat} {gone : List EncDone}

theorem ack_of_frameAcks {s : Setup} (hacks : s.useFrameAcks = true) (i : Nat) :
    w.ack s i = (w.finish s i).updateModuleFrameAck s := by
  unfold World.ack
  dsimp only
  rw [if_pos hacks]
  rfl

theorem ack_of_plain {s : Setup} (hacks : s.useFrameAcks = false) (i : Nat) :
    w.ack s i = { w with
      acked := i :: w.acked
      modFrameAcks := ((s.job i).flags, (s.job i).frameId) :: w.modFrameAcks } := by
  unfold World.ack
  dsimp only
  rw [if_neg (by simp [hacks])]

/-- **The last result of a job** is processed. -/
theorem last_ok (h : m.Good w) (he : m.hasEncoder = true)
    (hfif : 1 ≤ m.framesInFlight ∧ m.framesInFlight < 2 ^ 31)
    (hids : ∀ i, m.frameId i < 2 ^ 31) (hmono : Monotone m.frameId)
    (hd : w.fifoProcessed = d :: dones) (hl : d.last = true)
    (hstep : m.step w .processDone = some w') (hinv : w'.Inv m.toSetup taken gone)
    (hsame : Same (w.ack m.toSetup d.enc) w') : m.StepOk w .processDone := by
  have hqueues : m.hasEncoder = true → ∃ taken gone, w'.Inv m.toSetup taken gone :=
    fun _ => ⟨taken, gone, hinv⟩
  have hfits : m.StepFits w .processDone ↔ if m.useFrameAcks then
      1 ≤ m.frameId d.enc ∧ m.SumFits w.frameIdClient (m.frameId d.enc) w.frameIdServerSent
      else w.NewId (m.frameId d.enc) := by
    constructor
    · exact fun hf => hf he d dones hd hl
    · intro hf _ d' dones' hd' _
      rw [hd] at hd'
      cases hd'
      exact hf
  cases hacks : m.useFrameAcks with
  | true =>
    rw [if_pos hacks] at hfits
    have hcounted := h.counted he hacks
    rw [ack_of_frameAcks hacks] at hsame
    have hnewest : ∀ j ∈ w.acked, m.frameId j ≤ m.frameId d.enc := by
      intro j hj
      have hsorted := acked_sorted hinv
      have hacked : w'.acked = d.enc :: w.acked := by
        rw [hsame.acked]
        unfold World.updateModuleFrameAck
        split
        · rfl
        · rfl
      rw [hacked] at hsorted
      exact hmono (List.rel_of_pairwise_cons hsorted hj).le
    have hiff := hcounted.finish_flowOk hacks hfif (hids d.enc) hnewest
    refine .of_next m.step_unique hstep (hsame.flowOk.trans (hiff.trans hfits.symm)) fun hok => ?_
    have hcond := hiff.1 (hsame.flowOk.1 hok)
    exact ⟨hqueues, fun hno => absurd ⟨he, hacks⟩ hno,
      fun _ _ => hsame.counted (hcounted.finish hcond.1 hnewest).update, hok⟩
  | false =>
    rw [if_neg (by simp [hacks])] at hfits
    have hno : ¬ (m.hasEncoder = true ∧ m.useFrameAcks = true) := by simp [hacks]
    have hplain := h.plain hno
    rw [ack_of_plain hacks] at hsame
    have hplain' : m.Plain w' := by
      refine hsame.plain ⟨?_, hplain.client⟩
      dsimp only
      rw [hplain.acks, List.map_cons]
      rfl
    have hiff := Mm.Plain.next h.ok hplain' (i := d.enc) hsame.acks
    exact .of_next m.step_unique hstep (hiff.trans hfits.symm) fun hok =>
      ⟨hqueues, fun _ => hplain', fun _ hyes => absurd (hacks.symm.trans hyes) nofun, hok⟩

end

/-- **An action of a session with an encoder** -/
theorem encoder_ok (h : m.Good w) (he : m.hasEncoder = true)
    (hfif : 1 ≤ m.framesInFlight ∧ m.framesInFlight < 2 ^ 31)
    (hids : ∀ i, m.frameId i < 2 ^ 31) (hmono : Monotone m.frameId) (a : Action) :
    m.StepOk w a := by
  obtain ⟨taken, gone, hinv⟩ := h.queues he
  obtain ⟨w', taken', gone', hrun, hinv'⟩ := inv_step hinv a
  have hqueues : m.hasEncoder = true → ∃ taken gone, w'.Inv m.toSetup taken gone :=
    fun _ => ⟨taken', gone', hinv'⟩
  have hstep : m.step w a = some w' := by
    unfold Mm.step
    rw [if_pos he, hrun]
  cases a with
  | paintRects =>
    exact h.step_same hstep (paintRects_same hrun) (fun hno => absurd (he.symm.trans hno) nofun)
      hqueues
  | encode => exact h.step_same hstep (encode_same hrun) trivial hqueues
  | queueDone => exact h.step_same hstep (queueDone_same hrun) trivial hqueues
  | processDone =>
    obtain ⟨hnone, hdone⟩ := processDone_same hrun
    cases hd : w.fifoProcessed with
    | nil =>
      refine h.step_same hstep (hnone hd) (fun _ d dones hd' => ?_) hqueues
      rw [hd] at hd'
      cases hd'
    | cons d dones =>
      have hsame := hdone d dones hd
      cases hl : d.last with
      | true =>
        rw [if_pos hl] at hsame
        exact last_ok h he hfif hids hmono hd hl hstep hinv' hsame
      | false =>
        rw [if_neg (by simp [hl])] at hsame
        refine h.step_same hstep hsame (fun _ d' dones' hd' hl' => ?_) hqueues
        rw [hd] at hd'
        cases hd'
        exact absurd (hl.symm.trans hl') nofun
  | frameAck frameId =>
    have hw' : w' = w.frameAck m.toSetup frameId := (Option.some.inj hrun).symm
    cases hacks : m.useFrameAcks with
    | true =>
      rw [frameAck_eq hacks] at hw'
      have hcounted := (h.counted he hacks).frameAck frameId
      have hserver : w.frameIdServer < 2 ^ 31 := by
        rcases (h.counted he hacks).server with ⟨-, hzero⟩ | ⟨i, -, -, hid⟩
        · omega
        · rw [hid]
          exact hids i
      have hiff := hcounted.update_flowOk hacks hfif hserver
      rw [← hw'] at hiff
      refine .of_next m.step_unique hstep (hiff.trans ⟨fun hsum _ => ⟨he, hsum⟩, fun hf => (hf hacks).2⟩)
        fun hok => ⟨hqueues, fun hno => absurd ⟨he, hacks⟩ hno, fun _ _ => ?_, hok⟩
      rw [hw']
      exact hcounted.update
    | false =>
      have hsame : Same w w' := by
        rw [hw', World.frameAck, if_pos hacks]
        exact .refl w
      exact h.step_same hstep hsame (fun hyes => absurd (hacks.symm.trans hyes) nofun) hqueues

/-- **Every action** -/
theorem step_ok (h : m.Good w) (hfif : 1 ≤ m.framesInFlight ∧ m.framesInFlight < 2 ^ 31)
    (hids : ∀ i, m.frameId i < 2 ^ 31) (hmono : Monotone m.frameId) (a : Action) :
    m.StepOk w a := by
  cases he : m.hasEncoder with
  | true => exact encoder_ok h he hfif hids hmono a
  | false => exact noEncoder_ok h he a

end

/-- **Frame acknowledgements**: in every state of a run no encoder is used that is not there, and
what the module has been told is right, just if all actions meet the condition: a client that
acknowledges frames has an encoder; frames that are acknowledged at once do not repeat an id, and
the others have positive ids; and the sum in `xrdp_mm_update_module_frame_ack` is an `int`. -/
theorem frame_acks_iff {m : Mm} {maxUnacknowledgedFrameCount : Int32}
    (hfif : m.framesInFlight = framesInFlight maxUnacknowledgedFrameCount)
    (hids : ∀ i, ∃ id : Int32, m.frameId i = id.toInt) (hmono : Monotone m.frameId)
    (as : List Action) :
    (∀ before, before <+: as → ∃ w, m.run .start before = some w ∧ m.FlowOk w) ↔
      m.Fits .start as := by
  have hroom : 1 ≤ m.framesInFlight ∧ m.framesInFlight < 2 ^ 31 := by
    rw [hfif, framesInFlight]
    have := maxUnacknowledgedFrameCount.toInt_lt
    omega
  have hmax : ∀ i, m.frameId i < 2 ^ 31 := by
    intro i
    obtain ⟨id, hid⟩ := hids i
    rw [hid]
    exact id.toInt_lt
  have hruns := Runs.always_iff m.step_unique (fun _ h => Mm.Good.ok h)
    (fun w a h => step_ok h hroom hmax hmono a) m.good_start as
  rw [Mm.Fits, ← hruns]
  simp only [Runs.Always, Runs.leads_option, Mm.run]

/-- A session without an encoder, with a client that acknowledges frames. -/
def noEncoder : Mm where
  codec := .rfx
  useFrameAcks := true
  framesInFlight := framesInFlight 2
  job i := ⟨[], [], 0, if i = 0 then 1 else 2⟩
  env _ := ⟨fun _ => true, fun _ _ _ => (0, 0), fun _ _ => (0, 0), true, 0, 0⟩
  hasEncoder := false
  painter _ := true

theorem frame_acks_painted :
    (∀ before, before <+: [Action.paintRects, .paintRects] →
      ∃ w, noEncoder.run .start before = some w ∧ noEncoder.FlowOk w) ↔
      noEncoder.Fits .start [.paintRects, .paintRects] := by
  have hid : ∀ i, noEncoder.frameId i = if i = 0 then 1 else 2 := fun _ => rfl
  refine @frame_acks_iff noEncoder 2 rfl (fun i => ?_) (fun i j hij => ?_) _
  · rw [hid]
    split
    · exact ⟨1, rfl⟩
    · exact ⟨2, rfl⟩
  · rw [hid, hid]
    split
    · split
      · exact le_rfl
      · exact Int.le_add_one le_rfl
    · rw [if_neg (by omega)]

/-- **No encoder**: a frame acknowledgement of the client refers to it all the same. -/
theorem frame_acks_noEncoder : noEncoder.run .start [.frameAck 0] = none ∧
    ¬ ∀ before, before <+: [Action.frameAck 0] →
      ∃ w, noEncoder.run .start before = some w ∧ noEncoder.FlowOk w := by
  have hrun : noEncoder.run .start [.frameAck 0] = none := rfl
  refine ⟨hrun, fun h => ?_⟩
  obtain ⟨w, hw, -⟩ := h _ (List.prefix_refl _)
  rw [hrun] at hw
  cases hw

end Xrdp.Encoder
