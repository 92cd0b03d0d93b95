import Xrdp.Chansrv.FuseActs
import Xrdp.Lib.Runs

/-!
# Requests and callbacks in any order

* `RequestFits` — a request that asks for no path of what is in delete-pending.
* `request_ends` — such a request ends: it is answered, or waits.
* `Answered` — a request has been answered, once, or waits.
* `callbacks_act` — in every run that fits, each callback acts on its own entries.
-/

namespace Xrdp.Chansrv

open Forest Function XfsFs ExceptRules

/-- The path of the entry leads up to the root, if it has to be known. -/
def PathFits (s : Xfuse) (i : Nat) : Prop :=
  ∀ y, s.xfs.tree i = some y → y.deviceId ≠ 0 → ¬Pending s.xfs.tree i

/-- No path is asked for of what is in delete-pending, and files stay files. -/
def RequestFits (s : Xfuse) : FuseRequest → Prop
  | .lookup parent _ => PathFits s parent
  | .open_ ino _ => PathFits s ino
  | .mkdir parent _ _ => PathFits s parent
  | .create parent _ _ => PathFits s parent
  | .setattr ino attr _ _ toSet => PathFits s ino ∧ ∀ y, s.xfs.tree ino = some y →
    y.deviceId = 0 → toSet &&& FUSE_SET_ATTR_MODE ≠ 0 → SameType attr.mode y.mode
  | .unlink parent name => ∀ e, Named s.xfs.tree parent name e → PathFits s e
  | .rename oldParent oldName newParent _ =>
    (∀ e, Named s.xfs.tree oldParent oldName e → PathFits s e) ∧ PathFits s newParent
  | .release _ _ => True
  | .write _ _ => True

/-- The request fits, or what is to be done of the one that is answered. -/
def FuseAction.Fits (s : Xfuse) : FuseAction → Prop
  | .request r _ => RequestFits s r
  | .complete req c => ∀ w, s.find req = some w → CompleteFits s w c
  | .other c => c.Fits s.xfs

/-- A request has been answered, once, or waits. -/
def Answered (s : Xfuse) : Prop :=
  ∀ k, s.replies.countP (·.1 = k) + s.waiting.countP (·.req = k) = if k < s.requests then 1 else 0

/-- What waits is not about one of the two fixed directories. -/
def Outcome.Sound (o : Outcome) : Prop := ∀ fip, o = .wait fip → fip.Removable

variable {s : Xfuse} {c : Circumstances}

/-! ## Requests -/

theorem Outcome.sound_reply (r : Reply) : (Outcome.reply r).Sound := fun _ h => nomatch h

theorem sendToClient_sound (path : Option (List UInt8)) {fip : Fip} (h : fip.Removable) :
    (sendToClient c path fip).Sound := by
  intro fip' heq
  rw [sendToClient] at heq
  split at heq
  · split at heq
    · cases heq
      exact h
    · cases heq
  · cases heq

/-- **A path that leads up to the root** is found, or there is no memory for it. -/
theorem path_gives (h : s.Good) {i : Nat} (hfits : PathFits s i) {z : XfsInode}
    (hz : s.xfs.inodeTable i = some z) (hdevice : z.deviceId ≠ 0) (memory : Bool) :
    Gives (xfsGetFullPath s.xfs i memory) fun _ => True := by
  have hnot := hfits z.entry (tree_of_eq hz) hdevice
  obtain ⟨r, hr⟩ := (xfsGetFullPath_iff h.inv i memory).2 fun _ => hnot
  exact ⟨r, hr, trivial⟩

theorem name_gives (h : s.Good) {i : Nat} (hfits : PathFits s i) {z : XfsInode}
    (hz : s.xfs.inodeTable i = some z) (hdevice : z.deviceId ≠ 0) (name : List UInt8) :
    Gives (getNameForEntryInParent s c i name) fun _ => True := by
  rw [getNameForEntryInParent]
  apply (path_gives h hfits hz hdevice c.newPath).bind
  rintro (- | path) -
  · exact .pure trivial
  · exact .pure trivial

theorem lookup_sound (h : s.Good) {parent : Nat} (hfits : PathFits s parent) (name : List UInt8) :
    Gives (xfuseCbLookup s c parent name) Outcome.Sound := by
  rw [xfuseCbLookup]
  refine .unless (Outcome.sound_reply _) fun _ => ?_
  apply Gives.bind_of_eq (h.inv.xfsGet_eq parent)
  cases hz : s.xfs.inodeTable parent with
  | none => exact .pure (Outcome.sound_reply _)
  | some z =>
    apply Gives.ite
    · intro _
      apply (lookup_gives h parent name).bind
      rintro (- | e) he
      · exact .pure (Outcome.sound_reply _)
      · apply (deref_gives h (he e rfl).isSome).bind
        rintro x -
        exact .pure (Outcome.sound_reply _)
    · intro hdevice
      apply (name_gives h hfits hz hdevice name).bind
      rintro path -
      apply (lookup_gives h parent name).bind
      rintro (- | e) he
      · exact .pure (sendToClient_sound path fun hzero => absurd rfl hzero)
      · apply (deref_gives h (he e rfl).isSome).bind
        rintro x ⟨rfl, -⟩
        exact .pure (sendToClient_sound path fun _ => h.inv.not_fixed (he _ rfl).parent)

theorem open_sound (h : s.Good) {ino : Nat} (hfits : PathFits s ino) (flags : Nat) :
    Gives (xfuseCbOpen s c ino flags) Outcome.Sound := by
  rw [xfuseCbOpen]
  apply Gives.bind_of_eq (h.inv.xfsGet_eq ino)
  cases hz : s.xfs.inodeTable ino with
  | none => exact .pure (Outcome.sound_reply _)
  | some z =>
    refine .unless (Outcome.sound_reply _) fun _ => ?_
    refine .unless (Outcome.sound_reply _) fun _ => ?_
    refine .unless (Outcome.sound_reply _) fun hdevice => ?_
    apply (path_gives h hfits hz hdevice c.path).bind
    rintro path -
    exact .pure (sendToClient_sound path trivial)

theorem createDirOrFile_sound (h : s.Good) {parent : Nat} (hfits : PathFits s parent)
    (name : List UInt8) (mode : UInt32) :
    Gives (xfuseCreateDirOrFile s c parent name mode) Outcome.Sound := by
  rw [xfuseCreateDirOrFile]
  refine .unless (Outcome.sound_reply _) fun _ => ?_
  refine .unless (Outcome.sound_reply _) fun _ => ?_
  apply Gives.bind_of_eq (h.inv.xfsGet_eq parent)
  cases hz : s.xfs.inodeTable parent with
  | none => exact .pure (Outcome.sound_reply _)
  | some z =>
    refine .unless (Outcome.sound_reply _) fun _ => ?_
    refine .unless (Outcome.sound_reply _) fun hdevice => ?_
    apply (name_gives h hfits hz hdevice name).bind
    rintro path -
    exact .pure (sendToClient_sound path trivial)

theorem mkdir_sound (h : s.Good) {parent : Nat} (hfits : PathFits s parent) (name : List UInt8)
    (mode : UInt32) : Gives (xfuseCbMkdir s c parent name mode) Outcome.Sound := by
  rw [xfuseCbMkdir]
  apply (lookup_gives h parent name).bind
  rintro (- | e) he
  · exact createDirOrFile_sound h hfits name _
  · apply (deref_gives h (he e rfl).isSome).bind
    rintro x -
    exact .pure (Outcome.sound_reply _)

/-- Only a mode that is to be set is in the changes. -/
theorem changeMaskOf_mode {x : XfsInode} {a : XfsAttr} {attr : FileAttr} {toSet : UInt32}
    (h : changeMaskOf x a attr toSet &&& TO_SET_MODE ≠ 0) : toSet &&& FUSE_SET_ATTR_MODE ≠ 0 := by
  intro hzero
  apply h
  rw [changeMaskOf, if_neg fun hmode => hmode.1 hzero]
  split <;> split <;> split <;> decide

/-- A request to set attributes may be served here, if the entry is on no device. -/
theorem setattr_sound (h : s.Good) {ino : Nat} {attr : FileAttr} {uid gid : Nat} {toSet : UInt32}
    (hfits : RequestFits s (.setattr ino attr uid gid toSet)) :
    Gives (xfuseCbSetattr s c ino attr uid gid toSet) fun r =>
      Changed s r.1 (· = ino) ∧ r.2.Sound := by
  obtain ⟨hpath, htype⟩ := hfits
  rw [xfuseCbSetattr]
  apply Gives.bind_of_eq (h.inv.xfsGet_eq ino)
  cases hz : s.xfs.inodeTable ino with
  | none => exact .pure ⟨.refl h, Outcome.sound_reply _⟩
  | some z =>
    refine .unless ⟨.refl h, Outcome.sound_reply _⟩ fun _ => ?_
    refine .unless ⟨.refl h, Outcome.sound_reply _⟩ fun _ => ?_
    refine .unless ⟨.refl h, Outcome.sound_reply _⟩ fun _ => ?_
    have hy := tree_of_eq hz
    apply Gives.ite
    · intro hdevice
      have hmode : changeMaskOf z (s.attr ino) attr toSet &&& TO_SET_MODE ≠ 0 →
          SameType attr.mode z.entry.mode :=
        fun hmask => htype z.entry hy hdevice (changeMaskOf_mode hmask)
      apply (updateInodeFileAttributes_changed h hy hmode c.now).bind
      rintro s' ⟨hchanged, m, hm⟩
      apply (deref_gives hchanged.good (by rw [hm]; rfl)).bind
      rintro x -
      exact .pure ⟨hchanged, Outcome.sound_reply _⟩
    · intro hdevice
      apply (path_gives h hpath hz hdevice c.path).bind
      rintro path -
      apply Gives.ite
      · intro _
        refine .pure ⟨.refl h, fun fip heq => ?_⟩
        dsimp only at heq
        split at heq
        · cases heq
          trivial
        · cases heq
      · exact fun _ => .pure ⟨.refl h, Outcome.sound_reply _⟩

theorem unlink_sound (h : s.Good) {parent : Nat} {name : List UInt8}
    (hfits : RequestFits s (.unlink parent name)) :
    Gives (xfuseCbUnlink s c parent name) Outcome.Sound := by
  rw [xfuseCbUnlink]
  refine .unless (Outcome.sound_reply _) fun _ => ?_
  apply (lookup_gives h parent name).bind
  rintro (- | e) he
  · exact .pure (Outcome.sound_reply _)
  have hnamed := he e rfl
  obtain ⟨y, hy⟩ := Option.isSome_iff_exists.1 hnamed.isSome
  obtain ⟨z, hz, -, rfl⟩ := exists_inode h.inv.numbered hy
  apply Gives.bind_of_eq (deref_of_eq hz)
  obtain ⟨empty, hempty⟩ : ∃ empty, xfsIsDirEmpty s.xfs z.inum = .ok empty := by
    apply h.inv.looked_up
    rintro (- | x)
    · exact ⟨false, rfl⟩
    · exact ⟨_, rfl⟩
  apply Gives.bind_of_eq hempty
  refine .unless (Outcome.sound_reply _) fun _ => ?_
  refine .unless (Outcome.sound_reply _) fun hdevice => ?_
  apply (path_gives h (hfits _ hnamed) hz hdevice c.path).bind
  rintro path -
  exact .pure (sendToClient_sound path (h.inv.not_fixed hnamed.parent))

theorem rename_sound (h : s.Good) {oldParent newParent : Nat} {oldName newName : List UInt8}
    (hfits : RequestFits s (.rename oldParent oldName newParent newName)) :
    Gives (xfuseCbRename s c oldParent oldName newParent newName) Outcome.Sound := by
  obtain ⟨hold, hnew⟩ := hfits
  rw [xfuseCbRename]
  refine .unless (Outcome.sound_reply _) fun _ => ?_
  apply (lookup_gives h oldParent oldName).bind
  rintro (- | e) he
  · exact .pure (Outcome.sound_reply _)
  have hnamed := he e rfl
  obtain ⟨y, hy⟩ := Option.isSome_iff_exists.1 hnamed.isSome
  obtain ⟨z, hz, -, rfl⟩ := exists_inode h.inv.numbered hy
  apply Gives.bind_of_eq (deref_of_eq hz)
  apply Gives.bind_of_eq (h.inv.xfsGet_eq newParent)
  cases hd : s.xfs.inodeTable newParent with
  | none => exact .pure (Outcome.sound_reply _)
  | some d =>
    obtain ⟨passes, hpasses, -⟩ := xfsCheckMoveEntry_spec h.inv z.inum newParent newName
    apply Gives.bind_of_eq hpasses
    refine .unless (Outcome.sound_reply _) fun _ => ?_
    refine .unless (Outcome.sound_reply _) fun hsame => ?_
    refine .unless (Outcome.sound_reply _) fun hdevice => ?_
    apply (path_gives h (hold _ hnamed) hz hdevice c.path).bind
    rintro oldPath -
    have hdevice' : d.deviceId ≠ 0 := by
      rw [not_not.1 hsame]
      exact hdevice
    apply (name_gives h hnew hd hdevice' newName).bind
    rintro newPath -
    apply Gives.pure
    split
    · exact sendToClient_sound newPath trivial
    · exact Outcome.sound_reply _

theorem release_sound (h : s.Good) (ino : Nat) (handle : XfuseHandle) :
    Gives (xfuseCbRelease s c ino handle) Outcome.Sound := by
  rw [xfuseCbRelease]
  apply Gives.bind_of_eq (h.inv.xfsGet_eq ino)
  cases s.xfs.inodeTable ino with
  | none => exact .pure (Outcome.sound_reply _)
  | some z =>
    refine .unless (Outcome.sound_reply _) fun _ => ?_
    refine .unless (Outcome.sound_reply _) fun _ => ?_
    apply Gives.pure
    split
    · intro fip heq
      cases heq
      trivial
    · exact Outcome.sound_reply _

theorem write_sound (ino : Nat) (handle : Option XfuseHandle) :
    (xfuseCbWrite c ino handle).Sound := by
  cases handle with
  | none => exact Outcome.sound_reply _
  | some handle =>
    intro fip heq
    rw [xfuseCbWrite] at heq
    split at heq
    · cases heq
    · split at heq
      · cases heq
      · cases heq
        trivial

/-- **A request that fits ends**: it is answered, or waits. -/
theorem request_ends (h : s.Good) {r : FuseRequest} (hfits : RequestFits s r) :
    Gives (fuseRequest s c r) fun r => (Changed s r.1 fun _ => True) ∧ r.2.Sound := by
  have hsame : ∀ {run : Run Outcome}, Gives run Outcome.Sound →
      Gives (do
        let outcome ← run
        pure (s, outcome)) fun r => (Changed s r.1 fun _ => True) ∧ r.2.Sound :=
    fun hrun => hrun.bind fun _ hsound => .pure ⟨.refl h, hsound⟩
  cases r with
  | lookup parent name => exact hsame (lookup_sound h hfits name)
  | open_ ino flags => exact hsame (open_sound h hfits flags)
  | mkdir parent name mode => exact hsame (mkdir_sound h hfits name mode)
  | create parent name mode => exact hsame (createDirOrFile_sound h hfits name _)
  | setattr ino attr uid gid toSet =>
    exact (setattr_sound h hfits).mono fun r hr => ⟨hr.1.mono fun _ _ => trivial, hr.2⟩
  | unlink parent name => exact hsame (unlink_sound h hfits)
  | rename oldParent oldName newParent newName => exact hsame (rename_sound h hfits)
  | release ino handle => exact hsame (release_sound h ino handle)
  | write ino handle => exact .pure ⟨.refl h, write_sound ino handle⟩

/-! ## Steps -/

/-- What holds after every step. -/
structure FuseInv (s : Xfuse) : Prop where
  good : s.Good
  removable : ∀ w ∈ s.waiting, w.fip.Removable
  answered : Answered s

/-- One more request. -/
theorem answered_settle (h : Answered s) (o : Outcome) : Answered (settle s o) := by
  intro k
  have hk := h k
  cases o with
  | reply r =>
    show (s.replies ++ [(s.requests, r)]).countP (·.1 = k) + s.waiting.countP (·.req = k) =
      if k < s.requests + 1 then 1 else 0
    rw [List.countP_append, List.countP_singleton]
    simp only [decide_eq_true_eq]
    split at hk <;> split <;> split <;> omega
  | wait fip =>
    show s.replies.countP (·.1 = k) +
        (s.waiting ++ [Waiting.mk s.requests fip s.denotes]).countP (·.req = k) =
      if k < s.requests + 1 then 1 else 0
    rw [List.countP_append, List.countP_singleton]
    simp only [decide_eq_true_eq]
    split at hk <;> split <;> split <;> omega

/-- A request that waits is answered, and does not wait any more. -/
theorem answered_completed {s' : Xfuse} {w : Waiting} {r : Reply} (h : Answered s)
    (hw : w ∈ s.waiting) (hrequests : s'.requests = s.requests)
    (hreplies : s'.replies = s.replies ++ [(w.req, r)])
    (hwaiting : s'.waiting = s.waiting.filter fun v => v.req ≠ w.req) : Answered s' := by
  intro k
  have hk := h k
  rw [hreplies, hwaiting, hrequests, List.countP_append, List.countP_singleton, List.countP_filter]
  by_cases heq : w.req = k
  · have hsome : 0 < s.waiting.countP (·.req = k) :=
      List.countP_pos_iff.2 ⟨w, hw, decide_eq_true heq⟩
    have hnone : s.waiting.countP (fun v : Waiting => decide (v.req = k) && decide (v.req ≠ w.req)) = 0 := by
      apply List.countP_eq_zero.2
      intro v _ hv
      simp [heq] at hv
    rw [hnone, if_pos (decide_eq_true heq)]
    split at hk
    · rw [if_pos ‹_›]
      omega
    · omega
  · have hrest : s.waiting.countP (fun v : Waiting => decide (v.req = k) && decide (v.req ≠ w.req)) =
        s.waiting.countP (·.req = k) := by
      apply List.countP_congr
      intro v _
      simp only [Bool.and_eq_true, decide_eq_true_eq, and_iff_left_iff_imp]
      exact fun hv hw => heq (hw.symm.trans hv)
    rw [hrest, if_neg (by simpa using heq), Nat.add_zero]
    exact hk

/-- **Any other change that fits** leaves the file system as it should be. -/
theorem change_good (h : s.Good) {c : Change} (hfits : c.Fits s.xfs) :
    Gives (do
      let xfs ← change s.xfs c
      pure (s.setXfs xfs)) fun s' => s'.Good ∧ Quiet s s' := by
  have hgives : (∃ xfs', change s.xfs c = .ok xfs' ∧ Inv xfs' ∧ FilesApart xfs'.tree) →
      Gives (do
        let xfs ← change s.xfs c
        pure (s.setXfs xfs)) fun s' => s'.Good ∧ Quiet s s' := by
    rintro ⟨xfs', hrun, hinv, hfiles⟩
    exact .bind_of_eq hrun (.pure ⟨⟨hinv, hfiles⟩, rfl, rfl, rfl⟩)
  apply hgives
  by_cases hadd : ∃ parentInum name mode allocs, c = .call (.add parentInum name mode allocs)
  · obtain ⟨parentInum, name, mode, allocs, rfl⟩ := hadd
    obtain ⟨xfs', hrun, hinv, hfiles, -⟩ := add_tells h.inv h.files hfits
    exact ⟨xfs', hrun, hinv, hfiles⟩
  · obtain ⟨xfs', hrun, hinv, harises⟩ := change_spec h.inv hfits
    refine ⟨xfs', hrun, hinv, h.files.persists fun i y' hy' => ?_⟩
    rcases harises i y' hy' with hpersists | ⟨-, hmakes⟩
    · exact hpersists
    · cases c with
      | move inum newParentInum name => exact hmakes.elim
      | call op =>
        cases op with
        | add parentInum name mode allocs => exact absurd ⟨_, _, _, _, rfl⟩ hadd
        | _ => exact hmakes.elim

/-- A request that fits keeps what holds. -/
theorem request_step (h : FuseInv s) {r : FuseRequest} (hfits : RequestFits s r) (c : Circumstances) :
    ∃ s', FuseNext s (.request r c) s' ∧ FuseInv s' := by
  obtain ⟨⟨s₁, outcome⟩, hrun, hchanged, hsound⟩ := request_ends (c := c) h.good hfits
  have hwaiting := hchanged.quiet.waiting
  have hanswered : Answered s₁ := by
    intro k
    rw [hchanged.quiet.replies, hwaiting, hchanged.quiet.requests]
    exact h.answered k
  refine ⟨settle s₁ outcome, by rw [FuseNext, fuseStep, hrun]; rfl, ?_, ?_,
    answered_settle hanswered outcome⟩
  · cases outcome with
    | reply r => exact ⟨hchanged.good.inv, hchanged.good.files⟩
    | wait fip => exact ⟨hchanged.good.inv, hchanged.good.files⟩
  · intro w hw
    cases outcome with
    | reply r =>
      have hw' : w ∈ s₁.waiting := hw
      exact h.removable w (hwaiting ▸ hw')
    | wait fip =>
      rcases List.mem_append.1 hw with hold | hnew
      · exact h.removable w (hwaiting ▸ hold)
      · obtain rfl := List.mem_singleton.1 hnew
        exact hsound fip rfl

theorem find_req {req : Nat} {w : Waiting} (hw : s.find req = some w) : w.req = req := by
  rw [Xfuse.find] at hw
  have hreq := List.find?_some hw
  simpa using hreq

/-- **A callback that fits** acts on its own entries. -/
theorem complete_step (h : FuseInv s) {req : Nat} {w : Waiting} (hw : s.find req = some w)
    {c : ClientReply} (hfits : CompleteFits s w c) :
    ∃ s', FuseNext s (.complete req c) s' ∧ FuseInv s' ∧ ActsOnItsOwn s s' w := by
  have hmem : w ∈ s.waiting := List.mem_of_find?_eq_some hw
  have hreq : w.req = req := find_req hw
  subst hreq
  obtain ⟨s₁, hrun, hgood, hrequests, hwaiting, ⟨r, hreplies⟩, hown⟩ :=
    completion_acts h.good (h.removable w hmem) hfits
  obtain ⟨s', hs'⟩ : ∃ s' : Xfuse,
    s' = { s₁ with waiting := s₁.waiting.filter fun v => v.req ≠ w.req } := ⟨_, rfl⟩
  refine ⟨s', ?_, ⟨?_, fun v hv => ?_, ?_⟩, ?_⟩
  · rw [FuseNext, fuseStep, hw, hs']
    dsimp only
    rw [hrun]
    rfl
  · rw [hs']
    exact ⟨hgood.inv, hgood.files⟩
  · rw [hs'] at hv
    exact h.removable v (hwaiting ▸ List.mem_of_mem_filter hv)
  · apply answered_completed h.answered hmem
    · rw [hs']
      exact hrequests
    · rw [hs']
      exact hreplies
    · rw [hs', ← hwaiting]
  · rw [hs']
    exact ⟨⟨r, hreplies⟩, hown⟩

/-- **A step that fits** can be taken. -/
theorem fuseStep_inv (h : FuseInv s) {a : FuseAction} (hfits : a.Fits s) :
    ∃ s', FuseNext s a s' ∧ FuseInv s' := by
  cases a with
  | request r c => exact request_step h hfits c
  | complete req c =>
    cases hw : s.find req with
    | none => exact ⟨s, by rw [FuseNext, fuseStep, hw]; rfl, h⟩
    | some w =>
      obtain ⟨s', hnext, hinv, -⟩ := complete_step h hw (hfits w hw)
      exact ⟨s', hnext, hinv⟩
  | other c =>
    obtain ⟨s', hrun, hgood, hquiet⟩ := change_good h.good hfits
    refine ⟨s', hrun, hgood, fun w hw => ?_, fun k => ?_⟩
    · exact h.removable w (hquiet.waiting ▸ hw)
    · rw [hquiet.replies, hquiet.waiting, hquiet.requests]
      exact h.answered k

/-! ## Runs -/

/-- **In a run every step can be taken, every request has been answered once or waits, and each callback
answers its request and changes nothing but the entries it is about.** -/
def CallbacksAct (start : Xfuse) (acts : List FuseAction) : Prop :=
  Runs.Always FuseNext Answered start acts ∧
  ∀ before req c after s w, before ++ .complete req c :: after = acts →
    Runs.Leads FuseNext start before s → s.find req = some w →
      ∃ s', FuseNext s (.complete req c) s' ∧ ActsOnItsOwn s s' w

theorem fuseNext_unique (s : Xfuse) (a : FuseAction) (s₁ s₂ : Xfuse) (h₁ : FuseNext s a s₁)
    (h₂ : FuseNext s a s₂) : s₁ = s₂ :=
  Except.ok.inj ((Eq.symm h₁).trans h₂)

theorem new_inv (umask : UInt32) (uid gid : Nat) (attr : Nat → XfsAttr) :
    FuseInv (.new umask uid gid attr) where
  good := ⟨created_inv umask, created_apart umask⟩
  removable _ hw := nomatch hw
  answered _ := rfl

/-- **Callbacks act on their own entries**, in any run whose steps fit. -/
theorem callbacks_act (umask : UInt32) (uid gid : Nat) (attr : Nat → XfsAttr) (acts : List FuseAction)
    (hfit : Runs.AllFit FuseNext FuseAction.Fits (.new umask uid gid attr) acts) :
    CallbacksAct (.new umask uid gid attr) acts := by
  have halways := Runs.always_of_fits (fun s a hinv hfits => fuseStep_inv hinv hfits)
    (new_inv umask uid gid attr) hfit
  constructor
  · intro before hbefore
    obtain ⟨s, hleads, hinv⟩ := halways before hbefore
    exact ⟨s, hleads, hinv.answered⟩
  · rintro before req c after s w rfl hleads hw
    obtain ⟨s₁, hleads₁, hinv⟩ := halways before (List.prefix_append _ _)
    obtain rfl := Runs.leads_unique fuseNext_unique hleads hleads₁
    obtain ⟨hfits, -⟩ := Runs.allFit_of_append hfit hleads
    obtain ⟨s', hnext, -, hacts⟩ := complete_step hinv hw (hfits w hw)
    exact ⟨s', hnext, hacts⟩

/-! ## A file that is closed, and one that goes with its device -/

def noAttr (_ : Nat) : XfsAttr := ⟨0, 0, 0, 0⟩

/-- The client shares a device, on which there is a file. -/
def shared : List FuseAction :=
  [.other (.call (.add FUSE_ROOT_ID [0x43] S_IFDIR ⟨true, true, true⟩)),
    .other (.call (.setDeviceId 3 not_fixed_three 1)),
    .other (.call (.add 3 [0x61] 0 ⟨true, true, true⟩))]

def circumstances : Circumstances := ⟨true, true, true, true, true, 0⟩

def success : ClientReply :=
  ⟨NT_STATUS_SUCCESS, ⟨0, 0, 0, 0⟩, 1, 0, 0, 5, true, ⟨true, true, true⟩, 0⟩

/-- The file is written and closed. -/
def writtenAndClosed : List FuseAction :=
  [.request (.write 4 (some ⟨1, 0, false⟩)) circumstances,
    .request (.release 4 ⟨1, 0, false⟩) circumstances]

/-- What a request that waits is about, and whether the number still means that. -/
def meaning (s : Xfuse) (req i : Nat) : Option (Fip × Option Nat) × Option Nat × Bool :=
  ((s.find req).map fun w => (w.fip, w.denoted i), s.denotes i, (s.xfs.tree i).isSome)

/-- The actions one after the other. -/
def fuseRun (acts : List FuseAction) : Run Xfuse := acts.foldlM fuseStep (.new 0 0 0 noAttr)

/-- A state is reached, and has this. -/
theorem of_fuseRun {α : Type} {f : Xfuse → α} {a : α} {acts : List FuseAction}
    (h : (fuseRun acts).map f = .ok a) {s : Xfuse}
    (hs : Runs.Leads FuseNext (.new 0 0 0 noAttr) acts s) : f s = a := by
  rw [fuseRun, Runs.leads_except.1 hs] at h
  exact Except.ok.inj h

/-- The number means what it did, and the callback is that of the request. -/
theorem stillMeans_of_meaning {req i : Nat} {fip : Fip} {d : Option Nat} {w : Waiting}
    (h : meaning s req i = (some (fip, d), d, true)) (hw : s.find req = some w) :
    w.fip = fip ∧ StillMeans s w i := by
  simp only [meaning, hw, Option.map_some, Prod.mk.injEq, Option.some.injEq] at h
  obtain ⟨⟨hfip, hdenoted⟩, hdenotes, hlive⟩ := h
  exact ⟨hfip, hlive, hdenotes.trans hdenoted.symm⟩

theorem shared_fits : Runs.AllFit FuseNext FuseAction.Fits (.new 0 0 0 noAttr) shared := by
  have hcount : (fuseRun (shared.take 2)).map (·.xfs.inodeCount) = .ok 4096 := by rfl
  refine ⟨(fun hnil => nomatch hnil), fun s₁ h₁ => ⟨trivial, fun s₂ h₂ => ⟨fun _ _ => ?_, fun _ _ =>
    trivial⟩⟩⟩
  have hs₂ := of_fuseRun hcount ⟨s₁, h₁, s₂, h₂, rfl⟩
  rw [hs₂]
  decide

/-- That it is closed is answered first. -/
theorem callbacks_act_written : CallbacksAct (.new 0 0 0 noAttr)
    (shared ++ writtenAndClosed ++ [.complete 1 success] ++ [.complete 0 success]) := by
  have hclosed : (fuseRun (shared ++ writtenAndClosed)).map (meaning · 1 4) =
      .ok (some (.stateClose 4, some 3), some 3, true) := by rfl
  have hwritten : (fuseRun (shared ++ writtenAndClosed ++ [.complete 1 success])).map
      (meaning · 0 4) = .ok (some (.stateWrite 4, some 3), some 3, true) := by rfl
  apply callbacks_act
  rw [Runs.allFit_append, Runs.allFit_append, Runs.allFit_append]
  refine ⟨⟨⟨shared_fits, fun _ _ => ⟨trivial, fun _ _ => ⟨trivial, fun _ _ => trivial⟩⟩⟩,
    fun s hs => ⟨fun w hw => ?_, fun _ _ => trivial⟩⟩, fun s hs => ⟨fun w hw => ?_, fun _ _ => trivial⟩⟩
  · obtain ⟨hfip, hmeans⟩ := stillMeans_of_meaning (of_fuseRun hclosed hs) hw
    rw [CompleteFits, hfip]
    exact .inr hmeans
  · obtain ⟨hfip, hmeans⟩ := stillMeans_of_meaning (of_fuseRun hwritten hs) hw
    rw [CompleteFits, hfip]
    exact fun _ => .inr hmeans

/-- The file is to be removed, and its device goes. -/
def removedWithDevice : List FuseAction :=
  [.request (.unlink 3 [0x61]) circumstances, .other (.call (.deleteEntriesWithDeviceId 1))]

/-- **The callback does not look whether the file is there.** -/
theorem removed_with_device : ¬CallbacksAct (.new 0 0 0 noAttr)
    (shared ++ removedWithDevice ++ [.complete 0 success]) := by
  rintro ⟨halways, -⟩
  obtain ⟨s, hleads, -⟩ := halways _ (List.prefix_refl _)
  have hstuck : (fuseRun (shared ++ removedWithDevice ++ [.complete 0 success])).isOk = false := by
    decide +kernel
  rw [fuseRun, Runs.leads_except.1 hleads] at hstuck
  cases hstuck

end Xrdp.Chansrv
