import Xrdp.Chansrv.FuseOwn

/-!
# What the callbacks change

* `refreshEntry_changed`, `addCreated_changed`, … — the parts of the callbacks.
* `lookup_acts`, `setattr_acts`, … — each callback.
* `completion_acts` — a callback ends, answers its request once and changes only its own entries, if the
  numbers it uses have not been used again.
-/

namespace Xrdp.Chansrv

open Forest Function XfsFs ExceptRules

variable {s : Xfuse} {w : Waiting} {c : ClientReply}

/-- The entry of a name in a directory, and what is in it. -/
def NamedOrUnder (t : Tree) (d : Nat) (name : List UInt8) (i : Nat) : Prop :=
  ∃ e, Named t d name e ∧ (i = e ∨ Under t.parent e i)

theorem Named.parent {t : Tree} {d i : Nat} {name : List UInt8} (h : Named t d name i) :
    t.parent i = some d := by
  obtain ⟨y, hy, hp, -⟩ := h
  exact (Tree.parent_of_eq hy).trans hp

theorem lookup_gives (h : s.Good) (d : Nat) (name : List UInt8) :
    Gives (xfsLookupInDir s.xfs d name) fun found =>
      ∀ i, found = some i → Named s.xfs.tree d name i :=
  xfsLookupInDir_ends h.inv d name

/-- An entry is looked at. -/
theorem deref_gives (h : s.Good) {i : Nat} (hi : (s.xfs.tree i).isSome) :
    Gives (s.xfs.deref i) fun x => x.inum = i ∧ s.xfs.tree i = some x.entry := by
  obtain ⟨y, hy⟩ := Option.isSome_iff_exists.1 hi
  obtain ⟨z, hz, rfl, hnum⟩ := exists_inode h.inv.numbered hy
  exact ⟨z, deref_of_eq hz, hnum, hy⟩

theorem Named.isSome {t : Tree} {d i : Nat} {name : List UInt8} (h : Named t d name i) :
    (t i).isSome := by
  obtain ⟨y, hy, -⟩ := h
  rw [hy]
  rfl

/-! ## The parts of the callbacks -/

/-- **An entry that is there** is brought up to date, or removed. -/
theorem refreshEntry_changed (h : s.Good) (d : Nat) (name : List UInt8) :
    Gives (refreshEntry s c d name) fun r =>
      Changed s r.2 (NamedOrUnder s.xfs.tree d name) ∧
        (∀ i, r.1 = some i → (r.2.xfs.tree i).isSome) ∧
        (r.1 = none → HasRoom s.xfs → HasRoom r.2.xfs) := by
  rw [refreshEntry]
  apply (lookup_gives h d name).bind
  intro found hfound
  cases found with
  | none => exact .pure ⟨.refl h, (fun _ hi => nomatch hi), fun _ hroom => hroom⟩
  | some e =>
    have hnamed := hfound e rfl
    dsimp only
    apply (deref_gives h hnamed.isSome).bind
    rintro x ⟨rfl, hx⟩
    apply Gives.ite
    · intro hsame
      obtain ⟨count, hcount⟩ : ∃ count, xfsGetFileOpenCount s.xfs x.inum = .ok count := by
        apply h.inv.looked_up
        rintro (- | y)
        · exact ⟨0, rfl⟩
        · exact ⟨_, rfl⟩
      apply Gives.bind_of_eq hcount
      apply Gives.ite
      · intro _
        refine .pure ⟨.refl h, fun i hi => ?_, fun hnone => nomatch hnone⟩
        cases hi
        exact hnamed.isSome
      · intro _
        have htype : TO_SET_ALL &&& TO_SET_MODE ≠ 0 → SameType c.fileInfo.mode x.mode :=
          fun _ => hsame.symm
        apply (updateInodeFileAttributes_changed h hx htype c.now).bind
        rintro s' ⟨hchanged, m, hm⟩
        refine .pure ⟨hchanged.mono fun i hi => ⟨x.inum, hnamed, .inl hi⟩, fun i hi => ?_,
          fun hnone => nomatch hnone⟩
        cases hi
        show (s'.xfs.tree x.inum).isSome
        rw [hm]
        rfl
    · intro _
      apply (remove_changed h (h.inv.not_fixed hnamed.parent)).bind_pure
      rintro s' ⟨hchanged, hroom⟩
      exact ⟨hchanged.mono fun i hi => ⟨x.inum, hnamed, hi⟩, (fun _ hi => nomatch hi),
        fun _ => hroom⟩

/-- **What is not there any more** is removed, if it is what was there. -/
theorem removeExisting_changed (h : s.Good) {existingInum : Nat} {existingGeneration : UInt32}
    (hfixed : existingInum ≠ 0 → ¬Tree.Fixed existingInum)
    (hfits : existingInum ≠ 0 → NotReused s w existingInum ∨
      ∀ y, s.xfs.tree existingInum = some y → y.generation ≠ existingGeneration) :
    Gives (removeExisting s existingInum existingGeneration) fun s' => Changed s s' fun i =>
      StillMeans s w existingInum ∧ (i = existingInum ∨ Under s.xfs.tree.parent existingInum i) := by
  rw [removeExisting]
  apply Gives.ite
  · exact fun _ => .pure (.refl h)
  · intro hzero
    apply Gives.bind_of_eq (h.inv.xfsGet_eq existingInum)
    cases hz : s.xfs.inodeTable existingInum with
    | none => exact .pure (.refl h)
    | some z =>
      apply Gives.ite
      · intro hgeneration
        have hmeans : StillMeans s w existingInum := by
          rcases hfits hzero with (hgone | hmeans) | hother
          · rw [tree_of_eq hz] at hgone
            cases hgone
          · exact hmeans
          · exact absurd hgeneration (hother z.entry (tree_of_eq hz))
        apply (remove_changed h (hfixed hzero)).mono
        rintro s' ⟨hchanged, -⟩
        exact hchanged.mono fun i hi => ⟨hmeans, hi⟩
      · exact fun _ => .pure (.refl h)

/-- A new entry with the attributes that the client has sent. -/
theorem addLookedUp_changed (h : s.Good) (hroom : HasRoom s.xfs) (d : Nat) (name : List UInt8) :
    Gives (addLookedUp s c d name) fun r => (Changed s r.2 fun i => r.1 = some i) ∧
      ∀ i, r.1 = some i → Named r.2.xfs.tree d name i := by
  rw [addLookedUp]
  apply (addEntry_changed h hroom d name c.fileInfo.mode c.allocs c.now).bind
  rintro ⟨result, s'⟩ ⟨hchanged, hadded⟩
  cases result with
  | none => exact .pure ⟨hchanged, fun _ hi => nomatch hi⟩
  | some inum =>
    obtain ⟨hrequests, hwaiting, hreplies⟩ := hchanged.quiet
    refine .pure ⟨⟨⟨hchanged.good.inv, hchanged.good.files⟩, ⟨hrequests, hwaiting, hreplies⟩,
      fun i hi => ?_⟩, fun i hi => (hadded i hi).1⟩
    by_contra hne
    have hother : i ≠ inum := fun heq => hne (congrArg some heq.symm)
    refine hne (hchanged.changed i fun hsame => hi ?_)
    rw [← hsame, Xfuse.entryAt, Xfuse.entryAt]
    dsimp only
    rw [update_of_ne hother]

/-- **A new entry**, or one that has been looked up in the meantime. -/
theorem addCreated_changed (h : s.Good) (hroom : HasRoom s.xfs) {d : Nat} {name : List UInt8}
    {mode : UInt32} (htype : ∀ i y, s.xfs.tree i = some y → Named s.xfs.tree d name i →
      SameType mode y.mode) :
    Gives (addCreated s c d name mode) fun r => (Changed s r.2 fun i => r.1 = some i) ∧
      ∀ i, r.1 = some i → Named r.2.xfs.tree d name i ∧ (s.xfs.tree d).isSome := by
  rw [addCreated]
  apply (addEntry_changed h hroom d name mode c.allocs c.now).bind
  rintro ⟨result, s'⟩ ⟨hchanged, hadded⟩
  cases result with
  | some inum => exact .pure ⟨hchanged, hadded⟩
  | none =>
    have htree : ∀ i, s'.xfs.tree i = s.xfs.tree i := fun i => hchanged.same fun hi => nomatch hi
    have hquiet : Changed s s' fun _ => False :=
      hchanged.mono fun _ hi => nomatch hi
    apply (lookup_gives hchanged.good d name).bind
    intro found hfound
    cases found with
    | none => exact .pure ⟨hquiet.mono fun _ hi => hi.elim, fun _ hi => nomatch hi⟩
    | some e =>
      have hnamed := hfound e rfl
      obtain ⟨y, hy⟩ := Option.isSome_iff_exists.1 hnamed.isSome
      obtain ⟨z, hz, rfl, -⟩ := exists_inode hchanged.good.inv.numbered hy
      have hnamed' : Named s.xfs.tree d name e := by
        rw [← funext htree]
        exact hnamed
      have hsame : SameType mode z.mode := htype e z.entry (htree e ▸ hy) hnamed'
      have hrewrites := modifyMode_rewrites hchanged.good.inv hz (f := fun _ => mode) hsame
      have honly := hrewrites.only hchanged.good.files fun v hv => by
        rw [hy] at hv
        cases hv
        exact ⟨hsame, rfl, rfl⟩
      apply (setXfs_changed (R := fun xfs' => NamesKept s'.xfs.tree xfs'.tree) honly).bind_pure
        (g := fun s' => (some e, s'))
      rintro s'' ⟨hchanged', hkept⟩
      refine ⟨(hquiet.trans hchanged').mono fun i hi => ?_, fun i hi => ?_⟩
      · exact congrArg some (hi.resolve_left id).1.symm
      · cases hi
        exact ⟨hkept d name e hnamed, htree d ▸ hchanged.good.inv.isSome_parent hnamed.parent⟩

/-! ## The callbacks -/

variable {req : Nat} {denoted : Nat → Option Nat}

/-- The reply to a lookup. -/
theorem replyLookedUp_acts {s' : Xfuse} {xinode : Option Nat}
    (hchanged : Changed s s' (Concerns s s' w))
    (hlive : ∀ i, xinode = some i → (s'.xfs.tree i).isSome) :
    Gives (replyLookedUp s' w.req xinode) (Completed s w) := by
  cases xinode with
  | none => exact .pure (hchanged.completed (fun _ hi => hi) _)
  | some i =>
    apply (deref_gives hchanged.good (hlive i rfl)).bind
    rintro x -
    exact .pure (hchanged.completed (fun _ hi => hi) _)

theorem lookup_acts (h : s.Good) {pinum existingInum : Nat} {name : List UInt8}
    {existingGeneration : UInt32}
    (hfixed : (Fip.stateLookup pinum name existingInum existingGeneration).Removable)
    (hfits : CompleteFits s ⟨req, .stateLookup pinum name existingInum existingGeneration, denoted⟩ c) :
    Gives (xfuseDevredirCbLookupEntry s req c pinum name existingInum existingGeneration)
      (Completed s ⟨req, .stateLookup pinum name existingInum existingGeneration, denoted⟩) := by
  obtain ⟨hsuccess, hgone⟩ := hfits
  rw [xfuseDevredirCbLookupEntry]
  apply Gives.ite
  · intro _
    refine .unless (h.completed _) fun _ => ?_
    refine .unless (h.completed _) fun _ => ?_
    apply Gives.ite
    · intro hstatus
      apply (removeExisting_changed h hfixed (hgone hstatus)).bind
      intro s' hchanged
      refine .pure (hchanged.completed ?_ _)
      exact fun _ hi => .inr hi
    · exact fun _ => .pure (h.completed _)
  · intro hstatus
    obtain ⟨hnotReused, hroom⟩ := hsuccess (not_not.1 hstatus)
    apply Gives.bind_of_eq (h.inv.xfsGet_eq pinum)
    cases hz : s.xfs.inodeTable pinum with
    | none => exact .pure (h.completed _)
    | some z =>
      have hmeans : StillMeans s ⟨req, .stateLookup pinum name existingInum existingGeneration,
          denoted⟩ pinum := hnotReused.means (by rw [tree_of_eq hz]; rfl)
      apply (refreshEntry_changed h pinum name).bind
      rintro ⟨xinode, s'⟩ ⟨hchanged, hlive, hroom'⟩
      cases xinode with
      | some inum =>
        refine replyLookedUp_acts (w := ⟨req, _, denoted⟩) (hchanged.mono fun i hi => ?_) hlive
        exact .inl ⟨hmeans, .inr hi⟩
      | none =>
        apply (addLookedUp_changed hchanged.good (hroom' rfl hroom) pinum name).bind
        rintro ⟨xinode, s''⟩ ⟨hadd, hnamed⟩
        refine replyLookedUp_acts (w := ⟨req, _, denoted⟩) ((hchanged.trans hadd).mono fun i hi => ?_)
          fun i hi => (hnamed i hi).isSome
        exact .inl ⟨hmeans, hi.symm.imp (hnamed i) id⟩

theorem setattr_acts (h : s.Good) {inum : Nat} {fattr : FileAttr} {changeMask : UInt32}
    (hfits : CompleteFits s ⟨req, .stateSetattr inum fattr changeMask, denoted⟩ c) :
    Gives (xfuseDevredirCbSetattr s req c inum fattr changeMask)
      (Completed s ⟨req, .stateSetattr inum fattr changeMask, denoted⟩) := by
  rw [xfuseDevredirCbSetattr]
  apply Gives.ite
  · intro _
    refine .unless (h.completed _) fun _ => ?_
    apply Gives.ite
    · exact fun _ => .pure (h.completed _)
    · exact fun _ => .pure (h.completed _)
  · intro hstatus
    obtain ⟨hnotReused, htype⟩ := hfits (not_not.1 hstatus)
    apply Gives.bind_of_eq (h.inv.xfsGet_eq inum)
    cases hz : s.xfs.inodeTable inum with
    | none => exact .pure (h.completed _)
    | some z =>
      have hy := tree_of_eq hz
      have hmeans : StillMeans s ⟨req, .stateSetattr inum fattr changeMask, denoted⟩ inum :=
        hnotReused.means (by rw [hy]; rfl)
      apply (updateInodeFileAttributes_changed h hy (fun hmode => htype hmode _ hy) c.now).bind
      rintro s' ⟨hchanged, m, hm⟩
      apply (deref_gives hchanged.good (by rw [hm]; rfl)).bind
      rintro x -
      refine .pure (hchanged.completed ?_ _)
      exact fun i hi => ⟨hmeans, hi⟩

theorem open_acts (h : s.Good) {inum : Nat}
    (hfits : CompleteFits s ⟨req, .stateOpen inum, denoted⟩ c) :
    Gives (xfuseDevredirCbOpenFile s req c inum) (Completed s ⟨req, .stateOpen inum, denoted⟩) := by
  rw [xfuseDevredirCbOpenFile]
  refine .unless (h.completed _) fun hstatus => ?_
  refine .unless (h.completed _) fun hhandle => ?_
  have hnotReused := hfits (not_not.1 hstatus) (by simpa using hhandle)
  apply (increment_changed h inum).bind_pure
    (g := fun s' => s'.reply req (.open_ ⟨c.deviceId, c.fileId, false⟩))
  rintro s' ⟨hchanged, -⟩
  refine hchanged.completed ?_ _
  rintro i ⟨rfl, hlive⟩
  exact ⟨hnotReused.means hlive, rfl⟩

theorem create_acts (h : s.Good) {pinum : Nat} {name : List UInt8} {mode : UInt32}
    (hfits : CompleteFits s ⟨req, .stateCreate pinum name mode, denoted⟩ c) :
    Gives (xfuseDevredirCbCreateFile s req c pinum name mode)
      (Completed s ⟨req, .stateCreate pinum name mode, denoted⟩) := by
  rw [xfuseDevredirCbCreateFile]
  refine .unless (h.completed _) fun hstatus => ?_
  obtain ⟨hnotReused, hroom, htype⟩ := hfits (not_not.1 hstatus)
  refine .unless (h.completed _) fun _ => ?_
  apply (addCreated_changed h hroom htype).bind
  rintro ⟨xinode, s'⟩ ⟨hchanged, hnamed⟩
  cases xinode with
  | none => exact .pure (hchanged.completed (fun i hi => nomatch hi) _)
  | some inum =>
    obtain ⟨hname, hlive⟩ := hnamed inum rfl
    have hmeans : StillMeans s ⟨req, .stateCreate pinum name mode, denoted⟩ pinum :=
      hnotReused.means hlive
    apply (deref_gives hchanged.good hname.isSome).bind
    rintro x ⟨rfl, -⟩
    apply Gives.ite
    · intro _
      refine .pure (hchanged.completed ?_ _)
      rintro i hi
      cases hi
      exact ⟨hmeans, hname⟩
    · intro _
      obtain ⟨r, hr⟩ : ∃ r : Reply, r = .create x.inum x.generation (x.mode &&& ~~~s'.umask)
        (s'.attr x.inum) ⟨c.deviceId, c.fileId, false⟩ := ⟨_, rfl⟩
      rw [← hr]
      apply (increment_changed hchanged.good x.inum).bind_pure (g := fun s' => s'.reply req r)
      rintro s'' ⟨hchanged', hkept⟩
      refine (hchanged.trans hchanged').completed ?_ r
      intro i hi
      refine ⟨hmeans, ?_⟩
      obtain rfl : i = x.inum := by
        rcases hi with hadd | ⟨heq, -⟩
        · exact (Option.some_injective _ hadd).symm
        · exact heq
      exact hkept pinum name _ hname

theorem write_acts (h : s.Good) {inum : Nat}
    (hfits : CompleteFits s ⟨req, .stateWrite inum, denoted⟩ c) :
    Gives (xfuseDevredirCbWriteFile s req c inum) (Completed s ⟨req, .stateWrite inum, denoted⟩) := by
  rw [xfuseDevredirCbWriteFile]
  refine .unless (h.completed _) fun hstatus => ?_
  apply Gives.bind_of_eq (h.inv.xfsGet_eq inum)
  cases hz : s.xfs.inodeTable inum with
  | none => exact .pure (h.completed _)
  | some z =>
    have hmeans : StillMeans s ⟨req, .stateWrite inum, denoted⟩ inum :=
      (hfits (not_not.1 hstatus)).means (by rw [tree_of_eq hz]; rfl)
    apply Gives.ite
    · intro _
      refine .pure ⟨⟨h.inv, h.files⟩, rfl, rfl, ⟨_, rfl⟩, fun i hi => ⟨hmeans, ?_⟩⟩
      by_contra hne
      apply hi
      rw [Xfuse.entryAt, Xfuse.entryAt]
      dsimp only [Xfuse.reply]
      rw [update_of_ne hne]
    · exact fun _ => .pure (h.completed _)

/-- The entry has to be there, since it is not looked for. -/
theorem remove_acts (h : s.Good) {inum : Nat} (hfixed : ¬Tree.Fixed inum)
    (hfits : CompleteFits s ⟨req, .stateRemove inum, denoted⟩ c) :
    Gives (xfuseDevredirCbRmdirOrFile s req c inum) (Completed s ⟨req, .stateRemove inum, denoted⟩) := by
  rw [xfuseDevredirCbRmdirOrFile]
  apply Gives.bind_of_eq (h.inv.xfsGet_eq inum)
  apply Gives.ite
  · intro hstatus
    have hmeans := hfits hstatus
    obtain ⟨y, hy⟩ := Option.isSome_iff_exists.1 hmeans.1
    obtain ⟨z, hz, -, hnum⟩ := exists_inode h.inv.numbered hy
    rw [hz]
    dsimp only
    rw [hnum]
    apply (remove_changed h hfixed).bind_pure (g := fun s' => s'.replyErr req 0)
    rintro s' ⟨hchanged, -⟩
    refine hchanged.completed ?_ _
    exact fun i hi => ⟨hmeans, hi⟩
  · intro _
    apply Gives.ite
    · exact fun _ => .pure (h.completed _)
    · exact fun _ => .pure (h.completed _)

theorem rename_acts (h : s.Good) {pinum newPinum : Nat} {name : List UInt8}
    (hfits : CompleteFits s ⟨req, .stateRename pinum newPinum name, denoted⟩ c) :
    Gives (xfuseDevredirCbRenameFile s req c pinum newPinum name)
      (Completed s ⟨req, .stateRename pinum newPinum name, denoted⟩) := by
  rw [xfuseDevredirCbRenameFile]
  refine .unless (h.completed _) fun hstatus => ?_
  obtain ⟨hold, hnew, hmove⟩ := hfits (not_not.1 hstatus)
  by_cases hchecks : MoveChecks s.xfs pinum newPinum name
  · obtain ⟨hdx, hfixed, hkept⟩ := hmove hchecks
    obtain ⟨xfs', hrun, hinv', hmoved⟩ := moveEntry_moves h.inv hchecks hdx hfixed hkept
    have hchanged : Changed s (s.setXfs xfs') fun i =>
        i = pinum ∨ Replaced s.xfs.tree pinum newPinum name i :=
      changed_setXfs hinv' (h.files.persists hmoved.persists) fun i hi =>
        hmoved.same i (fun heq => hi (.inl heq)) fun hr => hi (.inr hr)
    obtain ⟨z, hz, -⟩ := hchecks.parentDir
    have hmeans' : StillMeans s ⟨req, .stateRename pinum newPinum name, denoted⟩ newPinum :=
      hnew.means (by rw [hz]; rfl)
    refine Gives.bind_of_eq hrun (.pure (hchanged.completed ?_ _))
    exact fun i hi => ⟨hold.means hchecks.live, hmeans', hi⟩
  · have hchanged : Changed s (s.setXfs s.xfs) fun _ => False :=
      changed_setXfs h.inv h.files fun _ _ => rfl
    refine Gives.bind_of_eq (moveEntry_refused h.inv hchecks)
      (.pure (hchanged.completed (fun _ hi => hi.elim) _))

theorem close_acts (h : s.Good) {inum : Nat}
    (hfits : CompleteFits s ⟨req, .stateClose inum, denoted⟩ c) :
    Gives (xfuseDevredirCbFileClose s req inum) (Completed s ⟨req, .stateClose inum, denoted⟩) := by
  rw [xfuseDevredirCbFileClose]
  apply (decrement_changed h inum).bind_pure (g := fun s' => s'.replyErr req 0)
  intro s' hchanged
  refine hchanged.completed ?_ _
  rintro i ⟨rfl, hlive⟩
  exact ⟨NotReused.means hfits hlive, rfl⟩

/-- **A callback whose numbers have not been used again** ends, answers its request once and changes only
the entries it is about. -/
theorem completion_acts (h : s.Good) (hremovable : w.fip.Removable) (hfits : CompleteFits s w c) :
    Gives (completion s w.req c w.fip) (Completed s w) := by
  obtain ⟨req, fip, denoted⟩ := w
  cases fip with
  | stateLookup pinum name existingInum existingGeneration => exact lookup_acts h hremovable hfits
  | stateSetattr inum fattr changeMask => exact setattr_acts h hfits
  | stateOpen inum => exact open_acts h hfits
  | stateCreate pinum name mode => exact create_acts h hfits
  | stateWrite inum => exact write_acts h hfits
  | stateRemove inum => exact remove_acts h hremovable hfits
  | stateRename pinum newPinum name => exact rename_acts h hfits
  | stateClose inum => exact close_acts h hfits

end Xrdp.Chansrv
