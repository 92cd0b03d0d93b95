import Xrdp.Chansrv.XfsRemove

/-!
# Open counts and devices

* `Rewrites` — entries have been written, each by itself, but not moved.
* `xfsIncrementFileOpenCount_rewrites`, `setDeviceId_rewrites` — such calls.
* `xfsDecrementFileOpenCount_spec` — a file in delete-pending is removed when it is closed.
* `xfsDeleteEntriesWithDeviceId_spec` — the open counts of a device are cleared, then its entries are
  removed with what is in them.
-/

namespace Xrdp.Chansrv

open Forest Function XfsFs

variable {xfs : XfsFs} {inum : Nat} {g : Nat → Entry → Entry}

/-! ## Fields of inodes -/

/-- A run that writes entries, each by itself. -/
def Rewrites (xfs : XfsFs) (g : Nat → Entry → Entry) (run : Run XfsFs) : Prop :=
  ∃ xfs', run = .ok xfs' ∧ Inv xfs' ∧ xfs'.inodeCount = xfs.inodeCount ∧
    ∀ i, xfs'.tree i = (xfs.tree i).map (g i)

/-- A write to the entry `x` only. -/
def onlyAt (x : Nat) (h : Entry → Entry) (i : Nat) (y : Entry) : Entry := if i = x then h y else y

def Entry.opened (y : Entry) : Entry :=
  if y.isReg then { y with openCount := y.openCount + 1 } else y

def Entry.lowered (y : Entry) : Entry :=
  if y.isReg ∧ y.openCount > 0 then { y with openCount := y.openCount - 1 } else y

def Entry.cleared (deviceId : UInt32) (y : Entry) : Entry :=
  if y.deviceId = deviceId ∧ y.isReg then { y with openCount := 0 } else y

/-- Where entries are that have been written. -/
theorem parent_of_map {t t' : Tree} (h : ∀ i, t' i = (t i).map (g i))
    (hg : ∀ i y, (g i y).parent = y.parent) : t'.parent = t.parent := by
  funext i
  rw [Tree.parent, h, Tree.parent]
  cases t i with
  | none => rfl
  | some y => exact hg i y

/-- What a write leaves alone that changes neither where an inode is nor what it is. -/
structure Relabels (x : Nat) (z w : XfsInode) : Prop where
  inum : w.inum = z.inum
  isDir : w.isDir = z.isDir
  name : w.name = z.name
  links : w.parent = z.parent ∧ w.dirBegin = z.dirBegin ∧ w.dirEnd = z.dirEnd ∧ w.next = z.next ∧
    w.previous = z.previous
  deviceId : Tree.Fixed x → w.deviceId = z.deviceId

/-- **A field of an inode is written.** -/
theorem modify_rewrites (hinv : Inv xfs) {x : Nat} {f : XfsInode → XfsInode} {z : XfsInode}
    (hf : Relabels x z (f z)) (hz : xfs.inodeTable x = some z) {h : Entry → Entry}
    (hself : h z.entry = (f z).entry) : Rewrites xfs (onlyAt x h) (xfs.modify x f) := by
  obtain ⟨hparent, hbegin, hend, hnext, hprevious⟩ := hf.links
  refine ⟨_, modify_of_eq hz, ⟨hinv.tableSize, hinv.freeSize, hinv.count, hinv.grown,
    numbered_modify hinv.numbered (hf.inum.trans (hinv.numbered x z hz)),
    links_relabel hinv.links hz hparent hbegin hend hnext hprevious, ?_, hinv.freeNodup, ?_⟩, rfl, ?_⟩
  · rw [tree_modify]
    exact hinv.sound.relabel (tree_of_eq hz) hparent hf.name hf.isDir hf.deviceId
  · intro i
    rw [hinv.free]
    dsimp only
    by_cases hi : i = x
    · rw [hi, update_self, hz]
      simp
    · rw [update_of_ne hi]
  · intro i
    rw [tree_modify]
    by_cases hi : i = x
    · rw [hi, update_self, tree_of_eq hz, Option.map_some, onlyAt, if_pos rfl, hself]
    · rw [update_of_ne hi]
      cases xfs.tree i with
      | none => rfl
      | some y => rw [Option.map_some, onlyAt, if_neg hi]

theorem relabels_openCount (x : Nat) (z : XfsInode) (count : UInt32) :
    Relabels x z { z with openCount := count } :=
  ⟨rfl, rfl, rfl, ⟨rfl, rfl, rfl, rfl, rfl⟩, fun _ => rfl⟩

/-- Nothing is written. -/
theorem Inv.rewrites (h : Inv xfs) (hg : ∀ i y, xfs.tree i = some y → g i y = y) :
    Rewrites xfs g (.ok xfs) := by
  refine ⟨xfs, rfl, h, rfl, fun i => ?_⟩
  cases hi : xfs.tree i with
  | none => rfl
  | some y => rw [Option.map_some, hg i y hi]

/-- An inode that there is not is not written. -/
theorem Inv.rewrites_none (h : Inv xfs) (hnone : xfs.inodeTable inum = none) (f : Entry → Entry) :
    Rewrites xfs (onlyAt inum f) (.ok xfs) := by
  apply h.rewrites
  intro i y hy
  rw [onlyAt, if_neg]
  rintro rfl
  rw [tree, hnone] at hy
  cases hy

theorem Inv.rewrites_beyond (h : Inv xfs) (hlt : ¬inum < xfs.inodeCount) (f : Entry → Entry) :
    Rewrites xfs (onlyAt inum f) (.ok xfs) := by
  apply h.rewrites_none
  cases hz : xfs.inodeTable inum with
  | none => rfl
  | some z => exact absurd (h.lt_count (by rw [tree_of_eq hz]; rfl)) hlt

/-- An inode that is left alone. -/
theorem Inv.rewrites_same (h : Inv xfs) {z : XfsInode} (hz : xfs.inodeTable inum = some z)
    {f : Entry → Entry} (hf : f z.entry = z.entry) : Rewrites xfs (onlyAt inum f) (.ok xfs) := by
  apply h.rewrites
  intro i y hy
  rw [onlyAt]
  split
  case isFalse => rfl
  case isTrue hi =>
    rw [hi, tree_of_eq hz] at hy
    cases hy
    exact hf

theorem Rewrites.keeps {run : Run XfsFs} (h : Rewrites xfs g run)
    (hg : ∀ i y, (g i y).generation = y.generation ∧ (g i y).mode = y.mode) : Keeps xfs run := by
  obtain ⟨xfs', hrun, hinv, hcount, htree⟩ := h
  refine ⟨xfs', hrun, hinv, hcount, fun i y' hy' => ?_⟩
  rw [htree] at hy'
  obtain ⟨y, hy, rfl⟩ := Option.map_eq_some_iff.1 hy'
  exact ⟨y, hy, hg i y⟩

theorem onlyAt_same {x : Nat} {h : Entry → Entry}
    (hh : ∀ y, (h y).generation = y.generation ∧ (h y).mode = y.mode) (i : Nat) (y : Entry) :
    (onlyAt x h i y).generation = y.generation ∧ (onlyAt x h i y).mode = y.mode := by
  rw [onlyAt]
  split
  · exact hh y
  · exact ⟨rfl, rfl⟩

theorem xfsIncrementFileOpenCount_rewrites (hinv : Inv xfs) (inum : Nat) :
    Rewrites xfs (onlyAt inum Entry.opened) (xfsIncrementFileOpenCount xfs inum) := by
  rw [xfsIncrementFileOpenCount]
  split
  case isFalse hlt => exact hinv.rewrites_beyond hlt _
  case isTrue hlt =>
    rw [hinv.tableAt_eq hlt, Run.ok_bind]
    cases hz : xfs.inodeTable inum with
    | none => exact hinv.rewrites_none hz _
    | some z =>
      dsimp only
      split
      case isTrue hreg =>
        have hreg' : z.entry.isReg = true := hreg
        refine modify_rewrites hinv (relabels_openCount inum z _) hz ?_
        rw [Entry.opened, if_pos hreg']
        rfl
      case isFalse hreg =>
        have hreg' : ¬z.entry.isReg = true := hreg
        exact hinv.rewrites_same hz (if_neg hreg')

theorem xfsIncrementFileOpenCount_inv (hinv : Inv xfs) (inum : Nat) :
    Keeps xfs (xfsIncrementFileOpenCount xfs inum) := by
  apply (xfsIncrementFileOpenCount_rewrites hinv inum).keeps
  apply onlyAt_same
  intro y
  rw [Entry.opened]
  split
  · exact ⟨rfl, rfl⟩
  · exact ⟨rfl, rfl⟩

theorem setDeviceId_rewrites (hinv : Inv xfs) (hfixed : ¬Tree.Fixed inum) (deviceId : UInt32) :
    Rewrites xfs (onlyAt inum fun y => { y with deviceId := deviceId })
      (setDeviceId xfs inum deviceId) := by
  rw [setDeviceId]
  split
  case isFalse hlt => exact hinv.rewrites_beyond hlt _
  case isTrue hlt =>
    rw [hinv.tableAt_eq hlt, Run.ok_bind]
    cases hz : xfs.inodeTable inum with
    | none => exact hinv.rewrites_none hz _
    | some z =>
      have hwrites : Relabels inum z { z with deviceId := deviceId } :=
        ⟨rfl, rfl, rfl, ⟨rfl, rfl, rfl, rfl, rfl⟩, fun h => absurd h hfixed⟩
      exact modify_rewrites hinv hwrites hz rfl

theorem setDeviceId_inv (hinv : Inv xfs) (hfixed : ¬Tree.Fixed inum) (deviceId : UInt32) :
    Keeps xfs (setDeviceId xfs inum deviceId) :=
  (setDeviceId_rewrites hinv hfixed deviceId).keeps (onlyAt_same fun _ => ⟨rfl, rfl⟩)

/-! ## Closing a file -/

/-- What `xfs_decrement_file_open_count` does after the count has been lowered. -/
def removeIfClosed (xfs : XfsFs) (inum : Nat) : Run XfsFs := do
  let xino ← xfs.deref inum
  if xino.openCount = 0 then do
    let pending ← xfs.tableAt DELETE_PENDING_ID
    if xino.parent = pending.map fun _ => DELETE_PENDING_ID then xfsRemoveEntry xfs inum
    else pure xfs
  else pure xfs

/-- A file that is not open and in delete-pending is removed. -/
theorem removeIfClosed_removes (hinv : Inv xfs) {y : Entry} (hy : xfs.tree inum = some y) :
    Removes xfs (fun i => (y.openCount = 0 ∧ y.parent = some DELETE_PENDING_ID) ∧
      (i = inum ∨ Under xfs.tree.parent inum i)) (removeIfClosed xfs inum) := by
  obtain ⟨z, hz, rfl, -⟩ := exists_inode hinv.numbered hy
  rw [removeIfClosed, deref_of_eq hz, Run.ok_bind]
  by_cases hcount : z.openCount = 0
  · obtain ⟨x, hx, -⟩ := hinv.sound.fixed DELETE_PENDING_ID (.inr rfl)
    obtain ⟨zp, hzp, -, -⟩ := exists_inode hinv.numbered hx
    rw [if_pos hcount, hinv.tableAt_eq hinv.count.1, Run.ok_bind, hzp, Option.map_some]
    by_cases hparent : z.parent = some DELETE_PENDING_ID
    · have hp : xfs.tree.parent inum = some DELETE_PENDING_ID :=
        (Tree.parent_of_eq (tree_of_eq hz)).trans hparent
      rw [if_pos hparent]
      obtain ⟨xfs', hrun, hinv', hsame, hremoved⟩ :=
        xfsRemoveEntry_spec hinv (Tree.isSome_of_parent hp) (hinv.not_fixed hp)
      refine ⟨xfs', hrun, hinv', hsame, fun i hi => ?_, fun i hi => hremoved.gone i hi.2⟩
      exact hremoved.same i fun h => hi ⟨⟨hcount, hparent⟩, h⟩
    · rw [if_neg hparent]
      exact ⟨xfs, rfl, hinv, rfl, removed_refl fun _ h => hparent h.1.2⟩
  · rw [if_neg hcount]
    exact ⟨xfs, rfl, hinv, rfl, removed_refl fun _ h => hcount h.1.1⟩

theorem Entry.lowered_same (y : Entry) : y.lowered.parent = y.parent ∧
    y.lowered.generation = y.generation ∧ y.lowered.mode = y.mode := by
  rw [Entry.lowered]
  split
  · exact ⟨rfl, rfl, rfl⟩
  · exact ⟨rfl, rfl, rfl⟩

/-- A run that lowers the open count of a file, and removes the file if it is in delete-pending and
the count is zero then. -/
def Closes (xfs : XfsFs) (inum : Nat) (run : Run XfsFs) : Prop :=
  ∃ xfs', run = .ok xfs' ∧ Inv xfs' ∧ xfs'.inodeCount = xfs.inodeCount ∧
    Removed (fun i => (xfs.tree i).map (onlyAt inum Entry.lowered i)) xfs'.tree fun i =>
      (∃ y, xfs.tree inum = some y ∧ y.isReg ∧ y.lowered.openCount = 0 ∧
        y.parent = some DELETE_PENDING_ID) ∧ (i = inum ∨ Under xfs.tree.parent inum i)

/-- **The open count of a file is lowered.** -/
theorem xfsDecrementFileOpenCount_spec (hinv : Inv xfs) (inum : Nat) :
    Closes xfs inum (xfsDecrementFileOpenCount xfs inum) := by
  -- nothing changes
  have hsame : xfsDecrementFileOpenCount xfs inum = .ok xfs →
      Rewrites xfs (onlyAt inum Entry.lowered) (.ok xfs) →
      (∀ y, xfs.tree inum = some y → ¬y.isReg) →
        Closes xfs inum (xfsDecrementFileOpenCount xfs inum) := by
    rintro hrun ⟨xfs', heq, hinv', hcount, htree⟩ hreg
    cases heq
    refine ⟨xfs, hrun, hinv, rfl, fun i _ => htree i, ?_⟩
    rintro i ⟨⟨y, hy, hyes, -⟩, -⟩
    exact absurd hyes (hreg y hy)
  by_cases hlt : inum < xfs.inodeCount
  · cases hz : xfs.inodeTable inum with
    | none =>
      apply hsame _ (hinv.rewrites_none hz _)
      · intro y hy
        rw [tree, hz] at hy
        cases hy
      · rw [xfsDecrementFileOpenCount, if_pos hlt, hinv.tableAt_eq hlt, Run.ok_bind, hz]
        rfl
    | some z =>
      have hy := tree_of_eq hz
      by_cases hreg : z.isReg = true
      · have hreg' : z.entry.isReg = true := hreg
        have hrun : xfsDecrementFileOpenCount xfs inum =
            (if z.openCount > 0 then xfs.modify inum fun x => { x with openCount := x.openCount - 1 }
              else pure xfs) >>= fun xfs => removeIfClosed xfs inum := by
          rw [xfsDecrementFileOpenCount, if_pos hlt, hinv.tableAt_eq hlt, Run.ok_bind, hz]
          dsimp only
          rw [if_pos hreg]
          split
          · rfl
          · rfl
        have hlowered : Rewrites xfs (onlyAt inum Entry.lowered) (if z.openCount > 0 then
            xfs.modify inum fun x => { x with openCount := x.openCount - 1 } else pure xfs) := by
          split
          case isTrue hopen =>
            have hopen' : z.entry.isReg = true ∧ z.entry.openCount > 0 := ⟨hreg, hopen⟩
            refine modify_rewrites hinv (relabels_openCount inum z _) hz ?_
            rw [Entry.lowered, if_pos hopen']
            rfl
          case isFalse hopen =>
            exact hinv.rewrites_same hz (if_neg fun h => hopen h.2)
        obtain ⟨xfs₁, hrun₁, hinv₁, hcount₁, htree₁⟩ := hlowered
        have hself : xfs₁.tree inum = some z.entry.lowered := by
          rw [htree₁, hy, Option.map_some, onlyAt, if_pos rfl]
        have hparent : z.entry.lowered.parent = z.parent := z.entry.lowered_same.1
        have hparents := parent_of_map htree₁ fun i y => by
          rw [onlyAt]
          split
          · exact y.lowered_same.1
          · rfl
        obtain ⟨xfs₂, hrun₂, hinv₂, hcount₂, hremoved⟩ := removeIfClosed_removes hinv₁ hself
        rw [hparents] at hremoved
        refine ⟨xfs₂, by rw [hrun, hrun₁, Run.ok_bind, hrun₂], hinv₂, hcount₂.trans hcount₁, ?_, ?_⟩
        · intro i hi
          rw [← htree₁]
          refine hremoved.same i fun h => hi ⟨⟨z.entry, hy, hreg', h.1.1, ?_⟩, h.2⟩
          exact hparent.symm.trans h.1.2
        · rintro i ⟨⟨y, hy', -, hzero, hpending⟩, hi⟩
          rw [hy] at hy'
          cases hy'
          rw [← htree₁]
          exact hremoved.gone i ⟨⟨hzero, hparent.trans hpending⟩, hi⟩
      · have hreg' : ¬z.entry.isReg = true := hreg
        apply hsame _ (hinv.rewrites_same hz (if_neg fun h => hreg' h.1))
        · intro y hy'
          rw [hy] at hy'
          cases hy'
          exact hreg'
        · rw [xfsDecrementFileOpenCount, if_pos hlt, hinv.tableAt_eq hlt, Run.ok_bind, hz]
          dsimp only
          rw [if_neg hreg]
          rfl
  · apply hsame _ (hinv.rewrites_beyond hlt _)
    · intro y hy
      exact absurd (hinv.lt_count (by rw [hy]; rfl)) hlt
    · rw [xfsDecrementFileOpenCount, if_neg hlt]

/-- Entries are written, and then some are removed. -/
theorem persists_of_removed {t t' : Tree} {gone : Nat → Prop}
    (hg : ∀ i y, (g i y).generation = y.generation ∧ (g i y).mode = y.mode)
    (h : Removed (fun i => (t i).map (g i)) t' gone) : Persists t t' := by
  intro i y' hy'
  obtain ⟨w, hw, hgeneration, hmode⟩ := h.persists i y' hy'
  obtain ⟨y, hy, rfl⟩ := Option.map_eq_some_iff.1 hw
  obtain ⟨hgeneration', hmode'⟩ := hg i y
  exact ⟨y, hy, hgeneration.trans hgeneration', hmode.trans hmode'⟩

theorem xfsDecrementFileOpenCount_inv (hinv : Inv xfs) (inum : Nat) :
    Keeps xfs (xfsDecrementFileOpenCount xfs inum) := by
  obtain ⟨xfs', hrun, hinv', hcount, hremoved⟩ := xfsDecrementFileOpenCount_spec hinv inum
  exact ⟨xfs', hrun, hinv', hcount, persists_of_removed (onlyAt_same fun y => y.lowered_same.2) hremoved⟩

/-! ## Removing the entries of a device -/

/-- An entry of the device, or in one. -/
def OnDevice (t : Tree) (deviceId : UInt32) (among : Nat → Prop) (i : Nat) : Prop :=
  ∃ e y, among e ∧ t e = some y ∧ y.deviceId = deviceId ∧ (i = e ∨ Under t.parent e i)

theorem OnDevice.down {t : Tree} {deviceId : UInt32} {among : Nat → Prop} {j k : Nat}
    (hp : t.parent j = some k) (hk : OnDevice t deviceId among k) : OnDevice t deviceId among j := by
  obtain ⟨e, y, he, hy, hdevice, hke⟩ := hk
  exact ⟨e, y, he, hy, hdevice, under_down hp hke⟩

theorem clearOpenCount_rewrites (hinv : Inv xfs) (deviceId : UInt32) (hlt : inum < xfs.inodeCount) :
    Rewrites xfs (onlyAt inum (Entry.cleared deviceId)) (clearOpenCount deviceId xfs inum) := by
  rw [clearOpenCount, hinv.tableAt_eq hlt, Run.ok_bind]
  cases hz : xfs.inodeTable inum with
  | none => exact hinv.rewrites_none hz _
  | some z =>
    have hentry : (z.entry.deviceId = deviceId ∧ z.entry.isReg = true) ↔
        (z.deviceId = deviceId ∧ z.isReg = true) := Iff.rfl
    dsimp only
    split
    case isTrue hboth =>
      refine modify_rewrites hinv (relabels_openCount inum z _) hz ?_
      rw [Entry.cleared, if_pos (hentry.2 hboth)]
      rfl
    case isFalse hnot => exact hinv.rewrites_same hz (if_neg (mt hentry.1 hnot))

theorem Entry.cleared_cleared (deviceId : UInt32) (y : Entry) :
    (y.cleared deviceId).cleared deviceId = y.cleared deviceId := by
  by_cases h : y.deviceId = deviceId ∧ y.isReg = true
  · rw [Entry.cleared, Entry.cleared, if_pos h]
    exact ite_self _
  · have hsame : y.cleared deviceId = y := if_neg h
    rw [hsame, hsame]

/-- **The first loop**, by induction on what is left of it. -/
theorem clearLoop_rewrites (hinv : Inv xfs) (deviceId : UInt32) {inums : List Nat}
    (h : ∀ i ∈ inums, i < xfs.inodeCount) :
    Rewrites xfs (fun i y => if i ∈ inums then y.cleared deviceId else y)
      (inums.foldlM (clearOpenCount deviceId) xfs) := by
  induction inums generalizing xfs with
  | nil => exact hinv.rewrites fun _ _ _ => if_neg List.not_mem_nil
  | cons j inums ih =>
    obtain ⟨xfs₁, hrun₁, hinv₁, hcount₁, htree₁⟩ :=
      clearOpenCount_rewrites hinv deviceId (h j List.mem_cons_self)
    obtain ⟨xfs₂, hrun₂, hinv₂, hcount₂, htree₂⟩ := ih hinv₁ fun i hi => by
      rw [hcount₁]
      exact h i (List.mem_cons_of_mem _ hi)
    refine ⟨xfs₂, by rw [List.foldlM_cons, hrun₁, Run.ok_bind, hrun₂], hinv₂,
      hcount₂.trans hcount₁, fun i => ?_⟩
    rw [htree₂, htree₁, Option.map_map]
    congr 1
    funext y
    rw [comp_apply, onlyAt]
    dsimp only
    by_cases hij : i = j
    · have hmem : i ∈ j :: inums := List.mem_cons.2 (.inl hij)
      rw [if_pos hij, if_pos hmem, Entry.cleared_cleared, ite_self]
    · rw [if_neg hij]
      simp only [List.mem_cons, hij, false_or]

/-- What the second loop has removed when it has come past the entries in `among`. -/
def Cleans (xfs : XfsFs) (t : Tree) (deviceId : UInt32) (among : Nat → Prop) (run : Run XfsFs) :
    Prop :=
  ∃ xfs', run = .ok xfs' ∧ Inv xfs' ∧ xfs'.inodeCount = xfs.inodeCount ∧
    Removed t xfs'.tree (OnDevice t deviceId among)

/-- **A turn of the second loop.**  What was under the entry has gone with it now, or before. -/
theorem removeWithDeviceId_cleans (hinv : Inv xfs) {t : Tree} {deviceId : UInt32}
    (hdevice : deviceId ≠ 0) {among : Nat → Prop}
    (hremoved : Removed t xfs.tree (OnDevice t deviceId among)) (hlt : inum < xfs.inodeCount) :
    Cleans xfs t deviceId (fun e => among e ∨ e = inum) (removeWithDeviceId deviceId xfs inum) := by
  have hmore : ∀ {i}, OnDevice t deviceId among i →
      OnDevice t deviceId (fun e => among e ∨ e = inum) i := by
    rintro i ⟨e, y, he, hy⟩
    exact ⟨e, y, .inl he, hy⟩
  -- what is on the device by the entry alone
  have hcases : ∀ {i}, OnDevice t deviceId (fun e => among e ∨ e = inum) i →
      OnDevice t deviceId among i ∨ ∃ y, t inum = some y ∧ y.deviceId = deviceId ∧
        (i = inum ∨ Under t.parent inum i) := by
    rintro i ⟨e, y, he | rfl, hy, hsame, hi⟩
    · exact .inl ⟨e, y, he, hy, hsame, hi⟩
    · exact .inr ⟨y, hy, hsame, hi⟩
  -- an entry that is not of the device any more has been removed before
  have hkept : (∀ z, xfs.tree inum = some z → z.deviceId ≠ deviceId) →
      Removed t xfs.tree (OnDevice t deviceId fun e => among e ∨ e = inum) := by
    intro hnot
    refine ⟨fun i hi => hremoved.same i fun h => hi (hmore h), fun i hi => ?_⟩
    apply hremoved.gone
    rcases hcases hi with h | ⟨y, hy, hsame, hi⟩
    · exact h
    · by_contra hno
      refine hnot y ?_ hsame
      rw [hremoved.same inum, hy]
      rintro ⟨e, w, he, hw, hwd, hie⟩
      refine hno ⟨e, w, he, hw, hwd, ?_⟩
      rcases hi with rfl | hi
      · exact hie
      · rcases hie with rfl | hie
        · exact .inr hi
        · exact .inr (hi.trans hie)
  rw [removeWithDeviceId, hinv.tableAt_eq hlt, Run.ok_bind]
  cases hz : xfs.inodeTable inum with
  | none =>
    refine ⟨xfs, rfl, hinv, rfl, hkept fun z hz' => ?_⟩
    rw [tree, hz] at hz'
    cases hz'
  | some z =>
    have hself := tree_of_eq hz
    dsimp only
    split
    case isFalse hnot =>
      refine ⟨xfs, rfl, hinv, rfl, hkept fun w hw => ?_⟩
      rw [hself] at hw
      cases hw
      exact hnot
    case isTrue hsame =>
      have hfixed : ¬Tree.Fixed inum := by
        intro hfixed
        obtain ⟨x, hx, -, hzero⟩ := hinv.sound.fixed inum hfixed
        rw [hself] at hx
        cases hx
        exact hdevice (hsame.symm.trans hzero)
      have hpending : inum ≠ DELETE_PENDING_ID := fun h => hfixed (.inr h)
      obtain ⟨xfs', hrun, hinv', hcount, hremoved'⟩ :=
        xfsRemoveEntry_spec hinv (by rw [hself]; rfl) hfixed
      rw [hinv.numbered inum z hz]
      refine ⟨xfs', hrun, hinv', hcount, fun i hi => ?_, fun i hi => ?_⟩
      · have hnot : ¬OnDevice t deviceId among i := fun h => hi (hmore h)
        rw [hremoved'.same i, hremoved.same i hnot]
        -- the entry itself is one of the device
        have hown : ∀ {j}, j = inum ∨ Under t.parent inum j →
            ¬OnDevice t deviceId among inum → OnDevice t deviceId (fun e => among e ∨ e = inum) j := by
          intro j hj hno
          have hinum := hremoved.same inum hno
          rw [hself] at hinum
          exact ⟨inum, z.entry, .inr rfl, hinum.symm, hsame, hj⟩
        by_cases hgone : OnDevice t deviceId among inum
        · rintro (rfl | hu)
          · exact hnot hgone
          · have hu := hremoved.under hinv.pending_parent hpending hu
            obtain ⟨e, w, he, hw, hwd, hie⟩ := hgone
            refine hnot ⟨e, w, he, hw, hwd, .inr ?_⟩
            rcases hie with rfl | hie
            · exact hu
            · exact hu.trans hie
        · rintro (rfl | hu)
          · exact hi (hown (.inl rfl) hgone)
          · exact hi (hown (.inr (hremoved.under hinv.pending_parent hpending hu)) hgone)
      · by_cases hbefore : OnDevice t deviceId among i
        · by_cases hnow : i = inum ∨ Under xfs.tree.parent inum i
          · rw [hremoved'.gone i hnow, hremoved.gone i hbefore, Option.bind_assoc]
            congr 1
            funext x
            exact x.removed_removed
          · rw [hremoved'.same i hnow, hremoved.gone i hbefore]
        · rcases hcases hi with h | ⟨-, -, -, hi⟩
          · exact absurd h hbefore
          · rw [hremoved'.gone i, hremoved.same i hbefore]
            rcases hi with rfl | hu
            · exact .inl rfl
            · exact .inr (hremoved.under_of_not_gone (fun _ _ => OnDevice.down) hu hbefore)

/-- **The second loop**, by induction on what is left of it. -/
theorem removeLoop_cleans (hinv : Inv xfs) {t : Tree} {deviceId : UInt32} (hdevice : deviceId ≠ 0)
    {among : Nat → Prop} (hremoved : Removed t xfs.tree (OnDevice t deviceId among))
    {inums : List Nat} (h : ∀ i ∈ inums, i < xfs.inodeCount) :
    Cleans xfs t deviceId (fun e => among e ∨ e ∈ inums)
      (inums.foldlM (removeWithDeviceId deviceId) xfs) := by
  induction inums generalizing xfs among with
  | nil =>
    have hsame : (fun e => among e ∨ e ∈ ([] : List Nat)) = among := by
      funext e
      simp
    rw [hsame]
    exact ⟨xfs, rfl, hinv, rfl, hremoved⟩
  | cons j inums ih =>
    obtain ⟨xfs₁, hrun₁, hinv₁, hcount₁, hremoved₁⟩ :=
      removeWithDeviceId_cleans hinv hdevice hremoved (h j List.mem_cons_self)
    obtain ⟨xfs₂, hrun₂, hinv₂, hcount₂, hremoved₂⟩ := ih hinv₁ hremoved₁ fun i hi => by
      rw [hcount₁]
      exact h i (List.mem_cons_of_mem _ hi)
    have hsame : (fun e => (among e ∨ e = j) ∨ e ∈ inums) = fun e => among e ∨ e ∈ j :: inums := by
      funext e
      rw [List.mem_cons, or_assoc]
    rw [hsame] at hremoved₂
    exact ⟨xfs₂, by rw [List.foldlM_cons, hrun₁, Run.ok_bind, hrun₂], hinv₂,
      hcount₂.trans hcount₁, hremoved₂⟩

/-- **The entries of a device are removed**, with what is in them, after their open counts have been
cleared. -/
theorem xfsDeleteEntriesWithDeviceId_spec (hinv : Inv xfs) {deviceId : UInt32}
    (hdevice : deviceId ≠ 0) :
    ∃ xfs', xfsDeleteEntriesWithDeviceId xfs deviceId = .ok xfs' ∧ Inv xfs' ∧
      xfs'.inodeCount = xfs.inodeCount ∧
      Removed (fun i => (xfs.tree i).map (Entry.cleared deviceId)) xfs'.tree
        (OnDevice xfs.tree deviceId fun _ => True) := by
  obtain ⟨inums, hinums⟩ : ∃ l, l = List.range' FUSE_ROOT_ID (xfs.inodeCount - FUSE_ROOT_ID) :=
    ⟨_, rfl⟩
  have hmem : ∀ i, i ∈ inums ↔ 0 < i ∧ i < xfs.inodeCount := by
    intro i
    have hcount : 2 < xfs.inodeCount := hinv.count.1
    rw [hinums, List.mem_range'_1, FUSE_ROOT_ID]
    omega
  have hlive : ∀ {i}, (xfs.tree i).isSome → i ∈ inums := fun hi => (hmem _).2 (hinv.sound.bound _ hi)
  obtain ⟨xfs₁, hrun₁, hinv₁, hcount₁, htree₁⟩ :=
    clearLoop_rewrites hinv deviceId fun i hi => ((hmem i).1 hi).2
  have hcleared : ∀ i, xfs₁.tree i = (xfs.tree i).map (Entry.cleared deviceId) := by
    intro i
    rw [htree₁]
    cases hy : xfs.tree i with
    | none => rfl
    | some y =>
      have hi : i ∈ inums := hlive (by rw [hy]; rfl)
      rw [Option.map_some, Option.map_some]
      exact congrArg some (if_pos hi)
  have hnone : Removed xfs₁.tree xfs₁.tree (OnDevice xfs₁.tree deviceId fun _ => False) := by
    apply removed_refl
    rintro i ⟨-, -, hfalse, -⟩
    exact hfalse
  obtain ⟨xfs₂, hrun₂, hinv₂, hcount₂, hremoved⟩ := removeLoop_cleans hinv₁ hdevice hnone
    fun i hi => hcount₁ ▸ ((hmem i).1 hi).2
  have hsame : ∀ y : Entry,
      (y.cleared deviceId).deviceId = y.deviceId ∧ (y.cleared deviceId).parent = y.parent := by
    intro y
    rw [Entry.cleared]
    split
    · exact ⟨rfl, rfl⟩
    · exact ⟨rfl, rfl⟩
  have hparents := parent_of_map hcleared fun _ y => (hsame y).2
  have hgone : ∀ i, OnDevice xfs₁.tree deviceId (fun e => False ∨ e ∈ inums) i ↔
      OnDevice xfs.tree deviceId (fun _ => True) i := by
    intro i
    rw [OnDevice, OnDevice, hparents]
    constructor
    · rintro ⟨e, w, -, hw, hwd, hi⟩
      rw [hcleared] at hw
      obtain ⟨y, hy, rfl⟩ := Option.map_eq_some_iff.1 hw
      exact ⟨e, y, trivial, hy, (hsame y).1.symm.trans hwd, hi⟩
    · rintro ⟨e, y, -, hy, hyd, hi⟩
      refine ⟨e, _, .inr (hlive (by rw [hy]; rfl)), ?_, (hsame y).1.trans hyd, hi⟩
      rw [hcleared, hy, Option.map_some]
  refine ⟨xfs₂, ?_, hinv₂, hcount₂.trans hcount₁, fun i hi => ?_, fun i hi => ?_⟩
  · rw [xfsDeleteEntriesWithDeviceId, if_pos hdevice]
    dsimp only
    rw [← hinums, hrun₁, Run.ok_bind, hrun₂]
  · rw [hremoved.same i fun h => hi ((hgone i).1 h), hcleared]
  · rw [hremoved.gone i ((hgone i).2 hi), hcleared]

theorem xfsDeleteEntriesWithDeviceId_inv (hinv : Inv xfs) (deviceId : UInt32) :
    Keeps xfs (xfsDeleteEntriesWithDeviceId xfs deviceId) := by
  by_cases hdevice : deviceId ≠ 0
  · obtain ⟨xfs', hrun, hinv', hcount, hremoved⟩ := xfsDeleteEntriesWithDeviceId_spec hinv hdevice
    refine ⟨xfs', hrun, hinv', hcount, persists_of_removed (fun i y => ?_) hremoved⟩
    rw [Entry.cleared]
    split
    · exact ⟨rfl, rfl⟩
    · exact ⟨rfl, rfl⟩
  · rw [xfsDeleteEntriesWithDeviceId, if_neg hdevice]
    exact hinv.keeps

end Xrdp.Chansrv
