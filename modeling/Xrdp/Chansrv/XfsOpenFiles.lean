import Xrdp.Chansrv.XfsEnumerate
import Xrdp.Chansrv.XfsPaths

/-!
# Files that are open while they are deleted

* `OpenFile`, `OpenFile.next` — what should become of a file: it is freed when it is closed for the last
  time after it has been deleted.
* `Query` — the calls that look at an inode by its number.
* `happens` — what a call does to a file.
* `call_tells` — a call does that to the file, and nothing else.
* `open_files_kept` — so it is in every run, and every call ends, if no path is asked for of a file that
  has been deleted.
-/

namespace Xrdp.Chansrv

open Forest Function XfsFs

/-! ## What should become of a file -/

/-- A file: how often it is open, and whether it has been deleted. -/
structure OpenFile where
  count : Nat
  deleted : Bool
  deriving DecidableEq

inductive FileEvent where
  | opened
  | closed
  | deleted
  | moved
  | deviceDeleted
  | other

/-- **A file that is open is kept when it is deleted**, and freed when it is closed for the last time. -/
def OpenFile.next (f : OpenFile) : FileEvent → Option OpenFile
  | .opened => some { f with count := f.count + 1 }
  | .closed => if f.deleted ∧ f.count ≤ 1 then none else some { f with count := f.count - 1 }
  | .deleted => if f.count = 0 then none else some { f with deleted := true }
  | .moved => some { f with deleted := false }
  | .deviceDeleted => none
  | .other => some f

/-- Only a file that is open is deleted and still there. -/
def OpenFile.Sound (f : OpenFile) : Prop := f.deleted → 0 < f.count

theorem OpenFile.next_sound {f f' : OpenFile} {e : FileEvent} (h : f.Sound) (hf : f.next e = some f') :
    f'.Sound := by
  intro hdeleted
  cases e with
  | opened =>
    cases hf
    exact Nat.succ_pos _
  | closed =>
    rw [next] at hf
    split at hf
    · cases hf
    · rename_i hnot
      cases hf
      by_contra hzero
      exact hnot ⟨hdeleted, by simp at hzero; omega⟩
  | deleted =>
    rw [next] at hf
    split at hf
    · cases hf
    · rename_i hnot
      cases hf
      exact Nat.pos_of_ne_zero hnot
  | moved =>
    cases hf
    cases hdeleted
  | deviceDeleted => cases hf
  | other =>
    cases hf
    exact h hdeleted

/-- **A deleted file is freed** just when it is closed for the last time, or its device is deleted. -/
theorem OpenFile.freed_iff {f : OpenFile} (h : f.Sound) (hdeleted : f.deleted) (e : FileEvent) :
    f.next e = none ↔ e = .closed ∧ f.count = 1 ∨ e = .deviceDeleted := by
  have hpos := h hdeleted
  cases e with
  | closed =>
    rw [next]
    split
    case isTrue hlast => simp; omega
    case isFalse hnot => simp; exact fun hone => hnot ⟨hdeleted, by omega⟩
  | deleted =>
    rw [next, if_neg (by omega)]
    simp
  | _ => simp [next]

/-- What a file is to its entry. -/
def Entry.file (y : Entry) : OpenFile := ⟨y.openCount.toNat, y.parent = some DELETE_PENDING_ID⟩

def XfsInode.file (z : XfsInode) : OpenFile := z.entry.file

/-! ## The calls -/

/-- A call that looks at an inode. -/
inductive Query where
  | get (inum : Nat)
  | getFullPath (inum : Nat) (memory : Bool)
  | getFileOpenCount (inum : Nat)
  | lookupInDir (inum : Nat) (name : List UInt8)
  | isDirEmpty (inum : Nat)
  | opendir (inum : Nat)
  | checkMoveEntry (inum newParentInum : Nat) (name : List UInt8)

/-- `xfs_get_file_open_count`. -/
def xfsGetFileOpenCount (xfs : XfsFs) (inum : Nat) : Run UInt32 :=
  if inum < xfs.inodeCount then do
    match ← xfs.tableAt inum with
    | none => pure 0
    | some xino => pure (if xino.isReg then xino.openCount else 0)
  else .ok 0

/-- `xfs_is_dir_empty`. -/
def xfsIsDirEmpty (xfs : XfsFs) (inum : Nat) : Run Bool :=
  if inum < xfs.inodeCount then do
    match ← xfs.tableAt inum with
    | none => pure false
    | some xino => pure (xino.isDir && xino.dirBegin.isNone)
  else .ok false

/-- The result is looked at by the caller. -/
def ask (xfs : XfsFs) : Query → Run Unit
  | .get inum => do
    let _xinode ← xfsGet xfs inum
    pure ()
  | .getFullPath inum memory => do
    let _path ← xfsGetFullPath xfs inum memory
    pure ()
  | .getFileOpenCount inum => do
    let _count ← xfsGetFileOpenCount xfs inum
    pure ()
  | .lookupInDir inum name => do
    let _xinode ← xfsLookupInDir xfs inum name
    pure ()
  | .isDirEmpty inum => do
    let _empty ← xfsIsDirEmpty xfs inum
    pure ()
  | .opendir inum => do
    let _handle ← xfsOpendir xfs inum
    pure ()
  | .checkMoveEntry inum newParentInum name => do
    let _passes ← xfsCheckMoveEntry xfs inum newParentInum name
    pure ()

inductive FileCall where
  | change (c : Change)
  | query (q : Query)

def fileCall (xfs : XfsFs) : FileCall → Run XfsFs
  | .change c => change xfs c
  | .query q => do
    ask xfs q
    pure xfs

def FileNext (xfs : XfsFs) (a : FileCall) (xfs' : XfsFs) : Prop := fileCall xfs a = .ok xfs'

/-- No count is raised to `2 ^ 32`, and no path is asked for of what is in delete-pending. -/
def FileCall.Fits (xfs : XfsFs) : FileCall → Prop
  | .change c => c.Fits xfs ∧ ∀ inum y, c = .call (.incrementFileOpenCount inum) →
    xfs.tree inum = some y → y.openCount.toNat + 1 < 2 ^ 32
  | .query (.getFullPath inum _) => (xfs.tree inum).isSome → ¬Pending xfs.tree inum
  | .query _ => True

open Classical in
/-- What a call does to the file `i`. -/
noncomputable def happens (xfs : XfsFs) (i : Nat) : FileCall → FileEvent
  | .change (.call (.incrementFileOpenCount inum)) => if i = inum then .opened else .other
  | .change (.call (.decrementFileOpenCount inum)) => if i = inum then .closed else .other
  | .change (.call (.removeEntry inum _)) =>
    if i = inum ∨ Under xfs.tree.parent inum i then .deleted else .other
  | .change (.call (.removeDirectoryContents inum _)) =>
    if Under xfs.tree.parent inum i then .deleted else .other
  | .change (.call (.deleteEntriesWithDeviceId deviceId)) =>
    if deviceId = 0 then .other
    else if ∃ y, xfs.tree i = some y ∧ y.deviceId = deviceId then .deviceDeleted
    else if OnDevice xfs.tree deviceId (fun _ => True) i then .deleted
    else .other
  | .change (.move inum newParentInum name) =>
    if MoveChecks xfs inum newParentInum name then
      if i = inum then .moved
      else if Replaced xfs.tree inum newParentInum name i then .deleted
      else .other
    else .other
  | .change (.call (.add _ _ _ _)) => .other
  | .change (.call (.setDeviceId _ _ _)) => .other
  | .query _ => .other

/-! ## A call and a file -/

/-- The entry has become `r`, as the file becomes `f`. -/
def Becomes (y : Entry) (f : Option OpenFile) (r : Option Entry) : Prop :=
  match f with
  | none => r = none
  | some f => ∃ y', r = some y' ∧ y'.mode = y.mode ∧ y'.generation = y.generation ∧ y'.file = f

/-- No file is a directory. -/
def FilesApart (t : Tree) : Prop := ∀ i y, t i = some y → y.isReg → ¬y.isDir

/-- A run after which every file has become what it should. -/
def Tells (xfs : XfsFs) (a : FileCall) (run : Run XfsFs) : Prop :=
  ∃ xfs', run = .ok xfs' ∧ Inv xfs' ∧ FilesApart xfs'.tree ∧
    ∀ i y, xfs.tree i = some y → y.isReg → Becomes y (y.file.next (happens xfs i a)) (xfs'.tree i)

section

variable {t t' : Tree} {y : Entry} {i : Nat}

theorem FilesApart.persists (h : FilesApart t) (hp : Persists t t') : FilesApart t' := by
  intro i y' hy' hreg
  obtain ⟨y, hy, -, hmode⟩ := hp i y' hy'
  rw [Entry.isReg, hmode] at hreg
  rw [Entry.isDir, hmode]
  exact h i y hy hreg

theorem becomes_same (y : Entry) : Becomes y (y.file.next .other) (some y) := ⟨y, rfl, rfl, rfl, rfl⟩

/-- **A file that is removed** is freed, or in delete-pending if it is open. -/
theorem becomes_deleted (hreg : y.isReg) : Becomes y (y.file.next .deleted) y.removed := by
  by_cases hzero : y.openCount = 0
  · have hfree : y.file.next .deleted = none := if_pos (congrArg UInt32.toNat hzero)
    have hclosed : ¬(y.isReg ∧ y.openCount > 0) := by
      rw [hzero]
      exact fun h => absurd h.2 (by decide)
    rw [hfree, Entry.removed, if_neg hclosed]
    rfl
  · have hkept : y.file.next .deleted = some { y.file with deleted := true } :=
      if_neg fun heq => hzero (UInt32.toNat_inj.1 heq)
    rw [hkept, Entry.removed, if_pos ⟨hreg, UInt32.pos_iff_ne_zero.2 hzero⟩]
    refine ⟨_, rfl, rfl, rfl, ?_⟩
    simp [Entry.file]


end

variable {xfs : XfsFs}

/-- A call that removes entries. -/
theorem Removes.tells {gone : Nat → Prop} {run : Run XfsFs} (h : Removes xfs gone run)
    (hfiles : FilesApart xfs.tree) {a : FileCall} (hgone : ∀ i, gone i → happens xfs i a = .deleted)
    (hkept : ∀ i, ¬gone i → happens xfs i a = .other) : Tells xfs a run := by
  obtain ⟨xfs', hrun, hinv', -, hremoved⟩ := h
  refine ⟨xfs', hrun, hinv', hfiles.persists hremoved.persists, fun i y hy hreg => ?_⟩
  by_cases hi : gone i
  · rw [hgone i hi, hremoved.gone i hi, hy]
    exact becomes_deleted hreg
  · rw [hkept i hi, hremoved.same i hi, hy]
    exact becomes_same y

/-- A call that writes entries. -/
theorem Rewrites.tells {g : Nat → Entry → Entry} {run : Run XfsFs} (h : Rewrites xfs g run)
    (hfiles : FilesApart xfs.tree) {a : FileCall}
    (hg : ∀ i y, (g i y).generation = y.generation ∧ (g i y).mode = y.mode)
    (ha : ∀ i y, xfs.tree i = some y → y.isReg →
      y.file.next (happens xfs i a) = some (g i y).file) : Tells xfs a run := by
  obtain ⟨xfs', hrun, hinv', hcount, htree⟩ := h
  have hkeeps : Keeps xfs run := Rewrites.keeps ⟨xfs', hrun, hinv', hcount, htree⟩ hg
  obtain ⟨xfs'', hrun', -, -, hpersists⟩ := hkeeps
  rw [hrun] at hrun'
  cases hrun'
  refine ⟨xfs', hrun, hinv', hfiles.persists hpersists, fun i y hy hreg => ?_⟩
  rw [ha i y hy hreg, htree, hy]
  exact ⟨g i y, rfl, (hg i y).2, (hg i y).1, rfl⟩

/-! ## The calls -/

theorem increment_tells (hinv : Inv xfs) (hfiles : FilesApart xfs.tree) {inum : Nat}
    (hfits : ∀ y, xfs.tree inum = some y → y.openCount.toNat + 1 < 2 ^ 32) :
    Tells xfs (.change (.call (.incrementFileOpenCount inum)))
      (xfsIncrementFileOpenCount xfs inum) := by
  have hsame : ∀ y : Entry, y.opened.generation = y.generation ∧ y.opened.mode = y.mode := by
    intro y
    rw [Entry.opened]
    split
    · exact ⟨rfl, rfl⟩
    · exact ⟨rfl, rfl⟩
  apply (xfsIncrementFileOpenCount_rewrites hinv inum).tells hfiles (onlyAt_same hsame)
  intro i y hy hreg
  rw [happens, onlyAt]
  by_cases hi : i = inum
  · have hcount : (y.openCount + 1).toNat = y.openCount.toNat + 1 := by
      rw [UInt32.toNat_add]
      exact Nat.mod_eq_of_lt (hfits y (hi ▸ hy))
    rw [if_pos hi, if_pos hi, Entry.opened, if_pos hreg, Entry.file, OpenFile.next]
    simp only [Entry.file, hcount]
  · rw [if_neg hi, if_neg hi]
    rfl

theorem setDeviceId_tells (hinv : Inv xfs) (hfiles : FilesApart xfs.tree) {inum : Nat}
    (hfixed : ¬Tree.Fixed inum) (deviceId : UInt32) :
    Tells xfs (.change (.call (.setDeviceId inum hfixed deviceId)))
      (setDeviceId xfs inum deviceId) := by
  apply (setDeviceId_rewrites hinv hfixed deviceId).tells hfiles (onlyAt_same fun _ => ⟨rfl, rfl⟩)
  intro i y _ _
  rw [happens, onlyAt]
  split
  · rfl
  · rfl

/-- The count of a file that is closed. -/
theorem Entry.lowered_count {y : Entry} (hreg : y.isReg) :
    y.lowered.openCount.toNat = y.openCount.toNat - 1 := by
  rw [Entry.lowered]
  split
  case isTrue hopen =>
    have hpos : 0 < y.openCount.toNat := UInt32.lt_iff_toNat_lt.1 hopen.2
    have hone : (1 : UInt32) ≤ y.openCount := by
      rw [UInt32.le_iff_toNat_le, UInt32.toNat_one]
      exact hpos
    show (y.openCount - 1).toNat = _
    rw [UInt32.toNat_sub_of_le _ _ hone, UInt32.toNat_one]
  case isFalse hclosed =>
    have hzero : ¬0 < y.openCount.toNat := fun hpos =>
      hclosed ⟨hreg, UInt32.lt_iff_toNat_lt.2 hpos⟩
    omega

/-- Nothing is in a file that is closed, and nothing else changes. -/
theorem Removed.closed_other (hinv : Inv xfs) (hfiles : FilesApart xfs.tree) {inum : Nat} {t' : Tree}
    (h : Removed (fun i => (xfs.tree i).map (onlyAt inum Entry.lowered i)) t' fun i =>
      (∃ y, xfs.tree inum = some y ∧ y.isReg ∧ y.lowered.openCount = 0 ∧
        y.parent = some DELETE_PENDING_ID) ∧ (i = inum ∨ Under xfs.tree.parent inum i))
    {i : Nat} (hi : i ≠ inum) : t' i = xfs.tree i := by
  rw [h.same i]
  · cases xfs.tree i with
    | none => rfl
    | some y => exact congrArg some (if_neg hi)
  · rintro ⟨⟨w, hw, hwreg, -, hpending⟩, hiw⟩
    obtain ⟨z, hz, hentry, -⟩ := exists_inode hinv.numbered hw
    have hp : xfs.tree.parent inum = some DELETE_PENDING_ID := (Tree.parent_of_eq hw).trans hpending
    have hdir : ¬z.isDir := by
      have happart := hfiles inum w hw hwreg
      rw [← hentry] at happart
      exact happart
    refine not_under_of_empty (hinv.empty_of_not_dir hz hdir fun heq => ?_) (hiw.resolve_left hi)
    exact hinv.not_fixed hp (.inr heq)

theorem decrement_tells (hinv : Inv xfs) (hfiles : FilesApart xfs.tree) (inum : Nat) :
    Tells xfs (.change (.call (.decrementFileOpenCount inum)))
      (xfsDecrementFileOpenCount xfs inum) := by
  obtain ⟨xfs', hrun, hinv', -, hremoved⟩ := xfsDecrementFileOpenCount_spec hinv inum
  have hpersists := persists_of_removed (onlyAt_same fun y => y.lowered_same.2) hremoved
  refine ⟨xfs', hrun, hinv', hfiles.persists hpersists, fun i y hy hreg => ?_⟩
  rw [happens]
  by_cases hi : i = inum
  · subst hi
    have hcount := Entry.lowered_count hreg
    obtain ⟨hparent, hgeneration, hmode⟩ := y.lowered_same
    have hwritten : (xfs.tree i).map (onlyAt i Entry.lowered i) = some y.lowered := by
      rw [hy, Option.map_some, onlyAt, if_pos rfl]
    rw [if_pos rfl, OpenFile.next]
    by_cases hlast : y.file.deleted ∧ y.file.count ≤ 1
    · obtain ⟨hdeleted, hone⟩ := hlast
      have hpending : y.parent = some DELETE_PENDING_ID := of_decide_eq_true hdeleted
      have hzero : y.lowered.openCount = 0 := by
        rw [← UInt32.toNat_inj, hcount]
        have hle : y.openCount.toNat ≤ 1 := hone
        exact Nat.sub_eq_zero_of_le hle
      have hnone : y.lowered.removed = none := by
        rw [Entry.removed, hzero]
        exact if_neg fun h => absurd h.2 (by decide)
      rw [if_pos ⟨hdeleted, hone⟩]
      show xfs'.tree i = none
      rw [hremoved.gone i ⟨⟨y, hy, hreg, hzero, hpending⟩, .inl rfl⟩, hwritten, Option.bind_some, hnone]
    · rw [if_neg hlast]
      refine ⟨y.lowered, ?_, hmode, hgeneration, ?_⟩
      · rw [hremoved.same i, hwritten]
        rintro ⟨⟨w, hw, -, hzero, hpending⟩, -⟩
        rw [hy] at hw
        cases hw
        refine hlast ⟨decide_eq_true hpending, ?_⟩
        rw [hzero] at hcount
        have hle : 0 = y.openCount.toNat - 1 := hcount
        show y.openCount.toNat ≤ 1
        omega
      · simp only [Entry.file, hcount, hparent]
  · rw [if_neg hi, hremoved.closed_other hinv hfiles hi, hy]
    exact becomes_same y

theorem deleteDevice_tells (hinv : Inv xfs) (hfiles : FilesApart xfs.tree) (deviceId : UInt32) :
    Tells xfs (.change (.call (.deleteEntriesWithDeviceId deviceId)))
      (xfsDeleteEntriesWithDeviceId xfs deviceId) := by
  by_cases hdevice : deviceId = 0
  · rw [xfsDeleteEntriesWithDeviceId, if_neg fun h => h hdevice]
    refine ⟨xfs, rfl, hinv, hfiles, fun i y hy _ => ?_⟩
    rw [happens, if_pos hdevice, hy]
    exact becomes_same y
  · obtain ⟨xfs', hrun, hinv', -, hremoved⟩ := xfsDeleteEntriesWithDeviceId_spec hinv hdevice
    have hsame : ∀ y : Entry, (y.cleared deviceId).generation = y.generation ∧
        (y.cleared deviceId).mode = y.mode := by
      intro y
      rw [Entry.cleared]
      split
      · exact ⟨rfl, rfl⟩
      · exact ⟨rfl, rfl⟩
    have hpersists := persists_of_removed (fun _ => hsame) hremoved
    refine ⟨xfs', hrun, hinv', hfiles.persists hpersists, fun i y hy hreg => ?_⟩
    have hwritten : (xfs.tree i).map (Entry.cleared deviceId) = some (y.cleared deviceId) := by
      rw [hy, Option.map_some]
    rw [happens, if_neg hdevice]
    by_cases hown : y.deviceId = deviceId
    · have hcleared : y.cleared deviceId = { y with openCount := 0 } := if_pos ⟨hown, hreg⟩
      have hnone : ({ y with openCount := 0 } : Entry).removed = none :=
        if_neg fun h => absurd h.2 (by decide : ¬(0 : UInt32) > 0)
      rw [if_pos ⟨y, hy, hown⟩]
      show xfs'.tree i = none
      rw [hremoved.gone i ⟨i, y, trivial, hy, hown, .inl rfl⟩, hwritten, hcleared, Option.bind_some,
        hnone]
    · have hcleared : y.cleared deviceId = y := if_neg fun h => hown h.1
      rw [hcleared] at hwritten
      have hnot : ¬∃ w, xfs.tree i = some w ∧ w.deviceId = deviceId := by
        rintro ⟨w, hw, hwd⟩
        rw [hy] at hw
        cases hw
        exact hown hwd
      rw [if_neg hnot]
      by_cases hin : OnDevice xfs.tree deviceId (fun _ => True) i
      · rw [if_pos hin, hremoved.gone i hin, hwritten]
        exact becomes_deleted hreg
      · rw [if_neg hin, hremoved.same i hin, hwritten]
        exact becomes_same y

theorem move_tells (hinv : Inv xfs) (hfiles : FilesApart xfs.tree) {inum newParentInum : Nat}
    {name : List UInt8} (hfits : MoveFits xfs inum newParentInum name) :
    Tells xfs (.change (.move inum newParentInum name))
      (change xfs (.move inum newParentInum name)) := by
  by_cases hchecks : MoveChecks xfs inum newParentInum name
  · obtain ⟨hdx, hfixed, hkept⟩ := hfits hchecks
    obtain ⟨xfs', hrun, hinv', hmoved⟩ := moveEntry_moves hinv hchecks hdx hfixed hkept
    refine ⟨xfs', ?_, hinv', hfiles.persists hmoved.persists, fun i y hy hreg => ?_⟩
    · rw [change, hrun]
      rfl
    · rw [happens, if_pos hchecks]
      by_cases hi : i = inum
      · obtain ⟨w, hw, hw'⟩ := hmoved.entry
        rw [← hi, hy] at hw
        cases hw
        rw [if_pos hi, hi, hw']
        refine ⟨_, rfl, rfl, rfl, ?_⟩
        have hnot : ¬some newParentInum = some DELETE_PENDING_ID := fun heq =>
          hchecks.notPending (Option.some_injective _ heq)
        simp [Entry.file, hnot]
      · rw [if_neg hi]
        by_cases hreplaced : Replaced xfs.tree inum newParentInum name i
        · rw [if_pos hreplaced, hmoved.replaced i hreplaced, hy, Option.bind_some]
          exact becomes_deleted hreg
        · rw [if_neg hreplaced, hmoved.same i hi hreplaced, hy]
          exact becomes_same y
  · refine ⟨xfs, ?_, hinv, hfiles, fun i y hy _ => ?_⟩
    · rw [change, moveEntry_refused hinv hchecks]
      rfl
    · rw [happens, if_neg hchecks, hy]
      exact becomes_same y

/-- A new entry is a directory or a file. -/
theorem sanitised_apart (mode : UInt32) (hreg : sanitised mode &&& S_IFREG ≠ 0) :
    ¬sanitised mode &&& S_IFDIR ≠ 0 := by
  have hnone : ∀ bits flag : UInt32, 0o777 &&& flag = 0 → bits &&& flag = 0 →
      ((mode &&& 0o777) ||| bits) &&& flag = 0 := by
    intro bits flag hmode hbits
    have hdistrib : ((mode &&& 0o777) ||| bits) &&& flag =
        ((mode &&& 0o777) &&& flag) ||| (bits &&& flag) :=
      UInt32.toBitVec_inj.1 BitVec.and_or_distrib_right
    rw [hdistrib, hbits, UInt32.and_assoc, hmode, UInt32.and_zero, UInt32.or_zero]
  rw [sanitised] at hreg ⊢
  split at hreg
  case isTrue => exact absurd (hnone S_IFDIR S_IFREG (by decide) (by decide)) hreg
  case isFalse hdir =>
    rw [if_neg hdir, hnone S_IFREG S_IFDIR (by decide) (by decide)]
    exact fun h => h rfl

theorem FilesApart.add {t t' : Tree} (h : FilesApart t) {inum parentInum : Nat} {generation : UInt32}
    {parent : XfsInode} {name : List UInt8} {mode : UInt32}
    (ht' : t' = update t inum (some (newEntry generation parentInum parent name (sanitised mode)))) :
    FilesApart t' := by
  intro i y' hy' hreg
  rw [ht'] at hy'
  by_cases hi : i = inum
  · rw [hi, update_self] at hy'
    cases hy'
    have hreg' : sanitised mode &&& S_IFREG ≠ 0 := of_decide_eq_true hreg
    exact fun hdir => sanitised_apart mode hreg' (of_decide_eq_true hdir)
  · rw [update_of_ne hi] at hy'
    exact h i y' hy' hreg

theorem add_tells (hinv : Inv xfs) (hfiles : FilesApart xfs.tree) {parentInum : Nat}
    {name : List UInt8} {mode : UInt32} {allocs : AddAllocs}
    (hholds : TableHolds xfs (.add parentInum name mode allocs)) :
    Tells xfs (.change (.call (.add parentInum name mode allocs)))
      (step xfs (.add parentInum name mode allocs)) := by
  have hnothing : ∀ {xfs'}, xfs'.tree = xfs.tree → Inv xfs' →
      step xfs (.add parentInum name mode allocs) = .ok xfs' →
        Tells xfs (.change (.call (.add parentInum name mode allocs)))
          (step xfs (.add parentInum name mode allocs)) := by
    intro xfs' htree hinv' hrun
    refine ⟨xfs', hrun, hinv', htree ▸ hfiles, fun i y hy _ => ?_⟩
    rw [htree, hy]
    exact becomes_same y
  by_cases hchecks : ∃ parent, AddChecks xfs parentInum name parent
  · obtain ⟨parent, hparent⟩ := hchecks
    obtain ⟨result, xfs', hrun, hadded⟩ := xfsAddEntry_spec hinv hparent
      (fun hfree => hholds hfree ⟨parent, hparent⟩) mode allocs
    have hstep : step xfs (.add parentInum name mode allocs) = .ok xfs' := by
      rw [step, hrun]
      rfl
    cases result with
    | none => exact hnothing (hadded.failed rfl) hadded.inv hstep
    | some inum =>
      obtain ⟨-, hnone, htree⟩ := hadded.added inum rfl
      have hnone' : xfs.tree inum = none := by
        rw [tree, hnone]
        rfl
      refine ⟨xfs', hstep, hadded.inv, hfiles.add htree, fun i y hy _ => ?_⟩
      have hi : i ≠ inum := by
        rintro rfl
        rw [hnone'] at hy
        cases hy
      rw [htree, update_of_ne hi, hy]
      exact becomes_same y
  · apply hnothing rfl hinv
    rw [step, xfsAddEntry_of_not_checks hinv fun parent hp => hchecks ⟨parent, hp⟩]
    rfl

/-- **A call that changes the file system** does to a file what it should. -/
theorem change_tells (hinv : Inv xfs) (hfiles : FilesApart xfs.tree) {c : Change}
    (hfits : (FileCall.change c).Fits xfs) : Tells xfs (.change c) (change xfs c) := by
  obtain ⟨hfits, hcounts⟩ := hfits
  cases c with
  | move inum newParentInum name => exact move_tells hinv hfiles hfits
  | call op =>
    cases op with
    | add parentInum name mode allocs => exact add_tells hinv hfiles hfits
    | removeEntry inum h =>
      exact (xfsRemoveEntry_removes hinv h).tells hfiles (fun _ hi => if_pos hi) fun _ hi => if_neg hi
    | removeDirectoryContents inum h =>
      exact (xfsRemoveDirectoryContents_removes hinv h).tells hfiles (fun _ hi => if_pos hi)
        fun _ hi => if_neg hi
    | incrementFileOpenCount inum =>
      exact increment_tells hinv hfiles fun y hy => hcounts inum y rfl hy
    | decrementFileOpenCount inum => exact decrement_tells hinv hfiles inum
    | deleteEntriesWithDeviceId deviceId => exact deleteDevice_tells hinv hfiles deviceId
    | setDeviceId inum h deviceId => exact setDeviceId_tells hinv hfiles h deviceId

/-- A call that begins with a look at the table. -/
theorem Inv.looked_up (hinv : Inv xfs) {α : Type} {inum : Nat} {other : α}
    {f : Option XfsInode → Run α} (hf : ∀ x, ∃ r, f x = .ok r) :
    ∃ r, (if inum < xfs.inodeCount then do
      let x ← xfs.tableAt inum
      f x
    else .ok other) = .ok r := by
  split
  case isTrue hlt =>
    rw [hinv.tableAt_eq hlt, Run.ok_bind]
    exact hf _
  case isFalse => exact ⟨other, rfl⟩

/-- A lookup ends, and what is found is in the directory and has the name. -/
theorem xfsLookupInDir_ends (hinv : Inv xfs) (inum : Nat) (name : List UInt8) :
    ∃ found, xfsLookupInDir xfs inum name = .ok found ∧ ∀ i, found = some i →
      ∃ w, xfs.tree i = some w ∧ w.parent = some inum ∧ w.name = name := by
  cases hz : xfs.inodeTable inum with
  | none =>
    refine ⟨none, ?_, fun _ h => nomatch h⟩
    rw [xfsLookupInDir]
    split
    case isTrue hlt =>
      rw [hinv.tableAt_eq hlt, Run.ok_bind, hz]
      rfl
    case isFalse => rfl
  | some z =>
    by_cases hdir : z.isDir = true
    · obtain ⟨found, hrun, -, hsome⟩ := xfsLookupInDir_spec hinv hz hdir name
      exact ⟨found, hrun, hsome⟩
    · have hlt := hinv.lt_count (i := inum) (by rw [tree_of_eq hz]; rfl)
      refine ⟨none, ?_, fun _ h => nomatch h⟩
      rw [xfsLookupInDir, if_pos hlt, hinv.tableAt_eq hlt, Run.ok_bind, hz]
      exact if_neg hdir

/-- **A call that looks at an inode ends**, if it does not ask for the path of a deleted one. -/
theorem ask_ends (hinv : Inv xfs) {q : Query} (hfits : (FileCall.query q).Fits xfs) :
    ask xfs q = .ok () := by
  have hends : ∀ {α : Type} {run : Run α}, (∃ r, run = .ok r) → (do
      let _ ← run
      pure ()) = (.ok () : Run Unit) := by
    rintro α run ⟨r, rfl⟩
    rfl
  cases q with
  | get inum => exact hends ⟨_, hinv.xfsGet_eq inum⟩
  | getFullPath inum memory => exact hends ((xfsGetFullPath_iff hinv inum memory).2 hfits)
  | getFileOpenCount inum =>
    apply hends
    apply hinv.looked_up
    rintro (- | x)
    · exact ⟨0, rfl⟩
    · exact ⟨_, rfl⟩
  | lookupInDir inum name =>
    obtain ⟨found, hrun, -⟩ := xfsLookupInDir_ends hinv inum name
    exact hends ⟨found, hrun⟩
  | isDirEmpty inum =>
    apply hends
    apply hinv.looked_up
    rintro (- | x)
    · exact ⟨false, rfl⟩
    · exact ⟨_, rfl⟩
  | opendir inum =>
    apply hends
    apply hinv.looked_up
    rintro (- | x)
    · exact ⟨none, rfl⟩
    · dsimp only
      split
      · exact ⟨_, rfl⟩
      · exact ⟨_, rfl⟩
  | checkMoveEntry inum newParentInum name =>
    obtain ⟨passes, hrun, -⟩ := xfsCheckMoveEntry_spec hinv inum newParentInum name
    exact hends ⟨passes, hrun⟩

/-- **Any call that fits** does to a file what it should. -/
theorem call_tells (hinv : Inv xfs) (hfiles : FilesApart xfs.tree) {a : FileCall}
    (hfits : a.Fits xfs) : Tells xfs a (fileCall xfs a) := by
  cases a with
  | change c => exact change_tells hinv hfiles hfits
  | query q =>
    refine ⟨xfs, ?_, hinv, hfiles, fun i y hy _ => ?_⟩
    · rw [fileCall, ask_ends hinv hfits]
      rfl
    · rw [hy]
      exact becomes_same y

/-! ## Runs -/

/-- The inode `i` is got by its number; it is the one it was, and is to be the file `f`. -/
def Shows (xfs : XfsFs) (i : Nat) (z : XfsInode) (f : OpenFile) : Prop :=
  ∃ z', xfsGet xfs i = .ok (some z') ∧ z'.inum = i ∧ z'.mode = z.mode ∧
    z'.generation = z.generation ∧ z'.file = f

/-- The inode `i` can be got by its number in a run until its file is freed, and not then. -/
def Follows (i : Nat) (z : XfsInode) : List FileCall → XfsFs → OpenFile → Prop
  | [], xfs, f => Shows xfs i z f
  | a :: as, xfs, f => Shows xfs i z f ∧ ∃ xfs', FileNext xfs a xfs' ∧
    match f.next (happens xfs i a) with
    | none => xfsGet xfs' i = .ok none
    | some f' => Follows i z as xfs' f'

/-- **Every call of a run ends, and from any time on a file is kept until it should be freed.** -/
def OpenFilesKept (umask : UInt32) (acts : List FileCall) : Prop :=
  (∀ before, before <+: acts → ∃ xfs, Runs.Leads FileNext (created umask) before xfs) ∧
  ∀ before after xfs i z, before ++ after = acts → Runs.Leads FileNext (created umask) before xfs →
    xfsGet xfs i = .ok (some z) → z.isReg → Follows i z after xfs z.file

theorem fileNext_unique (xfs : XfsFs) (a : FileCall) (xfs₁ xfs₂ : XfsFs) (h₁ : FileNext xfs a xfs₁)
    (h₂ : FileNext xfs a xfs₂) : xfs₁ = xfs₂ :=
  Except.ok.inj ((Eq.symm h₁).trans h₂)

/-- By induction on the run, with the file as it is. -/
theorem follows (hinv : Inv xfs) (hfiles : FilesApart xfs.tree) {i : Nat} {z : XfsInode}
    {as : List FileCall} (hfit : Runs.AllFit FileNext FileCall.Fits xfs as) {y : Entry}
    (hy : xfs.tree i = some y) (hreg : y.isReg) (hmode : y.mode = z.mode)
    (hgeneration : y.generation = z.generation) : Follows i z as xfs y.file := by
  have hshows : ∀ {xfs y}, Inv xfs → xfs.tree i = some y → y.mode = z.mode →
      y.generation = z.generation → Shows xfs i z y.file := by
    intro xfs y hinv hy hmode hgeneration
    obtain ⟨w, hw, rfl, hnum⟩ := exists_inode hinv.numbered hy
    exact ⟨w, by rw [hinv.xfsGet_eq, hw], hnum, hmode, hgeneration, rfl⟩
  induction as generalizing xfs y with
  | nil => exact hshows hinv hy hmode hgeneration
  | cons a as ih =>
    obtain ⟨hfits, hrest⟩ := hfit
    obtain ⟨xfs', hrun, hinv', hfiles', htells⟩ := call_tells hinv hfiles hfits
    have hbecomes := htells i y hy hreg
    refine ⟨hshows hinv hy hmode hgeneration, xfs', hrun, ?_⟩
    cases hnext : y.file.next (happens xfs i a) with
    | none =>
      rw [hnext] at hbecomes
      have hnone : xfs'.inodeTable i = none := Option.map_eq_none_iff.1 hbecomes
      show xfsGet xfs' i = .ok none
      rw [hinv'.xfsGet_eq, hnone]
    | some f' =>
      rw [hnext] at hbecomes
      obtain ⟨y', hy', hmode', hgeneration', rfl⟩ := hbecomes
      have hreg' : y'.isReg := by
        rw [Entry.isReg, hmode']
        exact hreg
      exact ih hinv' hfiles' (hrest xfs' hrun) hy' hreg' (hmode'.trans hmode)
        (hgeneration'.trans hgeneration)

theorem created_apart (umask : UInt32) : FilesApart (created umask).tree := by
  intro i y hy hreg
  obtain ⟨x, hx, rfl⟩ := Option.map_eq_some_iff.1 hy
  have hmode : x.mode = (S_IFDIR ||| 0o777) &&& ~~~umask := by
    rw [created] at hx
    dsimp only at hx
    split at hx
    · cases hx
      rfl
    · split at hx
      · cases hx
        rfl
      · cases hx
  have hnone : ((S_IFDIR ||| 0o777) &&& ~~~umask) &&& S_IFREG = 0 := by
    rw [UInt32.and_comm (S_IFDIR ||| 0o777), UInt32.and_assoc]
    exact UInt32.and_zero
  have hreg' : x.mode &&& S_IFREG ≠ 0 := of_decide_eq_true hreg
  rw [hmode] at hreg'
  exact absurd hnone hreg'

/-- **A file that is deleted while it is open is kept until it is closed, and every call ends**, in any
run that fits: if no path is asked for of what is in delete-pending. -/
theorem open_files_kept (umask : UInt32) (acts : List FileCall)
    (hfit : Runs.AllFit FileNext FileCall.Fits (created umask) acts) :
    OpenFilesKept umask acts := by
  have hstep : ∀ xfs a, Inv xfs ∧ FilesApart xfs.tree → FileCall.Fits xfs a →
      ∃ xfs', FileNext xfs a xfs' ∧ Inv xfs' ∧ FilesApart xfs'.tree := by
    rintro xfs a ⟨hinv, hfiles⟩ hfits
    obtain ⟨xfs', hrun, hinv', hfiles', -⟩ := call_tells hinv hfiles hfits
    exact ⟨xfs', hrun, hinv', hfiles'⟩
  have hgood : Inv (created umask) ∧ FilesApart (created umask).tree :=
    ⟨created_inv umask, created_apart umask⟩
  have halways := Runs.always_of_fits hstep hgood hfit
  constructor
  · intro before hbefore
    obtain ⟨xfs, hleads, -⟩ := halways before hbefore
    exact ⟨xfs, hleads⟩
  · rintro before after xfs i z rfl hleads hget hreg
    obtain ⟨xfs', hleads', hinv, hfiles⟩ := halways before (List.prefix_append _ _)
    obtain rfl := Runs.leads_unique fileNext_unique hleads' hleads
    rw [hinv.xfsGet_eq] at hget
    have hz : xfs'.inodeTable i = some z := Except.ok.inj hget
    exact follows hinv hfiles (Runs.allFit_of_append hfit hleads) (tree_of_eq hz) hreg rfl rfl

/-! ## A file that is deleted while it is open -/

def openedAndDeleted : List FileCall :=
  [.change (.call (.add FUSE_ROOT_ID [0x61] 0 ⟨true, true, true⟩)),
    .change (.call (.incrementFileOpenCount 3)),
    .change (.call (.removeEntry 3 not_fixed_three))]

/-- The file is made. -/
theorem created_file : ∃ xfs,
    change (created 0) (.call (.add FUSE_ROOT_ID [0x61] 0 ⟨true, true, true⟩)) = .ok xfs ∧ Inv xfs ∧
      xfs.tree 3 = some ⟨S_IFREG, [0x61], 1, 0, some FUSE_ROOT_ID, 0⟩ := by
  have hchecks : AddChecks (created 0) FUSE_ROOT_ID [0x61] (fixedInode 1 0 [0x2e] 1) :=
    ⟨rfl, by decide, by decide, by decide, rfl⟩
  obtain ⟨result, xfs, hrun, hadded⟩ := xfsAddEntry_spec (created_inv 0) hchecks
    (fun h => nomatch h) 0 ⟨true, true, true⟩
  obtain ⟨inum, rfl⟩ := Option.ne_none_iff_exists'.1 (hadded.memory rfl rfl rfl)
  obtain ⟨rfl, -, htree⟩ := hadded.added inum rfl
  refine ⟨xfs, ?_, hadded.inv, ?_⟩
  · rw [change, step, hrun]
    rfl
  · rw [htree]
    rfl

/-- It is deleted while it is open, is looked at and closed. -/
theorem open_files_kept_closed : OpenFilesKept 0 (openedAndDeleted ++
    [.query (.get 3), .change (.call (.decrementFileOpenCount 3))]) := by
  apply open_files_kept
  refine ⟨⟨(fun hnil => nomatch hnil), (fun _ _ h => nomatch h)⟩, fun xfs hadd => ?_⟩
  obtain ⟨xfs', hrun, -, htree⟩ := created_file
  obtain rfl := Except.ok.inj (Eq.trans (Eq.symm hrun) hadd)
  refine ⟨⟨trivial, fun inum y heq hy => ?_⟩, fun _ _ => ⟨⟨trivial, (fun _ _ h => nomatch h)⟩,
    fun _ _ => ⟨trivial, fun _ _ => ⟨⟨trivial, (fun _ _ h => nomatch h)⟩, fun _ _ => trivial⟩⟩⟩⟩
  cases heq
  rw [htree] at hy
  cases hy
  decide

/-- **Its path is asked for**, when it is to be opened again: there is no way up to the root. -/
theorem path_of_deleted :
    ¬OpenFilesKept 0 (openedAndDeleted ++ [.query (.getFullPath 3 true)]) := by
  rintro ⟨hends, -⟩
  obtain ⟨xfs, xfs₁, hadd, xfs₂, hopen, xfs₃, hremove, xfs₄, hpath, -⟩ := hends _ (List.prefix_refl _)
  obtain ⟨xfs', hrun, hinv, htree⟩ := created_file
  obtain rfl := Except.ok.inj (Eq.trans (Eq.symm hrun) hadd)
  obtain ⟨xfs₂', hrun₂, hinv₂, -, htree₂⟩ := xfsIncrementFileOpenCount_rewrites hinv 3
  obtain rfl := Except.ok.inj (Eq.trans (Eq.symm hrun₂) hopen)
  obtain ⟨xfs₃', hrun₃, hinv₃, -, hremoved⟩ := xfsRemoveEntry_removes hinv₂ not_fixed_three
  obtain rfl := Except.ok.inj (Eq.trans (Eq.symm hrun₃) hremove)
  have hself : xfs₃'.tree 3 = some ⟨S_IFREG, [0x61], 1, 0, some DELETE_PENDING_ID, 1⟩ := by
    rw [hremoved.gone 3 (.inl rfl), htree₂, htree]
    rfl
  obtain ⟨u, hask, -⟩ := Run.bind_eq_ok.1 hpath
  obtain ⟨r, hpath, -⟩ := Run.bind_eq_ok.1 hask
  exact (xfsGetFullPath_iff hinv₃ 3 true).1 ⟨r, hpath⟩ (by rw [hself]; rfl)
    (.inr (.child (Tree.parent_of_eq hself)))

end Xrdp.Chansrv
