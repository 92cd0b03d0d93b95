import Xrdp.Chansrv.FuseCallbacks
import Xrdp.Lib.Gives

/-!
# Callbacks and the entries they are about

* `StillMeans` — a number that has been remembered means what it did then.
* `Concerns`, `ActsOnItsOwn` — the entries that a callback may change, if they are still meant.
* `CompleteFits` — a callback whose numbers have not been used again.
* `completion_acts` — such a callback ends, answers its request once and changes only its own entries.
-/

namespace Xrdp.Chansrv

open Forest Function XfsFs ExceptRules

/-- An entry with its attributes. -/
def Xfuse.entryAt (s : Xfuse) (i : Nat) : Option (Entry × XfsAttr) :=
  (s.xfs.tree i).map fun y => (y, s.attr i)

/-- The entry of the number is the one that it meant when the request was made. -/
def StillMeans (s : Xfuse) (w : Waiting) (i : Nat) : Prop :=
  (s.xfs.tree i).isSome ∧ s.denotes i = w.denoted i

/-- The entry is in the directory `d` and has the name. -/
def Named (t : Tree) (d : Nat) (name : List UInt8) (i : Nat) : Prop :=
  ∃ y, t i = some y ∧ y.parent = some d ∧ y.name = name

/-- The entries that the request is about, as long as its numbers mean what they did. -/
def Concerns (s s' : Xfuse) (w : Waiting) (i : Nat) : Prop :=
  match w.fip with
  | .stateLookup pinum name existingInum _ =>
    StillMeans s w pinum ∧ (Named s'.xfs.tree pinum name i ∨
      ∃ e, Named s.xfs.tree pinum name e ∧ (i = e ∨ Under s.xfs.tree.parent e i)) ∨
    StillMeans s w existingInum ∧ (i = existingInum ∨ Under s.xfs.tree.parent existingInum i)
  | .stateSetattr inum _ _ => StillMeans s w inum ∧ i = inum
  | .stateOpen inum => StillMeans s w inum ∧ i = inum
  | .stateCreate pinum name _ => StillMeans s w pinum ∧ Named s'.xfs.tree pinum name i
  | .stateWrite inum => StillMeans s w inum ∧ i = inum
  | .stateRemove inum => StillMeans s w inum ∧ (i = inum ∨ Under s.xfs.tree.parent inum i)
  | .stateRename pinum newPinum name => StillMeans s w pinum ∧ StillMeans s w newPinum ∧
    (i = pinum ∨ Replaced s.xfs.tree pinum newPinum name i)
  | .stateClose inum => StillMeans s w inum ∧ i = inum

/-- **A callback answers its request, once, and changes nothing but what it is about.** -/
structure ActsOnItsOwn (s s' : Xfuse) (w : Waiting) : Prop where
  replied : ∃ r, s'.replies = s.replies ++ [(w.req, r)]
  own : ∀ i, s'.entryAt i ≠ s.entryAt i → Concerns s s' w i

/-- The number is not in use, or means what it did. -/
def NotReused (s : Xfuse) (w : Waiting) (i : Nat) : Prop := s.xfs.tree i = none ∨ StillMeans s w i

/-- Files stay files, and directories directories. -/
def SameType (m m' : UInt32) : Prop := m &&& (S_IFREG ||| S_IFDIR) = m' &&& (S_IFREG ||| S_IFDIR)

/-- There is room for an entry, or the table can grow. -/
def HasRoom (xfs : XfsFs) : Prop :=
  xfs.freeList = [] → xfs.inodeCount + INODE_TABLE_ALLOCATION_GRANULARITY < 2 ^ 32

/-- The numbers that the callback uses have not been used again, and the entry is there that it does
not look for; files stay files. -/
def CompleteFits (s : Xfuse) (w : Waiting) (c : ClientReply) : Prop :=
  match w.fip with
  | .stateLookup pinum _ existingInum existingGeneration =>
    (c.ioStatus = NT_STATUS_SUCCESS → NotReused s w pinum ∧ HasRoom s.xfs) ∧
    (c.ioStatus = NT_STATUS_NO_SUCH_FILE → existingInum ≠ 0 → NotReused s w existingInum ∨
      ∀ y, s.xfs.tree existingInum = some y → y.generation ≠ existingGeneration)
  | .stateSetattr inum fattr changeMask => c.ioStatus = NT_STATUS_SUCCESS → NotReused s w inum ∧
    (changeMask &&& TO_SET_MODE ≠ 0 → ∀ y, s.xfs.tree inum = some y → SameType fattr.mode y.mode)
  | .stateOpen inum => c.ioStatus = 0 → c.handle → NotReused s w inum
  | .stateCreate pinum name mode => c.ioStatus = 0 → NotReused s w pinum ∧ HasRoom s.xfs ∧
    ∀ i y, s.xfs.tree i = some y → Named s.xfs.tree pinum name i → SameType mode y.mode
  | .stateWrite inum => c.ioStatus = NT_STATUS_SUCCESS → NotReused s w inum
  | .stateRemove inum => c.ioStatus = NT_STATUS_SUCCESS ∨ c.ioStatus = NT_STATUS_NO_SUCH_FILE →
    StillMeans s w inum
  | .stateRename pinum newPinum name => c.ioStatus = NT_STATUS_SUCCESS →
    NotReused s w pinum ∧ NotReused s w newPinum ∧ MoveFits s.xfs pinum newPinum name
  | .stateClose inum => NotReused s w inum

/-- What is remembered to be removed is not one of the two fixed directories. -/
def Fip.Removable : Fip → Prop
  | .stateLookup _ _ existingInum _ => existingInum ≠ 0 → ¬Tree.Fixed existingInum
  | .stateRemove inum => ¬Tree.Fixed inum
  | _ => True

/-- The file system is as it should be. -/
structure Xfuse.Good (s : Xfuse) : Prop where
  inv : Inv s.xfs
  files : FilesApart s.xfs.tree

/-- No request has been made or answered. -/
structure Quiet (s s' : Xfuse) : Prop where
  requests : s'.requests = s.requests
  waiting : s'.waiting = s.waiting
  replies : s'.replies = s.replies

/-- After a run that answers nothing, and changes entries in `P`. -/
structure Changed (s s' : Xfuse) (P : Nat → Prop) : Prop where
  good : s'.Good
  quiet : Quiet s s'
  changed : ∀ i, s'.entryAt i ≠ s.entryAt i → P i

/-- After a callback. -/
structure Completed (s : Xfuse) (w : Waiting) (s' : Xfuse) : Prop where
  good : s'.Good
  requests : s'.requests = s.requests
  waiting : s'.waiting = s.waiting
  acts : ActsOnItsOwn s s' w

theorem SameType.same {m m' : UInt32} (h : SameType m m') :
    m &&& S_IFREG = m' &&& S_IFREG ∧ m &&& S_IFDIR = m' &&& S_IFDIR := by
  have hpart : ∀ flag m : UInt32, (S_IFREG ||| S_IFDIR) &&& flag = flag →
      m &&& flag = (m &&& (S_IFREG ||| S_IFDIR)) &&& flag := by
    intro flag m hflag
    rw [UInt32.and_assoc, hflag]
  have hsame : m &&& (S_IFREG ||| S_IFDIR) = m' &&& (S_IFREG ||| S_IFDIR) := h
  constructor
  · rw [hpart S_IFREG m (by decide), hpart S_IFREG m' (by decide), hsame]
  · rw [hpart S_IFDIR m (by decide), hpart S_IFDIR m' (by decide), hsame]

variable {s s' : Xfuse} {w : Waiting} {P Q : Nat → Prop}

theorem Quiet.refl (s : Xfuse) : Quiet s s := ⟨rfl, rfl, rfl⟩

theorem Quiet.trans {s'' : Xfuse} (h : Quiet s s') (h' : Quiet s' s'') : Quiet s s'' where
  requests := h'.requests.trans h.requests
  waiting := h'.waiting.trans h.waiting
  replies := h'.replies.trans h.replies

theorem Changed.refl (h : s.Good) : Changed s s P := ⟨h, .refl s, fun _ hi => absurd rfl hi⟩

theorem Changed.mono (h : Changed s s' P) (hPQ : ∀ i, P i → Q i) : Changed s s' Q :=
  ⟨h.good, h.quiet, fun i hi => hPQ i (h.changed i hi)⟩

theorem Changed.trans {s'' : Xfuse} (h : Changed s s' P) (h' : Changed s' s'' Q) :
    Changed s s'' fun i => P i ∨ Q i where
  good := h'.good
  quiet := h.quiet.trans h'.quiet
  changed i hi := by
    by_cases hmid : s'.entryAt i = s.entryAt i
    · rw [← hmid] at hi
      exact .inr (h'.changed i hi)
    · exact .inl (h.changed i hmid)

/-- **The request is answered** after changes to entries it is about. -/
theorem Changed.completed (h : Changed s s' P) (hP : ∀ i, P i → Concerns s s' w i) (r : Reply) :
    Completed s w (s'.reply w.req r) where
  good := ⟨h.good.inv, h.good.files⟩
  requests := h.quiet.requests
  waiting := h.quiet.waiting
  acts := {
    replied := ⟨r, congrArg (· ++ [(w.req, r)]) h.quiet.replies⟩
    own := fun i hi => hP i (h.changed i hi) }

/-- The request is answered, and nothing is done. -/
theorem Xfuse.Good.completed (h : s.Good) (r : Reply) : Completed s w (s.reply w.req r) :=
  (Changed.refl (P := fun _ => False) h).completed (fun _ hi => hi.elim) r

theorem NotReused.means {i : Nat} (h : NotReused s w i) (hi : (s.xfs.tree i).isSome) :
    StillMeans s w i := by
  apply h.resolve_left
  intro hnone
  rw [hnone] at hi
  cases hi

theorem entryAt_eq (hattr : s'.attr = s.attr) {i : Nat} (htree : s'.xfs.tree i = s.xfs.tree i) :
    s'.entryAt i = s.entryAt i := by
  rw [Xfuse.entryAt, htree, hattr]
  rfl

theorem tree_eq_entryAt (s : Xfuse) (i : Nat) : s.xfs.tree i = (s.entryAt i).map Prod.fst := by
  rw [Xfuse.entryAt]
  cases s.xfs.tree i with
  | none => rfl
  | some y => rfl

theorem Changed.same (h : Changed s s' P) {i : Nat} (hP : ¬P i) : s'.xfs.tree i = s.xfs.tree i := by
  rw [tree_eq_entryAt, tree_eq_entryAt]
  congr 1
  by_contra hne
  exact hP (h.changed i hne)

/-- **A change of the file system**, where the attributes stay. -/
theorem changed_setXfs {xfs' : XfsFs} (hinv : Inv xfs') (hfiles : FilesApart xfs'.tree)
    (hsame : ∀ i, ¬P i → xfs'.tree i = s.xfs.tree i) : Changed s (s.setXfs xfs') P := by
  refine ⟨⟨hinv, hfiles⟩, ⟨rfl, rfl, rfl⟩, fun i hi => ?_⟩
  by_contra hP
  have hattr : (s.setXfs xfs').attr = s.attr := rfl
  exact hi (entryAt_eq hattr (hsame i hP))

/-- A call that changes entries in `P`. -/
theorem setXfs_changed {R : XfsFs → Prop} {run : Run XfsFs}
    (h : ∃ xfs', run = .ok xfs' ∧ Inv xfs' ∧ FilesApart xfs'.tree ∧
      (∀ i, ¬P i → xfs'.tree i = s.xfs.tree i) ∧ R xfs') :
    Gives (do
      let xfs ← run
      pure (s.setXfs xfs)) fun s' => Changed s s' P ∧ R s'.xfs := by
  obtain ⟨xfs', rfl, hinv, hfiles, hsame, hR⟩ := h
  exact ⟨s.setXfs xfs', rfl, changed_setXfs hinv hfiles hsame, hR⟩

/-- **A number that is used again means another entry.** -/
theorem denotes_setXfs {xfs' : XfsFs} {i d : Nat} (h : (s.setXfs xfs').denotes i = some d) :
    s.denotes i = some d ∨ s.denotes i = none ∧ d = s.clock := by
  rw [Xfuse.denotes, Xfuse.setXfs] at h
  obtain ⟨z, -, rfl⟩ := Option.map_eq_some_iff.1 h
  rw [Xfuse.denotes]
  dsimp only
  cases s.xfs.inodeTable i with
  | none => exact .inr ⟨rfl, rfl⟩
  | some x => exact .inl rfl

/-! ## The calls -/

/-- The entries stay in their directories, with their names. -/
def NamesKept (t t' : Tree) : Prop := ∀ d name i, Named t d name i → Named t' d name i

/-- What a call does to one entry only. -/
theorem Rewrites.only {xfs : XfsFs} {inum : Nat} {f : Entry → Entry} {run : Run XfsFs}
    (h : Rewrites xfs (onlyAt inum f) run) (hfiles : FilesApart xfs.tree)
    (hf : ∀ y, xfs.tree inum = some y →
      SameType (f y).mode y.mode ∧ (f y).parent = y.parent ∧ (f y).name = y.name) :
    ∃ xfs', run = .ok xfs' ∧ Inv xfs' ∧ FilesApart xfs'.tree ∧
      (∀ i, ¬(i = inum ∧ (xfs.tree inum).isSome) → xfs'.tree i = xfs.tree i) ∧
        NamesKept xfs.tree xfs'.tree := by
  obtain ⟨xfs', hrun, hinv, -, htree⟩ := h
  refine ⟨xfs', hrun, hinv, fun i y' hy' hreg => ?_, fun i hi => ?_, ?_⟩
  · rw [htree] at hy'
    obtain ⟨y, hy, rfl⟩ := Option.map_eq_some_iff.1 hy'
    rw [onlyAt] at hreg ⊢
    split at hreg
    case isTrue heq =>
      subst heq
      rw [if_pos rfl]
      obtain ⟨hregs, hdirs⟩ := (hf y hy).1.same
      rw [Entry.isReg, hregs] at hreg
      rw [Entry.isDir, hdirs]
      exact hfiles i y hy hreg
    case isFalse hne =>
      rw [if_neg hne]
      exact hfiles i y hy hreg
  · rw [htree]
    cases hy : xfs.tree i with
    | none => rfl
    | some y =>
      have hne : i ≠ inum := by
        rintro rfl
        exact hi ⟨rfl, by rw [hy]; rfl⟩
      rw [Option.map_some, onlyAt, if_neg hne]
  · rintro d name i ⟨y, hy, hparent, hname⟩
    refine ⟨onlyAt inum f i y, by rw [htree, hy]; rfl, ?_⟩
    rw [onlyAt]
    split
    case isTrue heq =>
      obtain ⟨-, hp, hn⟩ := hf y (heq ▸ hy)
      exact ⟨hp.trans hparent, hn.trans hname⟩
    case isFalse => exact ⟨hparent, hname⟩

theorem increment_changed (h : s.Good) (inum : Nat) :
    Gives (do
      let xfs ← xfsIncrementFileOpenCount s.xfs inum
      pure (s.setXfs xfs)) fun s' =>
        (Changed s s' fun i => i = inum ∧ (s.xfs.tree inum).isSome) ∧
          NamesKept s.xfs.tree s'.xfs.tree := by
  apply setXfs_changed (R := fun xfs' => NamesKept s.xfs.tree xfs'.tree)
  apply (xfsIncrementFileOpenCount_rewrites h.inv inum).only h.files
  intro y _
  rw [Entry.opened]
  split
  · exact ⟨rfl, rfl, rfl⟩
  · exact ⟨rfl, rfl, rfl⟩

theorem decrement_changed (h : s.Good) (inum : Nat) :
    Gives (do
      let xfs ← xfsDecrementFileOpenCount s.xfs inum
      pure (s.setXfs xfs)) fun s' => Changed s s' fun i => i = inum ∧ (s.xfs.tree inum).isSome := by
  obtain ⟨xfs', hrun, hinv', -, hremoved⟩ := xfsDecrementFileOpenCount_spec h.inv inum
  have hpersists := persists_of_removed (onlyAt_same fun y => y.lowered_same.2) hremoved
  refine ⟨s.setXfs xfs', by rw [hrun]; rfl,
    changed_setXfs hinv' (h.files.persists hpersists) fun i hi => ?_⟩
  by_cases heq : i = inum
  · subst heq
    cases hy : s.xfs.tree i with
    | some y => exact absurd ⟨rfl, by rw [hy]; rfl⟩ hi
    | none =>
      cases hy' : xfs'.tree i with
      | none => rfl
      | some y' =>
        obtain ⟨y, hy'', -⟩ := hpersists i y' hy'
        rw [hy] at hy''
        cases hy''
  · exact hremoved.closed_other h.inv h.files heq

/-- What was free still is. -/
theorem HasRoom.removed {xfs xfs' : XfsFs} {gone : Nat → Prop} (hroom : HasRoom xfs) (hinv : Inv xfs)
    (hinv' : Inv xfs') (hcount : xfs'.inodeCount = xfs.inodeCount)
    (h : Removed xfs.tree xfs'.tree gone) : HasRoom xfs' := by
  intro hfree
  rw [hcount]
  apply hroom
  apply List.eq_nil_iff_forall_not_mem.2
  intro i hi
  obtain ⟨hgt, hlt, hnone⟩ := (hinv.free i).1 hi
  have hnone' : xfs'.inodeTable i = none := by
    cases hz : xfs'.inodeTable i with
    | none => rfl
    | some z =>
      obtain ⟨y, hy, -⟩ := h.persists i _ (tree_of_eq hz)
      rw [tree, hnone] at hy
      cases hy
  have hmem := (hinv'.free i).2 ⟨hgt, hcount ▸ hlt, hnone'⟩
  rw [hfree] at hmem
  cases hmem

theorem remove_changed (h : s.Good) {inum : Nat} (hfixed : ¬Tree.Fixed inum) :
    Gives (do
      let xfs ← xfsRemoveEntry s.xfs inum
      pure (s.setXfs xfs)) fun s' =>
        (Changed s s' fun i => i = inum ∨ Under s.xfs.tree.parent inum i) ∧
          (HasRoom s.xfs → HasRoom s'.xfs) := by
  obtain ⟨xfs', hrun, hinv', hcount, hremoved⟩ := xfsRemoveEntry_removes h.inv hfixed
  exact setXfs_changed (R := fun xfs' => HasRoom s.xfs → HasRoom xfs')
    ⟨xfs', hrun, hinv', h.files.persists hremoved.persists, fun i hi => hremoved.same i hi,
      fun hroom => hroom.removed h.inv hinv' hcount hremoved⟩

/-- The mode of an entry is written, which stays what it is. -/
theorem modifyMode_rewrites {xfs : XfsFs} (hinv : Inv xfs) {inum : Nat} {z : XfsInode}
    (hz : xfs.inodeTable inum = some z) {f : UInt32 → UInt32} (hf : SameType (f z.mode) z.mode) :
    Rewrites xfs (onlyAt inum fun y => { y with mode := f y.mode })
      (xfs.modify inum fun x => { x with mode := f x.mode }) := by
  have hwrites : Relabels inum z { z with mode := f z.mode } := by
    refine ⟨rfl, ?_, rfl, ⟨rfl, rfl, rfl, rfl, rfl⟩, fun _ => rfl⟩
    rw [XfsInode.isDir, XfsInode.isDir, hf.same.2]
  exact modify_rewrites hinv hwrites hz rfl

/-- **The mode and the attributes of an entry are written.** -/
theorem setMode_changed (h : s.Good) {inum : Nat} {y : Entry} (hy : s.xfs.tree inum = some y)
    {f : UInt32 → UInt32} (hf : SameType (f y.mode) y.mode) (a : XfsAttr) :
    Gives (do
      let xfs ← s.xfs.modify inum fun x => { x with mode := f x.mode }
      pure { s.setXfs xfs with attr := update s.attr inum a }) fun s' =>
        Changed s s' (· = inum) ∧ s'.xfs.tree inum = some { y with mode := f y.mode } := by
  obtain ⟨z, hz, rfl, -⟩ := exists_inode h.inv.numbered hy
  have hrewrites := modifyMode_rewrites h.inv hz hf
  have hself := hrewrites
  obtain ⟨xfs₁, hrun₁, -, -, htree₁⟩ := hself
  obtain ⟨xfs', hrun, hinv', hfiles', hsame, -⟩ := hrewrites.only h.files fun w hw => by
    rw [hy] at hw
    cases hw
    exact ⟨hf, rfl, rfl⟩
  obtain rfl := Except.ok.inj (Eq.trans (Eq.symm hrun₁) hrun)
  refine ⟨{ s.setXfs xfs₁ with attr := update s.attr inum a }, by rw [hrun]; rfl,
    ⟨⟨hinv', hfiles'⟩, ⟨rfl, rfl, rfl⟩, fun i hi => ?_⟩, ?_⟩
  · by_contra hne
    apply hi
    rw [Xfuse.entryAt, Xfuse.entryAt]
    dsimp only [Xfuse.setXfs]
    rw [hsame i fun heq => hne heq.1, update_of_ne hne]
  · show xfs₁.tree inum = _
    rw [htree₁, hy, Option.map_some, onlyAt, if_pos rfl]

/-- **The attributes of an entry are set.** -/
theorem updateInodeFileAttributes_changed (h : s.Good) {fattr : FileAttr} {changeMask : UInt32}
    {inum : Nat} {y : Entry} (hy : s.xfs.tree inum = some y)
    (htype : changeMask &&& TO_SET_MODE ≠ 0 → SameType fattr.mode y.mode) (now : Int) :
    Gives (s.updateInodeFileAttributes fattr changeMask inum now) fun s' =>
      Changed s s' (· = inum) ∧ ∃ m, s'.xfs.tree inum = some { y with mode := m } := by
  obtain ⟨z, hz, hentry, -⟩ := exists_inode h.inv.numbered hy
  rw [Xfuse.updateInodeFileAttributes, deref_of_eq hz, Run.ok_bind]
  obtain ⟨setMode, hset⟩ : ∃ b, b = decide (changeMask &&& TO_SET_MODE ≠ 0 ∧ z.mode ≠ fattr.mode) :=
    ⟨_, rfl⟩
  dsimp only
  rw [← hset]
  have hf : SameType (if setMode then fattr.mode else y.mode) y.mode := by
    cases hb : setMode with
    | true =>
      rw [hb] at hset
      exact htype (of_decide_eq_true hset.symm).1
    | false => rfl
  exact (setMode_changed h hy (f := fun m => if setMode then fattr.mode else m) hf _).mono
    fun s' hs' => ⟨hs'.1, _, hs'.2⟩

/-- **An entry is added**, or nothing changes. -/
theorem addEntry_changed (h : s.Good) (hroom : HasRoom s.xfs) (pinum : Nat) (name : List UInt8)
    (mode : UInt32) (allocs : AddAllocs) (now : Int) :
    Gives (s.addEntry pinum name mode allocs now) fun r =>
      (Changed s r.2 fun i => r.1 = some i) ∧
        ∀ i, r.1 = some i → Named r.2.xfs.tree pinum name i ∧ (s.xfs.tree pinum).isSome := by
  have hnothing : ∀ xfs', xfs'.tree = s.xfs.tree → Inv xfs' →
      xfsAddEntry s.xfs pinum name mode allocs = .ok (none, xfs') →
        Gives (s.addEntry pinum name mode allocs now) fun r =>
          (Changed s r.2 fun i => r.1 = some i) ∧
            ∀ i, r.1 = some i → Named r.2.xfs.tree pinum name i ∧ (s.xfs.tree pinum).isSome := by
    intro xfs' htree hinv' hrun
    refine ⟨(none, s.setXfs xfs'), ?_, ⟨⟨hinv', ?_⟩, ⟨rfl, rfl, rfl⟩, fun i hi => ?_⟩,
      fun _ hi => nomatch hi⟩
    · rw [Xfuse.addEntry, hrun]
      rfl
    · show FilesApart xfs'.tree
      rw [htree]
      exact h.files
    · have hattr : (s.setXfs xfs').attr = s.attr := rfl
      exact absurd (entryAt_eq hattr (congrFun htree i)) hi
  by_cases hchecks : ∃ parent, AddChecks s.xfs pinum name parent
  · obtain ⟨parent, hparent⟩ := hchecks
    obtain ⟨result, xfs', hrun, hadded⟩ := xfsAddEntry_spec h.inv hparent hroom mode allocs
    cases result with
    | none => exact hnothing xfs' (hadded.failed rfl) hadded.inv hrun
    | some inum =>
      obtain ⟨-, hnone, htree⟩ := hadded.added inum rfl
      have hself : xfs'.tree inum = some (newEntry s.xfs.generation pinum parent name
          (sanitised mode)) := by rw [htree, update_self]
      obtain ⟨a, ha⟩ : ∃ a : XfsAttr, a = ⟨if mode &&& S_IFDIR ≠ 0 then 4096 else 0, now, now, now⟩ :=
        ⟨_, rfl⟩
      refine ⟨(some inum, { s.setXfs xfs' with attr := update s.attr inum a }), ?_,
        ⟨⟨hadded.inv, h.files.add htree⟩, ⟨rfl, rfl, rfl⟩, fun i hi => ?_⟩, fun i hi => ?_⟩
      · rw [Xfuse.addEntry, hrun, ha]
        rfl
      · by_contra hne
        have hi' : i ≠ inum := fun heq => hne (congrArg some heq.symm)
        apply hi
        rw [Xfuse.entryAt, Xfuse.entryAt]
        dsimp only [Xfuse.setXfs]
        rw [htree, update_of_ne hi', update_of_ne hi']
      · obtain rfl : inum = i := Option.some_injective _ hi
        exact ⟨⟨_, hself, rfl, rfl⟩, by rw [tree_of_eq hparent.inTable]; rfl⟩
  · exact hnothing s.xfs rfl h.inv
      (xfsAddEntry_of_not_checks h.inv (fun parent hp => hchecks ⟨parent, hp⟩) mode allocs)

end Xrdp.Chansrv
