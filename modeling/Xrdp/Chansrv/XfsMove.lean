import Xrdp.Chansrv.XfsRuns

/-!
# Moving entries

* `xfsIsUnder`, `xfsCheckMoveEntry`, `xfsMoveEntry` — the calls.
* `xfsIsUnder_spec` — the distance is zero for an entry that is not under the directory, and for the
  directory itself.
* `MovesRight` — what a move should come to.
* `move_entry_iff` — it comes to that just if the new parent is not the entry itself, the entry is not
  one of the two fixed directories, and what is replaced does not contain the entry.
-/

namespace Xrdp.Chansrv

open Forest Function XfsFs

def EINVAL : Nat := 22

/-- The loop of `xfs_is_under`. -/
def isUnderLoop (xfs : XfsFs) (dxino : Nat) : Nat → Option Nat → UInt32 → Run UInt32
  | 0, _, _ => .error .outOfFuel
  | fuel + 1, exino, count =>
    match exino with
    | none => .ok 0
    | some e =>
      if e = dxino then .ok count
      else do
        let x ← xfs.deref e
        isUnderLoop xfs dxino fuel x.parent (count + 1)

/-- `xfs_is_under`. -/
def xfsIsUnder (xfs : XfsFs) (dir entry : Nat) : Run UInt32 :=
  if dir < xfs.inodeCount then do
    match ← xfs.tableAt dir with
    | none => pure 0
    | some dxino =>
      if dxino.isDir ∧ entry < xfs.inodeCount then
        match ← xfs.tableAt entry with
        | none => pure 0
        | some _ => isUnderLoop xfs dir (xfs.inodeCount + 2) (some entry) 0
      else pure 0
  else .ok 0

/-- `xfs_check_move_entry`. -/
def xfsCheckMoveEntry (xfs : XfsFs) (inum newParentInum : Nat) (name : List UInt8) : Run Bool :=
  if name.length ≤ XFS_MAXFILENAMELEN ∧ inum < xfs.inodeCount then do
    match ← xfs.tableAt inum with
    | none => pure false
    | some _ =>
      if newParentInum ≠ DELETE_PENDING_ID ∧ newParentInum < xfs.inodeCount then
        match ← xfs.tableAt newParentInum with
        | none => pure false
        | some parent =>
          if parent.isDir then do
            let count ← xfsIsUnder xfs inum newParentInum
            pure (decide (count = 0))
          else pure false
      else pure false
  else .ok false

/-- The entry of the target name, if there is one, is removed. -/
def removeTarget (xfs : XfsFs) (newParentInum : Nat) (name : List UInt8) : Run XfsFs := do
  match ← xfsLookupInDir xfs newParentInum name with
  | none => pure xfs
  | some dest => do
    let d ← xfs.deref dest
    xfsRemoveEntry xfs d.inum

/-- `xfs_move_entry`. -/
def xfsMoveEntry (xfs : XfsFs) (inum newParentInum : Nat) (name : List UInt8) :
    Run (Nat × XfsFs) := do
  if ← xfsCheckMoveEntry xfs inum newParentInum name then
    let xino ← xfs.deref inum
    if xino.parent ≠ some newParentInum then
      let xfs ← removeTarget xfs newParentInum name
      let xfs ← unlinkInodeFromParent xfs inum
      let xfs ← linkInodeIntoDirectoryNode xfs newParentInum inum
      let xfs ← xfs.modify inum fun x => { x with name := name }
      pure (0, xfs)
    else if xino.name ≠ name then
      let xfs ← removeTarget xfs newParentInum name
      let xfs ← xfs.modify inum fun x => { x with name := name }
      pure (0, xfs)
    else pure (0, xfs)
  else pure (EINVAL, xfs)

/-! ## What a move should come to -/

/-- The entry `i` is the one that is replaced when `x` is moved to `d` as `name`, or is in it. -/
def Replaced (t : Tree) (x d : Nat) (name : List UInt8) (i : Nat) : Prop :=
  ∃ e y, e ≠ x ∧ t e = some y ∧ y.parent = some d ∧ y.name = name ∧ (i = e ∨ Under t.parent e i)

/-- `x` has been moved to `d` as `name`. -/
structure Moved (t t' : Tree) (x d : Nat) (name : List UInt8) : Prop where
  entry : ∃ y, t x = some y ∧ t' x = some { y with parent := some d, name := name }
  /-- What is in it stays in it. -/
  subtree : ∀ i, Under t.parent x i → t' i = t i
  /-- Only what is replaced is removed, or diverted to delete-pending. -/
  same : ∀ i, i ≠ x → ¬Replaced t x d name i → t' i = t i
  replaced : ∀ i, Replaced t x d name i → t' i = (t i).bind Entry.removed

/-- **What a move should come to**: an error and no change, or an entry that has been moved; and an
error, if the entry would be put in itself or be removed with what it replaces. -/
def MovesRight (xfs : XfsFs) (inum newParentInum : Nat) (name : List UInt8) : Prop :=
  ∃ result xfs', xfsMoveEntry xfs inum newParentInum name = .ok (result, xfs') ∧
    (result ≠ 0 ∧ xfs' = xfs ∨
      result = 0 ∧ Inv xfs' ∧ Moved xfs.tree xfs'.tree inum newParentInum name) ∧
    (newParentInum = inum ∨ Under xfs.tree.parent inum newParentInum → result ≠ 0) ∧
    (Replaced xfs.tree inum newParentInum name inum → result ≠ 0)

/-- The checks of a move, as far as they go. -/
structure MoveChecks (xfs : XfsFs) (inum newParentInum : Nat) (name : List UInt8) : Prop where
  length : name.length ≤ XFS_MAXFILENAMELEN
  live : (xfs.tree inum).isSome
  notPending : newParentInum ≠ DELETE_PENDING_ID
  parentDir : ∃ z, xfs.tree newParentInum = some z ∧ z.isDir
  notUnder : ∀ y, xfs.tree inum = some y → y.isDir → ¬Under xfs.tree.parent inum newParentInum

/-- A move that is refused, or does not go wrong. -/
def MoveFits (xfs : XfsFs) (inum newParentInum : Nat) (name : List UInt8) : Prop :=
  MoveChecks xfs inum newParentInum name →
    newParentInum ≠ inum ∧ ¬Tree.Fixed inum ∧ ¬Replaced xfs.tree inum newParentInum name inum

variable {xfs : XfsFs}

/-! ## The checks -/

/-- **The way up from an entry**: the distance to the directory, if it is met. -/
theorem isUnderLoop_spec (hinv : Inv xfs) (dir : Nat) {e : Nat} (he : (xfs.tree e).isSome)
    {fuel : Nat} {count : UInt32}
    (hfuel : xfs.inodeCount + 2 ≤ fuel + size xfs.tree.parent xfs.inodeCount e)
    (hcount : count.toNat + xfs.inodeCount < 2 ^ 32 + size xfs.tree.parent xfs.inodeCount e) :
    ∃ c, isUnderLoop xfs dir fuel (some e) count = .ok c ∧
      (e = dir ∧ c = count ∨ Under xfs.tree.parent dir e ∧ count < c ∨
        e ≠ dir ∧ ¬Under xfs.tree.parent dir e ∧ c = 0) := by
  have hrooted := hinv.sound.rooted e he
  have hroot : ∀ r, Tree.Fixed r → xfs.tree.parent r = none := fun _ => hinv.sound.parent_fixed
  have hsize := size_le xfs.tree.parent xfs.inodeCount e
  induction hrooted generalizing fuel count with
  | @root e hr =>
    obtain ⟨fuel, rfl⟩ : ∃ k, fuel = k + 2 := ⟨fuel - 2, by omega⟩
    obtain ⟨y, hy⟩ := Option.isSome_iff_exists.1 he
    obtain ⟨z, hz, hentry, -⟩ := exists_inode hinv.numbered hy
    have hp := hroot e hr
    have hparent : z.parent = none := by
      rw [← hp, Tree.parent_of_eq hy, ← hentry]
      rfl
    rw [isUnderLoop]
    by_cases hed : e = dir
    · rw [if_pos hed]
      exact ⟨count, rfl, .inl ⟨hed, rfl⟩⟩
    · rw [if_neg hed, deref_of_eq hz, Run.ok_bind, hparent, isUnderLoop]
      exact ⟨0, rfl, .inr (.inr ⟨hed, not_under_of_parent_eq_none hp, rfl⟩)⟩
  | @step e d hp hrest ih =>
    obtain ⟨fuel, rfl⟩ : ∃ k, fuel = k + 1 := ⟨fuel - 1, by omega⟩
    obtain ⟨y, hy⟩ := Option.isSome_iff_exists.1 he
    obtain ⟨z, hz, hentry, -⟩ := exists_inode hinv.numbered hy
    have hparent : z.parent = some d := by
      rw [← hp, Tree.parent_of_eq hy, ← hentry]
      rfl
    have hd := hinv.isSome_parent hp
    have hless := hinv.size_lt_parent hp
    have hsized := size_le xfs.tree.parent xfs.inodeCount d
    have hnext : (count + 1).toNat = count.toNat + 1 := by
      rw [UInt32.toNat_add]
      exact Nat.mod_eq_of_lt (by rw [UInt32.toNat_one]; omega)
    rw [isUnderLoop]
    by_cases hed : e = dir
    · rw [if_pos hed]
      exact ⟨count, rfl, .inl ⟨hed, rfl⟩⟩
    · rw [if_neg hed, deref_of_eq hz, Run.ok_bind, hparent]
      obtain ⟨c, hrun, hc⟩ := @ih hd fuel (count + 1) (by omega) (by omega) hsized
      refine ⟨c, hrun, .inr ?_⟩
      rcases hc with ⟨rfl, rfl⟩ | ⟨hu, hlt⟩ | ⟨hdd, hu, rfl⟩
      · refine .inl ⟨.child hp, ?_⟩
        rw [UInt32.lt_iff_toNat_lt, hnext]
        exact Nat.lt_succ_self _
      · refine .inl ⟨(Under.child hp).trans hu, ?_⟩
        rw [UInt32.lt_iff_toNat_lt] at hlt ⊢
        omega
      · refine .inr ⟨hed, fun hue => ?_, rfl⟩
        rcases hue.of_parent hp with heq | hud
        · exact hdd heq
        · exact hu hud

/-- **The distance is zero** just if the entry is not under the directory; it is not under itself. -/
theorem xfsIsUnder_spec (hinv : Inv xfs) (dir entry : Nat) :
    ∃ c, xfsIsUnder xfs dir entry = .ok c ∧
      (c = 0 ↔ ∀ y, xfs.tree dir = some y → y.isDir → ¬Under xfs.tree.parent dir entry) := by
  rw [xfsIsUnder]
  split
  case isFalse hlt =>
    refine ⟨0, rfl, iff_of_true rfl fun y hy => absurd (hinv.lt_count ?_) hlt⟩
    rw [hy]
    rfl
  case isTrue hlt =>
    rw [hinv.tableAt_eq hlt, Run.ok_bind]
    cases hz : xfs.inodeTable dir with
    | none =>
      refine ⟨0, rfl, iff_of_true rfl fun y hy => ?_⟩
      rw [tree, hz] at hy
      cases hy
    | some dxino =>
      have htree : ∀ y, xfs.tree dir = some y → y = dxino.entry := fun y hy => by
        rw [tree_of_eq hz] at hy
        exact (Option.some_injective _ hy).symm
      have hlive : ∀ {i}, Under xfs.tree.parent dir i → (xfs.tree i).isSome := by
        intro i hu
        obtain ⟨j, hj, -⟩ := hu.first
        exact Tree.isSome_of_parent hj
      dsimp only
      split
      case isFalse hno =>
        refine ⟨0, rfl, iff_of_true rfl fun y hy hdir hu => hno ?_⟩
        rw [htree y hy] at hdir
        exact ⟨hdir, hinv.lt_count (hlive hu)⟩
      case isTrue hboth =>
        obtain ⟨hdir, hle⟩ := hboth
        rw [hinv.tableAt_eq hle, Run.ok_bind]
        cases he : xfs.inodeTable entry with
        | none =>
          refine ⟨0, rfl, iff_of_true rfl fun y _ _ hu => ?_⟩
          have hsome := hlive hu
          rw [tree, he] at hsome
          cases hsome
        | some exino =>
          have hcount := hinv.count.2
          have hzero : (0 : UInt32).toNat = 0 := rfl
          obtain ⟨c, hrun, hc⟩ := @isUnderLoop_spec xfs hinv dir entry (by rw [tree_of_eq he]; rfl)
            (xfs.inodeCount + 2) 0 (Nat.le_add_right _ _) (by rw [hzero]; omega)
          refine ⟨c, hrun, ?_⟩
          have hself : ∀ i, (xfs.tree i).isSome → ¬Under xfs.tree.parent i i := fun i hi =>
            hinv.sound.not_under_self hi
          rcases hc with ⟨rfl, rfl⟩ | ⟨hu, hlt⟩ | ⟨-, hu, rfl⟩
          · exact iff_of_true rfl fun y hy _ => hself _ (by rw [hy]; rfl)
          · refine iff_of_false (fun hc => ?_) fun h => h _ (tree_of_eq hz) hdir hu
            rw [hc] at hlt
            exact absurd hlt (UInt32.not_lt_zero)
          · exact iff_of_true rfl fun _ _ _ => hu

theorem xfsCheckMoveEntry_spec (hinv : Inv xfs) (inum newParentInum : Nat) (name : List UInt8) :
    ∃ passes, xfsCheckMoveEntry xfs inum newParentInum name = .ok passes ∧
      (passes = true ↔ MoveChecks xfs inum newParentInum name) := by
  rw [xfsCheckMoveEntry]
  split
  case isFalse hno =>
    exact ⟨false, rfl, iff_of_false Bool.false_ne_true fun h =>
      hno ⟨h.length, hinv.lt_count h.live⟩⟩
  case isTrue hyes =>
    obtain ⟨hlen, hlt⟩ := hyes
    rw [hinv.tableAt_eq hlt, Run.ok_bind]
    cases hz : xfs.inodeTable inum with
    | none =>
      refine ⟨false, rfl, iff_of_false Bool.false_ne_true fun h => ?_⟩
      have hlive := h.live
      rw [tree, hz] at hlive
      cases hlive
    | some xino =>
      dsimp only
      split
      case isFalse hno =>
        refine ⟨false, rfl, iff_of_false Bool.false_ne_true fun h => hno ⟨h.notPending, ?_⟩⟩
        obtain ⟨z, hzp, -⟩ := h.parentDir
        exact hinv.lt_count (by rw [hzp]; rfl)
      case isTrue hyes =>
        obtain ⟨hpending, hltp⟩ := hyes
        rw [hinv.tableAt_eq hltp, Run.ok_bind]
        cases hzp : xfs.inodeTable newParentInum with
        | none =>
          refine ⟨false, rfl, iff_of_false Bool.false_ne_true fun h => ?_⟩
          obtain ⟨z, hzp', -⟩ := h.parentDir
          rw [tree, hzp] at hzp'
          cases hzp'
        | some parent =>
          dsimp only
          split
          case isFalse hno =>
            refine ⟨false, rfl, iff_of_false Bool.false_ne_true fun h => hno ?_⟩
            obtain ⟨z, hzp', hdir⟩ := h.parentDir
            rw [tree_of_eq hzp] at hzp'
            cases hzp'
            exact hdir
          case isTrue hdir =>
            obtain ⟨c, hrun, hc⟩ := xfsIsUnder_spec hinv inum newParentInum
            rw [hrun]
            refine ⟨_, rfl, ?_⟩
            rw [decide_eq_true_eq, hc]
            exact ⟨fun h => ⟨hlen, by rw [tree_of_eq hz]; rfl, hpending, ⟨_, tree_of_eq hzp, hdir⟩,
              h⟩, fun h => h.notUnder⟩

/-! ## The entry that is replaced -/

section

variable {t t' t₁ : Tree} {n x d : Nat} {name : List UInt8} {y : Entry}

/-- The new parent is not removed with what is replaced in it. -/
theorem Replaced.ne_parent (h : t.Sound n) {i : Nat} (hi : Replaced t x d name i) : i ≠ d := by
  rintro rfl
  obtain ⟨e, w, -, he, hp, -, heq | hu⟩ := hi
  · rw [heq] at hp
    exact h.not_under_self (by rw [he]; rfl) (.child ((Tree.parent_of_eq he).trans hp))
  · exact h.not_under_self (by rw [he]; rfl)
      (Under.trans (.child ((Tree.parent_of_eq he).trans hp)) hu)

/-- What is in an entry is not removed, if the entry is not and does not contain its new parent. -/
theorem not_replaced_of_under (hdx : d ≠ x) (hout : ¬Under t.parent x d)
    (hx : ¬Replaced t x d name x) {i : Nat} (hu : Under t.parent x i) : ¬Replaced t x d name i := by
  rintro ⟨e, w, hex, he, hp, hname, hie⟩
  have hpe : t.parent e = some d := (Tree.parent_of_eq he).trans hp
  have hnot : ¬Under t.parent x e := by
    intro hue
    rcases hue.of_parent hpe with heq | hud
    · exact hdx heq
    · exact hout hud
  rcases hie with rfl | hie
  · exact hnot hu
  · rcases hu.compare hie with heq | hxe | hxe
    · exact hex heq.symm
    · exact hx ⟨e, w, hex, he, hp, hname, .inr hxe⟩
    · exact hnot hxe

/-- **What a move comes to** after what is replaced has been removed. -/
theorem moved_of_removed (h : t.Sound n) (hremoved : Removed t t₁ (Replaced t x d name))
    (hx : t x = some y) (hdx : d ≠ x) (hout : ¬Under t.parent x d) (hkept : ¬Replaced t x d name x)
    (ht' : t' = update t₁ x (some { y with parent := some d, name := name })) :
    Moved t t' x d name where
  entry := ⟨y, hx, by rw [ht', update_self]⟩
  subtree i hi := by
    have hne : i ≠ x := fun heq => h.not_under_self (by rw [hx]; rfl) (heq ▸ hi)
    rw [ht', update_of_ne hne]
    exact hremoved.same i (not_replaced_of_under hdx hout hkept hi)
  same i hi hnot := by
    rw [ht', update_of_ne hi]
    exact hremoved.same i hnot
  replaced i hi := by
    have hne : i ≠ x := fun heq => hkept (heq ▸ hi)
    rw [ht', update_of_ne hne]
    exact hremoved.gone i hi

/-- No other entry of the new parent has the name any more. -/
theorem Removed.name_free (hremoved : Removed t t₁ (Replaced t x d name)) (hd : d ≠ DELETE_PENDING_ID)
    (i : Nat) (w : Entry) (hix : i ≠ x) (hi : t₁ i = some w) (hp : w.parent = some d) :
    w.name ≠ name := by
  intro hname
  by_cases hgone : Replaced t x d name i
  · rcases hremoved.gone_cases hgone with hnone | hpending
    · rw [hi] at hnone
      cases hnone
    · rw [Tree.parent_of_eq hi, hp] at hpending
      exact hd (Option.some_injective _ hpending)
  · have hsame := hremoved.same i hgone
    rw [hi] at hsame
    exact hgone ⟨i, w, hix, hsame.symm, hp, hname, .inl rfl⟩

end

/-- **The entry of the target name is removed**, which is not the one to be moved. -/
theorem removeTarget_spec (hinv : Inv xfs) (x d : Nat) (name : List UInt8)
    (hd : ∃ z, xfs.tree d = some z ∧ z.isDir) (hpending : d ≠ DELETE_PENDING_ID)
    (hother : ∀ y, xfs.tree x = some y → ¬(y.parent = some d ∧ y.name = name)) :
    Removes xfs (Replaced xfs.tree x d name) (removeTarget xfs d name) := by
  obtain ⟨zd, hzd, hdir⟩ := hd
  obtain ⟨z, hz, rfl, -⟩ := exists_inode hinv.numbered hzd
  obtain ⟨found, hrun, hnone, hsome⟩ := xfsLookupInDir_spec hinv hz hdir name
  rw [removeTarget, hrun, Run.ok_bind]
  cases found with
  | none =>
    refine ⟨xfs, rfl, hinv, rfl, removed_refl ?_⟩
    rintro i ⟨e, w, -, he, hp, hname, -⟩
    exact hnone.1 rfl e w he hp hname
  | some dest =>
    obtain ⟨w, hw, hp, hname⟩ := hsome dest rfl
    obtain ⟨zw, hzw, -, hnum⟩ := exists_inode hinv.numbered hw
    have hne : dest ≠ x := by
      rintro rfl
      exact hother w hw ⟨hp, hname⟩
    obtain ⟨xfs', hremove, hinv', hcount, hremoved⟩ := xfsRemoveEntry_spec hinv (by rw [hw]; rfl)
      (hinv.not_fixed ((Tree.parent_of_eq hw).trans hp))
    -- the names in the directory differ
    have hgone : ∀ i, Replaced xfs.tree x d name i ↔ i = dest ∨ Under xfs.tree.parent dest i := by
      intro i
      constructor
      · rintro ⟨e, v, -, he, hpe, hnamee, hie⟩
        rwa [hinv.sound.names d hpending e dest v w he hw hpe hp (hnamee.trans hname.symm)] at hie
      · exact fun hi => ⟨dest, w, hne, hw, hp, hname, hi⟩
    refine ⟨xfs', ?_, hinv', hcount, fun i hi => ?_, fun i hi => ?_⟩
    · dsimp only
      rw [deref_of_eq hzw, Run.ok_bind, hnum, hremove]
    · exact hremoved.same i fun h => hi ((hgone i).2 h)
    · exact hremoved.gone i ((hgone i).1 hi)

/-! ## Moving -/

/-- **The name of an entry is written.** -/
theorem rename_spec (hlinks : Links xfs) (hnum : Numbered xfs) {x : Nat} {y : Entry}
    (hx : xfs.tree x = some y) (name : List UInt8) :
    ∃ xfs', (xfs.modify x fun x => { x with name := name }) = .ok xfs' ∧ SameCounts xfs xfs' ∧
      xfs'.tree = update xfs.tree x (some { y with name := name }) ∧ Links xfs' ∧
      Numbered xfs' := by
  obtain ⟨z, hz, rfl, hzx⟩ := exists_inode hnum hx
  refine ⟨_, modify_of_eq hz, ⟨rfl, rfl, rfl, rfl, rfl⟩, ?_, ?_, ?_⟩
  · rw [tree_modify]
    rfl
  · exact links_relabel hlinks hz rfl rfl rfl rfl rfl
  · exact numbered_modify hnum hzx

/-- The invariant is kept when the same inodes are there, with their numbers, in lists and a tree as
they should be. -/
theorem Inv.of_tree (hinv : Inv xfs) {xfs' : XfsFs} (hcounts : SameCounts xfs xfs')
    (hnum : Numbered xfs') (hlinks : Links xfs') (hsound : xfs'.tree.Sound xfs.inodeCount)
    (hlive : ∀ i, (xfs'.tree i).isSome = (xfs.tree i).isSome) : Inv xfs' where
  tableSize := by
    rw [hcounts.inodeCount, hcounts.tableSize]
    exact hinv.tableSize
  freeSize := by rw [hcounts.freeSize, hcounts.inodeCount, hinv.freeSize]
  count := by
    rw [hcounts.inodeCount]
    exact hinv.count
  grown := by
    rw [hcounts.inodeCount]
    exact hinv.grown
  numbered := hnum
  links := hlinks
  sound := by
    rw [hcounts.inodeCount]
    exact hsound
  freeNodup := by
    rw [hcounts.freeList]
    exact hinv.freeNodup
  free i := by
    have hsame : xfs'.inodeTable i = none ↔ xfs.inodeTable i = none := by
      rw [← Option.isNone_iff_eq_none, ← Option.isNone_iff_eq_none, ← Option.not_isSome,
        ← Option.not_isSome, ← isSome_tree, ← isSome_tree, hlive]
    rw [hcounts.freeList, hcounts.inodeCount, hinv.free, hsame]

/-- An entry that is there stays there when it is written. -/
theorem isSome_tree_update {x : Nat} {y y' : Entry} (hx : xfs.tree x = some y) (i : Nat) :
    (update xfs.tree x (some y') i).isSome = (xfs.tree i).isSome := by
  by_cases hi : i = x
  · rw [hi, update_self, hx]
    rfl
  · rw [update_of_ne hi]

/-- The end of a move to another directory. -/
def relink (xfs : XfsFs) (x d : Nat) (name : List UInt8) : Run XfsFs := do
  let xfs ← unlinkInodeFromParent xfs x
  let xfs ← linkInodeIntoDirectoryNode xfs d x
  xfs.modify x fun x => { x with name := name }

/-- **An entry is taken off its list, put on another and renamed.** -/
theorem relink_spec (hinv : Inv xfs) {x d : Nat} {name : List UInt8} {y z : Entry}
    (hx : xfs.tree x = some y) (hfixed : ¬Tree.Fixed x) (hd : xfs.tree d = some z) (hdir : z.isDir)
    (hdx : d ≠ x) (hout : ¬Under xfs.tree.parent x d)
    (hname : ∀ i w, i ≠ x → xfs.tree i = some w → w.parent = some d → w.name ≠ name) :
    ∃ xfs', relink xfs x d name = .ok xfs' ∧ Inv xfs' ∧
      xfs'.tree = update xfs.tree x (some { y with parent := some d, name := name }) := by
  have hlt := hinv.lt_count (i := x) (by rw [hx]; rfl)
  obtain ⟨p, w, hp, hw, -⟩ := hinv.sound.inDir x y hx hfixed
  obtain ⟨xfs₁, hunlink, hcounts₁, htree₁, hlinks₁, hnum₁⟩ :=
    unlinkInodeFromParent_spec hinv.links hinv.numbered hx hlt hp (by rw [hw]; rfl)
  have hself₁ : xfs₁.tree x = some { y with parent := none } := by rw [htree₁, update_self]
  have hd₁ : xfs₁.tree d = some z := by rw [htree₁, update_of_ne hdx, hd]
  obtain ⟨xfs₂, hlink, hcounts₂, htree₂, hlinks₂, hnum₂⟩ :=
    linkInodeIntoDirectoryNode_spec hlinks₁ hnum₁ hself₁ (by rw [hcounts₁.inodeCount]; exact hlt) rfl
      (d := d) (by rw [hd₁]; rfl)
  have hself₂ : xfs₂.tree x = some { y with parent := some d } := by rw [htree₂, update_self]
  obtain ⟨xfs₃, hrename, hcounts₃, htree₃, hlinks₃, hnum₃⟩ := rename_spec hlinks₂ hnum₂ hself₂ name
  have htree : xfs₃.tree = update xfs.tree x (some { y with parent := some d, name := name }) := by
    rw [htree₃, htree₂, htree₁, update_idem, update_idem]
  refine ⟨xfs₃, ?_, hinv.of_tree ((hcounts₁.trans hcounts₂).trans hcounts₃) hnum₃ hlinks₃ ?_ ?_,
    htree⟩
  · rw [relink, hunlink, Run.ok_bind, hlink, Run.ok_bind, hrename]
  · rw [htree]
    exact hinv.sound.move hx hfixed hd hdir hdx hout hname
  · intro i
    rw [htree, isSome_tree_update hx]

/-- What is in an entry that may be moved is not the new parent. -/
theorem MoveChecks.not_under (hinv : Inv xfs) {x d : Nat} {name : List UInt8}
    (h : MoveChecks xfs x d name) (hfixed : ¬Tree.Fixed x) : ¬Under xfs.tree.parent x d := by
  intro hu
  obtain ⟨y, hy⟩ := Option.isSome_iff_exists.1 h.live
  apply h.notUnder y hy _ hu
  obtain ⟨c, -, hc⟩ := Relation.TransGen.tail'_iff.1 hu
  obtain ⟨z, hz, hpending | hdir⟩ := hinv.sound.dir_of_parent hc
  · exact absurd (.inr hpending) hfixed
  · rw [hy] at hz
    cases hz
    exact hdir

/-- After the checks a move that ends is no error. -/
theorem moveEntry_result (hinv : Inv xfs) {x d : Nat} {name : List UInt8} {result : Nat}
    {xfs' : XfsFs} (h : MoveChecks xfs x d name)
    (hrun : xfsMoveEntry xfs x d name = .ok (result, xfs')) : result = 0 := by
  obtain ⟨passes, hcheck, hpasses⟩ := xfsCheckMoveEntry_spec hinv x d name
  rw [xfsMoveEntry, hcheck, Run.ok_bind, if_pos (hpasses.2 h)] at hrun
  obtain ⟨xino, -, hrun⟩ := Run.bind_eq_ok.1 hrun
  split at hrun
  · obtain ⟨xfs₁, -, hrun⟩ := Run.bind_eq_ok.1 hrun
    obtain ⟨xfs₂, -, hrun⟩ := Run.bind_eq_ok.1 hrun
    obtain ⟨xfs₃, -, hrun⟩ := Run.bind_eq_ok.1 hrun
    obtain ⟨xfs₄, -, hrun⟩ := Run.bind_eq_ok.1 hrun
    cases hrun
    rfl
  · split at hrun
    · obtain ⟨xfs₁, -, hrun⟩ := Run.bind_eq_ok.1 hrun
      obtain ⟨xfs₂, -, hrun⟩ := Run.bind_eq_ok.1 hrun
      cases hrun
      rfl
    · cases hrun
      rfl

/-- **A move that passes the checks**, of an entry that is not put in itself or removed. -/
theorem moveEntry_moves (hinv : Inv xfs) {x d : Nat} {name : List UInt8}
    (h : MoveChecks xfs x d name) (hdx : d ≠ x) (hfixed : ¬Tree.Fixed x)
    (hkept : ¬Replaced xfs.tree x d name x) :
    ∃ xfs', xfsMoveEntry xfs x d name = .ok (0, xfs') ∧ Inv xfs' ∧
      Moved xfs.tree xfs'.tree x d name := by
  obtain ⟨passes, hcheck, hpasses⟩ := xfsCheckMoveEntry_spec hinv x d name
  obtain ⟨y, hy⟩ := Option.isSome_iff_exists.1 h.live
  obtain ⟨z, hz, hentry, -⟩ := exists_inode hinv.numbered hy
  have hparent : z.parent = y.parent := by
    rw [← hentry]
    rfl
  have hname : z.name = y.name := by
    rw [← hentry]
    rfl
  have hout := h.not_under hinv hfixed
  obtain ⟨zd, hzd, hdir⟩ := h.parentDir
  rw [xfsMoveEntry, hcheck, Run.ok_bind, if_pos (hpasses.2 h), deref_of_eq hz, Run.ok_bind, hparent,
    hname]
  -- what remains when the entry of the target name has been removed
  have hrest : ∀ {xfs₁}, Inv xfs₁ → Removed xfs.tree xfs₁.tree (Replaced xfs.tree x d name) →
      xfs₁.tree x = some y ∧ xfs₁.tree d = some zd ∧ ¬Under xfs₁.tree.parent x d := by
    intro xfs₁ hinv₁ hremoved
    refine ⟨(hremoved.same x hkept).trans hy,
      (hremoved.same d fun hd => hd.ne_parent hinv.sound rfl).trans hzd, fun hu => hout ?_⟩
    exact hremoved.under hinv₁.pending_parent (fun heq => hfixed (.inr heq)) hu
  by_cases hp : y.parent = some d
  · rw [if_neg fun hne => hne hp]
    by_cases hsame : y.name = name
    · rw [if_neg fun hne => hne hsame]
      have hself : { y with parent := some d, name := name } = y := by rw [← hp, ← hsame]
      have hnone : ∀ i, ¬Replaced xfs.tree x d name i := by
        rintro i ⟨e, w, hex, he, hpe, hnamee, -⟩
        exact hex (hinv.sound.names d h.notPending e x w y he hy hpe hp (hnamee.trans hsame.symm))
      refine ⟨xfs, rfl, hinv, ⟨y, hy, by rw [hself, hy]⟩, fun _ _ => rfl, fun _ _ _ => rfl,
        fun i hi => absurd hi (hnone i)⟩
    · rw [if_pos hsame]
      obtain ⟨xfs₁, htarget, hinv₁, -, hremoved⟩ := removeTarget_spec hinv x d name h.parentDir
        h.notPending fun w hw hboth => by
          rw [hy] at hw
          cases hw
          exact hsame hboth.2
      obtain ⟨hx₁, hd₁, hout₁⟩ := hrest hinv₁ hremoved
      obtain ⟨xfs₂, hrename, hcounts, htree, hlinks, hnum⟩ :=
        rename_spec hinv₁.links hinv₁.numbered hx₁ name
      have hmoved : { y with name := name } = { y with parent := some d, name := name } := by
        rw [← hp]
      rw [hmoved] at htree
      refine ⟨xfs₂, ?_, hinv₁.of_tree hcounts hnum hlinks ?_ fun i => ?_,
        moved_of_removed hinv.sound hremoved hy hdx hout hkept htree⟩
      · rw [htarget, Run.ok_bind, hrename]
        rfl
      · rw [htree]
        exact hinv₁.sound.move hx₁ hfixed hd₁ hdir hdx hout₁ (hremoved.name_free h.notPending)
      · rw [htree, isSome_tree_update hx₁]
  · rw [if_pos hp]
    obtain ⟨xfs₁, htarget, hinv₁, -, hremoved⟩ := removeTarget_spec hinv x d name h.parentDir
      h.notPending fun w hw hboth => by
        rw [hy] at hw
        cases hw
        exact hp hboth.1
    obtain ⟨hx₁, hd₁, hout₁⟩ := hrest hinv₁ hremoved
    obtain ⟨xfs₂, hrelink, hinv₂, htree⟩ := relink_spec hinv₁ hx₁ hfixed hd₁ hdir hdx hout₁
      (hremoved.name_free h.notPending)
    refine ⟨xfs₂, ?_, hinv₂, moved_of_removed hinv.sound hremoved hy hdx hout hkept htree⟩
    rw [relink] at hrelink
    obtain ⟨xfs₃, hunlink, hrelink⟩ := Run.bind_eq_ok.1 hrelink
    obtain ⟨xfs₄, hlink, hrename⟩ := Run.bind_eq_ok.1 hrelink
    rw [htarget, Run.ok_bind, hunlink, Run.ok_bind, hlink, Run.ok_bind, hrename]
    rfl

/-- **A fixed directory is in no list** that it could be taken off. -/
theorem moveEntry_fixed (hinv : Inv xfs) {x d : Nat} {name : List UInt8}
    (h : MoveChecks xfs x d name) (hfixed : Tree.Fixed x) :
    ∀ r, xfsMoveEntry xfs x d name ≠ .ok r := by
  obtain ⟨passes, hcheck, hpasses⟩ := xfsCheckMoveEntry_spec hinv x d name
  obtain ⟨y, hy, hp, -⟩ := hinv.sound.fixed x hfixed
  obtain ⟨z, hz, rfl, -⟩ := exists_inode hinv.numbered hy
  have hparent : z.parent = none := hp
  have hne : z.parent ≠ some d := by
    rw [hparent]
    exact (Option.some_ne_none d).symm
  obtain ⟨xfs₁, htarget, hinv₁, -, -⟩ := removeTarget_spec hinv x d name h.parentDir h.notPending
    fun w hw hboth => by
      rw [hy] at hw
      cases hw
      exact hne hboth.1
  obtain ⟨y₁, hy₁, hp₁, -⟩ := hinv₁.sound.fixed x hfixed
  obtain ⟨z₁, hz₁, rfl, -⟩ := exists_inode hinv₁.numbered hy₁
  have hparent₁ : z₁.parent = none := hp₁
  intro r hrun
  rw [xfsMoveEntry, hcheck, Run.ok_bind, if_pos (hpasses.2 h), deref_of_eq hz, Run.ok_bind,
    if_pos hne, htarget, Run.ok_bind, unlinkInodeFromParent, deref_of_eq hz₁, Run.ok_bind,
    hparent₁] at hrun
  cases hrun

/-- **A move that the checks refuse** changes nothing. -/
theorem moveEntry_refused (hinv : Inv xfs) {x d : Nat} {name : List UInt8}
    (h : ¬MoveChecks xfs x d name) : xfsMoveEntry xfs x d name = .ok (EINVAL, xfs) := by
  obtain ⟨passes, hcheck, hpasses⟩ := xfsCheckMoveEntry_spec hinv x d name
  rw [xfsMoveEntry, hcheck, Run.ok_bind, if_neg fun hp => h (hpasses.1 hp)]
  rfl

/-- **A move comes to what it should** just if the new parent is not the entry itself, the entry is not
one of the two fixed directories, and what is replaced does not contain the entry — or the checks refuse
it. -/
theorem move_entry_iff (hinv : Inv xfs) (inum newParentInum : Nat) (name : List UInt8) :
    MovesRight xfs inum newParentInum name ↔ MoveFits xfs inum newParentInum name := by
  by_cases hchecks : MoveChecks xfs inum newParentInum name
  · constructor
    · rintro ⟨result, xfs', hrun, -, hinside, hreplaced⟩ _
      have hzero := moveEntry_result hinv hchecks hrun
      refine ⟨fun heq => hinside (.inl heq) hzero, fun hfixed => ?_, fun hi => hreplaced hi hzero⟩
      exact moveEntry_fixed hinv hchecks hfixed _ hrun
    · intro hfits
      obtain ⟨hdx, hfixed, hkept⟩ := hfits hchecks
      obtain ⟨xfs', hrun, hinv', hmoved⟩ := moveEntry_moves hinv hchecks hdx hfixed hkept
      refine ⟨0, xfs', hrun, .inr ⟨rfl, hinv', hmoved⟩, fun hinside => ?_, fun hi => absurd hi hkept⟩
      exact absurd (hinside.resolve_left hdx) (hchecks.not_under hinv hfixed)
  · refine iff_of_true ?_ fun h => absurd h hchecks
    have herror : EINVAL ≠ 0 := by decide
    exact ⟨EINVAL, xfs, moveEntry_refused hinv hchecks, .inl ⟨herror, rfl⟩, fun _ => herror,
      fun _ => herror⟩

/-! ## A directory that is moved -/

/-- A file system with free numbers gets a directory. -/
theorem added_dir (hinv : Inv xfs) {d : Nat} {z : Entry} (hz : xfs.tree d = some z) (hdir : z.isDir)
    (hpending : d ≠ DELETE_PENDING_ID) {name : List UInt8} (hlen : name.length ≤ XFS_MAXFILENAMELEN)
    (hfresh : ∀ i w, xfs.tree i = some w → w.parent = some d → w.name ≠ name) {inum : Nat}
    {rest : List Nat} (hfree : xfs.freeList = inum :: rest) :
    ∃ xfs' y, xfsAddEntry xfs d name S_IFDIR ⟨true, true, true⟩ = .ok (some inum, xfs') ∧ Inv xfs' ∧
      xfs'.freeList = rest ∧ xfs'.tree = update xfs.tree inum (some y) ∧ y.isDir ∧ y.parent = some d ∧
      y.name = name := by
  obtain ⟨x, hx, hentry, -⟩ := exists_inode hinv.numbered hz
  have hxdir : x.isDir := by
    rw [← hentry] at hdir
    exact hdir
  obtain ⟨found, hlookup, hfound, -⟩ := xfsLookupInDir_spec hinv hx hxdir name
  rw [hfound.2 hfresh] at hlookup
  have hne : xfs.freeList ≠ [] := by simp [hfree]
  obtain ⟨result, xfs', hrun, hadded⟩ := xfsAddEntry_spec hinv ⟨hx, hxdir, hpending, hlen, hlookup⟩
    (fun h => absurd h hne) S_IFDIR ⟨true, true, true⟩
  obtain ⟨i, rfl⟩ := Option.ne_none_iff_exists'.1 (hadded.memory rfl rfl rfl)
  obtain ⟨hi, -, htree⟩ := hadded.added i rfl
  have hlist := hadded.freeList rfl rfl rfl
  rw [if_neg hne, hfree] at hlist
  rw [hfree] at hi
  obtain rfl : i = inum := hi
  have hmode : sanitised S_IFDIR &&& S_IFDIR ≠ 0 := by decide
  exact ⟨xfs', _, hrun, hadded.inv, hlist.2, htree, decide_eq_true hmode, rfl, rfl⟩

theorem created_freeList : (created 0).freeList = 3 :: 4 :: List.range' 5 4091 := by
  rw [created, List.range'_succ, List.range'_succ]

/-- A new file system gets a directory. -/
theorem created_dir : ∃ xfs y,
    xfsAddEntry (created 0) FUSE_ROOT_ID [0x61] S_IFDIR ⟨true, true, true⟩ = .ok (some 3, xfs) ∧ Inv xfs ∧
      xfs.freeList = 4 :: List.range' 5 4091 ∧ xfs.tree = update (created 0).tree 3 (some y) ∧ y.isDir ∧
      y.parent = some FUSE_ROOT_ID ∧ y.name = [0x61] := by
  refine added_dir (created_inv 0) rfl (by decide) (by decide) (by decide) (fun i w hw hp => ?_)
    created_freeList
  rw [created_parent i w hw] at hp
  cases hp

/-- A directory is moved to another one, where it gets another name. -/
theorem move_entry_renamed : ∃ xfs xfs',
    xfsAddEntry (created 0) FUSE_ROOT_ID [0x61] S_IFDIR ⟨true, true, true⟩ = .ok (some 3, xfs) ∧
      xfsAddEntry xfs FUSE_ROOT_ID [0x62] S_IFDIR ⟨true, true, true⟩ = .ok (some 4, xfs') ∧
      MovesRight xfs' 3 4 [0x63] := by
  obtain ⟨xfs, y, hrun, hinv, hfree, htree, -, -, hname⟩ := created_dir
  have hroot : xfs.tree FUSE_ROOT_ID = some (fixedInode 1 0 [0x2e] 1).entry := by
    rw [htree]
    rfl
  have hfresh : ∀ i w, xfs.tree i = some w → w.parent = some FUSE_ROOT_ID → w.name ≠ [0x62] := by
    intro i w hw hp
    by_cases hi : i = 3
    · subst hi
      rw [htree, update_self, Option.some.injEq] at hw
      subst hw
      rw [hname]
      decide
    · rw [htree, update_of_ne hi] at hw
      rw [created_parent i w hw] at hp
      cases hp
  obtain ⟨xfs', y', hrun', hinv', -, htree', -, hparent', -⟩ :=
    added_dir hinv hroot (by decide) (by decide) (by decide) hfresh hfree
  refine ⟨xfs, xfs', hrun, hrun', (move_entry_iff hinv' 3 4 [0x63]).2 fun _ => ?_⟩
  refine ⟨by decide, by unfold Tree.Fixed; decide, ?_⟩
  -- nothing is in the other directory yet
  rintro ⟨e, w, hne, he, hp, -⟩
  by_cases hfour : e = 4
  · subst hfour
    rw [htree', update_self, Option.some.injEq] at he
    subst he
    rw [hparent'] at hp
    cases hp
  · rw [htree', update_of_ne hfour, htree, update_of_ne hne] at he
    rw [created_parent e w he] at hp
    cases hp

/-- **It is moved into itself**: no way leads to it any more. -/
theorem moved_into_itself : ∃ xfs,
    xfsAddEntry (created 0) FUSE_ROOT_ID [0x61] S_IFDIR ⟨true, true, true⟩ = .ok (some 3, xfs) ∧
      Inv xfs ∧ ¬MovesRight xfs 3 3 [0x62] := by
  obtain ⟨xfs, y, hrun, hinv, -, htree, hdir, -⟩ := created_dir
  have hself : xfs.tree 3 = some y := by rw [htree, update_self]
  have hlive : (xfs.tree 3).isSome := by
    rw [hself]
    rfl
  refine ⟨xfs, hrun, hinv, ?_⟩
  rintro ⟨result, xfs', hmove, -, hinside, -⟩
  exact hinside (.inl rfl) (moveEntry_result hinv ⟨by decide, hlive, by decide, ⟨y, hself, hdir⟩,
    fun _ _ _ => hinv.sound.not_under_self hlive⟩ hmove)

end Xrdp.Chansrv
