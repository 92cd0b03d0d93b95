import Xrdp.Chansrv.XfsDevices

/-!
# Adding entries

* `growXfs_inv` — the table grows, and the inodes stay.
* `xfsLookupInDir_spec` — a name is looked up in a directory.
* `AddChecks`, `xfsAddEntry_of_checks` — an add that meets the checks, and one that does not.
* `addEntry_inv` — the number on top of the free list is given to the new entry.
-/

namespace Xrdp.Chansrv

open Forest Function XfsFs Rings

variable {xfs : XfsFs}

/-! ## Growing the table -/

/-- The lists stay when there are more numbers. -/
theorem children_grow (hinv : Inv xfs) {n : Nat} (hn : xfs.inodeCount ≤ n) (d : Nat) :
    xfs.tree.children n d = xfs.children d := by
  apply Tree.eq_of_sorted (Tree.children_sorted d) (Tree.children_sorted d)
  intro i
  rw [Tree.mem_children, Tree.mem_children]
  constructor
  · rintro ⟨-, hp⟩
    exact ⟨hinv.lt_count (Tree.isSome_of_parent hp), hp⟩
  · rintro ⟨hi, hp⟩
    exact ⟨Nat.lt_of_lt_of_le hi hn, hp⟩

theorem Inv.freeList_length_le (hinv : Inv xfs) : xfs.freeList.length ≤ xfs.inodeCount := by
  have hsub : xfs.freeList ⊆ List.range xfs.inodeCount := fun i hi =>
    List.mem_range.2 ((hinv.free i).1 hi).2.1
  have hlen := (List.subperm_of_subset hinv.freeNodup hsub).length_le
  rwa [List.length_range] at hlen

/-- **The table grows**, or the memory is not found; the inodes stay. -/
theorem growXfs_inv (hinv : Inv xfs)
    (hroom : xfs.inodeCount + INODE_TABLE_ALLOCATION_GRANULARITY < 2 ^ 32) (table free : Bool) :
    ∃ grown xfs', growXfs xfs INODE_TABLE_ALLOCATION_GRANULARITY table free = .ok (grown, xfs') ∧
      Inv xfs' ∧ xfs'.inodeTable = xfs.inodeTable ∧ xfs'.generation = xfs.generation ∧
      if table && free then
        grown = true ∧ xfs'.inodeCount = xfs.inodeCount + INODE_TABLE_ALLOCATION_GRANULARITY ∧
          xfs'.freeList = List.range' xfs.inodeCount INODE_TABLE_ALLOCATION_GRANULARITY ++
            xfs.freeList
      else grown = false := by
  have hmod : (xfs.inodeCount + INODE_TABLE_ALLOCATION_GRANULARITY) % 2 ^ 32 =
      xfs.inodeCount + INODE_TABLE_ALLOCATION_GRANULARITY := Nat.mod_eq_of_lt hroom
  have hpos : ¬xfs.inodeCount + INODE_TABLE_ALLOCATION_GRANULARITY = 0 := by
    rw [INODE_TABLE_ALLOCATION_GRANULARITY]
    omega
  have htable : (fun i => if xfs.inodeCount ≤ i ∧
      i < xfs.inodeCount + INODE_TABLE_ALLOCATION_GRANULARITY then none else xfs.inodeTable i) =
      xfs.inodeTable := by
    funext i
    split
    case isTrue h =>
      cases hi : xfs.inodeTable i with
      | none => rfl
      | some z =>
        have hlt := hinv.lt_count (i := i) (by rw [tree_of_eq hi]; rfl)
        omega
    case isFalse => rfl
  rw [growXfs, hmod]
  dsimp only
  rw [if_neg hpos, htable, Nat.add_sub_cancel_left]
  cases table with
  | false => exact ⟨false, xfs, rfl, hinv, rfl, rfl, rfl⟩
  | true =>
    cases free with
    | false =>
      refine ⟨false, _, rfl, ⟨?_, hinv.freeSize, hinv.count, hinv.grown, hinv.numbered, hinv.links,
        hinv.sound, hinv.freeNodup, hinv.free⟩, rfl, rfl, rfl⟩
      exact Nat.le_add_right _ _
    | true =>
      have hlen := hinv.freeList_length_le
      have hnew : ∀ i, xfs.inodeCount ≤ i → xfs.inodeTable i = none := by
        intro i hi
        cases hz : xfs.inodeTable i with
        | none => rfl
        | some z =>
          have hlt := hinv.lt_count (i := i) (by rw [tree_of_eq hz]; rfl)
          omega
      refine ⟨true, { xfs with
          tableSize := xfs.inodeCount + INODE_TABLE_ALLOCATION_GRANULARITY
          freeList := List.range' xfs.inodeCount INODE_TABLE_ALLOCATION_GRANULARITY ++ xfs.freeList
          freeSize := xfs.inodeCount + INODE_TABLE_ALLOCATION_GRANULARITY
          inodeCount := xfs.inodeCount + INODE_TABLE_ALLOCATION_GRANULARITY },
        ?_, ⟨?_, rfl, ?_, ?_, hinv.numbered, ?_, ?_, ?_, ?_⟩, rfl, rfl, rfl, rfl, rfl⟩
      · simp only [Bool.not_true, Bool.false_eq_true, if_false]
        rw [if_pos (by omega)]
      · exact Nat.le_refl _
      · have h2 := hinv.count.1
        exact ⟨by dsimp only; omega, hroom⟩
      · have hg := hinv.grown
        dsimp only
        rw [INODE_TABLE_ALLOCATION_GRANULARITY]
        omega
      · intro d hd
        have hchildren := children_grow hinv
          (Nat.le_add_right xfs.inodeCount INODE_TABLE_ALLOCATION_GRANULARITY) d
        rw [children]
        exact hchildren.symm ▸ hinv.links d hd
      · refine ⟨fun i hi => ?_, hinv.sound.fixed, hinv.sound.inDir, hinv.sound.names,
          hinv.sound.rooted⟩
        obtain ⟨h1, h2⟩ := hinv.sound.bound i hi
        exact ⟨h1, by dsimp only; omega⟩
      · dsimp only
        rw [List.nodup_append]
        refine ⟨List.nodup_range', hinv.freeNodup, ?_⟩
        rintro i hi j hj rfl
        have h1 := (List.mem_range'_1.1 hi).1
        have h2 := ((hinv.free i).1 hj).2.1
        omega
      · intro i
        dsimp only
        rw [List.mem_append, List.mem_range'_1, hinv.free]
        have h2 := hinv.count.1
        constructor
        · rintro (⟨h1, h3⟩ | ⟨h1, h3, h4⟩)
          · exact ⟨by omega, h3, hnew i h1⟩
          · exact ⟨h1, by omega, h4⟩
        · rintro ⟨h1, h3, h4⟩
          rcases Nat.lt_or_ge i xfs.inodeCount with h | h
          · exact .inr ⟨h1, h, h4⟩
          · exact .inl ⟨h, h3⟩

/-! ## Adding an entry -/

/-- A name is looked up in a directory. -/
theorem xfsLookupInDir_spec (hinv : Inv xfs) {d : Nat} {z : XfsInode}
    (hz : xfs.inodeTable d = some z) (hdir : z.isDir) (name : List UInt8) :
    ∃ found, xfsLookupInDir xfs d name = .ok found ∧ (found = none ↔
      ∀ i w, xfs.tree i = some w → w.parent = some d → w.name ≠ name) ∧
      ∀ i, found = some i →
        ∃ w, xfs.tree i = some w ∧ w.parent = some d ∧ w.name = name := by
  have hd : (xfs.tree d).isSome := by
    rw [tree_of_eq hz]
    rfl
  have hlt := hinv.lt_count hd
  have hring := hinv.links d (by rw [hz]; rfl)
  have hbegin : z.dirBegin = (xfs.children d).head? := by
    rw [← hring.ends.1, fwd, link, hz]
    rfl
  have hlen := @length_children_le xfs d
  obtain ⟨found, hrun, hnone, hsome⟩ := lookupLoop_spec hring
    (List.nil_append (xfs.children d)).symm (fun i hi => isSome_of_mem_children hi) name
    (Nat.lt_succ_of_le hlen)
  refine ⟨found, ?_, hnone.trans ⟨fun h i w hw hp => ?_, fun h i hi w hw => ?_⟩, fun i hi => ?_⟩
  · rw [xfsLookupInDir, if_pos hlt, hinv.tableAt_eq hlt, Run.ok_bind, hz]
    dsimp only
    rw [if_pos hdir, hbegin, hrun]
  · exact h i (hinv.mem_children_of_parent ((Tree.parent_of_eq hw).trans hp)) w hw
  · exact h i w hw ((Tree.parent_of_eq hw).symm.trans (Tree.mem_children.1 hi).2)
  · obtain ⟨hmem, w, hw, hname⟩ := hsome i hi
    exact ⟨w, hw, (Tree.parent_of_eq hw).symm.trans (Tree.mem_children.1 hmem).2, hname⟩

/-- The checks of `xfs_add_entry`, which the directory `parent` meets. -/
structure AddChecks (xfs : XfsFs) (parentInum : Nat) (name : List UInt8) (parent : XfsInode) :
    Prop where
  inTable : xfs.inodeTable parentInum = some parent
  isDir : parent.isDir
  notPending : parentInum ≠ DELETE_PENDING_ID
  length : name.length ≤ XFS_MAXFILENAMELEN
  fresh : xfsLookupInDir xfs parentInum name = .ok none

/-- The mode of a new entry. -/
def sanitised (mode : UInt32) : UInt32 :=
  if mode &&& S_IFDIR ≠ 0 then (mode &&& 0o777) ||| S_IFDIR else (mode &&& 0o777) ||| S_IFREG

/-- The rest of `xfs_add_entry`, when there is space. -/
def addInSpace (xfs : XfsFs) (parentInum : Nat) (parent : XfsInode) (name : List UInt8)
    (mode : UInt32) (xino : Bool) (space : Bool) : Run (Option Nat × XfsFs) :=
  if space && xino then addEntry xfs parentInum parent name (sanitised mode) else pure (none, xfs)

theorem xfsAddEntry_of_checks (hinv : Inv xfs) {parentInum : Nat} {name : List UInt8}
    {parent : XfsInode} (h : AddChecks xfs parentInum name parent) (mode : UInt32)
    (allocs : AddAllocs) :
    xfsAddEntry xfs parentInum name mode allocs =
      if xfs.freeList ≠ [] then addInSpace xfs parentInum parent name mode allocs.xino true
      else growXfs xfs INODE_TABLE_ALLOCATION_GRANULARITY allocs.table allocs.free >>= fun r =>
        addInSpace r.2 parentInum parent name mode allocs.xino r.1 := by
  have hlt := hinv.lt_count (i := parentInum) (by rw [tree_of_eq h.inTable]; rfl)
  rw [xfsAddEntry, if_pos hlt, hinv.tableAt_eq hlt, Run.ok_bind, h.inTable]
  dsimp only
  rw [if_pos ⟨h.isDir, h.notPending, h.length⟩, h.fresh, Run.ok_bind]
  rfl

theorem xfsAddEntry_of_not_checks (hinv : Inv xfs) {parentInum : Nat} {name : List UInt8}
    (h : ∀ parent, ¬AddChecks xfs parentInum name parent) (mode : UInt32) (allocs : AddAllocs) :
    xfsAddEntry xfs parentInum name mode allocs = .ok (none, xfs) := by
  rw [xfsAddEntry]
  split
  case isFalse => rfl
  case isTrue hlt =>
    rw [hinv.tableAt_eq hlt, Run.ok_bind]
    cases hz : xfs.inodeTable parentInum with
    | none => rfl
    | some parent =>
      dsimp only
      split
      case isFalse => rfl
      case isTrue hchecks =>
        obtain ⟨hdir, hpending, hlen⟩ := hchecks
        obtain ⟨found, hrun, -⟩ := xfsLookupInDir_spec hinv hz hdir name
        rw [hrun, Run.ok_bind]
        cases found with
        | none => exact absurd ⟨hz, hdir, hpending, hlen, hrun⟩ (h parent)
        | some _ => rfl

/-- An entry that is added to the directory `parent`. -/
def newEntry (generation : UInt32) (parentInum : Nat) (parent : XfsInode) (name : List UInt8)
    (mode : UInt32) : Entry :=
  ⟨mode, name, generation, parent.deviceId, some parentInum, 0⟩

/-- **The number on top of the free list is given to the new entry.** -/
theorem addEntry_inv (hinv : Inv xfs) {parentInum : Nat} {name : List UInt8} {parent : XfsInode}
    (hparent : xfs.inodeTable parentInum = some parent) (hdir : parent.isDir)
    (hfresh : ∀ i w, xfs.tree i = some w → w.parent = some parentInum → w.name ≠ name)
    (mode : UInt32) {inum : Nat} {freeList : List Nat} (hfree : xfs.freeList = inum :: freeList) :
    ∃ xfs', addEntry xfs parentInum parent name mode = .ok (some inum, xfs') ∧ Inv xfs' ∧
      xfs'.inodeCount = xfs.inodeCount ∧ xfs'.freeList = freeList ∧
      xfs'.generation = xfs.generation ∧ xfs'.tree = update xfs.tree inum
        (some (newEntry xfs.generation parentInum parent name mode)) := by
  obtain ⟨hgt, hlt, hnone⟩ := (hinv.free inum).1 (by rw [hfree]; exact List.mem_cons_self)
  obtain ⟨xino, hxino⟩ : ∃ xino : XfsInode, xino = {
    inum := inum, mode := mode, name := name, generation := xfs.generation
    deviceId := parent.deviceId, parent := none, next := none, previous := none
    dirBegin := none, dirEnd := none, openCount := 0 } := ⟨_, rfl⟩
  obtain ⟨xfs₀, hxfs₀⟩ : ∃ xfs₀, xfs₀ = { xfs with
    freeList := freeList, inodeTable := update xfs.inodeTable inum (some xino) } := ⟨_, rfl⟩
  have htable₀ : xfs₀.inodeTable = update xfs.inodeTable inum (some xino) := by rw [hxfs₀]
  have hcount₀ : xfs₀.inodeCount = xfs.inodeCount := by rw [hxfs₀]
  have htree₀ : xfs₀.tree = update xfs.tree inum (some xino.entry) := by
    rw [hxfs₀]
    exact tree_modify
  have hnone' : xfs.tree inum = none := by
    rw [tree, hnone]
    rfl
  -- nothing is in an inode that is not there
  have hempty : ∀ i, xfs.tree.parent i ≠ some inum := by
    intro i hi
    have hsome := hinv.isSome_parent hi
    rw [hnone'] at hsome
    cases hsome
  have hlinks₀ : Links xfs₀ := links_new hinv.links hnone hempty (by rw [hxino]) (by rw [hxino])
    (by rw [hxino]) htable₀ hcount₀
  have hnum₀ : Numbered xfs₀ := by
    rw [hxfs₀]
    exact numbered_modify hinv.numbered (by rw [hxino])
  have hself : xfs₀.tree inum = some xino.entry := by rw [htree₀, update_self]
  have hdne : parentInum ≠ inum := fun heq => by
    rw [heq, hnone] at hparent
    cases hparent
  have hd : xfs₀.tree parentInum = some parent.entry := by
    rw [htree₀, update_of_ne hdne, tree_of_eq hparent]
  obtain ⟨xfs', hrun, hcounts, htree, hlinks, hnum⟩ := linkInodeIntoDirectoryNode_spec hlinks₀ hnum₀
    hself (by rw [hcount₀]; exact hlt) (by rw [hxino]; rfl) (d := parentInum) (by rw [hd]; rfl)
  have hcount : xfs'.inodeCount = xfs.inodeCount := hcounts.inodeCount.trans hcount₀
  have htree' : xfs'.tree = update xfs.tree inum
      (some (newEntry xfs.generation parentInum parent name mode)) := by
    rw [htree, htree₀, update_idem, hxino]
    rfl
  have hfreeList : xfs'.freeList = freeList := by
    rw [hcounts.freeList, hxfs₀]
  have hnodup := hinv.freeNodup
  rw [hfree, List.nodup_cons] at hnodup
  refine ⟨xfs', ?_, ⟨?_, ?_, ?_, ?_, hnum, hlinks, ?_, ?_, ?_⟩, hcount, hfreeList, ?_, htree'⟩
  · rw [addEntry, hfree]
    dsimp only
    rw [hinv.tableAt_eq hlt, Run.ok_bind, ← hxino, ← hxfs₀, hrun]
    rfl
  · rw [hcount, hcounts.tableSize, hxfs₀]
    exact hinv.tableSize
  · rw [hcount, hcounts.freeSize, hxfs₀]
    exact hinv.freeSize
  · rw [hcount]
    exact hinv.count
  · rw [hcount]
    exact hinv.grown
  · have hfixed : ¬Tree.Fixed inum := by
      rw [DELETE_PENDING_ID] at hgt
      rintro (h | h)
      · rw [h, FUSE_ROOT_ID] at hgt
        omega
      · rw [h, DELETE_PENDING_ID] at hgt
        omega
    rw [htree', hcount]
    exact hinv.sound.add hnone' ⟨by omega, hlt⟩ hfixed (tree_of_eq hparent) hdir rfl hfresh
  · rw [hfreeList]
    exact hnodup.2
  · intro i
    rw [hfreeList, hcount]
    have hmem := hinv.free i
    rw [hfree, List.mem_cons] at hmem
    by_cases hi : i = inum
    · subst hi
      refine iff_of_false hnodup.1 fun h => ?_
      have hsome := @isSome_tree xfs' i
      rw [htree', update_self, h.2.2] at hsome
      cases hsome
    · have hsame : xfs'.inodeTable i = none ↔ xfs.inodeTable i = none := by
        rw [← Option.isNone_iff_eq_none, ← Option.isNone_iff_eq_none, ← Option.not_isSome,
          ← Option.not_isSome, ← isSome_tree, ← isSome_tree, htree', update_of_ne hi]
      rw [hsame, ← hmem]
      exact ⟨.inr, fun h => h.resolve_left hi⟩
  · rw [hcounts.generation, hxfs₀]

end Xrdp.Chansrv
