import Xrdp.Chansrv.XfsAdd
import Xrdp.Lib.Runs
import Mathlib.Data.Nat.Digits.Lemmas

/-!
# Runs of the file system

* `Op`, `step` — the calls, in any order.
* `WellFormed` — the lists, the tree and the free list are as they should be.
* `created_inv` — so they are in a new file system.
* `xfs_invariant_iff` — so they are in all states of a run just if the table never grows to `2 ^ 32`
  inodes.
-/

namespace Xrdp.Chansrv

open Forest Function XfsFs Rings

/-- A call. -/
inductive Op where
  | add (parentInum : Nat) (name : List UInt8) (mode : UInt32) (allocs : AddAllocs)
  | removeEntry (inum : Nat) (h : ¬Tree.Fixed inum)
  | removeDirectoryContents (inum : Nat) (h : inum ≠ DELETE_PENDING_ID)
  | incrementFileOpenCount (inum : Nat)
  | decrementFileOpenCount (inum : Nat)
  | deleteEntriesWithDeviceId (deviceId : UInt32)
  | setDeviceId (inum : Nat) (h : ¬Tree.Fixed inum) (deviceId : UInt32)

def step (xfs : XfsFs) : Op → Run XfsFs
  | .add parentInum name mode allocs => do
    let (_inum, xfs) ← xfsAddEntry xfs parentInum name mode allocs
    pure xfs
  | .removeEntry inum _ => xfsRemoveEntry xfs inum
  | .removeDirectoryContents inum _ => xfsRemoveDirectoryContents xfs inum
  | .incrementFileOpenCount inum => xfsIncrementFileOpenCount xfs inum
  | .decrementFileOpenCount inum => xfsDecrementFileOpenCount xfs inum
  | .deleteEntriesWithDeviceId deviceId => xfsDeleteEntriesWithDeviceId xfs deviceId
  | .setDeviceId inum _ deviceId => setDeviceId xfs inum deviceId

def Next (xfs : XfsFs) (op : Op) (xfs' : XfsFs) : Prop := step xfs op = .ok xfs'

/-- The table does not have to grow to `2 ^ 32` inodes. -/
def TableHolds (xfs : XfsFs) : Op → Prop
  | .add parentInum name _ _ => xfs.freeList = [] → (∃ parent, AddChecks xfs parentInum name parent) →
    xfs.inodeCount + INODE_TABLE_ALLOCATION_GRANULARITY < 2 ^ 32
  | _ => True

/-! ## What should hold -/

/-- `lists` are the lists of the directories. -/
structure ListsOk (xfs : XfsFs) (lists : Nat → List Nat) : Prop where
  /-- Correctly linked, and ascending. -/
  linked : ∀ d, (xfs.inodeTable d).isSome →
    Ring (xfs.fwd d) (xfs.bwd d) (lists d) ∧ (lists d).Pairwise (· < ·)
  /-- An inode is on the list of its parent, and on no other. -/
  one : ∀ i, (xfs.inodeTable i).isSome → ¬Tree.Fixed i → ∃ d, xfs.tree.parent i = some d ∧
    (xfs.inodeTable d).isSome ∧ ∀ e, (xfs.inodeTable e).isSome → (i ∈ lists e ↔ e = d)
  /-- Nothing else is on a list. -/
  live : ∀ d, (xfs.inodeTable d).isSome → ∀ i ∈ lists d,
    (xfs.inodeTable i).isSome ∧ ¬Tree.Fixed i
  /-- Outside delete-pending the names on a list differ. -/
  names : ∀ d, (xfs.inodeTable d).isSome → d ≠ DELETE_PENDING_ID → ∀ i ∈ lists d, ∀ j ∈ lists d,
    ∀ x y, xfs.inodeTable i = some x → xfs.inodeTable j = some y → x.name = y.name → i = j

/-- A file system as it should be. -/
structure WellFormed (xfs : XfsFs) : Prop where
  table : ∀ i, (xfs.inodeTable i).isSome → i < xfs.tableSize
  fixed : ∀ i, Tree.Fixed i → (xfs.inodeTable i).isSome
  lists : ∃ lists, ListsOk xfs lists
  /-- Parents lead to the root or to delete-pending. -/
  rooted : ∀ i, (xfs.inodeTable i).isSome → Rooted xfs.tree.parent Tree.Fixed i
  /-- The free list has every number that is not used, once. -/
  free : xfs.freeList.Nodup ∧ ∀ i, i ∈ xfs.freeList ↔
    DELETE_PENDING_ID < i ∧ i < xfs.inodeCount ∧ xfs.inodeTable i = none
  /-- No number is handed out that is used. -/
  fresh : ∀ parentInum name mode allocs inum xfs',
    xfsAddEntry xfs parentInum name mode allocs = .ok (some inum, xfs') → xfs.inodeTable inum = none

variable {xfs : XfsFs}

theorem Inv.listsOk (h : Inv xfs) : ListsOk xfs xfs.children where
  linked d hd := ⟨h.links d hd, Tree.children_sorted d⟩
  one i hi hfixed := by
    obtain ⟨x, hx⟩ := Option.isSome_iff_exists.1 ((isSome_tree i).trans hi)
    obtain ⟨d, y, hd, hy, -⟩ := h.sound.inDir i x hx hfixed
    have hp := (Tree.parent_of_eq hx).trans hd
    refine ⟨d, hp, ?_, fun e _ => ⟨fun hmem => ?_, fun heq => ?_⟩⟩
    · rw [← isSome_tree, hy]
      rfl
    · have hpe := (Tree.mem_children.1 hmem).2
      rw [hp] at hpe
      exact (Option.some_injective _ hpe).symm
    · exact heq ▸ h.mem_children_of_parent hp
  live d _ i hi := ⟨isSome_of_mem_children hi, h.not_fixed (Tree.mem_children.1 hi).2⟩
  names d _ hpending i hi j hj x y hx hy hname := by
    have hpi := (Tree.mem_children.1 hi).2
    have hpj := (Tree.mem_children.1 hj).2
    rw [Tree.parent_of_eq (tree_of_eq hx)] at hpi
    rw [Tree.parent_of_eq (tree_of_eq hy)] at hpj
    exact h.sound.names d hpending i j _ _ (tree_of_eq hx) (tree_of_eq hy) hpi hpj hname

/-! ## Adding -/

/-- What an add that meets the checks does: a number off the free list is used, which has been grown
if it was empty, if there is memory. -/
structure Added (xfs : XfsFs) (parentInum : Nat) (parent : XfsInode) (name : List UInt8)
    (mode : UInt32) (allocs : AddAllocs) (result : Option Nat) (xfs' : XfsFs) : Prop where
  inv : Inv xfs'
  generation : xfs'.generation = xfs.generation
  failed : result = none → xfs'.tree = xfs.tree
  added : ∀ inum, result = some inum → inum = xfs.freeList.headD xfs.inodeCount ∧
    xfs.inodeTable inum = none ∧ xfs'.tree = update xfs.tree inum
      (some (newEntry xfs.generation parentInum parent name (sanitised mode)))
  /-- If all memory is found, there is a new entry. -/
  memory : allocs.table → allocs.free → allocs.xino → result ≠ none
  freeList : allocs.table → allocs.free → allocs.xino →
    if xfs.freeList = [] then
      xfs'.inodeCount = xfs.inodeCount + INODE_TABLE_ALLOCATION_GRANULARITY ∧
        xfs'.freeList.length + 1 = INODE_TABLE_ALLOCATION_GRANULARITY
    else xfs'.inodeCount = xfs.inodeCount ∧ xfs'.freeList = xfs.freeList.tail

theorem xfsAddEntry_spec (hinv : Inv xfs) {parentInum : Nat} {name : List UInt8}
    {parent : XfsInode} (h : AddChecks xfs parentInum name parent)
    (hroom : xfs.freeList = [] → xfs.inodeCount + INODE_TABLE_ALLOCATION_GRANULARITY < 2 ^ 32)
    (mode : UInt32) (allocs : AddAllocs) :
    ∃ result xfs', xfsAddEntry xfs parentInum name mode allocs = .ok (result, xfs') ∧
      Added xfs parentInum parent name mode allocs result xfs' := by
  obtain ⟨found, hrun, hfound, -⟩ := xfsLookupInDir_spec hinv h.inTable h.isDir name
  rw [h.fresh] at hrun
  cases hrun
  have hfresh := hfound.1 rfl
  rw [xfsAddEntry_of_checks hinv h mode allocs]
  cases hfree : xfs.freeList with
  | cons inum freeList =>
    rw [if_pos (List.cons_ne_nil _ _), addInSpace, Bool.true_and]
    split
    case isFalse hxino =>
      exact ⟨none, xfs, rfl, hinv, rfl, (fun _ => rfl), (fun _ h => by cases h),
        (fun _ _ h => absurd h hxino), fun _ _ h => absurd h hxino⟩
    case isTrue =>
      obtain ⟨xfs', hadd, hinv', hcount, hrest, hgeneration, htree⟩ :=
        addEntry_inv hinv h.inTable h.isDir hfresh (sanitised mode) hfree
      have hnone := ((hinv.free inum).1 (by rw [hfree]; exact List.mem_cons_self)).2.2
      refine ⟨some inum, xfs', hadd, hinv', hgeneration, (fun h => by cases h), fun i hi => ?_,
        (fun _ _ _ => Option.some_ne_none inum), fun _ _ _ => ?_⟩
      · rw [← Option.some_injective _ hi, hfree]
        exact ⟨rfl, hnone, htree⟩
      · rw [if_neg (by rw [hfree]; exact List.cons_ne_nil _ _), hrest, hfree]
        exact ⟨hcount, rfl⟩
  | nil =>
    obtain ⟨grown, xfs₁, hgrow, hinv₁, htable, hgeneration₁, hgrown⟩ :=
      growXfs_inv hinv (hroom hfree) allocs.table allocs.free
    have htree₁ : xfs₁.tree = xfs.tree := by
      funext i
      rw [tree, htable, tree]
    rw [if_neg (fun h => h rfl), hgrow, Run.ok_bind, addInSpace]
    by_cases hspace : (grown && allocs.xino) = true
    · rw [if_pos hspace]
      obtain ⟨rfl, hxino⟩ := (Bool.and_eq_true _ _).mp hspace
      have hmemory : (allocs.table && allocs.free) = true := by
        by_contra hno
        rw [if_neg hno] at hgrown
        cases hgrown
      rw [if_pos hmemory] at hgrown
      obtain ⟨-, hcount₁, hlist⟩ := hgrown
      rw [hfree, List.append_nil] at hlist
      have hlist' : xfs₁.freeList = xfs.inodeCount ::
          List.range' (xfs.inodeCount + 1) (INODE_TABLE_ALLOCATION_GRANULARITY - 1) := by
        rw [hlist]
        rfl
      obtain ⟨xfs', hadd, hinv', hcount, hrest, hgeneration, htree⟩ :=
        addEntry_inv hinv₁ (by rw [htable]; exact h.inTable) h.isDir (by rw [htree₁]; exact hfresh)
          (sanitised mode) hlist'
      have hnone := ((hinv₁.free xfs.inodeCount).1 (by rw [hlist']; exact List.mem_cons_self)).2.2
      rw [htable] at hnone
      rw [hgeneration₁, htree₁] at htree
      refine ⟨some xfs.inodeCount, xfs', hadd, hinv', hgeneration.trans hgeneration₁,
        (fun h => by cases h), fun i hi => ?_, (fun _ _ _ => Option.some_ne_none _), fun _ _ _ => ?_⟩
      · rw [← Option.some_injective _ hi, hfree]
        exact ⟨rfl, hnone, htree⟩
      · rw [if_pos hfree, hrest, List.length_range', hcount, hcount₁]
        exact ⟨rfl, rfl⟩
    · rw [if_neg hspace]
      have hno : ∀ {P : Prop}, allocs.table → allocs.free → allocs.xino → P := by
        intro P ht hf hx
        rw [ht, hf, Bool.true_and, if_pos rfl] at hgrown
        rw [hgrown.1, hx] at hspace
        exact absurd rfl hspace
      exact ⟨none, xfs₁, rfl, hinv₁, hgeneration₁, (fun _ => htree₁), (fun _ h => by cases h),
        (fun a b c => hno a b c), fun a b c => hno a b c⟩

/-- **The table cannot grow to `2 ^ 32` inodes**: the number of them is zero then, and the table is
freed. -/
theorem xfsAddEntry_wraps (hinv : Inv xfs) {parentInum : Nat} {name : List UInt8}
    {parent : XfsInode} (h : AddChecks xfs parentInum name parent) (hfree : xfs.freeList = [])
    (hfull : ¬xfs.inodeCount + INODE_TABLE_ALLOCATION_GRANULARITY < 2 ^ 32) (mode : UInt32)
    (allocs : AddAllocs) :
    xfsAddEntry xfs parentInum name mode allocs = .ok (none, { xfs with tableSize := 0 }) := by
  have hwrap : (xfs.inodeCount + INODE_TABLE_ALLOCATION_GRANULARITY) % 2 ^ 32 = 0 := by
    have hcount := hinv.count.2
    have hgrown := hinv.grown
    rw [INODE_TABLE_ALLOCATION_GRANULARITY] at hfull ⊢
    omega
  rw [xfsAddEntry_of_checks hinv h mode allocs, if_neg fun h => h hfree, growXfs, hwrap]
  rfl

theorem Inv.wellFormed (h : Inv xfs) : WellFormed xfs where
  table i hi := Nat.lt_of_lt_of_le (h.lt_count (by rwa [isSome_tree])) h.tableSize
  fixed i hi := by
    obtain ⟨x, hx, -⟩ := h.sound.fixed i hi
    rw [← isSome_tree, hx]
    rfl
  lists := ⟨_, h.listsOk⟩
  rooted i hi := h.sound.rooted i (by rwa [isSome_tree])
  free := ⟨h.freeNodup, h.free⟩
  fresh parentInum name mode allocs inum xfs' hadd := by
    by_cases hchecks : ∃ parent, AddChecks xfs parentInum name parent
    · obtain ⟨parent, hparent⟩ := hchecks
      by_cases hroom : xfs.freeList = [] →
          xfs.inodeCount + INODE_TABLE_ALLOCATION_GRANULARITY < 2 ^ 32
      · obtain ⟨result, xfs₁, hrun, hadded⟩ := xfsAddEntry_spec h hparent hroom mode allocs
        rw [hrun] at hadd
        cases hadd
        exact (hadded.added inum rfl).2.1
      · obtain ⟨hfree, hfull⟩ := Classical.not_imp.1 hroom
        rw [xfsAddEntry_wraps h hparent hfree hfull] at hadd
        cases hadd
    · rw [xfsAddEntry_of_not_checks h fun parent hp => hchecks ⟨parent, hp⟩] at hadd
      cases hadd

/-! ## Steps and runs -/

theorem next_unique (xfs : XfsFs) (op : Op) (xfs₁ xfs₂ : XfsFs) (h₁ : Next xfs op xfs₁)
    (h₂ : Next xfs op xfs₂) : xfs₁ = xfs₂ :=
  Except.ok.inj ((Eq.symm h₁).trans h₂)

/-- **A call leaves a file system as it should be** just if the table does not have to grow to
`2 ^ 32` inodes. -/
theorem step_iff (hinv : Inv xfs) (op : Op) :
    Runs.StepIff Next WellFormed Inv TableHolds xfs op := by
  -- a call that keeps the invariant
  have hkeeps : Keeps xfs (step xfs op) → TableHolds xfs op →
      Runs.StepIff Next WellFormed Inv TableHolds xfs op := by
    rintro ⟨xfs', hrun, hinv', -⟩ hholds
    exact .of_next next_unique hrun (iff_of_true hinv'.wellFormed hholds)
      fun _ => hinv'
  cases op with
  | removeEntry inum h => exact hkeeps (xfsRemoveEntry_removes hinv h).keeps trivial
  | removeDirectoryContents inum h =>
    exact hkeeps (xfsRemoveDirectoryContents_removes hinv h).keeps trivial
  | incrementFileOpenCount inum => exact hkeeps (xfsIncrementFileOpenCount_inv hinv inum) trivial
  | decrementFileOpenCount inum => exact hkeeps (xfsDecrementFileOpenCount_inv hinv inum) trivial
  | deleteEntriesWithDeviceId deviceId =>
    exact hkeeps (xfsDeleteEntriesWithDeviceId_inv hinv deviceId) trivial
  | setDeviceId inum h deviceId => exact hkeeps (setDeviceId_inv hinv h deviceId) trivial
  | add parentInum name mode allocs =>
    by_cases hchecks : ∃ parent, AddChecks xfs parentInum name parent
    · obtain ⟨parent, hparent⟩ := hchecks
      by_cases hroom : xfs.freeList = [] →
          xfs.inodeCount + INODE_TABLE_ALLOCATION_GRANULARITY < 2 ^ 32
      · obtain ⟨result, xfs', hrun, hadded⟩ := xfsAddEntry_spec hinv hparent hroom mode allocs
        have hnext : Next xfs (.add parentInum name mode allocs) xfs' := by
          rw [Next, step, hrun]
          rfl
        exact .of_next next_unique hnext
          (iff_of_true hadded.inv.wellFormed fun hfree _ => hroom hfree) fun _ => hadded.inv
      · obtain ⟨hfree, hfull⟩ := Classical.not_imp.1 hroom
        have hbad : ¬WellFormed { xfs with tableSize := 0 } := fun hw =>
          Nat.not_lt_zero _ (hw.table FUSE_ROOT_ID (hinv.wellFormed.fixed _ (.inl rfl)))
        have hnext : Next xfs (.add parentInum name mode allocs) { xfs with tableSize := 0 } := by
          rw [Next, step, xfsAddEntry_wraps hinv hparent hfree hfull]
          rfl
        exact .of_next next_unique hnext
          (iff_of_false hbad fun hholds => hfull (hholds hfree ⟨parent, hparent⟩))
          fun hw => absurd hw hbad
    · have hnext : Next xfs (.add parentInum name mode allocs) xfs := by
        rw [Next, step, xfsAddEntry_of_not_checks hinv fun parent hp => hchecks ⟨parent, hp⟩]
        rfl
      exact .of_next next_unique hnext
        (iff_of_true hinv.wellFormed fun _ h => absurd h hchecks) fun _ => hinv

/-! ## A new file system -/

/-- A new file system, if all memory is found. -/
def created (umask : UInt32) : XfsFs where
  inodeTable i :=
    if i = FUSE_ROOT_ID then some (fixedInode i umask [0x2e] 1)
    else if i = DELETE_PENDING_ID then
      some (fixedInode i umask ".delete-pending".toUTF8.data.toList 1)
    else none
  tableSize := INODE_TABLE_ALLOCATION_INITIAL
  freeList := List.range' 3 4093
  freeSize := INODE_TABLE_ALLOCATION_INITIAL
  inodeCount := INODE_TABLE_ALLOCATION_INITIAL
  generation := 1

theorem xfsCreateXfsFs_eq (umask : UInt32) (allocs : CreateAllocs) :
    xfsCreateXfsFs umask allocs =
      .ok (if allocs.xfs && allocs.table && allocs.free && allocs.xino1 && allocs.xino2 then
        some (created umask) else none) := by
  have hlist : List.range' 0 4096 = 0 :: 1 :: 2 :: List.range' 3 4093 := rfl
  have hgrow : growXfs ⟨fun _ => none, 0, [], 0, 0, 1⟩ INODE_TABLE_ALLOCATION_INITIAL true true =
      .ok (true, ⟨fun _ => none, 4096, List.range' 0 4096, 4096, 4096, 1⟩) := by
    rw [growXfs, INODE_TABLE_ALLOCATION_INITIAL]
    simp
  obtain ⟨axfs, atable, afree, axino1, axino2⟩ := allocs
  cases axfs with
  | false => rfl
  | true =>
    cases atable with
    | false => rfl
    | true =>
      cases afree with
      | false => rfl
      | true =>
        rw [xfsCreateXfsFs]
        dsimp only
        rw [hgrow, hlist, Run.ok_bind]
        simp only [ite_self]
        cases axino1 <;> cases axino2 <;> rfl

/-- **A new file system is as it should be.** -/
theorem created_inv (umask : UInt32) : Inv (created umask) := by
  have htree : ∀ i x, (created umask).tree i = some x →
      Tree.Fixed i ∧ x.parent = none ∧ x.deviceId = 0 := by
    intro i x hx
    rw [tree, created] at hx
    dsimp only at hx
    by_cases h1 : i = FUSE_ROOT_ID
    · rw [if_pos h1] at hx
      cases hx
      exact ⟨.inl h1, rfl, rfl⟩
    · rw [if_neg h1] at hx
      by_cases h2 : i = DELETE_PENDING_ID
      · rw [if_pos h2] at hx
        cases hx
        exact ⟨.inr h2, rfl, rfl⟩
      · rw [if_neg h2] at hx
        cases hx
  have hfixed : ∀ i, Tree.Fixed i → ∃ x, (created umask).tree i = some x := by
    rintro i (rfl | rfl)
    · exact ⟨_, rfl⟩
    · exact ⟨_, rfl⟩
  have hparent : ∀ i, (created umask).tree.parent i = none := by
    intro i
    rw [Tree.parent]
    cases hx : (created umask).tree i with
    | none => rfl
    | some x => exact (htree i x hx).2.1
  have hempty : ∀ d, (created umask).children d = [] := by
    intro d
    apply List.filter_eq_nil_iff.2
    intro i _
    simp [hparent]
  constructor
  · exact Nat.le_refl _
  · rfl
  · exact ⟨(by decide : 2 < 4096), (by decide : 4096 < 2 ^ 32)⟩
  · exact (by decide : 4096 % 100 = 96)
  · intro i x hx
    rw [created] at hx
    dsimp only at hx
    split at hx
    · cases hx
      rfl
    · split at hx
      · cases hx
        rfl
      · cases hx
  · intro d hd
    rw [hempty, ring_nil]
    obtain ⟨x, hx⟩ := Option.isSome_iff_exists.1 hd
    rw [fwd, bwd, link, link, hx]
    rw [created] at hx
    dsimp only at hx
    split at hx
    · cases hx
      exact ⟨rfl, rfl⟩
    · split at hx
      · cases hx
        exact ⟨rfl, rfl⟩
      · cases hx
  · refine ⟨fun i hi => ?_, fun i hi => ?_, fun i x hx hnot => ?_, fun d _ i j x y hx _ hp => ?_,
      fun i hi => ?_⟩
    · obtain ⟨x, hx⟩ := Option.isSome_iff_exists.1 hi
      rcases (htree i x hx).1 with rfl | rfl
      · exact ⟨(by decide : 0 < 1), (by decide : 1 < 4096)⟩
      · exact ⟨(by decide : 0 < 2), (by decide : 2 < 4096)⟩
    · obtain ⟨x, hx⟩ := hfixed i hi
      exact ⟨x, hx, (htree i x hx).2⟩
    · exact absurd (htree i x hx).1 hnot
    · rw [(htree i x hx).2.1] at hp
      cases hp
    · obtain ⟨x, hx⟩ := Option.isSome_iff_exists.1 hi
      exact .root (htree i x hx).1
  · exact List.nodup_range'
  · intro i
    rw [created]
    dsimp only
    rw [List.mem_range'_1, DELETE_PENDING_ID, FUSE_ROOT_ID, INODE_TABLE_ALLOCATION_INITIAL]
    constructor
    · rintro ⟨h1, h2⟩
      exact ⟨h1, by omega, by rw [if_neg (by omega), if_neg (by omega)]⟩
    · rintro ⟨h1, h2, -⟩
      exact ⟨h1, by omega⟩

/-- **The file system is as it should be in all states of a run** just if the table never has to grow
to `2 ^ 32` inodes.  Any call may fail to find memory. -/
theorem xfs_invariant_iff (umask : UInt32) (allocs : CreateAllocs) :
    xfsCreateXfsFs umask allocs = .ok none ∨ ∃ xfs, xfsCreateXfsFs umask allocs = .ok (some xfs) ∧
      ∀ ops : List Op, Runs.Always Next WellFormed xfs ops ↔ Runs.AllFit Next TableHolds xfs ops := by
  rw [xfsCreateXfsFs_eq]
  split
  · refine .inr ⟨_, rfl, fun ops => ?_⟩
    exact Runs.always_iff next_unique (fun _ => Inv.wellFormed) (fun _ op hinv => step_iff hinv op)
      (created_inv umask) ops
  · exact .inl rfl

/-! ## A run to the last inode -/

/-- Different names for different numbers, of the letters from `a` to `p`. -/
def nameOf (j : Nat) : List UInt8 := (Nat.digits 16 (j + 1)).map fun d => UInt8.ofNat (0x61 + d)

theorem nameOf_injective : Injective nameOf := by
  intro i j h
  have hdigits : ∀ n, (nameOf n).map (fun b => b.toNat - 0x61) = Nat.digits 16 (n + 1) := by
    intro n
    rw [nameOf, List.map_map]
    conv => rhs; rw [← List.map_id (Nat.digits 16 (n + 1))]
    apply List.map_congr_left
    intro d hd
    have hlt := Nat.digits_lt_base (by decide : 1 < 16) hd
    rw [comp_apply, UInt8.toNat_ofNat_of_lt' (by rw [UInt8.size]; omega), id_eq]
    omega
  have hij : Nat.digits 16 (i + 1) = Nat.digits 16 (j + 1) := by rw [← hdigits, h, hdigits]
  exact Nat.succ_injective (Nat.digits_inj_iff.1 hij)

theorem length_nameOf {j : Nat} (hj : j < 2 ^ 32) : (nameOf j).length ≤ XFS_MAXFILENAMELEN := by
  rw [nameOf, List.length_map, XFS_MAXFILENAMELEN]
  calc (Nat.digits 16 (j + 1)).length
      ≤ 9 := (Nat.digits_length_le_iff (by decide) _).2 (by omega)
    _ ≤ 255 := by decide

/-- A file is added to the root, and all memory is found. -/
def addFile (j : Nat) : Op := .add FUSE_ROOT_ID (nameOf j) 0 ⟨true, true, true⟩

/-- A file system with `n` files in the root. -/
structure Filled (n : Nat) (xfs : XfsFs) : Prop where
  inv : Inv xfs
  count : xfs.freeList.length + n + 3 = xfs.inodeCount
  root : ∃ x, xfs.tree FUSE_ROOT_ID = some x ∧ x.isDir
  names : ∀ i y, xfs.tree i = some y → y.parent = some FUSE_ROOT_ID → ∃ j < n, y.name = nameOf j

/-- Nothing has a parent in a new file system. -/
theorem created_parent (i : Nat) (y : Entry) (hy : (created 0).tree i = some y) : y.parent = none := by
  rw [tree, created] at hy
  dsimp only at hy
  split at hy
  · cases hy
    rfl
  · split at hy
    · cases hy
      rfl
    · cases hy

theorem created_filled : Filled 0 (created 0) where
  inv := created_inv 0
  count := by
    show (List.range' 3 4093).length + 0 + 3 = 4096
    rw [List.length_range']
  root := ⟨_, rfl, by decide⟩
  names i y hy hp := by
    rw [created_parent i y hy] at hp
    cases hp

/-- The next file passes the checks. -/
theorem Filled.checks {n : Nat} (h : Filled n xfs) (hn : n < 2 ^ 32) :
    ∃ parent, AddChecks xfs FUSE_ROOT_ID (nameOf n) parent := by
  obtain ⟨x, hx, hdir⟩ := h.root
  obtain ⟨z, hz, rfl⟩ := Option.map_eq_some_iff.1 hx
  obtain ⟨found, hrun, hfound, -⟩ := xfsLookupInDir_spec h.inv hz hdir (nameOf n)
  have hnone : found = none := hfound.2 fun i w hw hp hname => by
    obtain ⟨j, hj, hnamej⟩ := h.names i w hw hp
    exact Nat.ne_of_lt hj (nameOf_injective (hnamej.symm.trans hname))
  rw [hnone] at hrun
  exact ⟨z, hz, hdir, by decide, length_nameOf hn, hrun⟩

/-- The next file is added, if it is not the one too many. -/
theorem Filled.add {n : Nat} (h : Filled n xfs) (hn : n < 2 ^ 32 - 103) :
    ∃ xfs', step xfs (addFile n) = .ok xfs' ∧ Filled (n + 1) xfs' := by
  obtain ⟨parent, hchecks⟩ := h.checks (by omega)
  have hcount := h.count
  have hgrown := h.inv.grown
  have hroom : xfs.freeList = [] →
      xfs.inodeCount + INODE_TABLE_ALLOCATION_GRANULARITY < 2 ^ 32 := by
    intro hfree
    rw [hfree, List.length_nil] at hcount
    rw [INODE_TABLE_ALLOCATION_GRANULARITY]
    omega
  obtain ⟨result, xfs', hrun, hadded⟩ := xfsAddEntry_spec h.inv hchecks hroom 0 ⟨true, true, true⟩
  obtain ⟨inum, rfl⟩ := Option.ne_none_iff_exists'.1 (hadded.memory rfl rfl rfl)
  obtain ⟨-, hnone, htree⟩ := hadded.added inum rfl
  have hlist := hadded.freeList rfl rfl rfl
  refine ⟨xfs', ?_, hadded.inv, ?_, ?_, fun i w hw hpw => ?_⟩
  · rw [addFile, step, hrun]
    rfl
  · split at hlist
    case isTrue hfree =>
      rw [hfree, List.length_nil] at hcount
      rw [INODE_TABLE_ALLOCATION_GRANULARITY] at hlist
      omega
    case isFalse hfree =>
      have hpos := List.length_pos_iff.2 hfree
      rw [hlist.2, List.length_tail]
      omega
  · obtain ⟨x, hx, hdir⟩ := h.root
    refine ⟨x, ?_, hdir⟩
    rw [htree, update_of_ne, hx]
    rintro rfl
    rw [tree, hnone] at hx
    cases hx
  · by_cases hi : i = inum
    · rw [htree, hi, update_self] at hw
      cases hw
      exact ⟨n, Nat.lt_succ_self n, rfl⟩
    · rw [htree, update_of_ne hi] at hw
      obtain ⟨j, hj, hnamej⟩ := h.names i w hw hpw
      exact ⟨j, Nat.lt_succ_of_lt hj, hnamej⟩

/-- The first `n` files. -/
def files (n : Nat) : List Op := (List.range n).map addFile

theorem files_succ (n : Nat) : files (n + 1) = files n ++ [addFile n] := by
  rw [files, List.range_succ, List.map_append]
  rfl

theorem foldlM_files_succ {n : Nat} {s : XfsFs} (hrun : (files n).foldlM step s = .ok xfs) :
    (files (n + 1)).foldlM step s = step xfs (addFile n) := by
  rw [files_succ, List.foldlM_append, hrun]
  exact bind_pure (step xfs (addFile n))

/-- By induction on the number of files. -/
theorem filled {n : Nat} (hn : n ≤ 2 ^ 32 - 103) :
    ∃ xfs, (files n).foldlM step (created 0) = .ok xfs ∧ Filled n xfs := by
  induction n with
  | zero => exact ⟨_, rfl, created_filled⟩
  | succ n ih =>
    obtain ⟨xfs, hrun, hfilled⟩ := ih (by omega)
    obtain ⟨xfs', hadd, hfilled'⟩ := hfilled.add (by omega)
    exact ⟨xfs', (foldlM_files_succ hrun).trans hadd, hfilled'⟩

/-- When `2 ^ 32 - 100` inodes are in use, one more file frees the table. -/
theorem Filled.freed {n : Nat} (h : Filled n xfs) (hn : n = 2 ^ 32 - 103) :
    step xfs (addFile n) = .ok { xfs with tableSize := 0 } := by
  obtain ⟨parent, hchecks⟩ := h.checks (by omega)
  have hcount := h.count
  have hlt := h.inv.count.2
  have hgrown := h.inv.grown
  have hfree : xfs.freeList = [] := by
    apply List.eq_nil_of_length_eq_zero
    omega
  rw [hfree, List.length_nil] at hcount
  have hfull : ¬xfs.inodeCount + INODE_TABLE_ALLOCATION_GRANULARITY < 2 ^ 32 := by
    rw [INODE_TABLE_ALLOCATION_GRANULARITY]
    omega
  rw [addFile, step, xfsAddEntry_wraps h.inv hchecks hfree hfull]
  rfl

/-- **The last of `2 ^ 32 - 102` files is one too many**: no inode is in the table any more. -/
theorem table_freed : ∃ xfs, xfsCreateXfsFs 0 ⟨true, true, true, true, true⟩ = .ok (some xfs) ∧
    ¬Runs.Always Next WellFormed xfs (files (2 ^ 32 - 102)) := by
  refine ⟨created 0, xfsCreateXfsFs_eq 0 _, fun h => ?_⟩
  obtain ⟨n, hn⟩ : ∃ n, n = 2 ^ 32 - 103 := ⟨_, rfl⟩
  have hlast : 2 ^ 32 - 102 = n + 1 := by omega
  rw [hlast] at h
  obtain ⟨xfs, hrun, hfilled⟩ := filled (Nat.le_of_eq hn)
  obtain ⟨xfs', hleads, hwell⟩ := h (files (n + 1)) (List.prefix_refl _)
  have hfreed := (foldlM_files_succ hrun).trans (hfilled.freed hn)
  rw [Runs.leads_except.1 hleads] at hfreed
  cases hfreed
  exact Nat.not_lt_zero _ (hwell.table FUSE_ROOT_ID (hwell.fixed _ (.inl rfl)))

end Xrdp.Chansrv
