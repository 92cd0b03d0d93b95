import Xrdp.Chansrv.XfsChanges

/-!
# Reading directories

* `xfsOpendir`, `xfsReaddir` — the calls; the offset is the number of the next entry.
* `xfsReaddir_opened` — the entry returned is the first one from the offset on, and the new offset is
  the number of the one behind it.
* `xfsReaddir_closed`, `xfsReaddir_end` — nothing is returned when the directory is gone, and at the end.
-/

namespace Xrdp.Chansrv

open Forest Function XfsFs Rings

/-- `struct xfs_dir_handle`. -/
structure XfsDirHandle where
  inum : Nat
  generation : UInt32

/-- `xfs_opendir`, if the memory for the handle is found. -/
def xfsOpendir (xfs : XfsFs) (dir : Nat) : Run (Option XfsDirHandle) :=
  if dir < xfs.inodeCount then do
    match ← xfs.tableAt dir with
    | none => pure none
    | some xino => if xino.isDir then pure (some ⟨xino.inum, xino.generation⟩) else pure none
  else .ok none

/-- Whether the entry `inum` of the table is an inode in the directory `dxino`. -/
def isIn (xfs : XfsFs) (dxino inum : Nat) : Run Bool := do
  match ← xfs.tableAt inum with
  | none => pure false
  | some xino => pure (decide (xino.parent = some dxino))

/-- The loop of `xfs_readdir`: the next `turns` entries of the table are looked at. -/
def lookForward (xfs : XfsFs) (dxino : Nat) : Nat → Nat → Run (Option Nat)
  | 0, _ => .ok none
  | turns + 1, inum => do
    if ← isIn xfs dxino inum then pure (some inum) else lookForward xfs dxino turns (inum + 1)

/-- What `xfs_readdir` returns. -/
def readdirResult (xfs : XfsFs) (handle : XfsDirHandle) (off : Int) : Run (Option Nat) :=
  if handle.inum < xfs.inodeCount then do
    match ← xfs.tableAt handle.inum with
    | none => pure none
    | some dxino =>
      if dxino.isDir ∧ handle.generation = dxino.generation then
        if off = -1 then pure none
        else
          let inum := (off % 2 ^ 64).toNat
          if inum = 0 then pure dxino.dirBegin
          else if ← (if inum < xfs.inodeCount then isIn xfs handle.inum inum else pure false) then
            pure (some inum)
          -- the entry has been pulled out from under us
          else lookForward xfs handle.inum (xfs.inodeCount - (inum + 1)) (inum + 1)
      else pure none
  else .ok none

/-- `xfs_readdir`: the entry, and the new offset. -/
def xfsReaddir (xfs : XfsFs) (handle : XfsDirHandle) (off : Int) : Run (Option Nat × Int) := do
  match ← readdirResult xfs handle off with
  | none => pure (none, -1)
  | some result => do
    let x ← xfs.deref result
    match x.next with
    | none => pure (some result, -1)
    | some next => do
      let n ← xfs.deref next
      pure (some result, n.inum)

/-- The directory that was opened is there. -/
def XfsDirHandle.Opened (handle : XfsDirHandle) (t : Tree) : Prop :=
  ∃ y, t handle.inum = some y ∧ y.isDir ∧ handle.generation = y.generation

/-- The entries of a directory from a number on. -/
def childrenFrom (xfs : XfsFs) (d k : Nat) : List Nat :=
  (List.range' k (xfs.inodeCount - k)).filter fun i => xfs.tree.parent i = some d

/-- What a call returns, with what is left of a directory. -/
def answer : List Nat → Option Nat × Int
  | [] => (none, -1)
  | [r] => (some r, -1)
  | r :: n :: _ => (some r, n)

variable {xfs : XfsFs} {d k i : Nat}

theorem mem_childrenFrom :
    i ∈ childrenFrom xfs d k ↔ k ≤ i ∧ i < xfs.inodeCount ∧ xfs.tree.parent i = some d := by
  rw [childrenFrom, List.mem_filter, List.mem_range'_1, decide_eq_true_eq]
  constructor
  · rintro ⟨⟨h1, h2⟩, hp⟩
    exact ⟨h1, by omega, hp⟩
  · rintro ⟨h1, h2, hp⟩
    exact ⟨⟨h1, by omega⟩, hp⟩

theorem childrenFrom_sorted (d k : Nat) : (childrenFrom xfs d k).Pairwise (· < ·) :=
  List.Pairwise.filter _ List.pairwise_lt_range'

theorem childrenFrom_succ (d : Nat) (hk : k < xfs.inodeCount) :
    childrenFrom xfs d k =
      if xfs.tree.parent k = some d then k :: childrenFrom xfs d (k + 1)
      else childrenFrom xfs d (k + 1) := by
  have hcount : xfs.inodeCount - k = xfs.inodeCount - (k + 1) + 1 := by omega
  rw [childrenFrom, hcount, List.range'_succ, List.filter_cons]
  simp only [decide_eq_true_eq]
  rfl

theorem childrenFrom_of_le (d : Nat) (hk : xfs.inodeCount ≤ k) : childrenFrom xfs d k = [] := by
  rw [childrenFrom, Nat.sub_eq_zero_of_le hk]
  rfl

/-- The list of a directory from a number on is its end. -/
theorem children_eq_append (d k : Nat) :
    ∃ pre, xfs.children d = pre ++ childrenFrom xfs d k := by
  rcases Nat.le_total k xfs.inodeCount with hk | hk
  · refine ⟨(List.range k).filter fun i => xfs.tree.parent i = some d, ?_⟩
    have hrange : List.range xfs.inodeCount = List.range k ++ List.range' k (xfs.inodeCount - k) := by
      have happend := @List.range'_append_1 0 k (xfs.inodeCount - k)
      rw [Nat.zero_add, Nat.add_sub_cancel' hk] at happend
      rw [List.range_eq_range', List.range_eq_range', happend]
    rw [children, Tree.children, hrange, List.filter_append]
    rfl
  · refine ⟨xfs.children d, ?_⟩
    rw [childrenFrom_of_le d hk, List.append_nil]

theorem isIn_eq (hinv : Inv xfs) (hi : i < xfs.inodeCount) (d : Nat) :
    isIn xfs d i = .ok (decide (xfs.tree.parent i = some d)) := by
  rw [isIn, hinv.tableAt_eq hi, Run.ok_bind, Tree.parent, tree]
  cases xfs.inodeTable i with
  | none => rfl
  | some z => rfl

/-- **The next entry in the directory is found.** -/
theorem lookForward_spec (hinv : Inv xfs) (d : Nat) {turns : Nat} (h : k + turns = xfs.inodeCount) :
    lookForward xfs d turns k = .ok (childrenFrom xfs d k).head? := by
  induction turns generalizing k with
  | zero =>
    rw [lookForward, childrenFrom_of_le d (by omega)]
    rfl
  | succ turns ih =>
    rw [lookForward, isIn_eq hinv (by omega), Run.ok_bind, childrenFrom_succ d (by omega)]
    by_cases hk : xfs.tree.parent k = some d
    · rw [if_pos (decide_eq_true hk), if_pos hk]
      rfl
    · rw [if_neg (by rwa [decide_eq_true_eq]), if_neg hk, ih (by omega)]

/-- **What is returned for a number** is the first entry from it on. -/
theorem readdirResult_spec (hinv : Inv xfs) {handle : XfsDirHandle} (h : handle.Opened xfs.tree)
    (hk : k < 2 ^ 64) :
    readdirResult xfs handle k = .ok (childrenFrom xfs handle.inum k).head? := by
  obtain ⟨y, hy, hdir, hgeneration⟩ := h
  have hlt := hinv.lt_count (i := handle.inum) (by rw [hy]; rfl)
  obtain ⟨z, hz, rfl, -⟩ := exists_inode hinv.numbered hy
  have hoff : ((k : Int) % 2 ^ 64).toNat = k := by omega
  have hnot : ¬(k : Int) = -1 := by omega
  have hboth : z.isDir ∧ handle.generation = z.generation := ⟨hdir, hgeneration⟩
  rw [readdirResult, if_pos hlt, hinv.tableAt_eq hlt, Run.ok_bind, hz]
  dsimp only
  rw [if_pos hboth, if_neg hnot, hoff]
  by_cases hzero : k = 0
  · subst hzero
    have hbegin : z.dirBegin = (xfs.children handle.inum).head? := by
      rw [← (hinv.links handle.inum (by rw [hz]; rfl)).ends.1, fwd, link, hz]
      rfl
    rw [if_pos rfl, hbegin, childrenFrom, Nat.sub_zero, ← List.range_eq_range']
    rfl
  · rw [if_neg hzero]
    by_cases hlive : k < xfs.inodeCount
    · rw [if_pos hlive, isIn_eq hinv hlive, Run.ok_bind, childrenFrom_succ _ hlive]
      by_cases hp : xfs.tree.parent k = some handle.inum
      · rw [if_pos (decide_eq_true hp), if_pos hp]
        rfl
      · rw [if_neg (by rwa [decide_eq_true_eq]), if_neg hp, lookForward_spec hinv _ (by omega)]
    · have hturns : xfs.inodeCount - (k + 1) = 0 := by omega
      rw [if_neg hlive, childrenFrom_of_le _ (by omega), hturns]
      rfl

/-- **A call returns the first entry from the offset on**, and the number of the one behind it. -/
theorem xfsReaddir_opened (hinv : Inv xfs) {handle : XfsDirHandle} (h : handle.Opened xfs.tree)
    (hk : k < 2 ^ 64) :
    xfsReaddir xfs handle k = .ok (answer (childrenFrom xfs handle.inum k)) := by
  have hlive := h
  obtain ⟨y, hy, -⟩ := hlive
  have hring := hinv.links handle.inum (by rw [← isSome_tree, hy]; rfl)
  obtain ⟨pre, hsplit⟩ := @children_eq_append xfs handle.inum k
  rw [xfsReaddir, readdirResult_spec hinv h hk, Run.ok_bind]
  cases hfrom : childrenFrom xfs handle.inum k with
  | nil => rfl
  | cons r rest =>
    rw [hsplit, hfrom] at hring
    have hmem : ∀ j, j ∈ r :: rest → (xfs.inodeTable j).isSome := by
      intro j hj
      apply isSome_of_mem_children (d := handle.inum)
      rw [hsplit, hfrom]
      exact List.mem_append_right _ hj
    obtain ⟨z, hz⟩ := Option.isSome_iff_exists.1 (hmem r List.mem_cons_self)
    have hnext : z.next = rest.head? := by
      rw [← hring.links.1, fwd, link, hz]
      rfl
    rw [List.head?_cons]
    dsimp only
    rw [deref_of_eq hz, Run.ok_bind, hnext]
    cases rest with
    | nil => rfl
    | cons n rest =>
      obtain ⟨zn, hzn⟩ := Option.isSome_iff_exists.1
        (hmem n (List.mem_cons_of_mem _ List.mem_cons_self))
      rw [List.head?_cons]
      dsimp only
      rw [deref_of_eq hzn, Run.ok_bind, hinv.numbered n zn hzn]
      rfl

/-- **Nothing is returned when the directory that was opened is gone.** -/
theorem xfsReaddir_closed (hinv : Inv xfs) {handle : XfsDirHandle} (h : ¬handle.Opened xfs.tree)
    (off : Int) : xfsReaddir xfs handle off = .ok (none, -1) := by
  have hresult : readdirResult xfs handle off = .ok none := by
    rw [readdirResult]
    split
    case isFalse => rfl
    case isTrue hlt =>
      rw [hinv.tableAt_eq hlt, Run.ok_bind]
      cases hz : xfs.inodeTable handle.inum with
      | none => rfl
      | some z =>
        dsimp only
        have hno : ¬(z.isDir ∧ handle.generation = z.generation) := fun hboth =>
          h ⟨z.entry, tree_of_eq hz, hboth⟩
        rw [if_neg hno]
        rfl
  rw [xfsReaddir, hresult]
  rfl

/-- **Nothing is returned at the end.** -/
theorem xfsReaddir_end (hinv : Inv xfs) (handle : XfsDirHandle) :
    xfsReaddir xfs handle (-1) = .ok (none, -1) := by
  by_cases h : handle.Opened xfs.tree
  · have hresult : readdirResult xfs handle (-1) = .ok none := by
      obtain ⟨y, hy, hdir, hgeneration⟩ := h
      have hlt := hinv.lt_count (i := handle.inum) (by rw [hy]; rfl)
      obtain ⟨z, hz, rfl, -⟩ := exists_inode hinv.numbered hy
      have hboth : z.isDir ∧ handle.generation = z.generation := ⟨hdir, hgeneration⟩
      rw [readdirResult, if_pos hlt, hinv.tableAt_eq hlt, Run.ok_bind, hz]
      dsimp only
      rw [if_pos hboth, if_pos rfl]
      rfl
    rw [xfsReaddir, hresult]
    rfl
  · exact xfsReaddir_closed hinv h _

theorem xfsOpendir_opened (hinv : Inv xfs) {dir : Nat} {handle : XfsDirHandle}
    (h : xfsOpendir xfs dir = .ok (some handle)) : handle.inum = dir ∧ handle.Opened xfs.tree := by
  rw [xfsOpendir] at h
  split at h
  case isFalse => cases h
  case isTrue hlt =>
    rw [hinv.tableAt_eq hlt, Run.ok_bind] at h
    cases hz : xfs.inodeTable dir with
    | none =>
      rw [hz] at h
      cases h
    | some z =>
      rw [hz] at h
      dsimp only at h
      split at h
      case isFalse => cases h
      case isTrue hdir =>
        cases h
        have hnum := hinv.numbered dir z hz
        exact ⟨hnum, z.entry, by rw [hnum, tree_of_eq hz], hdir, rfl⟩

end Xrdp.Chansrv
