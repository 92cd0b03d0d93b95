import Xrdp.Chansrv.XfsReaddir

/-!
# Paths of entries

* `xfsGetFullPath` — the call: it follows the parents to the root.
* `IsPath` — the path of an entry that the parents lead from to the root.
* `xfsGetFullPath_eq` — that path is returned.
* `xfsGetFullPath_iff` — the call ends just if the parents do not lead to delete-pending.
-/

namespace Xrdp.Chansrv

open Forest Function XfsFs

/-- The first loop of `xfs_get_full_path`, which adds up the lengths. -/
def pathLength (xfs : XfsFs) : Nat → Option Nat → Nat → Run Nat
  | 0, _, _ => .error .outOfFuel
  | fuel + 1, p, len =>
    match p with
    | none => .error .outOfBounds
    | some p => do
      let x ← xfs.deref p
      if x.inum = FUSE_ROOT_ID then pure len
      else pathLength xfs fuel x.parent (len + x.name.length + 1)

/-- The second, which puts the path together from its end. -/
def putPath (xfs : XfsFs) : Nat → Option Nat → Nat → Buf UInt8 → Run (Buf UInt8)
  | 0, _, _, _ => .error .outOfFuel
  | fuel + 1, p, last, result =>
    match p with
    | none => .error .outOfBounds
    | some p => do
      let x ← xfs.deref p
      if x.inum = FUSE_ROOT_ID then pure result
      else if x.name.length + 1 ≤ last then do
        let last := last - (x.name.length + 1)
        let result ← result.write last 0x2f
        let result ← result.memcpy (last + 1) x.name
        putPath xfs fuel x.parent last result
      else .error .outOfBounds

/-- `xfs_get_full_path`; `memory` is whether it is found. -/
def xfsGetFullPath (xfs : XfsFs) (inum : Nat) (memory : Bool) : Run (Option (List UInt8)) :=
  if inum < xfs.inodeCount then do
    match ← xfs.tableAt inum with
    | none => pure none
    | some xino =>
      if xino.inum = FUSE_ROOT_ID then pure (if memory then some [0x2f] else none)
      else do
        let len ← pathLength xfs (xfs.inodeCount + 2) (some inum) 0
        if memory then do
          let result ← (Buf.alloc (len + 1)).write len 0
          let result ← putPath xfs (xfs.inodeCount + 2) (some inum) len result
          pure (some ((List.range len).map result.cells))
        else pure none
  else .ok none

/-- The entry is delete-pending, or in it. -/
def Pending (t : Tree) (i : Nat) : Prop :=
  i = DELETE_PENDING_ID ∨ Under t.parent DELETE_PENDING_ID i

/-- The path of an entry, where that of the root is empty. -/
inductive IsPath (t : Tree) : Nat → List UInt8 → Prop
  | root : IsPath t FUSE_ROOT_ID []
  | step {i d : Nat} {y : Entry} {path : List UInt8} : i ≠ FUSE_ROOT_ID → t i = some y →
      y.parent = some d → IsPath t d path → IsPath t i (path ++ 0x2f :: y.name)

variable {xfs : XfsFs} {i : Nat} {path : List UInt8}

/-! ## Where the parents lead -/

theorem Pending.of_parent {t : Tree} {d : Nat} (hp : t.parent i = some d) (h : Pending t d) :
    Pending t i := by
  rcases h with rfl | hu
  · exact .inr (.child hp)
  · exact .inr ((Under.child hp).trans hu)

/-- **The parents lead to the root**, or to delete-pending. -/
theorem exists_path (hinv : Inv xfs) (hi : (xfs.tree i).isSome) (h : ¬Pending xfs.tree i) :
    ∃ path, IsPath xfs.tree i path := by
  have hrooted := hinv.sound.rooted i hi
  induction hrooted with
  | @root e hr =>
    obtain rfl : e = FUSE_ROOT_ID := hr.resolve_right fun heq => h (.inl heq)
    exact ⟨[], .root⟩
  | @step e d hp _ ih =>
    obtain ⟨path, hpath⟩ := ih (hinv.isSome_parent hp) fun hd => h (hd.of_parent hp)
    obtain ⟨y, hy⟩ := Option.isSome_iff_exists.1 hi
    have hroot : e ≠ FUSE_ROOT_ID := fun heq => hinv.not_fixed hp (.inl heq)
    exact ⟨_, .step hroot hy ((Tree.parent_of_eq hy).symm.trans hp) hpath⟩

/-- **The parents are followed to delete-pending**, which has none. -/
theorem pathLength_pending (hinv : Inv xfs) (h : Pending xfs.tree i) (hi : (xfs.tree i).isSome)
    (fuel len : Nat) : ∀ l, pathLength xfs fuel (some i) len ≠ .ok l := by
  have hrooted := hinv.sound.rooted i hi
  intro l hrun
  induction hrooted generalizing fuel len with
  | @root e hr =>
    obtain ⟨y, hy⟩ := Option.isSome_iff_exists.1 hi
    obtain ⟨z, hz, rfl, hnum⟩ := exists_inode hinv.numbered hy
    have hp := hinv.sound.parent_fixed hr
    obtain rfl : e = DELETE_PENDING_ID := h.resolve_right (not_under_of_parent_eq_none hp)
    have hparent : z.parent = none := (Tree.parent_of_eq hy).symm.trans hp
    cases fuel with
    | zero => cases hrun
    | succ fuel =>
      rw [pathLength, deref_of_eq hz, Run.ok_bind, hnum, if_neg (by decide), hparent] at hrun
      cases fuel with
      | zero => cases hrun
      | succ fuel => cases hrun
  | @step e d hp _ ih =>
    obtain ⟨y, hy⟩ := Option.isSome_iff_exists.1 hi
    obtain ⟨z, hz, rfl, hnum⟩ := exists_inode hinv.numbered hy
    have hnot := hinv.not_fixed hp
    have hparent : z.parent = some d := (Tree.parent_of_eq hy).symm.trans hp
    have hd : Pending xfs.tree d := by
      rcases h.resolve_left (fun heq => hnot (.inr heq)) |>.of_parent hp with heq | hu
      · exact .inl heq
      · exact .inr hu
    cases fuel with
    | zero => cases hrun
    | succ fuel =>
      rw [pathLength, deref_of_eq hz, Run.ok_bind, hnum, if_neg fun heq => hnot (.inl heq),
        hparent] at hrun
      exact ih hd (hinv.isSome_parent hp) _ _ hrun

/-! ## The two loops -/

theorem pathLength_eq (hinv : Inv xfs) (h : IsPath xfs.tree i path) {fuel : Nat}
    (hfuel : xfs.inodeCount + 2 ≤ fuel + size xfs.tree.parent xfs.inodeCount i) (len : Nat) :
    pathLength xfs fuel (some i) len = .ok (len + path.length) := by
  induction h generalizing fuel len with
  | root =>
    obtain ⟨y, hy, -⟩ := hinv.sound.fixed FUSE_ROOT_ID (.inl rfl)
    obtain ⟨z, hz, -, hnum⟩ := exists_inode hinv.numbered hy
    have hsize := size_le xfs.tree.parent xfs.inodeCount FUSE_ROOT_ID
    obtain ⟨fuel, rfl⟩ : ∃ k, fuel = k + 1 := ⟨fuel - 1, by omega⟩
    rw [pathLength, deref_of_eq hz, Run.ok_bind, hnum, if_pos rfl]
    rfl
  | @step i d y path hroot hy hp _ ih =>
    obtain ⟨z, hz, rfl, hnum⟩ := exists_inode hinv.numbered hy
    have hless := hinv.size_lt_parent ((Tree.parent_of_eq hy).trans hp)
    have hsize := size_le xfs.tree.parent xfs.inodeCount i
    have hsized := size_le xfs.tree.parent xfs.inodeCount d
    obtain ⟨fuel, rfl⟩ : ∃ k, fuel = k + 1 := ⟨fuel - 1, by omega⟩
    have hparent : z.parent = some d := hp
    rw [pathLength, deref_of_eq hz, Run.ok_bind, hnum, if_neg hroot, hparent, ih (by omega)]
    simp only [XfsInode.entry, List.length_append, List.length_cons]
    congr 1
    omega

/-- **The path is put before the place** where it should end, and nothing else is touched. -/
theorem putPath_spec (hinv : Inv xfs) (h : IsPath xfs.tree i path) {fuel : Nat}
    (hfuel : xfs.inodeCount + 2 ≤ fuel + size xfs.tree.parent xfs.inodeCount i) {last : Nat}
    {result : Buf UInt8} (hroom : path.length ≤ last) (hlast : last ≤ result.size) :
    ∃ result', putPath xfs fuel (some i) last result = .ok result' ∧
      result'.Holds (last - path.length) path ∧
      result.Touched result' (last - path.length) path.length := by
  induction h generalizing fuel last result with
  | root =>
    obtain ⟨y, hy, -⟩ := hinv.sound.fixed FUSE_ROOT_ID (.inl rfl)
    obtain ⟨z, hz, -, hnum⟩ := exists_inode hinv.numbered hy
    have hsize := size_le xfs.tree.parent xfs.inodeCount FUSE_ROOT_ID
    obtain ⟨fuel, rfl⟩ : ∃ k, fuel = k + 1 := ⟨fuel - 1, by omega⟩
    refine ⟨result, ?_, Buf.Holds.nil (by omega), rfl, fun _ _ => rfl⟩
    rw [putPath, deref_of_eq hz, Run.ok_bind, hnum, if_pos rfl]
    rfl
  | @step i d y path hroot hy hp _ ih =>
    obtain ⟨z, hz, rfl, hnum⟩ := exists_inode hinv.numbered hy
    have hless := hinv.size_lt_parent ((Tree.parent_of_eq hy).trans hp)
    have hsize := size_le xfs.tree.parent xfs.inodeCount i
    have hsized := size_le xfs.tree.parent xfs.inodeCount d
    obtain ⟨fuel, rfl⟩ : ∃ k, fuel = k + 1 := ⟨fuel - 1, by omega⟩
    have hparent : z.parent = some d := hp
    have hname : z.entry.name = z.name := rfl
    rw [hname] at hroom ⊢
    rw [List.length_append, List.length_cons] at hroom
    -- the end of the path, and what is before it
    obtain ⟨start, hstart⟩ : ∃ k, k = last - (z.name.length + 1) := ⟨_, rfl⟩
    obtain ⟨result₁, hwrite, hslash, htouched₁⟩ :=
      Buf.write_spec (show start < result.size by omega) 0x2f
    obtain ⟨result₂, hcopy, hcopied, htouched₂⟩ :=
      Buf.memcpy_spec (show start + 1 + z.name.length ≤ result₁.size by rw [htouched₁.size]; omega)
    have hends : result₂.Holds start (0x2f :: z.name) :=
      (hslash.touched htouched₂ (.inl (Nat.le_refl _))).append hcopied
    obtain ⟨result₃, hput, hpath, htouched₃⟩ := @ih fuel (by omega) start result₂ (by omega)
      (by rw [htouched₂.size, htouched₁.size]; omega)
    have hoff : last - (path ++ 0x2f :: z.name).length = start - path.length := by
      rw [List.length_append, List.length_cons]
      omega
    have hplace : start - path.length + path.length = start := by omega
    refine ⟨result₃, ?_, ?_, ?_⟩
    · rw [putPath, deref_of_eq hz, Run.ok_bind, hnum, if_neg hroot, if_pos (by omega), ← hstart]
      dsimp only
      rw [hwrite, Run.ok_bind, hcopy, Run.ok_bind, hparent, hput]
    · rw [hoff]
      apply hpath.append
      rw [hplace]
      exact hends.touched htouched₃ (.inr (Nat.le_of_eq hplace))
    · rw [hoff]
      refine ⟨by rw [htouched₃.size, htouched₂.size, htouched₁.size], fun j hj => ?_⟩
      rw [List.length_append, List.length_cons] at hj
      rw [htouched₃.cells j (by omega), htouched₂.cells j (by omega), htouched₁.cells j (by omega)]

/-! ## The call -/

/-- **The path of an entry is returned**, if there is memory for it. -/
theorem xfsGetFullPath_eq (hinv : Inv xfs) (h : IsPath xfs.tree i path) (memory : Bool) :
    xfsGetFullPath xfs i memory =
      .ok (if memory then some (if i = FUSE_ROOT_ID then [0x2f] else path) else none) := by
  have hlive : (xfs.tree i).isSome := by
    cases h with
    | root =>
      obtain ⟨y, hy, -⟩ := hinv.sound.fixed FUSE_ROOT_ID (.inl rfl)
      rw [hy]
      rfl
    | step _ hy =>
      rw [hy]
      rfl
  have hlt := hinv.lt_count hlive
  obtain ⟨y, hy⟩ := Option.isSome_iff_exists.1 hlive
  obtain ⟨z, hz, -, hnum⟩ := exists_inode hinv.numbered hy
  rw [xfsGetFullPath, if_pos hlt, hinv.tableAt_eq hlt, Run.ok_bind, hz]
  dsimp only
  rw [hnum]
  by_cases hroot : i = FUSE_ROOT_ID
  · rw [if_pos hroot, if_pos hroot]
    rfl
  · rw [if_neg hroot, if_neg hroot, pathLength_eq hinv h (by omega), Run.ok_bind, Nat.zero_add]
    cases memory with
    | false => rfl
    | true =>
      obtain ⟨result, hwrite, -, htouched⟩ := Buf.write_spec
        (show path.length < (Buf.alloc (path.length + 1) : Buf UInt8).size from Nat.lt_succ_self _) 0
      have hlast : path.length ≤ result.size := by
        rw [htouched.size]
        exact Nat.le_succ _
      obtain ⟨result', hput, hpath, -⟩ :=
        putPath_spec hinv h (Nat.le_add_right (xfs.inodeCount + 2) _) (Nat.le_refl _) hlast
      rw [if_pos rfl, hwrite, Run.ok_bind, hput, Run.ok_bind, if_pos rfl]
      congr 2
      apply List.ext_getElem
      · rw [List.length_map, List.length_range]
      · intro k _ hk
        have hcell := hpath.cells k hk
        rw [Nat.sub_self, Nat.zero_add] at hcell
        rw [List.getElem_map, List.getElem_range, hcell]

/-- **The call ends** just if the parents do not lead to delete-pending. -/
theorem xfsGetFullPath_iff (hinv : Inv xfs) (inum : Nat) (memory : Bool) :
    (∃ r, xfsGetFullPath xfs inum memory = .ok r) ↔
      ((xfs.tree inum).isSome → ¬Pending xfs.tree inum) := by
  by_cases hlive : (xfs.tree inum).isSome
  · by_cases hpending : Pending xfs.tree inum
    · refine iff_of_false ?_ fun h => h hlive hpending
      rintro ⟨r, hrun⟩
      have hlt := hinv.lt_count hlive
      obtain ⟨y, hy⟩ := Option.isSome_iff_exists.1 hlive
      obtain ⟨z, hz, -, hnum⟩ := exists_inode hinv.numbered hy
      have hroot : inum ≠ FUSE_ROOT_ID := by
        rintro rfl
        rcases hpending with heq | hu
        · cases heq
        · exact not_under_of_parent_eq_none (hinv.sound.parent_fixed (.inl rfl)) hu
      rw [xfsGetFullPath, if_pos hlt, hinv.tableAt_eq hlt, Run.ok_bind, hz] at hrun
      dsimp only at hrun
      rw [hnum, if_neg hroot] at hrun
      obtain ⟨l, hl, -⟩ := Run.bind_eq_ok.1 hrun
      exact pathLength_pending hinv hpending hlive _ _ l hl
    · obtain ⟨path, hpath⟩ := exists_path hinv hlive hpending
      exact iff_of_true ⟨_, xfsGetFullPath_eq hinv hpath memory⟩ fun _ => hpending
  · refine iff_of_true ⟨none, ?_⟩ fun h => absurd h hlive
    rw [xfsGetFullPath]
    split
    case isFalse => rfl
    case isTrue hlt =>
      rw [hinv.tableAt_eq hlt, Run.ok_bind]
      cases hz : xfs.inodeTable inum with
      | none => rfl
      | some z => exact absurd (by rw [tree_of_eq hz]; rfl) hlive

end Xrdp.Chansrv
