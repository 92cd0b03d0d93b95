import Xrdp.Chansrv.XfsLinks

/-!
# Removing entries

* `Inv` — the invariant of a file system.
* `Removed` — entries have been removed: they are gone, or in delete-pending.
* `entrySpec_succ`, `contentsSpec_succ`, `loopSpec_succ` — what a call or a turn of the recursion does,
  if those below do.
* `xfsRemoveEntry_removes`, `xfsRemoveDirectoryContents_removes` — there is enough fuel, and the
  invariant is kept.
-/

namespace Xrdp.Chansrv

open Forest Function XfsFs

/-- What holds of a file system between calls. -/
structure Inv (xfs : XfsFs) : Prop where
  tableSize : xfs.inodeCount ≤ xfs.tableSize
  freeSize : xfs.freeSize = xfs.inodeCount
  count : DELETE_PENDING_ID < xfs.inodeCount ∧ xfs.inodeCount < 2 ^ 32
  /-- The table has been grown in steps of a hundred. -/
  grown : xfs.inodeCount % 100 = 96
  numbered : Numbered xfs
  links : Links xfs
  sound : xfs.tree.Sound xfs.inodeCount
  freeNodup : xfs.freeList.Nodup
  free : ∀ i, i ∈ xfs.freeList ↔
    DELETE_PENDING_ID < i ∧ i < xfs.inodeCount ∧ xfs.inodeTable i = none

/-- The entries in `gone` have been removed: they are not there any more, or in delete-pending. -/
structure Removed (t t' : Tree) (gone : Nat → Prop) : Prop where
  same : ∀ i, ¬gone i → t' i = t i
  gone : ∀ i, gone i → t' i = (t i).bind Entry.removed

/-- A run that has removed the entries in `gone`. -/
def Removes (xfs : XfsFs) (gone : Nat → Prop) (run : Run XfsFs) : Prop :=
  ∃ xfs', run = .ok xfs' ∧ Inv xfs' ∧ xfs'.inodeCount = xfs.inodeCount ∧
    Removed xfs.tree xfs'.tree gone

/-! ## What is under a directory -/

section

variable {t t' : Tree} {gone : Nat → Prop} {c d i : Nat}

theorem Removed.parent_eq (h : Removed t t' gone) (hi : ¬gone i) : t'.parent i = t.parent i := by
  rw [Tree.parent, h.same i hi, Tree.parent]

theorem Entry.removed_cases (x : Entry) :
    x.removed = none ∨ x.removed = some { x with parent := some DELETE_PENDING_ID } := by
  rw [Entry.removed]
  split
  · exact .inr rfl
  · exact .inl rfl

/-- What remains of an entry is what it was. -/
theorem Entry.removed_same {x x' : Entry} (h : x.removed = some x') :
    x'.generation = x.generation ∧ x'.mode = x.mode := by
  rcases x.removed_cases with hnone | hsome
  · rw [hnone] at h
    cases h
  · rw [hsome] at h
    cases h
    exact ⟨rfl, rfl⟩

/-- What remains of what is removed twice. -/
theorem Entry.removed_removed (x : Entry) : x.removed.bind Entry.removed = x.removed := by
  rw [Entry.removed]
  split
  case isTrue hopen =>
    rw [Option.bind_some, Entry.removed]
    exact if_pos hopen
  case isFalse => rfl

theorem Removed.gone_cases (h : Removed t t' gone) (hi : gone i) :
    t' i = none ∨ t'.parent i = some DELETE_PENDING_ID := by
  have hgone := h.gone i hi
  cases hx : t i with
  | none =>
    rw [hx] at hgone
    exact .inl hgone
  | some x =>
    rw [hx, Option.bind_some] at hgone
    rcases x.removed_cases with hnone | hsome
    · exact .inl (hgone.trans hnone)
    · exact .inr (Tree.parent_of_eq (hgone.trans hsome))

/-- Nothing new is under a directory other than delete-pending. -/
theorem Removed.under (h : Removed t t' gone) (hpending : t'.parent DELETE_PENDING_ID = none)
    (hd : d ≠ DELETE_PENDING_ID) (hu : Under t'.parent d i) : Under t.parent d i := by
  -- a step up from what has been removed would lead to delete-pending
  have hstep : ∀ {j k}, t'.parent j = some k → k ≠ DELETE_PENDING_ID → t.parent j = some k := by
    intro j k hjk hk
    by_cases hj : gone j
    · rcases h.gone_cases hj with hnone | hparent
      · rw [Tree.parent, hnone] at hjk
        cases hjk
      · rw [hparent] at hjk
        exact absurd (Option.some_injective _ hjk).symm hk
    · rw [← h.parent_eq hj, hjk]
  induction hu using Relation.TransGen.head_induction_on with
  | single hjd => exact .child (hstep hjd hd)
  | head hjk hkd ih =>
    refine Under.trans (.child (hstep hjk ?_)) ih
    rintro rfl
    exact not_under_of_parent_eq_none hpending hkd

/-- What was under a directory and has not been removed still is, if what was in what is gone is gone
too. -/
theorem Removed.under_of_not_gone (h : Removed t t' gone)
    (hdown : ∀ j k, t.parent j = some k → gone k → gone j) (hu : Under t.parent d i) (hi : ¬gone i) :
    Under t'.parent d i := by
  induction hu using Relation.TransGen.head_induction_on with
  | single hjd => exact .child ((h.parent_eq hi).trans hjd)
  | head hjk _ ih =>
    exact Under.trans (.child ((h.parent_eq hi).trans hjk)) (ih fun hk => hi (hdown _ _ hjk hk))

/-- An entry, with what is in it. -/
theorem under_down {j k : Nat} (hp : t.parent j = some k) (hk : k = c ∨ Under t.parent c k) :
    j = c ∨ Under t.parent c j := by
  rcases hk with rfl | hck
  · exact .inr (.child hp)
  · exact .inr (Under.trans (.child hp) hck)

/-- **Removing an entry of a directory, then what is left in it**, removes what was in it. -/
theorem Removed.trans {t'' : Tree} (h : Removed t t' fun i => i = c ∨ Under t.parent c i)
    (h' : Removed t' t'' (Under t'.parent d)) (hc : Under t.parent d c)
    (hpending : t'.parent DELETE_PENDING_ID = none) (hd : d ≠ DELETE_PENDING_ID) :
    Removed t t'' (Under t.parent d) where
  same i hi := by
    have hic : ¬(i = c ∨ Under t.parent c i) := by
      rintro (rfl | hu)
      · exact hi hc
      · exact hi (hu.trans hc)
    rw [h'.same i fun hu => hi (h.under hpending hd hu), h.same i hic]
  gone i hi := by
    by_cases hu : Under t'.parent d i
    · rw [h'.gone i hu, h.same i fun hic => ?_]
      -- what has been removed with `c` is not in the directory any more
      rcases h.gone_cases hic with hnone | hparent
      · exact not_under_of_parent_eq_none (by rw [Tree.parent, hnone]; rfl) hu
      · rcases hu.of_parent hparent with heq | hu
        · exact hd heq.symm
        · exact not_under_of_parent_eq_none hpending hu
    · rw [h'.same i hu]
      by_cases hic : i = c ∨ Under t.parent c i
      · exact h.gone i hic
      · exact absurd (h.under_of_not_gone (fun _ _ => under_down) hi hic) hu

/-- Nothing is under what is no one's parent. -/
theorem not_under_of_empty (h : ∀ j, t.parent j ≠ some d) : ¬Under t.parent d i := by
  intro hu
  obtain ⟨j, -, hj⟩ := Relation.TransGen.tail'_iff.1 hu
  exact h j hj

theorem removed_refl (h : ∀ i, ¬gone i) : Removed t t gone where
  same _ _ := rfl
  gone i hi := absurd hi (h i)

end

/-! ## One call or turn -/

/-- A turn of the loop over the directory `d`, and those after it. -/
def LoopSpec (fuel : Nat) : Prop :=
  ∀ xfs d, Inv xfs → (xfs.tree d).isSome → d ≠ DELETE_PENDING_ID →
    3 * size xfs.tree.parent xfs.inodeCount d + 1 ≤ fuel →
      Removes xfs (Under xfs.tree.parent d) (removeContentsLoop fuel xfs d)

def ContentsSpec (fuel : Nat) : Prop :=
  ∀ xfs d, Inv xfs → (xfs.tree d).isSome → d ≠ DELETE_PENDING_ID →
    3 * size xfs.tree.parent xfs.inodeCount d + 2 ≤ fuel →
      Removes xfs (Under xfs.tree.parent d) (removeDirectoryContentsAux fuel xfs d)

def EntrySpec (fuel : Nat) : Prop :=
  ∀ xfs e, Inv xfs → (xfs.tree e).isSome → ¬Tree.Fixed e →
    3 * size xfs.tree.parent xfs.inodeCount e + 3 ≤ fuel →
      Removes xfs (fun i => i = e ∨ Under xfs.tree.parent e i) (removeEntryAux fuel xfs e)

namespace Inv

variable {xfs : XfsFs} {c d i : Nat}

theorem pending_parent (h : Inv xfs) : xfs.tree.parent DELETE_PENDING_ID = none :=
  h.sound.parent_fixed (.inr rfl)

theorem isSome_parent (h : Inv xfs) (hp : xfs.tree.parent c = some d) : (xfs.tree d).isSome := by
  obtain ⟨z, hz, -⟩ := h.sound.dir_of_parent hp
  rw [hz]
  rfl

theorem not_fixed (h : Inv xfs) (hp : xfs.tree.parent c = some d) : ¬Tree.Fixed c := by
  intro hf
  rw [h.sound.parent_fixed hf] at hp
  cases hp

theorem lt_count (h : Inv xfs) (hi : (xfs.tree i).isSome) : i < xfs.inodeCount :=
  (h.sound.bound i hi).2

/-- An entry of the table. -/
theorem tableAt_eq (h : Inv xfs) (hi : i < xfs.inodeCount) :
    xfs.tableAt i = .ok (xfs.inodeTable i) := by
  rw [tableAt, if_pos (Nat.lt_of_lt_of_le hi h.tableSize)]

/-- An inode is got by its number. -/
theorem xfsGet_eq (h : Inv xfs) (i : Nat) : xfsGet xfs i = .ok (xfs.inodeTable i) := by
  rw [xfsGet]
  split
  case isTrue hlt => exact h.tableAt_eq hlt
  case isFalse hge =>
    cases hz : xfs.inodeTable i with
    | none => rfl
    | some z => exact absurd (h.lt_count (by rw [tree_of_eq hz]; rfl)) hge

/-- What a directory has in it is on its list. -/
theorem mem_children_of_parent (h : Inv xfs) (hp : xfs.tree.parent c = some d) :
    c ∈ xfs.children d :=
  Tree.mem_children.2 ⟨h.lt_count (Tree.isSome_of_parent hp), hp⟩

/-- Less is in an entry than in its directory. -/
theorem size_lt_parent (h : Inv xfs) (hp : xfs.tree.parent c = some d) :
    size xfs.tree.parent xfs.inodeCount c < size xfs.tree.parent xfs.inodeCount d := by
  have hc := Tree.isSome_of_parent hp
  exact size_lt_of_under (h.sound.rooted c hc) (fun _ => h.sound.parent_fixed) (.child hp)
    (h.lt_count hc)

/-- What is not a directory has nothing in it. -/
theorem empty_of_not_dir (h : Inv xfs) {z : XfsInode} (hz : xfs.inodeTable d = some z)
    (hdir : ¬z.isDir) (hd : d ≠ DELETE_PENDING_ID) (j : Nat) : xfs.tree.parent j ≠ some d := by
  intro hp
  obtain ⟨w, hw, hpending | hwdir⟩ := h.sound.dir_of_parent hp
  · exact hd hpending
  · rw [tree_of_eq hz] at hw
    cases hw
    exact hdir hwdir

end Inv

variable {fuel : Nat}

theorem loopSpec_zero : LoopSpec 0 := by
  intro xfs d _ _ _ hfuel
  omega

theorem contentsSpec_zero : ContentsSpec 0 := by
  intro xfs d _ _ _ hfuel
  omega

theorem entrySpec_zero : EntrySpec 0 := by
  intro xfs d _ _ _ hfuel
  omega

/-- **A turn of the loop** removes the last entry of the directory, and the others follow. -/
theorem loopSpec_succ (hentry : EntrySpec fuel) (hloop : LoopSpec fuel) : LoopSpec (fuel + 1) := by
  intro xfs d hinv hd hpending hfuel
  obtain ⟨y, hy⟩ := Option.isSome_iff_exists.1 hd
  obtain ⟨z, hz, -, -⟩ := exists_inode hinv.numbered hy
  have hend : z.dirEnd = (xfs.children d).getLast? := by
    rw [← (hinv.links d (by rw [hz]; rfl)).ends.2, bwd, link, hz]
    rfl
  rw [removeContentsLoop, deref_of_eq hz, Run.ok_bind, hend]
  cases hlast : (xfs.children d).getLast? with
  | none =>
    have hempty : ∀ j, xfs.tree.parent j ≠ some d := by
      intro j hj
      have hmem := hinv.mem_children_of_parent hj
      rw [List.getLast?_eq_none_iff.1 hlast] at hmem
      cases hmem
    exact ⟨xfs, rfl, hinv, rfl, removed_refl fun _ => not_under_of_empty hempty⟩
  | some c =>
    have hp := (Tree.mem_children.1 (List.mem_of_getLast? hlast)).2
    have hc := Tree.isSome_of_parent hp
    have hunder : Under xfs.tree.parent d c := .child hp
    obtain ⟨yc, hyc⟩ := Option.isSome_iff_exists.1 hc
    obtain ⟨zc, hzc, -, hnum⟩ := exists_inode hinv.numbered hyc
    have hless := hinv.size_lt_parent hp
    obtain ⟨xfs₁, hrun, hinv₁, hcount, hremoved⟩ :=
      hentry xfs c hinv hc (hinv.not_fixed hp) (by omega)
    -- the directory is still there, and has less in it
    have hkept : ¬(d = c ∨ Under xfs.tree.parent c d) := by
      rintro (rfl | hcd)
      · exact hinv.sound.not_under_self hc hunder
      · exact hinv.sound.not_under_self hc (hunder.trans hcd)
    have hd₁ : (xfs₁.tree d).isSome := by
      rw [hremoved.same d hkept]
      exact hd
    have hout : ¬Under xfs₁.tree.parent d c := by
      intro hu
      rcases hremoved.gone_cases (.inl rfl) with hnone | hparent
      · exact not_under_of_parent_eq_none (by rw [Tree.parent, hnone]; rfl) hu
      · rcases hu.of_parent hparent with heq | hu
        · exact hpending heq.symm
        · exact not_under_of_parent_eq_none hinv₁.pending_parent hu
    have hless₁ := size_lt (fun j hj => hremoved.under hinv₁.pending_parent hpending hj)
      (hinv.lt_count hc) hunder hout
    obtain ⟨xfs₂, hrun₂, hinv₂, hcount₂, hremoved₂⟩ :=
      hloop xfs₁ d hinv₁ hd₁ hpending (by rw [hcount]; omega)
    refine ⟨xfs₂, ?_, hinv₂, hcount₂.trans hcount,
      hremoved.trans hremoved₂ hunder hinv₁.pending_parent hpending⟩
    dsimp only
    rw [deref_of_eq hzc, Run.ok_bind, hnum, hrun, Run.ok_bind, hrun₂]

theorem contentsSpec_succ (hloop : LoopSpec fuel) : ContentsSpec (fuel + 1) := by
  intro xfs d hinv hd hpending hfuel
  obtain ⟨y, hy⟩ := Option.isSome_iff_exists.1 hd
  obtain ⟨z, hz, -, -⟩ := exists_inode hinv.numbered hy
  have hlt := hinv.lt_count hd
  rw [removeDirectoryContentsAux, if_pos hlt, hinv.tableAt_eq hlt, Run.ok_bind, hz]
  dsimp only
  split
  case isTrue hdir => exact hloop xfs d hinv hd hpending (by omega)
  case isFalse hdir =>
    exact ⟨xfs, rfl, hinv, rfl, removed_refl fun _ =>
      not_under_of_empty (hinv.empty_of_not_dir hz hdir hpending)⟩

/-- There is room on the free list for the number of an inode that is there. -/
theorem Inv.free_room {xfs : XfsFs} (h : Inv xfs) {e : Nat} (he : (xfs.tree e).isSome) :
    xfs.freeList.length < xfs.freeSize := by
  have hnot : e ∉ xfs.freeList := by
    intro hmem
    rw [isSome_tree, ((h.free e).1 hmem).2.2] at he
    cases he
  have hsub : e :: xfs.freeList ⊆ List.range xfs.inodeCount := by
    intro i hi
    rw [List.mem_range]
    rcases List.mem_cons.1 hi with rfl | hi
    · exact h.lt_count he
    · exact ((h.free i).1 hi).2.1
  have hlen := (List.subperm_of_subset (List.nodup_cons.2 ⟨hnot, h.freeNodup⟩) hsub).length_le
  rw [List.length_cons, List.length_range] at hlen
  rw [h.freeSize]
  omega

/-- The inodes that are there, as long as every entry is kept. -/
theorem isSome_update {xfs xfs' : XfsFs} {e : Nat} {y y' : Entry} (hy : xfs.tree e = some y)
    (htree : xfs'.tree = update xfs.tree e (some y')) (i : Nat) :
    xfs'.inodeTable i = none ↔ xfs.inodeTable i = none := by
  rw [← Option.isNone_iff_eq_none, ← Option.isNone_iff_eq_none, ← Option.not_isSome,
    ← Option.not_isSome, ← isSome_tree, ← isSome_tree, htree]
  by_cases hi : i = e
  · rw [hi, update_self, hy]
    exact Iff.rfl
  · rw [update_of_ne hi]

/-- What remains to be done for an entry with nothing in it. -/
def removeEmptied (xfs : XfsFs) (inum : Nat) : Run XfsFs := do
  let xfs ← unlinkInodeFromParent xfs inum
  let xino ← xfs.deref inum
  if xino.isReg ∧ xino.openCount > 0 then
    match ← xfs.tableAt DELETE_PENDING_ID with
    | none => .error .outOfBounds
    | some _ => linkInodeIntoDirectoryNode xfs DELETE_PENDING_ID inum
  else if xfs.freeList.length < xfs.freeSize then
    pure { xfs with
      freeList := inum :: xfs.freeList
      inodeTable := Function.update xfs.inodeTable inum none
      generation := xfs.generation + 1 }
  else .error .outOfBounds

/-- **An entry with nothing in it is removed**: freed, or moved to delete-pending. -/
theorem removeEmptied_spec {xfs : XfsFs} (hinv : Inv xfs) {e : Nat} (he : (xfs.tree e).isSome)
    (hfixed : ¬Tree.Fixed e) (hempty : ∀ i, xfs.tree.parent i ≠ some e) :
    ∃ xfs', removeEmptied xfs e = .ok xfs' ∧ Inv xfs' ∧ xfs'.inodeCount = xfs.inodeCount ∧
      Removed xfs.tree xfs'.tree (· = e) ∧ (xfs'.tree e = none →
        xfs'.freeList = e :: xfs.freeList ∧ xfs'.generation = xfs.generation + 1) := by
  obtain ⟨y, hy⟩ := Option.isSome_iff_exists.1 he
  have hlt := hinv.lt_count he
  obtain ⟨d, w, hd, hw, -⟩ := hinv.sound.inDir e y hy hfixed
  obtain ⟨xfs₁, hrun, hcounts, htree, hlinks, hnum⟩ :=
    unlinkInodeFromParent_spec hinv.links hinv.numbered hy hlt hd (by rw [hw]; rfl)
  have hself : xfs₁.tree e = some { y with parent := none } := by rw [htree, update_self]
  have hparent : xfs₁.tree.parent e = none := Tree.parent_of_eq hself
  obtain ⟨z, hz, hentry, -⟩ := exists_inode hnum hself
  have hopen : (z.isReg ∧ z.openCount > 0) ↔ y.isReg ∧ y.openCount > 0 := by
    have hreg : z.isReg = (z.entry).isReg := rfl
    have hcount : z.openCount = (z.entry).openCount := rfl
    rw [hreg, hcount, hentry]
    exact Iff.rfl
  rw [removeEmptied, hrun, Run.ok_bind, deref_of_eq hz, Run.ok_bind]
  split
  case isTrue hreg =>
    obtain ⟨v, hv, -⟩ := hinv.sound.fixed DELETE_PENDING_ID (.inr rfl)
    have hpending : xfs₁.tree DELETE_PENDING_ID = some v := by
      rw [htree, update_of_ne fun heq => hfixed (.inr heq.symm), hv]
    obtain ⟨u, hu, -, -⟩ := exists_inode hnum hpending
    obtain ⟨xfs₂, hrun₂, hcounts₂, htree₂, hlinks₂, hnum₂⟩ :=
      linkInodeIntoDirectoryNode_spec (d := DELETE_PENDING_ID) hlinks hnum hself
        (by rw [hcounts.inodeCount]; exact hlt) rfl (by rw [hpending]; rfl)
    have hc := hcounts.trans hcounts₂
    have htree' : xfs₂.tree = update xfs.tree e (some { y with parent := some DELETE_PENDING_ID }) := by
      rw [htree₂, htree, update_idem]
    have hremoved : y.removed = some { y with parent := some DELETE_PENDING_ID } := by
      rw [Entry.removed, if_pos (hopen.1 hreg)]
    refine ⟨xfs₂, ?_, ⟨?_, ?_, ?_, ?_, hnum₂, hlinks₂, ?_, ?_, ?_⟩, hc.inodeCount, ⟨?_, ?_⟩, ?_⟩
    · rw [tableAt, if_pos (by
        rw [hcounts.tableSize]
        exact Nat.lt_of_lt_of_le hinv.count.1 hinv.tableSize), Run.ok_bind, hu]
      exact hrun₂
    · rw [hc.tableSize, hc.inodeCount]
      exact hinv.tableSize
    · rw [hc.freeSize, hc.inodeCount, hinv.freeSize]
    · rw [hc.inodeCount]
      exact hinv.count
    · rw [hc.inodeCount]
      exact hinv.grown
    · rw [htree', hc.inodeCount]
      exact hinv.sound.divert hy hfixed
    · rw [hc.freeList]
      exact hinv.freeNodup
    · intro i
      rw [hc.freeList, hc.inodeCount, hinv.free, isSome_update hy htree']
    · intro i hi
      rw [htree', update_of_ne hi]
    · intro i hi
      rw [hi, hy, Option.bind_some, hremoved, htree', update_self]
    · intro hnone
      rw [htree', update_self] at hnone
      cases hnone
  case isFalse hreg =>
    have hroom : xfs₁.freeList.length < xfs₁.freeSize := by
      rw [hcounts.freeList, hcounts.freeSize]
      exact hinv.free_room he
    rw [if_pos hroom]
    obtain ⟨xfs₂, hxfs₂⟩ : ∃ xfs₂, xfs₂ = { xfs₁ with
      freeList := e :: xfs₁.freeList
      inodeTable := update xfs₁.inodeTable e none
      generation := xfs₁.generation + 1 } := ⟨_, rfl⟩
    rw [← hxfs₂]
    have htable : xfs₂.inodeTable = update xfs₁.inodeTable e none := by rw [hxfs₂]
    have htree₂ : xfs₂.tree = update xfs.tree e none := by
      have hcomp : xfs₂.tree = update xfs₁.tree e none := by
        funext i
        rw [tree, htable]
        by_cases hi : i = e
        · rw [hi, update_self, update_self]
          rfl
        · rw [update_of_ne hi, update_of_ne hi]
          rfl
      rw [hcomp, htree, update_idem]
    have hcount : xfs₂.inodeCount = xfs.inodeCount := by
      rw [hxfs₂]
      exact hcounts.inodeCount
    have hnone : ∀ i, xfs₂.inodeTable i = none ↔ i = e ∨ xfs.inodeTable i = none := by
      intro i
      by_cases hi : i = e
      · rw [htable, hi, update_self]
        exact iff_of_true rfl (.inl rfl)
      · rw [htable, update_of_ne hi, isSome_update hy htree]
        exact ⟨.inr, fun h => h.resolve_left hi⟩
    have hremoved : y.removed = none := by
      rw [Entry.removed, if_neg fun h => hreg (hopen.2 h)]
    refine ⟨xfs₂, rfl, ⟨?_, ?_, ?_, ?_, ?_, ?_, ?_, ?_, ?_⟩, hcount, ⟨?_, ?_⟩, ?_⟩
    · rw [hcount, hxfs₂]
      exact le_of_le_of_eq hinv.tableSize hcounts.tableSize.symm
    · rw [hcount, hxfs₂]
      exact hcounts.freeSize.trans hinv.freeSize
    · rw [hcount]
      exact hinv.count
    · rw [hcount]
      exact hinv.grown
    · intro i v hv
      have hie : i ≠ e := fun hie => by
        rw [htable, hie, update_self] at hv
        cases hv
      rw [htable, update_of_ne hie] at hv
      exact hnum i v hv
    · exact links_free hlinks hparent htable (by rw [hxfs₂])
    · rw [htree₂, hcount]
      exact hinv.sound.free hfixed hempty
    · rw [hxfs₂]
      dsimp only
      rw [hcounts.freeList, List.nodup_cons]
      refine ⟨fun hmem => ?_, hinv.freeNodup⟩
      rw [isSome_tree, ((hinv.free e).1 hmem).2.2] at he
      cases he
    · intro i
      have hgt : DELETE_PENDING_ID < e := by
        have hpos := (hinv.sound.bound e he).1
        have h1 : e ≠ FUSE_ROOT_ID := fun h => hfixed (.inl h)
        have h2 : e ≠ DELETE_PENDING_ID := fun h => hfixed (.inr h)
        rw [FUSE_ROOT_ID] at h1
        rw [DELETE_PENDING_ID] at h2 ⊢
        omega
      rw [hnone, hcount, hxfs₂]
      dsimp only
      rw [hcounts.freeList, List.mem_cons, hinv.free]
      constructor
      · rintro (rfl | ⟨h1, h2, h3⟩)
        · exact ⟨hgt, hlt, .inl rfl⟩
        · exact ⟨h1, h2, .inr h3⟩
      · rintro ⟨h1, h2, rfl | h3⟩
        · exact .inl rfl
        · exact .inr ⟨h1, h2, h3⟩
    · intro i hi
      rw [htree₂, update_of_ne hi]
    · intro i hi
      rw [hi, hy, Option.bind_some, hremoved, htree₂, update_self]
    · intro _
      rw [hxfs₂]
      exact ⟨congrArg (List.cons e) hcounts.freeList,
        congrArg (fun g : UInt32 => g + 1) hcounts.generation⟩

/-- **A call for an entry**: what is in it is removed, then the entry. -/
theorem entrySpec_succ (hcontents : ContentsSpec fuel) : EntrySpec (fuel + 1) := by
  intro xfs e hinv he hfixed hfuel
  obtain ⟨y, hy⟩ := Option.isSome_iff_exists.1 he
  obtain ⟨z, hz, -, -⟩ := exists_inode hinv.numbered hy
  have hlt := hinv.lt_count he
  have hpending : e ≠ DELETE_PENDING_ID := fun h => hfixed (.inr h)
  -- what is in the entry
  obtain ⟨xfs₁, hrun, hinv₁, hcount, hremoved⟩ : Removes xfs (Under xfs.tree.parent e)
      (if z.isDir then removeDirectoryContentsAux fuel xfs e else pure xfs) := by
    split
    case isTrue => exact hcontents xfs e hinv he hpending (by omega)
    case isFalse hdir =>
      exact ⟨xfs, rfl, hinv, rfl, removed_refl fun _ =>
        not_under_of_empty (hinv.empty_of_not_dir hz hdir hpending)⟩
  have he₁ : (xfs₁.tree e).isSome := by
    rw [hremoved.same e (hinv.sound.not_under_self he)]
    exact he
  have hempty : ∀ i, xfs₁.tree.parent i ≠ some e := by
    intro i hi
    rcases hremoved.gone_cases (hremoved.under hinv₁.pending_parent hpending (.child hi)) with
      hnone | hparent
    · rw [Tree.parent, hnone] at hi
      cases hi
    · rw [hparent] at hi
      exact hpending (Option.some_injective _ hi).symm
  -- the entry itself
  obtain ⟨xfs₂, hrun₂, hinv₂, hcount₂, hremoved₂, -⟩ := removeEmptied_spec hinv₁ he₁ hfixed hempty
  refine ⟨xfs₂, ?_, hinv₂, hcount₂.trans hcount, ?_, ?_⟩
  · rw [removeEntryAux, if_pos hlt, hinv.tableAt_eq hlt, Run.ok_bind, hz]
    dsimp only
    by_cases hdir : z.isDir
    · rw [if_pos hdir] at hrun ⊢
      rw [hrun, Run.ok_bind]
      exact hrun₂
    · rw [if_neg hdir] at hrun ⊢
      rw [hrun, Run.ok_bind]
      exact hrun₂
  · intro i hi
    rw [hremoved₂.same i fun h => hi (.inl h), hremoved.same i fun h => hi (.inr h)]
  · intro i hi
    by_cases hie : i = e
    · rw [hremoved₂.gone i hie, hie, hremoved.same e (hinv.sound.not_under_self he)]
    · rw [hremoved₂.same i hie, hremoved.gone i (hi.resolve_left hie)]

/-- **The recursion does what it should**, for any depth that is enough. -/
theorem remove_specs (fuel : Nat) : LoopSpec fuel ∧ ContentsSpec fuel ∧ EntrySpec fuel := by
  induction fuel with
  | zero => exact ⟨loopSpec_zero, contentsSpec_zero, entrySpec_zero⟩
  | succ fuel ih =>
    obtain ⟨hloop, hcontents, hentry⟩ := ih
    exact ⟨loopSpec_succ hentry hloop, contentsSpec_succ hloop, entrySpec_succ hcontents⟩

/-! ## The calls -/

/-- Nothing is new: an entry that is there was there before, with its mode and generation. -/
def Persists (t t' : Tree) : Prop :=
  ∀ i y', t' i = some y' → ∃ y, t i = some y ∧ y'.generation = y.generation ∧ y'.mode = y.mode

theorem Persists.refl (t : Tree) : Persists t t := fun _ y hy => ⟨y, hy, rfl, rfl⟩

theorem Removed.persists {t t' : Tree} {gone : Nat → Prop} (h : Removed t t' gone) :
    Persists t t' := by
  intro i y' hy'
  by_cases hi : gone i
  · rw [h.gone i hi] at hy'
    obtain ⟨y, hy, hremoved⟩ := Option.bind_eq_some_iff.1 hy'
    exact ⟨y, hy, Entry.removed_same hremoved⟩
  · rw [h.same i hi] at hy'
    exact ⟨y', hy', rfl, rfl⟩

/-- A run that keeps the invariant and adds nothing. -/
def Keeps (xfs : XfsFs) (run : Run XfsFs) : Prop :=
  ∃ xfs', run = .ok xfs' ∧ Inv xfs' ∧ xfs'.inodeCount = xfs.inodeCount ∧ Persists xfs.tree xfs'.tree

variable {xfs : XfsFs}

theorem Removes.keeps {gone : Nat → Prop} {run : Run XfsFs} (h : Removes xfs gone run) :
    Keeps xfs run := by
  obtain ⟨xfs', hrun, hinv, hcount, hremoved⟩ := h
  exact ⟨xfs', hrun, hinv, hcount, hremoved.persists⟩

theorem Inv.keeps (h : Inv xfs) : Keeps xfs (.ok xfs) := ⟨xfs, rfl, h, rfl, .refl _⟩

/-- `xfs_remove_entry`, for an entry that is there. -/
theorem xfsRemoveEntry_spec (hinv : Inv xfs) {inum : Nat} (hi : (xfs.tree inum).isSome)
    (hfixed : ¬Tree.Fixed inum) :
    Removes xfs (fun i => i = inum ∨ Under xfs.tree.parent inum i) (xfsRemoveEntry xfs inum) := by
  have hsize := size_le xfs.tree.parent xfs.inodeCount inum
  exact (remove_specs _).2.2 xfs inum hinv hi hfixed (by rw [removeFuel]; omega)

/-- An entry with nothing in it is removed. -/
theorem xfsRemoveEntry_empty (hinv : Inv xfs) {inum : Nat} (hi : (xfs.tree inum).isSome)
    (hempty : ∀ i, xfs.tree.parent i ≠ some inum) :
    xfsRemoveEntry xfs inum = removeEmptied xfs inum := by
  obtain ⟨y, hy⟩ := Option.isSome_iff_exists.1 hi
  obtain ⟨z, hz, -, -⟩ := exists_inode hinv.numbered hy
  have hlt := hinv.lt_count hi
  obtain ⟨fuel, hfuel⟩ : ∃ k, removeFuel xfs = k + 3 := ⟨3 * xfs.inodeCount, rfl⟩
  have hend : z.dirEnd = none := by
    have hnone : xfs.children inum = [] := by
      apply List.filter_eq_nil_iff.2
      intro i _
      simpa using hempty i
    rw [← List.getLast?_nil (α := Nat), ← hnone,
      ← (hinv.links inum (by rw [hz]; rfl)).ends.2, bwd, link, hz]
    rfl
  have hcontents : removeDirectoryContentsAux (fuel + 2) xfs inum = .ok xfs := by
    rw [removeDirectoryContentsAux, if_pos hlt, hinv.tableAt_eq hlt, Run.ok_bind, hz]
    dsimp only
    rw [removeContentsLoop, deref_of_eq hz, Run.ok_bind, hend]
    exact ite_self _
  rw [xfsRemoveEntry, hfuel, removeEntryAux, if_pos hlt, hinv.tableAt_eq hlt, Run.ok_bind, hz]
  dsimp only
  rw [hcontents]
  split
  · rfl
  · rfl

/-- What is not there has nothing in it, and need not be removed. -/
theorem Inv.removed_none (h : Inv xfs) {inum : Nat} (hnone : xfs.inodeTable inum = none)
    {gone : Nat → Prop} (hgone : ∀ i, gone i → i = inum ∨ Under xfs.tree.parent inum i) :
    Removes xfs gone (.ok xfs) := by
  have hnone' : xfs.tree inum = none := by
    rw [tree, hnone]
    rfl
  refine ⟨xfs, rfl, h, rfl, fun _ _ => rfl, fun i hi => ?_⟩
  rcases hgone i hi with rfl | hu
  · rw [hnone']
    rfl
  · refine absurd hu (not_under_of_empty fun j hj => ?_)
    have hsome := h.isSome_parent hj
    rw [hnone'] at hsome
    cases hsome

/-- **`xfs_remove_entry` removes an entry and what is in it**, if it is there. -/
theorem xfsRemoveEntry_removes (hinv : Inv xfs) {inum : Nat} (hfixed : ¬Tree.Fixed inum) :
    Removes xfs (fun i => i = inum ∨ Under xfs.tree.parent inum i) (xfsRemoveEntry xfs inum) := by
  cases hi : xfs.inodeTable inum with
  | some z => exact xfsRemoveEntry_spec hinv (by rw [tree_of_eq hi]; rfl) hfixed
  | none =>
    have hnothing := hinv.removed_none hi fun _ h => h
    rw [xfsRemoveEntry, removeFuel, removeEntryAux]
    split
    case isTrue hlt =>
      rw [hinv.tableAt_eq hlt, Run.ok_bind, hi]
      exact hnothing
    case isFalse => exact hnothing

/-- **`xfs_remove_directory_contents` removes what is in a directory**, if it is there. -/
theorem xfsRemoveDirectoryContents_removes (hinv : Inv xfs) {inum : Nat}
    (hpending : inum ≠ DELETE_PENDING_ID) :
    Removes xfs (Under xfs.tree.parent inum) (xfsRemoveDirectoryContents xfs inum) := by
  cases hi : xfs.inodeTable inum with
  | some z =>
    have hsize := size_le xfs.tree.parent xfs.inodeCount inum
    exact (remove_specs _).2.1 xfs inum hinv (by rw [tree_of_eq hi]; rfl) hpending
      (by rw [removeFuel]; omega)
  | none =>
    have hnothing : Removes xfs (Under xfs.tree.parent inum) (.ok xfs) :=
      hinv.removed_none hi fun _ => .inr
    rw [xfsRemoveDirectoryContents, removeFuel, removeDirectoryContentsAux]
    split
    case isTrue hlt =>
      rw [hinv.tableAt_eq hlt, Run.ok_bind, hi]
      exact hnothing
    case isFalse => exact hnothing

end Xrdp.Chansrv
