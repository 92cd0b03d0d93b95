import Xrdp.Chansrv.XfsTree
import Xrdp.Lib.Rings

/-!
# The lists of directories

* `Links` — the lists are those of the tree.
* `unlinkInodeFromParent_spec`, `linkInodeIntoDirectoryNode_spec` — an inode is taken off its list and
  put on one, in its place.
* `lookupLoop_spec` — a name is looked up.
-/

namespace Xrdp.Chansrv

open Rings Function

namespace XfsFs

/-- The links of the list of `d` in one direction; that of the head is in the directory. -/
def link (ofHead ofElement : XfsInode → Option Nat) (xfs : XfsFs) (d : Nat) :
    Option Nat → Option Nat
  | none => (xfs.inodeTable d).bind ofHead
  | some p => (xfs.inodeTable p).bind ofElement

def fwd : XfsFs → Nat → Option Nat → Option Nat := link (·.dirBegin) (·.next)

def bwd : XfsFs → Nat → Option Nat → Option Nat := link (·.dirEnd) (·.previous)

def children (xfs : XfsFs) (d : Nat) : List Nat := xfs.tree.children xfs.inodeCount d

/-- Every list is that of the directory's entries, in ascending order. -/
def Links (xfs : XfsFs) : Prop :=
  ∀ d, (xfs.inodeTable d).isSome → Ring (xfs.fwd d) (xfs.bwd d) (xfs.children d)

/-- Every inode has its number. -/
def Numbered (xfs : XfsFs) : Prop := ∀ i x, xfs.inodeTable i = some x → x.inum = i

/-- Everything but the inodes stays. -/
structure SameCounts (xfs xfs' : XfsFs) : Prop where
  tableSize : xfs'.tableSize = xfs.tableSize
  freeList : xfs'.freeList = xfs.freeList
  freeSize : xfs'.freeSize = xfs.freeSize
  inodeCount : xfs'.inodeCount = xfs.inodeCount
  generation : xfs'.generation = xfs.generation

theorem SameCounts.trans {xfs xfs' xfs'' : XfsFs} (h : SameCounts xfs xfs')
    (h' : SameCounts xfs' xfs'') : SameCounts xfs xfs'' where
  tableSize := h'.tableSize.trans h.tableSize
  freeList := h'.freeList.trans h.freeList
  freeSize := h'.freeSize.trans h.freeSize
  inodeCount := h'.inodeCount.trans h.inodeCount
  generation := h'.generation.trans h.generation

variable {xfs xfs' : XfsFs} {d p x : Nat} {f : XfsInode → XfsInode}

theorem isSome_tree (i : Nat) : (xfs.tree i).isSome = (xfs.inodeTable i).isSome := by
  rw [tree, Option.isSome_map]

theorem tree_of_eq {i : Nat} {z : XfsInode} (h : xfs.inodeTable i = some z) :
    xfs.tree i = some z.entry := by
  rw [tree, h, Option.map_some]

theorem deref_of_eq {z : XfsInode} (h : xfs.inodeTable p = some z) : xfs.deref p = .ok z := by
  rw [deref, h]

theorem modify_of_eq {z : XfsInode} (h : xfs.inodeTable p = some z) :
    xfs.modify p f = .ok { xfs with inodeTable := update xfs.inodeTable p (some (f z)) } := by
  rw [modify, h]

/-- An inode is there with its entry and its number. -/
theorem exists_inode (hnum : Numbered xfs) {y : Entry} (h : xfs.tree x = some y) :
    ∃ z, xfs.inodeTable x = some z ∧ z.entry = y ∧ z.inum = x := by
  rw [tree, Option.map_eq_some_iff] at h
  obtain ⟨z, hz, hy⟩ := h
  exact ⟨z, hz, hy, hnum x z hz⟩

/-- A field that is not written. -/
theorem bind_update_same {t : Nat → Option XfsInode} {z w : XfsInode} {g : XfsInode → Option Nat}
    (hz : t p = some z) (h : g w = g z) (i : Nat) :
    (update t p (some w) i).bind g = (t i).bind g := by
  by_cases hi : i = p
  · subst hi
    rw [update_self, hz, Option.bind_some, Option.bind_some, h]
  · rw [update_of_ne hi]

/-- An inode is written, with the old ends of its list. -/
theorem link_modify {ofHead ofElement : XfsInode → Option Nat} {z w : XfsInode}
    (hz : xfs.inodeTable x = some z) (h : ofHead w = ofHead z) (e : Nat) (q : Option Nat) :
    link ofHead ofElement { xfs with inodeTable := update xfs.inodeTable x (some w) } e q =
      if q = some x then ofElement w else link ofHead ofElement xfs e q := by
  split
  case isTrue hq =>
    subst hq
    simp only [link, update_self, Option.bind_some]
  case isFalse hq =>
    cases q with
    | none => exact bind_update_same hz h e
    | some q => simp only [link, update_of_ne fun heq => hq (congrArg some heq)]

/-- An inode is written in what is not the link. -/
theorem link_modify_same {ofHead ofElement : XfsInode → Option Nat} {z w : XfsInode}
    (hz : xfs.inodeTable x = some z) (hhead : ofHead w = ofHead z)
    (helement : ofElement w = ofElement z) (e : Nat) (q : Option Nat) :
    link ofHead ofElement { xfs with inodeTable := update xfs.inodeTable x (some w) } e q =
      link ofHead ofElement xfs e q := by
  cases q with
  | none => exact bind_update_same hz hhead e
  | some q => exact bind_update_same hz helement q

/-- The entry of an inode is written. -/
theorem tree_modify {w : XfsInode} :
    tree { xfs with inodeTable := update xfs.inodeTable x (some w) } =
      update xfs.tree x (some w.entry) := by
  funext i
  by_cases hi : i = x
  · subst hi
    simp only [tree, update_self, Option.map_some]
  · simp only [tree, update_of_ne hi]

theorem numbered_modify (hnum : Numbered xfs) {w : XfsInode} (hw : w.inum = x) :
    Numbered { xfs with inodeTable := update xfs.inodeTable x (some w) } := by
  intro i v hv
  dsimp only at hv
  by_cases hi : i = x
  · subst hi
    rw [update_self] at hv
    cases hv
    exact hw
  · rw [update_of_ne hi] at hv
    exact hnum i v hv

/-! ## Writing a link -/

/-- Only links of lists have been written. -/
structure Relinked (xfs xfs' : XfsFs) : Prop where
  counts : SameCounts xfs xfs'
  tree : xfs'.tree = xfs.tree
  numbered : Numbered xfs → Numbered xfs'

theorem Relinked.trans {xfs'' : XfsFs} (h : Relinked xfs xfs') (h' : Relinked xfs' xfs'') :
    Relinked xfs xfs'' where
  counts := h.counts.trans h'.counts
  tree := h'.tree.trans h.tree
  numbered hn := h'.numbered (h.numbered hn)

theorem Relinked.isSome (h : Relinked xfs xfs') (i : Nat) :
    (xfs'.inodeTable i).isSome = (xfs.inodeTable i).isSome := by
  rw [← isSome_tree, ← isSome_tree, h.tree]

/-- A write that leaves entry and number of an inode alone. -/
theorem relinked_modify {z : XfsInode} (hz : xfs.inodeTable p = some z)
    (hentry : (f z).entry = z.entry) (hinum : (f z).inum = z.inum) :
    Relinked xfs { xfs with inodeTable := update xfs.inodeTable p (some (f z)) } where
  counts := ⟨rfl, rfl, rfl, rfl, rfl⟩
  tree := by rw [tree_modify, hentry, ← tree_of_eq hz, update_eq_self]
  numbered hn := numbered_modify hn (hinum.trans (hn p z hz))

/-- The link at `p` of the list of `d` is written. -/
def put (putHead putElement : Option Nat → XfsInode → XfsInode) (xfs : XfsFs) (d : Nat)
    (p v : Option Nat) : Run XfsFs :=
  match p with
  | none => xfs.modify d (putHead v)
  | some p => xfs.modify p (putElement v)

/-- `list->begin = v`, or `p->next = v` behind an element. -/
def putForward : XfsFs → Nat → Option Nat → Option Nat → Run XfsFs :=
  put (fun v x => { x with dirBegin := v }) fun v x => { x with next := v }

/-- `list->end = v`, or `p->previous = v` in front of an element. -/
def putBack : XfsFs → Nat → Option Nat → Option Nat → Run XfsFs :=
  put (fun v x => { x with dirEnd := v }) fun v x => { x with previous := v }

/-- Which fields `putHead` and `putElement` write and which they leave alone. -/
structure Writes (ofHead ofElement ofHead' ofElement' : XfsInode → Option Nat)
    (putHead putElement : Option Nat → XfsInode → XfsInode) : Prop where
  head : ∀ v x, ofHead (putHead v x) = v ∧ ofElement (putHead v x) = ofElement x ∧
    ofHead' (putHead v x) = ofHead' x ∧ ofElement' (putHead v x) = ofElement' x ∧
    (putHead v x).entry = x.entry ∧ (putHead v x).inum = x.inum
  element : ∀ v x, ofElement (putElement v x) = v ∧ ofHead (putElement v x) = ofHead x ∧
    ofHead' (putElement v x) = ofHead' x ∧ ofElement' (putElement v x) = ofElement' x ∧
    (putElement v x).entry = x.entry ∧ (putElement v x).inum = x.inum

/-- **Writing a link** changes that link. -/
theorem put_spec {ofHead ofElement ofHead' ofElement' : XfsInode → Option Nat}
    {putHead putElement : Option Nat → XfsInode → XfsInode}
    (hw : Writes ofHead ofElement ofHead' ofElement' putHead putElement) {p : Option Nat}
    (h : (xfs.inodeTable (p.getD d)).isSome) (v : Option Nat) :
    ∃ xfs', put putHead putElement xfs d p v = .ok xfs' ∧ Relinked xfs xfs' ∧
      (∀ e q, link ofHead ofElement xfs' e q =
        if q = p ∧ (p = none → e = d) then v else link ofHead ofElement xfs e q) ∧
      ∀ e q, link ofHead' ofElement' xfs' e q = link ofHead' ofElement' xfs e q := by
  obtain ⟨z, hz⟩ := Option.isSome_iff_exists.1 h
  cases p with
  | none =>
    have hz : xfs.inodeTable d = some z := hz
    obtain ⟨hwrite, hs₁, hs₂, hs₃, hentry, hinum⟩ := hw.head v z
    refine ⟨_, modify_of_eq hz, relinked_modify hz hentry hinum, fun e q => ?_, fun e q => ?_⟩
    · cases q with
      | none =>
        by_cases he : e = d
        · subst he
          simp only [link, update_self, Option.bind_some, forall_const, and_self, if_true, hwrite]
        · simp only [link, update_of_ne he, he, forall_const, and_false, if_false]
      | some q =>
        rw [if_neg fun h => Option.some_ne_none q h.1]
        exact bind_update_same hz hs₁ q
    · exact link_modify_same hz hs₂ hs₃ e q
  | some p =>
    have hz : xfs.inodeTable p = some z := hz
    obtain ⟨hwrite, hs₁, hs₂, hs₃, hentry, hinum⟩ := hw.element v z
    refine ⟨_, modify_of_eq hz, relinked_modify hz hentry hinum, fun e q => ?_, fun e q => ?_⟩
    · cases q with
      | none =>
        rw [if_neg fun h => Option.some_ne_none p h.1.symm]
        exact bind_update_same hz hs₁ e
      | some q =>
        by_cases hq : q = p
        · subst hq
          simp only [link, update_self, Option.bind_some, reduceCtorEq, false_imp_iff, and_self,
            if_true, hwrite]
        · rw [if_neg fun h => hq (Option.some_injective _ h.1)]
          simp only [link, update_of_ne hq]
    · exact link_modify_same hz hs₂ hs₃ e q

theorem writes_forward : Writes (·.dirBegin) (·.next) (·.dirEnd) (·.previous)
    (fun v x => { x with dirBegin := v }) fun v x => { x with next := v } where
  head _ _ := ⟨rfl, rfl, rfl, rfl, rfl, rfl⟩
  element _ _ := ⟨rfl, rfl, rfl, rfl, rfl, rfl⟩

theorem writes_back : Writes (·.dirEnd) (·.previous) (·.dirBegin) (·.next)
    (fun v x => { x with dirEnd := v }) fun v x => { x with previous := v } where
  head _ _ := ⟨rfl, rfl, rfl, rfl, rfl, rfl⟩
  element _ _ := ⟨rfl, rfl, rfl, rfl, rfl, rfl⟩

theorem putForward_spec {p : Option Nat} (h : (xfs.inodeTable (p.getD d)).isSome) (v : Option Nat) :
    ∃ xfs', putForward xfs d p v = .ok xfs' ∧ Relinked xfs xfs' ∧
      (∀ e q, xfs'.fwd e q = if q = p ∧ (p = none → e = d) then v else xfs.fwd e q) ∧
      ∀ e q, xfs'.bwd e q = xfs.bwd e q :=
  put_spec writes_forward h v

theorem putBack_spec {p : Option Nat} (h : (xfs.inodeTable (p.getD d)).isSome) (v : Option Nat) :
    ∃ xfs', putBack xfs d p v = .ok xfs' ∧ Relinked xfs xfs' ∧
      (∀ e q, xfs'.bwd e q = if q = p ∧ (p = none → e = d) then v else xfs.bwd e q) ∧
      ∀ e q, xfs'.fwd e q = xfs.fwd e q :=
  put_spec writes_back h v

/-! ## Taking an inode off its list -/

/-- `remove_inode_from_list` writes two links. -/
theorem removeInodeFromList_eq {z : XfsInode} (hz : xfs.inodeTable x = some z) :
    removeInodeFromList xfs d x =
      (putForward xfs d z.previous z.next >>= fun xfs => putBack xfs d z.next z.previous) := by
  rw [removeInodeFromList, deref_of_eq hz, Run.ok_bind]
  cases z.previous <;> cases z.next <;> rfl

theorem isSome_of_mem_children {i : Nat} (h : i ∈ xfs.children d) : (xfs.inodeTable i).isSome := by
  rw [← isSome_tree]
  exact Tree.isSome_of_parent (Tree.mem_children.1 h).2

/-- An entry is in one list only. -/
theorem not_mem_children {e i : Nat} (h : i ∈ xfs.children d) (he : e ≠ d) : i ∉ xfs.children e := by
  intro h'
  have hd := (Tree.mem_children.1 h).2
  rw [(Tree.mem_children.1 h').2] at hd
  exact he (Option.some_injective _ hd)

/-- The holder of a link of a list. -/
theorem isSome_holder {p : Option Nat} (hd : (xfs.inodeTable d).isSome)
    (hp : ∀ a, p = some a → a ∈ xfs.children d) : (xfs.inodeTable (p.getD d)).isSome := by
  cases p with
  | none => exact hd
  | some a => exact isSome_of_mem_children (hp a rfl)

/-- **An inode is taken off its list**, and is in no directory then. -/
theorem unlinkInodeFromParent_spec (hlinks : Links xfs) (hnum : Numbered xfs) {y : Entry}
    (hx : xfs.tree x = some y) (hxn : x < xfs.inodeCount) (hp : y.parent = some d)
    (hd : (xfs.tree d).isSome) :
    ∃ xfs', unlinkInodeFromParent xfs x = .ok xfs' ∧ SameCounts xfs xfs' ∧
      xfs'.tree = update xfs.tree x (some { y with parent := none }) ∧ Links xfs' ∧
      Numbered xfs' := by
  rw [isSome_tree] at hd
  obtain ⟨z, hz, hentry, hzx⟩ := exists_inode hnum hx
  have hzp : z.parent = some d := by
    rw [← hp, ← hentry]
    rfl
  obtain ⟨t', ht'⟩ : ∃ t' : Tree, t' = update xfs.tree x (some { y with parent := none }) :=
    ⟨_, rfl⟩
  have hpx : xfs.tree.parent x = some d := (Tree.parent_of_eq hx).trans hp
  have hparent : t'.parent = update xfs.tree.parent x none := by
    rw [ht', Tree.parent_update]
    rfl
  obtain ⟨pre, suf, hsplit, hsplit', hpre, hsuf⟩ := Tree.children_split hxn hpx hparent
  have hring : Ring (xfs.fwd d) (xfs.bwd d) (pre ++ x :: suf) := hsplit ▸ hlinks d hd
  have hnodup : (pre ++ x :: suf).Nodup := hsplit ▸ Tree.children_nodup d
  -- the links of the inode are those to what is in front of it and behind it
  obtain ⟨hnext, hprevious⟩ := hring.links
  have hznext : z.next = suf.head? := by
    rw [← hnext, fwd, link, hz]
    rfl
  have hzprevious : z.previous = pre.getLast? := by
    rw [← hprevious, bwd, link, hz]
    rfl
  have hmem : ∀ a, a ∈ pre ∨ a ∈ suf → a ∈ xfs.children d := by
    intro a ha
    rw [children, hsplit, List.mem_append, List.mem_cons]
    rcases ha with ha | ha
    · exact .inl ha
    · exact .inr (.inr ha)
  obtain ⟨xfs₁, hput₁, hrel₁, hfwd₁, hbwd₁⟩ := putForward_spec (p := pre.getLast?)
    (isSome_holder hd fun a ha => hmem a (.inl (List.mem_of_getLast? ha))) suf.head?
  have hd₁ : (xfs₁.inodeTable (suf.head?.getD d)).isSome := by
    rw [hrel₁.isSome]
    exact isSome_holder hd fun a ha => hmem a (.inr (List.mem_of_mem_head? ha))
  obtain ⟨xfs₂, hput₂, hrel₂, hbwd₂, hfwd₂⟩ := putBack_spec hd₁ pre.getLast?
  have hrel := hrel₁.trans hrel₂
  obtain ⟨w, hw, hwentry, hwx⟩ := exists_inode (hrel.numbered hnum) (hrel.tree ▸ hx)
  -- the inode itself points at nothing any more
  obtain ⟨w', hw'⟩ : ∃ w', w' = { w with next := none, previous := none, parent := none } := ⟨_, rfl⟩
  have hwentry' : w'.entry = { y with parent := none } := by
    rw [hw', ← hwentry]
    rfl
  refine ⟨{ xfs₂ with inodeTable := update xfs₂.inodeTable x (some w') }, ?_,
    ⟨hrel.counts.tableSize, hrel.counts.freeList, hrel.counts.freeSize, hrel.counts.inodeCount,
      hrel.counts.generation⟩, ?_, ?_,
    numbered_modify (hrel.numbered hnum) (by rw [hw']; exact hwx)⟩
  · rw [unlinkInodeFromParent, deref_of_eq hz, Run.ok_bind, hzp]
    dsimp only
    rw [removeInodeFromList_eq hz, hznext, hzprevious, hput₁, Run.ok_bind, hput₂, Run.ok_bind,
      modify_of_eq hw, hw']
  · rw [tree_modify, hrel.tree, hwentry']
  · have hnotx : ∀ e q, q ≠ some x → fwd { xfs₂ with inodeTable := update xfs₂.inodeTable x (some w') } e q =
        xfs₁.fwd e q ∧ bwd { xfs₂ with inodeTable := update xfs₂.inodeTable x (some w') } e q =
        xfs₂.bwd e q := by
      intro e q hq
      refine ⟨((link_modify hw ?_ e q).trans (if_neg hq)).trans (hfwd₂ e q),
        (link_modify hw ?_ e q).trans (if_neg hq)⟩
      · rw [hw']
      · rw [hw']
    intro e he
    rw [← isSome_tree, tree_modify, hrel.tree, hwentry', ← ht'] at he
    have hchildren : children { xfs₂ with inodeTable := update xfs₂.inodeTable x (some w') } e =
        t'.children xfs.inodeCount e := by
      rw [children, tree_modify, hrel.tree, hwentry', ← ht']
      exact congrArg (fun n => t'.children n e) hrel.counts.inodeCount
    rw [hchildren]
    by_cases hed : e = d
    · subst hed
      rw [hsplit']
      have hplace : ∀ q, q ≠ some x →
          fwd { xfs₂ with inodeTable := update xfs₂.inodeTable x (some w') } e q =
            update (xfs.fwd e) pre.getLast? suf.head? q ∧
          bwd { xfs₂ with inodeTable := update xfs₂.inodeTable x (some w') } e q =
            update (xfs.bwd e) suf.head? pre.getLast? q := by
        intro q hq
        rw [(hnotx e q hq).1, (hnotx e q hq).2, hfwd₁, hbwd₂, hbwd₁]
        simp only [implies_true, and_true, update_apply]
      apply (hring.remove hnodup).congr
      · exact hplace none (Option.some_ne_none x).symm
      · intro a ha
        apply hplace (some a)
        intro hax
        obtain rfl : a = x := Option.some_injective _ hax
        rcases List.mem_append.1 ha with ha | ha
        · exact Nat.lt_irrefl a (hpre a ha)
        · exact Nat.lt_irrefl a (hsuf a ha)
    · have hsame : t'.children xfs.inodeCount e = xfs.children e :=
        Tree.children_of_ne (by rw [hpx]; exact fun h => hed (Option.some_injective _ h).symm)
          (by simp) hparent
      have he' : (xfs.inodeTable e).isSome := by
        rw [← isSome_tree]
        by_cases hex : e = x
        · rw [hex, hx]
          rfl
        · rw [ht', update_of_ne hex] at he
          exact he
      rw [hsame]
      apply (hlinks e he').congr
      · rw [(hnotx e none (Option.some_ne_none x).symm).1,
          (hnotx e none (Option.some_ne_none x).symm).2, hfwd₁, hbwd₂, hbwd₁]
        exact ⟨if_neg fun h => hed (h.2 h.1.symm), if_neg fun h => hed (h.2 h.1.symm)⟩
      · intro a ha
        have hout : ∀ b, b ∈ xfs.children d → a ≠ b := fun b hb heq =>
          not_mem_children hb hed (heq ▸ ha)
        have hax : some a ≠ some x := fun h =>
          hout x (by rw [children, hsplit]; exact List.mem_append_right _ List.mem_cons_self)
            (Option.some_injective _ h)
        rw [(hnotx e _ hax).1, (hnotx e _ hax).2, hfwd₁, hbwd₂, hbwd₁]
        constructor
        · refine if_neg fun h => ?_
          exact hout a (hmem a (.inl (List.mem_of_getLast? h.1.symm))) rfl
        · refine if_neg fun h => ?_
          exact hout a (hmem a (.inr (List.mem_of_mem_head? h.1.symm))) rfl

/-! ## Putting an inode on a list -/

/-- **The place of an inode is found** behind those with smaller numbers. -/
theorem findPredecessor_spec (hnum : Numbered xfs) {L pre suf rest : List Nat}
    (hring : Ring (xfs.fwd d) (xfs.bwd d) L) (hL : L = pre ++ suf ++ rest)
    (hlive : ∀ i ∈ L, (xfs.inodeTable i).isSome) (hpre : ∀ i ∈ pre, i < x)
    (hsuf : ∀ i ∈ suf, x < i) {fuel : Nat} (hfuel : suf.length < fuel) :
    findPredecessor xfs x fuel (pre ++ suf).getLast? = .ok pre.getLast? := by
  induction suf using List.reverseRecOn generalizing rest fuel with
  | nil =>
    obtain ⟨fuel, rfl⟩ : ∃ k, fuel = k + 1 := ⟨fuel - 1, by omega⟩
    rw [List.append_nil]
    cases hlast : pre.getLast? with
    | none => rw [findPredecessor]
    | some p =>
      have hp := List.mem_of_getLast? hlast
      obtain ⟨z, hz⟩ := Option.isSome_iff_exists.1 (hlive p (by
        rw [hL, List.append_nil]
        exact List.mem_append_left _ hp))
      have hzp := hnum p z hz
      have hlt := hpre p hp
      rw [findPredecessor, deref_of_eq hz, Run.ok_bind, if_neg (by omega)]
      rfl
  | append_singleton suf a ih =>
    obtain ⟨fuel, rfl⟩ : ∃ k, fuel = k + 1 := ⟨fuel - 1, by omega⟩
    have ha : a ∈ suf ++ [a] := List.mem_append_right _ List.mem_cons_self
    obtain ⟨z, hz⟩ := Option.isSome_iff_exists.1 (hlive a (by
      rw [hL]
      exact List.mem_append_left _ (List.mem_append_right _ ha)))
    have hza := hnum a z hz
    have hlt := hsuf a ha
    have hL' : L = (pre ++ suf) ++ a :: rest := by
      rw [hL]
      simp only [List.append_assoc, List.singleton_append]
    have hprevious : z.previous = (pre ++ suf).getLast? := by
      rw [hL'] at hring
      rw [← hring.links.2, bwd, link, hz]
      rfl
    rw [← List.append_assoc, List.getLast?_concat, findPredecessor, deref_of_eq hz, Run.ok_bind, if_pos (by omega), hprevious]
    apply ih
    · exact hL'
    · exact fun i hi => hsuf i (List.mem_append_left _ hi)
    · rw [List.length_append, List.length_singleton] at hfuel
      omega

/-- `add_inode_to_list` writes the links of the inode and two others. -/
theorem addInodeToList_eq {z zd : XfsInode} (hz : xfs.inodeTable x = some z) (hzx : z.inum = x)
    (hzd : xfs.inodeTable d = some zd) {predecessor : Option Nat}
    (hfind : findPredecessor xfs x (xfs.inodeCount + 1) zd.dirEnd = .ok predecessor)
    (hlive : ∀ p, predecessor = some p → (xfs.inodeTable p).isSome) :
    addInodeToList xfs d x =
      (xfs.modify x (fun x =>
          { x with next := xfs.fwd d predecessor, previous := predecessor }) >>= fun xfs₁ =>
        putBack xfs₁ d (xfs.fwd d predecessor) (some x) >>= fun xfs₂ =>
          putForward xfs₂ d predecessor (some x)) := by
  rw [addInodeToList, deref_of_eq hz, Run.ok_bind, deref_of_eq hzd, Run.ok_bind, hzx, hfind,
    Run.ok_bind]
  cases predecessor with
  | none =>
    have hfirst : xfs.fwd d none = zd.dirBegin := by
      rw [fwd, link, hzd]
      rfl
    rw [hfirst]
    cases zd.dirBegin <;> rfl
  | some p =>
    obtain ⟨zp, hzp⟩ := Option.isSome_iff_exists.1 (hlive p rfl)
    have hnext : xfs.fwd d (some p) = zp.next := by
      rw [fwd, link, hzp]
      rfl
    dsimp only
    rw [deref_of_eq hzp, Run.ok_bind, hnext]
    cases zp.next <;> rfl

theorem length_children_le (d : Nat) : (xfs.children d).length ≤ xfs.inodeCount := by
  rw [children, Tree.children]
  refine le_trans (List.length_filter_le _ _) ?_
  rw [List.length_range]

/-- **An inode is put on the list of a directory**, in its place. -/
theorem linkInodeIntoDirectoryNode_spec (hlinks : Links xfs) (hnum : Numbered xfs) {y : Entry}
    (hx : xfs.tree x = some y) (hxn : x < xfs.inodeCount) (hp : y.parent = none)
    (hd : (xfs.tree d).isSome) :
    ∃ xfs', linkInodeIntoDirectoryNode xfs d x = .ok xfs' ∧ SameCounts xfs xfs' ∧
      xfs'.tree = update xfs.tree x (some { y with parent := some d }) ∧ Links xfs' ∧
      Numbered xfs' := by
  obtain ⟨z, hz, hentry, hzx⟩ := exists_inode hnum hx
  obtain ⟨t', ht'⟩ : ∃ t' : Tree, t' = update xfs.tree x (some { y with parent := some d }) :=
    ⟨_, rfl⟩
  have hpx : xfs.tree.parent x = none := (Tree.parent_of_eq hx).trans hp
  have hparent : t'.parent = update xfs.tree.parent x (some d) := by
    rw [ht', Tree.parent_update]
    rfl
  have hpx' : t'.parent x = some d := by rw [hparent, update_self]
  have hback : xfs.tree.parent = update t'.parent x none := by
    rw [hparent, update_idem, ← hpx, update_eq_self]
  obtain ⟨pre, suf, hsplit', hsplit, hpre, hsuf⟩ := Tree.children_split hxn hpx' hback
  have hnodup : (pre ++ x :: suf).Nodup := hsplit' ▸ Tree.children_nodup d
  rw [isSome_tree] at hd
  have hring : Ring (xfs.fwd d) (xfs.bwd d) (pre ++ suf) := hsplit ▸ hlinks d hd
  have hmem : ∀ a, a ∈ pre ∨ a ∈ suf → a ∈ xfs.children d := by
    intro a ha
    rw [children, hsplit, List.mem_append]
    exact ha
  -- the parent is written first
  obtain ⟨z₀, hz₀⟩ : ∃ z₀, z₀ = { z with parent := some d } := ⟨_, rfl⟩
  obtain ⟨xfs₀, hxfs₀⟩ : ∃ xfs₀, xfs₀ = { xfs with inodeTable := update xfs.inodeTable x (some z₀) } :=
    ⟨_, rfl⟩
  have hfwd₀ : ∀ e q, xfs₀.fwd e q = xfs.fwd e q := by
    rw [hxfs₀, hz₀]
    exact link_modify_same hz rfl rfl
  have hbwd₀ : ∀ e q, xfs₀.bwd e q = xfs.bwd e q := by
    rw [hxfs₀, hz₀]
    exact link_modify_same hz rfl rfl
  have hnum₀ : Numbered xfs₀ := by
    rw [hxfs₀]
    apply numbered_modify hnum
    rw [hz₀]
    exact hzx
  have hlive₀ : ∀ i, (xfs.inodeTable i).isSome → (xfs₀.inodeTable i).isSome := by
    intro i hi
    rw [hxfs₀]
    dsimp only
    by_cases hix : i = x
    · rw [hix, update_self]
      rfl
    · rw [update_of_ne hix]
      exact hi
  have hd₀ := hlive₀ d hd
  obtain ⟨zd, hzd⟩ := Option.isSome_iff_exists.1 hd₀
  have hzx₀ : xfs₀.inodeTable x = some z₀ := by
    rw [hxfs₀]
    exact update_self ..
  have hend : zd.dirEnd = (pre ++ suf).getLast? := by
    rw [← hring.ends.2, ← hbwd₀ d none, bwd, link, hzd]
    rfl
  have hring₀ : Ring (xfs₀.fwd d) (xfs₀.bwd d) (pre ++ suf) :=
    hring.congr ⟨hfwd₀ d none, hbwd₀ d none⟩ fun a _ => ⟨hfwd₀ d _, hbwd₀ d _⟩
  have hcount₀ : xfs₀.inodeCount = xfs.inodeCount := by rw [hxfs₀]
  have hfind : findPredecessor xfs₀ x (xfs₀.inodeCount + 1) zd.dirEnd = .ok pre.getLast? := by
    rw [hend]
    apply findPredecessor_spec hnum₀ hring₀ (List.append_nil _).symm
    · intro i hi
      exact hlive₀ i (isSome_of_mem_children (hmem i (List.mem_append.1 hi)))
    · exact hpre
    · exact hsuf
    · have hlen := @length_children_le xfs d
      rw [children, hsplit, List.length_append] at hlen
      omega
  have hlast : ∀ p, pre.getLast? = some p → p ∈ xfs.children d := fun p hp =>
    hmem p (.inl (List.mem_of_getLast? hp))
  have hfirst : ∀ p, suf.head? = some p → p ∈ xfs.children d := fun p hp =>
    hmem p (.inr (List.mem_of_mem_head? hp))
  have hnext : xfs₀.fwd d pre.getLast? = suf.head? := (hring₀ pre suf rfl).1
  -- then the links of the inode, and those to it
  obtain ⟨z₁, hz₁⟩ : ∃ z₁, z₁ = { z₀ with next := suf.head?, previous := pre.getLast? } := ⟨_, rfl⟩
  obtain ⟨xfs₁, hxfs₁⟩ : ∃ xfs₁, xfs₁ =
    { xfs₀ with inodeTable := update xfs₀.inodeTable x (some z₁) } := ⟨_, rfl⟩
  have hrel₁ : Relinked xfs₀ xfs₁ := by
    rw [hxfs₁, hz₁]
    exact relinked_modify (f := fun x => { x with next := suf.head?, previous := pre.getLast? })
      hzx₀ rfl rfl
  have hfwd₁ : ∀ e q, xfs₁.fwd e q = if q = some x then suf.head? else xfs₀.fwd e q := by
    rw [hxfs₁, hz₁]
    exact link_modify hzx₀ rfl
  have hbwd₁ : ∀ e q, xfs₁.bwd e q = if q = some x then pre.getLast? else xfs₀.bwd e q := by
    rw [hxfs₁, hz₁]
    exact link_modify hzx₀ rfl
  obtain ⟨xfs₂, hput₂, hrel₂, hbwd₂, hfwd₂⟩ := @putBack_spec xfs₁ d suf.head?
    (by
      rw [hrel₁.isSome]
      exact hlive₀ _ (isSome_holder hd hfirst)) (some x)
  obtain ⟨xfs₃, hput₃, hrel₃, hfwd₃, hbwd₃⟩ := @putForward_spec xfs₂ d pre.getLast?
    (by
      rw [hrel₂.isSome, hrel₁.isSome]
      exact hlive₀ _ (isSome_holder hd hlast)) (some x)
  have hrel := (hrel₁.trans hrel₂).trans hrel₃
  have htree : xfs₃.tree = t' := by
    rw [hrel.tree, hxfs₀, tree_modify, ht', hz₀, ← hentry]
    rfl
  have hcount : xfs₃.inodeCount = xfs.inodeCount := hrel.counts.inodeCount.trans hcount₀
  refine ⟨xfs₃, ?_, ?_, htree.trans ht', ?_, hrel.numbered hnum₀⟩
  · rw [linkInodeIntoDirectoryNode, modify_of_eq hz, Run.ok_bind, ← hz₀, ← hxfs₀,
      addInodeToList_eq hzx₀ (hnum₀ x z₀ hzx₀) hzd hfind fun p hp =>
        hlive₀ p (isSome_of_mem_children (hlast p hp)),
      modify_of_eq hzx₀, Run.ok_bind, hnext, ← hz₁, ← hxfs₁, hput₂, Run.ok_bind, hput₃]
  · have hcounts := hrel.counts
    rw [hxfs₀] at hcounts
    exact ⟨hcounts.tableSize, hcounts.freeList, hcounts.freeSize, hcounts.inodeCount,
      hcounts.generation⟩
  · intro e he
    rw [← isSome_tree, htree] at he
    rw [children, htree, hcount]
    have hfwd : ∀ q, xfs₃.fwd e q = if q = pre.getLast? ∧ (pre.getLast? = none → e = d) then some x
        else if q = some x then suf.head? else xfs.fwd e q := by
      intro q
      rw [hfwd₃, hfwd₂, hfwd₁, hfwd₀]
    have hbwd : ∀ q, xfs₃.bwd e q = if q = suf.head? ∧ (suf.head? = none → e = d) then some x
        else if q = some x then pre.getLast? else xfs.bwd e q := by
      intro q
      rw [hbwd₃, hbwd₂, hbwd₁, hbwd₀]
    by_cases hed : e = d
    · subst hed
      rw [hsplit']
      have hplace : ∀ q, xfs₃.fwd e q =
            update (update (xfs.fwd e) (some x) suf.head?) pre.getLast? (some x) q ∧
          xfs₃.bwd e q =
            update (update (xfs.bwd e) (some x) pre.getLast?) suf.head? (some x) q := by
        intro q
        rw [hfwd, hbwd]
        simp only [implies_true, and_true, update_apply]
      exact (hring.insert hnodup).congr (hplace none) fun a _ => hplace (some a)
    · have hsame : t'.children xfs.inodeCount e = xfs.children e :=
        Tree.children_of_ne (by rw [hpx]; simp)
          (fun h => hed (Option.some_injective _ h).symm) hparent
      have he' : (xfs.inodeTable e).isSome := by
        rw [← isSome_tree]
        by_cases hex : e = x
        · rw [hex, hx]
          rfl
        · rw [ht', update_of_ne hex] at he
          exact he
      rw [hsame]
      apply (hlinks e he').congr
      · rw [hfwd, hbwd]
        constructor
        · rw [if_neg fun h => hed (h.2 h.1.symm), if_neg (Option.some_ne_none x).symm]
        · rw [if_neg fun h => hed (h.2 h.1.symm), if_neg (Option.some_ne_none x).symm]
      · intro a ha
        have hout : ∀ b, b ∈ xfs.children d → a ≠ b := fun b hb heq =>
          not_mem_children hb hed (heq ▸ ha)
        have hax : some a ≠ some x := by
          intro h
          have hpa := (Tree.mem_children.1 ha).2
          rw [Option.some_injective _ h, hpx] at hpa
          cases hpa
        rw [hfwd, hbwd, if_neg hax, if_neg hax,
          if_neg fun h => hout a (hlast a h.1.symm) rfl,
          if_neg fun h => hout a (hfirst a h.1.symm) rfl]
        exact ⟨rfl, rfl⟩

/-! ## Inodes that are on no list -/

/-- The lists stay if the parents do, the links of what is on them do, and new directories have
nothing in them. -/
theorem links_of_same (hlinks : Links xfs) (hparent : xfs'.tree.parent = xfs.tree.parent)
    (hcount : xfs'.inodeCount = xfs.inodeCount)
    (hold : ∀ e, (xfs'.inodeTable e).isSome → (xfs.inodeTable e).isSome → ∀ q,
      (∀ a, q = some a → a ∈ xfs.children e) →
        xfs'.fwd e q = xfs.fwd e q ∧ xfs'.bwd e q = xfs.bwd e q)
    (hnew : ∀ e, (xfs'.inodeTable e).isSome → xfs.inodeTable e = none →
      xfs.children e = [] ∧ xfs'.fwd e none = none ∧ xfs'.bwd e none = none) : Links xfs' := by
  intro e he
  have hchildren : xfs'.children e = xfs.children e := by
    rw [children, hcount, children, Tree.children, Tree.children, hparent]
  rw [hchildren]
  cases hold' : xfs.inodeTable e with
  | none =>
    obtain ⟨hempty, hends⟩ := hnew e he hold'
    rw [hempty]
    exact ring_nil.2 hends
  | some z =>
    have hsome : (xfs.inodeTable e).isSome := by
      rw [hold']
      rfl
    apply (hlinks e hsome).congr
    · exact hold e he hsome none fun a ha => by cases ha
    · intro a ha
      apply hold e he hsome
      intro b hb
      rwa [← Option.some_injective _ hb]

/-- The parents stay when an inode with no parent is written, before and after. -/
theorem parent_update_of_none {v : Option XfsInode} (h : xfs.tree.parent x = none)
    (hv : v.bind (·.parent) = none) (htable : xfs'.inodeTable = update xfs.inodeTable x v) :
    xfs'.tree.parent = xfs.tree.parent := by
  have htree : xfs'.tree = update xfs.tree x (v.map XfsInode.entry) := by
    funext i
    rw [tree, htable]
    by_cases hi : i = x
    · subst hi
      rw [update_self, update_self]
    · rw [update_of_ne hi, update_of_ne hi]
      rfl
  have hv' : (v.map XfsInode.entry).bind (·.parent) = none := by
    rw [Option.bind_map]
    exact hv
  rw [htree, Tree.parent_update, hv', ← h, update_eq_self]

/-- A link is held by an inode other than `x`. -/
theorem link_update_of_ne {ofHead ofElement : XfsInode → Option Nat} {v : Option XfsInode}
    (htable : xfs'.inodeTable = update xfs.inodeTable x v) {e : Nat} {q : Option Nat} (he : e ≠ x)
    (hq : q ≠ some x) : link ofHead ofElement xfs' e q = link ofHead ofElement xfs e q := by
  cases q with
  | none => simp only [link, htable, update_of_ne he]
  | some q => simp only [link, htable, update_of_ne fun heq => hq (congrArg some heq)]

/-- **An inode on no list is freed.** -/
theorem links_free (hlinks : Links xfs) (hp : xfs.tree.parent x = none)
    (htable : xfs'.inodeTable = update xfs.inodeTable x none)
    (hcount : xfs'.inodeCount = xfs.inodeCount) : Links xfs' := by
  have hne : ∀ e, (xfs'.inodeTable e).isSome → e ≠ x := by
    rintro e he rfl
    rw [htable, update_self] at he
    cases he
  apply links_of_same hlinks (parent_update_of_none hp rfl htable) hcount
  · intro e he _ q hq
    have hqx : q ≠ some x := fun hqx => by
      have := (Tree.mem_children.1 (hq x hqx)).2
      rw [hp] at this
      cases this
    exact ⟨link_update_of_ne htable (hne e he) hqx, link_update_of_ne htable (hne e he) hqx⟩
  · intro e he hnone
    have hex := hne e he
    rw [htable, update_of_ne hex, hnone] at he
    cases he

/-- **An inode is made** that is on no list and has nothing in it. -/
theorem links_new (hlinks : Links xfs) (hnone : xfs.inodeTable x = none)
    (hempty : ∀ i, xfs.tree.parent i ≠ some x) {w : XfsInode} (hp : w.parent = none)
    (hbegin : w.dirBegin = none) (hend : w.dirEnd = none)
    (htable : xfs'.inodeTable = update xfs.inodeTable x (some w))
    (hcount : xfs'.inodeCount = xfs.inodeCount) : Links xfs' := by
  have hpx : xfs.tree.parent x = none := by
    rw [Tree.parent, tree, hnone]
    rfl
  apply links_of_same hlinks (parent_update_of_none (v := some w) hpx hp htable) hcount
  · intro e _ he q hq
    have hex : e ≠ x := fun hex => by
      rw [hex, hnone] at he
      cases he
    have hqx : q ≠ some x := fun hqx => by
      have := (Tree.mem_children.1 (hq x hqx)).2
      rw [hpx] at this
      cases this
    exact ⟨link_update_of_ne htable hex hqx, link_update_of_ne htable hex hqx⟩
  · intro e he hold
    have hex : e = x := by
      by_contra hex
      rw [htable, update_of_ne hex, hold] at he
      cases he
    subst hex
    refine ⟨?_, ?_, ?_⟩
    · apply List.filter_eq_nil_iff.2
      intro i _
      simpa using hempty i
    · simp only [fwd, link, htable, update_self, Option.bind_some, hbegin]
    · simp only [bwd, link, htable, update_self, Option.bind_some, hend]

/-- **An inode changes** in what is not a link. -/
theorem links_relabel (hlinks : Links xfs) {z w : XfsInode} (hz : xfs.inodeTable x = some z)
    (hp : w.parent = z.parent) (hbegin : w.dirBegin = z.dirBegin) (hend : w.dirEnd = z.dirEnd)
    (hnext : w.next = z.next) (hprevious : w.previous = z.previous) :
    Links { xfs with inodeTable := update xfs.inodeTable x (some w) } := by
  apply links_of_same hlinks
  · have hw : w.entry.parent = xfs.tree.parent x := by
      rw [Tree.parent_of_eq (tree_of_eq hz)]
      exact hp
    rw [tree_modify, Tree.parent_update, Option.bind_some, hw, update_eq_self]
  · rfl
  · intro e _ _ q _
    exact ⟨link_modify_same hz hbegin hnext e q, link_modify_same hz hend hprevious e q⟩
  · intro e he hnone
    have hex : e ≠ x := fun hex => by
      rw [hex, hz] at hnone
      cases hnone
    rw [← isSome_tree, tree_modify, update_of_ne hex, isSome_tree, hnone] at he
    cases he

/-! ## Looking a name up -/

/-- **A name is looked up**: nothing is found just if no entry of the directory has it. -/
theorem lookupLoop_spec {L pre suf : List Nat} (hring : Ring (xfs.fwd d) (xfs.bwd d) L)
    (hL : L = pre ++ suf) (hlive : ∀ i ∈ L, (xfs.inodeTable i).isSome) (name : List UInt8)
    {fuel : Nat} (hfuel : suf.length < fuel) :
    ∃ found, lookupLoop xfs name fuel suf.head? = .ok found ∧
      (found = none ↔ ∀ i ∈ suf, ∀ y, xfs.tree i = some y → y.name ≠ name) ∧
      ∀ i, found = some i → i ∈ suf ∧ ∃ y, xfs.tree i = some y ∧ y.name = name := by
  induction suf generalizing pre fuel with
  | nil =>
    obtain ⟨fuel, rfl⟩ : ∃ k, fuel = k + 1 := ⟨fuel - 1, by omega⟩
    refine ⟨none, by rw [List.head?_nil, lookupLoop], ?_, fun i hi => nomatch hi⟩
    simp
  | cons a suf ih =>
    obtain ⟨fuel, rfl⟩ : ∃ k, fuel = k + 1 := ⟨fuel - 1, by omega⟩
    have ha : a ∈ L := by
      rw [hL]
      exact List.mem_append_right _ List.mem_cons_self
    obtain ⟨z, hz⟩ := Option.isSome_iff_exists.1 (hlive a ha)
    rw [List.head?_cons, lookupLoop, deref_of_eq hz, Run.ok_bind]
    by_cases hname : z.name = name
    · rw [if_pos hname]
      refine ⟨some a, rfl, iff_of_false (Option.some_ne_none a) fun h => ?_, fun i hi => ?_⟩
      · exact h a List.mem_cons_self _ (tree_of_eq hz) hname
      · rw [← Option.some_injective _ hi]
        exact ⟨List.mem_cons_self, _, tree_of_eq hz, hname⟩
    · have hnext : z.next = suf.head? := by
        rw [hL] at hring
        rw [← hring.links.1, fwd, link, hz]
        rfl
      rw [if_neg hname, hnext]
      have hL' : L = pre ++ [a] ++ suf := by rw [hL, List.append_assoc, List.singleton_append]
      have hfuel' : suf.length < fuel := by
        rw [List.length_cons] at hfuel
        omega
      obtain ⟨found, hrun, hnone, hsome⟩ := ih hL' hfuel'
      refine ⟨found, hrun, hnone.trans ⟨fun h i hi y hy => ?_, fun h i hi =>
        h i (List.mem_cons_of_mem _ hi)⟩, fun i hi =>
          ⟨List.mem_cons_of_mem _ (hsome i hi).1, (hsome i hi).2⟩⟩
      rcases List.mem_cons.1 hi with rfl | hi
      · rw [tree_of_eq hz] at hy
        cases hy
        exact hname
      · exact h i hi y hy

end XfsFs

end Xrdp.Chansrv
