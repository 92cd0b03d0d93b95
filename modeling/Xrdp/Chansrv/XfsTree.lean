import Xrdp.Chansrv.Xfs
import Xrdp.Lib.Forest

/-!
# The tree of a file system

An inode without the links of its directory's list is an `Entry`; the entries by their numbers are
the tree, and the lists are those of `Tree.children`.

* `Tree.Sound` — what holds of the tree.
* `Tree.Sound.add`, `Tree.Sound.divert`, `Tree.Sound.free`, `Tree.Sound.relabel`, `Tree.Sound.move`
  — what the operations do to it.
* `Tree.children_split` — the lists before and after.
-/

namespace Xrdp.Chansrv

open Forest

/-- An inode without the links of lists. -/
structure Entry where
  mode : UInt32
  name : List UInt8
  generation : UInt32
  deviceId : UInt32
  parent : Option Nat
  openCount : UInt32

def Entry.isDir (x : Entry) : Bool := x.mode &&& S_IFDIR ≠ 0
def Entry.isReg (x : Entry) : Bool := x.mode &&& S_IFREG ≠ 0

/-- What remains of an entry that is removed: an open file is diverted to delete-pending. -/
def Entry.removed (x : Entry) : Option Entry :=
  if x.isReg ∧ x.openCount > 0 then some { x with parent := some DELETE_PENDING_ID } else none

def XfsInode.entry (x : XfsInode) : Entry :=
  ⟨x.mode, x.name, x.generation, x.deviceId, x.parent, x.openCount⟩

/-- The entries by their numbers. -/
abbrev Tree := Nat → Option Entry

def XfsFs.tree (xfs : XfsFs) : Tree := fun i => (xfs.inodeTable i).map XfsInode.entry

namespace Tree

def parent (t : Tree) (i : Nat) : Option Nat := (t i).bind (·.parent)

/-- The numbers below `n` of the entries of a directory. -/
def children (t : Tree) (n d : Nat) : List Nat :=
  (List.range n).filter fun i => t.parent i = some d

/-- The two directories that are there from the start. -/
def Fixed (i : Nat) : Prop := i = FUSE_ROOT_ID ∨ i = DELETE_PENDING_ID

/-- What holds of the tree of a file system with numbers below `n`. -/
structure Sound (t : Tree) (n : Nat) : Prop where
  bound : ∀ i, (t i).isSome → 0 < i ∧ i < n
  fixed : ∀ i, Fixed i → ∃ x, t i = some x ∧ x.parent = none ∧ x.deviceId = 0
  /-- An entry is in a directory. -/
  inDir : ∀ i x, t i = some x → ¬Fixed i →
    ∃ d y, x.parent = some d ∧ t d = some y ∧ (d = DELETE_PENDING_ID ∨ y.isDir)
  /-- Outside delete-pending the names in a directory differ. -/
  names : ∀ d, d ≠ DELETE_PENDING_ID → ∀ i j x y, t i = some x → t j = some y →
    x.parent = some d → y.parent = some d → x.name = y.name → i = j
  rooted : ∀ i, (t i).isSome → Rooted t.parent Fixed i

variable {t : Tree} {n : Nat}

theorem parent_of_eq {i : Nat} {x : Entry} (h : t i = some x) : t.parent i = x.parent := by
  rw [parent, h, Option.bind_some]

theorem isSome_of_parent {i d : Nat} (h : t.parent i = some d) : (t i).isSome := by
  rw [parent] at h
  cases hi : t i with
  | none =>
    rw [hi] at h
    cases h
  | some x => rfl

theorem mem_children {d i : Nat} : i ∈ t.children n d ↔ i < n ∧ t.parent i = some d := by
  rw [children, List.mem_filter, List.mem_range, decide_eq_true_eq]

theorem children_sorted (d : Nat) : (t.children n d).Pairwise (· < ·) :=
  List.pairwise_lt_range.filter _

theorem children_nodup (d : Nat) : (t.children n d).Nodup := List.nodup_range.filter _

/-- An ascending list is known by its members. -/
theorem eq_of_sorted {L M : List Nat} (hL : L.Pairwise (· < ·)) (hM : M.Pairwise (· < ·))
    (h : ∀ i, i ∈ L ↔ i ∈ M) : L = M := by
  have hnodup : ∀ {K : List Nat}, K.Pairwise (· < ·) → K.Nodup := fun hK =>
    hK.imp fun hlt => Nat.ne_of_lt hlt
  apply List.Perm.eq_of_pairwise _ hL hM
    ((List.perm_ext_iff_of_nodup (hnodup hL) (hnodup hM)).2 h)
  intro a b _ _ hab hba
  exact absurd hab (Nat.lt_asymm hba)

open Function in
theorem parent_update (t : Tree) (x : Nat) (v : Option Entry) :
    Tree.parent (update t x v) = update t.parent x (v.bind (·.parent)) := by
  funext i
  rw [parent]
  by_cases hi : i = x
  · subst hi
    rw [update_self, update_self]
  · rw [update_of_ne hi, update_of_ne hi]
    rfl

open Function in
/-- **A directory's list with and without an entry.** -/
theorem children_split {t' : Tree} {x d : Nat} (hx : x < n) (hp : t.parent x = some d)
    (hp' : t'.parent = update t.parent x none) :
    ∃ pre suf, t.children n d = pre ++ x :: suf ∧ t'.children n d = pre ++ suf ∧
      (∀ i ∈ pre, i < x) ∧ ∀ i ∈ suf, x < i := by
  obtain ⟨pre, suf, hsplit⟩ := List.append_of_mem (mem_children.2 ⟨hx, hp⟩)
  have hsorted := children_sorted (t := t) (n := n) d
  rw [hsplit, List.pairwise_append, List.pairwise_cons] at hsorted
  obtain ⟨hpre, ⟨hxsuf, hsuf⟩, hcross⟩ := hsorted
  have hprex : ∀ i ∈ pre, i < x := fun i hi => hcross i hi x List.mem_cons_self
  refine ⟨pre, suf, hsplit, ?_, hprex, hxsuf⟩
  apply eq_of_sorted (children_sorted d)
  · exact List.pairwise_append.2
      ⟨hpre, hsuf, fun a ha b hb => hcross a ha b (List.mem_cons_of_mem _ hb)⟩
  · intro i
    have hmem := mem_children (t := t) (n := n) (d := d) (i := i)
    rw [hsplit, List.mem_append, List.mem_cons] at hmem
    rw [mem_children, hp', List.mem_append]
    by_cases hi : i = x
    · subst hi
      rw [update_self]
      constructor
      · rintro ⟨-, h⟩
        cases h
      · rintro (h | h)
        · exact absurd (hprex i h) (Nat.lt_irrefl i)
        · exact absurd (hxsuf i h) (Nat.lt_irrefl i)
    · rw [update_of_ne hi, ← hmem]
      simp only [hi, false_or]

open Function in
/-- The lists of other directories stay. -/
theorem children_of_ne {t' : Tree} {x d : Nat} {v : Option Nat} (hp : t.parent x ≠ some d)
    (hv : v ≠ some d) (hp' : t'.parent = update t.parent x v) :
    t'.children n d = t.children n d := by
  apply List.filter_congr
  intro i _
  rw [hp']
  by_cases hi : i = x
  · subst hi
    rw [update_self]
    simp only [hv, hp]
  · rw [update_of_ne hi]

/-! ## What the operations do to the tree -/

namespace Sound

open Function

variable {x d : Nat} {y : Entry}

theorem parent_fixed (h : Sound t n) {i : Nat} (hi : Fixed i) : t.parent i = none := by
  obtain ⟨y, hy, hp, -⟩ := h.fixed i hi
  rw [parent_of_eq hy, hp]

/-- What an entry is in is there, and is not a file. -/
theorem dir_of_parent (h : Sound t n) {i : Nat} (hp : t.parent i = some d) :
    ∃ z, t d = some z ∧ (d = DELETE_PENDING_ID ∨ z.isDir) := by
  obtain ⟨w, hw⟩ := Option.isSome_iff_exists.1 (isSome_of_parent hp)
  have hnot : ¬Fixed i := fun hf => by
    rw [h.parent_fixed hf] at hp
    cases hp
  obtain ⟨d', z, hd', hz, hdir⟩ := h.inDir i w hw hnot
  rw [parent_of_eq hw, hd'] at hp
  cases hp
  exact ⟨z, hz, hdir⟩

theorem not_under_self (h : Sound t n) {i : Nat} (hi : (t i).isSome) : ¬Under t.parent i i :=
  (h.rooted i hi).not_under_self fun _ hr => h.parent_fixed hr

/-- **An entry changes**, but not where it is, its name or what it is. -/
theorem relabel (h : Sound t n) (hx : t x = some y) {y' : Entry} (hparent : y'.parent = y.parent)
    (hname : y'.name = y.name) (hdir : y'.isDir = y.isDir)
    (hdevice : Fixed x → y'.deviceId = y.deviceId) : Sound (update t x (some y')) n := by
  have hsame : Tree.parent (update t x (some y')) = t.parent := by
    rw [parent_update, Option.bind_some, hparent, ← parent_of_eq hx, update_eq_self]
  -- an entry afterwards is one before in all that matters
  have hback : ∀ i z', update t x (some y') i = some z' → ∃ z, t i = some z ∧
      z'.parent = z.parent ∧ z'.name = z.name ∧ z'.isDir = z.isDir ∧
        (Fixed i → z'.deviceId = z.deviceId) := by
    intro i z' hz'
    by_cases hi : i = x
    · subst hi
      rw [update_self] at hz'
      cases hz'
      exact ⟨y, hx, hparent, hname, hdir, hdevice⟩
    · rw [update_of_ne hi] at hz'
      exact ⟨z', hz', rfl, rfl, rfl, fun _ => rfl⟩
  have hforth : ∀ i z, t i = some z → ∃ z', update t x (some y') i = some z' ∧
      z'.parent = z.parent ∧ z'.isDir = z.isDir ∧ (Fixed i → z'.deviceId = z.deviceId) := by
    intro i z hz
    by_cases hi : i = x
    · subst hi
      rw [hx] at hz
      cases hz
      exact ⟨y', update_self .., hparent, hdir, hdevice⟩
    · exact ⟨z, by rw [update_of_ne hi, hz], rfl, rfl, fun _ => rfl⟩
  refine ⟨?_, ?_, ?_, ?_, ?_⟩
  · intro i hi
    obtain ⟨z', hz'⟩ := Option.isSome_iff_exists.1 hi
    obtain ⟨z, hz, -⟩ := hback i z' hz'
    exact h.bound i (by rw [hz]; rfl)
  · intro i hi
    obtain ⟨z, hz, hp, hd⟩ := h.fixed i hi
    obtain ⟨z', hz', hp', -, hd'⟩ := hforth i z hz
    exact ⟨z', hz', hp'.trans hp, (hd' hi).trans hd⟩
  · intro i z' hz' hi
    obtain ⟨z, hz, hp, -⟩ := hback i z' hz'
    obtain ⟨d, w, hd, hw, hdir⟩ := h.inDir i z hz hi
    obtain ⟨w', hw', -, hdir', -⟩ := hforth d w hw
    exact ⟨d, w', hp.trans hd, hw', hdir.imp_right fun hwd => hdir'.trans hwd⟩
  · intro d hd i j a' b' ha' hb' hpa hpb hnames
    obtain ⟨a, ha, hap, han, -⟩ := hback i a' ha'
    obtain ⟨b, hb, hbp, hbn, -⟩ := hback j b' hb'
    exact h.names d hd i j a b ha hb (hap.symm.trans hpa) (hbp.symm.trans hpb)
      (han.symm.trans (hnames.trans hbn))
  · intro i hi
    obtain ⟨z', hz'⟩ := Option.isSome_iff_exists.1 hi
    obtain ⟨z, hz, -⟩ := hback i z' hz'
    rw [hsame]
    exact h.rooted i (by rw [hz]; rfl)

/-- **An entry with nothing in it is freed.** -/
theorem free (h : Sound t n) (hxf : ¬Fixed x) (hempty : ∀ i, t.parent i ≠ some x) :
    Sound (update t x none) n := by
  obtain ⟨t', ht'⟩ : ∃ t' : Tree, t' = update t x none := ⟨_, rfl⟩
  rw [← ht']
  have hself : t' x = none := by rw [ht', update_self]
  have hother : ∀ i, i ≠ x → t' i = t i := fun i hi => by rw [ht', update_of_ne hi]
  have hne : ∀ i z, t' i = some z → i ≠ x := by
    rintro i z hz rfl
    rw [hself] at hz
    cases hz
  have hback : ∀ i z, t' i = some z → t i = some z := fun i z hz => by
    rw [← hother i (hne i z hz), hz]
  refine ⟨?_, ?_, ?_, ?_, ?_⟩
  · intro i hi
    obtain ⟨z, hz⟩ := Option.isSome_iff_exists.1 hi
    exact h.bound i (by rw [hback i z hz]; rfl)
  · intro i hi
    rw [hother i fun heq => hxf (heq ▸ hi)]
    exact h.fixed i hi
  · intro i z hz hi
    obtain ⟨d, w, hd, hw, hdir⟩ := h.inDir i z (hback i z hz) hi
    refine ⟨d, w, hd, ?_, hdir⟩
    rw [hother d fun heq => hempty i (by rw [parent_of_eq (hback i z hz), hd, heq]), hw]
  · intro d hd i j a b ha hb
    exact h.names d hd i j a b (hback i a ha) (hback j b hb)
  · intro i hi
    obtain ⟨z, hz⟩ := Option.isSome_iff_exists.1 hi
    apply (h.rooted i (by rw [hback i z hz]; rfl)).mono (P := fun e => e ≠ x) (hne i z hz)
    intro e d he hp
    refine .inl ⟨?_, fun heq => hempty e (heq ▸ hp)⟩
    rw [parent, hother e he, ← parent, hp]

/-- Names stay different if no other entry of its directory has the name of the one that is written. -/
theorem names_update (h : Sound t n) {t' : Tree} (hself : t' x = some y)
    (hother : ∀ i, i ≠ x → t' i = t i) (hy : y.parent = some d)
    (hname : d ≠ DELETE_PENDING_ID → ∀ i w, i ≠ x → t i = some w → w.parent = some d →
      w.name ≠ y.name) :
    ∀ c, c ≠ DELETE_PENDING_ID → ∀ i j a b, t' i = some a → t' j = some b → a.parent = some c →
      b.parent = some c → a.name = b.name → i = j := by
  intro c hc i j a b ha hb hpa hpb hnames
  by_cases hix : i = x
  · by_cases hjx : j = x
    · exact hix.trans hjx.symm
    · subst hix
      rw [hself] at ha
      cases ha
      rw [hother j hjx] at hb
      obtain rfl : d = c := Option.some_injective _ (hy.symm.trans hpa)
      exact absurd hnames.symm (hname hc j b hjx hb hpb)
  · rw [hother i hix] at ha
    by_cases hjx : j = x
    · subst hjx
      rw [hself] at hb
      cases hb
      obtain rfl : d = c := Option.some_injective _ (hy.symm.trans hpb)
      exact absurd hnames (hname hc i a hix ha hpa)
    · rw [hother j hjx] at hb
      exact h.names c hc i j a b ha hb hpa hpb hnames

/-- **An entry is added** to a directory that has none of its name. -/
theorem add (h : Sound t n) (hx : t x = none) (hbound : 0 < x ∧ x < n) (hxf : ¬Fixed x)
    {z : Entry} (hd : t d = some z) (hdir : z.isDir)
    (hy : y.parent = some d)
    (hname : ∀ i w, t i = some w → w.parent = some d → w.name ≠ y.name) :
    Sound (update t x (some y)) n := by
  obtain ⟨t', ht'⟩ : ∃ t' : Tree, t' = update t x (some y) := ⟨_, rfl⟩
  rw [← ht']
  have hself : t' x = some y := by rw [ht', update_self]
  have hother : ∀ i, i ≠ x → t' i = t i := fun i hi => by rw [ht', update_of_ne hi]
  have hne : ∀ {i w}, t i = some w → i ≠ x := by
    rintro i w hw rfl
    rw [hx] at hw
    cases hw
  have hforth : ∀ {i w}, t i = some w → t' i = some w := fun hw => by
    rw [hother _ (hne hw), hw]
  have hrooted : ∀ i w, t i = some w → Rooted t'.parent Fixed i := by
    intro i w hw
    apply (h.rooted i (by rw [hw]; rfl)).mono (P := fun e => (t e).isSome) (by rw [hw]; rfl)
    intro e c he hp
    obtain ⟨v, hv⟩ := Option.isSome_iff_exists.1 he
    obtain ⟨u, hu, -⟩ := h.dir_of_parent hp
    refine .inl ⟨?_, by rw [hu]; rfl⟩
    rw [parent_of_eq (hforth hv), ← parent_of_eq hv, hp]
  refine ⟨?_, ?_, ?_, ?_, ?_⟩
  · intro i hi
    by_cases hix : i = x
    · exact hix ▸ hbound
    · rw [hother i hix] at hi
      exact h.bound i hi
  · intro i hi
    rw [hother i fun heq => hxf (heq ▸ hi)]
    exact h.fixed i hi
  · intro i w hw hi
    by_cases hix : i = x
    · subst hix
      rw [hself] at hw
      cases hw
      exact ⟨d, z, hy, hforth hd, .inr hdir⟩
    · rw [hother i hix] at hw
      obtain ⟨c, v, hc, hv, hcdir⟩ := h.inDir i w hw hi
      exact ⟨c, v, hc, hforth hv, hcdir⟩
  · exact h.names_update hself hother hy fun _ i w _ => hname i w
  · intro i hi
    by_cases hix : i = x
    · subst hix
      exact .step ((parent_of_eq hself).trans hy) (hrooted d z hd)
    · obtain ⟨w, hw⟩ := Option.isSome_iff_exists.1 hi
      rw [hother i hix] at hw
      exact hrooted i w hw

/-- An entry is moved, with what is in it, to delete-pending or a directory. -/
theorem moveTo (h : Sound t n) (hx : t x = some y) (hxf : ¬Fixed x) {z : Entry} (hd : t d = some z)
    (hdir : d = DELETE_PENDING_ID ∨ z.isDir) (hdx : d ≠ x) (hout : ¬Under t.parent x d)
    {name : List UInt8} (hname : d ≠ DELETE_PENDING_ID → ∀ i w, i ≠ x → t i = some w →
      w.parent = some d → w.name ≠ name) :
    Sound (update t x (some { y with parent := some d, name := name })) n := by
  obtain ⟨t', ht'⟩ : ∃ t' : Tree, t' = update t x (some { y with parent := some d, name := name }) :=
    ⟨_, rfl⟩
  rw [← ht']
  have hself : t' x = some { y with parent := some d, name := name } := by rw [ht', update_self]
  have hother : ∀ i, i ≠ x → t' i = t i := fun i hi => by rw [ht', update_of_ne hi]
  have hsome : ∀ i, (t' i).isSome ↔ (t i).isSome := by
    intro i
    by_cases hi : i = x
    · rw [hi, hself, hx]
      exact Iff.rfl
    · rw [hother i hi]
  have hparent : ∀ i, i ≠ x → t'.parent i = t.parent i := fun i hi => by
    rw [parent, hother i hi, parent]
  -- the entry itself, and what is in it, is where the directory is
  have hrooted : Rooted t'.parent Fixed x := by
    apply Rooted.step (d := d) (parent_of_eq hself)
    apply (h.rooted d (by rw [hd]; rfl)).mono (P := fun e => e ≠ x ∧ ¬Under t.parent x e) ⟨hdx, hout⟩
    rintro e c ⟨hex, hu⟩ hp
    refine .inl ⟨(hparent e hex).trans hp, ?_, fun huc => hu ((Under.child hp).trans huc)⟩
    rintro rfl
    exact hu (.child hp)
  have hdir' : ∀ c w, t c = some w → ∃ w', t' c = some w' ∧ w'.isDir = w.isDir := by
    intro c w hw
    by_cases hc : c = x
    · subst hc
      rw [hx] at hw
      cases hw
      exact ⟨_, hself, rfl⟩
    · exact ⟨w, by rw [hother c hc, hw], rfl⟩
  refine ⟨?_, ?_, ?_, ?_, ?_⟩
  · intro i hi
    exact h.bound i ((hsome i).1 hi)
  · intro i hi
    rw [hother i fun heq => hxf (heq ▸ hi)]
    exact h.fixed i hi
  · intro i w hw hi
    by_cases hix : i = x
    · subst hix
      rw [hself] at hw
      cases hw
      refine ⟨d, z, rfl, ?_, hdir⟩
      rw [hother d hdx, hd]
    · rw [hother i hix] at hw
      obtain ⟨c, v, hc, hv, hcdir⟩ := h.inDir i w hw hi
      obtain ⟨v', hv', hvdir⟩ := hdir' c v hv
      exact ⟨c, v', hc, hv', hcdir.imp_right fun hvd => hvdir.trans hvd⟩
  · exact h.names_update hself hother rfl hname
  · intro i hi
    have hbefore := h.rooted i ((hsome i).1 hi)
    clear hi
    induction hbefore with
    | root hr => exact .root hr
    | @step e c hp _ ih =>
      by_cases hex : e = x
      · exact hex ▸ hrooted
      · exact .step ((hparent e hex).trans hp) ih

/-- **An entry is moved**, with what is in it, to a directory that is not in it and has no other of
its new name. -/
theorem move (h : Sound t n) (hx : t x = some y) (hxf : ¬Fixed x) {z : Entry} (hd : t d = some z)
    (hdir : z.isDir) (hdx : d ≠ x) (hout : ¬Under t.parent x d) {name : List UInt8}
    (hname : ∀ i w, i ≠ x → t i = some w → w.parent = some d → w.name ≠ name) :
    Sound (update t x (some { y with parent := some d, name := name })) n :=
  h.moveTo hx hxf hd (.inr hdir) hdx hout fun _ => hname

/-- **A file is moved to delete-pending.** -/
theorem divert (h : Sound t n) (hx : t x = some y) (hxf : ¬Fixed x) :
    Sound (update t x (some { y with parent := some DELETE_PENDING_ID })) n := by
  obtain ⟨z, hz, -⟩ := h.fixed DELETE_PENDING_ID (.inr rfl)
  exact h.moveTo hx hxf hz (.inl rfl) (fun heq => hxf (.inr heq.symm))
    (not_under_of_parent_eq_none (h.parent_fixed (.inr rfl))) fun hne => absurd rfl hne

end Sound

end Tree

end Xrdp.Chansrv
