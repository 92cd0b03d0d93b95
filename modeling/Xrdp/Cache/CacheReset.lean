import Xrdp.Cache.AllCaches
import Xrdp.Lib.Runs

/-!
# A reset cache against a fresh one

* `accepted_entries` — an accepted client has no more entries than there is room for, so a reset
  sets up the bitmap caches as the creation does: `reset_eq_forget`.
* `needsDelList` — the operations that look at the list of deletions, which a reset cache has not.
* `step_forget`, `step_needs` — without the list the other operations do what they do with it, and
  these stop.
* `behaviour_forget_iff` — from one operation to all sequences.
* `frees_all_iff` — what a reset does not free.
* `reset_as_fresh_iff` — when a reset cache is as good as a fresh one.
-/

namespace Xrdp.Cache

open Runs

/-! ## What a client says -/

/-- The entries of each bitmap cache fit. -/
structure ClientCaches.EntriesFit (info : ClientCaches) : Prop where
  cache1 : clipEntries info.cache1Entries = info.cache1Entries
  cache2 : clipEntries info.cache2Entries = info.cache2Entries
  cache3 : clipEntries info.cache3Entries = info.cache3Entries

theorem clipEntries_capsEntries (i : Int) : clipEntries (capsEntries i) = capsEntries i := by
  unfold clipEntries capsEntries XRDP_MAX_BITMAP_CACHE_IDX
  omega

/-- A capability set keeps the entries of all caches, or clips them. -/
theorem xrdpCapsProcess_entries {info : ClientCaches} (h : info.EntriesFit) (type : CapsType)
    (s : List UInt8) : (xrdpCapsProcess info s type).EntriesFit := by
  cases type with
  | order =>
    unfold xrdpCapsProcess xrdpCapsProcessOrder
    dsimp only
    split
    · exact h
    · split
      · exact ⟨h.cache1, h.cache2, h.cache3⟩
      · exact h
  | bitmapcache =>
    unfold xrdpCapsProcess xrdpCapsProcessBmpcache
    dsimp only
    split
    · exact h
    · constructor <;> exact clipEntries_capsEntries _
  | bitmapcacheRev2 =>
    unfold xrdpCapsProcess xrdpCapsProcessBmpcache2
    dsimp only
    split
    · exact h
    · constructor <;> exact clipEntries_capsEntries _
  | pointer =>
    unfold xrdpCapsProcess xrdpCapsProcessPointer
    dsimp only
    split
    · exact h
    · exact ⟨h.cache1, h.cache2, h.cache3⟩

theorem accepted_entries {info : ClientCaches} (h : info.Accepted) : info.EntriesFit := by
  induction h with
  | default useBitmapComp bpp => exact ⟨rfl, rfl, rfl⟩
  | caps _ type s ih => exact xrdpCapsProcess_entries ih type s
  | depth _ bpp ih => exact ⟨ih.cache1, ih.cache2, ih.cache3⟩

/-! ## Without the list -/

/-- A cache without its list of deletions. -/
def XrdpCaches.forget (s : XrdpCaches) : XrdpCaches := { s with xrdpOsDelList := none }

/-- **A reset cache is a fresh cache without the list.** -/
theorem reset_eq_forget {info : ClientCaches} (h : info.Accepted) (s : XrdpCaches) :
    (xrdpCachesReset s info).2 = (xrdpCachesCreate info).forget := by
  obtain ⟨h1, h2, h3⟩ := accepted_entries h
  have hbitmaps : xrdpCacheReset info.toClientInfo = xrdpCacheCreate info.toClientInfo := by
    unfold xrdpCacheReset xrdpCacheCreate
    rw [h1, h2, h3]
  unfold xrdpCachesReset
  rw [hbitmaps]
  rfl

theorem forget_of_none {s : XrdpCaches} (h : s.xrdpOsDelList = none) : s.forget = s := by
  cases s
  cases h
  rfl

/-- The bitmap of an item, if there is one. -/
def XrdpCaches.osBitmap (s : XrdpCaches) (rdpindex : Int) : Option OsBitmapItem :=
  if osIndex rdpindex ∧ rdpindex.toNat < s.osBitmapItems.size then
    s.osBitmapItems.cells rdpindex.toNat
  else none

/-- The operation looks at the list of deletions: a bitmap that is at the client is removed, or one
that is not is created there. -/
def needsDelList (s : XrdpCaches) : CacheOp → Bool
  | .removeOsBitmap rdpindex => (s.osBitmap rdpindex).any (·.tabStop)
  | .createOsSurface rdpindex => (s.osBitmap rdpindex).any (!·.tabStop)
  | _ => false

/-- What a step comes to without the list. -/
def ForgetStep (r r' : Run (CacheReply × XrdpCaches)) : Prop :=
  r' = r.map fun p => (p.1, p.2.forget)

/-- What is done first needs no list. -/
theorem ForgetStep.bind {α : Type} {x : Run α} {k k' : α → Run (CacheReply × XrdpCaches)}
    (h : ∀ a, x = .ok a → ForgetStep (k a) (k' a)) : ForgetStep (x >>= k) (x >>= k') := by
  cases x with
  | error e => rfl
  | ok a => exact h a rfl

section

variable (s : XrdpCaches)

theorem forget_addPalette (screenBpp : Int) (palette : Option Palette) :
    ForgetStep (xrdpCacheAddPalette s screenBpp palette)
      (xrdpCacheAddPalette s.forget screenBpp palette) := by
  unfold xrdpCacheAddPalette
  cases palette with
  | none => rfl
  | some palette =>
    dsimp only
    split
    · rfl
    · exact .bind fun _ _ => rfl

theorem forget_addOsBitmap (bitmap : OsBitmapItem) (rdpindex : Int) :
    ForgetStep (xrdpCacheAddOsBitmap s bitmap rdpindex)
      (xrdpCacheAddOsBitmap s.forget bitmap rdpindex) := by
  unfold xrdpCacheAddOsBitmap
  split
  · rfl
  · exact .bind fun _ _ => rfl

theorem forget_getOsBitmap (rdpindex : Int) :
    ForgetStep (xrdpCacheGetOsBitmap s rdpindex) (xrdpCacheGetOsBitmap s.forget rdpindex) := by
  unfold xrdpCacheGetOsBitmap
  split
  · rfl
  · exact .bind fun _ _ => rfl

end

/-! ## The two operations that look at the list -/

section

variable {s : XrdpCaches} {rdpindex : Int}

/-- A bitmap that is read is the one of the item. -/
theorem osBitmap_of_read {item : Option OsBitmapItem} (hindex : ¬ osIndex rdpindex = false)
    (hread : s.osBitmapItems.read rdpindex.toNat = .ok item) : s.osBitmap rdpindex = item := by
  obtain ⟨hsize, rfl⟩ := Buf.read_eq_ok hread
  exact if_pos ⟨Bool.eq_true_of_not_eq_false hindex, hsize⟩

theorem forget_removeOsBitmap (h : needsDelList s (.removeOsBitmap rdpindex) = false) :
    ForgetStep (xrdpCacheRemoveOsBitmap s rdpindex)
      (xrdpCacheRemoveOsBitmap s.forget rdpindex) := by
  unfold xrdpCacheRemoveOsBitmap
  split
  · rfl
  rename_i hindex
  refine .bind fun item hread => ?_
  rw [needsDelList, osBitmap_of_read hindex hread] at h
  cases item with
  | none => rfl
  | some bitmap =>
    -- the bitmap is not at the client, so the list stays as it is
    have htab : bitmap.tabStop = false := h
    simp only [derefOpt, XrdpCaches.noteDeletion, htab, Bool.false_eq_true, if_false, Run.pure_eq,
      Run.ok_bind]
    exact .bind fun _ _ => rfl

theorem forget_createOsSurface (h : needsDelList s (.createOsSurface rdpindex) = false) :
    ForgetStep (xrdpPainterCreateOsSurface s rdpindex)
      (xrdpPainterCreateOsSurface s.forget rdpindex) := by
  unfold xrdpPainterCreateOsSurface
  split
  · rfl
  rename_i hindex
  refine .bind fun item hread => ?_
  rw [needsDelList, osBitmap_of_read hindex hread] at h
  cases item with
  | none => rfl
  | some bitmap =>
    have htab : bitmap.tabStop = true := by simpa using h
    simp only [XrdpCaches.sendCreate, htab, if_true]
    rfl

/-- The bitmap that needs the list. -/
theorem exists_osBitmap {p : OsBitmapItem → Bool} (h : (s.osBitmap rdpindex).any p) :
    ∃ bitmap, osIndex rdpindex ∧ rdpindex.toNat < s.osBitmapItems.size ∧
      s.osBitmapItems.cells rdpindex.toNat = some bitmap ∧ p bitmap := by
  unfold XrdpCaches.osBitmap at h
  split at h
  · rename_i hitem
    cases hcell : s.osBitmapItems.cells rdpindex.toNat with
    | none => simp [hcell] at h
    | some bitmap => exact ⟨bitmap, hitem.1, hitem.2, rfl, by simpa [hcell] using h⟩
  · cases h

/-- A bitmap at the client is removed with the list only. -/
theorem removeOsBitmap_needs (h : needsDelList s (.removeOsBitmap rdpindex)) :
    xrdpCacheRemoveOsBitmap s.forget rdpindex = .error .outOfBounds ∧
      (s.xrdpOsDelList ≠ none → ∃ r, xrdpCacheRemoveOsBitmap s rdpindex = .ok r) := by
  obtain ⟨bitmap, hindex, hsize, hcell, htab⟩ := exists_osBitmap h
  have hread : s.osBitmapItems.read rdpindex.toNat = .ok (some bitmap) := by
    rw [Buf.read_ok hsize, hcell]
  constructor
  · simp [xrdpCacheRemoveOsBitmap, XrdpCaches.forget, hindex, hread, derefOpt,
      XrdpCaches.noteDeletion, htab]
  · intro hsome
    obtain ⟨delList, hdelList⟩ := Option.ne_none_iff_exists'.1 hsome
    simp [xrdpCacheRemoveOsBitmap, hindex, hread, derefOpt, XrdpCaches.noteDeletion, htab,
      hdelList, Buf.write_ok hsize]

/-- A bitmap is created at the client with the list only. -/
theorem createOsSurface_needs (h : needsDelList s (.createOsSurface rdpindex)) :
    xrdpPainterCreateOsSurface s.forget rdpindex = .error .outOfBounds ∧
      (s.xrdpOsDelList ≠ none → ∃ r, xrdpPainterCreateOsSurface s rdpindex = .ok r) := by
  obtain ⟨bitmap, hindex, hsize, hcell, htab⟩ := exists_osBitmap h
  have hread : s.osBitmapItems.read rdpindex.toNat = .ok (some bitmap) := by
    rw [Buf.read_ok hsize, hcell]
  have htab' : bitmap.tabStop = false := by simpa using htab
  constructor
  · simp [xrdpPainterCreateOsSurface, XrdpCaches.forget, hindex, hread, derefOpt,
      XrdpCaches.sendCreate, htab']
  · intro hsome
    obtain ⟨delList, hdelList⟩ := Option.ne_none_iff_exists'.1 hsome
    simp [xrdpPainterCreateOsSurface, hindex, hread, derefOpt, XrdpCaches.sendCreate, htab',
      hdelList, Buf.write_ok hsize]

end

section

variable {s : XrdpCaches} {op : CacheOp}

/-- **What needs no list does the same without it.** -/
theorem step_forget (h : needsDelList s op = false) :
    s.forget.step op = (s.step op).map fun p => (p.1, p.2.forget) := by
  change ForgetStep (s.step op) (s.forget.step op)
  cases op with
  | addPalette screenBpp palette => exact forget_addPalette s screenBpp palette
  | addOsBitmap bitmap rdpindex => exact forget_addOsBitmap s bitmap rdpindex
  | removeOsBitmap rdpindex => exact forget_removeOsBitmap h
  | getOsBitmap rdpindex => exact forget_getOsBitmap s rdpindex
  | createOsSurface rdpindex => exact forget_createOsSurface h
  | reset info => rfl
  | addBitmap req => exact ForgetStep.bind fun _ _ => rfl
  | addChar fontItem => exact ForgetStep.bind fun _ _ => rfl
  | addPointer item => exact ForgetStep.bind fun _ _ => rfl
  | addPointerStatic item index => exact ForgetStep.bind fun _ _ => rfl
  | addBrush pattern => exact ForgetStep.bind fun _ _ => rfl

/-- **What needs the list stops without it**, and goes on with it. -/
theorem step_needs (h : needsDelList s op) : s.forget.step op = .error .outOfBounds ∧
    (s.xrdpOsDelList ≠ none → ∃ r, s.step op = .ok r) := by
  cases op with
  | removeOsBitmap rdpindex => exact removeOsBitmap_needs h
  | createOsSurface rdpindex => exact createOsSurface_needs h
  | _ => exact absurd h Bool.false_ne_true

end

/-! ## From one operation to all sequences -/

/-- An operation has this result, whatever it returns. -/
def Next (s : XrdpCaches) (op : CacheOp) (s' : XrdpCaches) : Prop :=
  ∃ reply, s.step op = .ok (reply, s')

/-- An operation looks at the list of deletions only if there is none to look at. -/
def SparesDelList (s : XrdpCaches) (op : CacheOp) : Prop :=
  s.xrdpOsDelList = none ∨ needsDelList s op = false

/-- Without a list there is never one again. -/
theorem next_none {s s' : XrdpCaches} {op : CacheOp} (h : s.xrdpOsDelList = none)
    (hnext : Next s op s') : s'.xrdpOsDelList = none := by
  obtain ⟨reply, hstep⟩ := hnext
  rw [← forget_of_none h] at hstep
  by_cases hneeds : needsDelList s op
  · rw [(step_needs hneeds).1] at hstep
    cases hstep
  · rw [step_forget (Bool.eq_false_of_not_eq_true hneeds)] at hstep
    cases hs : s.step op with
    | error e =>
      rw [hs] at hstep
      cases hstep
    | ok r =>
      rw [hs] at hstep
      cases hstep
      rfl

theorem allFit_of_none {s : XrdpCaches} (h : s.xrdpOsDelList = none) (ops : List CacheOp) :
    AllFit Next SparesDelList s ops := by
  induction ops generalizing s with
  | nil => trivial
  | cons op ops ih => exact ⟨.inl h, fun s' hnext => ih (next_none h hnext)⟩

/-- A sequence behaves the same without the list just if no operation looks at it. -/
theorem behaviour_forget_iff (s : XrdpCaches) (ops : List CacheOp) :
    s.forget.behaviour ops = s.behaviour ops ↔ AllFit Next SparesDelList s ops := by
  induction ops generalizing s with
  | nil => exact iff_of_true rfl trivial
  | cons op ops ih =>
    by_cases hnone : s.xrdpOsDelList = none
    · rw [forget_of_none hnone]
      exact iff_of_true rfl (allFit_of_none hnone _)
    by_cases hneeds : needsDelList s op
    · -- without the list the operation has no reply, with it there is one
      obtain ⟨hstuck, hgoes⟩ := step_needs hneeds
      obtain ⟨r, hr⟩ := hgoes hnone
      refine iff_of_false ?_ ?_
      · rw [XrdpCaches.behaviour, XrdpCaches.behaviour, hstuck, hr]
        exact fun h => List.cons_ne_nil _ _ (congrArg Prod.fst h).symm
      · rintro ⟨hfits | hfits, -⟩
        · exact hnone hfits
        · exact Bool.false_ne_true (hfits.symm.trans hneeds)
    · have hspares := Bool.eq_false_of_not_eq_true hneeds
      have hfits : SparesDelList s op := .inr hspares
      rw [AllFit, and_iff_right hfits, XrdpCaches.behaviour, XrdpCaches.behaviour,
        step_forget hspares]
      cases hstep : s.step op with
      | error e =>
        refine iff_of_true rfl ?_
        rintro s' ⟨reply, hok⟩
        rw [hstep] at hok
        cases hok
      | ok r =>
        obtain ⟨reply, s'⟩ := r
        have hnext : ∀ s'', Next s op s'' ↔ s'' = s' := by
          intro s''
          constructor
          · rintro ⟨reply', hok⟩
            rw [hstep] at hok
            cases hok
            rfl
          · rintro rfl
            exact ⟨reply, hstep⟩
        simp only [hnext, forall_eq, ← ih s', Except.map, Prod.ext_iff, List.cons.injEq, true_and]

/-! ## What is left of the old contents -/

/-- Nothing that the cache holds is lost in a reset: no list of deletions, no offscreen bitmap and
no crc list that has had more than four items. -/
structure NothingToLose (s : XrdpCaches) : Prop where
  delList : s.xrdpOsDelList = none
  osBitmaps : ∀ rdpindex < 2000, s.osBitmapItems.cells rdpindex = none
  crcItems : ∀ id, ∀ crc < 64 * 1024, ((s.bitmaps.rows id).crc16.cells crc).maxCount ≤ 4

/-- A reset frees all that the cache holds just if there is nothing else to lose. -/
theorem frees_all_iff (s : XrdpCaches) (info : ClientCaches) :
    (∀ b, s.holds b → (xrdpCachesReset s info).1 b) ↔ NothingToLose s := by
  constructor
  · intro h
    constructor
    · have hfree := h .delList
      simpa [XrdpCaches.holds, xrdpCachesReset, XrdpCaches.resetFrees] using hfree
    · intro rdpindex hlt
      have hfree := h (.osBitmap rdpindex)
      simpa [XrdpCaches.holds, xrdpCachesReset, XrdpCaches.resetFrees, hlt] using hfree
    · intro id crc hlt
      have hfree := h (.crcItems id crc)
      simpa [XrdpCaches.holds, xrdpCachesReset, XrdpCaches.resetFrees, hlt] using hfree
  · rintro ⟨hlist, hos, hcrc⟩ b hb
    cases b with
    | bitmap id idx => exact hb
    | charData item => exact hb
    | osBitmap rdpindex =>
      obtain ⟨hlt, hsome⟩ := of_decide_eq_true hb
      rw [hos rdpindex hlt] at hsome
      cases hsome
    | delList =>
      rw [XrdpCaches.holds, hlist] at hb
      cases hb
    | crcItems id crc =>
      obtain ⟨hlt, hgrown⟩ := of_decide_eq_true hb
      exact absurd hgrown (Nat.not_lt.2 (hcrc id crc hlt))

/-- A reset cache holds nothing. -/
theorem reset_holds_nothing (s : XrdpCaches) (info : ClientCaches) (b : Block) :
    (xrdpCachesReset s info).2.holds b = false := by
  cases b <;> simp [XrdpCaches.holds, xrdpCachesReset, XrdpCaches.zero, xrdpCacheReset,
    BitmapCache.reset, List16.init]

/-! ## The whole -/

/-- A reset leaves a cache that is as good as a fresh one for these operations, and nothing of the
old contents is in it, or lost. -/
structure ResetAsFresh (s : XrdpCaches) (info : ClientCaches) (ops : List CacheOp) : Prop where
  behaviour : (xrdpCachesReset s info).2.behaviour ops = (xrdpCachesCreate info).behaviour ops
  unreachable : ∀ b, (xrdpCachesReset s info).2.holds b = false
  freed : ∀ b, s.holds b → (xrdpCachesReset s info).1 b

/-- **A reset cache is as good as a fresh one** just if the old one held nothing that a reset does
not free, and none of the operations, done on a fresh cache, looks at the list of deletions. -/
theorem reset_as_fresh_iff (s : XrdpCaches) {info : ClientCaches} (h : info.Accepted)
    (ops : List CacheOp) : ResetAsFresh s info ops ↔
      NothingToLose s ∧ AllFit Next SparesDelList (xrdpCachesCreate info) ops := by
  rw [← frees_all_iff s info, ← behaviour_forget_iff, ← reset_eq_forget h s]
  constructor
  · rintro ⟨hbehaviour, -, hfreed⟩
    exact ⟨hfreed, hbehaviour⟩
  · rintro ⟨hfreed, hbehaviour⟩
    exact ⟨hbehaviour, reset_holds_nothing s info, hfreed⟩

/-- A cache that has been reset before, and pointers from then on. -/
theorem reset_as_fresh_twice :
    ResetAsFresh (xrdpCachesReset (xrdpCachesCreate (.default true 24)) (.default true 24)).2
      (.default true 24) [.addPointerStatic ⟨0, 0, fun _ => 0, fun _ => 0, 24⟩ 1] := by
  refine (reset_as_fresh_iff _ (.default true 24) _).2 ⟨⟨rfl, fun _ _ => rfl, fun _ _ _ => ?_⟩, ?_⟩
  · exact Nat.le_refl 4
  · exact ⟨.inr rfl, fun _ _ => trivial⟩

/-- Caches as they come about. -/
inductive XrdpCaches.Reachable : XrdpCaches → Prop where
  | create {info : ClientCaches} (h : info.Accepted) : Reachable (xrdpCachesCreate info)
  | step {s s' : XrdpCaches} {op : CacheOp} (h : Reachable s)
    (hop : ∀ info, op = .reset info → info.Accepted) (hnext : Next s op s') : Reachable s'

/-- A fresh cache is reset, then an offscreen bitmap is added and created at the client, which looks
at a list that is gone. -/
theorem reset_not_fresh : ¬ ∀ s info ops, s.Reachable → info.Accepted →
    ResetAsFresh s info ops := by
  intro h
  have haccepted : (ClientCaches.default true 24).Accepted := .default true 24
  have hfresh := h _ _ [.addOsBitmap ⟨64, 64, false⟩ 0, .createOsSurface 0] (.create haccepted)
    haccepted
  have hstop : some Stuck.outOfBounds = none := congrArg Prod.snd hfresh.behaviour
  cases hstop

end Xrdp.Cache
