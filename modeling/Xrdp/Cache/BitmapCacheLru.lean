import Xrdp.Lib.LruCache
import Xrdp.Cache.LruChain

/-!
# The bitmap cache is an LRU cache keyed by content

* `Buckets` — every item that holds a bitmap is once in the list of its crc, and in no other.
* `Represents` — a cache of the program stands for an `Lru` of bitmap keys.
* `addToCache_spec` — adding a bitmap is an access to its key.
-/

namespace Xrdp.Cache

open DLinks LruCache

/-- What a bitmap is recognised by. -/
structure BitmapKey where
  crc16 : UInt16
  crc32 : Int
  bpp : Int
  width : Int
  height : Int
  deriving DecidableEq

def XrdpBitmap.key (b : XrdpBitmap) : BitmapKey := ⟨b.crc16, b.crc32, b.bpp, b.width, b.height⟩

theorem compareWithCrc32_iff {b1 : Option XrdpBitmap} {b2 : XrdpBitmap} :
    compareWithCrc32 b1 b2 = true ↔ ∃ b, b1 = some b ∧ b.crc32 = b2.crc32 ∧ b.bpp = b2.bpp ∧
      b.width = b2.width ∧ b.height = b2.height := by
  cases b1 <;> simp [compareWithCrc32]

/-! ## The crc lists -/

/-- Item `i` is once in the list of the crc `crc i`, and in no other. -/
structure Buckets (crc16 : Buf List16) (crc : Nat → Option UInt16) : Prop where
  size : crc16.size = 64 * 1024
  wf : ∀ k : UInt16, (crc16.cells k.toNat).Wf
  once : ∀ (k : UInt16) i, (crc16.cells k.toNat).live.count i = if crc i = some k then 1 else 0

section

variable {crc16 : Buf List16} {crc : Nat → Option UInt16}

theorem buckets_reset : Buckets BitmapCache.reset.crc16 fun _ => none :=
  ⟨rfl, fun _ => List16.init_wf, fun _ _ => rfl⟩

theorem Buckets.lt (h : Buckets crc16 crc) (k : UInt16) : k.toNat < crc16.size :=
  h.size ▸ k.toNat_lt

theorem Buckets.mem_iff (h : Buckets crc16 crc) {k : UInt16} {i : Nat} :
    i ∈ (crc16.cells k.toNat).live ↔ crc i = some k := by
  rw [← List.count_pos_iff, h.once]
  split <;> simp_all

/-- One list replaced by another. -/
theorem Buckets.set (h : Buckets crc16 crc) {k : UInt16} {ll : List16} (hw : ll.Wf) {i : Nat}
    {crc' : Option UInt16} (hi : ll.live.count i = if crc' = some k then 1 else 0)
    (hout : ∀ j ≠ i, ll.live.count j = (crc16.cells k.toNat).live.count j)
    (hother : ∀ l ≠ k, (crc i = some l ↔ crc' = some l)) :
    Buckets { crc16 with cells := fun j => if j = k.toNat then ll else crc16.cells j }
      (Function.update crc i crc') := by
  have hcell : ∀ l : UInt16, (if l.toNat = k.toNat then ll else crc16.cells l.toNat) =
      if l = k then ll else crc16.cells l.toNat := by
    intro l
    simp only [UInt16.toNat_inj]
  refine ⟨h.size, fun l => ?_, fun l j => ?_⟩
  · simp only [hcell]
    split
    · exact hw
    · exact h.wf l
  · simp only [hcell]
    rcases eq_or_ne j i with rfl | hji
    · rw [Function.update_self]
      split
      · rename_i hl
        rw [hi, hl]
      · rename_i hl
        rw [h.once, if_congr (hother l hl) rfl rfl]
    · rw [Function.update_of_ne hji, ← h.once l j]
      split
      · rename_i hl
        rw [hout j hji, hl]
      · rfl

/-- An item taken out of its list. -/
theorem Buckets.remove (h : Buckets crc16 crc) {k : UInt16} {i : Nat} (hi : crc i = some k)
    (h16 : i < 2 ^ 16) :
    ∃ iig ll, (crc16.cells k.toNat).indexOf i = .ok iig ∧
      (crc16.cells k.toNat).removeItem iig = .ok ll ∧
      Buckets { crc16 with cells := fun j => if j = k.toNat then ll else crc16.cells j }
        (Function.update crc i none) := by
  obtain ⟨j, hj, hlt, hget⟩ := List16.indexOf_spec (h.wf k) h16 (h.mem_iff.2 hi)
  obtain ⟨ll, hll, hw, hlive⟩ := List16.removeItem_spec (h.wf k) hlt
  have hperm := List.getElem_cons_eraseIdx_perm hlt
  rw [List.getElem?_eq_getElem hlt, Option.some_inj] at hget
  rw [hget, ← hlive] at hperm
  refine ⟨j, ll, hj, hll, h.set hw ?_ (fun l hl => ?_) fun l hl => ?_⟩
  · have := hperm.count_eq i
    rw [List.count_cons_self, h.once, if_pos hi] at this
    rw [if_neg (by simp)]
    omega
  · rw [← hperm.count_eq l, List.count_cons_of_ne hl.symm]
  · rw [hi]
    simp [hl.symm]

/-- An item put into a list. -/
theorem Buckets.add (h : Buckets crc16 crc) (k : UInt16) {i : Nat} (hi : crc i = none)
    (h16 : i < 2 ^ 16) :
    ∃ ll, (crc16.cells k.toNat).addItem i = .ok ll ∧
      Buckets { crc16 with cells := fun j => if j = k.toNat then ll else crc16.cells j }
        (Function.update crc i (some k)) := by
  obtain ⟨ll, hll, hw, hlive⟩ := List16.addItem_spec (h.wf k) h16
  refine ⟨ll, hll, h.set hw ?_ (fun l hl => ?_) fun l hl => ?_⟩
  · rw [hlive, List.count_append, h.once, hi]
    simp
  · rw [hlive, List.count_append]
    simp [hl.symm]
  · rw [hi]
    simp [hl.symm]

end

/-! ## The cache -/

/-- `row` stands for `c`: same contents, each bitmap listed under its crc, and the chain in the
order of use, unless it has not been used since it was reset. -/
structure Represents (row : BitmapCache) {n : Nat} (c : Lru BitmapKey n) : Prop where
  size : row.bitmapItems.size = XRDP_MAX_BITMAP_CACHE_IDX
  held : ∀ i, c.held i = (row.bitmapItems.cells i).bitmap.map XrdpBitmap.key
  lruIndex : ∀ i b, (row.bitmapItems.cells i).bitmap = some b →
    (row.bitmapItems.cells i).lruIndex = link i
  buckets : Buckets row.crc16 fun i => (row.bitmapItems.cells i).bitmap.map XrdpBitmap.crc16
  chain : row.lruReset = false → Linked row c.order
  fresh : row.lruReset = true → row.bitmapLrus = resetLrus ∧ row.lruHead = 0 ∧
    c.order = List.range n ∧ ∀ i, (row.bitmapItems.cells i).bitmap = none

theorem represents_reset (n : Nat) : Represents .reset (Lru.empty BitmapKey n) where
  size := rfl
  held _ := rfl
  lruIndex _ _ h := by cases h
  buckets := buckets_reset
  chain h := by cases h
  fresh _ := ⟨rfl, rfl, rfl, fun _ => rfl⟩

section

variable {row : BitmapCache} {n : Nat} {c : Lru BitmapKey n}

theorem Represents.lt (h : Represents row c) {i : Nat} {b : XrdpBitmap}
    (hb : (row.bitmapItems.cells i).bitmap = some b) : i < n :=
  c.held_lt i b.key (by rw [h.held, hb]; rfl)

/-- The search of a crc list. -/
theorem findBitmap_loop {ll : List16} (hw : ll.Wf) (hlt : ∀ i ∈ ll.live, i < row.bitmapItems.size)
    (bitmap : XrdpBitmap) (todo : Nat) {jndex : Nat} (hj : jndex + todo = ll.count) :
    ∃ found, findBitmap row ll bitmap todo jndex = .ok found ∧
      (∀ i, found = some i → i ∈ ll.live ∧
        compareWithCrc32 (row.bitmapItems.cells i).bitmap bitmap = true) ∧
      (found = none → ∀ i ∈ ll.live.drop jndex,
        compareWithCrc32 (row.bitmapItems.cells i).bitmap bitmap = false) := by
  induction todo generalizing jndex with
  | zero =>
    refine ⟨none, rfl, by simp, fun _ i hi => ?_⟩
    rw [List.drop_eq_nil_of_le (by simp; omega)] at hi
    cases hi
  | succ todo ih =>
    have hlen : jndex < ll.live.length := by simp; omega
    have hmem := List.getElem_mem hlen
    rw [findBitmap, List16.getItem_ok hw hlen, Run.ok_bind, Buf.read_ok (hlt _ hmem), Run.ok_bind]
    split
    · rename_i hcmp
      refine ⟨_, rfl, fun i hi => ?_, by simp⟩
      obtain rfl := Option.some_inj.1 hi
      exact ⟨hmem, hcmp⟩
    · rename_i hcmp
      obtain ⟨found, hok, hsome, hnone⟩ := @ih (jndex + 1) (by omega)
      refine ⟨found, hok, hsome, fun hf i hi => ?_⟩
      rw [List.drop_eq_getElem_cons hlen] at hi
      rcases List.mem_cons.1 hi with rfl | hi
      · exact Bool.eq_false_iff.2 hcmp
      · exact hnone hf i hi

/-- **The search of the list of a bitmap's crc finds its key.** -/
theorem findBitmap_spec (h : Represents row c) (hmax : n ≤ XRDP_MAX_BITMAP_CACHE_IDX)
    (bitmap : XrdpBitmap) :
    ∃ found, findBitmap row (row.crc16.cells bitmap.crc16.toNat) bitmap
        (row.crc16.cells bitmap.crc16.toNat).count 0 = .ok found ∧
      (∀ i, found = some i → c.held i = some bitmap.key) ∧
      (found = none → ∀ i, c.held i ≠ some bitmap.key) := by
  have hin : ∀ {i}, i ∈ (row.crc16.cells bitmap.crc16.toNat).live →
      ∃ b, (row.bitmapItems.cells i).bitmap = some b ∧ b.crc16 = bitmap.crc16 := by
    intro i hi
    simpa using h.buckets.mem_iff.1 hi
  obtain ⟨found, hok, hsome, hnone⟩ := findBitmap_loop (h.buckets.wf bitmap.crc16)
    (fun i hi => by
      obtain ⟨b, hb, -⟩ := hin hi
      have := h.lt hb
      rw [h.size]
      omega) bitmap (row.crc16.cells bitmap.crc16.toNat).count (Nat.zero_add _)
  refine ⟨found, hok, fun i hi => ?_, fun hf i hi => ?_⟩
  · obtain ⟨hmem, hcmp⟩ := hsome i hi
    obtain ⟨b, hb, hcrc⟩ := hin hmem
    obtain ⟨b', hb', h1, h2, h3, h4⟩ := compareWithCrc32_iff.1 hcmp
    obtain rfl : b = b' := Option.some_inj.1 (hb.symm.trans hb')
    rw [h.held, hb, Option.map_some, XrdpBitmap.key, XrdpBitmap.key, hcrc, h1, h2, h3, h4]
  · rw [h.held, Option.map_eq_some_iff] at hi
    obtain ⟨b, hb, hkey⟩ := hi
    simp only [XrdpBitmap.key, BitmapKey.mk.injEq] at hkey
    have hmem : i ∈ (row.crc16.cells bitmap.crc16.toNat).live := by
      rw [h.buckets.mem_iff, hb, Option.map_some, hkey.1]
    have := hnone hf i (by simpa using hmem)
    rw [compareWithCrc32_iff.2 ⟨b, hb, hkey.2⟩] at this
    cases this

theorem link_toNat (i : Nat) : (link i).toNat = i := Int.toNat_natCast i

/-- **A bitmap that is found** is stamped and becomes the most recently used. -/
theorem touchItem_spec (h : Represents row c) (hmax : n ≤ XRDP_MAX_BITMAP_CACHE_IDX)
    (stamp : Int) {k : BitmapKey} {i : Nat} (hi : c.held i = some k) (c' : Lru BitmapKey n)
    (horder : c'.order = c.order.erase i ++ [i]) (hheld : c'.held = c.held) :
    ∃ item bitmapItems row', row.bitmapItems.read i = .ok item ∧
      row.bitmapItems.write i { item with stamp } = .ok bitmapItems ∧
      xrdpCacheUpdateLru { row with bitmapItems } item.lruIndex = .ok row' ∧
      Represents row' c' := by
  have hlt := c.held_lt i k hi
  have hin : i < row.bitmapItems.size := by rw [h.size]; omega
  obtain ⟨b, hb, hkey⟩ := Option.map_eq_some_iff.1 ((h.held i).symm.trans hi)
  have hreset : row.lruReset = false := by
    rw [Bool.eq_false_iff]
    intro hr
    rw [(h.fresh hr).2.2.2 i] at hb
    cases hb
  have hlinked := h.chain hreset
  set item := row.bitmapItems.cells i with hitem
  set bitmapItems : Buf XrdpBitmapItem := { row.bitmapItems with
    cells := fun j => if j = i then { item with stamp } else row.bitmapItems.cells j }
    with hitems
  have hbitmap : ∀ j, (bitmapItems.cells j).bitmap = (row.bitmapItems.cells j).bitmap := by
    intro j
    simp only [hitems]
    split <;> simp_all
  have hindex : ∀ j, (bitmapItems.cells j).lruIndex = (row.bitmapItems.cells j).lruIndex := by
    intro j
    simp only [hitems]
    split <;> simp_all
  obtain ⟨row', hok, hl', hsame⟩ := @updateLru_spec { row with bitmapItems } c.order
    ⟨hlinked.size, hlinked.head, hlinked.tail, hlinked.seg⟩ c.nodup
    (fun j hj => by have := c.mem_order.1 hj; omega) i (c.mem_order.2 hlt)
  refine ⟨item, bitmapItems, row', Buf.read_ok hin, Buf.write_ok hin _, ?_, ?_⟩
  · rw [h.lruIndex i b hb]
    exact hok
  · refine ⟨?_, fun j => ?_, fun j b' hb' => ?_, ?_, fun _ => horder ▸ hl', fun hr => ?_⟩
    · rw [hsame.items]
      exact h.size
    · rw [hheld, h.held, hsame.items]
      simp only [hbitmap]
    · rw [hsame.items] at hb' ⊢
      simp only [hbitmap] at hb'
      simp only [hindex]
      exact h.lruIndex j b' hb'
    · rw [hsame.crc16, hsame.items]
      simp only [hbitmap]
      exact h.buckets
    · rw [hsame.reset] at hr
      exact absurd hreset (by simp only at hr; simp [hr])

/-- The old bitmap leaves its crc list. -/
theorem removeOld_spec {row : BitmapCache} {i : Nat} (hi : i < row.bitmapItems.size)
    (h16 : i < 2 ^ 16)
    (h : Buckets row.crc16 fun i => (row.bitmapItems.cells i).bitmap.map XrdpBitmap.crc16) :
    ∃ crc16, removeOld row (link i) = .ok { row with crc16 } ∧
      Buckets crc16 (Function.update
        (fun i => (row.bitmapItems.cells i).bitmap.map XrdpBitmap.crc16) i none) := by
  rw [removeOld, show at' row.bitmapItems (link i) = _ from at'_ok hi, Run.ok_bind]
  cases hb : (row.bitmapItems.cells i).bitmap with
  | none =>
    refine ⟨row.crc16, rfl, ?_⟩
    have hnone : (none : Option UInt16) = (row.bitmapItems.cells i).bitmap.map XrdpBitmap.crc16 := by
      rw [hb]
      rfl
    rw [hnone, Function.update_eq_self i fun i =>
      (row.bitmapItems.cells i).bitmap.map XrdpBitmap.crc16]
    exact h
  | some lbm =>
    have hcrc : (row.bitmapItems.cells i).bitmap.map XrdpBitmap.crc16 = some lbm.crc16 := by
      rw [hb]
      rfl
    obtain ⟨iig, ll, hiig, hll, hb'⟩ := h.remove hcrc h16
    simp only [Buf.read_ok (h.lt lbm.crc16), Run.ok_bind, link_toNat, hiig, hll,
      Buf.write_ok (h.lt lbm.crc16)]
    exact ⟨_, rfl, hb'⟩

/-- **A new bitmap takes the item least recently used.** -/
theorem replaceItem_spec (h : Represents row c) (hn : 0 < n)
    (hmax : n ≤ XRDP_MAX_BITMAP_CACHE_IDX) (stamp : Int) (bitmap : XrdpBitmap)
    (c' : Lru BitmapKey n) (horder : c'.order = c.order.erase c.oldest ++ [c.oldest])
    (hheld : c'.held = Function.update c.held c.oldest (some bitmap.key)) :
    ∃ row₁ row₂ row₃ row', checkReset row n = .ok row₁ ∧ row₁.lruHead = link c.oldest ∧
      xrdpCacheUpdateLru row₁ (link c.oldest) = .ok row₂ ∧
      removeOld row₂ (link c.oldest) = .ok row₃ ∧
      setItem row₃ (link c.oldest) ⟨stamp, link c.oldest, some bitmap⟩ bitmap = .ok row' ∧
      Represents row' c' := by
  have hlt := c.oldest_lt hn
  have hIDX : XRDP_MAX_BITMAP_CACHE_IDX = 2000 := rfl
  obtain ⟨rest, hrest⟩ := c.order_eq_cons hn
  obtain ⟨row₁, hok₁, hl₁, hitems₁, hcrc₁, hreset₁⟩ : ∃ row₁, checkReset row n = .ok row₁ ∧
      Linked row₁ c.order ∧ row₁.bitmapItems = row.bitmapItems ∧ row₁.crc16 = row.crc16 ∧
      row₁.lruReset = false := by
    cases hr : row.lruReset with
    | false =>
      refine ⟨row, ?_, h.chain hr, rfl, rfl, hr⟩
      rw [checkReset, hr, if_neg Bool.false_ne_true]
      rfl
    | true =>
      obtain ⟨hlrus, hhead, hrange, -⟩ := h.fresh hr
      rw [hrange]
      exact checkReset_spec hr hlrus hhead hn hmax
  obtain ⟨row₂, hok₂, hl₂, hsame⟩ := updateLru_spec hl₁ c.nodup
    (fun j hj => by have := c.mem_order.1 hj; omega) (c.mem_order.2 hlt)
  have hbuckets : Buckets row₂.crc16 fun i =>
      (row₂.bitmapItems.cells i).bitmap.map XrdpBitmap.crc16 := by
    rw [hsame.crc16, hsame.items, hcrc₁, hitems₁]
    exact h.buckets
  have hin : c.oldest < row₂.bitmapItems.size := by
    rw [hsame.items, hitems₁, h.size]
    omega
  obtain ⟨crc16, hok₃, hb₃⟩ := removeOld_spec hin (by omega) hbuckets
  obtain ⟨ll, hll, hb₄⟩ := hb₃.add bitmap.crc16 (Function.update_self ..) (by omega)
  rw [Function.update_idem] at hb₄
  refine ⟨row₁, row₂, _, { row₂ with
    bitmapItems := { row₂.bitmapItems with
      cells := fun j => if j = c.oldest then ⟨stamp, link c.oldest, some bitmap⟩
        else row₂.bitmapItems.cells j }
    crc16 := { crc16 with
      cells := fun j => if j = bitmap.crc16.toNat then ll else crc16.cells j } },
    hok₁, ?_, hok₂, hok₃, ?_, ?_⟩
  · rw [hl₁.head, hrest]
    rfl
  · rw [setItem, show setAt row₂.bitmapItems (link c.oldest) _ = _ from setAt_ok hin _]
    simp only [Run.ok_bind, Buf.read_ok (hb₃.lt bitmap.crc16), link_toNat, hll,
      Buf.write_ok (hb₃.lt bitmap.crc16)]
    rfl
  · refine ⟨?_, fun j => ?_, fun j b hb => ?_, ?_, fun _ => ?_, fun hr => ?_⟩
    · rw [← h.size, ← hitems₁, ← hsame.items]
    · rw [hheld]
      rcases eq_or_ne j c.oldest with rfl | hne
      · simp
      · simp only [Function.update_of_ne hne, if_neg hne, hsame.items, hitems₁]
        exact h.held j
    · simp only at hb ⊢
      split at hb
      · rename_i heq
        rw [if_pos heq, heq]
      · rename_i hne
        rw [if_neg hne]
        rw [hsame.items, hitems₁] at hb ⊢
        exact h.lruIndex j b hb
    · convert hb₄ using 1
      funext j
      rcases eq_or_ne j c.oldest with rfl | hne
      · simp
      · simp only [Function.update_of_ne hne, if_neg hne]
    · rw [horder]
      exact ⟨hl₂.size, hl₂.head, hl₂.tail, hl₂.seg⟩
    · simp only [hsame.reset, hreset₁] at hr
      cases hr

/-- **Adding a bitmap to a cache is an access to its key.** -/
theorem addToCache_spec (h : Represents row c) (hn : 0 < n)
    (hmax : n ≤ XRDP_MAX_BITMAP_CACHE_IDX) (stamp : Int) (bitmap : XrdpBitmap) :
    ∃ row', addToCache row n stamp bitmap =
        .ok (link (c.access hn bitmap.key).1, (c.access hn bitmap.key).2.1, row') ∧
      Represents row' (c.access hn bitmap.key).2.2 := by
  obtain ⟨found, hfind, hsome, hnone⟩ := findBitmap_spec h hmax bitmap
  rw [addToCache, Buf.read_ok (h.buckets.lt bitmap.crc16), Run.ok_bind, hfind, Run.ok_bind]
  cases found with
  | some i =>
    obtain ⟨h1, h2, h3, h4⟩ := Lru.access_hit hn (hsome i rfl)
    obtain ⟨item, bitmapItems, row', hitem, hwrite, hupd, hrep⟩ :=
      touchItem_spec h hmax stamp (hsome i rfl) _ h3 h4
    refine ⟨row', ?_, hrep⟩
    simp only [hitem, Run.ok_bind, hwrite, hupd, h1, h2]
    rfl
  | none =>
    obtain ⟨h1, h2, h3, h4⟩ := Lru.access_miss hn (hnone rfl)
    obtain ⟨row₁, row₂, row₃, row', hok₁, hhead, hok₂, hok₃, hok₄, hrep⟩ :=
      replaceItem_spec h hn hmax stamp bitmap _ h3 h4
    refine ⟨row', ?_, hrep⟩
    simp only [hok₁, Run.ok_bind, hhead, hok₂, hok₃, hok₄, h1, h2]
    rfl

end

end Xrdp.Cache
