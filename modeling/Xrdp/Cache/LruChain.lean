import Xrdp.Lib.DLinks
import Xrdp.Cache.BitmapCache

/-!
# The chain from the least to the most recently used item

* `Linked` — the chain of a cache read from head to tail.
* `updateLru_spec` — `xrdp_cache_update_lru` moves an item of the chain to its end.
* `checkReset_spec` — the chain after a reset is cut to the entries there are.
-/

namespace Xrdp.Cache

open DLinks

/-- The index of an item as a link. -/
def link (i : Nat) : Int := i

/-- The chain of `row`, from head to tail, is `l`. -/
structure Linked (row : BitmapCache) (l : List Nat) : Prop where
  size : row.bitmapLrus.size = XRDP_MAX_BITMAP_CACHE_IDX
  head : row.lruHead = front link l (-1)
  tail : row.lruTail = back link (-1) l
  seg : Seg link (fun i => (row.bitmapLrus.cells i).next)
    (fun i => (row.bitmapLrus.cells i).prev) (-1) l (-1)

/-- Nothing but the chain of a cache has changed. -/
structure SameItems (row row' : BitmapCache) : Prop where
  items : row'.bitmapItems = row.bitmapItems
  crc16 : row'.crc16 = row.crc16
  reset : row'.lruReset = row.lruReset

theorem SameItems.refl (row : BitmapCache) : SameItems row row := ⟨rfl, rfl, rfl⟩

/-! ## Single links -/

section

variable {lrus : Buf XrdpLruItem} {i : Nat}

theorem at'_ok {α : Type} {b : Buf α} {i : Nat} (h : i < b.size) :
    at' b (i : Int) = .ok (b.cells i) := by
  rw [at', if_pos (Int.natCast_nonneg i), Int.toNat_natCast, Buf.read_ok h]

theorem setAt_ok {α : Type} {b : Buf α} {i : Nat} (h : i < b.size) (v : α) :
    setAt b (i : Int) v = .ok { b with cells := fun j => if j = i then v else b.cells j } := by
  rw [setAt, if_pos (Int.natCast_nonneg i), Int.toNat_natCast, Buf.write_ok h]

/-- `lrus` with the link forward of item `i` set. -/
def withNext (lrus : Buf XrdpLruItem) (i : Nat) (v : Int) : Buf XrdpLruItem :=
  { lrus with cells := fun j => if j = i then { lrus.cells i with next := v } else lrus.cells j }

/-- `lrus` with the link back of item `i` set. -/
def withPrev (lrus : Buf XrdpLruItem) (i : Nat) (v : Int) : Buf XrdpLruItem :=
  { lrus with cells := fun j => if j = i then { lrus.cells i with prev := v } else lrus.cells j }

theorem setNext_ok (h : i < lrus.size) (v : Int) :
    setNext lrus (link i) v = .ok (withNext lrus i v) := by
  rw [setNext, link, at'_ok h, Run.ok_bind, setAt_ok h]
  rfl

theorem setPrev_ok (h : i < lrus.size) (v : Int) :
    setPrev lrus (link i) v = .ok (withPrev lrus i v) := by
  rw [setPrev, link, at'_ok h, Run.ok_bind, setAt_ok h]
  rfl

@[simp] theorem withNext_next (v : Int) (j : Nat) :
    ((withNext lrus i v).cells j).next = if j = i then v else (lrus.cells j).next := by
  unfold withNext
  split <;> simp_all

@[simp] theorem withNext_prev (v : Int) (j : Nat) :
    ((withNext lrus i v).cells j).prev = (lrus.cells j).prev := by
  unfold withNext
  simp only
  split <;> simp_all

@[simp] theorem withPrev_next (v : Int) (j : Nat) :
    ((withPrev lrus i v).cells j).next = (lrus.cells j).next := by
  unfold withPrev
  simp only
  split <;> simp_all

@[simp] theorem withPrev_prev (v : Int) (j : Nat) :
    ((withPrev lrus i v).cells j).prev = if j = i then v else (lrus.cells j).prev := by
  unfold withPrev
  split <;> simp_all

end

/-! ## Moving to the end -/

theorem erase_middle {pre suf : List Nat} {i : Nat} (h : (pre ++ i :: suf).Nodup) :
    (pre ++ i :: suf).erase i = pre ++ suf := by
  have hi : i ∉ pre := fun hp => (List.nodup_append.1 h).2.2 i hp i List.mem_cons_self rfl
  rw [List.erase_append_right _ hi, List.erase_cons_head]

/-- The items around one that is not the last. -/
structure Middle (row : BitmapCache) (pre suf : List Nat) (i b t : Nat) : Prop where
  next : (row.bitmapLrus.cells i).next = link b
  first : suf.head? = some b
  last : suf.getLast? = some t
  tail : row.lruTail = link t
  ne : t ≠ i
  prev : (row.bitmapLrus.cells i).prev = back link (-1) pre

theorem Linked.middle {self : BitmapCache} {pre suf : List Nat} {i : Nat}
    (h : Linked self (pre ++ i :: suf)) (hnd : (pre ++ i :: suf).Nodup) (hsuf : suf ≠ []) :
    ∃ b t, Middle self pre suf i b t := by
  obtain ⟨s, t, rfl⟩ := (List.eq_nil_or_concat suf).resolve_left hsuf
  rw [List.concat_eq_append] at *
  obtain ⟨b, hb⟩ : ∃ b, (s ++ [t]).head? = some b := by
    cases s with
    | nil => exact ⟨t, rfl⟩
    | cons a s => exact ⟨a, rfl⟩
  obtain ⟨hprev, hnext, -⟩ := seg_cons.1 (seg_append.1 h.seg).2
  refine ⟨b, t, ?_, hb, by simp, ?_, ?_, hprev⟩
  · refine hnext.trans ?_
    rw [front, hb]
    rfl
  · rw [h.tail, ← List.cons_append, ← List.append_assoc, back_concat]
  · rintro rfl
    have := (List.nodup_append.1 hnd).2.1
    rw [List.nodup_cons] at this
    exact this.1 (by simp)

theorem link_inj {i j : Nat} : link i = link j ↔ i = j := Int.natCast_inj

theorem link_lt {i : Nat} (h : i < XRDP_MAX_BITMAP_CACHE_IDX) :
    ¬(link i < 0 ∨ link i ≥ XRDP_MAX_BITMAP_CACHE_IDX) := by
  unfold link
  omega

/-- **`xrdp_cache_update_lru` moves an item to the end of the chain.** -/
theorem updateLru_spec {self : BitmapCache} {l : List Nat} (h : Linked self l) (hnd : l.Nodup)
    (hlt : ∀ j ∈ l, j < XRDP_MAX_BITMAP_CACHE_IDX) {i : Nat} (hi : i ∈ l) :
    ∃ self', xrdpCacheUpdateLru self (link i) = .ok self' ∧
      Linked self' (l.erase i ++ [i]) ∧ SameItems self self' := by
  obtain ⟨pre, suf, rfl⟩ := List.append_of_mem hi
  rw [erase_middle hnd, xrdpCacheUpdateLru, if_neg (link_lt (hlt i hi))]
  by_cases hsuf : suf = []
  · subst hsuf
    rw [if_pos (by rw [h.tail, back_concat]), List.append_nil]
    exact ⟨self, rfl, h, .refl self⟩
  obtain ⟨b, t, hm⟩ := h.middle hnd hsuf
  have hsize := h.size
  have hin : i < self.bitmapLrus.size := by rw [hsize]; exact hlt i hi
  have hmem : ∀ {j}, j ∈ suf → j < self.bitmapLrus.size := fun {j} hj => by
    rw [hsize]; exact hlt j (by simp [hj])
  have hb := hmem (List.mem_of_mem_head? hm.first)
  have ht := hmem (List.mem_of_getLast? hm.last)
  have hnext := hm.next
  have hprev := hm.prev
  -- the chain afterwards, from what the links are afterwards
  have hmoved : ∀ {lrus : Buf XrdpLruItem} {head : Int},
      lrus.size = XRDP_MAX_BITMAP_CACHE_IDX → head = front link (pre ++ suf ++ [i]) (-1) →
      (∀ j, (lrus.cells j).next = if j = i then -1 else if j = t then link i else
        if j ∈ pre.getLast? then link b else (self.bitmapLrus.cells j).next) →
      (∀ j, (lrus.cells j).prev = if j = i then link t else
        if j = b then back link (-1) pre else (self.bitmapLrus.cells j).prev) →
      Linked { self with bitmapLrus := lrus, lruHead := head, lruTail := link i }
        (pre ++ suf ++ [i]) := by
    intro lrus head hs hhead hn hp
    refine ⟨hs, hhead, by rw [back_concat], h.seg.moveToBack hsuf hnd ?_ ?_ ?_ ?_ ?_ ?_ ?_⟩
    · intro a hai hapre hat
      have hat' : a ≠ t := fun he => hat (he ▸ hm.last)
      simp only [hn, if_neg hai, if_neg hat', if_neg hapre]
    · intro a hai hab
      have hab' : a ≠ b := fun he => hab (he ▸ hm.first)
      simp only [hp, if_neg hai, if_neg hab']
    · intro a ha
      have hain := List.mem_of_getLast? ha
      have hai : a ≠ i := fun he =>
        (List.nodup_append.1 hnd).2.2 a hain i List.mem_cons_self he
      have hat : a ≠ t := fun he => (List.nodup_append.1 hnd).2.2 a hain t
        (List.mem_cons_of_mem _ (List.mem_of_getLast? hm.last)) he
      simp only [hn, if_neg hai, if_neg hat, if_pos ha, hnext]
    · intro c hc
      obtain rfl : b = c := Option.some_inj.1 (hm.first.symm.trans hc)
      have hbi : b ≠ i := by
        rintro rfl
        have := (List.nodup_append.1 hnd).2.1
        exact (List.nodup_cons.1 this).1 (List.mem_of_mem_head? hm.first)
      simp only [hp, if_neg hbi, if_true, hprev]
    · intro c hc
      obtain rfl : t = c := Option.some_inj.1 (hm.last.symm.trans hc)
      simp only [hn, if_neg hm.ne, if_true]
    · simp only [hn, if_true]
    · simp only [hp, if_true, back, hm.last]
      rfl
  rw [if_neg (by rw [hm.tail, link_inj]; exact hm.ne)]
  rcases List.eq_nil_or_concat pre with rfl | ⟨pre', a, rfl⟩
  · -- the head
    rw [if_pos (by rw [h.head]; rfl), hm.tail]
    rw [show at' self.bitmapLrus (link i) = _ from at'_ok hin]
    simp only [Run.ok_bind, hnext]
    rw [setPrev_ok hb, Run.ok_bind, setNext_ok (by exact ht), Run.ok_bind,
      setPrev_ok (by exact hin), Run.ok_bind, setNext_ok (by exact hin), Run.ok_bind]
    refine ⟨_, rfl, hmoved hsize ?_ (fun j => ?_) fun j => ?_, ⟨rfl, rfl, rfl⟩⟩
    · rw [List.nil_append, front_append, front, hm.first]
      rfl
    · simp
    · simp
  · -- an item in the middle
    rw [List.concat_eq_append] at *
    have ha : a < self.bitmapLrus.size := by rw [hsize]; exact hlt a (by simp)
    have hprev' : (self.bitmapLrus.cells i).prev = link a := by rw [hprev, back_concat]
    have hhead : self.lruHead ≠ link i := by
      rw [h.head]
      have hfront : ∃ c, c ∈ pre' ++ [a] ∧ front link (pre' ++ [a] ++ i :: suf) (-1) = link c := by
        cases pre' with
        | nil => exact ⟨a, by simp, rfl⟩
        | cons c pre' => exact ⟨c, by simp, rfl⟩
      obtain ⟨c, hc, heq⟩ := hfront
      rw [heq, Ne, link_inj]
      exact fun he => (List.nodup_append.1 hnd).2.2 c hc i List.mem_cons_self he
    rw [if_neg hhead, hm.tail]
    rw [show at' self.bitmapLrus (link i) = _ from at'_ok hin]
    simp only [Run.ok_bind, hnext, hprev']
    rw [setNext_ok ha, Run.ok_bind, setPrev_ok (by exact hb), Run.ok_bind,
      setNext_ok (by exact ht), Run.ok_bind, setPrev_ok (by exact hin), Run.ok_bind,
      setNext_ok (by exact hin), Run.ok_bind]
    refine ⟨_, rfl, hmoved hsize ?_ (fun j => ?_) fun j => ?_, ⟨rfl, rfl, rfl⟩⟩
    · rw [h.head, front_append, front_append _ [i], front_append pre' [a]]
      cases pre' <;> rfl
    · simp [eq_comm]
    · simp

/-! ## The chain after a reset -/

/-- Items linked one after the other. -/
theorem seg_range' {nxt prv : Nat → Int} {p q : Int} (n : Nat) {s : Nat} (hfirst : prv s = p)
    (hnext : ∀ j, s ≤ j → j + 1 < s + n → nxt j = link (j + 1))
    (hprev : ∀ j, s ≤ j → j + 1 < s + n → prv (j + 1) = link j)
    (hlast : ∀ j, s ≤ j → j + 1 = s + n → nxt j = q) :
    Seg link nxt prv p (List.range' s n) q := by
  induction n generalizing s p with
  | zero => exact seg_nil
  | succ n ih =>
    rw [List.range'_succ, seg_cons]
    refine ⟨hfirst, ?_, ?_⟩
    · cases n with
      | zero => exact hlast s le_rfl (by omega)
      | succ n => exact hnext s le_rfl (by omega)
    · cases n with
      | zero => exact seg_nil
      | succ n =>
        exact ih (hprev s le_rfl (by omega)) (fun j h1 h2 => hnext j (by omega) (by omega))
          (fun j h1 h2 => hprev j (by omega) (by omega)) fun j h1 h2 => hlast j (by omega) (by omega)

theorem back_range {n : Nat} (hn : 0 < n) (p : Int) :
    back link p (List.range n) = link (n - 1) := by
  obtain ⟨m, rfl⟩ := Nat.exists_eq_succ_of_ne_zero hn.ne'
  rw [List.range_succ, back_concat]
  rfl

theorem front_range {n : Nat} (hn : 0 < n) (q : Int) : front link (List.range n) q = 0 := by
  obtain ⟨m, rfl⟩ := Nat.exists_eq_succ_of_ne_zero hn.ne'
  rw [List.range_succ_eq_map]
  rfl

theorem resetLrus_next {j : Nat} (h : j + 1 < XRDP_MAX_BITMAP_CACHE_IDX) :
    (resetLrus.cells j).next = link (j + 1) := by
  unfold resetLrus link
  rcases Nat.eq_zero_or_pos j with rfl | hj
  · rfl
  · simp only [if_neg hj.ne', if_pos (show j < XRDP_MAX_BITMAP_CACHE_IDX - 1 by omega)]
    omega

theorem resetLrus_prev {j : Nat} (h : j + 1 < XRDP_MAX_BITMAP_CACHE_IDX) :
    (resetLrus.cells (j + 1)).prev = link j := by
  have hmax : XRDP_MAX_BITMAP_CACHE_IDX = 2000 := rfl
  unfold resetLrus link
  simp only [if_neg (Nat.succ_ne_zero j)]
  by_cases hj : j + 1 < XRDP_MAX_BITMAP_CACHE_IDX - 1
  · simp only [if_pos hj]
    omega
  · simp only [if_neg hj]
    omega

theorem resetLrus_seg : Seg link (fun i => (resetLrus.cells i).next)
    (fun i => (resetLrus.cells i).prev) (-1) (List.range XRDP_MAX_BITMAP_CACHE_IDX) (-1) := by
  rw [List.range_eq_range']
  refine seg_range' _ rfl (fun j _ hj => ?_) (fun j _ hj => ?_) fun j _ hj => ?_
  · exact resetLrus_next (by omega)
  · exact resetLrus_prev (by omega)
  · obtain rfl : j = XRDP_MAX_BITMAP_CACHE_IDX - 1 := by omega
    rfl

/-- **The first use after a reset leaves the entries there are.** -/
theorem checkReset_spec {self : BitmapCache} (hreset : self.lruReset = true)
    (hlrus : self.bitmapLrus = resetLrus) (hhead : self.lruHead = 0) {n : Nat} (hn : 0 < n)
    (hmax : n ≤ XRDP_MAX_BITMAP_CACHE_IDX) :
    ∃ self', checkReset self n = .ok self' ∧ Linked self' (List.range n) ∧
      self'.bitmapItems = self.bitmapItems ∧ self'.crc16 = self.crc16 ∧
      self'.lruReset = false := by
  have hcast : (n : Int) - 1 = link (n - 1) := by
    unfold link
    omega
  have hseg := resetLrus_seg
  have hin : n - 1 < resetLrus.size := by
    have : resetLrus.size = XRDP_MAX_BITMAP_CACHE_IDX := rfl
    omega
  rw [checkReset, if_pos hreset, hcast, hlrus, setNext_ok hin, Run.ok_bind]
  refine ⟨_, rfl, ⟨rfl, ?_, (back_range hn _).symm, ?_⟩, rfl, rfl, rfl⟩
  · simp only [hhead, front_range hn]
  · -- the links of the whole chain up to the cut
    obtain ⟨m, hm⟩ := Nat.exists_eq_add_of_le hmax
    rw [hm, List.range_add, seg_append] at hseg
    refine hseg.1.relink (fun a ha => ?_) (fun a _ => by simp) (fun a ha => ?_) fun a ha => ?_
    · obtain ⟨k, rfl⟩ := Nat.exists_eq_succ_of_ne_zero hn.ne'
      rw [List.range_succ_eq_map] at ha
      obtain rfl : 0 = a := Option.some_inj.1 ha
      rw [withNext_prev]
      rfl
    · obtain ⟨k, rfl⟩ := Nat.exists_eq_succ_of_ne_zero hn.ne'
      rw [List.range_succ, List.dropLast_concat, List.mem_range] at ha
      simp only [withNext_next]
      rw [if_neg (by omega)]
    · obtain ⟨k, rfl⟩ := Nat.exists_eq_succ_of_ne_zero hn.ne'
      rw [List.range_succ] at ha
      obtain rfl : k = a := by simpa using ha
      simp

end Xrdp.Cache
