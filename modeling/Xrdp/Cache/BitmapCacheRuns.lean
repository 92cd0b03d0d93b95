import Xrdp.Cache.BitmapCacheLru

/-!
# Runs of the bitmap cache against a client

* `World` — the cache of the server and what the orders it has sent left in the caches of the
  client.
* `RefCaches` — the reference: three LRU caches keyed by content.
* `RunInv` — what a run of `xrdp_cache_add_bitmap` keeps: each cache stands for its reference, and
  the client has what the reference holds.
* `bitmap_cache_lru` — replies, orders and what an index denotes are those of the reference.
-/

namespace Xrdp.Cache

open DLinks LruCache

namespace CacheConfig

def entries (cfg : CacheConfig) : Fin 3 → Nat
  | 0 => cfg.cache1Entries.toNat
  | 1 => cfg.cache2Entries.toNat
  | 2 => cfg.cache3Entries.toNat

theorem entries_pos (cfg : CacheConfig) (id : Fin 3) : 0 < cfg.entries id := by
  have h1 := cfg.entries1.1
  have h2 := cfg.entries2.1
  have h3 := cfg.entries3.1
  fin_cases id <;> simp only [entries] <;> omega

theorem entries_le (cfg : CacheConfig) (id : Fin 3) :
    cfg.entries id ≤ XRDP_MAX_BITMAP_CACHE_IDX := by
  have h1 := cfg.entries1.2
  have h2 := cfg.entries2.2
  have h3 := cfg.entries3.2
  fin_cases id <;> simp only [entries] <;> omega

/-- Some order function that is called for a new bitmap reports success. -/
def Delivers (cfg : CacheConfig) (req : Request) : Prop :=
  ∃ fn ∈ (xrdpCacheCreate cfg.toClientInfo).orderFns req.ret, req.ret fn = 0

theorem clipEntries_eq {n : Int} (h : 1 ≤ n ∧ n ≤ XRDP_MAX_BITMAP_CACHE_IDX) :
    clipEntries n = n.toNat := by
  rw [clipEntries]
  omega

theorem cacheFor_create (cfg : CacheConfig) (bmpSize : Int) :
    (xrdpCacheCreate cfg.toClientInfo).cacheFor bmpSize =
      (cfg.cacheOf bmpSize).map fun id => (id, (cfg.entries id : Int)) := by
  simp only [XrdpCache.cacheFor, cacheOf, xrdpCacheCreate, clipEntries_eq cfg.entries1,
    clipEntries_eq cfg.entries2, clipEntries_eq cfg.entries3]
  split
  · rfl
  split
  · rfl
  split <;> rfl

end CacheConfig

/-! ## The reference -/

/-- The three reference caches. -/
abbrev RefCaches (cfg : CacheConfig) : Type := (id : Fin 3) → Lru BitmapKey (cfg.entries id)

/-- The answer of the reference: where the bitmap is, and whether it has to be sent. -/
structure RefReply where
  cacheId : Fin 3
  slot : Nat
  send : Bool

/-- The reference for `xrdp_cache_add_bitmap`; a bitmap too big for all the caches is refused. -/
def RefCaches.add {cfg : CacheConfig} (r : RefCaches cfg) (bitmap : XrdpBitmap) :
    Option RefReply × RefCaches cfg :=
  match cfg.cacheOf bitmap.bmpSize with
  | none => (none, r)
  | some id =>
    let a := (r id).access (cfg.entries_pos id) bitmap.key
    (some ⟨id, a.1, a.2.1⟩, Function.update r id a.2.2)

/-- The reference after a sequence of calls. -/
def refAfter (cfg : CacheConfig) (reqs : List Request) : RefCaches cfg :=
  reqs.foldl (fun r req => (r.add req.bitmap).2) fun _ => Lru.empty _ _

/-! ## Server and client -/

/-- The cache of the server, and the bitmaps in the caches of the client. -/
structure World where
  server : XrdpCache
  client : Nat → Nat → Option BitmapKey

def World.start (cfg : CacheConfig) : World := ⟨xrdpCacheCreate cfg.toClientInfo, fun _ _ => none⟩

/-- The client carries out an order that was sent. -/
def receive (client : Nat → Nat → Option BitmapKey) (ret : OrderFn → Int) (call : OrderCall) :
    Nat → Nat → Option BitmapKey :=
  if ret call.fn = 0 then
    Function.update client call.cacheId
      (Function.update (client call.cacheId) call.cacheIdx.toNat (some call.bitmap.key))
  else client

/-- A call of `xrdp_cache_add_bitmap`, and the client receiving what it sends. -/
def World.step (w : World) (req : Request) : Run (Reply × World) := do
  let (reply, server) ← w.server.addBitmap req
  pure (reply, ⟨server, reply.calls.foldl (fun client call => receive client req.ret call) w.client⟩)

/-- A sequence of calls. -/
def World.run (w : World) : List Request → Run World
  | [] => pure w
  | req :: reqs => do
    let (_, w) ← w.step req
    w.run reqs

theorem World.run_append (w : World) (reqs reqs' : List Request) :
    w.run (reqs ++ reqs') = w.run reqs >>= fun w => w.run reqs' := by
  induction reqs generalizing w with
  | nil => rfl
  | cons req reqs ih =>
    rw [List.cons_append, World.run, World.run]
    cases h : w.step req with
    | error e => rfl
    | ok r => simp only [Run.ok_bind, ih]

/-- `HIWORD` and `LOWORD`. -/
def hiWord (v : Nat) : Nat := v / 2 ^ 16 % 2 ^ 16

def loWord (v : Nat) : Nat := v % 2 ^ 16

theorem words_makeLong {i : Nat} (hi : i < 2 ^ 16) (id : Fin 3) :
    hiWord (makeLong (link i) id) = id ∧ loWord (makeLong (link i) id) = i := by
  have hid := id.isLt
  have hlink : (link i % 2 ^ 16).toNat = i := by
    unfold link
    omega
  rw [makeLong, hlink, hiWord, loWord]
  omega

/-! ## The invariant of a run -/

/-- What holds after the calls `reqs`. -/
structure RunInv (cfg : CacheConfig) (reqs : List Request) (w : World) : Prop where
  config : w.server = { xrdpCacheCreate cfg.toClientInfo with
    rows := w.server.rows, bitmapStamp := w.server.bitmapStamp }
  rows : ∀ id, Represents (w.server.rows id) (refAfter cfg reqs id)
  mirror : (∀ req ∈ reqs, cfg.Delivers req) →
    ∀ id : Fin 3, Lru.Mirrors (w.client id) (refAfter cfg reqs id)

theorem runInv_start (cfg : CacheConfig) : RunInv cfg [] (.start cfg) :=
  ⟨rfl, fun _ => represents_reset _, fun _ _ _ _ h => by cases h⟩

theorem refAfter_snoc (cfg : CacheConfig) (reqs : List Request) (req : Request) :
    refAfter cfg (reqs ++ [req]) = ((refAfter cfg reqs).add req.bitmap).2 := by
  rw [refAfter, List.foldl_append]
  rfl

/-- The order calls for one bitmap leave it with the client, if one of them succeeds. -/
theorem receive_calls (client : Nat → Nat → Option BitmapKey) (req : Request) (cacheId : Fin 3)
    (i : Nat) (fns : List OrderFn) :
    (fns.map fun fn => (⟨fn, req.bitmap, cacheId, link i, req.hints⟩ : OrderCall)).foldl
        (fun client call => receive client req.ret call) client =
      if ∃ fn ∈ fns, req.ret fn = 0 then
        Function.update client cacheId
          (Function.update (client cacheId) i (some req.bitmap.key))
      else client := by
  induction fns generalizing client with
  | nil => simp
  | cons fn fns ih =>
    rw [List.map_cons, List.foldl_cons, ih, receive, link_toNat]
    by_cases h : req.ret fn = 0
    · rw [if_pos h, if_pos (show ∃ fn' ∈ fn :: fns, req.ret fn' = 0 from
        ⟨fn, List.mem_cons_self, h⟩), Function.update_self, Function.update_idem,
        Function.update_idem, ite_self]
    · rw [if_neg h]
      simp [h]

/-- The reply agrees with the answer of the reference. -/
structure Agrees (w : World) (req : Request) (a : RefReply) (reply : Reply) : Prop where
  cacheId : hiWord reply.value = a.cacheId
  slot : loWord reply.value = a.slot
  calls : reply.calls = if a.send then w.server.orderCalls req a.cacheId a.slot else []

/-- **A call keeps the invariant, and replies as the reference does.** -/
theorem step_spec {cfg : CacheConfig} {reqs : List Request} {w : World} (h : RunInv cfg reqs w)
    (req : Request) :
    ∃ reply w', w.step req = .ok (reply, w') ∧ RunInv cfg (reqs ++ [req]) w' ∧
      (∀ a ∈ ((refAfter cfg reqs).add req.bitmap).1, Agrees w req a reply) ∧
      (((refAfter cfg reqs).add req.bitmap).1 = none → reply.calls = []) := by
  have hcacheFor : ({ w.server with bitmapStamp := int (w.server.bitmapStamp + 1) } :
      XrdpCache).cacheFor req.bitmap.bmpSize =
      (cfg.cacheOf req.bitmap.bmpSize).map fun id => (id, (cfg.entries id : Int)) := by
    rw [← cfg.cacheFor_create, h.config]
    rfl
  rw [RefCaches.add]
  cases hcache : cfg.cacheOf req.bitmap.bmpSize with
  | none =>
    rw [hcache] at hcacheFor
    refine ⟨⟨0, []⟩, ⟨{ w.server with bitmapStamp := int (w.server.bitmapStamp + 1) }, w.client⟩,
      ?_, ⟨?_, ?_, ?_⟩, by simp, fun _ => rfl⟩
    · simp only [World.step, XrdpCache.addBitmap, hcacheFor]
      rfl
    · rw [h.config]
    · rw [refAfter_snoc, RefCaches.add, hcache]
      exact h.rows
    · rw [refAfter_snoc, RefCaches.add, hcache]
      exact fun hd => h.mirror fun r hr => hd r (List.mem_append_left _ hr)
  | some id =>
    rw [hcache] at hcacheFor
    obtain ⟨row', hadd, hrep⟩ := addToCache_spec (h.rows id) (cfg.entries_pos id)
      (cfg.entries_le id) (int (w.server.bitmapStamp + 1)) req.bitmap
    set a := (refAfter cfg reqs id).access (cfg.entries_pos id) req.bitmap.key with ha
    have hslot : a.1 < 2 ^ 16 := by
      have h1 : a.1 < cfg.entries id := a.2.2.held_lt _ _
        (Lru.access_holds _ (cfg.entries_pos id) req.bitmap.key)
      have h2 := cfg.entries_le id
      simp only [XRDP_MAX_BITMAP_CACHE_IDX] at h2
      omega
    have hwords := words_makeLong hslot id
    have hfns : ∀ ret, w.server.orderFns ret =
        (xrdpCacheCreate cfg.toClientInfo).orderFns ret := by
      rw [h.config]
      exact fun _ => rfl
    set calls := if a.2.1 then w.server.orderCalls req id (link a.1) else [] with hcalls
    refine ⟨⟨makeLong (link a.1) id, calls⟩,
      ⟨{ w.server with
          bitmapStamp := int (w.server.bitmapStamp + 1)
          rows := Function.update w.server.rows id row' },
        calls.foldl (fun client call => receive client req.ret call) w.client⟩,
      ?_, ⟨?_, ?_, ?_⟩, ?_, by simp⟩
    · simp only [World.step, XrdpCache.addBitmap, hcacheFor, Option.map_some, hadd, Run.ok_bind]
      rfl
    · rw [h.config]
    · rw [refAfter_snoc, RefCaches.add, hcache]
      intro id'
      rcases eq_or_ne id' id with rfl | hne
      · simpa only [Function.update_self] using hrep
      · simpa only [Function.update_of_ne hne] using h.rows id'
    · intro hd id'
      have hdel : ∃ fn ∈ (xrdpCacheCreate cfg.toClientInfo).orderFns req.ret, req.ret fn = 0 :=
        hd req (by simp)
      have hmirror := h.mirror fun r hr => hd r (List.mem_append_left _ hr)
      rw [refAfter_snoc, RefCaches.add, hcache]
      have hacc := Lru.access_mirror (cfg.entries_pos id) req.bitmap.key (hmirror id)
      simp only [← ha] at hacc ⊢
      have hclient : calls.foldl (fun client call => receive client req.ret call) w.client =
          if a.2.1 then Function.update w.client id
            (Function.update (w.client id) a.1 (some req.bitmap.key)) else w.client := by
        rw [hcalls]
        split
        · rw [XrdpCache.orderCalls, receive_calls, hfns, if_pos hdel]
        · rfl
      rw [hclient]
      rcases eq_or_ne id' id with rfl | hne
      · rw [Function.update_self]
        split
        · rename_i hs
          rw [if_pos hs] at hacc
          simpa only [Function.update_self] using hacc
        · rename_i hs
          rwa [if_neg hs] at hacc
      · rw [Function.update_of_ne hne]
        split
        · rw [Function.update_of_ne (by simpa [Fin.ext_iff] using hne)]
          exact hmirror id'
        · exact hmirror id'
    · intro a' ha'
      obtain rfl := Option.some_inj.1 ha'
      exact ⟨hwords.1, hwords.2, rfl⟩

/-- **The invariant holds after every run.** -/
theorem run_inv (cfg : CacheConfig) (reqs : List Request) :
    ∃ w, (World.start cfg).run reqs = .ok w ∧ RunInv cfg reqs w := by
  induction reqs using List.reverseRecOn with
  | nil => exact ⟨_, rfl, runInv_start cfg⟩
  | append_singleton reqs req ih =>
    obtain ⟨w, hrun, hinv⟩ := ih
    obtain ⟨reply, w', hstep, hinv', -⟩ := step_spec hinv req
    refine ⟨w', ?_, hinv'⟩
    rw [World.run_append, hrun, Run.ok_bind, World.run, hstep, Run.ok_bind]
    rfl

/-! ## The cache as an LRU cache -/

/-- A cache of `n` entries between calls: once a bitmap is stored the chain goes through the
entries, and the bitmaps stored are in the lists of their crcs, once each, and nothing else is. -/
structure InOrder (row : BitmapCache) (n : Nat) : Prop where
  chain : (∃ i b, (row.bitmapItems.cells i).bitmap = some b) →
    ∃ l, l.Perm (List.range n) ∧ Linked row l
  listed : ∀ i b, (row.bitmapItems.cells i).bitmap = some b → ∀ k : UInt16,
    (row.crc16.cells k.toNat).live.count i = if b.crc16 = k then 1 else 0
  unlisted : ∀ i, (row.bitmapItems.cells i).bitmap = none → ∀ k : UInt16,
    i ∉ (row.crc16.cells k.toNat).live

theorem Represents.inOrder {row : BitmapCache} {n : Nat} {c : Lru BitmapKey n}
    (h : Represents row c) : InOrder row n := by
  refine ⟨fun ⟨i, b, hb⟩ => ⟨c.order, c.perm, h.chain ?_⟩, fun i b hb k => ?_, fun i hi k hmem => ?_⟩
  · rw [Bool.eq_false_iff]
    intro hr
    rw [(h.fresh hr).2.2.2 i] at hb
    cases hb
  · rw [h.buckets.once, hb]
    simp
  · rw [h.buckets.mem_iff, hi] at hmem
    cases hmem

/-- **The bitmap cache is an LRU cache keyed by content.** -/
theorem bitmap_cache_lru (cfg : CacheConfig) (reqs : List Request) :
    ∃ w, (World.start cfg).run reqs = .ok w ∧
      (∀ id, InOrder (w.server.rows id) (cfg.entries id)) ∧
      ∀ req, ∃ reply w', w.step req = .ok (reply, w') ∧
        (∀ a ∈ ((refAfter cfg reqs).add req.bitmap).1, Agrees w req a reply ∧
          ((∀ r ∈ reqs ++ [req], cfg.Delivers r) →
            w'.client (hiWord reply.value) (loWord reply.value) = some req.bitmap.key)) ∧
        (((refAfter cfg reqs).add req.bitmap).1 = none → reply.calls = []) := by
  obtain ⟨w, hrun, hinv⟩ := run_inv cfg reqs
  refine ⟨w, hrun, fun id => (hinv.rows id).inOrder, fun req => ?_⟩
  obtain ⟨reply, w', hstep, hinv', hagrees, hnone⟩ := step_spec hinv req
  refine ⟨reply, w', hstep, fun a ha => ⟨hagrees a ha, fun hd => ?_⟩, hnone⟩
  have hmirror := hinv'.mirror hd a.cacheId a.slot req.bitmap.key
  rw [(hagrees a ha).cacheId, (hagrees a ha).slot]
  apply hmirror
  rw [refAfter_snoc]
  rw [RefCaches.add] at ha ⊢
  cases hcache : cfg.cacheOf req.bitmap.bmpSize with
  | none =>
    rw [hcache] at ha
    cases ha
  | some id =>
    rw [hcache] at ha
    obtain rfl := Option.some_inj.1 ha
    simp only [Function.update_self]
    exact Lru.access_holds _ _ _

/-- Caches of one entry. -/
def oneEntry : CacheConfig where
  useBitmapComp := true
  cache1Entries := 1
  cache1Size := 256
  cache2Entries := 1
  cache2Size := 1024
  cache3Entries := 1
  cache3Size := 4096
  bitmapCacheVersion := 2
  entries1 := by decide
  entries2 := by decide
  entries3 := by decide

/-- The caches of a client that says nothing about bitmap caches. -/
def defaultCaches : CacheConfig where
  useBitmapComp := true
  cache1Entries := 600
  cache1Size := 256
  cache2Entries := 300
  cache2Size := 1024
  cache3Entries := 262
  cache3Size := 4096
  bitmapCacheVersion := 0
  entries1 := by decide
  entries2 := by decide
  entries3 := by decide

/-- A black square, which every order function would send. -/
def square (size bpp : Int) : Request := ⟨⟨size, size, bpp, [], 0, 0⟩, 0, fun _ => 0⟩

/-- **Where the cache is not an LRU cache of its entries**: a cache not used yet is chained through
all the items; a bitmap too big for the caches is given an index that nothing was sent to; and so
is every bitmap if the client has named no version of the cache orders. -/
theorem bitmap_cache_not_lru :
    (¬∃ l, l.Perm (List.range (oneEntry.entries 0)) ∧
      Linked ((World.start oneEntry).server.rows 0) l) ∧
    (∃ reply w', (World.start oneEntry).step (square 64 24) = .ok (reply, w') ∧
      w'.client (hiWord reply.value) (loWord reply.value) ≠ some (square 64 24).bitmap.key) ∧
    (∃ reply w', (World.start defaultCaches).step (square 16 8) = .ok (reply, w') ∧
      w'.client (hiWord reply.value) (loWord reply.value) ≠ some (square 16 8).bitmap.key) := by
  refine ⟨?_, ?_, ?_⟩
  · rintro ⟨l, hperm, hlinked⟩
    obtain rfl : l = [0] := List.perm_singleton.1 hperm
    have := hlinked.tail
    revert this
    decide
  · exact ⟨⟨0, []⟩, ⟨_, fun _ _ => none⟩, rfl, nofun⟩
  · obtain ⟨reply, w', hstep, -, hagrees, hnone⟩ :=
      step_spec (runInv_start defaultCaches) (square 16 8)
    refine ⟨reply, w', hstep, ?_⟩
    have hcalls : reply.calls = [] := by
      cases ha : ((refAfter defaultCaches []).add (square 16 8).bitmap).1 with
      | none => exact hnone ha
      | some a =>
        rw [(hagrees a ha).calls]
        exact ite_self _
    rw [World.step, Run.bind_eq_ok] at hstep
    obtain ⟨⟨reply', server⟩, -, heq⟩ := hstep
    cases heq
    rw [hcalls]
    nofun

end Xrdp.Cache
