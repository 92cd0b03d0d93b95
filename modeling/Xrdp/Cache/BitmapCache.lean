import Mathlib.Logic.Function.Basic
import Xrdp.Cache.List16

/-!
# The bitmap cache (`xrdp/xrdp_cache.c`)

Three caches of bitmaps, by size.  In each one the items are chained from the least to the most
recently used through `bitmap_lrus`, and listed by the crc of their bitmap in `crc16`.

Function results that are not used are left out, and so is the freeing of bitmaps.  The order
functions the cache calls report success or not, which a request brings along.
-/

namespace Xrdp.Cache

def XRDP_MAX_BITMAP_CACHE_IDX : Nat := 2000

/-- `b[i]` with a signed index. -/
def at' {α : Type} (b : Buf α) (i : Int) : Run α :=
  if 0 ≤ i then b.read i.toNat else .error .outOfBounds

/-- `b[i] = v` with a signed index. -/
def setAt {α : Type} (b : Buf α) (i : Int) (v : α) : Run (Buf α) :=
  if 0 ≤ i then b.write i.toNat v else .error .outOfBounds

/-- `struct xrdp_bitmap`, as far as the cache looks at it. -/
structure XrdpBitmap where
  width : Int
  height : Int
  bpp : Int
  data : List UInt8
  crc32 : Int
  crc16 : UInt16
  deriving DecidableEq

/-- `struct xrdp_bitmap_item`. -/
structure XrdpBitmapItem where
  stamp : Int
  lruIndex : Int
  bitmap : Option XrdpBitmap

/-- `struct xrdp_lru_item`. -/
structure XrdpLruItem where
  next : Int
  prev : Int
  deriving DecidableEq

/-- One of the caches: `bitmap_items[id]`, `bitmap_lrus[id]`, ..., `crc16[id]`. -/
structure BitmapCache where
  bitmapItems : Buf XrdpBitmapItem
  bitmapLrus : Buf XrdpLruItem
  lruHead : Int
  lruTail : Int
  lruReset : Bool
  crc16 : Buf List16

/-- `struct xrdp_cache`, its bitmap caches. -/
structure XrdpCache where
  bitmapStamp : Int
  rows : Fin 3 → BitmapCache
  useBitmapComp : Bool
  cache1Entries : Int
  cache1Size : Int
  cache2Entries : Int
  cache2Size : Int
  cache3Entries : Int
  cache3Size : Int
  bitmapCacheVersion : Nat

/-- What `struct xrdp_client_info` says about bitmap caches. -/
structure ClientInfo where
  useBitmapComp : Bool
  cache1Entries : Int
  cache1Size : Int
  cache2Entries : Int
  cache2Size : Int
  cache3Entries : Int
  cache3Size : Int
  bitmapCacheVersion : Nat

/-! ## Creation -/

/-- The chain `xrdp_cache_reset_lru` sets up: all the items in order. -/
def resetLrus : Buf XrdpLruItem where
  size := XRDP_MAX_BITMAP_CACHE_IDX
  cells j :=
    if j = 0 then ⟨1, -1⟩
    else if j < XRDP_MAX_BITMAP_CACHE_IDX - 1 then ⟨j + 1, j - 1⟩
    else ⟨-1, XRDP_MAX_BITMAP_CACHE_IDX - 2⟩

/-- A cache after `xrdp_cache_reset_lru` and `xrdp_cache_reset_crc`. -/
def BitmapCache.reset : BitmapCache where
  bitmapItems := ⟨XRDP_MAX_BITMAP_CACHE_IDX, fun _ => ⟨0, 0, none⟩⟩
  bitmapLrus := resetLrus
  lruHead := 0
  lruTail := XRDP_MAX_BITMAP_CACHE_IDX - 1
  lruReset := true
  crc16 := ⟨64 * 1024, fun _ => List16.init⟩

/-- The number of entries as `xrdp_cache_create` takes it over. -/
def clipEntries (entries : Int) : Int := max (min XRDP_MAX_BITMAP_CACHE_IDX entries) 0

/-- `xrdp_cache_create`. -/
def xrdpCacheCreate (info : ClientInfo) : XrdpCache where
  bitmapStamp := 0
  rows _ := BitmapCache.reset
  useBitmapComp := info.useBitmapComp
  cache1Entries := clipEntries info.cache1Entries
  cache1Size := info.cache1Size
  cache2Entries := clipEntries info.cache2Entries
  cache2Size := info.cache2Size
  cache3Entries := clipEntries info.cache3Entries
  cache3Size := info.cache3Size
  bitmapCacheVersion := info.bitmapCacheVersion

/-! ## The chain -/

/-- `lrus[i].next = v`. -/
def setNext (lrus : Buf XrdpLruItem) (i v : Int) : Run (Buf XrdpLruItem) := do
  let lru ← at' lrus i
  setAt lrus i { lru with next := v }

/-- `lrus[i].prev = v`. -/
def setPrev (lrus : Buf XrdpLruItem) (i v : Int) : Run (Buf XrdpLruItem) := do
  let lru ← at' lrus i
  setAt lrus i { lru with prev := v }

/-- `xrdp_cache_update_lru`. -/
def xrdpCacheUpdateLru (self : BitmapCache) (lruIndex : Int) : Run BitmapCache :=
  if lruIndex < 0 ∨ lruIndex ≥ XRDP_MAX_BITMAP_CACHE_IDX then pure self
  else if self.lruTail = lruIndex then pure self
  else if self.lruHead = lruIndex then do
    -- moving head item to tail
    let thislru ← at' self.bitmapLrus lruIndex
    let tailIndex := self.lruTail
    let lrus ← setPrev self.bitmapLrus thislru.next (-1)
    let lrus ← setNext lrus tailIndex lruIndex
    let lrus ← setPrev lrus lruIndex tailIndex
    let lrus ← setNext lrus lruIndex (-1)
    pure { self with bitmapLrus := lrus, lruHead := thislru.next, lruTail := lruIndex }
  else do
    -- move middle item
    let thislru ← at' self.bitmapLrus lruIndex
    let tailIndex := self.lruTail
    let lrus ← setNext self.bitmapLrus thislru.prev thislru.next
    let lrus ← setPrev lrus thislru.next thislru.prev
    let lrus ← setNext lrus tailIndex lruIndex
    let lrus ← setPrev lrus lruIndex tailIndex
    let lrus ← setNext lrus lruIndex (-1)
    pure { self with bitmapLrus := lrus, lruTail := lruIndex }

/-! ## Adding -/

/-- `COMPARE_WITH_CRC32`. -/
def compareWithCrc32 (b1 : Option XrdpBitmap) (b2 : XrdpBitmap) : Bool :=
  match b1 with
  | none => false
  | some b1 =>
    b1.crc32 = b2.crc32 ∧ b1.bpp = b2.bpp ∧ b1.width = b2.width ∧ b1.height = b2.height

/-- The search of a crc list from `jndex` on, `todo` items ahead. -/
def findBitmap (self : BitmapCache) (ll : List16) (bitmap : XrdpBitmap) :
    Nat → Nat → Run (Option Nat)
  | 0, _ => pure none
  | todo + 1, jndex => do
    let cacheIdx ← ll.getItem jndex
    let item ← self.bitmapItems.read cacheIdx
    if compareWithCrc32 item.bitmap bitmap then pure (some cacheIdx)
    else findBitmap self ll bitmap todo (jndex + 1)

/-- The first use after a reset cuts the chain to the entries there are. -/
def checkReset (self : BitmapCache) (cacheEntries : Int) : Run BitmapCache :=
  if self.lruReset then do
    let lrus ← setNext self.bitmapLrus (cacheEntries - 1) (-1)
    pure { self with lruReset := false, lruTail := cacheEntries - 1, bitmapLrus := lrus }
  else pure self

/-- The old bitmap leaves its crc list. -/
def removeOld (self : BitmapCache) (cacheIdx : Int) : Run BitmapCache := do
  let item ← at' self.bitmapItems cacheIdx
  match item.bitmap with
  | none => pure self
  | some lbm => do
    let ll ← self.crc16.read lbm.crc16.toNat
    let iig ← ll.indexOf cacheIdx.toNat
    let ll ← ll.removeItem iig
    let crc16 ← self.crc16.write lbm.crc16.toNat ll
    pure { self with crc16 }

/-- The new bitmap takes the item and enters its crc list. -/
def setItem (self : BitmapCache) (cacheIdx : Int) (item : XrdpBitmapItem) (bitmap : XrdpBitmap) :
    Run BitmapCache := do
  let bitmapItems ← setAt self.bitmapItems cacheIdx item
  let ll ← self.crc16.read bitmap.crc16.toNat
  let ll ← ll.addItem cacheIdx.toNat
  let crc16 ← self.crc16.write bitmap.crc16.toNat ll
  pure { self with bitmapItems, crc16 }

/-- `xrdp_cache_add_bitmap` within the cache it has chosen: the index, whether the bitmap is new,
the cache afterwards. -/
def addToCache (self : BitmapCache) (cacheEntries stamp : Int) (bitmap : XrdpBitmap) :
    Run (Int × Bool × BitmapCache) := do
  let ll ← self.crc16.read bitmap.crc16.toNat
  let found ← findBitmap self ll bitmap ll.count 0
  match found with
  | some cacheIdx => do
    let item ← self.bitmapItems.read cacheIdx
    let bitmapItems ← self.bitmapItems.write cacheIdx { item with stamp }
    let self ← xrdpCacheUpdateLru { self with bitmapItems } item.lruIndex
    pure (cacheIdx, false, self)
  | none => do
    let self ← checkReset self cacheEntries
    let lruIndex := self.lruHead
    let cacheIdx := lruIndex
    let self ← xrdpCacheUpdateLru self lruIndex
    let self ← removeOld self cacheIdx
    let self ← setItem self cacheIdx ⟨stamp, lruIndex, some bitmap⟩ bitmap
    pure (cacheIdx, true, self)

/-- `int` arithmetic. -/
def int (n : Int) : Int := Int.bmod n (2 ^ 32)

/-- `bmp_size`. -/
def XrdpBitmap.bmpSize (bitmap : XrdpBitmap) : Int :=
  -- `(4 - (width % 4)) & 3`
  let e := (4 - bitmap.width.tmod 4) % 4
  let Bpp := (bitmap.bpp + 7).tdiv 8
  int ((bitmap.width + e) * bitmap.height * Bpp)

/-- The cache a bitmap of this size goes to, and its entries. -/
def XrdpCache.cacheFor (self : XrdpCache) (bmpSize : Int) : Option (Fin 3 × Int) :=
  if bmpSize ≤ self.cache1Size then some (0, self.cache1Entries)
  else if bmpSize ≤ self.cache2Size then some (1, self.cache2Entries)
  else if bmpSize ≤ self.cache3Size then some (2, self.cache3Entries)
  else none

/-- A configuration in which every cache has entries, and no more than there is room for. -/
structure CacheConfig extends ClientInfo where
  entries1 : 1 ≤ cache1Entries ∧ cache1Entries ≤ XRDP_MAX_BITMAP_CACHE_IDX
  entries2 : 1 ≤ cache2Entries ∧ cache2Entries ≤ XRDP_MAX_BITMAP_CACHE_IDX
  entries3 : 1 ≤ cache3Entries ∧ cache3Entries ≤ XRDP_MAX_BITMAP_CACHE_IDX

/-- The cache for bitmaps of this size, if there is one. -/
def CacheConfig.cacheOf (cfg : CacheConfig) (bmpSize : Int) : Option (Fin 3) :=
  if bmpSize ≤ cfg.cache1Size then some 0
  else if bmpSize ≤ cfg.cache2Size then some 1
  else if bmpSize ≤ cfg.cache3Size then some 2
  else none

/-- The functions that send a bitmap order. -/
inductive OrderFn where
  | sendBitmap3
  | sendBitmap2
  | sendBitmap
  | sendRawBitmap2
  | sendRawBitmap
  deriving DecidableEq

/-- A call of one of them. -/
structure OrderCall where
  fn : OrderFn
  bitmap : XrdpBitmap
  cacheId : Fin 3
  cacheIdx : Int
  hints : Int

/-- A call of `xrdp_cache_add_bitmap`, with what each order function will return. -/
structure Request where
  bitmap : XrdpBitmap
  hints : Int
  ret : OrderFn → Int

/-- The order functions called for a new bitmap. -/
def XrdpCache.orderFns (self : XrdpCache) (ret : OrderFn → Int) : List OrderFn :=
  if self.useBitmapComp then
    let v2 : List OrderFn :=
      if self.bitmapCacheVersion &&& 2 ≠ 0 then [.sendBitmap2]
      else if self.bitmapCacheVersion &&& 1 ≠ 0 then [.sendBitmap]
      else []
    if self.bitmapCacheVersion &&& 4 ≠ 0 then
      if ret .sendBitmap3 = 0 then [.sendBitmap3] else .sendBitmap3 :: v2
    else v2
  else if self.bitmapCacheVersion &&& 2 ≠ 0 then [.sendRawBitmap2]
  else if self.bitmapCacheVersion &&& 1 ≠ 0 then [.sendRawBitmap]
  else []

/-- The calls of the order functions. -/
def XrdpCache.orderCalls (self : XrdpCache) (req : Request) (cacheId : Fin 3) (cacheIdx : Int) :
    List OrderCall :=
  (self.orderFns req.ret).map fun fn => ⟨fn, req.bitmap, cacheId, cacheIdx, req.hints⟩

/-- `MAKELONG`. -/
def makeLong (lo : Int) (hi : Fin 3) : Nat := hi.val % 2 ^ 16 * 2 ^ 16 + (lo % 2 ^ 16).toNat

/-- What a call returns, and the order functions it calls. -/
structure Reply where
  value : Nat
  calls : List OrderCall

/-- `xrdp_cache_add_bitmap`. -/
def XrdpCache.addBitmap (self : XrdpCache) (req : Request) : Run (Reply × XrdpCache) :=
  let self := { self with bitmapStamp := int (self.bitmapStamp + 1) }
  match self.cacheFor req.bitmap.bmpSize with
  | none => pure (⟨0, []⟩, self) -- too big
  | some (cacheId, cacheEntries) => do
    let (cacheIdx, new, row) ←
      addToCache (self.rows cacheId) cacheEntries self.bitmapStamp req.bitmap
    let self := { self with rows := Function.update self.rows cacheId row }
    pure (⟨makeLong cacheIdx cacheId, if new then self.orderCalls req cacheId cacheIdx else []⟩,
      self)

/-- A sequence of calls. -/
def XrdpCache.addBitmaps (self : XrdpCache) : List Request → Run (List Reply × XrdpCache)
  | [] => pure ([], self)
  | req :: reqs => do
    let (reply, self) ← self.addBitmap req
    let (replies, self) ← self.addBitmaps reqs
    pure (reply :: replies, self)

end Xrdp.Cache
