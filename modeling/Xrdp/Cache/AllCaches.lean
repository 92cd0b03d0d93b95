import Mathlib.Data.Fintype.Pi
import Xrdp.Cache.BitmapCache
import Xrdp.Lib.Wire

/-!
# All caches (`xrdp/xrdp_cache.c`), and what a client says about them (`libxrdp/xrdp_caps.c`)

The window manager has one `struct xrdp_cache` with caches of palettes, bitmaps, glyphs, pointers
and brushes, the offscreen bitmaps, and the list of those to be deleted at the client.

* `addStamped` — how palettes, glyphs, pointers and brushes are cached: what is there is found, and
  else the item with the oldest stamp goes.
* `XrdpCaches`, `xrdpCachesCreate`, `xrdpCachesReset` — the struct; a reset says what it frees.
* `CacheOp`, `XrdpCaches.step` — the operations, with what they return and send.
* `xrdpCapsProcess` — the capability sets that bear on `ClientCaches`.

A bitmap of `os_bitmap_items` is in one item only: a module creates a new one for each.
-/

namespace Xrdp.Cache

open Wire

/-! ## Items with a stamp -/

/-- An item and the stamp of its last use. -/
structure Stamped (α : Type) where
  stamp : Int
  value : α

section

variable {α : Type} (items : Buf (Stamped α))

/-- "look for match" -/
def findMatch (same : α → Bool) : List Nat → Run (Option Nat)
  | [] => pure none
  | i :: is => do
    let item ← items.read i
    if same item.value then pure (some i) else findMatch same is

/-- "look for oldest" -/
def findOldest : List Nat → Nat → Int → Run Nat
  | [], index, _ => pure index
  | i :: is, index, oldest => do
    let item ← items.read i
    if item.stamp < oldest then findOldest is i item.stamp else findOldest is index oldest

/-- A value among the items `is`: its index, whether it is new, and the items afterwards.  If there
are no items it goes to `first`. -/
def addStamped (is : List Nat) (first : Nat) (same : α → Bool) (stamp : Int) (value : α) :
    Run (Nat × Bool × Buf (Stamped α)) := do
  let found ← findMatch items same is
  match found with
  | some i => do
    let item ← items.read i
    let items ← items.write i { item with stamp }
    pure (i, false, items)
  | none => do
    let i ← findOldest items is first 0x7fffffff
    let items ← items.write i ⟨stamp, value⟩
    pure (i, true, items)

end

/-! ## What is cached -/

/-- `struct xrdp_palette_item`, its colors. -/
abbrev Palette : Type := Fin 256 → Int

/-- `struct xrdp_font_char`; `data` is null in an item that has not been used. -/
structure FontChar where
  offset : Int
  baseline : Int
  width : Int
  height : Int
  data : Option (List UInt8)

/-- `FONT_DATASIZE`. -/
def FontChar.datasize (f : FontChar) : Nat :=
  ((f.height * (f.width + 7).tdiv 8 + 3) / 4 * 4).toNat

/-- The first `FONT_DATASIZE` bytes of the data. -/
def FontChar.bytes (f : FontChar) (datasize : Nat) : List UInt8 := (f.data.getD []).take datasize

/-- `xrdp_font_item_compare`. -/
def xrdpFontItemCompare (font1 font2 : FontChar) : Bool :=
  font1.offset = font2.offset ∧ font1.baseline = font2.baseline ∧ font1.width = font2.width ∧
    font1.height = font2.height ∧ font1.bytes font1.datasize = font2.bytes font1.datasize

/-- `struct xrdp_pointer_item`. -/
structure PointerItem where
  x : Int
  y : Int
  data : Fin (32 * 32 * 4) → UInt8
  mask : Fin (32 * 32 / 8) → UInt8
  bpp : Int
  deriving DecidableEq

/-- The pattern of `struct xrdp_brush_item`. -/
abbrev BrushPattern : Type := Fin 8 → UInt8

/-- `struct xrdp_bitmap` of type `WND_TYPE_OFFSCREEN`; `tabStop` says that it has been created at
the client. -/
structure OsBitmapItem where
  width : Int
  height : Int
  tabStop : Bool

/-! ## The struct -/

/-- `struct xrdp_cache`. -/
structure XrdpCaches where
  paletteStamp : Int
  paletteItems : Buf (Stamped Palette)
  bitmaps : XrdpCache
  bitmapCachePersistEnable : Int
  charStamp : Int
  /-- `char_items[f][c]` is at `256 * f + c`. -/
  charItems : Buf (Stamped FontChar)
  pointerStamp : Int
  pointerItems : Buf (Stamped PointerItem)
  pointerCacheEntries : Int
  brushStamp : Int
  brushItems : Buf (Stamped BrushPattern)
  osBitmapItems : Buf (Option OsBitmapItem)
  /-- `xrdp_os_del_list`, if it is not null. -/
  xrdpOsDelList : Option (List Nat)

/-- What `struct xrdp_client_info` says about caches. -/
structure ClientCaches extends ClientInfo where
  bitmapCachePersistEnable : Int
  pointerCacheEntries : Int
  bpp : Int

/-- The struct filled with zeros. -/
def XrdpCaches.zero (bitmaps : XrdpCache) : XrdpCaches where
  paletteStamp := 0
  paletteItems := ⟨6, fun _ => ⟨0, fun _ => 0⟩⟩
  bitmaps
  bitmapCachePersistEnable := 0
  charStamp := 0
  charItems := ⟨12 * 256, fun _ => ⟨0, ⟨0, 0, 0, 0, none⟩⟩⟩
  pointerStamp := 0
  pointerItems := ⟨32, fun _ => ⟨0, ⟨0, 0, fun _ => 0, fun _ => 0, 0⟩⟩⟩
  pointerCacheEntries := 0
  brushStamp := 0
  brushItems := ⟨64, fun _ => ⟨0, fun _ => 0⟩⟩
  osBitmapItems := ⟨2000, fun _ => none⟩
  xrdpOsDelList := none

/-- `xrdp_cache_create`. -/
def xrdpCachesCreate (info : ClientCaches) : XrdpCaches :=
  { XrdpCaches.zero (xrdpCacheCreate info.toClientInfo) with
    bitmapCachePersistEnable := info.bitmapCachePersistEnable
    pointerCacheEntries := info.pointerCacheEntries
    xrdpOsDelList := some [] }

/-- What a cache has allocated, by the pointers to it. -/
inductive Block where
  | bitmap (id : Fin 3) (idx : Nat)
  | charData (item : Nat)
  | osBitmap (rdpindex : Nat)
  | delList
  /-- The items of a crc list that has outgrown the array in the struct. -/
  | crcItems (id : Fin 3) (crc : Nat)
  deriving DecidableEq

/-- The cache points to this block. -/
def XrdpCaches.holds (self : XrdpCaches) : Block → Bool
  | .bitmap id idx =>
    idx < XRDP_MAX_BITMAP_CACHE_IDX ∧ ((self.bitmaps.rows id).bitmapItems.cells idx).bitmap.isSome
  | .charData item => item < 12 * 256 ∧ (self.charItems.cells item).value.data.isSome
  | .osBitmap rdpindex => rdpindex < 2000 ∧ (self.osBitmapItems.cells rdpindex).isSome
  | .delList => self.xrdpOsDelList.isSome
  | .crcItems id crc => crc < 64 * 1024 ∧ 4 < ((self.bitmaps.rows id).crc16.cells crc).maxCount

/-- What `xrdp_cache_reset` frees: all the cached bitmaps and all the cached font items. -/
def XrdpCaches.resetFrees (self : XrdpCaches) : Block → Bool
  | .bitmap id idx => self.holds (.bitmap id idx)
  | .charData item => self.holds (.charData item)
  | _ => false

/-- `xrdp_cache_reset`, its bitmap caches: `xrdp_cache_reset_lru` and `xrdp_cache_reset_crc` on a
struct of zeros, and "set some stuff back". -/
def xrdpCacheReset (info : ClientInfo) : XrdpCache where
  bitmapStamp := 0
  rows _ := BitmapCache.reset
  useBitmapComp := info.useBitmapComp
  cache1Entries := info.cache1Entries
  cache1Size := info.cache1Size
  cache2Entries := info.cache2Entries
  cache2Size := info.cache2Size
  cache3Entries := info.cache3Entries
  cache3Size := info.cache3Size
  bitmapCacheVersion := info.bitmapCacheVersion

/-- `xrdp_cache_reset`: what it frees, and the struct afterwards, of which nothing is left but the
owner and the session. -/
def xrdpCachesReset (self : XrdpCaches) (info : ClientCaches) : (Block → Bool) × XrdpCaches :=
  (self.resetFrees,
    { XrdpCaches.zero (xrdpCacheReset info.toClientInfo) with
      bitmapCachePersistEnable := info.bitmapCachePersistEnable
      pointerCacheEntries := info.pointerCacheEntries })

/-! ## The operations -/

/-- What the cache sends to the client.  A pointer that is sent or set is the current one. -/
inductive CacheOrder where
  | palette (palette : Palette) (index : Nat)
  | bitmap (call : OrderCall)
  | font (fontItem : FontChar) (f c : Nat)
  | pointer (index : Int) (item : PointerItem)
  | setPointer (index : Int)
  | brush (pattern : BrushPattern) (index : Nat)
  | createOsSurface (id : Nat) (width height : Int) (delList : List Nat)

/-- What an operation returns. -/
inductive CacheValue where
  | int (n : Int)
  | osBitmap (item : Option (Option OsBitmapItem))

/-- What an operation returns, and what it sends. -/
structure CacheReply where
  value : CacheValue
  orders : List CacheOrder

/-- The operations.  What a function reads from the window manager comes with its arguments. -/
inductive CacheOp where
  | addPalette (screenBpp : Int) (palette : Option Palette)
  | addBitmap (req : Request)
  | addChar (fontItem : FontChar)
  | addPointer (item : PointerItem)
  | addPointerStatic (item : PointerItem) (index : Int)
  | addBrush (pattern : BrushPattern)
  | addOsBitmap (bitmap : OsBitmapItem) (rdpindex : Int)
  | removeOsBitmap (rdpindex : Int)
  | getOsBitmap (rdpindex : Int)
  | createOsSurface (rdpindex : Int)
  | reset (info : ClientCaches)

/-- An integer, and what is sent. -/
def CacheReply.int (n : Int) (orders : List CacheOrder) : CacheReply := ⟨.int n, orders⟩

section

variable (self : XrdpCaches)

/-- `xrdp_cache_add_palette`. -/
def xrdpCacheAddPalette (screenBpp : Int) (palette : Option Palette) :
    Run (CacheReply × XrdpCaches) :=
  match palette with
  | none => pure (.int 0 [], self)
  | some palette =>
    if screenBpp > 8 then pure (.int 0 [], self)
    else do
      let paletteStamp := int (self.paletteStamp + 1)
      let (index, new, paletteItems) ←
        addStamped self.paletteItems (List.range 6) 0 (fun p => palette = p) paletteStamp palette
      pure (.int index (if new then [.palette palette index] else []),
        { self with paletteStamp, paletteItems })

/-- `xrdp_cache_add_bitmap`. -/
def xrdpCacheAddBitmap (req : Request) : Run (CacheReply × XrdpCaches) := do
  let (reply, bitmaps) ← self.bitmaps.addBitmap req
  pure (.int reply.value (reply.calls.map .bitmap), { self with bitmaps })

/-- The items `char_items[f][c]` in use: `f` from 7 to 11, `c` up to 249. -/
def charIndexes : List Nat :=
  ((List.range 12).drop 7).flatMap fun f => (List.range 250).map fun c => 256 * f + c

/-- `xrdp_cache_add_char`; the index is `MAKELONG(c, f)`. -/
def xrdpCacheAddChar (fontItem : FontChar) : Run (CacheReply × XrdpCaches) := do
  let charStamp := int (self.charStamp + 1)
  let copy := { fontItem with data := some (fontItem.bytes fontItem.datasize) }
  let (i, new, charItems) ←
    addStamped self.charItems charIndexes 0 (fun fi => xrdpFontItemCompare fi fontItem)
      charStamp copy
  let f := i / 256
  let c := i % 256
  pure (.int (f * 2 ^ 16 + c : Nat) (if new then [.font copy f c] else []),
    { self with charStamp, charItems })

/-- `xrdp_cache_add_pointer`. -/
def xrdpCacheAddPointer (item : PointerItem) : Run (CacheReply × XrdpCaches) := do
  let pointerStamp := int (self.pointerStamp + 1)
  let (index, new, pointerItems) ←
    addStamped self.pointerItems ((List.range self.pointerCacheEntries.toNat).drop 2) 2
      (fun p => p = item) pointerStamp item
  pure (.int index [if new then .pointer index item else .setPointer index],
    { self with pointerStamp, pointerItems })

/-- `xrdp_cache_add_pointer_static`. -/
def xrdpCacheAddPointerStatic (item : PointerItem) (index : Int) :
    Run (CacheReply × XrdpCaches) := do
  let pointerItems ← setAt self.pointerItems index ⟨self.pointerStamp, item⟩
  pure (.int index [.pointer index item], { self with pointerItems })

/-- `xrdp_cache_add_brush`. -/
def xrdpCacheAddBrush (pattern : BrushPattern) : Run (CacheReply × XrdpCaches) := do
  let brushStamp := int (self.brushStamp + 1)
  let (index, new, brushItems) ←
    addStamped self.brushItems (List.range 64) 0 (fun p => p = pattern) brushStamp pattern
  pure (.int index (if new then [.brush pattern index] else []),
    { self with brushStamp, brushItems })

/-- A number is good for `os_bitmap_items`. -/
def osIndex (rdpindex : Int) : Bool := 0 ≤ rdpindex ∧ rdpindex < 2000

/-- `xrdp_cache_add_os_bitmap`. -/
def xrdpCacheAddOsBitmap (bitmap : OsBitmapItem) (rdpindex : Int) :
    Run (CacheReply × XrdpCaches) :=
  if osIndex rdpindex = false then pure (.int 1 [], self)
  else do
    let osBitmapItems ← self.osBitmapItems.write rdpindex.toNat (some bitmap)
    pure (.int 0 [], { self with osBitmapItems })

/-- What a pointer that may be null points to. -/
def derefOpt {α : Type} : Option α → Run α
  | none => .error .outOfBounds
  | some a => pure a

/-- The deletion list with the number of a bitmap that is removed. -/
def XrdpCaches.noteDeletion (bitmap : OsBitmapItem) (rdpindex : Nat) :
    Run (Option (List Nat)) :=
  if bitmap.tabStop then do
    let delList ← derefOpt self.xrdpOsDelList
    pure (some (if rdpindex ∈ delList then delList else delList ++ [rdpindex]))
  else pure self.xrdpOsDelList

/-- `xrdp_cache_remove_os_bitmap`. -/
def xrdpCacheRemoveOsBitmap (rdpindex : Int) : Run (CacheReply × XrdpCaches) :=
  if osIndex rdpindex = false then pure (.int 1 [], self)
  else do
    let item ← self.osBitmapItems.read rdpindex.toNat
    let bitmap ← derefOpt item
    let xrdpOsDelList ← self.noteDeletion bitmap rdpindex.toNat
    let osBitmapItems ← self.osBitmapItems.write rdpindex.toNat none
    pure (.int 0 [], { self with osBitmapItems, xrdpOsDelList })

/-- `xrdp_cache_get_os_bitmap`: null, or the item. -/
def xrdpCacheGetOsBitmap (rdpindex : Int) : Run (CacheReply × XrdpCaches) :=
  if osIndex rdpindex = false then pure (⟨.osBitmap none, []⟩, self)
  else do
    let item ← self.osBitmapItems.read rdpindex.toNat
    pure (⟨.osBitmap (some item), []⟩, self)

/-- The bitmap of an item is created at the client unless it is there, and all deletions are sent
with it; this stands in `wm_painter_set_target` and in `xrdp_painter_copy`. -/
def XrdpCaches.sendCreate (bitmap : OsBitmapItem) (rdpindex : Nat) :
    Run (CacheReply × XrdpCaches) :=
  if bitmap.tabStop then pure (.int 0 [], self)
  else do
    let delList ← derefOpt self.xrdpOsDelList
    let osBitmapItems ← self.osBitmapItems.write rdpindex (some { bitmap with tabStop := true })
    pure (.int 0 [.createOsSurface rdpindex bitmap.width bitmap.height (delList.erase rdpindex)],
      { self with osBitmapItems, xrdpOsDelList := some [] })

/-- The painter switches to the bitmap of an item, or paints from it, if there is one. -/
def xrdpPainterCreateOsSurface (rdpindex : Int) : Run (CacheReply × XrdpCaches) :=
  if osIndex rdpindex = false then pure (.int 0 [], self)
  else do
    let item ← self.osBitmapItems.read rdpindex.toNat
    match item with
    | none => pure (.int 0 [], self)
    | some bitmap => self.sendCreate bitmap rdpindex.toNat

/-- An operation. -/
def XrdpCaches.step : CacheOp → Run (CacheReply × XrdpCaches)
  | .addPalette screenBpp palette => xrdpCacheAddPalette self screenBpp palette
  | .addBitmap req => xrdpCacheAddBitmap self req
  | .addChar fontItem => xrdpCacheAddChar self fontItem
  | .addPointer item => xrdpCacheAddPointer self item
  | .addPointerStatic item index => xrdpCacheAddPointerStatic self item index
  | .addBrush pattern => xrdpCacheAddBrush self pattern
  | .addOsBitmap bitmap rdpindex => xrdpCacheAddOsBitmap self bitmap rdpindex
  | .removeOsBitmap rdpindex => xrdpCacheRemoveOsBitmap self rdpindex
  | .getOsBitmap rdpindex => xrdpCacheGetOsBitmap self rdpindex
  | .createOsSurface rdpindex => xrdpPainterCreateOsSurface self rdpindex
  | .reset info => pure (.int 0 [], (xrdpCachesReset self info).2)

end

/-- What is seen of a sequence of operations: the replies, and why it stops if it does. -/
def XrdpCaches.behaviour (self : XrdpCaches) : List CacheOp → List CacheReply × Option Stuck
  | [] => ([], none)
  | op :: ops =>
    match self.step op with
    | .error e => ([], some e)
    | .ok (reply, self) =>
      let (replies, stuck) := self.behaviour ops
      (reply :: replies, stuck)

/-! ## Capabilities -/

/-- The capability sets that bear on caches. -/
inductive CapsType where
  | order
  | bitmapcache
  | bitmapcacheRev2
  | pointer
  deriving DecidableEq

/-- `in_uint16_le` and `in_uint32_le` at a place of a set. -/
def capsAt (s : List UInt8) (at' n : Nat) : Nat := leVal ((s.drop at').take n)

/-- `MIN(i, XRDP_MAX_BITMAP_CACHE_IDX)` and `MAX(i, 0)`. -/
def capsEntries (i : Int) : Int := max (min i XRDP_MAX_BITMAP_CACHE_IDX) 0

section

variable (info : ClientCaches) (s : List UInt8)

/-- `xrdp_caps_process_order`, if it is long enough. -/
def xrdpCapsProcessOrder : ClientCaches :=
  if s.length < 20 + 2 + 2 + 2 + 2 + 2 + 2 + 32 + 2 + 2 + 4 + 4 + 4 + 4 then info
  else
    let capFlags := capsAt s 30 2
    let exFlags := capsAt s 66 2
    -- ORDER_FLAGS_EXTRA_SUPPORT, XR_ORDERFLAGS_EX_CACHE_BITMAP_REV3_SUPPORT
    if capFlags &&& 0x80 ≠ 0 ∧ exFlags &&& 0x0002 ≠ 0 then
      { info with bitmapCacheVersion := info.bitmapCacheVersion ||| 4 }
    else info

/-- `xrdp_caps_process_bmpcache`. -/
def xrdpCapsProcessBmpcache : ClientCaches :=
  if s.length < 24 + 2 + 2 + 2 + 2 + 2 + 2 then info
  else
    { info with
      bitmapCacheVersion := info.bitmapCacheVersion ||| 1
      cache1Entries := capsEntries (capsAt s 24 2)
      cache1Size := capsAt s 26 2
      cache2Entries := capsEntries (capsAt s 28 2)
      cache2Size := capsAt s 30 2
      cache3Entries := capsEntries (capsAt s 32 2)
      cache3Size := capsAt s 34 2 }

/-- `xrdp_caps_process_bmpcache2`. -/
def xrdpCapsProcessBmpcache2 : ClientCaches :=
  if s.length < 2 + 2 + 4 + 4 + 4 then info
  else
    let Bpp := (info.bpp + 7).tdiv 8
    { info with
      bitmapCacheVersion := info.bitmapCacheVersion ||| 2
      bitmapCachePersistEnable := capsAt s 0 2
      cache1Entries := capsEntries (int (capsAt s 4 4))
      cache1Size := int (256 * Bpp)
      cache2Entries := capsEntries (int (capsAt s 8 4))
      cache2Size := int (1024 * Bpp)
      -- `i & 0x7fffffff`
      cache3Entries := capsEntries ((capsAt s 12 4 % 2 ^ 31 : Nat))
      cache3Size := int (4096 * Bpp) }

/-- `xrdp_caps_process_pointer`. -/
def xrdpCapsProcessPointer : ClientCaches :=
  if s.length < 2 + 2 + 2 then info
  else
    let colorPointerFlag := capsAt s 0 2
    { info with
      pointerCacheEntries :=
        if colorPointerFlag &&& 1 ≠ 0 then min (capsAt s 4 2) 32 else min (capsAt s 2 2) 32 }

/-- The cases of `xrdp_caps_process_confirm_active` that bear on caches. -/
def xrdpCapsProcess : CapsType → ClientCaches
  | .order => xrdpCapsProcessOrder info s
  | .bitmapcache => xrdpCapsProcessBmpcache info s
  | .bitmapcacheRev2 => xrdpCapsProcessBmpcache2 info s
  | .pointer => xrdpCapsProcessPointer info s

end

/-- What `xrdp_rdp_create` sets, "default 8 bit v1 color bitmap cache entries and size". -/
def ClientCaches.default (useBitmapComp : Bool) (bpp : Int) : ClientCaches where
  useBitmapComp
  cache1Entries := 600
  cache1Size := 256
  cache2Entries := 300
  cache2Size := 1024
  cache3Entries := 262
  cache3Size := 4096
  bitmapCacheVersion := 0
  bitmapCachePersistEnable := 0
  pointerCacheEntries := 0
  bpp

/-- Clients as the capability parser accepts them. -/
inductive ClientCaches.Accepted : ClientCaches → Prop where
  | default (useBitmapComp : Bool) (bpp : Int) : Accepted (.default useBitmapComp bpp)
  | caps {info : ClientCaches} (h : Accepted info) (type : CapsType) (s : List UInt8) :
    Accepted (xrdpCapsProcess info s type)
  /-- `libxrdp_reset`. -/
  | depth {info : ClientCaches} (h : Accepted info) (bpp : Int) : Accepted { info with bpp }

end Xrdp.Cache
