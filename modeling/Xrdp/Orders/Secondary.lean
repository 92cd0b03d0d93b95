import Xrdp.Orders.Drawing

/-!
# The functions for secondary orders

They fill the client's caches, and make and choose its offscreen surfaces.  Each declares a size,
counts the order and writes it; `xrdp_orders_cache_glyph_v2` can fail in the middle.

* `secondaryOrder` — what they have in common.
* `xrdpOrdersSendPalette`, …, `xrdpOrdersSendSwitchOsSurface`.
* `Call` — a call of an order function, primary or secondary.
-/

namespace Xrdp.Orders

open Wire

def TS_CACHE_BITMAP_UNCOMPRESSED : Nat := 0x00
def TS_CACHE_COLOR_TABLE : Nat := 0x01
def TS_CACHE_BITMAP_COMPRESSED : Nat := 0x02
def TS_CACHE_GLYPH : Nat := 0x03
def TS_CACHE_BITMAP_UNCOMPRESSED_REV2 : Nat := 0x04
def TS_CACHE_BITMAP_COMPRESSED_REV2 : Nat := 0x05
def TS_CACHE_BRUSH : Nat := 0x07
def TS_CACHE_BITMAP_COMPRESSED_REV3 : Nat := 0x08

/-- The order is counted and written, if one of its declared size fits. -/
def secondaryOrder (env : Env) (self : XrdpOrders) (maxSize : Int) (write : OutStream → Nat × OutStream) :
    Nat × XrdpOrders :=
  let (rv, self) := xrdpOrdersCheck env self maxSize
  if rv ≠ 0 then (1, self)
  else
    let (rv, out) := write self.out
    (rv, { self with orderCount := self.orderCount + 1, out })

/-- The bytes in front of a secondary order; the length is that after the type, less seven. -/
def secondaryHeader (len flags : Int) (type : Nat) : List UInt8 :=
  outLe 1 (TS_STANDARD ||| TS_SECONDARY : Nat) ++ outLe 2 (len - 7) ++ outLe 2 flags ++ outLe 1 type

/-! ## Palettes and brushes -/

/-- `xrdp_orders_send_palette`. -/
def xrdpOrdersSendPalette (env : Env) (self : XrdpOrders) (palette : Fin 256 → Int) (cacheId : Int) :
    Nat × XrdpOrders :=
  secondaryOrder env self 2000 fun out =>
    (0, out.put (secondaryHeader 1027 0 TS_CACHE_COLOR_TABLE ++ outLe 1 cacheId ++ outLe 2 256 ++
      (List.ofFn fun i => outLe 3 (palette i) ++ [0]).flatten))

/-- `xrdp_orders_send_brush`: `size` is the length of `data`. -/
def xrdpOrdersSendBrush (env : Env) (self : XrdpOrders) (width height bpp type : Int)
    (data : List UInt8) (cacheId : Int) : Nat × XrdpOrders :=
  secondaryOrder env self (data.length + 12) fun out =>
    (0, out.put (secondaryHeader (data.length + 6) 0 TS_CACHE_BRUSH ++ outLe 1 cacheId ++ outLe 1 bpp ++
      outLe 1 width ++ outLe 1 height ++ outLe 1 type ++ outLe 1 data.length ++ data))

/-! ## Bitmaps -/

namespace Bitmap

/-- `e`. -/
def e (b : Bitmap) : Nat := if b.width % 4 ≠ 0 then 4 - b.width % 4 else 0

/-- `Bpp`. -/
def Bpp (b : Bitmap) : Nat := (b.bpp + 7) / 8

/-- The bytes of a line that is sent as it is. -/
def lineBytes (b : Bitmap) : Nat := (b.width + b.e) * b.Bpp

/-- The bytes of pixel `j` of line `i` that are sent: with 24 bits, three of four. -/
def pixelBytes (b : Bitmap) (i j : Nat) : List UInt8 :=
  let size := if b.Bpp = 3 then 4 else b.Bpp
  (List.range b.Bpp).map fun k => b.data ((i * b.width + j) * size + k)

/-- The lines below `height`, the last one first, each with room for its padding. -/
def outLines (b : Bitmap) : Nat → OutStream → OutStream
  | 0, out => out
  | i + 1, out =>
    outLines b i ((out.put ((List.range b.width).flatMap (b.pixelBytes i))).skip (b.Bpp * b.e))

/-- The lines as they are, for the four `Bpp` that there are. -/
def outRaw (b : Bitmap) (height : Nat) (out : OutStream) : OutStream :=
  if 1 ≤ b.Bpp ∧ b.Bpp ≤ 4 then b.outLines height out else out

/-- The loop that leaves lines off until the rest fits behind `header` bytes. -/
def rawLines (b : Bitmap) (header : Nat) (maxOrderSize : Int) : Nat → Nat
  | 0 => 0
  | height + 1 =>
    if (b.lineBytes * (height + 1) + header : Int) > maxOrderSize then
      rawLines b header maxOrderSize height
    else height + 1

end Bitmap

/-- `xrdp_orders_send_raw_bitmap`. -/
def xrdpOrdersSendRawBitmap (env : Env) (self : XrdpOrders) (b : Bitmap) (cacheId cacheIdx : Int) :
    Nat × XrdpOrders :=
  if b.width > 64 ∨ b.height > 64 then (1, self)
  else
    let height := b.rawLines 16 env.maxOrdersSize b.height
    let bufsize := b.lineBytes * height
    secondaryOrder env self (bufsize + 16) fun out =>
      let out := out.put (secondaryHeader (bufsize + 9) 8 TS_CACHE_BITMAP_UNCOMPRESSED ++ outLe 1 cacheId)
      let out := out.skip 1
      let out := out.put (outLe 1 (b.width + b.e) ++ outLe 1 height ++ outLe 1 b.bpp ++
        outLe 2 bufsize ++ outLe 2 cacheIdx)
      (0, b.outRaw height out)

/-- `xrdp_orders_send_bitmap`. -/
def xrdpOrdersSendBitmap (env : Env) (self : XrdpOrders) (b : Bitmap) (cacheId cacheIdx : Int) :
    Nat × XrdpOrders :=
  if b.width > 64 ∨ b.height > 64 then (1, self)
  else
    let (height, data) := env.compress b env.maxOrdersSize
    let bufsize := data.length
    secondaryOrder env self (bufsize + 16) fun out =>
      let out := out.put (if env.op2 then secondaryHeader (bufsize + 9) 1024 TS_CACHE_BITMAP_COMPRESSED
        else secondaryHeader (bufsize + 9 + 8) 8 TS_CACHE_BITMAP_COMPRESSED)
      let out := (out.put (outLe 1 cacheId)).skip 1
      let out := out.put (outLe 1 (b.width + b.e) ++ outLe 1 height ++ outLe 1 b.bpp ++
        outLe 2 bufsize ++ outLe 2 cacheIdx)
      let out := if env.op2 then out
        else (out.skip 2).put (outLe 2 bufsize ++ outLe 2 b.lineBytes ++ outLe 2 (b.lineBytes * height))
      (0, out.put data)

/-- The fields of the second revision between the type and the data. -/
def bitmap2Fields (b : Bitmap) (height bufsize : Nat) (cacheIdx : Int) : List UInt8 :=
  outLe 1 (b.width + b.e) ++ outLe 1 height ++ beBytes 2 (bufsize ||| 0x4000) ++
    [UInt8.ofNat ((cacheIdx / 256 % 256).toNat ||| 0x80)] ++ outLe 1 cacheIdx

/-- The flags of the second and third revision. -/
def bitmap2Flags (b : Bitmap) (cacheId : Int) : Nat :=
  (((b.Bpp + 2) <<< 3) &&& 0x38) ||| (cacheId % 8).toNat

/-- `xrdp_orders_send_raw_bitmap2`. -/
def xrdpOrdersSendRawBitmap2 (env : Env) (self : XrdpOrders) (b : Bitmap) (cacheId cacheIdx : Int) :
    Nat × XrdpOrders :=
  if b.width > 64 ∨ b.height > 64 then (1, self)
  else
    let height := b.rawLines 14 env.maxOrdersSize b.height
    let bufsize := b.lineBytes * height
    secondaryOrder env self (bufsize + 14) fun out =>
      (0, b.outRaw height (out.put (secondaryHeader (bufsize + 6) (bitmap2Flags b cacheId)
        TS_CACHE_BITMAP_UNCOMPRESSED_REV2 ++ bitmap2Fields b height bufsize cacheIdx)))

/-- `xrdp_orders_send_bitmap2`: the flag is `CBR2_NO_BITMAP_COMPRESSION_HDR`. -/
def xrdpOrdersSendBitmap2 (env : Env) (self : XrdpOrders) (b : Bitmap) (cacheId cacheIdx : Int) :
    Nat × XrdpOrders :=
  if b.width > 64 ∨ b.height > 64 then (1, self)
  else
    let (height, data) := env.compress b env.maxOrdersSize
    secondaryOrder env self (data.length + 14) fun out =>
      (0, out.put (secondaryHeader (data.length + 6) (bitmap2Flags b cacheId ||| (0x08 <<< 7) : Nat)
        TS_CACHE_BITMAP_COMPRESSED_REV2 ++ bitmap2Fields b height data.length cacheIdx ++ data))

/-- `xrdp_orders_out_v3`. -/
def xrdpOrdersOutV3 (env : Env) (self : XrdpOrders) (cacheId cacheIdx : Int) (buf : List UInt8)
    (width : Nat) (b : Bitmap) (codecId : Int) : Nat × XrdpOrders :=
  secondaryOrder env self (buf.length + 30) fun out =>
    (0, out.put (secondaryHeader (buf.length + 22) (bitmap2Flags b cacheId)
      TS_CACHE_BITMAP_COMPRESSED_REV3 ++ outLe 2 cacheIdx ++ outLe 4 0 ++ outLe 4 0 ++ outLe 1 b.bpp ++
      [0, 0] ++ outLe 1 codecId ++ outLe 2 width ++ outLe 2 b.height ++ outLe 4 buf.length ++ buf))

/-- `xrdp_orders_send_as_rfx` and `xrdp_orders_send_as_jpeg`. -/
def sendAs (b : Bitmap) (hints : Int) (minPixel : Nat) : Bool :=
  hints % 2 = 0 && b.bpp == 24 && decide (minPixel ≤ b.width * b.height)

/-- `xrdp_orders_send_bitmap3`: 2 asks for another way; what `xrdp_orders_out_v3` returns is ignored. -/
def xrdpOrdersSendBitmap3 (env : Env) (self : XrdpOrders) (b : Bitmap) (cacheId cacheIdx hints : Int) :
    Nat × XrdpOrders :=
  if env.v3CodecId = 0 then (2, self)
  else if env.v3CodecId = env.rfxCodecId then
    match env.rfxCompress with
    | none => (2, self)
    | some compress =>
      if sendAs b hints env.rfxMinPixel then
        (0, (xrdpOrdersOutV3 env self cacheId cacheIdx (compress b) b.width b env.v3CodecId).2)
      else (2, self)
  else if env.v3CodecId = env.jpegCodecId then
    match env.jpegCompress with
    | none => (2, self)
    | some compress =>
      if sendAs b hints 64 then
        (0, (xrdpOrdersOutV3 env self cacheId cacheIdx (compress b) (b.width + b.e) b
          env.v3CodecId).2)
      else (2, self)
  else (1, self)

/-! ## Glyphs -/

/-- `struct xrdp_font_char`. -/
structure FontChar where
  offset : Int
  baseline : Int
  width : Int
  height : Int
  bpp : Int
  data : Nat → UInt8

/-- `datasize`, an `int`; `FONT_DATASIZE` without alpha. -/
def FontChar.datasize (c : FontChar) : Int :=
  if c.bpp = 8 then int ((c.width + 3) / 4 * 4 * c.height)
  else int ((c.height * (int (c.width + 7)).tdiv 8 + 3) / 4 * 4)

/-- The data of a glyph. -/
def FontChar.bytes (c : FontChar) : List UInt8 := (List.range c.datasize.toNat).map c.data

/-- `xrdp_orders_cache_glyph`. -/
def xrdpOrdersCacheGlyph (env : Env) (self : XrdpOrders) (c : FontChar) (fontIndex charIndex : Int) :
    Nat × XrdpOrders :=
  let flags : Nat := if c.bpp = 8 then 8 ||| 0x4000 else 8
  secondaryOrder env self (c.datasize + 18) fun out =>
    (0, out.put (secondaryHeader (c.datasize + 12) flags TS_CACHE_GLYPH ++ outLe 1 fontIndex ++
      outLe 1 1 ++ outLe 2 charIndex ++ outLe 2 c.offset ++ outLe 2 c.baseline ++ outLe 2 c.width ++
      outLe 2 c.height ++ c.bytes))

/-- `write_2byte_signed`. -/
def write2ByteSigned (s : OutStream) (value : Int) : Nat × OutStream :=
  let negative : Nat := if value < 0 then 0x40 else 0
  let value := value.natAbs
  if value > 0x3FFF then (1, s)
  else if value ≥ 0x3F then
    (0, (s.outUint8 (((value &&& 0x3F00) >>> 8) ||| negative ||| 0x80)).outUint8 (value &&& 0xFF))
  else (0, s.outUint8 ((value &&& 0x3F) ||| negative))

/-- `write_2byte_unsigned`. -/
def write2ByteUnsigned (s : OutStream) (value : Nat) : Nat × OutStream :=
  if value > 0x7FFF then (1, s)
  else if value ≥ 0x7F then
    (0, (s.outUint8 (((value &&& 0x7F00) >>> 8) ||| 0x80)).outUint8 (value &&& 0xFF))
  else (0, s.outUint8 (value &&& 0x7F))

/-- An `int` as an `unsigned int`. -/
def asUnsigned (v : Int) : Nat := (v % 2 ^ 32).toNat

/-- The four numbers of a glyph, up to one that cannot be written. -/
def outGlyph (c : FontChar) (s : OutStream) : Nat × OutStream :=
  let (rv, s) := write2ByteSigned s c.offset
  if rv ≠ 0 then (1, s)
  else
    let (rv, s) := write2ByteSigned s c.baseline
    if rv ≠ 0 then (1, s)
    else
      let (rv, s) := write2ByteUnsigned s (asUnsigned c.width)
      if rv ≠ 0 then (1, s)
      else write2ByteUnsigned s (asUnsigned c.height)

/-- `xrdp_orders_cache_glyph_v2`. -/
def xrdpOrdersCacheGlyphV2 (env : Env) (self : XrdpOrders) (c : FontChar) (fontIndex charIndex : Int) :
    Nat × XrdpOrders :=
  let extraFlags : Nat := (fontIndex % 16).toNat ||| (0x2 <<< 4) ||| (1 <<< 8)
  secondaryOrder env self (c.datasize + 15) fun out =>
    let out := out.outUint8 (TS_STANDARD ||| TS_SECONDARY)
    let lenPtr := out.p
    let out := out.put (outLe 2 0 ++ outLe 2 extraFlags ++ outLe 1 TS_CACHE_GLYPH ++ outLe 1 charIndex)
    let (rv, out) := outGlyph c out
    if rv ≠ 0 then (1, out)
    else
      let out := out.put c.bytes
      let len : Int := out.p - lenPtr + 1 - 13
      (0, { out with cells := writeAt out.cells lenPtr (outLe 2 len) })

/-- `xrdp_orders_send_font`. -/
def xrdpOrdersSendFont (env : Env) (self : XrdpOrders) (c : FontChar) (fontIndex charIndex : Int) :
    Nat × XrdpOrders :=
  if env.useCacheGlyphV2 then xrdpOrdersCacheGlyphV2 env self c fontIndex charIndex
  else xrdpOrdersCacheGlyph env self c fontIndex charIndex

/-! ## Offscreen surfaces -/

/-- `xrdp_orders_send_create_os_surface`: the order is an alternate secondary one. -/
def xrdpOrdersSendCreateOsSurface (env : Env) (self : XrdpOrders) (id width height : Int)
    (delList : List Int) : Nat × XrdpOrders :=
  let bytes : Int := if delList.length > 0 then 7 + 2 + delList.length * 2 else 7
  secondaryOrder env self bytes fun out =>
    let flags : Int := id % 2 ^ 15 + if delList.length > 0 then 0x8000 else 0
    let out := out.put (outLe 1 (TS_SECONDARY ||| (1 <<< 2) : Nat) ++ outLe 2 flags ++ outLe 2 width ++
      outLe 2 height)
    (0, if delList.length > 0 then
        out.put (outLe 2 delList.length ++ delList.flatMap fun id => outLe 2 (id % 2 ^ 15))
      else out)

/-- `xrdp_orders_send_switch_os_surface`. -/
def xrdpOrdersSendSwitchOsSurface (env : Env) (self : XrdpOrders) (id : Int) : Nat × XrdpOrders :=
  secondaryOrder env self 3 fun out => (0, out.put (outLe 1 (TS_SECONDARY : Nat) ++ outLe 2 id))

/-! ## Calls -/

/-- A call of one of the functions for secondary orders. -/
inductive SecondaryCall where
  | palette (palette : Fin 256 → Int) (cacheId : Int)
  | rawBitmap (b : Bitmap) (cacheId cacheIdx : Int)
  | bitmap (b : Bitmap) (cacheId cacheIdx : Int)
  | font (c : FontChar) (fontIndex charIndex : Int)
  | rawBitmap2 (b : Bitmap) (cacheId cacheIdx : Int)
  | bitmap2 (b : Bitmap) (cacheId cacheIdx : Int)
  | bitmap3 (b : Bitmap) (cacheId cacheIdx hints : Int)
  | brush (width height bpp type : Int) (data : List UInt8) (cacheId : Int)
  | createOsSurface (id width height : Int) (delList : List Int)
  | switchOsSurface (id : Int)

def SecondaryCall.run (env : Env) (self : XrdpOrders) : SecondaryCall → Nat × XrdpOrders
  | palette p cacheId => xrdpOrdersSendPalette env self p cacheId
  | rawBitmap b cacheId cacheIdx => xrdpOrdersSendRawBitmap env self b cacheId cacheIdx
  | bitmap b cacheId cacheIdx => xrdpOrdersSendBitmap env self b cacheId cacheIdx
  | font c fontIndex charIndex => xrdpOrdersSendFont env self c fontIndex charIndex
  | rawBitmap2 b cacheId cacheIdx => xrdpOrdersSendRawBitmap2 env self b cacheId cacheIdx
  | bitmap2 b cacheId cacheIdx => xrdpOrdersSendBitmap2 env self b cacheId cacheIdx
  | bitmap3 b cacheId cacheIdx hints => xrdpOrdersSendBitmap3 env self b cacheId cacheIdx hints
  | brush width height bpp type data cacheId =>
    xrdpOrdersSendBrush env self width height bpp type data cacheId
  | createOsSurface id width height delList =>
    xrdpOrdersSendCreateOsSurface env self id width height delList
  | switchOsSurface id => xrdpOrdersSendSwitchOsSurface env self id

/-- A call of an order function. -/
inductive Call where
  | primary (c : PrimaryCall) (clip : Option Rect)
  | secondary (c : SecondaryCall)

def Call.run (env : Env) (self : XrdpOrders) : Call → Nat × XrdpOrders
  | primary c clip => c.run env self clip
  | secondary c => c.run env self

end Xrdp.Orders
