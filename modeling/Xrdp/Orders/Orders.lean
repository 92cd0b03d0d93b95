import Xrdp.Fastpath.OutStream

/-!
# Drawing orders: the layer (`libxrdp/xrdp_orders.c`)

Orders are collected in one update PDU, whose count of orders is written when it goes out.  Groups of
orders nest; an order that would not fit sends what there is and begins a new PDU.

* `XrdpOrders` — `struct xrdp_orders`, with what has been sent.
* `Env` — the client's settings and what the layers below do.
* `xrdpOrdersInit`, `xrdpOrdersSend`, `xrdpOrdersForceSend`, `xrdpOrdersCheck`, `xrdpOrdersReset`.
-/

namespace Xrdp.Orders

open Wire

/-! ## State -/

/-- `struct xrdp_rect`. -/
structure Rect where
  left : Int
  top : Int
  right : Int
  bottom : Int
  deriving DecidableEq, Repr

/-- `struct xrdp_brush`. -/
structure Brush where
  xOrigin : Int
  yOrigin : Int
  style : Int
  pattern : Fin 8 → UInt8
  deriving DecidableEq

/-- `struct xrdp_pen`. -/
structure Pen where
  style : Int
  width : Int
  color : Int
  deriving DecidableEq, Repr

/-- What is remembered of the last order of each type: `rect_x` and so on. -/
structure SolidRect where
  x : Int
  y : Int
  cx : Int
  cy : Int
  color : Int
  deriving DecidableEq, Repr

/-- `scr_blt_x` and so on. -/
structure ScreenBlt where
  x : Int
  y : Int
  cx : Int
  cy : Int
  rop : Int
  srcx : Int
  srcy : Int
  deriving DecidableEq, Repr

/-- `pat_blt_x` and so on. -/
structure PatBlt where
  x : Int
  y : Int
  cx : Int
  cy : Int
  rop : Int
  bgColor : Int
  fgColor : Int
  brush : Brush
  deriving DecidableEq

/-- `dest_blt_x` and so on. -/
structure DestBlt where
  x : Int
  y : Int
  cx : Int
  cy : Int
  rop : Int
  deriving DecidableEq, Repr

/-- `line_mix_mode` and so on. -/
structure Line where
  mixMode : Int
  startx : Int
  starty : Int
  endx : Int
  endy : Int
  bgColor : Int
  rop : Int
  pen : Pen
  deriving DecidableEq, Repr

/-- `mem_blt_color_table` and so on. -/
structure MemBlt where
  colorTable : Int
  cacheId : Int
  x : Int
  y : Int
  cx : Int
  cy : Int
  rop : Int
  srcx : Int
  srcy : Int
  cacheIdx : Int
  deriving DecidableEq, Repr

/-- `text_font` and so on. -/
structure Text where
  font : Int
  flags : Int
  mixmode : Int
  fgColor : Int
  bgColor : Int
  clip : Rect
  box : Rect
  x : Int
  y : Int
  deriving DecidableEq, Repr

/-- `com_blt_srcidx` and so on. -/
structure CompositeBlt where
  srcidx : Int
  srcformat : Int
  srcwidth : Int
  srcrepeat : Int
  srctransform : Fin 10 → Int
  mskflags : Int
  mskidx : Int
  mskformat : Int
  mskwidth : Int
  mskrepeat : Int
  op : Int
  srcx : Int
  srcy : Int
  mskx : Int
  msky : Int
  dstx : Int
  dsty : Int
  width : Int
  height : Int
  dstformat : Int
  deriving DecidableEq

/-- `struct xrdp_orders_state`. -/
structure OrdersState where
  lastOrder : Nat
  clip : Rect
  rect : SolidRect
  scrBlt : ScreenBlt
  patBlt : PatBlt
  destBlt : DestBlt
  line : Line
  memBlt : MemBlt
  text : Text
  comBlt : CompositeBlt
  deriving DecidableEq

/-- All values zero, but for the "silly" right and bottom clip. -/
def OrdersState.zero : OrdersState where
  lastOrder := 0
  clip := ⟨0, 0, 1, 1⟩
  rect := ⟨0, 0, 0, 0, 0⟩
  scrBlt := ⟨0, 0, 0, 0, 0, 0, 0⟩
  patBlt := ⟨0, 0, 0, 0, 0, 0, 0, ⟨0, 0, 0, fun _ => 0⟩⟩
  destBlt := ⟨0, 0, 0, 0, 0⟩
  line := ⟨0, 0, 0, 0, 0, 0, 0, ⟨0, 0, 0⟩⟩
  memBlt := ⟨0, 0, 0, 0, 0, 0, 0, 0, 0, 0⟩
  text := ⟨0, 0, 0, 0, 0, ⟨0, 0, 0, 0⟩, ⟨0, 0, 0, 0⟩, 0, 0⟩
  comBlt := ⟨0, 0, 0, 0, fun _ => 0, 0, 0, 0, 0, 0, 0, 0, 0, 0, 0, 0, 0, 0, 0, 0⟩

/-- `struct xrdp_orders`. -/
structure XrdpOrders where
  out : OutStream
  /-- `order_count_ptr`; 0 is the null pointer. -/
  orderCountPtr : Nat
  orderCount : Nat
  orderLevel : Nat
  state : OrdersState
  /-- The updates that have been sent. -/
  sent : List (List UInt8)

/-- A bitmap of 8, 15, 16, 24 or 32 bits, or of none that is known. -/
structure Bitmap where
  width : Nat
  height : Nat
  bpp : Nat
  data : Nat → UInt8

/-- The settings of the client, the compressors and the layers below. -/
structure Env where
  maxFastpathFragBytes : Int
  useFastPath : Bool
  op2 : Bool
  useCacheGlyphV2 : Bool
  v3CodecId : Int
  rfxCodecId : Int
  jpegCodecId : Int
  /-- `xrdp_bitmap_compress` and `xrdp_bitmap32_compress`: the lines and the bytes, given the limit. -/
  compress : Bitmap → Int → Nat × List UInt8
  /-- What is built with `XRDP_NEUTRINORDP` and `XRDP_JPEG`. -/
  rfxCompress : Option (Bitmap → List UInt8)
  jpegCompress : Option (Bitmap → List UInt8)
  rfxMinPixel : Nat
  /-- What `xrdp_rdp_init_fastpath` or `xrdp_rdp_init_data` reserves for headers. -/
  headerBytes : Nat
  /-- Whether sending succeeds, given all updates up to the one to be sent. -/
  sendOk : List (List UInt8) → Bool
  /-- What sending leaves of the stream. -/
  afterSend : OutStream → OutStream

/-- `MAX_ORDERS_SIZE`. -/
def Env.maxOrdersSize (env : Env) : Int := max env.maxFastpathFragBytes (16 * 1024) - 256

def RDP_UPDATE_ORDERS : Nat := 0

/-! ## Updates -/

/-- `xrdp_orders_create`: the stream has been made. -/
def xrdpOrdersCreate (out : OutStream) : XrdpOrders where
  out := out
  orderCountPtr := 0
  orderCount := 0
  orderLevel := 0
  state := .zero
  sent := []

/-- `xrdp_orders_init`. -/
def xrdpOrdersInit (env : Env) (self : XrdpOrders) : XrdpOrders :=
  let self := { self with orderLevel := self.orderLevel + 1 }
  if self.orderLevel = 1 then
    let out := { self.out with p := self.out.data + env.headerBytes, end_ := self.out.data }
    if env.useFastPath then
      { self with orderCount := 0, orderCountPtr := out.p, out := out.skip 2 }
    else
      let out := (out.outUint16Le RDP_UPDATE_ORDERS).skip 2
      { self with orderCount := 0, orderCountPtr := out.p, out := (out.skip 2).skip 2 }
  else self

/-- `xrdp_rdp_send_fastpath` or `xrdp_rdp_send_data`: the update behind the headers. -/
def xrdpRdpSend (env : Env) (self : XrdpOrders) : Nat × XrdpOrders :=
  let start := self.out.data + env.headerBytes
  let sent := self.sent ++ [bytesAt self.out.cells start (self.out.end_ - start)]
  let self := { self with out := env.afterSend self.out }
  if env.sendOk sent then (0, { self with sent }) else (1, self)

/-- The count is written, and the end marked. -/
def XrdpOrders.close (self : XrdpOrders) : XrdpOrders :=
  { self with out := { self.out with
      end_ := self.out.p
      cells := writeAt self.out.cells self.orderCountPtr (leBytes 2 self.orderCount) } }

/-- `xrdp_orders_send`. -/
def xrdpOrdersSend (env : Env) (self : XrdpOrders) : Nat × XrdpOrders :=
  if self.orderLevel > 0 then
    let self := { self with orderLevel := self.orderLevel - 1 }
    if self.orderLevel = 0 ∧ self.orderCount > 0 then
      xrdpRdpSend env { self.close with orderCount := 0 }
    else (0, self)
  else (0, self)

/-- `xrdp_orders_force_send`. -/
def xrdpOrdersForceSend (env : Env) (self : XrdpOrders) : Nat × XrdpOrders :=
  let (rv, self) :=
    if self.orderLevel > 0 ∧ self.orderCount > 0 then xrdpRdpSend env self.close else (0, self)
  if rv ≠ 0 then (1, self)
  else (0, { self with orderCount := 0, orderLevel := 0 })

/-- What an `int` makes of a number. -/
def int (v : Int) : Int := v.bmod (2 ^ 32)

/-- `xrdp_orders_check`: will an order of at most `max_size` bytes fit?  The size is an `int`, also where it
has been added up. -/
def xrdpOrdersCheck (env : Env) (self : XrdpOrders) (maxSize : Int) : Nat × XrdpOrders :=
  let maxSize := int maxSize
  if self.orderLevel < 1 then
    if maxSize > env.maxOrdersSize then (1, self) else (0, xrdpOrdersInit env self)
  else
    let size : Int := self.out.p - self.orderCountPtr
    if size < 0 then (1, self)
    else if int (size + maxSize + 100) > env.maxOrdersSize then
      (0, xrdpOrdersInit env (xrdpOrdersForceSend env self).2)
    else (0, self)

/-- `xrdp_orders_reset`. -/
def xrdpOrdersReset (env : Env) (self : XrdpOrders) : Nat × XrdpOrders :=
  let (rv, self) := xrdpOrdersForceSend env self
  if rv ≠ 0 then (1, self)
  else (0, { self with state := .zero, orderCountPtr := 0, orderCount := 0, orderLevel := 0 })

end Xrdp.Orders
