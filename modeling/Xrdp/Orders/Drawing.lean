import Xrdp.Orders.Wrote

/-!
# The functions for primary orders

Each is `primaryOrder` for its own `Kind`: the fields stand in the order in which they are written,
with their bits.

* `coord`, `intField` — coordinates, and fields of so many bytes.
* `xrdpOrdersRect`, …, `xrdpOrdersText`, `xrdpOrdersCompositeBlt`.
* `PrimaryCall` — a call of one of them, and `PrimaryCall.run_eq`.
-/

namespace Xrdp.Orders

open Wire

def RDP_ORDER_DESTBLT : Nat := 0
def RDP_ORDER_PATBLT : Nat := 1
def RDP_ORDER_SCREENBLT : Nat := 2
def RDP_ORDER_LINE : Nat := 9
def RDP_ORDER_RECT : Nat := 10
def RDP_ORDER_MEMBLT : Nat := 13
def RDP_ORDER_TEXT2 : Nat := 27
def RDP_ORDER_COMPOSITE : Nat := 37

/-! ## Fields -/

section

variable {α ρ : Type}

/-- A coordinate: its difference if the differences are small. -/
def coord (bit : Nat) (new : α → Int) (last : ρ → Int) (set : ρ → Int → ρ) : Field α ρ where
  bit := bit
  changed a r := new a ≠ last r
  bytes delta a r := if delta then outLe 1 (new a - last r) else outLe 2 (new a)
  remember a r := set r (new a)

/-- A field of `n` bytes. -/
def intField (n bit : Nat) (new : α → Int) (last : ρ → Int) (set : ρ → Int → ρ) : Field α ρ where
  bit := bit
  changed a r := new a ≠ last r
  bytes _ a _ := outLe n (new a)
  remember a r := set r (new a)

end

/-- Whether a rectangle reaches out of the clip. -/
def reachesOut (x y cx cy : Int) (rect : Rect) : Bool :=
  x < rect.left || y < rect.top || x + cx > rect.right || y + cy > rect.bottom

/-! ## Rectangles and blts -/

/-- Byte `i` of a color. -/
def colorByte (i : Nat) (color : Int) : Int := color / 256 ^ i % 256

/-- One byte of the color of a rectangle, which is sent and remembered apart from the others. -/
def rectColor (i bit : Nat) : Field SolidRect SolidRect where
  bit := bit
  changed a r := colorByte i a.color ≠ colorByte i r.color
  bytes _ a _ := outLe 1 (colorByte i a.color)
  remember a r := { r with
    color := r.color % 2 ^ 24 - colorByte i r.color * 256 ^ i + colorByte i a.color * 256 ^ i }

def rectKind : Kind SolidRect SolidRect where
  type := RDP_ORDER_RECT
  maxSize _ := 23
  presentSize := 1
  clipNeeded a rect := reachesOut a.x a.y a.cx a.cy rect
  hasDeltas := true
  vals a r := [(a.x, r.x), (a.y, r.y), (a.cx, r.cx), (a.cy, r.cy)]
  fields := [
    coord 0x01 (·.x) (·.x) fun r v => { r with x := v },
    coord 0x02 (·.y) (·.y) fun r v => { r with y := v },
    coord 0x04 (·.cx) (·.cx) fun r v => { r with cx := v },
    coord 0x08 (·.cy) (·.cy) fun r v => { r with cy := v },
    rectColor 0 0x10, rectColor 1 0x20, rectColor 2 0x40]
  get st := st.rect
  set st r := { st with rect := r }

/-- `xrdp_orders_rect`. -/
def xrdpOrdersRect (env : Env) (self : XrdpOrders) (x y cx cy color : Int) (rect : Option Rect) :
    Nat × XrdpOrders :=
  primaryOrder env rectKind self ⟨x, y, cx, cy, color⟩ rect

def screenBltKind : Kind ScreenBlt ScreenBlt where
  type := RDP_ORDER_SCREENBLT
  maxSize _ := 25
  presentSize := 1
  clipNeeded a rect := reachesOut a.x a.y a.cx a.cy rect
  hasDeltas := true
  vals a r := [(a.x, r.x), (a.y, r.y), (a.cx, r.cx), (a.cy, r.cy), (a.srcx, r.srcx), (a.srcy, r.srcy)]
  fields := [
    coord 0x01 (·.x) (·.x) fun r v => { r with x := v },
    coord 0x02 (·.y) (·.y) fun r v => { r with y := v },
    coord 0x04 (·.cx) (·.cx) fun r v => { r with cx := v },
    coord 0x08 (·.cy) (·.cy) fun r v => { r with cy := v },
    intField 1 0x10 (·.rop) (·.rop) fun r v => { r with rop := v },
    coord 0x20 (·.srcx) (·.srcx) fun r v => { r with srcx := v },
    coord 0x40 (·.srcy) (·.srcy) fun r v => { r with srcy := v }]
  get st := st.scrBlt
  set st r := { st with scrBlt := r }

/-- `xrdp_orders_screen_blt`. -/
def xrdpOrdersScreenBlt (env : Env) (self : XrdpOrders) (x y cx cy srcx srcy rop : Int)
    (rect : Option Rect) : Nat × XrdpOrders :=
  primaryOrder env screenBltKind self ⟨x, y, cx, cy, rop, srcx, srcy⟩ rect

/-- `pattern[0]` of the brush. -/
def brushPattern0 : Field PatBlt PatBlt where
  bit := 0x0400
  changed a r := a.brush.pattern 0 ≠ r.brush.pattern 0
  bytes _ a _ := [a.brush.pattern 0]
  remember a r := { r with brush := { r.brush with
    pattern := Function.update r.brush.pattern 0 (a.brush.pattern 0) } }

/-- The other seven bytes of the pattern. -/
def brushPattern1 : Field PatBlt PatBlt where
  bit := 0x0800
  changed a r := decide (∃ i : Fin 7, a.brush.pattern i.succ ≠ r.brush.pattern i.succ)
  bytes _ a _ := List.ofFn fun i : Fin 7 => a.brush.pattern i.succ
  remember a r := { r with brush := { r.brush with
    pattern := fun i => if i = 0 then r.brush.pattern i else a.brush.pattern i } }

def patBltKind : Kind PatBlt PatBlt where
  type := RDP_ORDER_PATBLT
  maxSize _ := 39
  presentSize := 2
  clipNeeded a rect := reachesOut a.x a.y a.cx a.cy rect
  hasDeltas := true
  vals a r := [(a.x, r.x), (a.y, r.y), (a.cx, r.cx), (a.cy, r.cy)]
  fields := [
    coord 0x0001 (·.x) (·.x) fun r v => { r with x := v },
    coord 0x0002 (·.y) (·.y) fun r v => { r with y := v },
    coord 0x0004 (·.cx) (·.cx) fun r v => { r with cx := v },
    coord 0x0008 (·.cy) (·.cy) fun r v => { r with cy := v },
    intField 1 0x0010 (·.rop) (·.rop) fun r v => { r with rop := v },
    intField 3 0x0020 (·.bgColor) (·.bgColor) fun r v => { r with bgColor := v },
    intField 3 0x0040 (·.fgColor) (·.fgColor) fun r v => { r with fgColor := v },
    intField 1 0x0080 (·.brush.xOrigin) (·.brush.xOrigin)
      fun r v => { r with brush := { r.brush with xOrigin := v } },
    intField 1 0x0100 (·.brush.yOrigin) (·.brush.yOrigin)
      fun r v => { r with brush := { r.brush with yOrigin := v } },
    intField 1 0x0200 (·.brush.style) (·.brush.style)
      fun r v => { r with brush := { r.brush with style := v } },
    brushPattern0, brushPattern1]
  get st := st.patBlt
  set st r := { st with patBlt := r }

/-- `xrdp_orders_pat_blt`: "if nil use blank one". -/
def xrdpOrdersPatBlt (env : Env) (self : XrdpOrders) (x y cx cy rop bgColor fgColor : Int)
    (brush : Option Brush) (rect : Option Rect) : Nat × XrdpOrders :=
  primaryOrder env patBltKind self
    ⟨x, y, cx, cy, rop, bgColor, fgColor, brush.getD ⟨0, 0, 0, fun _ => 0⟩⟩ rect

def destBltKind : Kind DestBlt DestBlt where
  type := RDP_ORDER_DESTBLT
  maxSize _ := 21
  presentSize := 1
  clipNeeded a rect := reachesOut a.x a.y a.cx a.cy rect
  hasDeltas := true
  vals a r := [(a.x, r.x), (a.y, r.y), (a.cx, r.cx), (a.cy, r.cy)]
  fields := [
    coord 0x01 (·.x) (·.x) fun r v => { r with x := v },
    coord 0x02 (·.y) (·.y) fun r v => { r with y := v },
    coord 0x04 (·.cx) (·.cx) fun r v => { r with cx := v },
    coord 0x08 (·.cy) (·.cy) fun r v => { r with cy := v },
    intField 1 0x10 (·.rop) (·.rop) fun r v => { r with rop := v }]
  get st := st.destBlt
  set st r := { st with destBlt := r }

/-- `xrdp_orders_dest_blt`. -/
def xrdpOrdersDestBlt (env : Env) (self : XrdpOrders) (x y cx cy rop : Int) (rect : Option Rect) :
    Nat × XrdpOrders :=
  primaryOrder env destBltKind self ⟨x, y, cx, cy, rop⟩ rect

/-! ## Lines -/

def lineKind : Kind Line Line where
  type := RDP_ORDER_LINE
  maxSize _ := 32
  presentSize := 2
  clipNeeded a rect := min a.endx a.startx < rect.left || min a.endy a.starty < rect.top ||
    max a.endx a.startx ≥ rect.right || max a.endy a.starty ≥ rect.bottom
  hasDeltas := true
  vals a r := [(a.startx, r.startx), (a.starty, r.starty), (a.endx, r.endx), (a.endy, r.endy)]
  fields := [
    intField 2 0x0001 (·.mixMode) (·.mixMode) fun r v => { r with mixMode := v },
    coord 0x0002 (·.startx) (·.startx) fun r v => { r with startx := v },
    coord 0x0004 (·.starty) (·.starty) fun r v => { r with starty := v },
    coord 0x0008 (·.endx) (·.endx) fun r v => { r with endx := v },
    coord 0x0010 (·.endy) (·.endy) fun r v => { r with endy := v },
    intField 3 0x0020 (·.bgColor) (·.bgColor) fun r v => { r with bgColor := v },
    intField 1 0x0040 (·.rop) (·.rop) fun r v => { r with rop := v },
    intField 1 0x0080 (·.pen.style) (·.pen.style) fun r v => { r with pen := { r.pen with style := v } },
    intField 1 0x0100 (·.pen.width) (·.pen.width) fun r v => { r with pen := { r.pen with width := v } },
    intField 3 0x0200 (·.pen.color) (·.pen.color)
      fun r v => { r with pen := { r.pen with color := v } }]
  get st := st.line
  set st r := { st with line := r }

/-- `xrdp_orders_line`: "if mix mode or rop are out of range, mstsc build 6000+ will parse the orders
wrong". -/
def xrdpOrdersLine (env : Env) (self : XrdpOrders) (mixMode startx starty endx endy rop bgColor : Int)
    (pen : Option Pen) (rect : Option Rect) : Nat × XrdpOrders :=
  let mixMode := if mixMode < 1 ∨ mixMode > 2 then 1 else mixMode
  let rop := if rop < 1 ∨ rop > 0x10 then 0x0d else rop
  primaryOrder env lineKind self
    ⟨mixMode, startx, starty, endx, endy, bgColor, rop, pen.getD ⟨0, 0, 0⟩⟩ rect

/-! ## Cached bitmaps -/

/-- The cache and the color table are sent together. -/
def memBltCache : Field MemBlt MemBlt where
  bit := 0x0001
  changed a r := a.cacheId ≠ r.cacheId || a.colorTable ≠ r.colorTable
  bytes _ a _ := outLe 1 a.cacheId ++ outLe 1 a.colorTable
  remember a r := { r with cacheId := a.cacheId, colorTable := a.colorTable }

def memBltKind : Kind MemBlt MemBlt where
  type := RDP_ORDER_MEMBLT
  maxSize _ := 30
  presentSize := 2
  clipNeeded a rect := reachesOut a.x a.y a.cx a.cy rect
  hasDeltas := true
  vals a r := [(a.x, r.x), (a.y, r.y), (a.cx, r.cx), (a.cy, r.cy), (a.srcx, r.srcx), (a.srcy, r.srcy)]
  fields := [
    memBltCache,
    coord 0x0002 (·.x) (·.x) fun r v => { r with x := v },
    coord 0x0004 (·.y) (·.y) fun r v => { r with y := v },
    coord 0x0008 (·.cx) (·.cx) fun r v => { r with cx := v },
    coord 0x0010 (·.cy) (·.cy) fun r v => { r with cy := v },
    intField 1 0x0020 (·.rop) (·.rop) fun r v => { r with rop := v },
    coord 0x0040 (·.srcx) (·.srcx) fun r v => { r with srcx := v },
    coord 0x0080 (·.srcy) (·.srcy) fun r v => { r with srcy := v },
    intField 2 0x0100 (·.cacheIdx) (·.cacheIdx) fun r v => { r with cacheIdx := v }]
  get st := st.memBlt
  set st r := { st with memBlt := r }

/-- `xrdp_orders_mem_blt`. -/
def xrdpOrdersMemBlt (env : Env) (self : XrdpOrders)
    (cacheId colorTable x y cx cy rop srcx srcy cacheIdx : Int) (rect : Option Rect) :
    Nat × XrdpOrders :=
  primaryOrder env memBltKind self ⟨colorTable, cacheId, x, y, cx, cy, rop, srcx, srcy, cacheIdx⟩ rect

/-! ## Composition -/

/-- The arguments of `xrdp_orders_composite_blt`; there need be no transform. -/
structure CompositeArgs where
  srcidx : Int
  srcformat : Int
  srcwidth : Int
  srcrepeat : Int
  srctransform : Option (Fin 10 → Int)
  mskflags : Int
  mskidx : Int
  mskformat : Int
  mskwidth : Int
  mskrepeat : Int
  op : Int
  srcx : Int
  srcy : Int
  mskx : Int
  msky : Int
  dstx : Int
  dsty : Int
  width : Int
  height : Int
  dstformat : Int

/-- `srctransform[0]`, zero if there is no transform. -/
def CompositeArgs.transform0 (a : CompositeArgs) : Int :=
  match a.srctransform with
  | some t => t 0
  | none => 0

def compositeTransform0 : Field CompositeArgs CompositeBlt where
  bit := 0x000010
  changed a r := a.transform0 ≠ r.srctransform 0
  bytes _ a _ := outLe 4 a.transform0
  remember a r := { r with srctransform := Function.update r.srctransform 0 a.transform0 }

/-- The other nine numbers; what is remembered of them stays as it is. -/
def compositeTransform1 : Field CompositeArgs CompositeBlt where
  bit := 0x000020
  changed a r := match a.srctransform with
    | some t => decide (∃ i : Fin 9, t i.succ ≠ r.srctransform i.succ)
    | none => false
  bytes _ a _ := match a.srctransform with
    | some t => (List.ofFn fun i : Fin 9 => outLe 4 (t i.succ)).flatten
    | none => []
  remember _ r := r

def compositeKind : Kind CompositeArgs CompositeBlt where
  type := RDP_ORDER_COMPOSITE
  maxSize _ := 80
  presentSize := 3
  clipNeeded a rect := reachesOut a.dstx a.dsty a.width a.height rect
  hasDeltas := true
  vals a r := [(a.srcx, r.srcx), (a.srcy, r.srcy), (a.mskx, r.mskx), (a.msky, r.msky),
    (a.dstx, r.dstx), (a.dsty, r.dsty), (a.width, r.width), (a.height, r.height),
    (a.srcwidth, r.srcwidth), (a.mskwidth, r.mskwidth)]
  fields := [
    intField 2 0x000001 (·.srcidx) (·.srcidx) fun r v => { r with srcidx := v },
    intField 4 0x000002 (·.srcformat) (·.srcformat) fun r v => { r with srcformat := v },
    coord 0x000004 (·.srcwidth) (·.srcwidth) fun r v => { r with srcwidth := v },
    intField 1 0x000008 (·.srcrepeat) (·.srcrepeat) fun r v => { r with srcrepeat := v },
    compositeTransform0, compositeTransform1,
    intField 1 0x000040 (·.mskflags) (·.mskflags) fun r v => { r with mskflags := v },
    intField 2 0x000080 (·.mskidx) (·.mskidx) fun r v => { r with mskidx := v },
    intField 4 0x000100 (·.mskformat) (·.mskformat) fun r v => { r with mskformat := v },
    coord 0x000200 (·.mskwidth) (·.mskwidth) fun r v => { r with mskwidth := v },
    intField 1 0x000400 (·.mskrepeat) (·.mskrepeat) fun r v => { r with mskrepeat := v },
    intField 1 0x000800 (·.op) (·.op) fun r v => { r with op := v },
    coord 0x001000 (·.srcx) (·.srcx) fun r v => { r with srcx := v },
    coord 0x002000 (·.srcy) (·.srcy) fun r v => { r with srcy := v },
    coord 0x004000 (·.mskx) (·.mskx) fun r v => { r with mskx := v },
    coord 0x008000 (·.msky) (·.msky) fun r v => { r with msky := v },
    coord 0x010000 (·.dstx) (·.dstx) fun r v => { r with dstx := v },
    coord 0x020000 (·.dsty) (·.dsty) fun r v => { r with dsty := v },
    coord 0x040000 (·.width) (·.width) fun r v => { r with width := v },
    coord 0x080000 (·.height) (·.height) fun r v => { r with height := v },
    intField 4 0x100000 (·.dstformat) (·.dstformat) fun r v => { r with dstformat := v }]
  get st := st.comBlt
  set st r := { st with comBlt := r }

/-- `xrdp_orders_composite_blt`. -/
def xrdpOrdersCompositeBlt (env : Env) (self : XrdpOrders) (a : CompositeArgs) (rect : Option Rect) :
    Nat × XrdpOrders :=
  primaryOrder env compositeKind self a rect

/-! ## Text -/

/-- What is sent of a text: `data_len` is the length of `data`. -/
structure TextArgs extends Text where
  data : List UInt8

/-- "always send text". -/
def textData : Field TextArgs Text where
  bit := 0x200000
  changed _ _ := true
  bytes _ a _ := outLe 1 a.data.length ++ a.data
  remember _ r := r

def textKind : Kind TextArgs Text where
  type := RDP_ORDER_TEXT2
  maxSize a := 44 + a.data.length
  presentSize := 3
  clipNeeded a rect :=
    (decide (a.box.right - a.box.left > 1) &&
      (a.box.left < rect.left || a.box.top < rect.top || a.box.right > rect.right ||
        a.box.bottom > rect.bottom)) ||
    (a.clip.left < rect.left || a.clip.top < rect.top || a.clip.right > rect.right ||
      a.clip.bottom > rect.bottom)
  hasDeltas := false
  vals _ _ := []
  fields := [
    intField 1 0x000001 (·.font) (·.font) fun r v => { r with font := v },
    intField 1 0x000002 (·.flags) (·.flags) fun r v => { r with flags := v },
    intField 1 0x000008 (·.mixmode) (·.mixmode) fun r v => { r with mixmode := v },
    intField 3 0x000010 (·.fgColor) (·.fgColor) fun r v => { r with fgColor := v },
    intField 3 0x000020 (·.bgColor) (·.bgColor) fun r v => { r with bgColor := v },
    intField 2 0x000040 (·.clip.left) (·.clip.left)
      fun r v => { r with clip := { r.clip with left := v } },
    intField 2 0x000080 (·.clip.top) (·.clip.top)
      fun r v => { r with clip := { r.clip with top := v } },
    intField 2 0x000100 (·.clip.right) (·.clip.right)
      fun r v => { r with clip := { r.clip with right := v } },
    intField 2 0x000200 (·.clip.bottom) (·.clip.bottom)
      fun r v => { r with clip := { r.clip with bottom := v } },
    intField 2 0x000400 (·.box.left) (·.box.left)
      fun r v => { r with box := { r.box with left := v } },
    intField 2 0x000800 (·.box.top) (·.box.top) fun r v => { r with box := { r.box with top := v } },
    intField 2 0x001000 (·.box.right) (·.box.right)
      fun r v => { r with box := { r.box with right := v } },
    intField 2 0x002000 (·.box.bottom) (·.box.bottom)
      fun r v => { r with box := { r.box with bottom := v } },
    intField 2 0x080000 (·.x) (·.x) fun r v => { r with x := v },
    intField 2 0x100000 (·.y) (·.y) fun r v => { r with y := v },
    textData]
  get st := st.text
  set st r := { st with text := r }

/-- `xrdp_orders_text`. -/
def xrdpOrdersText (env : Env) (self : XrdpOrders) (font flags mixmode fgColor bgColor : Int)
    (clip box : Rect) (x y : Int) (data : List UInt8) (rect : Option Rect) : Nat × XrdpOrders :=
  primaryOrder env textKind self
    ⟨⟨font, flags, mixmode, fgColor, bgColor, clip, box, x, y⟩, data⟩ rect

/-! ## Calls -/

/-- A call of one of the functions for primary orders. -/
inductive PrimaryCall where
  | rect (x y cx cy color : Int)
  | screenBlt (x y cx cy srcx srcy rop : Int)
  | patBlt (x y cx cy rop bgColor fgColor : Int) (brush : Option Brush)
  | destBlt (x y cx cy rop : Int)
  | line (mixMode startx starty endx endy rop bgColor : Int) (pen : Option Pen)
  | memBlt (cacheId colorTable x y cx cy rop srcx srcy cacheIdx : Int)
  | compositeBlt (a : CompositeArgs)
  | text (font flags mixmode fgColor bgColor : Int) (clip box : Rect) (x y : Int) (data : List UInt8)

def PrimaryCall.run (env : Env) (self : XrdpOrders) (clip : Option Rect) :
    PrimaryCall → Nat × XrdpOrders
  | rect x y cx cy color => xrdpOrdersRect env self x y cx cy color clip
  | screenBlt x y cx cy srcx srcy rop => xrdpOrdersScreenBlt env self x y cx cy srcx srcy rop clip
  | patBlt x y cx cy rop bgColor fgColor brush =>
    xrdpOrdersPatBlt env self x y cx cy rop bgColor fgColor brush clip
  | destBlt x y cx cy rop => xrdpOrdersDestBlt env self x y cx cy rop clip
  | line mixMode startx starty endx endy rop bgColor pen =>
    xrdpOrdersLine env self mixMode startx starty endx endy rop bgColor pen clip
  | memBlt cacheId colorTable x y cx cy rop srcx srcy cacheIdx =>
    xrdpOrdersMemBlt env self cacheId colorTable x y cx cy rop srcx srcy cacheIdx clip
  | compositeBlt a => xrdpOrdersCompositeBlt env self a clip
  | text font flags mixmode fgColor bgColor c b x y data =>
    xrdpOrdersText env self font flags mixmode fgColor bgColor c b x y data clip

/-- The type of order a call is for. -/
def PrimaryCall.type : PrimaryCall → Nat
  | rect .. => RDP_ORDER_RECT
  | screenBlt .. => RDP_ORDER_SCREENBLT
  | patBlt .. => RDP_ORDER_PATBLT
  | destBlt .. => RDP_ORDER_DESTBLT
  | line .. => RDP_ORDER_LINE
  | memBlt .. => RDP_ORDER_MEMBLT
  | compositeBlt .. => RDP_ORDER_COMPOSITE
  | text .. => RDP_ORDER_TEXT2

/-- What is to be sent, and how. -/
structure AnyOrder : Type 1 where
  {α ρ : Type}
  kind : Kind α ρ
  args : α

/-- What a call has to send. -/
def PrimaryCall.order : PrimaryCall → AnyOrder
  | rect x y cx cy color => ⟨rectKind, ⟨x, y, cx, cy, color⟩⟩
  | screenBlt x y cx cy srcx srcy rop => ⟨screenBltKind, ⟨x, y, cx, cy, rop, srcx, srcy⟩⟩
  | patBlt x y cx cy rop bgColor fgColor brush =>
    ⟨patBltKind, ⟨x, y, cx, cy, rop, bgColor, fgColor, brush.getD ⟨0, 0, 0, fun _ => 0⟩⟩⟩
  | destBlt x y cx cy rop => ⟨destBltKind, ⟨x, y, cx, cy, rop⟩⟩
  | line mixMode startx starty endx endy rop bgColor pen =>
    ⟨lineKind, ⟨if mixMode < 1 ∨ mixMode > 2 then 1 else mixMode, startx, starty, endx, endy, bgColor,
      if rop < 1 ∨ rop > 0x10 then 0x0d else rop, pen.getD ⟨0, 0, 0⟩⟩⟩
  | memBlt cacheId colorTable x y cx cy rop srcx srcy cacheIdx =>
    ⟨memBltKind, ⟨colorTable, cacheId, x, y, cx, cy, rop, srcx, srcy, cacheIdx⟩⟩
  | compositeBlt a => ⟨compositeKind, a⟩
  | text font flags mixmode fgColor bgColor c b x y data =>
    ⟨textKind, ⟨⟨font, flags, mixmode, fgColor, bgColor, c, b, x, y⟩, data⟩⟩

/-- **Each function for primary orders is one of that shape.** -/
theorem PrimaryCall.run_eq (env : Env) (self : XrdpOrders) (clip : Option Rect) (c : PrimaryCall) :
    c.run env self clip = primaryOrder env c.order.kind self c.order.args clip := by
  cases c <;> rfl

theorem PrimaryCall.kind_type (c : PrimaryCall) : c.order.kind.type = c.type := by
  cases c <;> rfl

end Xrdp.Orders
