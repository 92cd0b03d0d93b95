import Xrdp.Lib.CharArrays
import Xrdp.Lib.Charsets
import Xrdp.Lib.Counted
import Xrdp.Orders.Primary

/-!
# Orders for remote windows (`libxrdp/xrdp_orders_rail.c`)

The functions first add up the size of an order, which is checked and written in front, and then write
what the flags say is present.  The size is an `int`: it is added up exactly as long as the counts are below
2²⁸, and callers have them from fields of 16 bits.

* `RailWindowStateOrder`, `RailNotifyStateOrder`, `RailMonitoredDesktopOrder` — what can be sent.
* `windowOrder` — what the functions have in common.
* `xrdpOrdersSendWindowDelete`, …, `xrdpOrdersSendMonitoredDesktop`.
* `RailOrder` — a call of one of them; `RailOrder.orderSize` is what has been added up.
-/

namespace Xrdp.Orders

open Wire Charsets

/-! ## What is sent -/

/-- `struct rail_icon_info`. -/
structure RailIconInfo where
  bpp : Int
  width : Int
  height : Int
  cmapBytes : Int
  maskBytes : Int
  dataBytes : Int
  mask : Nat → UInt8
  cmap : Nat → UInt8
  data : Nat → UInt8

/-- `struct rail_window_state_order`; a `struct rail_window_rect` is as `Rect`. -/
structure RailWindowStateOrder where
  ownerWindowId : Int
  style : Int
  extendedStyle : Int
  showState : Int
  titleInfo : CharArrays.Text
  clientOffsetX : Int
  clientOffsetY : Int
  clientAreaWidth : Int
  clientAreaHeight : Int
  rpContent : Int
  rootParentHandle : Int
  windowOffsetX : Int
  windowOffsetY : Int
  windowClientDeltaX : Int
  windowClientDeltaY : Int
  windowWidth : Int
  windowHeight : Int
  numWindowRects : Int
  windowRects : Nat → Rect
  visibleOffsetX : Int
  visibleOffsetY : Int
  numVisibilityRects : Int
  visibilityRects : Nat → Rect

/-- `struct rail_notify_icon_infotip`. -/
structure RailNotifyIconInfotip where
  timeout : Int
  flags : Int
  text : CharArrays.Text
  title : CharArrays.Text

/-- `struct rail_notify_state_order`. -/
structure RailNotifyStateOrder where
  version : Int
  toolTip : CharArrays.Text
  infotip : RailNotifyIconInfotip
  state : Int
  iconCacheEntry : Int
  iconCacheId : Int
  iconInfo : RailIconInfo

/-- `struct rail_monitored_desktop_order`. -/
structure RailMonitoredDesktopOrder where
  activeWindowId : Int
  numWindowIds : Int
  windowIds : Nat → Int

def WINDOW_ORDER_TYPE_WINDOW : UInt32 := 0x01000000
def WINDOW_ORDER_TYPE_NOTIFY : UInt32 := 0x02000000
def WINDOW_ORDER_TYPE_DESKTOP : UInt32 := 0x04000000
def WINDOW_ORDER_STATE_DELETED : UInt32 := 0x20000000
def WINDOW_ORDER_FIELD_OWNER : UInt32 := 0x00000002
def WINDOW_ORDER_FIELD_STYLE : UInt32 := 0x00000008
def WINDOW_ORDER_FIELD_SHOW : UInt32 := 0x00000010
def WINDOW_ORDER_FIELD_TITLE : UInt32 := 0x00000004
def WINDOW_ORDER_FIELD_CLIENT_AREA_OFFSET : UInt32 := 0x00004000
def WINDOW_ORDER_FIELD_CLIENT_AREA_SIZE : UInt32 := 0x00010000
def WINDOW_ORDER_FIELD_RP_CONTENT : UInt32 := 0x00020000
def WINDOW_ORDER_FIELD_ROOT_PARENT : UInt32 := 0x00040000
def WINDOW_ORDER_FIELD_WND_OFFSET : UInt32 := 0x00000800
def WINDOW_ORDER_FIELD_WND_CLIENT_DELTA : UInt32 := 0x00008000
def WINDOW_ORDER_FIELD_WND_SIZE : UInt32 := 0x00000400
def WINDOW_ORDER_FIELD_WND_RECTS : UInt32 := 0x00000100
def WINDOW_ORDER_FIELD_VIS_OFFSET : UInt32 := 0x00001000
def WINDOW_ORDER_FIELD_VISIBILITY : UInt32 := 0x00000200
def WINDOW_ORDER_ICON : UInt32 := 0x40000000
def WINDOW_ORDER_CACHED_ICON : UInt32 := 0x80000000
def WINDOW_ORDER_FIELD_NOTIFY_VERSION : UInt32 := 0x00000008
def WINDOW_ORDER_FIELD_NOTIFY_TIP : UInt32 := 0x00000001
def WINDOW_ORDER_FIELD_NOTIFY_INFO_TIP : UInt32 := 0x00000002
def WINDOW_ORDER_FIELD_NOTIFY_STATE : UInt32 := 0x00000004
def WINDOW_ORDER_FIELD_DESKTOP_ZORDER : UInt32 := 0x00000010
def WINDOW_ORDER_FIELD_DESKTOP_ACTIVE_WND : UInt32 := 0x00000020

/-- Among the flags of the fields that are present. -/
def Present (flags field : UInt32) : Prop := flags &&& field ≠ 0

instance (flags field : UInt32) : Decidable (Present flags field) := by
  unfold Present
  infer_instance

/-! ## Texts and icons -/

/-- `g_mbstowcs` to a place for `n` characters: there are none of a text that is not all characters. -/
def gMbstowcs (cs : Charset) (text : CharArrays.Text) (n : Nat) : Option (List Nat) :=
  (cs.decode text.bytes).map (·.take n)

/-- `g_mbstowcs` without a place to write to. -/
def gMbstowcsCount (cs : Charset) (text : CharArrays.Text) : Int :=
  match cs.decode text.bytes with
  | none => -1
  | some ws => ws.length

/-- `xrdp_orders_send_as_unicode`. -/
def xrdpOrdersSendAsUnicode (cs : Charset) (text : CharArrays.Text) : List UInt8 :=
  let len := text.bytes.length + 1
  match gMbstowcs cs text len with
  | none => outLe 2 0
  | some wdst =>
    if wdst.length > 0 then
      outLe 2 (wdst.length * 2 : Nat) ++ wdst.flatMap fun w : Nat => outLe 2 w
    else outLe 2 0

/-- `xrdp_orders_get_unicode_bytes`. -/
def xrdpOrdersGetUnicodeBytes (cs : Charset) (text : CharArrays.Text) : Int :=
  let numChars := gMbstowcsCount cs text
  if numChars < 0 then 0 else (numChars + 1) * 2

/-- `out_uint8p`, which does not come back from copying a negative number of bytes. -/
def outUint8p (mem : Nat → UInt8) (n : Int) : Option (List UInt8) :=
  if n < 0 then none else some (bytesAt mem 0 n.toNat)

/-- `use_cmap`. -/
def RailIconInfo.UseCmap (icon : RailIconInfo) : Prop := icon.bpp = 1 ∨ icon.bpp = 2 ∨ icon.bpp = 4

instance (icon : RailIconInfo) : Decidable icon.UseCmap := by
  unfold RailIconInfo.UseCmap
  infer_instance

/-- `xrdp_orders_send_ts_icon`. -/
def xrdpOrdersSendTsIcon (cacheEntry cacheId : Int) (icon : RailIconInfo) : Option (List UInt8) := do
  let header := outLe 2 cacheEntry ++ outLe 1 cacheId ++ outLe 1 icon.bpp ++ outLe 2 icon.width ++
    outLe 2 icon.height ++ (if icon.UseCmap then outLe 2 icon.cmapBytes else []) ++
    outLe 2 icon.maskBytes ++ outLe 2 icon.dataBytes
  let mask ← outUint8p icon.mask icon.maskBytes
  let cmap ← if icon.UseCmap then outUint8p icon.cmap icon.cmapBytes else some []
  let data ← outUint8p icon.data icon.dataBytes
  return header ++ mask ++ cmap ++ data

/-- The loop over so many rectangles. -/
def outRects (rects : Nat → Rect) (n : Int) : List UInt8 :=
  (List.range n.toNat).flatMap fun i =>
    outLe 2 (rects i).left ++ outLe 2 (rects i).top ++ outLe 2 (rects i).right ++
      outLe 2 (rects i).bottom

/-! ## Orders -/

/-- The order is counted and written behind its size, if one of that size is let through. -/
def windowOrder (env : Env) (self : XrdpOrders) (orderSize : Int) (fields : Option (List UInt8)) :
    Option (Nat × XrdpOrders) :=
  let (rv, self) := xrdpOrdersCheck env self orderSize
  if rv ≠ 0 then some (1, self)
  else fields.map fun fields =>
    let header := outLe 1 (TS_SECONDARY ||| 0xb <<< 2 : Nat) ++ outLe 2 orderSize
    (0, { self with orderCount := self.orderCount + 1, out := self.out.put (header ++ fields) })

/-- `xrdp_orders_send_window_delete`. -/
def xrdpOrdersSendWindowDelete (env : Env) (self : XrdpOrders) (windowId : Int) :
    Option (Nat × XrdpOrders) :=
  windowOrder env self 11 (some
    (outLe 4 (WINDOW_ORDER_TYPE_WINDOW ||| WINDOW_ORDER_STATE_DELETED).toNat ++ outLe 4 windowId))

/-- `xrdp_orders_send_window_cached_icon`. -/
def xrdpOrdersSendWindowCachedIcon (env : Env) (self : XrdpOrders) (windowId cacheEntry cacheId : Int)
    (flags : UInt32) : Option (Nat × XrdpOrders) :=
  windowOrder env self 14 (some
    (outLe 4 (flags ||| WINDOW_ORDER_TYPE_WINDOW ||| WINDOW_ORDER_CACHED_ICON).toNat ++
      outLe 4 windowId ++ outLe 2 cacheEntry ++ outLe 1 cacheId))

/-- What an icon adds to the size of an order, but for a number of bytes that is always there; the numbers of
bytes are below 2²⁸. -/
def RailIconInfo.size (icon : RailIconInfo) : Int :=
  icon.maskBytes + icon.dataBytes + if icon.UseCmap then icon.cmapBytes + 2 else 0

/-- `xrdp_orders_send_window_icon`. -/
def xrdpOrdersSendWindowIcon (env : Env) (self : XrdpOrders) (windowId cacheEntry cacheId : Int)
    (iconInfo : RailIconInfo) (flags : UInt32) : Option (Nat × XrdpOrders) :=
  windowOrder env self (23 + iconInfo.size)
    ((xrdpOrdersSendTsIcon cacheEntry cacheId iconInfo).map fun icon =>
      outLe 4 (flags ||| WINDOW_ORDER_TYPE_WINDOW ||| WINDOW_ORDER_ICON).toNat ++ outLe 4 windowId ++ icon)

/-- The first pass of `xrdp_orders_send_window_new_update`: what is added to eleven, with fewer than 2²⁸
rectangles. -/
def windowUpdateSize (cs : Charset) (st : RailWindowStateOrder) (flags : UInt32) : Int :=
  (if Present flags WINDOW_ORDER_FIELD_OWNER then 4 else 0) +
  (if Present flags WINDOW_ORDER_FIELD_STYLE then 4 + 4 else 0) +
  (if Present flags WINDOW_ORDER_FIELD_SHOW then 1 else 0) +
  (if Present flags WINDOW_ORDER_FIELD_TITLE then xrdpOrdersGetUnicodeBytes cs st.titleInfo else 0) +
  (if Present flags WINDOW_ORDER_FIELD_CLIENT_AREA_OFFSET then 4 + 4 else 0) +
  (if Present flags WINDOW_ORDER_FIELD_CLIENT_AREA_SIZE then 4 + 4 else 0) +
  (if Present flags WINDOW_ORDER_FIELD_RP_CONTENT then 1 else 0) +
  (if Present flags WINDOW_ORDER_FIELD_ROOT_PARENT then 4 else 0) +
  (if Present flags WINDOW_ORDER_FIELD_WND_OFFSET then 4 + 4 else 0) +
  (if Present flags WINDOW_ORDER_FIELD_WND_CLIENT_DELTA then 4 + 4 else 0) +
  (if Present flags WINDOW_ORDER_FIELD_WND_SIZE then 4 + 4 else 0) +
  (if Present flags WINDOW_ORDER_FIELD_WND_RECTS then 2 + 8 * st.numWindowRects else 0) +
  (if Present flags WINDOW_ORDER_FIELD_VIS_OFFSET then 4 + 4 else 0) +
  (if Present flags WINDOW_ORDER_FIELD_VISIBILITY then 2 + 8 * st.numVisibilityRects else 0)

/-- The second pass. -/
def windowUpdateFields (cs : Charset) (st : RailWindowStateOrder) (flags : UInt32) : List UInt8 :=
  (if Present flags WINDOW_ORDER_FIELD_OWNER then outLe 4 st.ownerWindowId else []) ++
  (if Present flags WINDOW_ORDER_FIELD_STYLE then outLe 4 st.style ++ outLe 4 st.extendedStyle
    else []) ++
  (if Present flags WINDOW_ORDER_FIELD_SHOW then outLe 1 st.showState else []) ++
  (if Present flags WINDOW_ORDER_FIELD_TITLE then xrdpOrdersSendAsUnicode cs st.titleInfo else []) ++
  (if Present flags WINDOW_ORDER_FIELD_CLIENT_AREA_OFFSET then
    outLe 4 st.clientOffsetX ++ outLe 4 st.clientOffsetY else []) ++
  (if Present flags WINDOW_ORDER_FIELD_CLIENT_AREA_SIZE then
    outLe 4 st.clientAreaWidth ++ outLe 4 st.clientAreaHeight else []) ++
  (if Present flags WINDOW_ORDER_FIELD_RP_CONTENT then outLe 1 st.rpContent else []) ++
  (if Present flags WINDOW_ORDER_FIELD_ROOT_PARENT then outLe 4 st.rootParentHandle else []) ++
  (if Present flags WINDOW_ORDER_FIELD_WND_OFFSET then
    outLe 4 st.windowOffsetX ++ outLe 4 st.windowOffsetY else []) ++
  (if Present flags WINDOW_ORDER_FIELD_WND_CLIENT_DELTA then
    outLe 4 st.windowClientDeltaX ++ outLe 4 st.windowClientDeltaY else []) ++
  (if Present flags WINDOW_ORDER_FIELD_WND_SIZE then
    outLe 4 st.windowWidth ++ outLe 4 st.windowHeight else []) ++
  (if Present flags WINDOW_ORDER_FIELD_WND_RECTS then
    outLe 2 st.numWindowRects ++ outRects st.windowRects st.numWindowRects else []) ++
  (if Present flags WINDOW_ORDER_FIELD_VIS_OFFSET then
    outLe 4 st.visibleOffsetX ++ outLe 4 st.visibleOffsetY else []) ++
  (if Present flags WINDOW_ORDER_FIELD_VISIBILITY then
    outLe 2 st.numVisibilityRects ++ outRects st.visibilityRects st.numVisibilityRects else [])

/-- `xrdp_orders_send_window_new_update`: below 12 no flags are set. -/
def xrdpOrdersSendWindowNewUpdate (cs : Charset) (env : Env) (self : XrdpOrders) (windowId : Int)
    (windowState : RailWindowStateOrder) (flags : UInt32) : Option (Nat × XrdpOrders) :=
  let fieldPresentFlags := flags ||| WINDOW_ORDER_TYPE_WINDOW
  let orderSize := 11 + windowUpdateSize cs windowState fieldPresentFlags
  if orderSize < 12 then some (0, self)
  else windowOrder env self orderSize (some
    (outLe 4 fieldPresentFlags.toNat ++ outLe 4 windowId ++
      windowUpdateFields cs windowState fieldPresentFlags))

/-- `xrdp_orders_send_notify_delete`. -/
def xrdpOrdersSendNotifyDelete (env : Env) (self : XrdpOrders) (windowId notifyId : Int) :
    Option (Nat × XrdpOrders) :=
  windowOrder env self 15 (some
    (outLe 4 (WINDOW_ORDER_TYPE_NOTIFY ||| WINDOW_ORDER_STATE_DELETED).toNat ++ outLe 4 windowId ++
      outLe 4 notifyId))

/-- The first pass of `xrdp_orders_send_notify_new_update`: what is added to fifteen, as for a window. -/
def notifyUpdateSize (cs : Charset) (st : RailNotifyStateOrder) (flags : UInt32) : Int :=
  (if Present flags WINDOW_ORDER_FIELD_NOTIFY_VERSION then 4 else 0) +
  (if Present flags WINDOW_ORDER_FIELD_NOTIFY_TIP then xrdpOrdersGetUnicodeBytes cs st.toolTip else 0) +
  (if Present flags WINDOW_ORDER_FIELD_NOTIFY_INFO_TIP then
    xrdpOrdersGetUnicodeBytes cs st.infotip.title + xrdpOrdersGetUnicodeBytes cs st.infotip.text + 8
    else 0) +
  (if Present flags WINDOW_ORDER_FIELD_NOTIFY_STATE then 4 else 0) +
  (if Present flags WINDOW_ORDER_ICON then 12 + st.iconInfo.size else 0) +
  (if Present flags WINDOW_ORDER_CACHED_ICON then 3 else 0)

/-- The icon, if there is one. -/
def notifyIcon (st : RailNotifyStateOrder) (flags : UInt32) : Option (List UInt8) :=
  if Present flags WINDOW_ORDER_ICON then
    xrdpOrdersSendTsIcon st.iconCacheEntry st.iconCacheId st.iconInfo
  else some []

/-- The second pass. -/
def notifyUpdateFields (cs : Charset) (st : RailNotifyStateOrder) (flags : UInt32) :
    Option (List UInt8) := do
  let front :=
    (if Present flags WINDOW_ORDER_FIELD_NOTIFY_VERSION then outLe 4 st.version else []) ++
    (if Present flags WINDOW_ORDER_FIELD_NOTIFY_TIP then xrdpOrdersSendAsUnicode cs st.toolTip
      else []) ++
    (if Present flags WINDOW_ORDER_FIELD_NOTIFY_INFO_TIP then
      outLe 4 st.infotip.timeout ++ outLe 4 st.infotip.flags ++
        xrdpOrdersSendAsUnicode cs st.infotip.text ++ xrdpOrdersSendAsUnicode cs st.infotip.title
      else []) ++
    (if Present flags WINDOW_ORDER_FIELD_NOTIFY_STATE then outLe 4 st.state else [])
  let icon ← notifyIcon st flags
  let cached := if Present flags WINDOW_ORDER_CACHED_ICON then
    outLe 2 st.iconCacheEntry ++ outLe 1 st.iconCacheId else []
  return front ++ icon ++ cached

/-- `xrdp_orders_send_notify_new_update`. -/
def xrdpOrdersSendNotifyNewUpdate (cs : Charset) (env : Env) (self : XrdpOrders)
    (windowId notifyId : Int) (notifyState : RailNotifyStateOrder) (flags : UInt32) :
    Option (Nat × XrdpOrders) :=
  let fieldPresentFlags := flags ||| WINDOW_ORDER_TYPE_NOTIFY
  windowOrder env self (15 + notifyUpdateSize cs notifyState fieldPresentFlags)
    ((notifyUpdateFields cs notifyState fieldPresentFlags).map fun fields =>
      outLe 4 fieldPresentFlags.toNat ++ outLe 4 windowId ++ outLe 4 notifyId ++ fields)

/-- The first pass of `xrdp_orders_send_monitored_desktop`: what is added to seven. -/
def desktopSize (mdo : RailMonitoredDesktopOrder) (flags : UInt32) : Int :=
  (if Present flags WINDOW_ORDER_FIELD_DESKTOP_ACTIVE_WND then 4 else 0) +
  (if Present flags WINDOW_ORDER_FIELD_DESKTOP_ZORDER then 1 + mdo.numWindowIds * 4 else 0)

/-- The second pass. -/
def desktopFields (mdo : RailMonitoredDesktopOrder) (flags : UInt32) : List UInt8 :=
  (if Present flags WINDOW_ORDER_FIELD_DESKTOP_ACTIVE_WND then outLe 4 mdo.activeWindowId else []) ++
  (if Present flags WINDOW_ORDER_FIELD_DESKTOP_ZORDER then
    outLe 1 mdo.numWindowIds ++ (List.range mdo.numWindowIds.toNat).flatMap fun i =>
      outLe 4 (mdo.windowIds i)
    else [])

/-- `xrdp_orders_send_monitored_desktop`. -/
def xrdpOrdersSendMonitoredDesktop (env : Env) (self : XrdpOrders) (mdo : RailMonitoredDesktopOrder)
    (flags : UInt32) : Option (Nat × XrdpOrders) :=
  let fieldPresentFlags := flags ||| WINDOW_ORDER_TYPE_DESKTOP
  windowOrder env self (7 + desktopSize mdo fieldPresentFlags)
    (some (outLe 4 fieldPresentFlags.toNat ++ desktopFields mdo fieldPresentFlags))

/-! ## Calls -/

/-- A call of one of the functions. -/
inductive RailOrder where
  | windowDelete (windowId : Int)
  | windowCachedIcon (windowId cacheEntry cacheId : Int) (flags : UInt32)
  | windowIcon (windowId cacheEntry cacheId : Int) (iconInfo : RailIconInfo) (flags : UInt32)
  | windowNewUpdate (windowId : Int) (windowState : RailWindowStateOrder) (flags : UInt32)
  | notifyDelete (windowId notifyId : Int)
  | notifyNewUpdate (windowId notifyId : Int) (notifyState : RailNotifyStateOrder) (flags : UInt32)
  | monitoredDesktop (mdo : RailMonitoredDesktopOrder) (flags : UInt32)

def RailOrder.send (cs : Charset) (env : Env) (self : XrdpOrders) :
    RailOrder → Option (Nat × XrdpOrders)
  | windowDelete windowId => xrdpOrdersSendWindowDelete env self windowId
  | windowCachedIcon windowId cacheEntry cacheId flags =>
    xrdpOrdersSendWindowCachedIcon env self windowId cacheEntry cacheId flags
  | windowIcon windowId cacheEntry cacheId iconInfo flags =>
    xrdpOrdersSendWindowIcon env self windowId cacheEntry cacheId iconInfo flags
  | windowNewUpdate windowId windowState flags =>
    xrdpOrdersSendWindowNewUpdate cs env self windowId windowState flags
  | notifyDelete windowId notifyId => xrdpOrdersSendNotifyDelete env self windowId notifyId
  | notifyNewUpdate windowId notifyId notifyState flags =>
    xrdpOrdersSendNotifyNewUpdate cs env self windowId notifyId notifyState flags
  | monitoredDesktop mdo flags => xrdpOrdersSendMonitoredDesktop env self mdo flags

/-- `order_size`, which is passed to `xrdp_orders_check`. -/
def RailOrder.orderSize (cs : Charset) : RailOrder → Int
  | windowDelete _ => 11
  | windowCachedIcon _ _ _ _ => 14
  | windowIcon _ _ _ iconInfo _ => 23 + iconInfo.size
  | windowNewUpdate _ st flags => 11 + windowUpdateSize cs st (flags ||| WINDOW_ORDER_TYPE_WINDOW)
  | notifyDelete _ _ => 15
  | notifyNewUpdate _ _ st flags => 15 + notifyUpdateSize cs st (flags ||| WINDOW_ORDER_TYPE_NOTIFY)
  | monitoredDesktop mdo flags => 7 + desktopSize mdo (flags ||| WINDOW_ORDER_TYPE_DESKTOP)

end Xrdp.Orders
