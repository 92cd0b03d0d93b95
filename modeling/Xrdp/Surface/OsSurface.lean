import Xrdp.Memory

/-!
# Offscreen surfaces

A module draws on offscreen bitmaps, which live at the client under numbers of the module's
choice. The window manager tells the client lazily: a bitmap is created there when it is first
switched to or painted from, and deletions travel with the next creation.

* `Wm` — the part of `struct xrdp_wm` and `struct xrdp_cache` that is about them.
* `wmPainterSetTarget` — `wm_painter_set_target` in `xrdp/xrdp_painter.c`.
* `serverCreateOsSurface` and the others — the calls of a module, in `xrdp/xrdp_mm.c`.
-/

namespace Xrdp.Surface

/-- `struct xrdp_bitmap` of type `WND_TYPE_OFFSCREEN`. -/
structure OsBitmap where
  width : Int
  height : Int
  itemIndex : Nat
  id : Nat
  /-- Whether it has been created at the client: "tab_stop is hack". -/
  tabStop : Bool
  deriving DecidableEq

/-- The orders about surfaces; a drawing order comes with the surface it is meant for. -/
inductive Order where
  | createOsSurface (id : Nat) (width height : Int) (delList : List Nat)
  | switchOsSurface (id : Nat)
  | draw (target : Option (Nat × Int × Int))
  deriving DecidableEq

structure Wm where
  /-- `no_orders_supported`: the painter draws on its own. -/
  noOrders : Bool
  /-- The offscreen bitmaps, by their addresses. -/
  bitmaps : Nat → OsBitmap
  /-- The number of addresses there have been. -/
  allocated : Nat
  freed : Nat → Bool
  /-- `os_bitmap_items`. -/
  osBitmapItems : Nat → Option Nat
  /-- `xrdp_os_del_list`, if it is not null. -/
  xrdpOsDelList : Option (List Nat)
  /-- `target_surface`, if it is not the screen. -/
  targetSurface : Option Nat
  currentSurfaceIndex : Nat
  /-- `painter` of the module is not null. -/
  painter : Bool
  /-- The orders sent. -/
  sent : List Order

/-- The number for the screen. -/
def SCREEN : Nat := 0xffff

/-- `xrdp_cache_create` and `xrdp_wm_create`. -/
def Wm.create (noOrders : Bool) : Wm where
  noOrders
  bitmaps := fun _ => ⟨0, 0, 0, 0, false⟩
  allocated := 0
  freed := fun _ => false
  osBitmapItems := fun _ => none
  xrdpOsDelList := some []
  targetSurface := none
  currentSurfaceIndex := SCREEN
  painter := false
  sent := []

section

variable (self : Wm)

/-- A bitmap that a pointer points to. -/
def Wm.deref (p : Option Nat) : Run OsBitmap :=
  match p with
  | none => .error .outOfBounds
  | some a => if self.freed a then .error .outOfBounds else .ok (self.bitmaps a)

/-- The deletion list, if there is one. -/
def Wm.derefDelList : Run (List Nat) :=
  match self.xrdpOsDelList with
  | none => .error .outOfBounds
  | some delList => .ok delList

def Wm.send (orders : List Order) : Wm := { self with sent := self.sent ++ orders }

/-! ## The painter -/

/-- The bitmap at an address is created at the client, and all deletions with it; this stands in
`wm_painter_set_target` and in `xrdp_painter_copy`. -/
def Wm.sendCreateOsSurface (a : Nat) : Run Wm := do
  let b ← self.deref (some a)
  let delList ← self.derefDelList
  .ok { self.send [.createOsSurface b.itemIndex b.width b.height (delList.erase b.itemIndex)] with
    bitmaps := Function.update self.bitmaps a { b with tabStop := true }
    xrdpOsDelList := some [] }

def Wm.sendSwitchOsSurface (id : Nat) : Wm :=
  { self.send [.switchOsSurface id] with currentSurfaceIndex := id }

/-- The bitmap is created at the client unless it is there. -/
def Wm.ensureCreated (a : Nat) : Run Wm := do
  let b ← self.deref (some a)
  if b.tabStop then .ok self else self.sendCreateOsSurface a

def wmPainterSetTarget : Run Wm :=
  if self.noOrders then .ok self
  else
    match self.targetSurface with
    | none =>
      .ok (if self.currentSurfaceIndex ≠ SCREEN then self.sendSwitchOsSurface SCREEN else self)
    | some a => do
      let b ← self.deref (some a)
      if b.itemIndex ≠ self.currentSurfaceIndex then do
        let self ← self.ensureCreated a
        .ok (self.sendSwitchOsSurface b.itemIndex)
      else .ok self

/-- What has become the target is set, if there is a painter. -/
def Wm.setTarget : Run Wm := if self.painter then wmPainterSetTarget self else .ok self

/-- Some drawing orders for the target. -/
def Wm.drawTarget (n : Nat) : Run Wm :=
  match self.targetSurface with
  | none => .ok (if self.noOrders then self else self.send (List.replicate n (.draw none)))
  | some a => do
    let b ← self.deref (some a)
    .ok (if self.noOrders then self
      else self.send (List.replicate n (.draw (some (b.itemIndex, b.width, b.height)))))

/-! ## The cache -/

/-- A number is good for `os_bitmap_items`. -/
def inRange (rdpindex : Int) : Bool := 0 ≤ rdpindex ∧ rdpindex < 2000

/-- `xrdp_cache_get_os_bitmap`, and the bitmap in the item. -/
def xrdpCacheGetOsBitmap (rdpindex : Int) : Option Nat :=
  if inRange rdpindex then self.osBitmapItems rdpindex.toNat else none

/-- What becomes of the deletion list if a bitmap is removed. -/
def Wm.noteDeletion (b : OsBitmap) (rdpindex : Nat) : Run (Option (List Nat)) :=
  if b.tabStop then do
    let delList ← self.derefDelList
    .ok (some (if rdpindex ∈ delList then delList else delList ++ [rdpindex]))
  else .ok self.xrdpOsDelList

/-- `xrdp_cache_remove_os_bitmap`. -/
def xrdpCacheRemoveOsBitmap (rdpindex : Int) : Run Wm :=
  if inRange rdpindex = false then .ok self
  else do
    let item := self.osBitmapItems rdpindex.toNat
    let b ← self.deref item
    let delList ← self.noteDeletion b rdpindex.toNat
    .ok { self with
      xrdpOsDelList := delList
      freed := fun a => self.freed a || item = some a
      osBitmapItems := Function.update self.osBitmapItems rdpindex.toNat none }

/-- `xrdp_cache_reset`. -/
def xrdpCacheReset : Wm := { self with osBitmapItems := fun _ => none, xrdpOsDelList := none }

/-! ## The calls of a module -/

/-- `server_begin_update`. -/
def serverBeginUpdate : Run Wm := wmPainterSetTarget { self with painter := true }

/-- `server_end_update`. -/
def serverEndUpdate : Wm := { self with painter := false }

/-- `server_create_os_surface` and `server_create_os_surface_bpp`. -/
def serverCreateOsSurface (rdpindex width height : Int) : Wm :=
  if inRange rdpindex then
    { self with
      bitmaps := Function.update self.bitmaps self.allocated
        ⟨width, height, rdpindex.toNat, rdpindex.toNat, false⟩
      osBitmapItems := Function.update self.osBitmapItems rdpindex.toNat (some self.allocated)
      allocated := self.allocated + 1 }
  else { self with allocated := self.allocated + 1 }

/-- `server_switch_os_surface`. -/
def serverSwitchOsSurface (rdpindex : Int) : Run Wm :=
  if rdpindex = -1 then Wm.setTarget { self with targetSurface := none }
  else
    match xrdpCacheGetOsBitmap self rdpindex with
    | some a => Wm.setTarget { self with targetSurface := some a }
    | none => .ok self

/-- What `server_delete_os_surface` does if the target is to be deleted. -/
def Wm.leaveTarget (rdpindex : Int) : Run Wm :=
  match self.targetSurface with
  | none => .ok self
  | some a => do
    let b ← self.deref (some a)
    if (b.id : Int) = rdpindex then Wm.setTarget { self with targetSurface := none } else .ok self

/-- `server_delete_os_surface`. -/
def serverDeleteOsSurface (rdpindex : Int) : Run Wm := do
  let self ← self.leaveTarget rdpindex
  xrdpCacheRemoveOsBitmap self rdpindex

/-- `server_fill_rect`, `server_line`, `server_draw_text`, `server_screen_blt`,
`server_paint_rect` and the like, if `n` orders are left of it after clipping. -/
def serverDraw (n : Nat) : Run Wm := if self.painter then self.drawTarget n else .ok self

/-- What is painted from is created at the client. -/
def Wm.ensureSource (a : Nat) : Run Wm := do
  let _ ← self.deref (some a)
  if self.noOrders then .ok self else self.ensureCreated a

/-- `server_paint_rect_os`. -/
def serverPaintRectOs (rdpindex : Int) (n : Nat) : Run Wm :=
  if self.painter then
    match xrdpCacheGetOsBitmap self rdpindex with
    | none => .ok self
    | some a => do
      let self ← self.ensureSource a
      self.drawTarget n
  else .ok self

/-- The mask of `server_composite`, if there is one. -/
def Wm.derefMask (mskidx : Option Int) : Run (Option OsBitmap) :=
  match mskidx.bind (xrdpCacheGetOsBitmap self) with
  | none => .ok none
  | some msk => do
    let b ← self.deref (some msk)
    .ok (some b)

/-- `server_composite`, with a mask if `mskflags & 1`. -/
def serverComposite (srcidx : Int) (mskidx : Option Int) (n : Nat) : Run Wm :=
  if self.painter then
    match xrdpCacheGetOsBitmap self srcidx with
    | none => .ok self
    | some a => do
      let _ ← self.deref (some a)
      let _ ← self.derefMask mskidx
      self.drawTarget n
  else .ok self

/-- What `server_reset` asks before it resets. -/
structure ResetAnswer where
  /-- `build <= 419`. -/
  oldClient : Bool
  sameSize : Bool
  /-- `libxrdp_reset` succeeds. -/
  libReset : Bool

/-- `server_reset`. -/
def serverReset (a : ResetAnswer) : Wm :=
  if a.oldClient then self
  else if a.sameSize then self
  else if a.libReset = false then self
  else xrdpCacheReset self

end

/-- A call of a module. -/
inductive Call where
  | beginUpdate
  | endUpdate
  | createOsSurface (rdpindex width height : Int)
  | switchOsSurface (rdpindex : Int)
  | deleteOsSurface (rdpindex : Int)
  | draw (n : Nat)
  | paintRectOs (rdpindex : Int) (n : Nat)
  | composite (srcidx : Int) (mskidx : Option Int) (n : Nat)
  | reset (a : ResetAnswer)

def Wm.call (self : Wm) : Call → Run Wm
  | .beginUpdate => serverBeginUpdate self
  | .endUpdate => .ok (serverEndUpdate self)
  | .createOsSurface rdpindex width height => .ok (serverCreateOsSurface self rdpindex width height)
  | .switchOsSurface rdpindex => serverSwitchOsSurface self rdpindex
  | .deleteOsSurface rdpindex => serverDeleteOsSurface self rdpindex
  | .draw n => serverDraw self n
  | .paintRectOs rdpindex n => serverPaintRectOs self rdpindex n
  | .composite srcidx mskidx n => serverComposite self srcidx mskidx n
  | .reset a => .ok (serverReset self a)

def Wm.run (self : Wm) (calls : List Call) : Run Wm := calls.foldlM Wm.call self

end Xrdp.Surface
