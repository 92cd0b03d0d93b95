import Xrdp.Lib.Runs
import Xrdp.Painter.LibPainter

/-!
# What the painter has to send

`xrdp/xrdp_painter.c` for a client without orders: everything is painted into the bitmap of the
screen, and what has been touched is noted in a region that is sent at the end of an update.

* `xrdpPainterFillRect`, `xrdpPainterCopy`, `xrdpPainterLine`, `xrdpPainterDrawText` — an operation goes
  through the rectangles that are visible.
* `Synced` — what the client does not have is in the dirty region.
* `PaintsWhole` — a line and a text are painted like in all visible points at once.
* `lineFits_of_origin` — a line into what is at the origin of the screen is noted where it is painted.
* `dirty_covers` — both hold in every run whose lines and texts are noted where they are painted, and
  whose texts are painted through one rectangle.  A line is noted where it is before it is moved to
  its window; a text without its offsets, and each further rectangle finds it moved on.

Left out: allocations that fail; a region is the list of its rectangles.
-/

namespace Xrdp.Painter

open Pictures Runs

/-- `WND_TYPE_*`. -/
inductive WndType where
  | bitmap
  | wnd
  | screen
  | button
  | image
  | edit
  | label
  | combo
  | special
  | listbox
  | offscreen
  deriving DecidableEq, Repr

/-- `struct xrdp_bitmap` of what is painted into. -/
structure Bitmap where
  type : WndType
  left : Int
  top : Int
  width : Int
  height : Int
  /-- `left` and `top` of the parents. -/
  parents : List (Int × Int)
  deriving DecidableEq, Repr

/-- `xrdp_bitmap_to_screenx`. -/
def Bitmap.toScreenx (b : Bitmap) (x : Int) : Int := b.parents.foldl (fun i p => i + p.1) (x + b.left)

/-- `xrdp_bitmap_to_screeny`. -/
def Bitmap.toScreeny (b : Bitmap) (y : Int) : Int := b.parents.foldl (fun i p => i + p.2) (y + b.top)

/-- `struct xrdp_font_char`. -/
structure FontChar where
  offset : Int
  baseline : Int
  width : Int
  height : Int
  incby : Int
  data : List UInt8
  deriving DecidableEq, Repr

/-- `font_items`. -/
abbrev Font := Nat → FontChar

/-- `struct xrdp_brush`. -/
structure Brush where
  xOrigin : Int
  yOrigin : Int
  pattern : List UInt8
  deriving DecidableEq, Repr

/-- What is set before an operation. -/
structure Attrs where
  rop : Nat
  bgColor : Pixel
  fgColor : Pixel
  mixMode : Nat
  brush : Brush
  penColor : Pixel
  deriving DecidableEq, Repr

/-- The screen of the window manager, but for its pixels. -/
structure Screen where
  bpp : Nat
  width : Int
  height : Int
  deriving DecidableEq, Repr

/-- `struct xrdp_painter`, the pixels of the screen, and those the client has. -/
structure State where
  wmScreen : Screen
  defaultFont : Option Font
  attrs : Attrs
  useClip : Option Rect
  font : Option Font
  dirtyRegion : List Rect
  beginEndLevel : Int
  data : Picture Pixel
  client : Picture Pixel

/-- `get_pt_format`. -/
def Screen.ptFormat (s : Screen) : Format :=
  match s.bpp with
  | 8 => .r3g3b2
  | 15 => .a1r5g5b5
  | 16 => .r5g6b5
  | _ => .a8r8g8b8

/-- `dst_pb`. -/
def Screen.plane (s : Screen) : Plane := ⟨s.ptFormat, s.width, s.height⟩

/-- `XR_RGB2BGR`. -/
def rgb2bgr (color : Pixel) : Pixel :=
  (color &&& 0xFF000000) ||| ((color &&& 0x00FF0000) >>> 16) ||| (color &&& 0x0000FF00) |||
    ((color &&& 0x000000FF) <<< 16)

/-- `get_rgb_from_rdp_color`. -/
def Screen.rgbFromRdpColor (s : Screen) (color : Pixel) : Pixel :=
  if s.bpp < 24 then color else rgb2bgr color

/-! ## Regions -/

/-- The area that `xrdp_wm_get_vis_region` begins with. -/
def Screen.area (s : Screen) (b : Bitmap) (x y cx cy : Int) : Rect :=
  let a := makeRect (b.toScreenx x) (b.toScreeny y) cx cy
  ⟨max 0 a.left, max 0 a.top, min s.width a.right, min s.height a.bottom⟩

/-- `xrdp_wm_get_vis_region`: the rectangles that the windows in front leave of an area. -/
structure VisRegion where
  rects : Rect → List Rect
  disjoint : ∀ area, (rects area).Pairwise Rect.Disjoint
  within : ∀ area, ∀ r ∈ rects area, ∀ p, r.Has p → area.Has p

/-- `xrdp_bitmap_get_screen_clip`. -/
def State.screenClip (st : State) (b : Bitmap) : Rect :=
  let rect := st.useClip.getD ⟨0, 0, b.width, b.height⟩
  let dx := b.toScreenx 0
  let dy := b.toScreeny 0
  ⟨rect.left + dx, rect.top + dy, rect.right + dx, rect.bottom + dy⟩

/-- `rect_intersect`. -/
def rectIntersect (in1 in2 : Rect) : Option Rect :=
  let out : Rect :=
    ⟨if in2.left > in1.left then in2.left else in1.left, if in2.top > in1.top then in2.top else in1.top,
      if in2.right < in1.right then in2.right else in1.right,
      if in2.bottom < in1.bottom then in2.bottom else in1.bottom⟩
  if out.right ≤ out.left ∨ out.bottom ≤ out.top then none else some out

/-- The clips that an operation is painted with, one after another. -/
def State.drawRects (st : State) (b : Bitmap) (vis : VisRegion) (x y cx cy : Int) : List Rect :=
  (vis.rects (st.wmScreen.area b x y cx cy)).filterMap fun rect => rectIntersect rect (st.screenClip b)

/-- `xrdp_painter_add_dirty_rect`. -/
def addDirtyRect (dirty : List Rect) (x y cx cy : Int) (clip : Rect) : List Rect :=
  let x2 := min (x + cx) clip.right
  let y2 := min (y + cy) clip.bottom
  let x := max x clip.left
  let y := max y clip.top
  if x2 - x < 1 ∨ y2 - y < 1 then dirty else dirty ++ [⟨x, y, x2, y2⟩]

/-! ## Operations -/

/-- The loop over the visible rectangles, with `painter_set_clip` and `xrdp_painter_add_dirty_rect`. -/
def State.eachRect (st : State) (draws : List Rect) (op : Rect → Picture Pixel → Picture Pixel)
    (x y cx cy : Int) : State :=
  draws.foldl (fun st draw =>
    { st with
      data := op draw st.data
      dirtyRegion := addDirtyRect st.dirtyRegion x y cx cy draw }) st

/-- The codes of `xrdp_painter_fill_rect` that are mapped. -/
def fillRop (rop : Nat) : Nat :=
  match rop with
  | 0x5a => PT_ROP_DSx
  | 0xf0 => PT_ROP_S
  | 0xfb => PT_ROP_D
  | 0xc0 => PT_ROP_DSa
  | rop => rop

/-- `xrdp_painter_fill_rect`. -/
def State.xrdpPainterFillRect (st : State) (dst : Bitmap) (x y cx cy : Int) (vis : VisRegion) : State :=
  if dst.type ≠ .offscreen then
    let draws := st.drawRects dst vis x y cx cy
    let x := x + dst.toScreenx 0
    let y := y + dst.toScreeny 0
    let rop := fillRop st.attrs.rop
    let fgcolor := st.wmScreen.rgbFromRdpColor st.attrs.fgColor
    if st.attrs.mixMode = 0 then
      st.eachRect draws (fun draw => painterFillRect st.wmScreen.plane rop fgcolor draw x y cx cy) x y cx cy
    else
      let bgcolor := st.wmScreen.rgbFromRdpColor st.attrs.bgColor
      let pat : Pattern := ⟨8, 8, 1, st.attrs.brush.pattern⟩
      let origin := (st.attrs.brush.xOrigin, st.attrs.brush.yOrigin)
      let dots := patternDots st.wmScreen.plane rop fgcolor (some bgcolor) origin pat x y x y cx cy
      st.eachRect draws (fun draw => Pictures.draw draw dots) x y cx cy
  else st

/-- `xrdp_painter_copy`. -/
def State.xrdpPainterCopy (st : State) (src : Source) (dst : Bitmap) (x y cx cy srcx srcy : Int)
    (vis : VisRegion) : State :=
  if dst.type ≠ .offscreen then
    let draws := st.drawRects dst vis x y cx cy
    let x := x + dst.toScreenx 0
    let y := y + dst.toScreeny 0
    st.eachRect draws
      (fun draw => painterCopy st.wmScreen.plane st.attrs.rop draw x y cx cy src srcx srcy) x y cx cy
  else st

/-- `x`, `y`, `cx` and `cy` of `xrdp_painter_line`. -/
def lineBox (x1 y1 x2 y2 : Int) : Int × Int × Int × Int :=
  (min x1 x2, min y1 y2, (x1 - x2).natAbs + 1, (y1 - y2).natAbs + 1)

/-- The clips of a line. -/
def State.lineDraws (st : State) (dst : Bitmap) (x1 y1 x2 y2 : Int) (vis : VisRegion) : List Rect :=
  let (x, y, cx, cy) := lineBox x1 y1 x2 y2
  st.drawRects dst vis x y cx cy

/-- The dots of a line; the color of the pen is not mapped. -/
def State.lineDots (st : State) (dst : Bitmap) (x1 y1 x2 y2 : Int) : List (Dot Pixel) :=
  Painter.lineDots st.wmScreen.plane st.attrs.rop st.attrs.penColor (x1 + dst.toScreenx 0)
    (y1 + dst.toScreeny 0) (x2 + dst.toScreenx 0) (y2 + dst.toScreeny 0)

/-- `xrdp_painter_line`: `x` and `y` of the dirty rectangle are not moved to the screen. -/
def State.xrdpPainterLine (st : State) (dst : Bitmap) (x1 y1 x2 y2 : Int) (vis : VisRegion) : State :=
  if dst.type ≠ .offscreen then
    let (x, y, cx, cy) := lineBox x1 y1 x2 y2
    st.eachRect (st.lineDraws dst x1 y1 x2 y2 vis)
      (fun draw => Pictures.draw draw (st.lineDots dst x1 y1 x2 y2)) x y cx cy
  else st

/-- The dots of a character at `x`, `y`. -/
def charDots (dst : Plane) (fgcolor : Pixel) (item : FontChar) (x y : Int) : List (Dot Pixel) :=
  let pat : Pattern := ⟨item.width, item.height, ((item.width + 7) / 8).toNat, item.data⟩
  patternDots dst PT_ROP_S fgcolor none (0, 0) pat 0 0 (x + item.offset)
    (y + (item.height + item.baseline)) item.width item.height

/-- The inner loop of `xrdp_painter_draw_text`; also where it leaves `x`. -/
def State.drawChars (st : State) (dst : Plane) (fgcolor : Pixel) (draw : Rect) (items : List FontChar)
    (x y : Int) : Int × State :=
  items.foldl (fun (x, st) item =>
    (x + item.incby,
      { st with
        data := Pictures.draw draw (charDots dst fgcolor item x y) st.data
        dirtyRegion := addDirtyRect st.dirtyRegion x y item.width item.height draw })) (x, st)

/-- The outer loop: `x` goes on from rectangle to rectangle. -/
def State.drawText (st : State) (dst : Plane) (fgcolor : Pixel) (draws : List Rect)
    (items : List FontChar) (x y : Int) : Int × State :=
  draws.foldl (fun (x, st) draw => st.drawChars dst fgcolor draw items x y) (x, st)

/-- `total_width`. -/
def totalWidth (items : List FontChar) : Int := (items.map FontChar.incby).sum

/-- `total_height`. -/
def totalHeight (items : List FontChar) : Int := items.foldl (fun h item => max h item.height) 0

/-- `xrdp_painter_font_needed`. -/
def State.fontNeeded (st : State) : Option Font := st.font.or st.defaultFont

/-- The clips of a text. -/
def State.textDraws (st : State) (dst : Bitmap) (x y : Int) (items : List FontChar) (vis : VisRegion) :
    List Rect :=
  st.drawRects dst vis x y (totalWidth items) (totalHeight items)

/-- `xrdp_painter_draw_text`, of the wide characters of a text. -/
def State.xrdpPainterDrawText (st : State) (dst : Bitmap) (x y : Int) (wstr : List Nat) (vis : VisRegion) :
    State :=
  if wstr.length < 1 then st
  else if dst.type = .bitmap then st
  else match st.fontNeeded with
    | none => st
    | some font =>
      let st := { st with font := some font }
      if dst.type ≠ .offscreen then
        let items := wstr.map font
        (st.drawText st.wmScreen.plane (st.wmScreen.rgbFromRdpColor st.attrs.fgColor)
          (st.textDraws dst x y items vis) items (x + dst.toScreenx 0) (y + dst.toScreeny 0)).2
      else st

/-- `xrdp_painter_begin_update`. -/
def State.xrdpPainterBeginUpdate (st : State) : State := { st with beginEndLevel := st.beginEndLevel + 1 }

/-- `xrdp_painter_send_dirty`. -/
def State.xrdpPainterSendDirty (st : State) : State :=
  { st with
    client := fun p => if Has st.dirtyRegion p then st.data p else st.client p
    dirtyRegion := [] }

/-- `xrdp_painter_end_update`. -/
def State.xrdpPainterEndUpdate (st : State) : State :=
  let st := { st with beginEndLevel := st.beginEndLevel - 1 }
  if st.beginEndLevel = 0 then st.xrdpPainterSendDirty else st

/-- What comes to the painter. -/
inductive Event where
  | beginUpdate
  | endUpdate
  | setAttrs (attrs : Attrs)
  | setClip (x y cx cy : Int)
  | clrClip
  | fillRect (dst : Bitmap) (x y cx cy : Int) (vis : VisRegion)
  | copy (src : Source) (dst : Bitmap) (x y cx cy srcx srcy : Int) (vis : VisRegion)
  | line (dst : Bitmap) (x1 y1 x2 y2 : Int) (vis : VisRegion)
  | drawText (dst : Bitmap) (x y : Int) (wstr : List Nat) (vis : VisRegion)

def State.step (st : State) : Event → State
  | .beginUpdate => st.xrdpPainterBeginUpdate
  | .endUpdate => st.xrdpPainterEndUpdate
  | .setAttrs attrs => { st with attrs := attrs }
  | .setClip x y cx cy => { st with useClip := some (makeRect x y cx cy) }
  | .clrClip => { st with useClip := none }
  | .fillRect dst x y cx cy vis => st.xrdpPainterFillRect dst x y cx cy vis
  | .copy src dst x y cx cy srcx srcy vis => st.xrdpPainterCopy src dst x y cx cy srcx srcy vis
  | .line dst x1 y1 x2 y2 vis => st.xrdpPainterLine dst x1 y1 x2 y2 vis
  | .drawText dst x y wstr vis => st.xrdpPainterDrawText dst x y wstr vis

def Next (st : State) (e : Event) (st' : State) : Prop := st.step e = st'

/-! ## What is promised -/

/-- What the client does not have is in the dirty region. -/
def Synced (st : State) : Prop := ∀ p, st.data p ≠ st.client p → Has st.dirtyRegion p

/-- Dots are painted in all points of some rectangles at once. -/
def paintedIn (draws : List Rect) (dots : List (Dot Pixel)) (pic : Picture Pixel) : Picture Pixel := fun p =>
  if Has draws p then valueAt dots p (pic p) else pic p

/-- The dots of a text that begins at `x`. -/
def textDots (dst : Plane) (fgcolor : Pixel) : List FontChar → Int → Int → List (Dot Pixel)
  | [], _, _ => []
  | item :: items, x, y =>
    charDots dst fgcolor item x y ++ textDots dst fgcolor items (x + item.incby) y

def State.textDots (st : State) (dst : Bitmap) (x y : Int) (items : List FontChar) : List (Dot Pixel) :=
  Painter.textDots st.wmScreen.plane (st.wmScreen.rgbFromRdpColor st.attrs.fgColor) items
    (x + dst.toScreenx 0) (y + dst.toScreeny 0)

/-- A line and a text are painted like in all visible points at once. -/
def PaintsWhole (st : State) : Event → Prop
  | .line dst x1 y1 x2 y2 vis => dst.type ≠ .offscreen →
    (st.xrdpPainterLine dst x1 y1 x2 y2 vis).data =
      paintedIn (st.lineDraws dst x1 y1 x2 y2 vis) (st.lineDots dst x1 y1 x2 y2) st.data
  | .drawText dst x y wstr vis => dst.type ≠ .offscreen → dst.type ≠ .bitmap →
    ∀ font, st.fontNeeded = some font →
      (st.xrdpPainterDrawText dst x y wstr vis).data =
        paintedIn (st.textDraws dst x y (wstr.map font) vis) (st.textDots dst x y (wstr.map font)) st.data
  | _ => True

/-! ## When it holds -/

/-- Each point of a line that is painted is in the rectangle that has not been moved. -/
def State.LineFits (st : State) (dst : Bitmap) (x1 y1 x2 y2 : Int) (vis : VisRegion) : Prop :=
  let (x, y, cx, cy) := lineBox x1 y1 x2 y2
  ∀ d ∈ st.lineDots dst x1 y1 x2 y2, Has (st.lineDraws dst x1 y1 x2 y2 vis) d.point →
    (makeRect x y cx cy).Has d.point

/-- The rectangles that a text is noted with. -/
def textBoxes : List FontChar → Int → Int → List Rect
  | [], _, _ => []
  | item :: items, x, y => makeRect x y item.width item.height :: textBoxes items (x + item.incby) y

/-- A text is painted through one rectangle, or does not go on; and each point that is painted is in a
rectangle without offset and baseline. -/
def State.TextFits (st : State) (dst : Bitmap) (x y : Int) (items : List FontChar) (vis : VisRegion) :
    Prop :=
  ((st.textDraws dst x y items vis).length ≤ 1 ∨ totalWidth items = 0) ∧
    ∀ d ∈ st.textDots dst x y items, Has (st.textDraws dst x y items vis) d.point →
      Has (textBoxes items (x + dst.toScreenx 0) (y + dst.toScreeny 0)) d.point

def EventFits (st : State) : Event → Prop
  | .line dst x1 y1 x2 y2 vis => dst.type ≠ .offscreen → st.LineFits dst x1 y1 x2 y2 vis
  | .drawText dst x y wstr vis => dst.type ≠ .offscreen → dst.type ≠ .bitmap →
    ∀ font, st.fontNeeded = some font → st.TextFits dst x y (wstr.map font) vis
  | _ => True

/-! ## Regions and rectangles -/

/-- What is noted: what is in the clip and in the rectangle. -/
theorem has_addDirtyRect {dirty : List Rect} {x y cx cy : Int} {clip : Rect} {p : Point} :
    Has (addDirtyRect dirty x y cx cy clip) p ↔ Has dirty p ∨ clip.Has p ∧ (makeRect x y cx cy).Has p := by
  have hrect : (⟨max x clip.left, max y clip.top, min (x + cx) clip.right, min (y + cy) clip.bottom⟩ : Rect).Has p ↔
      clip.Has p ∧ (makeRect x y cx cy).Has p := by
    simp only [Rect.Has, makeRect]
    omega
  unfold addDirtyRect
  dsimp only
  split
  · rename_i hempty
    have hnot : ¬ (clip.Has p ∧ (makeRect x y cx cy).Has p) := by
      rw [← hrect]
      simp only [Rect.Has]
      omega
    simp [hnot]
  · simp [hrect]

theorem rectIntersect_has {in1 in2 out : Rect} (h : rectIntersect in1 in2 = some out) {p : Point}
    (hp : out.Has p) : in1.Has p ∧ in2.Has p := by
  rw [rectIntersect, Option.ite_none_left_eq_some] at h
  obtain ⟨-, h⟩ := h
  rw [← Option.some.inj h] at hp
  simp only [Rect.Has] at hp ⊢
  omega

/-- The clips of an operation do not meet. -/
theorem drawRects_disjoint (st : State) (b : Bitmap) (vis : VisRegion) (x y cx cy : Int) :
    (st.drawRects b vis x y cx cy).Pairwise Rect.Disjoint := by
  refine (vis.disjoint _).filterMap _ fun r r' hdisjoint out hout out' hout' p hp => ?_
  exact hdisjoint p ⟨(rectIntersect_has hout hp.1).1, (rectIntersect_has hout' hp.2).1⟩

/-! ## One rectangle after another -/

section EachRect

variable {st : State} {draws : List Rect} {op : Rect → Picture Pixel → Picture Pixel} {x y cx cy : Int}

theorem eachRect_client : (st.eachRect draws op x y cx cy).client = st.client := by
  induction draws generalizing st with
  | nil => rfl
  | cons draw draws ih => exact ih

theorem eachRect_data : (st.eachRect draws op x y cx cy).data =
    draws.foldl (fun pic draw => op draw pic) st.data := by
  induction draws generalizing st with
  | nil => rfl
  | cons draw draws ih => exact ih

theorem eachRect_dirty {p : Point} : Has (st.eachRect draws op x y cx cy).dirtyRegion p ↔
    Has st.dirtyRegion p ∨ Has draws p ∧ (makeRect x y cx cy).Has p := by
  induction draws generalizing st with
  | nil => simp [State.eachRect]
  | cons draw draws ih =>
    refine Iff.trans ih ?_
    simp only [has_addDirtyRect, has_cons]
    tauto

/-- What is touched is noted. -/
theorem Synced.of_touches {st' : State} (h : Synced st) (hclient : st'.client = st.client)
    (hkeep : ∀ p, Has st.dirtyRegion p → Has st'.dirtyRegion p)
    (htouch : Touches (Has st'.dirtyRegion) st.data st'.data) : Synced st' := by
  intro p hp
  rw [hclient] at hp
  by_cases hsame : st'.data p = st.data p
  · rw [hsame] at hp
    exact hkeep p (h p hp)
  · exact htouch p hsame

/-- An operation that touches what is in its rectangle. -/
theorem Synced.eachRect (h : Synced st)
    (hop : ∀ draw ∈ draws, ∀ pic, Touches (fun p => draw.Has p ∧ (makeRect x y cx cy).Has p) pic (op draw pic)) :
    Synced (st.eachRect draws op x y cx cy) := by
  refine h.of_touches eachRect_client (fun p hp => eachRect_dirty.2 (.inl hp)) ?_
  rw [eachRect_data]
  refine Touches.foldl (fun pic draw hdraw => (hop draw hdraw pic).mono fun p hp => ?_) _
  exact eachRect_dirty.2 (.inr ⟨⟨draw, hdraw, hp.1⟩, hp.2⟩)

end EachRect

/-! ## Texts -/

section Texts

variable {st : State} {dst : Plane} {fgcolor : Pixel} {draw : Rect} {draws : List Rect}
  {items : List FontChar} {x y : Int}

theorem drawChars_fst : (st.drawChars dst fgcolor draw items x y).1 = x + totalWidth items := by
  induction items generalizing st x with
  | nil => simp [State.drawChars, totalWidth]
  | cons item items ih =>
    refine Eq.trans ih ?_
    simp only [totalWidth, List.map_cons, List.sum_cons]
    omega

theorem drawChars_client : (st.drawChars dst fgcolor draw items x y).2.client = st.client := by
  induction items generalizing st x with
  | nil => rfl
  | cons item items ih => exact ih

theorem drawChars_data : (st.drawChars dst fgcolor draw items x y).2.data =
    Pictures.draw draw (textDots dst fgcolor items x y) st.data := by
  induction items generalizing st x with
  | nil => rfl
  | cons item items ih =>
    rw [textDots, draw_append]
    exact ih

theorem drawChars_dirty {p : Point} :
    Has (st.drawChars dst fgcolor draw items x y).2.dirtyRegion p ↔
      Has st.dirtyRegion p ∨ draw.Has p ∧ Has (textBoxes items x y) p := by
  induction items generalizing st x with
  | nil => simp [State.drawChars, textBoxes]
  | cons item items ih =>
    refine Iff.trans ih ?_
    simp only [has_addDirtyRect, textBoxes, has_cons]
    tauto

/-- What a text comes to that does not go on from one rectangle to the next. -/
structure DrawnAtOnce (st st' : State) (dst : Plane) (fgcolor : Pixel) (draws : List Rect)
    (items : List FontChar) (x y : Int) : Prop where
  client : st'.client = st.client
  data : st'.data = drawAll draws (textDots dst fgcolor items x y) st.data
  dirty : ∀ p, Has st'.dirtyRegion p ↔ Has st.dirtyRegion p ∨ Has draws p ∧ Has (textBoxes items x y) p

theorem drawText_atOnce (h : draws.length ≤ 1 ∨ totalWidth items = 0) :
    DrawnAtOnce st (st.drawText dst fgcolor draws items x y).2 dst fgcolor draws items x y := by
  induction draws generalizing st with
  | nil => exact ⟨rfl, rfl, fun p => by simp [State.drawText]⟩
  | cons draw draws ih =>
    obtain ⟨st₁, hst₁⟩ : ∃ st₁, (st.drawChars dst fgcolor draw items x y).2 = st₁ := ⟨_, rfl⟩
    -- the second rectangle is only reached by a text that does not go on
    have hrest : (st.drawText dst fgcolor (draw :: draws) items x y).2 =
        (st₁.drawText dst fgcolor draws items x y).2 := by
      have hcons : st.drawText dst fgcolor (draw :: draws) items x y =
          st₁.drawText dst fgcolor draws items (x + totalWidth items) y := by
        rw [← hst₁, ← drawChars_fst]
        rfl
      rw [hcons]
      rcases h with hlength | hwidth
      · have hnil : draws = [] := List.eq_nil_of_length_eq_zero (by simpa using hlength)
        rw [hnil]
        rfl
      · rw [hwidth, Int.add_zero]
    obtain ⟨hclient, hdata, hdirty⟩ := @ih st₁ (h.imp_left fun hlength => by
      rw [List.length_cons] at hlength
      omega)
    rw [hrest]
    subst hst₁
    refine ⟨hclient.trans drawChars_client, ?_, fun p => ?_⟩
    · rw [hdata, drawChars_data]
      rfl
    · rw [hdirty, drawChars_dirty, has_cons]
      tauto

end Texts

/-! ## Steps -/

theorem Synced.fillRect {st : State} (h : Synced st) (dst : Bitmap) (x y cx cy : Int) (vis : VisRegion) :
    Synced (st.xrdpPainterFillRect dst x y cx cy vis) := by
  unfold State.xrdpPainterFillRect
  split
  · dsimp only
    split
    · exact h.eachRect fun draw _ pic => fillRect_touches _ _ _ _ _ _ _ _ pic
    · exact h.eachRect fun draw _ pic => draw_touches patternDots_point pic
  · exact h

theorem Synced.copy {st : State} (h : Synced st) (src : Source) (dst : Bitmap)
    (x y cx cy srcx srcy : Int) (vis : VisRegion) :
    Synced (st.xrdpPainterCopy src dst x y cx cy srcx srcy vis) := by
  unfold State.xrdpPainterCopy
  split
  · exact h.eachRect fun draw _ pic => copy_touches _ _ _ _ _ _ _ _ _ _ pic
  · exact h

/-- A line into what is at the origin of the screen, as the screen is, is noted where it is painted. -/
theorem State.lineFits_of_origin (st : State) {dst : Bitmap} (hx : dst.toScreenx 0 = 0)
    (hy : dst.toScreeny 0 = 0) (x1 y1 x2 y2 : Int) (vis : VisRegion) :
    st.LineFits dst x1 y1 x2 y2 vis := by
  intro d hd _
  have hpoint := lineDots_point d hd
  simp only [hx, hy, add_zero] at hpoint
  exact linePoints_within hpoint

theorem Synced.line {st : State} (h : Synced st) {dst : Bitmap} {x1 y1 x2 y2 : Int} {vis : VisRegion}
    (hfits : EventFits st (.line dst x1 y1 x2 y2 vis)) :
    Synced (st.xrdpPainterLine dst x1 y1 x2 y2 vis) := by
  unfold State.xrdpPainterLine
  split
  · rename_i htype
    refine h.eachRect fun draw hdraw pic p hp => ?_
    obtain ⟨hclip, d, hd, rfl⟩ := of_draw_ne hp
    exact ⟨hclip, hfits htype d hd ⟨draw, hdraw, hclip⟩⟩
  · exact h

/-- A line is painted in each rectangle for itself. -/
theorem paintsWhole_line (st : State) (dst : Bitmap) (x1 y1 x2 y2 : Int) (vis : VisRegion) :
    PaintsWhole st (.line dst x1 y1 x2 y2 vis) := by
  intro htype
  rw [State.xrdpPainterLine, if_pos htype]
  refine eachRect_data.trans ?_
  funext p
  exact drawAll_apply (drawRects_disjoint ..)

section TextSteps

variable {st : State} {dst : Bitmap} {x y : Int} {wstr : List Nat} {vis : VisRegion}

theorem drawText_eq (h : wstr ≠ []) (htype : dst.type ≠ .offscreen) (hbitmap : dst.type ≠ .bitmap)
    {font : Font} (hfont : st.fontNeeded = some font) :
    st.xrdpPainterDrawText dst x y wstr vis =
      (({ st with font := some font } : State).drawText st.wmScreen.plane
        (st.wmScreen.rgbFromRdpColor st.attrs.fgColor) (st.textDraws dst x y (wstr.map font) vis)
        (wstr.map font) (x + dst.toScreenx 0) (y + dst.toScreeny 0)).2 := by
  have hlength : ¬ wstr.length < 1 := by
    rw [Nat.lt_one_iff]
    exact fun h0 => h (List.eq_nil_of_length_eq_zero h0)
  rw [State.xrdpPainterDrawText, if_neg hlength, if_neg hbitmap, hfont]
  exact if_pos htype

/-- A text that fits is painted at once. -/
theorem drawText_drawn (h : wstr ≠ []) (htype : dst.type ≠ .offscreen) (hbitmap : dst.type ≠ .bitmap)
    {font : Font} (hfont : st.fontNeeded = some font) (hfits : st.TextFits dst x y (wstr.map font) vis) :
    DrawnAtOnce st (st.xrdpPainterDrawText dst x y wstr vis) st.wmScreen.plane
      (st.wmScreen.rgbFromRdpColor st.attrs.fgColor) (st.textDraws dst x y (wstr.map font) vis)
      (wstr.map font) (x + dst.toScreenx 0) (y + dst.toScreeny 0) := by
  rw [drawText_eq h htype hbitmap hfont]
  obtain ⟨hclient, hdata, hdirty⟩ := @drawText_atOnce { st with font := some font } st.wmScreen.plane
    (st.wmScreen.rgbFromRdpColor st.attrs.fgColor) _ _ (x + dst.toScreenx 0) (y + dst.toScreeny 0) hfits.1
  exact ⟨hclient, hdata, hdirty⟩

theorem Synced.drawText (h : Synced st) (hfits : EventFits st (.drawText dst x y wstr vis)) :
    Synced (st.xrdpPainterDrawText dst x y wstr vis) := by
  by_cases hnil : wstr = []
  · rw [hnil]
    exact h
  by_cases hbitmap : dst.type = .bitmap
  · rw [State.xrdpPainterDrawText, if_pos hbitmap, ite_self]
    exact h
  cases hfont : st.fontNeeded with
  | none =>
    rw [State.xrdpPainterDrawText, hfont, ite_self, ite_self]
    exact h
  | some font =>
    by_cases htype : dst.type = .offscreen
    · rw [State.xrdpPainterDrawText, hfont]
      dsimp only
      rw [if_neg (not_not_intro htype)]
      split
      · exact h
      · exact h
    have htext := hfits htype hbitmap font hfont
    have hdrawn := drawText_drawn hnil htype hbitmap hfont htext
    refine h.of_touches hdrawn.client (fun p hp => (hdrawn.dirty p).2 (.inl hp)) fun p hp => ?_
    have hdisjoint : (st.textDraws dst x y (wstr.map font) vis).Pairwise Rect.Disjoint :=
      drawRects_disjoint ..
    rw [hdrawn.data, drawAll_apply hdisjoint] at hp
    rw [hdrawn.dirty]
    refine .inr ?_
    split at hp
    · rename_i hclip
      obtain ⟨d, hd, rfl⟩ := of_valueAt_ne hp
      exact ⟨hclip, htext.2 d hd hclip⟩
    · exact absurd rfl hp

theorem paintsWhole_drawText (hfits : EventFits st (.drawText dst x y wstr vis)) :
    PaintsWhole st (.drawText dst x y wstr vis) := by
  intro htype hbitmap font hfont
  by_cases hnil : wstr = []
  · subst hnil
    funext p
    exact (ite_self _).symm
  · rw [(drawText_drawn hnil htype hbitmap hfont (hfits htype hbitmap font hfont)).data]
    funext p
    exact drawAll_apply (drawRects_disjoint ..)

end TextSteps

/-- What is sent is no more in the dirty region. -/
theorem Synced.sendDirty {st : State} (h : Synced st) : Synced st.xrdpPainterSendDirty := by
  intro p (hp : st.data p ≠ if Has st.dirtyRegion p then st.data p else st.client p)
  split at hp
  · exact absurd rfl hp
  · rename_i hnot
    exact absurd (h p hp) hnot

/-- **A step**: what it touches is noted. -/
theorem Synced.step {st : State} (h : Synced st) {e : Event} (hfits : EventFits st e) :
    Synced (st.step e) := by
  cases e with
  | beginUpdate => exact h
  | endUpdate =>
    rw [State.step, State.xrdpPainterEndUpdate]
    dsimp only
    split
    · exact Synced.sendDirty h
    · exact h
  | setAttrs attrs => exact h
  | setClip x y cx cy => exact h
  | clrClip => exact h
  | fillRect dst x y cx cy vis => exact h.fillRect dst x y cx cy vis
  | copy src dst x y cx cy srcx srcy vis => exact h.copy src dst x y cx cy srcx srcy vis
  | line dst x1 y1 x2 y2 vis => exact h.line hfits
  | drawText dst x y wstr vis => exact h.drawText hfits

theorem paintsWhole {st : State} {e : Event} (hfits : EventFits st e) : PaintsWhole st e := by
  cases e with
  | line dst x1 y1 x2 y2 vis => exact paintsWhole_line st dst x1 y1 x2 y2 vis
  | drawText dst x y wstr vis => exact paintsWhole_drawText hfits
  | _ => trivial

/-! ## Runs -/

/-- **What is painted is sent**: in a run whose lines and texts are noted where they are painted, and whose
texts are painted through one rectangle, what the client does not have is in the dirty region all
the time, and each line and each text is painted like in all visible points at once. -/
theorem dirty_covers (st : State) (es : List Event) (h : Synced st) (hfits : AllFit Next EventFits st es) :
    Always Next Synced st es ∧ AllFit Next PaintsWhole st es := by
  constructor
  · refine always_of_fits (fun st e hst he => ?_) h hfits
    exact ⟨st.step e, rfl, hst.step he⟩
  · exact hfits.mono fun st e he => paintsWhole he

/-- A screen of 16 bits a pixel that the client has. -/
def State.start : State where
  wmScreen := ⟨16, 20, 20⟩
  defaultFont := none
  attrs := ⟨0xCC, 0, 7, 0, ⟨0, 0, []⟩, 7⟩
  useClip := none
  font := none
  dirtyRegion := []
  beginEndLevel := 0
  data := fun _ => 0
  client := fun _ => 0

/-- Nothing is in front. -/
def VisRegion.whole : VisRegion where
  rects area := [area]
  disjoint _ := List.pairwise_singleton ..
  within _ _ hr _ hp := List.mem_singleton.1 hr ▸ hp

/-- What a window that covers a column leaves of an area. -/
def besideColumn (x : Int) (area : Rect) : List Rect :=
  [⟨area.left, area.top, min x area.right, area.bottom⟩, ⟨max (x + 1) area.left, area.top, area.right, area.bottom⟩]

theorem besideColumn_disjoint (x : Int) (area : Rect) : (besideColumn x area).Pairwise Rect.Disjoint := by
  refine List.pairwise_pair.2 fun p hp => ?_
  simp only [Rect.Has] at hp
  omega

theorem besideColumn_within (x : Int) (area : Rect) : ∀ r ∈ besideColumn x area, ∀ p, r.Has p → area.Has p := by
  intro r hr p hp
  simp only [besideColumn, List.mem_cons, List.not_mem_nil, or_false] at hr
  obtain rfl | rfl := hr
  · simp only [Rect.Has] at hp ⊢
    omega
  · simp only [Rect.Has] at hp ⊢
    omega

/-- Such a window is in front. -/
def VisRegion.aroundColumn (x : Int) : VisRegion where
  rects := besideColumn x
  disjoint := besideColumn_disjoint x
  within := besideColumn_within x

/-- The screen itself. -/
def onScreen : Bitmap := ⟨.screen, 0, 0, 20, 20, []⟩

/-- A font whose characters are painted where they are noted. -/
def levelFont : Font := fun _ => ⟨0, -2, 3, 2, 4, [0xA0, 0x40]⟩

/-- A fill and a line at both sides of a window, and a text. -/
def paintedOnScreen : List Event :=
  [.beginUpdate, .fillRect onScreen 0 0 6 2 (.aroundColumn 2), .line onScreen 0 3 5 5 (.aroundColumn 2),
    .drawText onScreen 1 8 [0x41, 0x42] .whole, .endUpdate]

theorem dirty_covers_paintedOnScreen :
    let st : State := { State.start with defaultFont := some levelFont }
    Synced st ∧ AllFit Next EventFits st paintedOnScreen ∧ Always Next Synced st paintedOnScreen ∧
      AllFit Next PaintsWhole st paintedOnScreen := by
  intro st
  have hsynced : Synced st := fun p hp => absurd rfl hp
  have hfits : AllFit Next EventFits st paintedOnScreen := by
    refine ⟨trivial, ?_⟩
    rintro st₁ rfl
    refine ⟨trivial, ?_⟩
    rintro st₂ rfl
    refine ⟨fun _ => State.lineFits_of_origin _ rfl rfl _ _ _ _ _, ?_⟩
    rintro st₃ rfl
    refine ⟨fun _ _ font hfont => ?_, ?_⟩
    · obtain rfl := Option.some.inj hfont
      refine ⟨.inl (by decide), ?_⟩
      decide
    · rintro st₄ rfl
      exact ⟨trivial, fun _ _ => trivial⟩
  exact ⟨hsynced, hfits, dirty_covers st paintedOnScreen hsynced hfits⟩

/-- A line in a window that is not at the left of the screen. -/
def lineInWindow : Event := .line ⟨.wnd, 5, 5, 10, 10, [(0, 0)]⟩ 0 0 2 0 .whole

/-- The line is painted where nothing is noted. -/
theorem line_not_noted : ¬ ∀ (st : State) (es : List Event), Synced st →
    Always Next Synced st es ∧ AllFit Next PaintsWhole st es := by
  intro h
  obtain ⟨st, hleads, hsynced⟩ := (h .start [.beginUpdate, lineInWindow] fun p hp => absurd rfl hp).1
    [.beginUpdate, lineInWindow] (List.prefix_refl _)
  have hst := leads_fun.1 hleads
  subst hst
  have hchanged : State.data ([.beginUpdate, lineInWindow].foldl State.step .start) (5, 5) ≠
      State.client ([.beginUpdate, lineInWindow].foldl State.step .start) (5, 5) := by
    decide
  have hnot : ¬ Has (State.dirtyRegion ([.beginUpdate, lineInWindow].foldl State.step .start)) (5, 5) := by
    decide
  exact hnot (hsynced (5, 5) hchanged)

/-- A font with a tall and a low character, which stand on the same line. -/
def standingFont : Font := fun c =>
  if c = 0x41 then ⟨0, -4, 3, 4, 4, [0xE0, 0xA0, 0xE0, 0xA0]⟩ else ⟨0, 0, 3, 2, 4, [0xA0, 0x40]⟩

/-- A tall and a low character in a label. -/
def textOfLabel (vis : VisRegion) : Event :=
  .drawText ⟨.label, 1, 1, 12, 12, [(2, 2), (0, 0)]⟩ 0 0 [0x41, 0x61] vis

/-- The low character is painted where nothing is noted, and the text does not go on behind a window. -/
theorem text_not_noted :
    let st : State := { State.start with defaultFont := some standingFont }
    Synced st ∧ ¬ Always Next Synced st [.beginUpdate, textOfLabel .whole] ∧
      ¬ AllFit Next PaintsWhole st [.beginUpdate, textOfLabel (.aroundColumn 6)] := by
  intro st
  refine ⟨fun p hp => absurd rfl hp, fun h => ?_, fun h => ?_⟩
  · obtain ⟨st', hleads, hsynced⟩ := h _ (List.prefix_refl _)
    obtain rfl := leads_fun.1 hleads
    have hnot : ¬ Has (State.dirtyRegion ([.beginUpdate, textOfLabel .whole].foldl State.step st)) (7, 5) := by
      decide
    exact hnot (hsynced (7, 5) (by decide))
  · have hwhole := congrFun ((h.2 _ rfl).1 (by decide) (by decide) standingFont rfl) (7, 5)
    exact absurd hwhole (by decide)

end Xrdp.Painter
