import Mathlib
import Xrdp.Lib.Pictures

/-!
# The painter library

`libpainter/src/painter.c`: what is painted into a bitmap, with a clip set.

* `doRop`, `setPixel` — one pixel.
* `painterFillRect`, `patternDots`, `painterCopy`, `lineDots` — the operations.
* `fillRect_touches`, `copy_touches` — they touch what is both in the clip and in their own extent;
  `draw_touches` with `patternDots_point` says so of a pattern, with `lineDots_point` of a line.
* `linePoints_within` — a line stays between its ends.
-/

namespace Xrdp.Painter

open Pictures

abbrev Pixel := BitVec 32

/-- `PT_FORMAT_*`, as the screen may have it. -/
inductive Format where
  | r3g3b2
  | a1r5g5b5
  | r5g6b5
  | a8r8g8b8
  deriving DecidableEq, Repr

def Format.bpp : Format → Nat
  | .r3g3b2 => 8
  | .a1r5g5b5 => 16
  | .r5g6b5 => 16
  | .a8r8g8b8 => 32

/-- `struct painter_bitmap` of the destination. -/
structure Plane where
  format : Format
  width : Int
  height : Int
  deriving DecidableEq, Repr

def PT_ROP_S : Nat := 0xCC
def PT_ROP_DSx : Nat := 0x66
def PT_ROP_D : Nat := 0xAA
def PT_ROP_DSa : Nat := 0x88

/-- `do_rop`. -/
def doRop (rop : Nat) (src dst : Pixel) : Pixel :=
  match rop with
  | 0x00 => 0
  | 0x11 => ~~~(src ||| dst)
  | 0x22 => ~~~src &&& dst
  | 0x33 => ~~~src
  | 0x44 => src &&& ~~~dst
  | 0x55 => ~~~dst
  | 0x66 => src ^^^ dst
  | 0x77 => ~~~(src &&& dst)
  | 0x88 => src &&& dst
  | 0x99 => ~~~src ^^^ dst
  | 0xAA => dst
  | 0xBB => ~~~src ||| dst
  | 0xCC => src
  | 0xDD => src ||| ~~~dst
  | 0xEE => src ||| dst
  | 0xFF => ~~~0
  | _ => dst

/-- What is kept of a pixel by `bitmap_set_pixel`. -/
def Format.stored (f : Format) (pixel : Pixel) : Pixel :=
  match f.bpp with
  | 8 => pixel &&& 0xFF
  | 16 => pixel &&& 0xFFFF
  | _ => pixel

/-- `bitmap_get_ptr` is not null. -/
def Plane.Inside (dst : Plane) (x y : Int) : Prop := 0 ≤ x ∧ x < dst.width ∧ 0 ≤ y ∧ y < dst.height

instance (dst : Plane) (x y : Int) : Decidable (dst.Inside x y) := by
  unfold Plane.Inside
  infer_instance

/-- `painter_set_pixel`, but for the clip; all pixels come in the format of the screen. -/
def setPixel (dst : Plane) (rop : Nat) (x y : Int) (pixel : Pixel) : List (Dot Pixel) :=
  if dst.Inside x y then
    [⟨(x, y), fun old => dst.format.stored (if rop ≠ PT_ROP_S then doRop rop pixel old else pixel)⟩]
  else []

/-- The points of a loop over `cy` lines of `cx` points. -/
def area (cx cy : Int) : List (Int × Int) :=
  (List.range cy.toNat).flatMap fun jndex : Nat =>
    (List.range cx.toNat).map fun index : Nat => ((index : Int), (jndex : Int))

/-- What `painter_warp_coords` changes. -/
structure Warped where
  dx : Int
  dy : Int
  cx : Int
  cy : Int

/-- `painter_warp_coords`, with a clip. -/
def painterWarpCoords (clip : Rect) (x y cx cy : Int) : Option Warped :=
  let dx := if clip.left > x then clip.left - x else 0
  let dy := if clip.top > y then clip.top - y else 0
  let lcx := (if x + cx > clip.right then cx - (x + cx - clip.right) else cx) - dx
  let lcy := (if y + cy > clip.bottom then cy - (y + cy - clip.bottom) else cy) - dy
  if lcx ≤ 0 then none else if lcy ≤ 0 then none else some ⟨dx, dy, lcx, lcy⟩

/-! ## Operations -/

/-- The loop of `painter_fill_rect` over all points. -/
def fillDots (dst : Plane) (rop : Nat) (fgcolor : Pixel) (x y cx cy : Int) : List (Dot Pixel) :=
  (area cx cy).flatMap fun (index, jndex) => setPixel dst rop (x + index) (y + jndex) fgcolor

/-- The loop over lines: only the first point of each is looked at. -/
def fillLines (dst : Plane) (fgcolor : Pixel) (x y cx cy : Int) : List (Dot Pixel) :=
  (List.range cy.toNat).flatMap fun jndex : Nat =>
    if dst.Inside x (y + jndex) then
      (List.range cx.toNat).map fun index : Nat =>
        ⟨(x + index, y + jndex), fun _ => dst.format.stored fgcolor⟩
    else []

/-- `painter_fill_rect`. -/
def painterFillRect (dst : Plane) (rop : Nat) (fgcolor : Pixel) (clip : Rect) (x y cx cy : Int)
    (pic : Picture Pixel) : Picture Pixel :=
  if rop = PT_ROP_S then
    match painterWarpCoords clip x y cx cy with
    | some w =>
      if dst.format.bpp = 32 ∨ dst.format.bpp = 16 then
        drawFree (fillLines dst fgcolor (x + w.dx) (y + w.dy) w.cx w.cy) pic
      else draw clip (fillDots dst rop fgcolor (x + w.dx) (y + w.dy) w.cx w.cy) pic
    | none => draw clip (fillDots dst rop fgcolor x y cx cy) pic
  else draw clip (fillDots dst rop fgcolor x y cx cy) pic

/-- A bitmap of one bit a pixel. -/
structure Pattern where
  width : Int
  height : Int
  strideBytes : Nat
  data : List UInt8
  deriving DecidableEq, Repr

/-- `bitmap_get_pixel` of a pattern. -/
def Pattern.bit (pat : Pattern) (x y : Int) : Bool :=
  if 0 ≤ x ∧ x < pat.width ∧ 0 ≤ y ∧ y < pat.height then
    ((pat.data.getD (y.toNat * pat.strideBytes + x.toNat / 8) 0).toNat &&& (0x80 >>> (x.toNat % 8))) != 0
  else false

/-- `painter_fill_pattern`; `bgcolor` is `none` in the normal mode. -/
def patternDots (dst : Plane) (rop : Nat) (fgcolor : Pixel) (bgcolor : Option Pixel)
    (origin : Int × Int) (pat : Pattern) (patx paty x y cx cy : Int) : List (Dot Pixel) :=
  (area cx cy).flatMap fun (index, jndex) =>
    let lx := (patx + index + origin.1).tmod pat.width
    let ly := (paty + jndex + origin.2).tmod pat.height
    if pat.bit lx ly then setPixel dst rop (x + index) (y + jndex) fgcolor
    else match bgcolor with
      | some bgcolor => setPixel dst rop (x + index) (y + jndex) bgcolor
      | none => []

/-- The source of a copy: the screen itself, or a bitmap. -/
structure Source where
  width : Int
  height : Int
  data : Option (Picture Pixel)

/-- A pixel of the source, while `pic` is on the screen. -/
def Source.pixel (src : Source) (pic : Picture Pixel) (x y : Int) : Pixel := (src.data.getD pic) (x, y)

def Source.Inside (src : Source) (x y : Int) : Prop := 0 ≤ x ∧ x < src.width ∧ 0 ≤ y ∧ y < src.height

instance (src : Source) (x y : Int) : Decidable (src.Inside x y) := by
  unfold Source.Inside
  infer_instance

/-- `memmove` of a line. -/
def copyLine (dst : Plane) (x y cx : Int) (src : Source) (srcx srcy : Int) (pic : Picture Pixel)
    (jndex : Nat) : Picture Pixel :=
  if src.Inside srcx (srcy + jndex) ∧ dst.Inside x (y + jndex) then fun p =>
    if x ≤ p.1 ∧ p.1 < x + cx ∧ p.2 = y + jndex then src.pixel pic (p.1 - x + srcx) (srcy + jndex)
    else pic p
  else pic

/-- One pixel of a copy. -/
def copyPixel (dst : Plane) (rop : Nat) (clip : Rect) (x y : Int) (src : Source) (srcx srcy : Int)
    (pic : Picture Pixel) (at_ : Int × Int) : Picture Pixel :=
  let pixel := if src.Inside (srcx + at_.1) (srcy + at_.2) then
    src.pixel pic (srcx + at_.1) (srcy + at_.2) else 0
  draw clip (setPixel dst rop (x + at_.1) (y + at_.2) pixel) pic

/-- "straight right or down". -/
def backwards (x y srcx srcy : Int) : Prop := srcy < y ∨ srcy = y ∧ srcx < x

instance (x y srcx srcy : Int) : Decidable (backwards x y srcx srcy) := by
  unfold backwards
  infer_instance

/-- `painter_copy`, of a source in the format of the screen. -/
def painterCopy (dst : Plane) (rop : Nat) (clip : Rect) (x y cx cy : Int) (src : Source)
    (srcx srcy : Int) (pic : Picture Pixel) : Picture Pixel :=
  if rop = PT_ROP_S then
    match painterWarpCoords clip x y cx cy with
    | some w =>
      let x := x + w.dx
      let y := y + w.dy
      let srcx := srcx + w.dx
      let srcy := srcy + w.dy
      let lines := List.range w.cy.toNat
      (if backwards x y srcx srcy then lines.reverse else lines).foldl
        (copyLine dst x y w.cx src srcx srcy) pic
    | none => pic
  else
    (if backwards x y srcx srcy then (area cx cy).reverse else area cx cy).foldl
      (copyPixel dst rop clip x y src srcx srcy) pic

/-- A loop of `painter_line`: the last point of the line is left out. -/
def lineLoop (x2 y2 incx incy dpr dpru : Int) (steep : Bool) : Nat → Int → Int → Int → List Point
  | 0, _, _, _ => []
  | n + 1, x1, y1, p =>
    (if x1 ≠ x2 ∨ y1 ≠ y2 then [(x1, y1)] else []) ++
      if p > 0 then lineLoop x2 y2 incx incy dpr dpru steep n (x1 + incx) (y1 + incy) (p + dpru)
      else if steep then lineLoop x2 y2 incx incy dpr dpru steep n x1 (y1 + incy) (p + dpr)
      else lineLoop x2 y2 incx incy dpr dpru steep n (x1 + incx) y1 (p + dpr)

/-- The points of `painter_line`: "Bresenham's line drawing algorithm". -/
def linePoints (x1 y1 x2 y2 : Int) : List Point :=
  let dx := if x1 > x2 then x1 - x2 else x2 - x1
  let incx := if x1 > x2 then -1 else 1
  let dy := if y1 > y2 then y1 - y2 else y2 - y1
  let incy := if y1 > y2 then -1 else 1
  if dx ≥ dy then
    lineLoop x2 y2 incx incy (2 * dy) (2 * dy - 2 * dx) false (dx + 1).toNat x1 y1 (2 * dy - dx)
  else lineLoop x2 y2 incx incy (2 * dx) (2 * dx - 2 * dy) true (dy + 1).toNat x1 y1 (2 * dx - dy)

/-- `painter_line`; the width of the pen is not used. -/
def lineDots (dst : Plane) (rop : Nat) (fgcolor : Pixel) (x1 y1 x2 y2 : Int) : List (Dot Pixel) :=
  (linePoints x1 y1 x2 y2).flatMap fun p => setPixel dst rop p.1 p.2 fgcolor

/-! ## What is touched -/

/-- `MAKERECT`. -/
def makeRect (x y cx cy : Int) : Rect := ⟨x, y, x + cx, y + cy⟩

/-- A change of the screen that leaves all but these points as they are. -/
def Touches (P : Point → Prop) (pic pic' : Picture Pixel) : Prop := ∀ p, pic' p ≠ pic p → P p

theorem Touches.refl {P : Point → Prop} {pic : Picture Pixel} : Touches P pic pic :=
  fun _ h => absurd rfl h

theorem Touches.trans {P : Point → Prop} {pic₁ pic₂ pic₃ : Picture Pixel} (h₁ : Touches P pic₁ pic₂)
    (h₂ : Touches P pic₂ pic₃) : Touches P pic₁ pic₃ := by
  intro p hp
  by_cases heq : pic₂ p = pic₁ p
  · exact h₂ p fun h => hp (h.trans heq)
  · exact h₁ p heq

theorem Touches.mono {P Q : Point → Prop} {pic pic' : Picture Pixel} (h : Touches P pic pic')
    (hPQ : ∀ p, P p → Q p) : Touches Q pic pic' := fun p hp => hPQ p (h p hp)

theorem Touches.foldl {α : Type} {P : Point → Prop} {f : Picture Pixel → α → Picture Pixel}
    {as : List α} (h : ∀ pic, ∀ a ∈ as, Touches P pic (f pic a)) (pic : Picture Pixel) :
    Touches P pic (as.foldl f pic) := by
  induction as generalizing pic with
  | nil => exact .refl
  | cons a as ih =>
    obtain ⟨ha, has⟩ := List.forall_mem_cons.1 (fun a ha pic => h pic a ha)
    exact (ha pic).trans (ih (fun pic a ha => has a ha pic) (f pic a))

theorem draw_touches {clip : Rect} {dots : List (Dot Pixel)} {P : Point → Prop}
    (h : ∀ d ∈ dots, P d.point) (pic : Picture Pixel) :
    Touches (fun p => clip.Has p ∧ P p) pic (draw clip dots pic) := by
  intro p hp
  obtain ⟨hclip, d, hd, rfl⟩ := of_draw_ne hp
  exact ⟨hclip, h d hd⟩

theorem setPixel_point {dst : Plane} {rop : Nat} {x y : Int} {pixel : Pixel} {d : Dot Pixel}
    (h : d ∈ setPixel dst rop x y pixel) : d.point = (x, y) := by
  unfold setPixel at h
  split at h
  · rw [List.mem_singleton.1 h]
  · cases h

theorem mem_area {cx cy : Int} {q : Int × Int} (h : q ∈ area cx cy) :
    0 ≤ q.1 ∧ q.1 < cx ∧ 0 ≤ q.2 ∧ q.2 < cy := by
  unfold area at h
  obtain ⟨jndex, hj, h⟩ := List.mem_flatMap.1 h
  obtain ⟨index, hi, rfl⟩ := List.mem_map.1 h
  rw [List.mem_range] at hi hj
  dsimp only
  omega

theorem makeRect_has {x y cx cy : Int} {q : Int × Int} (h : q ∈ area cx cy) :
    (makeRect x y cx cy).Has (x + q.1, y + q.2) := by
  have hq := mem_area h
  simp only [makeRect, Rect.Has]
  omega

theorem fillDots_point {dst : Plane} {rop : Nat} {fgcolor : Pixel} {x y cx cy : Int} :
    ∀ d ∈ fillDots dst rop fgcolor x y cx cy, (makeRect x y cx cy).Has d.point := by
  intro d hd
  obtain ⟨q, hq, hd⟩ := List.mem_flatMap.1 hd
  rw [setPixel_point hd]
  exact makeRect_has hq

theorem patternDots_point {dst : Plane} {rop : Nat} {fgcolor : Pixel} {bgcolor : Option Pixel}
    {origin : Int × Int} {pat : Pattern} {patx paty x y cx cy : Int} :
    ∀ d ∈ patternDots dst rop fgcolor bgcolor origin pat patx paty x y cx cy,
      (makeRect x y cx cy).Has d.point := by
  intro d hd
  obtain ⟨q, hq, hd⟩ := List.mem_flatMap.1 hd
  dsimp only at hd
  split at hd
  · rw [setPixel_point hd]
    exact makeRect_has hq
  · split at hd
    · rw [setPixel_point hd]
      exact makeRect_has hq
    · cases hd

/-- What is left of a rectangle is inside the clip and the rectangle. -/
theorem warp_inside {clip : Rect} {x y cx cy : Int} {w : Warped}
    (h : painterWarpCoords clip x y cx cy = some w) {p : Point}
    (hp : (makeRect (x + w.dx) (y + w.dy) w.cx w.cy).Has p) :
    clip.Has p ∧ (makeRect x y cx cy).Has p := by
  unfold painterWarpCoords at h
  dsimp only at h
  have hleft : clip.left ≤ x + (if clip.left > x then clip.left - x else 0) ∧
      0 ≤ (if clip.left > x then clip.left - x else 0) := by
    split <;> omega
  have htop : clip.top ≤ y + (if clip.top > y then clip.top - y else 0) ∧
      0 ≤ (if clip.top > y then clip.top - y else 0) := by
    split <;> omega
  have hright : (if x + cx > clip.right then cx - (x + cx - clip.right) else cx) ≤ cx ∧
      x + (if x + cx > clip.right then cx - (x + cx - clip.right) else cx) ≤ clip.right := by
    split <;> omega
  have hbottom : (if y + cy > clip.bottom then cy - (y + cy - clip.bottom) else cy) ≤ cy ∧
      y + (if y + cy > clip.bottom then cy - (y + cy - clip.bottom) else cy) ≤ clip.bottom := by
    split <;> omega
  generalize (if clip.left > x then clip.left - x else 0) = dx at h hleft
  generalize (if clip.top > y then clip.top - y else 0) = dy at h htop
  generalize (if x + cx > clip.right then cx - (x + cx - clip.right) else cx) = lcx at h hright
  generalize (if y + cy > clip.bottom then cy - (y + cy - clip.bottom) else cy) = lcy at h hbottom
  split at h
  · cases h
  split at h
  · cases h
  cases h
  simp only [makeRect, Rect.Has] at hp ⊢
  omega

theorem fillLines_point {dst : Plane} {fgcolor : Pixel} {x y cx cy : Int} :
    ∀ d ∈ fillLines dst fgcolor x y cx cy, (makeRect x y cx cy).Has d.point := by
  intro d hd
  obtain ⟨jndex, hj, hd⟩ := List.mem_flatMap.1 hd
  split at hd
  · obtain ⟨index, hi, rfl⟩ := List.mem_map.1 hd
    rw [List.mem_range] at hi hj
    simp only [makeRect, Rect.Has]
    omega
  · cases hd

/-- A fill touches the clip and its rectangle. -/
theorem fillRect_touches (dst : Plane) (rop : Nat) (fgcolor : Pixel) (clip : Rect) (x y cx cy : Int)
    (pic : Picture Pixel) :
    Touches (fun p => clip.Has p ∧ (makeRect x y cx cy).Has p) pic
      (painterFillRect dst rop fgcolor clip x y cx cy pic) := by
  unfold painterFillRect
  split
  · split
    · rename_i w hw
      split
      · intro p hp
        obtain ⟨d, hd, rfl⟩ := of_drawFree_ne hp
        exact warp_inside hw (fillLines_point d hd)
      · exact (draw_touches fillDots_point pic).mono fun p hp => warp_inside hw hp.2
    · exact draw_touches fillDots_point pic
  · exact draw_touches fillDots_point pic

/-- A copy touches the clip and its rectangle. -/
theorem copy_touches (dst : Plane) (rop : Nat) (clip : Rect) (x y cx cy : Int) (src : Source)
    (srcx srcy : Int) (pic : Picture Pixel) :
    Touches (fun p => clip.Has p ∧ (makeRect x y cx cy).Has p) pic
      (painterCopy dst rop clip x y cx cy src srcx srcy pic) := by
  unfold painterCopy
  split
  · split
    · rename_i w hw
      dsimp only
      refine Touches.foldl (fun pic jndex hj => ?_) pic
      have hj' : jndex < w.cy.toNat := by
        split at hj
        · exact List.mem_range.1 (List.mem_reverse.1 hj)
        · exact List.mem_range.1 hj
      intro p hp
      unfold copyLine at hp
      split at hp
      · dsimp only at hp
        split at hp
        · refine warp_inside hw ?_
          simp only [makeRect, Rect.Has]
          omega
        · exact absurd rfl hp
      · exact absurd rfl hp
    · exact .refl
  · refine Touches.foldl (fun pic q hq => ?_) pic
    have hq' : q ∈ area cx cy := by
      split at hq
      · exact List.mem_reverse.1 hq
      · exact hq
    refine draw_touches (fun d hd => ?_) pic
    rw [setPixel_point hd]
    exact makeRect_has hq'

/-- A line touches its points. -/
theorem lineDots_point {dst : Plane} {rop : Nat} {fgcolor : Pixel} {x1 y1 x2 y2 : Int} :
    ∀ d ∈ lineDots dst rop fgcolor x1 y1 x2 y2, d.point ∈ linePoints x1 y1 x2 y2 := by
  intro d hd
  obtain ⟨p, hp, hd⟩ := List.mem_flatMap.1 hd
  rw [setPixel_point hd]
  exact hp

/-- What is `i` steps along the longer side and `k` along the other. -/
def alongLine (steep : Bool) (x1 y1 incx incy i k : Int) : Point :=
  if steep then (x1 + incx * k, y1 + incy * i) else (x1 + incx * i, y1 + incy * k)

theorem alongLine_zero {steep : Bool} {x1 y1 incx incy : Int} :
    (x1, y1) = alongLine steep x1 y1 incx incy 0 0 := by
  simp [alongLine]

/-- The loop goes at most `major` steps along the longer side, and with them at most `minor` along the
other: after `i` and `k` steps `p` is `2 * minor - major + 2 * i * minor - 2 * k * major`. -/
theorem lineLoop_within {x1 y1 x2 y2 incx incy major minor : Int} {steep : Bool} (hminor : 0 ≤ minor)
    (hle : minor ≤ major) {n : Nat} {x y p i k : Int} (hat : (x, y) = alongLine steep x1 y1 incx incy i k)
    (hp : p = 2 * minor - major + 2 * i * minor - 2 * k * major) (hi0 : 0 ≤ i) (hi : i + n ≤ major + 1)
    (hk0 : 0 ≤ k) (hk : 0 < n → k ≤ minor) :
    ∀ q ∈ lineLoop x2 y2 incx incy (2 * minor) (2 * minor - 2 * major) steep n x y p,
      ∃ i k, (0 ≤ i ∧ i ≤ major) ∧ (0 ≤ k ∧ k ≤ minor) ∧ q = alongLine steep x1 y1 incx incy i k := by
  induction n generalizing x y p i k with
  | zero => simp [lineLoop]
  | succ n ih =>
    intro q hq
    simp only [lineLoop, List.mem_append] at hq
    obtain hq | hq := hq
    · have hhere : q = (x, y) := by
        split at hq <;> simp_all
      exact ⟨i, k, ⟨hi0, by omega⟩, ⟨hk0, hk (by omega)⟩, hhere.trans hat⟩
    split at hq
    · rename_i hpos
      refine ih (i := i + 1) (k := k + 1) ?_ ?_ (by omega) (by omega) (by omega) (fun hn => ?_) q hq
      · cases steep <;> simp_all [alongLine, mul_add, add_assoc]
      · rw [hp]
        ring
      · -- one more step to the side is below the line that ends at `minor`
        have hside : 2 * (k + 1) * major < 2 * (i + 1) * minor + major := by linarith
        have hend : (i + 1) * minor ≤ major * minor := mul_le_mul_of_nonneg_right (by omega) hminor
        by_contra hbeyond
        have hfar : (minor + 1) * major ≤ (k + 1) * major :=
          mul_le_mul_of_nonneg_right (by omega) (by omega)
        linarith
    · have hn : i + 1 + n ≤ major + 1 := by omega
      have hp' : p + 2 * minor = 2 * minor - major + 2 * (i + 1) * minor - 2 * k * major := by
        rw [hp]
        ring
      have hk' : 0 < n → k ≤ minor := fun _ => hk (by omega)
      cases steep with
      | false =>
        refine ih ?_ hp' (by omega) hn hk0 hk' q (by simpa using hq)
        simp_all [alongLine, mul_add, add_assoc]
      | true =>
        refine ih ?_ hp' (by omega) hn hk0 hk' q (by simpa using hq)
        simp_all [alongLine, mul_add, add_assoc]

/-- So many steps from one end to the other stay between them. -/
theorem steps_between {a b i : Int} (h0 : 0 ≤ i) (h : i ≤ if a > b then a - b else b - a) :
    min a b ≤ a + (if a > b then -1 else 1) * i ∧
      a + (if a > b then -1 else 1) * i < min a b + ((a - b).natAbs + 1) := by
  split
  · rw [if_pos ‹_›] at h
    omega
  · rw [if_neg ‹_›] at h
    omega

/-- A line stays between its ends. -/
theorem linePoints_within {x1 y1 x2 y2 : Int} {q : Point} (hq : q ∈ linePoints x1 y1 x2 y2) :
    (makeRect (min x1 x2) (min y1 y2) ((x1 - x2).natAbs + 1) ((y1 - y2).natAbs + 1)).Has q := by
  have hdx : 0 ≤ if x1 > x2 then x1 - x2 else x2 - x1 := by
    split <;> omega
  have hdy : 0 ≤ if y1 > y2 then y1 - y2 else y2 - y1 := by
    split <;> omega
  simp only [linePoints] at hq
  by_cases hflat : (if x1 > x2 then x1 - x2 else x2 - x1) ≥ if y1 > y2 then y1 - y2 else y2 - y1
  · rw [if_pos hflat] at hq
    obtain ⟨i, k, hi, hk, rfl⟩ := lineLoop_within hdy hflat alongLine_zero (by ring) (by omega) (by omega)
      (by omega) (fun _ => hdy) q hq
    have hx := steps_between hi.1 hi.2
    have hy := steps_between hk.1 hk.2
    exact ⟨hx.1, hx.2, hy.1, hy.2⟩
  · rw [if_neg hflat] at hq
    obtain ⟨i, k, hi, hk, rfl⟩ := lineLoop_within hdx (by omega) alongLine_zero (by ring) (by omega)
      (by omega) (by omega) (fun _ => hdx) q hq
    have hx := steps_between hk.1 hk.2
    have hy := steps_between hi.1 hi.2
    exact ⟨hx.1, hx.2, hy.1, hy.2⟩

end Xrdp.Painter
