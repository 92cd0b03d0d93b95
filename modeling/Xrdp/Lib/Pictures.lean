import Mathlib.Tactic.Common
import Mathlib.Data.List.Pairwise

/-!
# Pictures that are painted dot by dot

A picture has a value at every point of the plane.  A dot changes the value at its point; a clip says
which dots are painted.

* `Rect`, `Rect.Has` — rectangles, and the points in them.
* `draw` — dots are painted one after another, inside a clip.
* `draw_apply` — a clip only says where dots are painted, not how.
* `drawAll_apply` — clips that do not meet are painted like all of them at once.
-/

namespace Pictures

abbrev Point := Int × Int

abbrev Picture (α : Type) := Point → α

/-- A rectangle, without its right and its lower edge. -/
structure Rect where
  left : Int
  top : Int
  right : Int
  bottom : Int
  deriving DecidableEq, Repr

def Rect.Has (r : Rect) (p : Point) : Prop :=
  r.left ≤ p.1 ∧ p.1 < r.right ∧ r.top ≤ p.2 ∧ p.2 < r.bottom

instance (r : Rect) (p : Point) : Decidable (r.Has p) := by
  unfold Rect.Has
  infer_instance

/-- Points in one of some rectangles. -/
def Has (rs : List Rect) (p : Point) : Prop := ∃ r ∈ rs, r.Has p

instance (rs : List Rect) (p : Point) : Decidable (Has rs p) := by
  unfold Has
  infer_instance

/-- Rectangles without a common point. -/
def Rect.Disjoint (a b : Rect) : Prop := ∀ p, ¬ (a.Has p ∧ b.Has p)

@[simp] theorem has_nil (p : Point) : ¬ Has [] p := fun ⟨_, h, _⟩ => nomatch h

@[simp] theorem has_cons {r : Rect} {rs : List Rect} {p : Point} :
    Has (r :: rs) p ↔ r.Has p ∨ Has rs p := by
  simp [Has]

@[simp] theorem has_append {rs rs' : List Rect} {p : Point} :
    Has (rs ++ rs') p ↔ Has rs p ∨ Has rs' p := by
  simp [Has, or_and_right, exists_or]

/-! ## Dots -/

variable {α : Type}

/-- A dot: where it is, and what comes of the value there. -/
structure Dot (α : Type) where
  point : Point
  value : α → α

/-- A dot is painted, if the clip has its point. -/
def Dot.draw (clip : Rect) (pic : Picture α) (d : Dot α) : Picture α := fun p =>
  if p = d.point ∧ clip.Has p then d.value (pic p) else pic p

/-- Dots are painted inside a clip. -/
def draw (clip : Rect) (dots : List (Dot α)) (pic : Picture α) : Picture α := dots.foldl (Dot.draw clip) pic

/-- What comes of the value at a point. -/
def valueAt (dots : List (Dot α)) (p : Point) (a : α) : α :=
  dots.foldl (fun a d => if p = d.point then d.value a else a) a

/-- Dots are painted without a clip. -/
def drawFree (dots : List (Dot α)) (pic : Picture α) : Picture α := fun p => valueAt dots p (pic p)

variable {clip : Rect} {dots : List (Dot α)} {pic : Picture α} {p : Point}

theorem draw_append {dots' : List (Dot α)} :
    draw clip (dots ++ dots') pic = draw clip dots' (draw clip dots pic) := List.foldl_append

/-- The clip says where dots are painted. -/
theorem draw_apply : draw clip dots pic p = if clip.Has p then valueAt dots p (pic p) else pic p := by
  induction dots generalizing pic with
  | nil => simp [valueAt, draw]
  | cons d dots ih =>
    have hdraw : draw clip (d :: dots) pic = draw clip dots (d.draw clip pic) := rfl
    have hvalue : ∀ a, valueAt (d :: dots) p a = valueAt dots p (if p = d.point then d.value a else a) :=
      fun _ => rfl
    rw [hdraw, ih, hvalue]
    by_cases hclip : clip.Has p
    · simp [Dot.draw, hclip]
    · simp [Dot.draw, hclip]

theorem valueAt_of_ne {a : α} (h : ∀ d ∈ dots, d.point ≠ p) : valueAt dots p a = a := by
  induction dots generalizing a with
  | nil => rfl
  | cons d dots ih =>
    obtain ⟨hd, hdots⟩ := List.forall_mem_cons.1 h
    rw [valueAt, List.foldl_cons, if_neg fun heq => hd (Eq.symm heq)]
    exact ih hdots

/-- A value that is another has a dot. -/
theorem of_valueAt_ne {a : α} (h : valueAt dots p a ≠ a) : ∃ d ∈ dots, d.point = p := by
  by_contra hnone
  exact h (valueAt_of_ne fun d hd heq => hnone ⟨d, hd, heq⟩)

/-- A value that is another has a dot, and is in the clip. -/
theorem of_draw_ne (h : draw clip dots pic p ≠ pic p) : clip.Has p ∧ ∃ d ∈ dots, d.point = p := by
  rw [draw_apply] at h
  split at h
  · rename_i hclip
    exact ⟨hclip, of_valueAt_ne h⟩
  · exact absurd rfl h

theorem of_drawFree_ne (h : drawFree dots pic p ≠ pic p) : ∃ d ∈ dots, d.point = p := of_valueAt_ne h

/-! ## Clips -/

/-- The dots are painted inside of one clip after another. -/
def drawAll (clips : List Rect) (dots : List (Dot α)) (pic : Picture α) : Picture α :=
  clips.foldl (fun pic clip => draw clip dots pic) pic

/-- Clips that do not meet are painted like all at once. -/
theorem drawAll_apply {clips : List Rect} (h : clips.Pairwise Rect.Disjoint) :
    drawAll clips dots pic p = if Has clips p then valueAt dots p (pic p) else pic p := by
  induction clips generalizing pic with
  | nil => simp [drawAll]
  | cons clip clips ih =>
    obtain ⟨hfirst, hrest⟩ := List.pairwise_cons.1 h
    have hdraw : drawAll (clip :: clips) dots pic = drawAll clips dots (draw clip dots pic) := rfl
    rw [hdraw, ih hrest, draw_apply]
    by_cases hclip : clip.Has p
    · have hnot : ¬ Has clips p := fun ⟨r, hr, hp⟩ => hfirst r hr p ⟨hclip, hp⟩
      simp [hclip, hnot]
    · simp [hclip]

end Pictures
