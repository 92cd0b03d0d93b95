import Xrdp.Gcc.InsideData

/-!
# The layout of the monitors

* `IsBoundingBox` — the smallest box around rectangles.
* `LaidOut` — what the monitors and the size of the desktop should be.
* `bounds_spec` — the box that is computed is the smallest one.
* `monitors_laid_out_iff` — for which blocks the layout is right.
-/

namespace Xrdp.Gcc

open Wire
open Dvc (signed32)

/-- The smallest box around rectangles, which have their right and bottom edges in them. -/
structure IsBoundingBox (ms : List MonitorInfo) (left top right bottom : Int) : Prop where
  left : IsLeast {x | ∃ m ∈ ms, m.left = x} left
  top : IsLeast {y | ∃ m ∈ ms, m.top = y} top
  right : IsGreatest {x | ∃ m ∈ ms, m.right = x} right
  bottom : IsGreatest {y | ∃ m ∈ ms, m.bottom = y} bottom

/-- The rectangle lies in the desktop. -/
structure InDesktop (width height : Int) (m : MonitorInfo) : Prop where
  left : 0 ≤ m.left ∧ m.left < width
  right : 0 ≤ m.right ∧ m.right < width
  top : 0 ≤ m.top ∧ m.top < height
  bottom : 0 ≤ m.bottom ∧ m.bottom < height

/-- The rectangles have the same size. -/
def SameSize (m m' : MonitorInfo) : Prop :=
  m'.right - m'.left = m.right - m.left ∧ m'.bottom - m'.top = m.bottom - m.top

/-- **The desktop is the smallest box around the monitors**, which are in it and one of which is the
primary one. -/
structure LaidOut (info : ClientInfo) : Prop where
  count : 0 ≤ info.monitorCount ∧ info.monitorCount ≤ 16
  size : 0 < info.monitorCount → ∃ left top right bottom,
    IsBoundingBox info.minfo left top right bottom ∧ info.width = right - left + 1 ∧
      info.height = bottom - top + 1
  inside : ∀ m ∈ info.minfoWm, InDesktop info.width info.height m
  sameSize : List.Forall₂ SameSize info.minfo info.minfoWm
  primary : 0 < info.monitorCount → info.minfoWm.countP (·.isPrimary ≠ 0) = 1

/-- The monitors make up a desktop: it has a width and a height, no corner of a monitor is beyond all
others, and there is one primary monitor, or none and a monitor that is both leftmost and topmost. -/
structure Layable (ms : List MonitorInfo) : Prop where
  wide : ∃ m ∈ ms, ∃ m' ∈ ms, m.left < m'.right
  high : ∃ m ∈ ms, ∃ m' ∈ ms, m.top < m'.bottom
  across : ∀ m ∈ ms, (∃ m' ∈ ms, m.left ≤ m'.right) ∧ ∃ m' ∈ ms, m'.left ≤ m.right
  down : ∀ m ∈ ms, (∃ m' ∈ ms, m.top ≤ m'.bottom) ∧ ∃ m' ∈ ms, m'.top ≤ m.bottom
  primary : ms.countP (·.isPrimary ≠ 0) = 1 ∨
    ms.countP (·.isPrimary ≠ 0) = 0 ∧ ∃ m ∈ ms, ∀ m' ∈ ms, m.left ≤ m'.left ∧ m.top ≤ m'.top

/-- There are no less than no monitors, and they make up a desktop; if more than one is not allowed,
nothing is changed. -/
def MonitorsOk (data : List UInt8) (s : Sec) : Prop :=
  if s.info.multimon = 1 then
    0 ≤ monitorCountAt data s.p ∧ (0 < monitorCountAt data s.p →
      Layable (monitorsAt data (s.p + 8) (monitorCountAt data s.p).toNat))
  else LaidOut s.info

variable {data : List UInt8} {s s' : Sec}

/-! ## Integers -/

/-- An `int` differs from the value by a multiple of `2 ^ 32`. -/
theorem int_spec (v : Int) : -2 ^ 31 ≤ int v ∧ int v < 2 ^ 31 ∧ ∃ k, v = int v + 2 ^ 32 * k := by
  have hlo := @Int.le_bmod v (2 ^ 32) (by decide)
  have hhi := @Int.bmod_lt v (2 ^ 32) (by decide)
  refine ⟨hlo, hhi, v.bdiv (2 ^ 32), ?_⟩
  exact (Int.bmod_add_bdiv v (2 ^ 32)).symm

/-- A size that is not too small has not been wrapped. -/
theorem int_size {v : Int} (hlo : 0 ≤ v) (hhi : v ≤ 2 ^ 32) (h : 0 < int v) : int v = v := by
  obtain ⟨hlo', hhi', k, hk⟩ := int_spec v
  omega

/-- **One side of a monitor that is moved to the origin of the desktop**: it is inside and as long as
before just if neither end is beyond the box. -/
theorem side_iff {l r L R : Int} (hl : L ≤ l) (hr : r ≤ R) (hfar : l - L < 2 ^ 32)
    (hsize : R - L < 0x7FFE) :
    ((0 ≤ int (l - L) ∧ int (l - L) < R - L + 1) ∧ (0 ≤ int (r - L) ∧ int (r - L) < R - L + 1) ∧
      int (r - L) - int (l - L) = r - l) ↔ l ≤ R ∧ L ≤ r := by
  obtain ⟨hlo, hhi, k, hk⟩ := int_spec (l - L)
  obtain ⟨hlo', hhi', k', hk'⟩ := int_spec (r - L)
  constructor
  · rintro ⟨⟨h0, hW⟩, ⟨h0', hW'⟩, hsame⟩
    omega
  · rintro ⟨hlR, hLr⟩
    omega

/-! ## The box -/

theorem isBoundingBox_singleton (m : MonitorInfo) :
    IsBoundingBox [m] m.left m.top m.right m.bottom := by
  refine ⟨⟨⟨m, List.mem_singleton.2 rfl, rfl⟩, ?_⟩, ⟨⟨m, List.mem_singleton.2 rfl, rfl⟩, ?_⟩,
    ⟨⟨m, List.mem_singleton.2 rfl, rfl⟩, ?_⟩, ⟨⟨m, List.mem_singleton.2 rfl, rfl⟩, ?_⟩⟩
  all_goals
    rintro x ⟨m', hm', rfl⟩
    rw [List.mem_singleton.1 hm']

theorem IsBoundingBox.unique {ms : List MonitorInfo} {left top right bottom l t r b : Int}
    (h : IsBoundingBox ms left top right bottom) (h' : IsBoundingBox ms l t r b) :
    left = l ∧ top = t ∧ right = r ∧ bottom = b :=
  ⟨h.left.unique h'.left, h.top.unique h'.top, h.right.unique h'.right, h.bottom.unique h'.bottom⟩

/-- One more rectangle. -/
theorem IsBoundingBox.snoc {ms : List MonitorInfo} {left top right bottom : Int}
    (h : IsBoundingBox ms left top right bottom) (m : MonitorInfo) :
    IsBoundingBox (ms ++ [m]) (min left m.left) (min top m.top) (max right m.right)
      (max bottom m.bottom) := by
  have hset : ∀ f : MonitorInfo → Int, {x | ∃ m' ∈ ms ++ [m], f m' = x} =
      insert (f m) {x | ∃ m' ∈ ms, f m' = x} := by
    intro f
    ext x
    simp only [List.mem_append, List.mem_singleton, Set.mem_ofPred_eq, Set.mem_insert_iff, or_and_right,
      exists_or, exists_eq_left]
    rw [or_comm, eq_comm (a := f m)]
  refine ⟨?_, ?_, ?_, ?_⟩
  · rw [hset (·.left), min_comm]
    exact h.left.insert m.left
  · rw [hset (·.top), min_comm]
    exact h.top.insert m.top
  · rw [hset (·.right), max_comm]
    exact h.right.insert m.right
  · rw [hset (·.bottom), max_comm]
    exact h.bottom.insert m.bottom

/-- The box grows with the monitors that are left. -/
theorem bounds_foldl (rest : List MonitorInfo) {done : List MonitorInfo} {left top right bottom : Int}
    (h : IsBoundingBox done left top right bottom) : ∃ left' top' right' bottom',
      rest.foldl (fun (x1, y1, x2, y2) m =>
        (min x1 m.left, min y1 m.top, max x2 m.right, max y2 m.bottom)) (left, top, right, bottom) =
          (left', top', right', bottom') ∧
        IsBoundingBox (done ++ rest) left' top' right' bottom' := by
  induction rest generalizing done left top right bottom with
  | nil => exact ⟨left, top, right, bottom, rfl, by rwa [List.append_nil]⟩
  | cons m rest ih =>
    have happend : done ++ m :: rest = done ++ [m] ++ rest := by simp
    rw [happend]
    exact ih (h.snoc m)

/-- **The box that is computed** is the smallest one. -/
theorem bounds_spec {ms : List MonitorInfo} (hms : ms ≠ []) : ∃ left top right bottom,
    bounds ms = (left, top, right, bottom) ∧ IsBoundingBox ms left top right bottom := by
  cases ms with
  | nil => exact absurd rfl hms
  | cons m ms => exact bounds_foldl ms (isBoundingBox_singleton m)

/-! ## The primary monitor -/

section

variable {left top : Int} {ms : List MonitorInfo}

/-- The choice has no effect on the sides. -/
theorem choosePrimary_forall {Q : MonitorInfo → Prop} (hQ : ∀ m, Q { m with isPrimary := 1 } ↔ Q m) :
    (∀ m ∈ choosePrimary left top ms, Q m) ↔ ∀ m ∈ ms, Q m := by
  induction ms with
  | nil => exact Iff.rfl
  | cons m ms ih =>
    rw [choosePrimary]
    split
    · rw [List.forall_mem_cons, List.forall_mem_cons, hQ]
    · rw [List.forall_mem_cons, List.forall_mem_cons, ih]

/-- **One monitor is chosen** if there is one in the corner of the box. -/
theorem choosePrimary_count (hnone : ms.countP (·.isPrimary ≠ 0) = 0) :
    (choosePrimary left top ms).countP (·.isPrimary ≠ 0) = 1 ↔
      ∃ m ∈ ms, m.left = left ∧ m.top = top := by
  induction ms with
  | nil => simp [choosePrimary]
  | cons m ms ih =>
    rw [List.countP_cons] at hnone
    have hrest : ms.countP (·.isPrimary ≠ 0) = 0 := by omega
    have hm : ¬(decide (m.isPrimary ≠ 0)) = true := by
      intro hm
      rw [if_pos hm] at hnone
      omega
    rw [choosePrimary]
    split
    case isTrue hcorner =>
      rw [List.countP_cons, hrest]
      simp [hcorner]
    case isFalse hcorner =>
      rw [List.countP_cons, if_neg hm, Nat.add_zero, ih hrest]
      simp [hcorner]

end

/-- The monitors with the one that is primary. -/
def withPrimary (left top : Int) (ms : List MonitorInfo) : List MonitorInfo :=
  if ms.any (·.isPrimary ≠ 0) then ms else choosePrimary left top ms

/-- A monitor from the origin of the desktop on. -/
def shifted (left top : Int) (m : MonitorInfo) : MonitorInfo :=
  { m with
    left := int (m.left - left), top := int (m.top - top)
    right := int (m.right - left), bottom := int (m.bottom - top) }

section

variable {left top right bottom : Int} {ms : List MonitorInfo}

theorem withPrimary_forall {Q : MonitorInfo → Prop} (hQ : ∀ m, Q { m with isPrimary := 1 } ↔ Q m) :
    (∀ m ∈ withPrimary left top ms, Q m) ↔ ∀ m ∈ ms, Q m := by
  rw [withPrimary]
  split
  · exact Iff.rfl
  · exact choosePrimary_forall hQ

/-- The box is that of the monitors with the primary one. -/
theorem IsBoundingBox.withPrimary (h : IsBoundingBox ms left top right bottom) (x y : Int) :
    IsBoundingBox (withPrimary x y ms) left top right bottom := by
  have hset : ∀ f : MonitorInfo → Int, (∀ m, f { m with isPrimary := 1 } = f m) →
      {z | ∃ m ∈ Gcc.withPrimary x y ms, f m = z} = {z | ∃ m ∈ ms, f m = z} := by
    intro f hf
    ext z
    have hall := @withPrimary_forall x y ms (fun m => f m ≠ z) fun m => by rw [hf]
    simpa using not_congr hall
  refine ⟨?_, ?_, ?_, ?_⟩
  · rw [hset (·.left) fun _ => rfl]
    exact h.left
  · rw [hset (·.top) fun _ => rfl]
    exact h.top
  · rw [hset (·.right) fun _ => rfl]
    exact h.right
  · rw [hset (·.bottom) fun _ => rfl]
    exact h.bottom

/-- **There is one primary monitor** if one is flagged, or none and one is in the corner of the box. -/
theorem withPrimary_count (hbox : IsBoundingBox ms left top right bottom) :
    (withPrimary left top ms).countP (·.isPrimary ≠ 0) = 1 ↔
      ms.countP (·.isPrimary ≠ 0) = 1 ∨ ms.countP (·.isPrimary ≠ 0) = 0 ∧
        ∃ m ∈ ms, ∀ m' ∈ ms, m.left ≤ m'.left ∧ m.top ≤ m'.top := by
  have hcorner : (∃ m ∈ ms, ∀ m' ∈ ms, m.left ≤ m'.left ∧ m.top ≤ m'.top) ↔
      ∃ m ∈ ms, m.left = left ∧ m.top = top := by
    constructor
    · rintro ⟨m, hm, hleast⟩
      obtain ⟨m₁, hm₁, hleft⟩ := hbox.left.1
      obtain ⟨m₂, hm₂, htop⟩ := hbox.top.1
      refine ⟨m, hm, ?_, ?_⟩
      · exact le_antisymm (hleft ▸ (hleast m₁ hm₁).1) (hbox.left.2 ⟨m, hm, rfl⟩)
      · exact le_antisymm (htop ▸ (hleast m₂ hm₂).2) (hbox.top.2 ⟨m, hm, rfl⟩)
    · rintro ⟨m, hm, rfl, rfl⟩
      exact ⟨m, hm, fun m' hm' => ⟨hbox.left.2 ⟨m', hm', rfl⟩, hbox.top.2 ⟨m', hm', rfl⟩⟩⟩
  rw [hcorner, withPrimary]
  by_cases hany : ms.any (·.isPrimary ≠ 0) = true
  · have hpos : 0 < ms.countP (·.isPrimary ≠ 0) := by
      rw [List.countP_pos_iff]
      exact List.any_eq_true.1 hany
    rw [if_pos hany]
    omega
  · have hzero : ms.countP (·.isPrimary ≠ 0) = 0 := by
      rw [List.countP_eq_zero]
      intro m hm hprimary
      exact hany (List.any_eq_true.2 ⟨m, hm, hprimary⟩)
    rw [if_neg hany, choosePrimary_count hzero, hzero]
    simp

end

/-! ## The desktop -/

/-- What has been read are `int`s. -/
def IsInt (v : Int) : Prop := -2 ^ 31 ≤ v ∧ v < 2 ^ 31

/-- The sides of a monitor are `int`s. -/
structure IsRead (m : MonitorInfo) : Prop where
  left : IsInt m.left
  top : IsInt m.top
  right : IsInt m.right
  bottom : IsInt m.bottom

theorem takeMonitors_eq (read : List MonitorInfo) (s : Sec) {left top right bottom : Int}
    (hbounds : bounds read = (left, top, right, bottom)) : takeMonitors read s =
      if badDesktop s.info read then
        .ok (1, { s with info := { s.info with
          minfo := withPrimary left top read
          width := (desktopSize s.info read).1, height := (desktopSize s.info read).2 } })
      else .ok (0, { s with info := { s.info with
        minfo := withPrimary left top read
        width := (desktopSize s.info read).1, height := (desktopSize s.info read).2
        minfoWm := (withPrimary left top read).map (shifted left top) } }) := by
  rw [takeMonitors, hbounds]
  rfl

section

variable {ms : List MonitorInfo} {left top right bottom : Int}

/-- A box that has a width and a height. -/
theorem box_open_iff (hbox : IsBoundingBox ms left top right bottom) : left < right ∧ top < bottom ↔
    (∃ m ∈ ms, ∃ m' ∈ ms, m.left < m'.right) ∧ ∃ m ∈ ms, ∃ m' ∈ ms, m.top < m'.bottom := by
  constructor
  · rintro ⟨hwide, hhigh⟩
    obtain ⟨m₁, hm₁, rfl⟩ := hbox.left.1
    obtain ⟨m₂, hm₂, rfl⟩ := hbox.top.1
    obtain ⟨m₃, hm₃, rfl⟩ := hbox.right.1
    obtain ⟨m₄, hm₄, rfl⟩ := hbox.bottom.1
    exact ⟨⟨m₁, hm₁, m₃, hm₃, hwide⟩, ⟨m₂, hm₂, m₄, hm₄, hhigh⟩⟩
  · rintro ⟨⟨m₁, hm₁, m₃, hm₃, hwide⟩, ⟨m₂, hm₂, m₄, hm₄, hhigh⟩⟩
    constructor
    · exact lt_of_le_of_lt (hbox.left.2 ⟨m₁, hm₁, rfl⟩)
        (lt_of_lt_of_le hwide (hbox.right.2 ⟨m₃, hm₃, rfl⟩))
    · exact lt_of_le_of_lt (hbox.top.2 ⟨m₂, hm₂, rfl⟩)
        (lt_of_lt_of_le hhigh (hbox.bottom.2 ⟨m₄, hm₄, rfl⟩))

/-- **A monitor that is moved to the origin** is in the desktop, as large as before, just if no corner
of it is beyond all others. -/
theorem shifted_iff (hbox : IsBoundingBox ms left top right bottom) {m : MonitorInfo} (hm : m ∈ ms)
    (hread : ∀ m ∈ ms, IsRead m) (hwide : right - left < 0x7FFE) (hhigh : bottom - top < 0x7FFE) :
    InDesktop (right - left + 1) (bottom - top + 1) (shifted left top m) ∧
        SameSize m (shifted left top m) ↔
      ((∃ m' ∈ ms, m.left ≤ m'.right) ∧ ∃ m' ∈ ms, m'.left ≤ m.right) ∧
        (∃ m' ∈ ms, m.top ≤ m'.bottom) ∧ ∃ m' ∈ ms, m'.top ≤ m.bottom := by
  obtain ⟨m₁, hm₁, hleft⟩ := hbox.left.1
  obtain ⟨m₂, hm₂, htop⟩ := hbox.top.1
  obtain ⟨m₃, hm₃, hright⟩ := hbox.right.1
  obtain ⟨m₄, hm₄, hbottom⟩ := hbox.bottom.1
  have hfarx : m.left - left < 2 ^ 32 := by
    have h₁ := (hread m₁ hm₁).left.1
    have h₂ := (hread m hm).left.2
    omega
  have hfary : m.top - top < 2 ^ 32 := by
    have h₁ := (hread m₂ hm₂).top.1
    have h₂ := (hread m hm).top.2
    omega
  have hx := side_iff (hbox.left.2 ⟨m, hm, rfl⟩) (hbox.right.2 ⟨m, hm, rfl⟩) hfarx hwide
  have hy := side_iff (hbox.top.2 ⟨m, hm, rfl⟩) (hbox.bottom.2 ⟨m, hm, rfl⟩) hfary hhigh
  have hacross : (∃ m' ∈ ms, m.left ≤ m'.right) ∧ (∃ m' ∈ ms, m'.left ≤ m.right) ↔
      m.left ≤ right ∧ left ≤ m.right := by
    constructor
    · rintro ⟨⟨m', hm', hle⟩, ⟨m'', hm'', hle'⟩⟩
      exact ⟨hle.trans (hbox.right.2 ⟨m', hm', rfl⟩), (hbox.left.2 ⟨m'', hm'', rfl⟩).trans hle'⟩
    · rintro ⟨hle, hle'⟩
      exact ⟨⟨m₃, hm₃, hright ▸ hle⟩, ⟨m₁, hm₁, hleft ▸ hle'⟩⟩
  have hdown : (∃ m' ∈ ms, m.top ≤ m'.bottom) ∧ (∃ m' ∈ ms, m'.top ≤ m.bottom) ↔
      m.top ≤ bottom ∧ top ≤ m.bottom := by
    constructor
    · rintro ⟨⟨m', hm', hle⟩, ⟨m'', hm'', hle'⟩⟩
      exact ⟨hle.trans (hbox.bottom.2 ⟨m', hm', rfl⟩), (hbox.top.2 ⟨m'', hm'', rfl⟩).trans hle'⟩
    · rintro ⟨hle, hle'⟩
      exact ⟨⟨m₄, hm₄, hbottom ▸ hle⟩, ⟨m₂, hm₂, htop ▸ hle'⟩⟩
  rw [hacross, hdown, ← hx, ← hy]
  constructor
  · rintro ⟨⟨hl, hr, ht, hb⟩, hwidth, hheight⟩
    exact ⟨⟨hl, hr, hwidth⟩, ⟨ht, hb, hheight⟩⟩
  · rintro ⟨⟨hl, hr, hwidth⟩, ⟨ht, hb, hheight⟩⟩
    exact ⟨⟨hl, hr, ht, hb⟩, hwidth, hheight⟩

theorem fits_primary (width height left top : Int) (m : MonitorInfo) :
    InDesktop width height (shifted left top { m with isPrimary := 1 }) ∧
        SameSize { m with isPrimary := 1 } (shifted left top { m with isPrimary := 1 }) ↔
      InDesktop width height (shifted left top m) ∧ SameSize m (shifted left top m) := by
  constructor
  · rintro ⟨⟨hl, hr, ht, hb⟩, hsame⟩
    exact ⟨⟨hl, hr, ht, hb⟩, hsame⟩
  · rintro ⟨⟨hl, hr, ht, hb⟩, hsame⟩
    exact ⟨⟨hl, hr, ht, hb⟩, hsame⟩

/-- **The size of the desktop** is that of the box just if this has a width and a height; otherwise it
stays as it was, which is more. -/
theorem desktopSize_iff (info : ClientInfo) (hbounds : bounds ms = (left, top, right, bottom))
    (hbox : IsBoundingBox ms left top right bottom) (hread : ∀ m ∈ ms, IsRead m)
    (hgood : ¬badDesktop info ms) :
    (desktopSize info ms = (right - left + 1, bottom - top + 1) ↔ left < right ∧ top < bottom) ∧
      (left < right ∧ top < bottom → right - left < 0x7FFE ∧ bottom - top < 0x7FFE) := by
  obtain ⟨m₁, hm₁, hleft⟩ := hbox.left.1
  obtain ⟨m₂, hm₂, htop⟩ := hbox.top.1
  obtain ⟨m₃, hm₃, hright⟩ := hbox.right.1
  obtain ⟨m₄, hm₄, hbottom⟩ := hbox.bottom.1
  have hl := (hread m₁ hm₁).left
  have ht := (hread m₂ hm₂).top
  have hr := (hread m₃ hm₃).right
  have hb := (hread m₄ hm₄).bottom
  rw [IsInt] at hl ht hr hb
  rw [badDesktop] at hgood
  push Not at hgood
  by_cases hopen : left < right ∧ top < bottom
  · have hsize : desktopSize info ms = (int (right - left + 1), int (bottom - top + 1)) := by
      rw [desktopSize, hbounds]
      exact if_pos hopen
    rw [hsize] at hgood ⊢
    obtain ⟨hwhi, hwlo, hhhi, hhlo⟩ := hgood
    have hwidth : int (right - left + 1) = right - left + 1 :=
      int_size (by omega) (by omega) (lt_of_lt_of_le (by decide) hwlo)
    have hheight : int (bottom - top + 1) = bottom - top + 1 :=
      int_size (by omega) (by omega) (lt_of_lt_of_le (by decide) hhlo)
    rw [hwidth] at hwhi ⊢
    rw [hheight] at hhhi ⊢
    exact ⟨iff_of_true rfl hopen, fun _ => ⟨by omega, by omega⟩⟩
  · refine ⟨iff_of_false (fun hsize => ?_) hopen, fun h => absurd h hopen⟩
    rw [hsize] at hgood
    obtain ⟨-, hwlo, -, hhlo⟩ := hgood
    exact hopen ⟨by dsimp only at hwlo; omega, by dsimp only at hhlo; omega⟩

end

/-- **The monitors of a desktop**: the layout is right just if they make up one. -/
theorem takeMonitors_iff {read : List MonitorInfo} (hread : ∀ m ∈ read, IsRead m)
    (hcount : s.info.monitorCount = read.length) (hmax : read.length ≤ 16)
    (h : takeMonitors read s = .ok (0, s')) :
    LaidOut s'.info ↔ (0 < s.info.monitorCount → Layable read) := by
  obtain ⟨left, top, right, bottom, hbounds⟩ : ∃ left top right bottom,
    bounds read = (left, top, right, bottom) := ⟨_, _, _, _, rfl⟩
  rw [takeMonitors_eq read s hbounds] at h
  split at h
  · cases h
  rename_i hgood
  cases h
  have hcounts : 0 ≤ s.info.monitorCount ∧ s.info.monitorCount ≤ 16 := by omega
  by_cases hempty : read = []
  · subst hempty
    have hzero : ¬0 < s.info.monitorCount := by
      rw [hcount]
      decide
    refine iff_of_true ⟨hcounts, fun h => absurd h hzero, fun m hm => ?_, ?_, fun h => absurd h hzero⟩
      fun h => absurd h hzero
    · cases hm
    · exact .nil
  have hpos : 0 < s.info.monitorCount := by
    rw [hcount]
    exact_mod_cast List.length_pos_iff.2 hempty
  obtain ⟨l, t, r, b, hbounds', hbox⟩ := bounds_spec hempty
  rw [hbounds] at hbounds'
  cases hbounds'
  obtain ⟨hsize, hsmall⟩ := desktopSize_iff s.info hbounds hbox hread hgood
  have hprimary : ((withPrimary left top read).map (shifted left top)).countP (·.isPrimary ≠ 0) =
      (withPrimary left top read).countP (·.isPrimary ≠ 0) := by
    rw [List.countP_map]
    rfl
  constructor
  · rintro ⟨-, hlaid, hinside, hsame, hone⟩ -
    obtain ⟨l, t, r, b, hbox', hwidth, hheight⟩ := hlaid hpos
    obtain ⟨rfl, rfl, rfl, rfl⟩ := (hbox.withPrimary left top).unique hbox'
    have hopen := hsize.1 (Prod.ext hwidth hheight)
    obtain ⟨hwide, hhigh⟩ := hsmall hopen
    have hall : ∀ m ∈ withPrimary left top read,
        InDesktop (right - left + 1) (bottom - top + 1) (shifted left top m) ∧
          SameSize m (shifted left top m) := by
      intro m hm
      have hin := hinside _ (List.mem_map_of_mem hm)
      rw [hwidth, hheight] at hin
      rw [List.forall₂_map_right_iff, List.forall₂_same] at hsame
      exact ⟨hin, hsame m hm⟩
    rw [withPrimary_forall (fits_primary _ _ left top)] at hall
    have hcorners := fun m hm => (shifted_iff hbox hm hread hwide hhigh).1 (hall m hm)
    obtain ⟨hopenx, hopeny⟩ := (box_open_iff hbox).1 hopen
    have hcountP := hone hpos
    rw [hprimary, withPrimary_count hbox] at hcountP
    exact ⟨hopenx, hopeny, fun m hm => (hcorners m hm).1, fun m hm => (hcorners m hm).2, hcountP⟩
  · intro hlayable
    obtain ⟨hopenx, hopeny, hacross, hdown, hone⟩ := hlayable hpos
    have hopen := (box_open_iff hbox).2 ⟨hopenx, hopeny⟩
    obtain ⟨hwide, hhigh⟩ := hsmall hopen
    have hdesktop := hsize.2 hopen
    have hall : ∀ m ∈ withPrimary left top read,
        InDesktop (right - left + 1) (bottom - top + 1) (shifted left top m) ∧
          SameSize m (shifted left top m) := by
      rw [withPrimary_forall (fits_primary _ _ left top)]
      exact fun m hm => (shifted_iff hbox hm hread hwide hhigh).2 ⟨hacross m hm, hdown m hm⟩
    refine ⟨hcounts, fun _ => ⟨left, top, right, bottom, hbox.withPrimary left top, ?_, ?_⟩,
      fun m hm => ?_, ?_, fun _ => ?_⟩
    · exact congrArg Prod.fst hdesktop
    · exact congrArg Prod.snd hdesktop
    · obtain ⟨m₀, hm₀, rfl⟩ := List.mem_map.1 hm
      show InDesktop (desktopSize s.info read).1 (desktopSize s.info read).2 _
      rw [hdesktop]
      exact (hall m₀ hm₀).1
    · show List.Forall₂ SameSize (withPrimary left top read) _
      rw [List.forall₂_map_right_iff, List.forall₂_same]
      exact fun m hm => (hall m hm).2
    · rw [hprimary, withPrimary_count hbox]
      exact hone

/-! ## The block -/

theorem leAt_lt (data : List UInt8) (p : Nat) : leAt data p 4 < 2 ^ 32 := by
  rw [leAt]
  cases hget : getLe 4 (data.drop p) with
  | none => decide
  | some r => exact getLe_lt hget

theorem signed32_isInt {v : Nat} (h : v < 2 ^ 32) : IsInt (signed32 v) := by
  rw [IsInt, signed32]
  split <;> omega

theorem monitorsAt_read (data : List UInt8) (p n : Nat) :
    (monitorsAt data p n).length = n ∧ ∀ m ∈ monitorsAt data p n, IsRead m := by
  induction n generalizing p with
  | zero => exact ⟨rfl, fun m hm => nomatch hm⟩
  | succ n ih =>
    obtain ⟨hlength, hread⟩ := ih (p + 20)
    refine ⟨congrArg Nat.succ hlength, fun m hm => ?_⟩
    rcases List.mem_cons.1 hm with rfl | hm
    · exact ⟨signed32_isInt (leAt_lt _ _), signed32_isInt (leAt_lt _ _), signed32_isInt (leAt_lt _ _),
        signed32_isInt (leAt_lt _ _)⟩
    · exact hread m hm

/-- **When the layout is right**: for any block that is accepted, just if there are no less than no
monitors, and they make up a desktop. -/
theorem monitors_laid_out_iff (data : List UInt8) (s s' : Sec)
    (h : xrdpSecProcessMcsDataMonitors data s = .ok (0, s')) :
    LaidOut s'.info ↔ MonitorsOk data s := by
  rw [monitors_eq] at h
  rw [MonitorsOk]
  split at h
  · rename_i hmulti
    cases h
    rw [if_neg hmulti]
  rename_i hmulti
  rw [if_pos (not_not.1 hmulti)]
  rw [inSint32Le_bind] at h
  split at h
  case isFalse => cases h
  split at h
  · cases h
  rw [inSint32Le_bind] at h
  split at h
  case isFalse => cases h
  rename_i h8
  split at h
  · cases h
  rename_i hcount
  rw [modifyInfo_bind, readMonitors_bind _ _ _ h8] at h
  split at h
  case isFalse => cases h
  obtain ⟨hlength, hread⟩ := monitorsAt_read data (s.p + 8) (monitorCountAt data s.p).toNat
  have hle : monitorCountAt data s.p ≤ 16 := Int.not_lt.1 hcount
  by_cases hneg : monitorCountAt data s.p < 0
  · refine iff_of_false (fun hlaid => ?_) fun hok => absurd hneg (Int.not_lt.2 hok.1)
    obtain ⟨left, top, right, bottom, hbounds⟩ : ∃ left top right bottom,
      bounds (monitorsAt data (s.p + 8) (monitorCountAt data s.p).toNat) = (left, top, right, bottom) :=
        ⟨_, _, _, _, rfl⟩
    have hrun : takeMonitors (monitorsAt data (s.p + 8) (monitorCountAt data s.p).toNat) _ =
      .ok (0, s') := h
    rw [takeMonitors_eq _ _ hbounds] at hrun
    split at hrun
    · cases hrun
    · cases hrun
      exact absurd hlaid.count.1 (Int.not_le.2 hneg)
  · have hnat : ((monitorCountAt data s.p).toNat : Int) = monitorCountAt data s.p :=
      Int.toNat_of_nonneg (Int.not_lt.1 hneg)
    rw [takeMonitors_iff hread (by rw [hlength, hnat]; rfl) (by rw [hlength]; omega) h]
    exact (and_iff_right (Int.not_lt.1 hneg)).symm

/-- Two monitors, neither of them the primary one, the right one higher up or not. -/
def twoMonitors (top : Nat) : List UInt8 :=
  leBytes 4 0 ++ leBytes 4 2 ++ (leBytes 4 0 ++ leBytes 4 100 ++ leBytes 4 799 ++ leBytes 4 699 ++
    leBytes 4 0) ++ (leBytes 4 800 ++ leBytes 4 top ++ leBytes 4 1599 ++ leBytes 4 599 ++ leBytes 4 0)

/-- What is returned for two monitors, how many there are then, and how many of them are primary. -/
def twoMonitorsResult (top : Nat) : Option (Int × Int × Nat) :=
  (xrdpSecProcessMcsDataMonitors (twoMonitors top) usualSec).toOption.map fun (rv, s) =>
    (rv, s.info.monitorCount, s.info.minfoWm.countP (·.isPrimary ≠ 0))

theorem exists_result {top : Nat} {rv count : Int} {n : Nat}
    (h : twoMonitorsResult top = some (rv, count, n)) : ∃ s',
      xrdpSecProcessMcsDataMonitors (twoMonitors top) usualSec = .ok (rv, s') ∧
        s'.info.monitorCount = count ∧ s'.info.minfoWm.countP (·.isPrimary ≠ 0) = n := by
  rw [twoMonitorsResult] at h
  cases hrun : xrdpSecProcessMcsDataMonitors (twoMonitors top) usualSec with
  | error e =>
    rw [hrun] at h
    cases h
  | ok r =>
    rw [hrun] at h
    cases h
    exact ⟨r.2, rfl, rfl, rfl⟩

theorem monitors_laid_out_level : ∃ s',
    xrdpSecProcessMcsDataMonitors (twoMonitors 100) usualSec = .ok (0, s') ∧
      (LaidOut s'.info ↔ MonitorsOk (twoMonitors 100) usualSec) := by
  have hresult : twoMonitorsResult 100 = some (0, 2, 1) := by decide +kernel
  obtain ⟨s', hrun, -⟩ := exists_result hresult
  exact ⟨s', hrun, monitors_laid_out_iff (twoMonitors 100) usualSec s' hrun⟩

/-- **The leftmost monitor is not the topmost one**: none is chosen. -/
theorem no_primary_chosen : ∃ s',
    xrdpSecProcessMcsDataMonitors (twoMonitors 0) usualSec = .ok (0, s') ∧ ¬LaidOut s'.info := by
  have hresult : twoMonitorsResult 0 = some (0, 2, 0) := by decide +kernel
  obtain ⟨s', hrun, hcount, hprimary⟩ := exists_result hresult
  refine ⟨s', hrun, fun h => ?_⟩
  have hone := h.primary (by rw [hcount]; decide)
  rw [hprimary] at hone
  cases hone

end Xrdp.Gcc
