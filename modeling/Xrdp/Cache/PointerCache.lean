import Mathlib.Data.Vector.Basic
import Xrdp.Lib.Runs
import Xrdp.Lib.Slots

/-!
# Pointers and brushes

The client keeps pointers and brushes that it has been sent (`xrdp/xrdp_cache.c`); one that it has
already is named by its index.

* `xrdpCacheAddPointer`, `xrdpCacheAddPointerStatic`, `xrdpCacheAddBrush` — the caches.
* `PointerCaches.Holds` — what is promised of the indexes that the client is told.
* `pointer_caches_iff` — the calls with which it holds.
-/

namespace Xrdp.PointerCache

open Slots Runs

/-! ## Contents -/

/-- `struct xrdp_pointer_item` without its stamp. -/
structure Pointer where
  x : Int
  y : Int
  data : List.Vector UInt8 (32 * 32 * 4)
  mask : List.Vector UInt8 (32 * 32 / 8)
  bpp : Int
  deriving DecidableEq

/-- A pointer that is all zero. -/
def Pointer.zero : Pointer := ⟨0, 0, .replicate _ 0, .replicate _ 0, 0⟩

/-- The pattern of a brush. -/
abbrev Brush := List.Vector UInt8 8

def Brush.zero : Brush := .replicate 8 0

/-- The sizes of the pointer capabilities, and whether new cursors are turned off. -/
structure PointerCaps where
  colorPointerFlag : Nat
  colorPointerCacheSize : Nat
  pointerCacheSize : Nat
  noNewCursor : Bool

/-- `pointer_cache_entries` after `xrdp_caps_process_pointer`. -/
def PointerCaps.entries (caps : PointerCaps) : Nat :=
  if caps.colorPointerFlag % 2 = 1 then min caps.pointerCacheSize 32
  else min caps.colorPointerCacheSize 32

/-- `pointer_flags & 1`. -/
def PointerCaps.newCursor (caps : PointerCaps) : Bool :=
  !caps.noNewCursor && caps.colorPointerFlag % 2 == 1

theorem PointerCaps.entries_le (caps : PointerCaps) : caps.entries ≤ 32 := by
  unfold entries
  split <;> exact Nat.min_le_right _ _

/-! ## The caches -/

/-- What the client has been told: an index, what it has there by then, for what, and whether that is
reported as found. -/
structure Told (α : Type) where
  index : Nat
  held : Option α
  item : α
  hit : Bool

/-- `struct xrdp_cache`, as far as it is about pointers and brushes, with what the client has. -/
structure PointerCaches where
  pointerCacheEntries : Nat
  newCursor : Bool
  pointerItems : Slots.Cache Pointer
  brushItems : Slots.Cache Brush
  pointers : Nat → Option Pointer
  brushes : Nat → Option Brush
  statics : Nat → Option Pointer
  told : List (Told Pointer)
  found : List (Told Brush)

/-- `xrdp_cache_create`. -/
def xrdpCacheCreate (caps : PointerCaps) : PointerCaches where
  pointerCacheEntries := caps.entries
  newCursor := caps.newCursor
  pointerItems := .fresh .zero
  brushItems := .fresh .zero
  pointers := fun _ => none
  brushes := fun _ => none
  statics := fun _ => none
  told := []
  found := []

/-- `stamp++` of an `int`. -/
def tick {α : Type} (c : Slots.Cache α) : Slots.Cache α :=
  { c with stamp := (c.stamp + 1).bmod (2 ^ 32) }

/-- `bpp` in `libxrdp_send_pointer`. -/
def Pointer.sentBpp (item : Pointer) : Int := if item.bpp = 0 then 24 else item.bpp

/-- `libxrdp_send_pointer` sends nothing. -/
def Refused (newCursor : Bool) (item : Pointer) : Prop :=
  (newCursor = false ∧ item.sentBpp ≠ 24) ∨ item.sentBpp = 15

instance (newCursor : Bool) (item : Pointer) : Decidable (Refused newCursor item) :=
  inferInstanceAs (Decidable ((_ ∧ _) ∨ _))

/-- How many bytes of the data are written: `switch (bpp)` has three cases. -/
def Pointer.pixelBytes (item : Pointer) : Nat :=
  if item.sentBpp = 16 then 32 * 32 * 2
  else if item.sentBpp = 24 then 32 * 32 * 3
  else if item.sentBpp = 32 then 32 * 32 * 4
  else 0

/-- A number is good for a field of two bytes. -/
def Fits16 (v : Int) : Prop := -2 ^ 15 ≤ v ∧ v < 2 ^ 16

/-- What `libxrdp_send_pointer` writes is the pointer: it has its pixels and its hotspot. -/
def Pointer.Complete (item : Pointer) : Prop := item.pixelBytes ≠ 0 ∧ Fits16 item.x ∧ Fits16 item.y

instance (v : Int) : Decidable (Fits16 v) := by unfold Fits16; infer_instance

instance (item : Pointer) : Decidable item.Complete := by unfold Pointer.Complete; infer_instance

/-- The client is not given the pointer. -/
def Lost (newCursor : Bool) (item : Pointer) : Prop := Refused newCursor item ∨ ¬ item.Complete

namespace PointerCaches

/-- `xrdp_wm_send_pointer`: a pointer that is sent without its pixels takes the place of another all the
same. -/
def sendPointer (s : PointerCaches) (index : Nat) (item : Pointer) : PointerCaches :=
  if Refused s.newCursor item then s
  else
    let held := if item.Complete then some item else none
    { s with
      pointers := Function.update s.pointers index held
      told := s.told ++ [⟨index, held, item, false⟩] }

/-- `xrdp_wm_set_pointer`. -/
def setPointer (s : PointerCaches) (index : Nat) (item : Pointer) : PointerCaches :=
  { s with told := s.told ++ [⟨index, s.pointers index, item, true⟩] }

/-- The slot with that pointer. -/
def findPointer (s : PointerCaches) (item : Pointer) : Option Nat :=
  Slots.find 2 s.pointerCacheEntries fun i => (s.pointerItems.slots i).content = item

/-- `xrdp_cache_add_pointer`. -/
def xrdpCacheAddPointer (s : PointerCaches) (item : Pointer) : PointerCaches :=
  let s := { s with pointerItems := tick s.pointerItems }
  match s.findPointer item with
  | some i => { s with pointerItems := s.pointerItems.touch i }.setPointer i item
  | none =>
    let index := oldest 2 s.pointerCacheEntries 0x7fffffff fun i => (s.pointerItems.slots i).stamp
    { s with pointerItems := s.pointerItems.put index item }.sendPointer index item

/-- `xrdp_cache_add_pointer_static`. -/
def xrdpCacheAddPointerStatic (s : PointerCaches) (item : Pointer) (index : Nat) : PointerCaches :=
  let s := { s with pointerItems := s.pointerItems.put index item }.sendPointer index item
  { s with statics := Function.update s.statics index (s.pointers index) }

/-- The slot with that brush. -/
def findBrush (s : PointerCaches) (pattern : Brush) : Option Nat :=
  Slots.find 0 64 fun i => (s.brushItems.slots i).content = pattern

/-- `xrdp_cache_add_brush`. -/
def xrdpCacheAddBrush (s : PointerCaches) (pattern : Brush) : PointerCaches :=
  let s := { s with brushItems := tick s.brushItems }
  match s.findBrush pattern with
  | some i =>
    { s with
      brushItems := s.brushItems.touch i
      found := s.found ++ [⟨i, s.brushes i, pattern, true⟩] }
  | none =>
    let index := oldest 0 64 0x7fffffff fun i => (s.brushItems.slots i).stamp
    { s with
      brushItems := s.brushItems.put index pattern
      brushes := Function.update s.brushes index (some pattern)
      found := s.found ++ [⟨index, some pattern, pattern, false⟩] }

end PointerCaches

/-- A call; the static pointers are those of the indexes 0 and 1. -/
inductive CacheCall where
  | addPointer (item : Pointer)
  | addPointerStatic (item : Pointer) (index : Fin 2)
  | addBrush (pattern : Brush)

/-- What comes of a call. -/
def PointerCaches.step (s : PointerCaches) : CacheCall → PointerCaches
  | .addPointer item => s.xrdpCacheAddPointer item
  | .addPointerStatic item index => s.xrdpCacheAddPointerStatic item index
  | .addBrush pattern => s.xrdpCacheAddBrush pattern

def CacheNext (s : PointerCaches) (c : CacheCall) (s' : PointerCaches) : Prop := s.step c = s'

/-! ## What is promised -/

namespace PointerCaches

/-- The client is told of indexes of its cache, and has there what is reported as found; and no other
pointer takes the place of a static one. -/
structure Holds (s : PointerCaches) : Prop where
  pointers : ∀ t ∈ s.told, t.index < s.pointerCacheEntries ∧ t.index < 32 ∧
    (t.hit = true → t.held = some t.item)
  brushes : ∀ t ∈ s.found, t.index < 64 ∧ t.held = some t.item
  statics : ∀ i < 2, s.pointers i = s.statics i

/-- The condition on a call: a pointer that is found can be sent with its pixels, and one that is not has a
place, if it can be sent; and one that is all zero has been put where it is found, as has such a brush. -/
def CallFits (s : PointerCaches) : CacheCall → Prop
  | .addPointer item => match s.findPointer item with
    | some i => ¬ Lost s.newCursor item ∧
      (item = .zero → (s.pointerItems.slots i).filled = true)
    | none => Refused s.newCursor item ∨ 3 ≤ s.pointerCacheEntries
  | .addPointerStatic item index => Refused s.newCursor item ∨ index < s.pointerCacheEntries
  | .addBrush pattern => ∀ i, s.findBrush pattern = some i → pattern = .zero →
    (s.brushItems.slots i).filled = true

/-- What there is at any time. -/
structure Inv (s : PointerCaches) : Prop where
  entries : s.pointerCacheEntries ≤ 32
  mirrored : Mirrors .zero (Lost s.newCursor) s.pointerItems s.pointers
  brushed : Mirrors .zero (fun _ => False) s.brushItems s.brushes
  statics : ∀ i < 2, s.pointers i = s.statics i

def Good (s : PointerCaches) : Prop := s.Inv ∧ s.Holds

theorem good_create (caps : PointerCaps) : Good (xrdpCacheCreate caps) :=
  ⟨⟨caps.entries_le, .fresh, .fresh, fun _ _ => rfl⟩,
    ⟨fun _ h => (nomatch h), fun _ h => (nomatch h), fun _ _ => rfl⟩⟩

/-- What is told besides. -/
theorem Holds.told_iff {s s' : PointerCaches} {t : Told Pointer} (h : Holds s)
    (htold : s'.told = s.told ++ [t]) (hfound : s'.found = s.found)
    (hentries : s'.pointerCacheEntries = s.pointerCacheEntries)
    (hstatics : ∀ i < 2, s'.pointers i = s'.statics i) :
    Holds s' ↔ t.index < s.pointerCacheEntries ∧ t.index < 32 ∧
      (t.hit = true → t.held = some t.item) := by
  constructor
  · intro h'
    rw [← hentries]
    exact h'.pointers t (by simp [htold])
  · intro ht
    refine ⟨fun u hu => ?_, by rw [hfound]; exact h.brushes, hstatics⟩
    rw [hentries]
    rw [htold, List.mem_append, List.mem_singleton] at hu
    rcases hu with hold | rfl
    · exact h.pointers u hold
    · exact ht

theorem tick_mirrors {α : Type} {blank : α} {refused : α → Prop} {c : Slots.Cache α}
    {held : Nat → Option α} (h : Mirrors blank refused c held) : Mirrors blank refused (tick c) held :=
  h.congr (fun _ => rfl) (fun _ => rfl)

/-- A pointer is put into a slot and sent. -/
theorem putPointer_spec {s : PointerCaches} (h : s.Inv) (index : Nat) (item : Pointer) :
    ∃ s', { s with pointerItems := s.pointerItems.put index item }.sendPointer index item = s' ∧
      Mirrors .zero (Lost s'.newCursor) s'.pointerItems s'.pointers ∧
      s'.pointerCacheEntries = s.pointerCacheEntries ∧ s'.newCursor = s.newCursor ∧
      s'.brushItems = s.brushItems ∧ s'.brushes = s.brushes ∧ s'.statics = s.statics ∧
      s'.found = s.found ∧ (∀ i, i ≠ index → s'.pointers i = s.pointers i) ∧
      (Refused s.newCursor item ∧ s'.told = s.told ∨
        ¬ Refused s.newCursor item ∧ ∃ held, s'.told = s.told ++ [⟨index, held, item, false⟩]) := by
  refine ⟨_, rfl, ?_⟩
  unfold sendPointer
  dsimp only
  split
  · rename_i hrefused
    exact ⟨h.mirrored.put_refused index (.inl hrefused), rfl, rfl, rfl, rfl, rfl, rfl, fun _ _ => rfl,
      .inl ⟨hrefused, rfl⟩⟩
  · rename_i hsent
    refine ⟨?_, rfl, rfl, rfl, rfl, rfl, rfl, fun i hne => Function.update_of_ne hne _ _,
      .inr ⟨hsent, _, rfl⟩⟩
    by_cases hcomplete : item.Complete
    · rw [if_pos hcomplete]
      refine h.mirrored.put_sent index ?_
      rintro (hrefused | hnot)
      · exact hsent hrefused
      · exact hnot hcomplete
    · rw [if_neg hcomplete]
      exact h.mirrored.put_lost index (.inr hcomplete)

theorem addPointer_spec {s : PointerCaches} (h : s.Good) (item : Pointer) :
    (s.xrdpCacheAddPointer item).Inv ∧
      ((s.xrdpCacheAddPointer item).Holds ↔ s.CallFits (.addPointer item)) := by
  obtain ⟨hinv, hholds⟩ := h
  have htick : Inv { s with pointerItems := tick s.pointerItems } :=
    ⟨hinv.entries, tick_mirrors hinv.mirrored, hinv.brushed, hinv.statics⟩
  have hfind : findPointer { s with pointerItems := tick s.pointerItems } item = s.findPointer item := rfl
  unfold xrdpCacheAddPointer CallFits
  dsimp only
  rw [hfind]
  cases hfound : s.findPointer item with
  | some i =>
    obtain ⟨-, hlt, hcontent⟩ := find_some hfound
    have hcontent' : (s.pointerItems.slots i).content = item := by simpa using hcontent
    have hle := hinv.entries
    have hmirrored := tick_mirrors hinv.mirrored
    refine ⟨⟨hinv.entries, hmirrored.touch i, hinv.brushed, hinv.statics⟩, ?_⟩
    have htold : Holds (setPointer { s with pointerItems := (tick s.pointerItems).touch i } i item) ↔ _ :=
      hholds.told_iff (t := ⟨i, s.pointers i, item, true⟩) rfl rfl rfl hinv.statics
    refine htold.trans ?_
    dsimp only
    rw [← hinv.mirrored.held_iff hcontent']
    constructor
    · exact fun hall => hall.2.2 rfl
    · exact fun hheld => ⟨hlt, by omega, fun _ => hheld⟩
  | none =>
    dsimp only
    generalize hindex : oldest 2 s.pointerCacheEntries 0x7fffffff
      (fun i => ((tick s.pointerItems).slots i).stamp) = index
    have hbounds := oldest_bounds 2 s.pointerCacheEntries 0x7fffffff
      (fun i => ((tick s.pointerItems).slots i).stamp)
    rw [hindex] at hbounds
    obtain ⟨s', hs', hmirrored, hentries, hcursor, hbrush, hbrushes, hstatics, hfound', hpointers, htold⟩ :=
      putPointer_spec htick index item
    rw [hs']
    have hkept : ∀ i < 2, s'.pointers i = s'.statics i := by
      intro i hi
      rw [hpointers i (by omega), hstatics]
      exact hinv.statics i hi
    refine ⟨⟨hentries ▸ hinv.entries, hmirrored, ?_, hkept⟩, ?_⟩
    · rw [hbrush, hbrushes]
      exact hinv.brushed
    · have hle := hinv.entries
      rcases htold with ⟨hrefused, htold⟩ | ⟨hsent, held, htold⟩
      · refine iff_of_true ⟨?_, ?_, hkept⟩ (.inl hrefused)
        · rw [htold, hentries]
          exact hholds.pointers
        · rw [hfound']
          exact hholds.brushes
      · refine (hholds.told_iff htold hfound' hentries hkept).trans ?_
        dsimp only
        constructor
        · exact fun hall => .inr (by omega)
        · rintro (hrefused | hthree)
          · exact absurd hrefused hsent
          · exact ⟨by omega, by omega, fun hhit => absurd hhit Bool.false_ne_true⟩

theorem addPointerStatic_spec {s : PointerCaches} (h : s.Good) (item : Pointer) (index : Fin 2) :
    (s.xrdpCacheAddPointerStatic item index).Inv ∧
      ((s.xrdpCacheAddPointerStatic item index).Holds ↔ s.CallFits (.addPointerStatic item index)) := by
  obtain ⟨hinv, hholds⟩ := h
  obtain ⟨s', hs', hmirrored, hentries, hcursor, hbrush, hbrushes, hstatics, hfound, hpointers, htold⟩ :=
    putPointer_spec hinv index item
  unfold xrdpCacheAddPointerStatic CallFits
  dsimp only
  rw [hs']
  have hkept : ∀ i < 2, s'.pointers i = Function.update s'.statics index (s'.pointers index) i := by
    intro i hi
    rcases eq_or_ne i index.val with rfl | hne
    · rw [Function.update_self]
    · rw [Function.update_of_ne hne, hpointers i hne, hstatics]
      exact hinv.statics i hi
  refine ⟨⟨hentries ▸ hinv.entries, hmirrored, ?_, hkept⟩, ?_⟩
  · show Mirrors _ _ s'.brushItems s'.brushes
    rw [hbrush, hbrushes]
    exact hinv.brushed
  · rcases htold with ⟨hrefused, htold⟩ | ⟨hsent, held, htold⟩
    · refine iff_of_true ⟨?_, ?_, hkept⟩ (.inl hrefused)
      · show ∀ t ∈ s'.told, _ < s'.pointerCacheEntries ∧ _
        rw [htold, hentries]
        exact hholds.pointers
      · show ∀ t ∈ s'.found, _
        rw [hfound]
        exact hholds.brushes
    · have hlt := index.isLt
      have hiff : Holds { s' with
          statics := Function.update s'.statics index (s'.pointers index) } ↔ _ :=
        hholds.told_iff htold hfound hentries hkept
      refine hiff.trans ?_
      dsimp only
      constructor
      · exact fun hall => .inr hall.1
      · rintro (hrefused | hlt')
        · exact absurd hrefused hsent
        · exact ⟨hlt', by omega, fun hhit => absurd hhit Bool.false_ne_true⟩

theorem addBrush_spec {s : PointerCaches} (h : s.Good) (pattern : Brush) :
    (s.xrdpCacheAddBrush pattern).Inv ∧
      ((s.xrdpCacheAddBrush pattern).Holds ↔ s.CallFits (.addBrush pattern)) := by
  obtain ⟨hinv, hholds⟩ := h
  have htick := tick_mirrors hinv.brushed
  have hfind : findBrush { s with brushItems := tick s.brushItems } pattern = s.findBrush pattern := rfl
  unfold xrdpCacheAddBrush CallFits
  dsimp only
  rw [hfind]
  cases hfound : s.findBrush pattern with
  | some i =>
    obtain ⟨-, hlt, hcontent⟩ := find_some hfound
    have hcontent' : (s.brushItems.slots i).content = pattern := by simpa using hcontent
    refine ⟨⟨hinv.entries, hinv.mirrored, htick.touch i, hinv.statics⟩, ?_⟩
    have hheld := hinv.brushed.held_iff hcontent'
    simp only [not_false_eq_true, true_and] at hheld
    simp only [Option.some.injEq, forall_eq']
    rw [← hheld]
    constructor
    · intro h'
      exact (h'.brushes ⟨i, s.brushes i, pattern, true⟩ (by simp)).2
    · intro hsome
      refine ⟨hholds.pointers, fun t ht => ?_, hinv.statics⟩
      rcases List.mem_append.1 ht with hold | hnew
      · exact hholds.brushes t hold
      · rw [List.mem_singleton.1 hnew]
        exact ⟨hlt, hsome⟩
  | none =>
    dsimp only
    have hbounds := oldest_bounds 0 64 0x7fffffff (fun i => ((tick s.brushItems).slots i).stamp)
    refine ⟨⟨hinv.entries, hinv.mirrored, htick.put_sent _ id, hinv.statics⟩, ?_⟩
    refine iff_of_true ⟨hholds.pointers, fun t ht => ?_, hinv.statics⟩ (fun _ hnone => (nomatch hnone))
    rcases List.mem_append.1 ht with hold | hnew
    · exact hholds.brushes t hold
    · rw [List.mem_singleton.1 hnew]
      exact ⟨by dsimp only; omega, rfl⟩

/-- **A call** keeps the promise just if it meets its condition. -/
theorem step_spec {s : PointerCaches} (h : s.Good) (c : CacheCall) :
    (s.step c).Inv ∧ ((s.step c).Holds ↔ s.CallFits c) := by
  cases c with
  | addPointer item => exact addPointer_spec h item
  | addPointerStatic item index => exact addPointerStatic_spec h item index
  | addBrush pattern => exact addBrush_spec h pattern

end PointerCaches

theorem cacheNext_det (s : PointerCaches) (c : CacheCall) (s₁ s₂ : PointerCaches)
    (h₁ : CacheNext s c s₁) (h₂ : CacheNext s c s₂) : s₁ = s₂ := Eq.trans (Eq.symm h₁) h₂

/-- **Pointers and brushes**: the indexes that the client is told are of its cache, and it has there what
is reported as found, just if all calls meet their conditions. -/
theorem pointer_caches_iff (caps : PointerCaps) (calls : List CacheCall) :
    Always CacheNext PointerCaches.Holds (xrdpCacheCreate caps) calls ↔
      AllFit CacheNext PointerCaches.CallFits (xrdpCacheCreate caps) calls := by
  refine always_iff cacheNext_det (fun s (h : s.Good) => h.2) (fun s c h => ?_)
    (PointerCaches.good_create caps) calls
  obtain ⟨hinv, hiff⟩ := PointerCaches.step_spec h c
  exact .of_next cacheNext_det rfl hiff fun hholds => ⟨hinv, hholds⟩

/-- A brush that is all zero is found in a slot that has never been filled. -/
theorem zero_brush_not_sent :
    ∃ s', Leads CacheNext (xrdpCacheCreate ⟨1, 25, 25, false⟩) [.addBrush .zero] s' ∧
      s'.found.map (fun t => (t.index, t.held)) = [(0, none)] ∧ ¬ s'.Holds := by
  refine ⟨_, leads_fun.2 rfl, rfl, fun h => ?_⟩
  have hheld := (h.brushes ⟨0, none, .zero, true⟩ (by exact List.mem_singleton_self _)).2
  cases hheld

end Xrdp.PointerCache
