import Mathlib.Data.Finset.Card
import Mathlib.Order.Interval.Finset.Nat
import Xrdp.Lib.Slots

/-!
# Glyphs

The client keeps glyphs that it has been sent (`xrdp/xrdp_cache.c`), in five caches of 250 cells.  A
glyph that it has already is named by its cell; another takes the cell that has not been used for
longest.

* `GlyphCaches.xrdpCacheAddChar` — a glyph is found, or sent.
* `Inv` — what there is at any time: each stamp is in one cell, and each glyph too.
* `places_iff` — the client has all glyphs of a text in one cache just if each is found there, or put
  there.

Left out: the check of the size of an order, which a glyph of a font never exceeds.
-/

namespace Xrdp.GlyphCache

open Slots

/-- `struct xrdp_font_char` as it is compared. -/
structure Glyph where
  offset : Int
  baseline : Int
  width : Int
  height : Int
  data : List UInt8
  deriving DecidableEq, Repr

/-- A cell that is all zero. -/
def Glyph.zero : Glyph := ⟨0, 0, 0, 0, []⟩

/-- The numbers of a glyph fit in the fields of its order, of version 2 or 1. -/
def Glyph.Sendable (useCacheGlyphV2 : Bool) (g : Glyph) : Prop :=
  0 ≤ g.width ∧ 0 ≤ g.height ∧
    if useCacheGlyphV2 then
      g.offset.natAbs ≤ 0x3FFF ∧ g.baseline.natAbs ≤ 0x3FFF ∧ g.width ≤ 0x7FFF ∧ g.height ≤ 0x7FFF
    else
      -0x8000 ≤ g.offset ∧ g.offset < 0x8000 ∧ -0x8000 ≤ g.baseline ∧ g.baseline < 0x8000 ∧
        g.width < 0x10000 ∧ g.height < 0x10000

instance (v2 : Bool) (g : Glyph) : Decidable (g.Sendable v2) := by
  unfold Glyph.Sendable
  infer_instance

/-- The cells that are searched, cache 7 to 11, each from 0 to 249: `MAKELONG` with the index in a byte. -/
def cell (n : Nat) : Nat := (7 + n / 250) * 256 + n % 250

/-- `char_items` and `char_stamp`; what the client has; and whether it has lost its place in the orders. -/
structure GlyphCaches where
  charItems : Slots.Cache Glyph
  held : Nat → Option Glyph
  lost : Bool

/-- `xrdp_cache_create`. -/
def GlyphCaches.create : GlyphCaches := ⟨.fresh .zero, fun _ => none, false⟩

/-- `char_stamp++`. -/
def tick (c : Slots.Cache Glyph) : Slots.Cache Glyph := { c with stamp := c.stamp + 1 }

/-- "look for match". -/
def findChar (c : Slots.Cache Glyph) (g : Glyph) : Option Nat :=
  (Slots.find 0 1250 fun n => (c.slots (cell n)).content = g).map cell

/-- "look for oldest". -/
def oldestChar (c : Slots.Cache Glyph) : Nat :=
  let n := Slots.oldest 0 1250 0x7fffffff fun n => (c.slots (cell n)).stamp
  if (c.slots (cell n)).stamp < 0x7fffffff then cell n else 0

namespace GlyphCaches

/-- "set, send char and return". -/
def sendChar (v2 : Bool) (s : GlyphCaches) (i : Nat) (g : Glyph) : GlyphCaches where
  charItems := s.charItems.put i g
  held := if g.Sendable v2 then Function.update s.held i (some g) else s.held
  lost := s.lost || !decide (g.Sendable v2)

/-- `xrdp_cache_add_char`, while the stamp does not overflow. -/
def xrdpCacheAddChar (v2 : Bool) (s : GlyphCaches) (g : Glyph) : Nat × GlyphCaches :=
  let s := { s with charItems := tick s.charItems }
  match findChar s.charItems g with
  | some i => (i, { s with charItems := s.charItems.touch i })
  | none => (oldestChar s.charItems, s.sendChar v2 (oldestChar s.charItems) g)

/-- The cells of a text. -/
def places (v2 : Bool) : GlyphCaches → List Glyph → List Nat
  | _, [] => []
  | s, g :: gs => (s.xrdpCacheAddChar v2 g).1 :: places v2 (s.xrdpCacheAddChar v2 g).2 gs

/-- What comes of a text. -/
def addAll (v2 : Bool) (s : GlyphCaches) (gs : List Glyph) : GlyphCaches :=
  gs.foldl (fun s g => (s.xrdpCacheAddChar v2 g).2) s

/-- Each glyph of a text is found in one cache, where it has been sent, or is put there. -/
def Fits (v2 : Bool) (f : Nat) : GlyphCaches → List Glyph → Prop
  | _, [] => True
  | s, g :: gs => (match findChar s.charItems g with
      | some i => i / 256 = f ∧ (s.charItems.slots i).filled = true
      | none => oldestChar s.charItems / 256 = f ∧ g.Sendable v2) ∧
    Fits v2 f (s.xrdpCacheAddChar v2 g).2 gs

/-! ## At any time -/

/-- Each stamp but 0 is in one cell, and what is in a cell that has been filled is in no other. -/
structure Inv (s : GlyphCaches) : Prop where
  stamp : 0 ≤ s.charItems.stamp
  stamps : ∀ n < 1250, 0 ≤ (s.charItems.slots (cell n)).stamp ∧
    (s.charItems.slots (cell n)).stamp ≤ s.charItems.stamp
  distinct : ∀ n < 1250, ∀ m < 1250, 0 < (s.charItems.slots (cell n)).stamp →
    (s.charItems.slots (cell n)).stamp = (s.charItems.slots (cell m)).stamp → n = m
  filled : ∀ i, (s.charItems.slots i).filled = true → ∃ n < 1250, i = cell n
  unique : ∀ n < 1250, ∀ m < 1250, (s.charItems.slots (cell n)).filled = true →
    (s.charItems.slots (cell n)).content = (s.charItems.slots (cell m)).content → n = m
  blank : ∀ i, (s.charItems.slots i).filled = false → (s.charItems.slots i).content = .zero
  mirrors : s.lost = false → Mirrors .zero (fun _ => False) s.charItems s.held

theorem inv_create : Inv .create where
  stamp := le_rfl
  stamps _ _ := ⟨le_rfl, le_rfl⟩
  distinct _ _ _ _ h := absurd h (lt_irrefl _)
  filled _ h := nomatch h
  unique _ _ _ _ h := nomatch h
  blank _ _ := rfl
  mirrors _ := .fresh

end GlyphCaches

theorem cell_inj {n m : Nat} (h : cell n = cell m) : n = m := by
  unfold cell at h
  omega

theorem findChar_some {c : Slots.Cache Glyph} {g : Glyph} {i : Nat} (h : findChar c g = some i) :
    ∃ n < 1250, i = cell n ∧ (c.slots (cell n)).content = g := by
  obtain ⟨n, hn, rfl⟩ := Option.map_eq_some_iff.1 h
  obtain ⟨-, hlt, hcontent⟩ := find_some hn
  exact ⟨n, hlt, rfl, by simpa using hcontent⟩

theorem findChar_none {c : Slots.Cache Glyph} {g : Glyph} (h : findChar c g = none) :
    ∀ n < 1250, (c.slots (cell n)).content ≠ g := by
  intro n hn
  have hnone := find_none.1 (Option.map_eq_none_iff.1 h) n (Nat.zero_le n) hn
  simpa using hnone

/-- The oldest cell, if there is one below the limit. -/
theorem oldestChar_spec {c : Slots.Cache Glyph} {m : Nat} (hm : m < 1250)
    (hlimit : (c.slots (cell m)).stamp < 0x7fffffff) :
    ∃ n < 1250, oldestChar c = cell n ∧ (c.slots (cell n)).stamp ≤ (c.slots (cell m)).stamp := by
  obtain ⟨-, hlt, hle⟩ := @oldest_min 0 1250 0x7fffffff (fun n => (c.slots (cell n)).stamp) m (Nat.zero_le m) hm hlimit
  exact ⟨_, hlt, if_pos (hle.trans_lt hlimit), hle⟩

namespace GlyphCaches

/-! ## A glyph -/

/-- A glyph that is found. -/
structure Found (s s' : GlyphCaches) (n : Nat) (g : Glyph) : Prop where
  find : findChar s.charItems g = some (cell n)
  content : (s.charItems.slots (cell n)).content = g
  eq : s' = { s with charItems := (tick s.charItems).touch (cell n) }

/-- A glyph that is sent, and takes the oldest cell. -/
structure Sent (v2 : Bool) (s s' : GlyphCaches) (n : Nat) (g : Glyph) : Prop where
  find : findChar s.charItems g = none
  oldest : oldestChar s.charItems = cell n
  least : ∀ m < 1250, (s.charItems.slots (cell n)).stamp ≤ (s.charItems.slots (cell m)).stamp
  eq : s' = sendChar v2 { s with charItems := tick s.charItems } (cell n) g

theorem addChar_cases {s : GlyphCaches} (h : s.Inv) (hlimit : s.charItems.stamp < 0x7fffffff) (v2 : Bool)
    (g : Glyph) : ∃ n < 1250, (s.xrdpCacheAddChar v2 g).1 = cell n ∧
      (Found s (s.xrdpCacheAddChar v2 g).2 n g ∨ Sent v2 s (s.xrdpCacheAddChar v2 g).2 n g) := by
  have hfind : findChar (tick s.charItems) g = findChar s.charItems g := rfl
  have holdest : oldestChar (tick s.charItems) = oldestChar s.charItems := rfl
  unfold xrdpCacheAddChar
  dsimp only
  rw [hfind, holdest]
  cases hfound : findChar s.charItems g with
  | some i =>
    obtain ⟨n, hn, rfl, hcontent⟩ := findChar_some hfound
    exact ⟨n, hn, rfl, .inl ⟨hfound, hcontent, rfl⟩⟩
  | none =>
    have hbelow (m : Nat) (hm : m < 1250) : (s.charItems.slots (cell m)).stamp < 0x7fffffff :=
      (h.stamps m hm).2.trans_lt hlimit
    obtain ⟨n, hn, hcell, -⟩ := oldestChar_spec (m := 0) (by decide) (hbelow 0 (by decide))
    refine ⟨n, hn, hcell, .inr ⟨hfound, hcell, fun m hm => ?_, by rw [hcell]⟩⟩
    obtain ⟨n', -, hcell', hle⟩ := oldestChar_spec hm (hbelow m hm)
    rw [cell_inj (hcell.symm.trans hcell')]
    exact hle

/-- A new glyph takes the first cell that has not been used. -/
theorem addChar_first {s : GlyphCaches} (v2 : Bool) {g : Glyph} {n : Nat} (hn : n < 1250)
    (hnew : ∀ m < 1250, (s.charItems.slots (cell m)).content ≠ g)
    (hfree : ∀ m, n ≤ m → m < 1250 → (s.charItems.slots (cell m)).stamp = 0)
    (hused : ∀ m < n, 0 < (s.charItems.slots (cell m)).stamp) :
    s.xrdpCacheAddChar v2 g = (cell n, sendChar v2 { s with charItems := tick s.charItems } (cell n) g) := by
  have hfind : findChar (tick s.charItems) g = none := by
    refine Option.map_eq_none_iff.2 (find_none.2 fun m _ hm => ?_)
    exact decide_eq_false (hnew m hm)
  have holdest : oldestChar (tick s.charItems) = cell n := by
    have hzero := hfree n le_rfl hn
    have hslot : Slots.oldest 0 1250 0x7fffffff (fun m => (s.charItems.slots (cell m)).stamp) = n := by
      refine oldest_eq (Nat.zero_le n) hn (by simp [hzero]) (fun m _ hm => ?_) fun m hm hlt => ?_
      · simpa [hzero] using hused m hm
      · simp [hzero, hfree m hm.le hlt]
    simp [oldestChar, tick, hslot, hzero]
  simp only [xrdpCacheAddChar, hfind, holdest]

/-- What a step does to the stamps. -/
structure Used (s s' : GlyphCaches) (n : Nat) : Prop where
  stamp : s'.charItems.stamp = s.charItems.stamp + 1
  self : (s'.charItems.slots (cell n)).stamp = s.charItems.stamp + 1
  other : ∀ i, i ≠ cell n → s'.charItems.slots i = s.charItems.slots i

theorem Found.used {s s' : GlyphCaches} {n : Nat} {g : Glyph} (h : Found s s' n g) : Used s s' n := by
  rw [h.eq]
  refine ⟨rfl, ?_, fun i hi => Function.update_of_ne hi _ _⟩
  simp [Slots.Cache.touch, tick]

theorem Sent.used {v2 : Bool} {s s' : GlyphCaches} {n : Nat} {g : Glyph} (h : Sent v2 s s' n g) :
    Used s s' n := by
  rw [h.eq]
  refine ⟨rfl, ?_, fun i hi => Function.update_of_ne hi _ _⟩
  simp [sendChar, tick]

section Steps

variable {v2 : Bool} {s s' : GlyphCaches} {n : Nat} {g : Glyph}

theorem Used.stamps (h : Used s s' n) (hinv : s.Inv) : ∀ m < 1250,
    0 ≤ (s'.charItems.slots (cell m)).stamp ∧ (s'.charItems.slots (cell m)).stamp ≤ s'.charItems.stamp := by
  intro m hm
  have hstamp := hinv.stamp
  have hold := hinv.stamps m hm
  rw [h.stamp]
  rcases eq_or_ne (cell m) (cell n) with heq | hne
  · rw [heq, h.self]
    omega
  · rw [h.other _ hne]
    omega

theorem Used.distinct (h : Used s s' n) (hinv : s.Inv) : ∀ k < 1250, ∀ m < 1250,
    0 < (s'.charItems.slots (cell k)).stamp →
    (s'.charItems.slots (cell k)).stamp = (s'.charItems.slots (cell m)).stamp → k = m := by
  intro k hk m hm
  have hkold := hinv.stamps k hk
  have hmold := hinv.stamps m hm
  rcases eq_or_ne (cell k) (cell n) with heqk | hnek
  · rcases eq_or_ne (cell m) (cell n) with heqm | hnem
    · exact fun _ _ => cell_inj (heqk.trans heqm.symm)
    · rw [heqk, h.self, h.other _ hnem]
      omega
  · rcases eq_or_ne (cell m) (cell n) with heqm | hnem
    · rw [heqm, h.self, h.other _ hnek]
      omega
    · rw [h.other _ hnek, h.other _ hnem]
      exact hinv.distinct k hk m hm

theorem Found.slot (h : Found s s' n g) (i : Nat) :
    (s'.charItems.slots i).content = (s.charItems.slots i).content ∧
      (s'.charItems.slots i).filled = (s.charItems.slots i).filled := by
  rw [h.eq]
  exact ⟨Slots.Cache.touch_content .., Slots.Cache.touch_filled ..⟩

theorem Found.inv (h : Found s s' n g) (hinv : s.Inv) : s'.Inv := by
  have hstamp := hinv.stamp
  refine ⟨?_, h.used.stamps hinv, h.used.distinct hinv, fun i hi => ?_, fun k hk m hm hfilled heq => ?_,
    fun i hi => ?_, fun hlost => ?_⟩
  · rw [h.used.stamp]
    omega
  · rw [(h.slot i).2] at hi
    exact hinv.filled i hi
  · rw [(h.slot _).2] at hfilled
    rw [(h.slot _).1, (h.slot _).1] at heq
    exact hinv.unique k hk m hm hfilled heq
  · rw [(h.slot i).2] at hi
    rw [(h.slot i).1]
    exact hinv.blank i hi
  · have hsame : s'.lost = s.lost ∧ s'.held = s.held := by
      rw [h.eq]
      exact ⟨rfl, rfl⟩
    rw [hsame.2]
    exact (hinv.mirrors (hsame.1 ▸ hlost)).congr (fun i => (h.slot i).1) fun i => (h.slot i).2

theorem Sent.self (h : Sent v2 s s' n g) : (s'.charItems.slots (cell n)).content = g ∧
    (s'.charItems.slots (cell n)).filled = true := by
  rw [h.eq]
  simp [sendChar]

theorem Sent.inv (h : Sent v2 s s' n g) (hn : n < 1250) (hinv : s.Inv) : s'.Inv := by
  have hstamp := hinv.stamp
  have hnew := findChar_none h.find
  refine ⟨?_, h.used.stamps hinv, h.used.distinct hinv, fun i hi => ?_, fun k hk m hm hfilled heq => ?_,
    fun i hi => ?_, fun hlost => ?_⟩
  · rw [h.used.stamp]
    omega
  · rcases eq_or_ne i (cell n) with rfl | hne
    · exact ⟨n, hn, rfl⟩
    · rw [h.used.other i hne] at hi
      exact hinv.filled i hi
  · rcases eq_or_ne (cell k) (cell n) with heqk | hnek
    · rcases eq_or_ne (cell m) (cell n) with heqm | hnem
      · exact cell_inj (heqk.trans heqm.symm)
      · rw [heqk, h.self.1, h.used.other _ hnem] at heq
        exact absurd heq.symm (hnew m hm)
    · rw [h.used.other _ hnek] at hfilled heq
      rcases eq_or_ne (cell m) (cell n) with heqm | hnem
      · rw [heqm, h.self.1] at heq
        exact absurd heq (hnew k hk)
      · rw [h.used.other _ hnem] at heq
        exact hinv.unique k hk m hm hfilled heq
  · rcases eq_or_ne i (cell n) with rfl | hne
    · rw [h.self.2] at hi
      cases hi
    · rw [h.used.other i hne] at hi ⊢
      exact hinv.blank i hi
  · have hlost' : s.lost = false ∧ g.Sendable v2 := by
      rw [h.eq] at hlost
      simpa [sendChar] using hlost
    have hheld : s'.held = Function.update s.held (cell n) (some g) := by
      rw [h.eq]
      simp [sendChar, hlost'.2]
    have hitems : s'.charItems = (tick s.charItems).put (cell n) g := by
      rw [h.eq]
      rfl
    have hticked : Mirrors .zero (fun _ => False) (tick s.charItems) s.held :=
      (hinv.mirrors hlost'.1).congr (fun _ => rfl) fun _ => rfl
    rw [hheld, hitems]
    exact hticked.put_sent _ id

/-! ## A text -/

/-- Of as many cells as there are not all have been used lately. -/
theorem Inv.exists_old (hinv : s.Inv) {stamp : Int} (hstamp : 0 ≤ stamp)
    (hfew : s.charItems.stamp - stamp < 1250) : ∃ m < 1250, (s.charItems.slots (cell m)).stamp ≤ stamp := by
  by_contra hnone
  push Not at hnone
  have hmaps : ∀ m ∈ Finset.range 1250, ((s.charItems.slots (cell m)).stamp - stamp - 1).toNat ∈
      Finset.range (s.charItems.stamp - stamp).toNat := by
    intro m hm
    have hm' := Finset.mem_range.1 hm
    have hold := hnone m hm'
    have hle := (hinv.stamps m hm').2
    rw [Finset.mem_range]
    omega
  have hinj : ∀ k ∈ Finset.range 1250, ∀ m ∈ Finset.range 1250,
      ((s.charItems.slots (cell k)).stamp - stamp - 1).toNat =
        ((s.charItems.slots (cell m)).stamp - stamp - 1).toNat → k = m := by
    intro k hk m hm heq
    have hk' := Finset.mem_range.1 hk
    have hm' := Finset.mem_range.1 hm
    have holdk := hnone k hk'
    have holdm := hnone m hm'
    exact hinv.distinct k hk' m hm' (by omega) (by omega)
  have hcard := Finset.card_le_card_of_injOn _ hmaps hinj
  rw [Finset.card_range, Finset.card_range] at hcard
  omega

theorem Found.same (h : Found s s' n g) : s'.lost = s.lost ∧ s'.held = s.held := by
  rw [h.eq]
  exact ⟨rfl, rfl⟩

theorem Sent.lost_iff (h : Sent v2 s s' n g) : s'.lost = false ↔ s.lost = false ∧ g.Sendable v2 := by
  rw [h.eq]
  simp [sendChar]

theorem Sent.held (h : Sent v2 s s' n g) (hg : g.Sendable v2) : s'.held (cell n) = some g := by
  rw [h.eq]
  simp [sendChar, hg]

/-- A cell that has been used lately is left as it is. -/
structure Kept (stamp : Int) (s s' : GlyphCaches) (m : Nat) : Prop where
  late : stamp < (s'.charItems.slots (cell m)).stamp
  content : (s'.charItems.slots (cell m)).content = (s.charItems.slots (cell m)).content
  filled : (s'.charItems.slots (cell m)).filled = (s.charItems.slots (cell m)).filled
  held : s'.held (cell m) = s.held (cell m)

theorem addChar_inv (hinv : s.Inv) (hlimit : s.charItems.stamp < 0x7fffffff) :
    (s.xrdpCacheAddChar v2 g).2.Inv ∧
      (s.xrdpCacheAddChar v2 g).2.charItems.stamp = s.charItems.stamp + 1 ∧
      (s.lost = true → (s.xrdpCacheAddChar v2 g).2.lost = true) := by
  obtain ⟨n, hn, -, hfound | hsent⟩ := addChar_cases hinv hlimit v2 g
  · refine ⟨hfound.inv hinv, hfound.used.stamp, fun hlost => ?_⟩
    rw [hfound.eq]
    exact hlost
  · refine ⟨hsent.inv hn hinv, hsent.used.stamp, fun hlost => ?_⟩
    rw [hsent.eq]
    simp [sendChar, hlost]

theorem addChar_kept {stamp : Int} (hinv : s.Inv) (hlimit : s.charItems.stamp < 0x7fffffff)
    (hstamp : 0 ≤ stamp) (hfew : s.charItems.stamp - stamp < 1250) {m : Nat}
    (hlate : stamp < (s.charItems.slots (cell m)).stamp) (hm : m < 1250) :
    Kept stamp s (s.xrdpCacheAddChar v2 g).2 m := by
  obtain ⟨n, hn, -, hfound | hsent⟩ := addChar_cases hinv hlimit v2 g
  · refine ⟨?_, (hfound.slot _).1, (hfound.slot _).2, by rw [hfound.eq]⟩
    rcases eq_or_ne (cell m) (cell n) with heq | hne
    · have hle := (hinv.stamps m hm).2
      rw [heq, hfound.used.self]
      omega
    · rw [hfound.used.other _ hne]
      exact hlate
  · -- the cell that is taken has not been used lately
    obtain ⟨old, hold, hle⟩ := hinv.exists_old hstamp hfew
    have hne : cell m ≠ cell n := by
      intro heq
      have hleast := hsent.least old hold
      rw [← heq] at hleast
      omega
    refine ⟨?_, ?_, ?_, ?_⟩
    · rw [hsent.used.other _ hne]
      exact hlate
    · rw [hsent.used.other _ hne]
    · rw [hsent.used.other _ hne]
    · rw [hsent.eq, sendChar]
      dsimp only
      split
      · exact Function.update_of_ne hne _ _
      · rfl

theorem addAll_cons (gs : List Glyph) : s.addAll v2 (g :: gs) = (s.xrdpCacheAddChar v2 g).2.addAll v2 gs := rfl

theorem addAll_inv {gs : List Glyph} (hinv : s.Inv) (hlimit : s.charItems.stamp + gs.length ≤ 0x7fffffff) :
    (s.addAll v2 gs).Inv ∧ (s.lost = true → (s.addAll v2 gs).lost = true) := by
  induction gs generalizing s with
  | nil => exact ⟨hinv, id⟩
  | cons g gs ih =>
    rw [List.length_cons] at hlimit
    obtain ⟨hinv', hstamp, hlost⟩ := @addChar_inv v2 s g hinv (by omega)
    obtain ⟨hrest, hlost'⟩ := ih hinv' (by omega)
    exact ⟨hrest, fun h => hlost' (hlost h)⟩

theorem addAll_stamp {gs : List Glyph} (hinv : s.Inv) (hlimit : s.charItems.stamp + gs.length ≤ 0x7fffffff) :
    (s.addAll v2 gs).charItems.stamp = s.charItems.stamp + gs.length := by
  induction gs generalizing s with
  | nil => exact (Int.add_zero _).symm
  | cons g gs ih =>
    rw [List.length_cons] at hlimit ⊢
    obtain ⟨hinv', hstamp, -⟩ := @addChar_inv v2 s g hinv (by omega)
    rw [addAll_cons, ih hinv' (by omega), hstamp]
    omega

theorem addAll_kept {stamp : Int} {gs : List Glyph} (hinv : s.Inv)
    (hlimit : s.charItems.stamp + gs.length ≤ 0x7fffffff) (hstamp : 0 ≤ stamp)
    (hfew : s.charItems.stamp + gs.length - stamp ≤ 1250) {m : Nat}
    (hlate : stamp < (s.charItems.slots (cell m)).stamp) (hm : m < 1250) : Kept stamp s (s.addAll v2 gs) m := by
  induction gs generalizing s with
  | nil => exact ⟨hlate, rfl, rfl, rfl⟩
  | cons g gs ih =>
    rw [List.length_cons] at hlimit hfew
    obtain ⟨hinv', hstamp', -⟩ := @addChar_inv v2 s g hinv (by omega)
    have hfirst := @addChar_kept v2 s g stamp hinv (by omega) hstamp (by omega) m hlate hm
    have hrest := ih hinv' (by omega) (by omega) hfirst.late
    exact ⟨hrest.late, hrest.content.trans hfirst.content, hrest.filled.trans hfirst.filled,
      hrest.held.trans hfirst.held⟩

/-- **The cells of a text**: in the end the client has all its glyphs in one cache just if each is found
there or put there. -/
theorem places_iff {stamp : Int} {f : Nat} {gs : List Glyph} (hinv : s.Inv)
    (hlimit : s.charItems.stamp + gs.length ≤ 0x7fffffff) (hstamp : 0 ≤ stamp)
    (hbegin : stamp ≤ s.charItems.stamp) (hfew : s.charItems.stamp + gs.length - stamp ≤ 1250) :
    ((s.addAll v2 gs).lost = false ∧
        List.Forall₂ (fun i g => (s.addAll v2 gs).held (f * 256 + i % 256) = some g) (s.places v2 gs) gs) ↔
      s.lost = false ∧ Fits v2 f s gs := by
  induction gs generalizing s with
  | nil => simp [addAll, places, Fits]
  | cons g gs ih =>
    rw [List.length_cons] at hlimit hfew
    obtain ⟨hinv', hstamp', hlost'⟩ := @addChar_inv v2 s g hinv (by omega)
    obtain ⟨n, hn, hi, hcase⟩ := addChar_cases hinv (by omega) v2 g
    have hplaces : s.places v2 (g :: gs) = cell n :: (s.xrdpCacheAddChar v2 g).2.places v2 gs := by
      rw [places, hi]
    have hrest := @ih (s.xrdpCacheAddChar v2 g).2 hinv' (by omega) (by omega) (by omega)
    rw [addAll_cons, hplaces, List.forall₂_cons, and_left_comm, hrest, Fits]
    generalize (s.xrdpCacheAddChar v2 g).2 = s₁ at hinv' hstamp' hlost' hcase hrest ⊢
    have hself : (s₁.charItems.slots (cell n)).stamp = s.charItems.stamp + 1 := by
      rcases hcase with hfound | hsent
      · exact hfound.used.self
      · exact hsent.used.self
    have hkept := @addAll_kept v2 s₁ stamp gs hinv' (by omega) hstamp (by omega) n (by omega) hn
    have hcontent : (s₁.charItems.slots (cell n)).content = g := by
      rcases hcase with hfound | hsent
      · rw [(hfound.slot _).1]
        exact hfound.content
      · exact hsent.self.1
    constructor
    · rintro ⟨hheld, hlost, hfits⟩
      -- the cell that the client looks at holds the glyph, and is the one where it was found or put
      have hend := (@addAll_inv v2 s₁ gs hinv' (by omega)).1
      have hmirrors := hend.mirrors (hrest.2 ⟨hlost, hfits⟩).1
      have hfilled : ((s₁.addAll v2 gs).charItems.slots (f * 256 + cell n % 256)).filled = true := by
        by_contra hnot
        rw [(hmirrors.blank _ (by simpa using hnot)).2] at hheld
        cases hheld
      have hsame := hmirrors.sent _ hfilled id
      rw [hheld, Option.some.injEq] at hsame
      obtain ⟨m, hm, hcell⟩ := hend.filled _ hfilled
      rw [hcell] at hfilled hsame
      have hmn := hend.unique m hm n hn hfilled (by rw [← hsame, hkept.content, hcontent])
      rw [hmn] at hcell hfilled
      have hf : cell n / 256 = f := by omega
      rw [hkept.filled] at hfilled
      rcases hcase with hfound | hsent
      · rw [hfound.find]
        rw [(hfound.slot _).2] at hfilled
        exact ⟨hfound.same.1 ▸ hlost, ⟨hf, hfilled⟩, hfits⟩
      · rw [hsent.find, hsent.oldest]
        obtain ⟨hlost, hsendable⟩ := hsent.lost_iff.1 hlost
        exact ⟨hlost, ⟨hf, hsendable⟩, hfits⟩
    · rintro ⟨hlost, hmatch, hfits⟩
      rcases hcase with hfound | hsent
      · rw [hfound.find] at hmatch
        obtain ⟨hf, hfilled⟩ := hmatch
        have hcell : f * 256 + cell n % 256 = cell n := by omega
        have hheld := (hinv.mirrors hlost).sent _ hfilled id
        rw [hcell, hkept.held, hfound.same.1, hfound.same.2, hheld, hfound.content]
        exact ⟨rfl, hlost, hfits⟩
      · rw [hsent.find, hsent.oldest] at hmatch
        obtain ⟨hf, hsendable⟩ := hmatch
        have hcell : f * 256 + cell n % 256 = cell n := by omega
        rw [hcell, hkept.held]
        exact ⟨hsent.held hsendable, hsent.lost_iff.2 ⟨hlost, hsendable⟩, hfits⟩

end Steps

end GlyphCaches

end Xrdp.GlyphCache
