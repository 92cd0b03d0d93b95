import Xrdp.Cache.GlyphCache
import Xrdp.Orders.Drawing
import Xrdp.Painter.DirtyRegion

/-!
# Text for a client with orders

`xrdp_painter_draw_text` of `xrdp/xrdp_painter.c`: the glyphs of a text are looked up in the glyph caches,
and each visible rectangle gets an order that names one cache, and pairs of an index and an advance.

* `drawText` — what is sent.
* `TextOrder.read` — what the client draws then.
* `TextRight` — the client draws the glyphs of the text, one behind the other.
* `text_right_iff` — it does so just if the text has at most 127 characters, its advances are bytes, and
  all its glyphs come to be in one cache, each sent.  One length byte and one cache are all that an
  order has.

Left out: the fields of the order that say where it is clipped, windows that nothing is drawn to, and
glyphs that a module sends by itself.
-/

namespace Xrdp.GlyphText

open Runs Painter GlyphCache

/-- What the client has said. -/
structure Env where
  useCacheGlyphV2 : Bool
  maxFastpathFragBytes : Int

/-- `MAX_ORDERS_SIZE`. -/
def Env.maxOrdersSize (env : Env) : Int := max env.maxFastpathFragBytes (16 * 1024) - 256

def NUM_FONTS : Nat := 0x4e00

/-- `FONT_DATASIZE`. -/
def datasize (item : FontChar) : Int := (item.height * (item.width + 7).tdiv 8 + 3) / 4 * 4

/-- The data of a character has been read from the font. -/
def Loaded (item : FontChar) : Prop := (item.data.length : Int) = datasize item

instance (item : FontChar) : Decidable (Loaded item) := by
  unfold Loaded
  infer_instance

def glyphOf (item : FontChar) : Glyph := ⟨item.offset, item.baseline, item.width, item.height, item.data⟩

/-- The variables of the loop over the characters. -/
structure Loop where
  cache : GlyphCaches
  f : Nat
  k : Int
  totalWidth : Int
  totalHeight : Int
  data : List UInt8

/-- A number in one byte. -/
def byte (v : Int) : UInt8 := UInt8.ofNat (v % 256).toNat

/-- One character; there is no result for one outside of the font, one without its data, or a stamp
that overflows. -/
def charStep (env : Env) (font : Font) (l : Loop) (wchar : Nat) : Option Loop :=
  if wchar < NUM_FONTS ∧ Loaded (font wchar) ∧ l.cache.charItems.stamp < 0x7fffffff then
    let item := font wchar
    let added := l.cache.xrdpCacheAddChar env.useCacheGlyphV2 (glyphOf item)
    some {
      cache := added.2
      f := added.1 / 256
      k := item.incby
      totalWidth := l.totalWidth + item.incby
      totalHeight := max l.totalHeight item.height
      data := l.data ++ [byte (added.1 % 256 : Nat), byte l.k] }
  else none

/-- The order of `libxrdp_orders_text`: `x` and `y` in two bytes each, and a length and the data. -/
structure TextOrder where
  font : Nat
  x : Int
  y : Int
  text : List UInt8

def libxrdpOrdersText (env : Env) (font : Nat) (x y : Int) (data : List UInt8) : Option TextOrder :=
  if 44 + data.length > env.maxOrdersSize then none
  else some ⟨font, x.bmod (2 ^ 16), y.bmod (2 ^ 16), Orders.outLe 1 data.length ++ data⟩

/-- `xrdp_painter_draw_text` at `x`, `y` of the screen, with the visible rectangles. -/
def drawText (env : Env) (font : Font) (cache : GlyphCaches) (wstr : List Nat) (x y : Int)
    (draws : List Pictures.Rect) : Option (GlyphCaches × List TextOrder) :=
  if wstr.length < 1 then some (cache, [])
  else do
    let l ← wstr.foldlM (charStep env font) ⟨cache, 0, 0, 0, 0, []⟩
    return (l.cache, draws.filterMap fun _ => libxrdpOrdersText env l.f x (y + l.totalHeight) l.data)

/-! ## The client -/

/-- What is drawn, and where. -/
structure Drawn where
  glyph : Option Glyph
  x : Int
  y : Int
  deriving DecidableEq

/-- Pairs of an index and an advance. -/
def readPairs : List UInt8 → List (UInt8 × UInt8)
  | index :: advance :: rest => (index, advance) :: readPairs rest
  | _ => []

/-- The pairs are drawn one behind the other. -/
def drawPairs (held : Nat → Option Glyph) (font : Nat) (y : Int) : Int → List (UInt8 × UInt8) → List Drawn
  | _, [] => []
  | x, (index, advance) :: rest =>
    ⟨held (font * 256 + index.toNat), x + advance.toNat, y⟩ ::
      drawPairs held font y (x + advance.toNat) rest

/-- A client draws an order. -/
def TextOrder.read (held : Nat → Option Glyph) (t : TextOrder) : List Drawn :=
  match t.text with
  | [] => []
  | length :: data => drawPairs held t.font t.y t.x (readPairs (data.take length.toNat))

/-- The glyphs of a text, one behind the other. -/
def shown (y : Int) : Int → List FontChar → List Drawn
  | _, [] => []
  | x, item :: items => ⟨some (glyphOf item), x, y⟩ :: shown y (x + item.incby) items

/-! ## What is promised -/

/-- Each visible rectangle gets an order that the client draws the text for. -/
def TextRight (env : Env) (font : Font) (cache : GlyphCaches) (wstr : List Nat) (x y : Int)
    (draws : List Pictures.Rect) : Prop :=
  ∃ cache' orders, drawText env font cache wstr x y draws = some (cache', orders) ∧
    (wstr ≠ [] → orders.length = draws.length) ∧
    ∀ t ∈ orders, cache'.lost = false ∧
      t.read cache'.held = shown (y + totalHeight (wstr.map font)) x (wstr.map font)

/-! ## When it holds -/

/-- A number of two bytes. -/
def Short (v : Int) : Prop := -0x8000 ≤ v ∧ v < 0x8000

/-- A text that can be drawn by one order. -/
structure OrderFits (env : Env) (cache : GlyphCaches) (items : List FontChar) (x y : Int) : Prop where
  length : items.length ≤ 127
  x : Short x
  y : Short (y + totalHeight items)
  advances : ∀ item ∈ items.dropLast, 0 ≤ item.incby ∧ item.incby ≤ 255
  lost : cache.lost = false
  oneCache : ∃ f, cache.Fits env.useCacheGlyphV2 f (items.map glyphOf)

/-- All characters are in the font, and the text can be drawn by one order, if any of it is visible. -/
def TextFits (env : Env) (font : Font) (cache : GlyphCaches) (wstr : List Nat) (x y : Int)
    (draws : List Pictures.Rect) : Prop :=
  wstr = [] ∨
    (∀ wchar ∈ wstr, wchar < NUM_FONTS ∧ Loaded (font wchar)) ∧
      cache.charItems.stamp + wstr.length ≤ 0x7fffffff ∧
      (draws = [] ∨ OrderFits env cache (wstr.map font) x y)

/-! ## The loop -/

/-- The data of an order, the advance of each pair that of the character before. -/
def pairsOf : Int → List Nat → List FontChar → List (UInt8 × UInt8)
  | k, i :: is, item :: items => (byte (i % 256 : Nat), byte k) :: pairsOf item.incby is items
  | _, _, _ => []

/-- Pairs as bytes. -/
def flat (ps : List (UInt8 × UInt8)) : List UInt8 := ps.flatMap fun p => [p.1, p.2]

theorem readPairs_flat (ps : List (UInt8 × UInt8)) : readPairs (flat ps) = ps := by
  induction ps with
  | nil => rfl
  | cons p ps ih =>
    have hflat : flat (p :: ps) = p.1 :: p.2 :: flat ps := rfl
    rw [hflat, readPairs, ih]

theorem flat_length (ps : List (UInt8 × UInt8)) : (flat ps).length = 2 * ps.length := by
  induction ps with
  | nil => rfl
  | cons p ps ih =>
    have hflat : flat (p :: ps) = p.1 :: p.2 :: flat ps := rfl
    rw [hflat]
    simp only [List.length_cons, ih]
    omega

theorem take_flat (n : Nat) (ps : List (UInt8 × UInt8)) : (flat ps).take (2 * n) = flat (ps.take n) := by
  induction n generalizing ps with
  | zero => rfl
  | succ n ih =>
    cases ps with
    | nil => rfl
    | cons p ps =>
      have hflat (ps : List (UInt8 × UInt8)) : flat (p :: ps) = p.1 :: p.2 :: flat ps := rfl
      rw [hflat, List.take_succ_cons, hflat, ← ih]
      rfl

section Loops

variable {env : Env} {font : Font}

/-- A text has a result just if all its characters are in the font, and the stamp does not overflow. -/
theorem foldlM_isSome {l : Loop} {wstr : List Nat} (hinv : l.cache.Inv)
    (hlimit : l.cache.charItems.stamp ≤ 0x7fffffff) :
    (∃ l', wstr.foldlM (charStep env font) l = some l') ↔
      (∀ wchar ∈ wstr, wchar < NUM_FONTS ∧ Loaded (font wchar)) ∧
        l.cache.charItems.stamp + wstr.length ≤ 0x7fffffff := by
  induction wstr generalizing l with
  | nil => simpa using hlimit
  | cons wchar wstr ih =>
    rw [List.foldlM_cons, List.forall_mem_cons, List.length_cons]
    by_cases hstep : wchar < NUM_FONTS ∧ Loaded (font wchar) ∧ l.cache.charItems.stamp < 0x7fffffff
    · obtain ⟨hinv', hstamp, -⟩ :=
        @GlyphCaches.addChar_inv env.useCacheGlyphV2 l.cache (glyphOf (font wchar)) hinv hstep.2.2
      rw [charStep, if_pos hstep]
      refine (ih hinv' (by dsimp only; omega)).trans ?_
      dsimp only
      have hfirst : wchar < NUM_FONTS ∧ Loaded (font wchar) := ⟨hstep.1, hstep.2.1⟩
      rw [hstamp, and_assoc, and_iff_right hfirst]
      refine and_congr_right fun _ => ?_
      omega
    · rw [charStep, if_neg hstep]
      refine iff_of_false (fun ⟨_, h⟩ => nomatch h) ?_
      rintro ⟨⟨⟨hlow, hloaded⟩, -⟩, hroom⟩
      exact hstep ⟨hlow, hloaded, by omega⟩

/-- What the loop comes to. -/
structure Looped (env : Env) (l l' : Loop) (items : List FontChar) : Prop where
  cache : l'.cache = l.cache.addAll env.useCacheGlyphV2 (items.map glyphOf)
  f : items ≠ [] → ∃ i ∈ l.cache.places env.useCacheGlyphV2 (items.map glyphOf), l'.f = i / 256
  data : l'.data =
    l.data ++ flat (pairsOf l.k (l.cache.places env.useCacheGlyphV2 (items.map glyphOf)) items)
  totalHeight : l'.totalHeight = items.foldl (fun h item => max h item.height) l.totalHeight

theorem foldlM_looped {l l' : Loop} {wstr : List Nat} (h : wstr.foldlM (charStep env font) l = some l') :
    Looped env l l' (wstr.map font) := by
  induction wstr generalizing l with
  | nil =>
    cases h
    exact ⟨rfl, fun hnil => absurd rfl hnil, (List.append_nil _).symm, rfl⟩
  | cons wchar wstr ih =>
    rw [List.foldlM_cons, charStep] at h
    split at h
    · obtain ⟨hcache, hf, hdata, hheight⟩ := ih h
      dsimp only at hcache hf hdata hheight
      refine ⟨hcache, fun _ => ?_, ?_, hheight⟩
      · rw [List.map_cons, List.map_cons, GlyphCaches.places]
        by_cases hnil : wstr = []
        · subst hnil
          cases h
          exact ⟨_, List.mem_cons_self, rfl⟩
        · obtain ⟨i, hi, heq⟩ := hf (by simpa using hnil)
          exact ⟨i, List.mem_cons_of_mem _ hi, heq⟩
      · rw [hdata, List.append_assoc]
        rfl
    · cases h

theorem places_length (v2 : Bool) (s : GlyphCaches) (gs : List Glyph) : (s.places v2 gs).length = gs.length := by
  induction gs generalizing s with
  | nil => rfl
  | cons g gs ih => simp [GlyphCaches.places, ih]

theorem pairsOf_length {k : Int} {is : List Nat} {items : List FontChar} (h : is.length = items.length) :
    (pairsOf k is items).length = items.length := by
  induction is generalizing k items with
  | nil =>
    rw [List.eq_nil_of_length_eq_zero h.symm]
    rfl
  | cons i is ih =>
    cases items with
    | nil => cases h
    | cons item items => simp [pairsOf, ih (Nat.succ.inj h)]

/-- Glyphs that are found in one cache are all in it. -/
theorem places_of_fits {v2 : Bool} {f : Nat} {s : GlyphCaches} {gs : List Glyph} (h : s.Fits v2 f gs) :
    ∀ i ∈ s.places v2 gs, i / 256 = f := by
  induction gs generalizing s with
  | nil => exact fun _ hi => nomatch hi
  | cons g gs ih =>
    obtain ⟨hfirst, hrest⟩ := h
    rw [GlyphCaches.places, List.forall_mem_cons]
    refine ⟨?_, ih hrest⟩
    have hfind : findChar (tick s.charItems) g = findChar s.charItems g := rfl
    unfold GlyphCaches.xrdpCacheAddChar
    dsimp only
    rw [hfind]
    cases hfound : findChar s.charItems g with
    | some i =>
      rw [hfound] at hfirst
      exact hfirst.1
    | none =>
      rw [hfound] at hfirst
      exact hfirst.1

end Loops

/-! ## What the client draws -/

theorem byte_toNat (v : Int) : ((byte v).toNat : Int) = v % 256 := by
  have hlow := Int.emod_nonneg v (by decide : (256 : Int) ≠ 0)
  have hhigh := Int.emod_lt_of_pos v (by decide : (0 : Int) < 256)
  have hlt : (v % 256).toNat < 256 := by omega
  rw [byte, UInt8.toNat_ofNat', Nat.mod_eq_of_lt (by simpa using hlt)]
  omega

theorem drawPairs_length (held : Nat → Option Glyph) (font : Nat) (y x : Int) (ps : List (UInt8 × UInt8)) :
    (drawPairs held font y x ps).length = ps.length := by
  induction ps generalizing x with
  | nil => rfl
  | cons p ps ih => simp [drawPairs, ih]

theorem shown_length (y x : Int) (items : List FontChar) : (shown y x items).length = items.length := by
  induction items generalizing x with
  | nil => rfl
  | cons item items ih => simp [shown, ih]

/-- The client draws the text just if it has the glyphs, and the advances are bytes. -/
theorem drawPairs_iff {held : Nat → Option Glyph} {font : Nat} {y k x x' : Int} {is : List Nat}
    {items : List FontChar} (hlength : is.length = items.length) (hx : x' + (byte k).toNat = x) :
    drawPairs held font y x' (pairsOf k is items) = shown y x items ↔
      List.Forall₂ (fun i g => held (font * 256 + i % 256) = some g) is (items.map glyphOf) ∧
        ∀ item ∈ items.dropLast, 0 ≤ item.incby ∧ item.incby ≤ 255 := by
  induction is generalizing k x x' items with
  | nil =>
    rw [List.eq_nil_of_length_eq_zero hlength.symm]
    simp [pairsOf, drawPairs, shown]
  | cons i is ih =>
    cases items with
    | nil => cases hlength
    | cons item items =>
      have hindex : (byte (i % 256 : Nat)).toNat = i % 256 := by
        have hbyte := byte_toNat (i % 256 : Nat)
        omega
      have hadvance := byte_toNat item.incby
      have hhead : (⟨held (font * 256 + i % 256), x, y⟩ : Drawn) = ⟨some (glyphOf item), x, y⟩ ↔
          held (font * 256 + i % 256) = some (glyphOf item) := by simp
      rw [pairsOf, drawPairs, shown, hindex, hx, List.cons_eq_cons, hhead, List.map_cons, List.forall₂_cons,
        and_assoc]
      refine and_congr_right fun _ => ?_
      cases items with
      | nil =>
        rw [List.eq_nil_of_length_eq_zero (Nat.succ.inj hlength)]
        simp [pairsOf, drawPairs, shown]
      | cons item' items =>
        rw [List.dropLast_cons_cons, List.forall_mem_cons]
        by_cases hbyte : 0 ≤ item.incby ∧ item.incby ≤ 255
        · rw [ih (Nat.succ.inj hlength) (by omega), and_iff_right hbyte]
        · -- the next glyph is drawn at another place
          refine iff_of_false (fun heq => ?_) fun hall => hbyte hall.2.1
          cases is with
          | nil => cases hlength
          | cons i' is =>
            rw [pairsOf, drawPairs, shown, List.cons_eq_cons, Drawn.mk.injEq] at heq
            omega

theorem bmod_short {v : Int} : v.bmod (2 ^ 16) = v ↔ Short v := by
  unfold Short
  constructor
  · intro h
    have hlow := @Int.le_bmod v (2 ^ 16) (by decide)
    have hhigh := @Int.bmod_lt v (2 ^ 16) (by decide)
    omega
  · intro h
    exact Int.bmod_eq_of_le (by omega) (by omega)

section Read

variable {env : Env} {cache : GlyphCaches} {items : List FontChar} {x y : Int}

/-- The order of a text that has been looked up. -/
def orderOf (env : Env) (f : Nat) (cache : GlyphCaches) (items : List FontChar) (x y : Int) :
    Option TextOrder :=
  libxrdpOrdersText env f x (y + totalHeight items)
    (flat (pairsOf 0 (cache.places env.useCacheGlyphV2 (items.map glyphOf)) items))

theorem pairs_length : (pairsOf 0 (cache.places env.useCacheGlyphV2 (items.map glyphOf)) items).length =
    items.length := by
  rw [pairsOf_length]
  rw [places_length, List.length_map]

/-- A client reads as many pairs as the length byte says. -/
theorem read_eq {f : Nat} {t : TextOrder} (ht : orderOf env f cache items x y = some t)
    (held : Nat → Option Glyph) : t.read held =
      drawPairs held f ((y + totalHeight items).bmod (2 ^ 16)) (x.bmod (2 ^ 16))
        ((pairsOf 0 (cache.places env.useCacheGlyphV2 (items.map glyphOf)) items).take (items.length % 128)) := by
  have hlength := @pairs_length env cache items
  unfold orderOf libxrdpOrdersText at ht
  split at ht
  · cases ht
  · generalize pairsOf 0 (cache.places env.useCacheGlyphV2 (items.map glyphOf)) items = ps at ht hlength ⊢
    cases ht
    have hbyte : Orders.outLe 1 (flat ps).length = [byte (flat ps).length] := by
      simp [Orders.outLe, Wire.leBytes, byte]
    have htoNat : (byte (flat ps).length).toNat = 2 * (items.length % 128) := by
      have hvalue := byte_toNat (flat ps).length
      rw [flat_length, hlength] at hvalue ⊢
      omega
    rw [TextOrder.read, hbyte]
    dsimp only [List.cons_append, List.nil_append]
    rw [htoNat, take_flat, readPairs_flat]

/-- A text that is not empty and has been looked up: the client draws it just if an order can draw it. -/
theorem orders_right_iff {f : Nat} (hinv : cache.Inv)
    (hlimit : cache.charItems.stamp + items.length ≤ 0x7fffffff) (hnonempty : items ≠ [])
    (hf : ∃ i ∈ cache.places env.useCacheGlyphV2 (items.map glyphOf), f = i / 256) :
    (∃ t, orderOf env f cache items x y = some t ∧
      (cache.addAll env.useCacheGlyphV2 (items.map glyphOf)).lost = false ∧
      t.read (cache.addAll env.useCacheGlyphV2 (items.map glyphOf)).held =
        shown (y + totalHeight items) x items) ↔ OrderFits env cache items x y := by
  have hplaces (hshort : items.length ≤ 127) :=
    @GlyphCaches.places_iff env.useCacheGlyphV2 cache cache.charItems.stamp f (items.map glyphOf) hinv
      (by rw [List.length_map]; omega) hinv.stamp le_rfl (by rw [List.length_map]; omega)
  have hlengths : (cache.places env.useCacheGlyphV2 (items.map glyphOf)).length = items.length := by
    rw [places_length, List.length_map]
  have hpairs := @pairs_length env cache items
  constructor
  · rintro ⟨t, ht, hlost, hread⟩
    rw [read_eq ht] at hread
    have hshort : items.length ≤ 127 := by
      have hcount := congrArg List.length hread
      rw [drawPairs_length, shown_length, List.length_take, hpairs] at hcount
      omega
    rw [List.take_of_length_le (by omega)] at hread
    obtain ⟨item, rest, rfl⟩ := List.exists_cons_of_ne_nil hnonempty
    have hfirst : x.bmod (2 ^ 16) = x ∧ (y + totalHeight (item :: rest)).bmod (2 ^ 16) =
        y + totalHeight (item :: rest) := by
      cases hcells : cache.places env.useCacheGlyphV2 ((item :: rest).map glyphOf) with
      | nil =>
        rw [hcells] at hlengths
        cases hlengths
      | cons i is =>
        rw [hcells, pairsOf, drawPairs, shown, List.cons_eq_cons, Drawn.mk.injEq] at hread
        have hzero : ((byte 0).toNat : Int) = 0 := rfl
        rw [hzero, Int.add_zero] at hread
        exact hread.1.2
    rw [hfirst.1, hfirst.2, drawPairs_iff hlengths (by rw [show ((byte 0).toNat : Int) = 0 from rfl,
      Int.add_zero])] at hread
    obtain ⟨hkept, hfits⟩ := (hplaces hshort).1 ⟨hlost, hread.1⟩
    exact ⟨hshort, bmod_short.1 hfirst.1, bmod_short.1 hfirst.2, hread.2, hkept, f, hfits⟩
  · rintro ⟨hshort, hx, hy, hadvances, hlost, f', hfits⟩
    obtain ⟨i, hi, rfl⟩ := hf
    rw [← places_of_fits hfits i hi] at hfits
    obtain ⟨hlost', hheld⟩ := (hplaces hshort).2 ⟨hlost, hfits⟩
    have hroom : ¬ 44 + ((flat (pairsOf 0 (cache.places env.useCacheGlyphV2 (items.map glyphOf)) items)).length : Int) >
        env.maxOrdersSize := by
      rw [flat_length, hpairs, Env.maxOrdersSize]
      omega
    have ht : orderOf env (i / 256) cache items x y = some _ := if_neg hroom
    refine ⟨_, ht, hlost', ?_⟩
    rw [read_eq ht, List.take_of_length_le (by omega), bmod_short.2 hx, bmod_short.2 hy]
    refine (drawPairs_iff hlengths ?_).2 ⟨hheld, hadvances⟩
    rw [show ((byte 0).toNat : Int) = 0 from rfl, Int.add_zero]

end Read

/-! ## Texts -/

/-- The order of each visible rectangle. -/
theorem drawText_eq {env : Env} {font : Font} {cache : GlyphCaches} {wstr : List Nat} {x y : Int}
    {draws : List Pictures.Rect} (hnonempty : wstr ≠ []) {l : Loop}
    (hl : wstr.foldlM (charStep env font) ⟨cache, 0, 0, 0, 0, []⟩ = some l) :
    drawText env font cache wstr x y draws = some (cache.addAll env.useCacheGlyphV2 ((wstr.map font).map glyphOf),
      draws.filterMap fun _ => orderOf env l.f cache (wstr.map font) x y) := by
  obtain ⟨hcache, -, hdata, hheight⟩ := foldlM_looped hl
  have hlength : ¬ wstr.length < 1 := by
    rw [Nat.lt_one_iff]
    exact fun h => hnonempty (List.eq_nil_of_length_eq_zero h)
  dsimp only at hcache hdata hheight
  rw [List.nil_append] at hdata
  rw [drawText, if_neg hlength, hl]
  simp only [Option.bind_eq_bind, Option.bind_some, Option.pure_def, hcache, hdata, hheight]
  rfl

/-- **A text** is drawn by the client just if it fits. -/
theorem text_right_of_inv {env : Env} {font : Font} {cache : GlyphCaches} {wstr : List Nat} {x y : Int}
    {draws : List Pictures.Rect} (hinv : cache.Inv) (hlimit : cache.charItems.stamp ≤ 0x7fffffff) :
    TextRight env font cache wstr x y draws ↔ TextFits env font cache wstr x y draws := by
  by_cases hnil : wstr = []
  · subst hnil
    exact iff_of_true ⟨cache, [], rfl, fun h => absurd rfl h, fun _ ht => nomatch ht⟩ (.inl rfl)
  rw [TextRight, TextFits, or_iff_right hnil, ← and_assoc,
    ← @foldlM_isSome env font ⟨cache, 0, 0, 0, 0, []⟩ wstr hinv hlimit]
  have hitems : wstr.map font ≠ [] := by simpa using hnil
  constructor
  · rintro ⟨cache', orders, hrun, hcount, hread⟩
    cases hl : wstr.foldlM (charStep env font) ⟨cache, 0, 0, 0, 0, []⟩ with
    | none =>
      have hlength : ¬ wstr.length < 1 := by
        rw [Nat.lt_one_iff]
        exact fun h => hnil (List.eq_nil_of_length_eq_zero h)
      rw [drawText, if_neg hlength, hl] at hrun
      cases hrun
    | some l =>
      refine ⟨⟨l, rfl⟩, ?_⟩
      have hroom := (foldlM_isSome hinv hlimit).1 ⟨l, hl⟩
      obtain ⟨-, hf, -, -⟩ := foldlM_looped hl
      rw [drawText_eq hnil hl] at hrun
      cases hrun
      cases draws with
      | nil => exact .inl rfl
      | cons draw draws =>
        refine .inr ((orders_right_iff hinv (by simpa using hroom.2) hitems (hf hitems)).1 ?_)
        cases horder : orderOf env l.f cache (wstr.map font) x y with
        | none =>
          rw [horder] at hcount
          have hcount' := hcount hnil
          simp at hcount'
        | some t =>
          rw [horder] at hread
          exact ⟨t, rfl, hread t (by simp)⟩
  · rintro ⟨⟨l, hl⟩, hfits⟩
    have hroom := (foldlM_isSome hinv hlimit).1 ⟨l, hl⟩
    obtain ⟨-, hf, -, -⟩ := foldlM_looped hl
    refine ⟨_, _, drawText_eq hnil hl, ?_⟩
    rcases hfits with rfl | hfits
    · exact ⟨fun _ => rfl, fun _ ht => nomatch ht⟩
    · obtain ⟨t, ht, hright⟩ :=
        (orders_right_iff hinv (by simpa using hroom.2) hitems (hf hitems)).2 hfits
      rw [ht]
      refine ⟨fun _ => by simp, fun t' ht' => ?_⟩
      obtain ⟨-, -, heq⟩ := List.mem_filterMap.1 ht'
      cases heq
      exact hright

/-- A text that is drawn. -/
structure Text where
  font : Font
  wstr : List Nat
  x : Int
  y : Int
  draws : List Pictures.Rect

def Next (env : Env) (cache : GlyphCaches) (t : Text) (cache' : GlyphCaches) : Prop :=
  ∃ orders, drawText env t.font cache t.wstr t.x t.y t.draws = some (cache', orders)

/-- What there is at any time, with a stamp that has not overflowed. -/
def Good (cache : GlyphCaches) : Prop := cache.Inv ∧ cache.charItems.stamp ≤ 0x7fffffff

theorem good_next {env : Env} {cache cache' : GlyphCaches} {t : Text} (h : Good cache)
    (hnext : Next env cache t cache') : Good cache' := by
  obtain ⟨hinv, hlimit⟩ := h
  obtain ⟨orders, hrun⟩ := hnext
  by_cases hnil : t.wstr = []
  · rw [hnil] at hrun
    cases hrun
    exact ⟨hinv, hlimit⟩
  cases hl : t.wstr.foldlM (charStep env t.font) ⟨cache, 0, 0, 0, 0, []⟩ with
  | none =>
    have hlength : ¬ t.wstr.length < 1 := by
      rw [Nat.lt_one_iff]
      exact fun h => hnil (List.eq_nil_of_length_eq_zero h)
    rw [drawText, if_neg hlength, hl] at hrun
    cases hrun
  | some l =>
    have hroom := ((foldlM_isSome hinv hlimit).1 ⟨l, hl⟩).2
    rw [drawText_eq hnil hl] at hrun
    cases hrun
    exact ⟨(GlyphCaches.addAll_inv hinv (by simpa using hroom)).1, by
      rw [GlyphCaches.addAll_stamp hinv (by simpa using hroom)]
      simpa using hroom⟩

/-- **Texts and glyphs**: after any texts, the client draws a text just if it fits. -/
theorem text_right_iff (env : Env) (before : List Text) (cache : GlyphCaches)
    (h : Leads (Next env) .create before cache) (t : Text) :
    TextRight env t.font cache t.wstr t.x t.y t.draws ↔ TextFits env t.font cache t.wstr t.x t.y t.draws := by
  have hcreate : Good .create := ⟨GlyphCaches.inv_create, by decide⟩
  obtain ⟨hinv, hlimit⟩ := @leads_inv _ _ (Next env) Good (fun _ _ _ => good_next) _ _ _ hcreate h
  exact text_right_of_inv hinv hlimit

/-- A font of two characters. -/
def fontOfAB : Font := fun wchar =>
  if wchar = 65 then ⟨0, -8, 8, 4, 9, [24, 36, 60, 36]⟩
  else if wchar = 66 then ⟨1, -8, 8, 4, 10, [56, 36, 56, 60]⟩ else ⟨0, 0, 0, 0, 0, []⟩

/-- A text of these, in a window that another one is in front of. -/
def textOfAB (wstr : List Nat) : Text := ⟨fontOfAB, wstr, 10, 20, [⟨0, 0, 320, 480⟩, ⟨330, 0, 640, 480⟩]⟩

/-- What has been kept when the first has been drawn, and when both have. -/
def cacheOfA : GlyphCaches :=
  .sendChar true { GlyphCaches.create with charItems := tick GlyphCaches.create.charItems } (cell 0)
    (glyphOf (fontOfAB 65))

def cacheOfAB : GlyphCaches :=
  .sendChar true { cacheOfA with charItems := tick cacheOfA.charItems } (cell 1) (glyphOf (fontOfAB 66))

theorem addChar_a : GlyphCaches.create.xrdpCacheAddChar true (glyphOf (fontOfAB 65)) = (cell 0, cacheOfA) := by
  refine GlyphCaches.addChar_first true (by decide) (fun m _ h => ?_) (fun _ _ _ => rfl) (by simp)
  have hblank : Glyph.zero = glyphOf (fontOfAB 65) := h
  exact absurd hblank (by decide)

theorem addChar_b : cacheOfA.xrdpCacheAddChar true (glyphOf (fontOfAB 66)) = (cell 1, cacheOfAB) := by
  have hslots : cacheOfA.charItems.slots =
      Function.update (fun _ => ⟨0, .zero, false⟩) (cell 0) ⟨1, glyphOf (fontOfAB 65), true⟩ := rfl
  have hother : ∀ m, m ≠ 0 → cacheOfA.charItems.slots (cell m) = ⟨0, .zero, false⟩ := by
    intro m hm
    rw [hslots, Function.update_of_ne (mt cell_inj hm)]
  refine GlyphCaches.addChar_first true (by decide) (fun m _ => ?_) (fun m hm _ => ?_) fun m hm => ?_
  · by_cases hm : m = 0
    · rw [hm, hslots, Function.update_self]
      decide
    · rw [hother m hm]
      decide
  · rw [hother m (by omega)]
  · obtain rfl : m = 0 := by omega
    rw [hslots, Function.update_self]
    decide

theorem text_right_iff_again : Leads (Next ⟨true, 0⟩) .create [textOfAB [65, 66]] cacheOfAB ∧
    TextRight ⟨true, 0⟩ fontOfAB cacheOfAB [66, 65, 66] 10 20 (textOfAB []).draws := by
  have hadded : GlyphCaches.create.addAll true (([65, 66].map fontOfAB).map glyphOf) = cacheOfAB := by
    rw [List.map_cons, List.map_cons, GlyphCaches.addAll_cons, congrArg Prod.snd addChar_a, List.map_cons,
      List.map_cons, GlyphCaches.addAll_cons, congrArg Prod.snd addChar_b]
    rfl
  have hleads : Leads (Next ⟨true, 0⟩) .create [textOfAB [65, 66]] cacheOfAB := by
    obtain ⟨l, hl⟩ := (@foldlM_isSome ⟨true, 0⟩ fontOfAB ⟨.create, 0, 0, 0, 0, []⟩ [65, 66]
      GlyphCaches.inv_create (by decide)).2 (by decide)
    have hrun := @drawText_eq _ _ _ _ 10 20 (textOfAB []).draws (by decide) l hl
    rw [hadded] at hrun
    exact ⟨cacheOfAB, ⟨_, hrun⟩, rfl⟩
  refine ⟨hleads, (text_right_iff ⟨true, 0⟩ _ _ hleads (textOfAB [66, 65, 66])).2 (.inr ⟨?_, ?_, .inr ?_⟩)⟩
  · decide
  · decide
  · refine ⟨by decide, ?_, ?_, by decide, rfl, 7, ?_⟩
    · unfold Short
      decide
    · unfold Short
      decide
    · -- all three are found where they have been put
      exact ⟨⟨rfl, rfl⟩, ⟨rfl, rfl⟩, ⟨rfl, rfl⟩, trivial⟩

/-- A font of one character. -/
def fontOfA : Font := fun wchar => if wchar = 65 then ⟨0, -8, 8, 4, 9, [24, 36, 60, 36]⟩ else ⟨0, 0, 0, 0, 0, []⟩

/-- The character, so many times, in a window of which all is visible. -/
def textOfA (n : Nat) : Text := ⟨fontOfA, List.replicate n 65, 10, 20, [⟨0, 0, 640, 480⟩]⟩

/-- Of 128 characters the client draws none: their length is 0 in a byte. -/
theorem text_of_128_not_right : ¬ ∀ (env : Env) (before : List Text) (cache : GlyphCaches),
    Leads (Next env) .create before cache → ∀ t : Text,
      (∀ wchar ∈ t.wstr, wchar < NUM_FONTS ∧ Loaded (t.font wchar)) →
      TextRight env t.font cache t.wstr t.x t.y t.draws := by
  intro h
  have hright := h ⟨true, 0⟩ [] .create rfl (textOfA 128) fun wchar hwchar => by
    rw [List.eq_of_mem_replicate hwchar]
    decide
  rcases (text_right_of_inv GlyphCaches.inv_create (by decide)).1 hright with hnil | ⟨-, -, hnil | hfits⟩
  · cases hnil
  · cases hnil
  · have hlength := hfits.length
    have hcount : (textOfA 128).wstr.length = 128 := List.length_replicate
    rw [List.length_map] at hlength
    omega

end Xrdp.GlyphText
