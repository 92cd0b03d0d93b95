import Xrdp.Bitmap.RleInv

/-!
# Interleaved RLE round trip

The invariant through one pixel, one line and the whole call, and what it says about the decoder.

* `endRuns_spec` — the five blocks that end runs keep the invariant and leave no run that the
  pixel does not continue.
* `pixelStep_spec`, `lineLoop_spec`, `imageLoop_spec` — one pixel, one line, all lines.
* `rle_round_trip` — the decoder reproduces the lines sent, padded with their last pixel.
-/

namespace Xrdp.Bitmap

open Wire

/-! ## Ending runs -/

section

variable {d : Depth} {w : Nat → Nat} {rowDelta n slack : Nat} {first : Bool} {st : RleSt}

theorem TailRun.zero (P : Nat → Prop) (n count : Nat) : TailRun P n count 0 :=
  ⟨Nat.zero_le _, fun i h1 h2 => by omega⟩

theorem maskBit_nil (j : Nat) : maskBit [] j = false := by simp [maskBit]

/-- After a flush nothing is pending and nothing counted. -/
theorem RleInv.fresh {s : List UInt8} {ins : Bool} {lastPixel lastYpixel bicolor1 bicolor2 : Nat}
    (hsmall : n ≤ 16384) (hside : OneSide rowDelta first n 0) (hd : Decoded d w rowDelta s n ins)
    (hins : ins = true → 0 < slack) :
    RleInv d w rowDelta first slack n
      { s, tempS := [], count := 0, colorCount := 0, lastPixel, lastYpixel, bicolorCount := 0
        bicolor1, bicolor2, bicolorSpin := false, fillCount := 0, mixCount := 0, fomCount := 0
        fomMask := [] } where
  small := hsmall
  count_le := Nat.zero_le _
  side := hside
  pending := ⟨[], rfl, rfl, by simp⟩
  decoded := ⟨ins, hd, fun h => by have := hins h; simpa using this⟩
  fill := .zero _ _ _
  fillSide := hside
  mix := .zero _ _ _
  mixSide := hside
  color := .zero _ _ _
  bicolor_le := le_rfl
  bicolor := by simp
  spin := rfl
  fom_le := le_rfl
  fomSide := hside
  fom := by simp
  fomMask_length := by simp
  fomMask_zero := fun j _ => maskBit_nil j

theorem RleInv.endFill (h : RleInv d w rowDelta first 0 n st) (hr : 0 < rowDelta)
    (hs : 0 < slack ∨ (first = true ∧ n = rowDelta)) :
    RleInv d w rowDelta first slack n (st.endFill d) := by
  by_cases hw : st.fillWins = true
  · have hpos : 0 < st.fillCount := by
      simp only [RleSt.fillWins, Bool.and_eq_true, decide_eq_true_eq] at hw
      omega
    obtain ⟨ins, hd, hi⟩ := h.flushFill hr hpos
    simp only [RleSt.endFill, hw, if_true]
    refine RleInv.fresh h.small h.side hd fun ht => ?_
    rcases hs with hs | hs
    · exact hs
    · exact absurd hs (hi ht)
  · simp only [RleSt.endFill, hw, Bool.false_eq_true, if_false]
    obtain ⟨ins, hd, hi⟩ := h.decoded
    exact { h with
      decoded := ⟨ins, hd, fun ht => by have := hi ht; simp only; omega⟩
      fill := .zero _ _ _
      fillSide := h.side }

theorem RleInv.endMix (h : RleInv d w rowDelta first slack n st) (hr : 0 < rowDelta) :
    RleInv d w rowDelta first slack n (st.endMix d) := by
  by_cases hw : st.mixWins = true
  · have hpos : 0 < st.mixCount := by
      simp only [RleSt.mixWins, Bool.and_eq_true, decide_eq_true_eq] at hw
      omega
    simp only [RleSt.endMix, hw, if_true]
    exact RleInv.fresh h.small h.side (h.flushMix hr hpos) (by simp)
  · simp only [RleSt.endMix, hw, Bool.false_eq_true, if_false]
    exact { h with mix := .zero _ _ _, mixSide := h.side }

theorem RleInv.endColor (h : RleInv d w rowDelta first slack n st) (hr : 0 < rowDelta) :
    RleInv d w rowDelta first slack n (st.endColor d) := by
  by_cases hw : st.colorWins = true
  · have hpos : 0 < st.colorCount := by
      simp only [RleSt.colorWins, Bool.and_eq_true, decide_eq_true_eq] at hw
      omega
    simp only [RleSt.endColor, hw, if_true]
    exact RleInv.fresh h.small h.side (h.flushColor hr hpos) (by simp)
  · simp only [RleSt.endColor, hw, Bool.false_eq_true, if_false]
    exact { h with color := .zero _ _ _ }

theorem RleInv.endBicolor (h : RleInv d w rowDelta first slack n st) (hr : 0 < rowDelta)
    (pixel : Nat) : RleInv d w rowDelta first slack n (st.endBicolor d pixel) := by
  by_cases hw : st.bicolorWins = true
  · have hpos : 3 < st.bicolorCount := by
      simp only [RleSt.bicolorWins, Bool.and_eq_true, decide_eq_true_eq] at hw
      omega
    simp only [RleSt.endBicolor, hw, if_true]
    exact RleInv.fresh h.small h.side (h.flushBicolor hr hpos) (by simp)
  · simp only [RleSt.endBicolor, hw, Bool.false_eq_true, if_false]
    exact { h with bicolor_le := Nat.zero_le _, bicolor := by simp, spin := rfl }

theorem RleInv.endFom (h : RleInv d w rowDelta first slack n st) (hr : 0 < rowDelta) :
    RleInv d w rowDelta first slack n (st.endFom d) := by
  by_cases hw : st.fomWins = true
  · have hpos : 0 < st.fomCount := by
      simp only [RleSt.fomWins, Bool.and_eq_true, decide_eq_true_eq] at hw
      omega
    simp only [RleSt.endFom, hw, if_true]
    exact RleInv.fresh h.small h.side (h.flushFom hr hpos) (by simp)
  · simp only [RleSt.endFom, hw, Bool.false_eq_true, if_false]
    exact { h with
      fom_le := Nat.zero_le _, fomSide := h.side, fom := by simp, fomMask_length := by simp
      fomMask_zero := fun j _ => maskBit_nil j }

/-! ## What ending runs leaves of the counters -/

/-- No run is left that the pixel does not continue. -/
structure Ended (d : Depth) (p : PixelCtx) (st : RleSt) : Prop where
  fill : testFill p = false → st.fillCount = 0
  mix : testMix d p = false → st.mixCount = 0
  color : testColor st p = false → st.colorCount = 0
  bicolor : testBicolor st p = false → st.bicolorCount = 0
  fom : testFom d p = false → st.fomCount = 0

/-- Counters of `st` that are zero are zero in `st'`, and the last pixel is the same. -/
structure Fewer (st st' : RleSt) : Prop where
  fill : st.fillCount = 0 → st'.fillCount = 0
  mix : st.mixCount = 0 → st'.mixCount = 0
  color : st.colorCount = 0 → st'.colorCount = 0
  bicolor : st.bicolorCount = 0 → st'.bicolorCount = 0
  lastPixel : st'.lastPixel = st.lastPixel

theorem Fewer.refl (st : RleSt) : Fewer st st := ⟨id, id, id, id, rfl⟩

theorem fewer_endFill (d : Depth) (st : RleSt) : Fewer st (st.endFill d) := by
  unfold RleSt.endFill
  split
  · exact ⟨fun _ => rfl, fun _ => rfl, fun _ => rfl, fun _ => rfl, rfl⟩
  · exact ⟨fun _ => rfl, id, id, id, rfl⟩

theorem fewer_endMix (d : Depth) (st : RleSt) : Fewer st (st.endMix d) := by
  unfold RleSt.endMix
  split
  · exact ⟨fun _ => rfl, fun _ => rfl, fun _ => rfl, fun _ => rfl, rfl⟩
  · exact ⟨id, fun _ => rfl, id, id, rfl⟩

theorem fewer_endColor (d : Depth) (st : RleSt) : Fewer st (st.endColor d) := by
  unfold RleSt.endColor
  split
  · exact ⟨fun _ => rfl, fun _ => rfl, fun _ => rfl, fun _ => rfl, rfl⟩
  · exact ⟨id, id, fun _ => rfl, id, rfl⟩

theorem fewer_endBicolor (d : Depth) (st : RleSt) (pixel : Nat) :
    Fewer st (st.endBicolor d pixel) := by
  unfold RleSt.endBicolor
  split
  · exact ⟨fun _ => rfl, fun _ => rfl, fun _ => rfl, fun _ => rfl, rfl⟩
  · exact ⟨id, id, id, fun _ => rfl, rfl⟩

theorem fewer_endFom (d : Depth) (st : RleSt) : Fewer st (st.endFom d) := by
  unfold RleSt.endFom
  split
  · exact ⟨fun _ => rfl, fun _ => rfl, fun _ => rfl, fun _ => rfl, rfl⟩
  · exact ⟨id, id, id, id, rfl⟩

/-- The last block takes a bicolor run away or does not touch it. -/
theorem testBicolor_endFom (d : Depth) (st : RleSt) (p : PixelCtx) :
    (st.endFom d).bicolorCount = 0 ∨ testBicolor (st.endFom d) p = testBicolor st p := by
  unfold RleSt.endFom
  split
  · exact .inl rfl
  · exact .inr rfl

/-- **Ending runs keeps the invariant**, and every run that is left goes on. -/
theorem endRuns_spec (h : RleInv d w rowDelta first 0 n st) (hr : 0 < rowDelta) (p : PixelCtx) :
    RleInv d w rowDelta first (if testFill p then 0 else 1) n (endRuns d p st) ∧
      Ended d p (endRuns d p st) ∧ (endRuns d p st).lastPixel = st.lastPixel := by
  set slack := if testFill p then 0 else 1 with hslack
  obtain ⟨st1, hst1, h1, z1, f1⟩ : ∃ st1, (if testFill p then st else st.endFill d) = st1 ∧
      RleInv d w rowDelta first slack n st1 ∧ (testFill p = false → st1.fillCount = 0) ∧
      Fewer st st1 := by
    refine ⟨_, rfl, ?_⟩
    cases ht : testFill p with
    | true =>
      rw [ht] at hslack
      exact ⟨hslack ▸ h, by simp, .refl st⟩
    | false =>
      rw [ht] at hslack
      exact ⟨h.endFill hr (.inl (by rw [hslack]; simp)), fun _ => rfl, fewer_endFill d st⟩
  obtain ⟨st2, hst2, h2, z2, f2⟩ : ∃ st2, (if testMix d p then st1 else st1.endMix d) = st2 ∧
      RleInv d w rowDelta first slack n st2 ∧ (testMix d p = false → st2.mixCount = 0) ∧
      Fewer st1 st2 := by
    refine ⟨_, rfl, ?_⟩
    cases testMix d p with
    | true => exact ⟨h1, by simp, .refl st1⟩
    | false => exact ⟨h1.endMix hr, fun _ => rfl, fewer_endMix d st1⟩
  obtain ⟨st3, hst3, h3, z3, f3⟩ : ∃ st3, (if testColor st2 p then st2 else st2.endColor d) = st3 ∧
      RleInv d w rowDelta first slack n st3 ∧ (testColor st2 p = false → st3.colorCount = 0) ∧
      Fewer st2 st3 := by
    refine ⟨_, rfl, ?_⟩
    cases testColor st2 p with
    | true => exact ⟨h2, by simp, .refl st2⟩
    | false => exact ⟨h2.endColor hr, fun _ => rfl, fewer_endColor d st2⟩
  obtain ⟨st4, hst4, h4, z4, f4⟩ : ∃ st4,
      (if testBicolor st3 p then st3 else st3.endBicolor d p.pixel) = st4 ∧
      RleInv d w rowDelta first slack n st4 ∧
      (testBicolor st4 p = false → st4.bicolorCount = 0) ∧ Fewer st3 st4 := by
    refine ⟨_, rfl, ?_⟩
    cases ht : testBicolor st3 p with
    | true => exact ⟨h3, by simp [ht], .refl st3⟩
    | false => exact ⟨h3.endBicolor hr p.pixel, fun _ => rfl, fewer_endBicolor d st3 p.pixel⟩
  obtain ⟨st5, hst5, h5, z5, f5, hb5⟩ : ∃ st5, (if testFom d p then st4 else st4.endFom d) = st5 ∧
      RleInv d w rowDelta first slack n st5 ∧ (testFom d p = false → st5.fomCount = 0) ∧
      Fewer st4 st5 ∧ (st5.bicolorCount = 0 ∨ testBicolor st5 p = testBicolor st4 p) := by
    refine ⟨_, rfl, ?_⟩
    cases testFom d p with
    | true => exact ⟨h4, by simp, .refl st4, .inr rfl⟩
    | false => exact ⟨h4.endFom hr, fun _ => rfl, fewer_endFom d st4, testBicolor_endFom d st4 p⟩
  have heq : endRuns d p st = st5 := by
    simp only [endRuns, hst1, hst2, hst3, hst4, hst5]
  rw [heq]
  have hl2 : st2.lastPixel = st.lastPixel := f2.lastPixel.trans f1.lastPixel
  have hl : st5.lastPixel = st.lastPixel :=
    f5.lastPixel.trans (f4.lastPixel.trans (f3.lastPixel.trans hl2))
  refine ⟨h5, ⟨?_, ?_, ?_, ?_, z5⟩, hl⟩
  · exact fun ht => f5.fill (f4.fill (f3.fill (f2.fill (z1 ht))))
  · exact fun ht => f5.mix (f4.mix (f3.mix (z2 ht)))
  · intro ht
    refine f5.color (f4.color (z3 ?_))
    rwa [testColor, hl2, ← hl]
  · intro ht
    rcases hb5 with hb | hb
    · exact hb
    · exact f5.bicolor (z4 (hb ▸ ht))

/-! ## The mask image -/

theorem getD_modify (l : List UInt8) (f : UInt8 → UInt8) (i j : Nat) (hi : i < l.length) :
    (l.modify i f).getD j 0 = if j = i then f (l.getD i 0) else l.getD j 0 := by
  rw [List.getD_eq_getElem?_getD, List.getElem?_modify]
  split
  · rename_i h
    subst h
    rw [if_pos rfl, List.getElem?_eq_getElem hi, List.getD_eq_getElem _ _ hi]
    rfl
  · rename_i h
    rw [if_neg (fun hj => h hj.symm), List.getD_eq_getElem?_getD]
    simp

theorem testBit_or_shift (b : UInt8) {r t : Nat} (hr : r < 8) :
    (b ||| UInt8.ofNat (1 <<< r)).toNat.testBit t = (b.toNat.testBit t || decide (t = r)) := by
  have h1 : (1 <<< r) % 2 ^ 8 = 2 ^ r := by
    rw [Nat.one_shiftLeft, Nat.mod_eq_of_lt (Nat.pow_lt_pow_right (by omega) hr)]
  rw [UInt8.toNat_or, UInt8.toNat_ofNat', h1, Nat.testBit_or, Nat.testBit_two_pow]
  congr 1
  exact decide_eq_decide.2 ⟨Eq.symm, Eq.symm⟩

/-- Pushing one bit behind the `c` bits of a mask. -/
theorem fomMaskPush_spec {mask : List UInt8} {c : Nat} (b : Bool)
    (hlen : mask.length = (c + 7) / 8) (hz : ∀ j, c ≤ j → maskBit mask j = false) :
    (fomMaskPush mask c b).length = (c + 1 + 7) / 8 ∧
      ∀ j, maskBit (fomMaskPush mask c b) j = if j = c then b else maskBit mask j := by
  -- a new byte does not change what the mask reads as
  obtain ⟨mask', hm', hlen', hbits⟩ : ∃ mask',
      (if c % 8 = 0 then mask ++ [0] else mask) = mask' ∧ mask'.length = c / 8 + 1 ∧
      ∀ j, maskBit mask' j = maskBit mask j := by
    refine ⟨_, rfl, ?_, fun j => ?_⟩
    · split
      · rw [List.length_append, List.length_singleton]
        omega
      · omega
    · split
      · unfold maskBit
        congr 2
        by_cases hj : j / 8 < mask.length
        · rw [List.getD_append _ _ _ _ hj]
        · rw [List.getD_append_right _ _ _ _ (by omega), List.getD_eq_default mask _ (by omega)]
          cases j / 8 - mask.length <;> rfl
      · rfl
  simp only [fomMaskPush, hm']
  cases b with
  | false =>
    refine ⟨by simp [hlen']; omega, fun j => ?_⟩
    simp only [Bool.false_eq_true, if_false, hbits]
    split
    · rename_i h
      exact hz j h.ge
    · rfl
  | true =>
    refine ⟨by simp [hlen']; omega, fun j => ?_⟩
    rw [if_pos rfl, hlen', Nat.add_sub_cancel]
    unfold maskBit
    rw [getD_modify _ _ _ _ (by omega)]
    have hbj := hbits j
    unfold maskBit at hbj
    by_cases hj : j / 8 = c / 8
    · rw [if_pos hj, testBit_or_shift _ (by omega), ← hj, hbj]
      by_cases hjc : j = c
      · simp [hjc]
      · have : ¬ j % 8 = c % 8 := by omega
        simp [hjc, this]
    · have hjc : ¬ j = c := by
        rintro rfl
        exact hj rfl
      rw [if_neg hj, hbj, if_neg hjc]

/-! ## One pixel -/

/-- The pixel the tests look at is pixel `n` of the image. -/
structure PixelAt (d : Depth) (w : Nat → Nat) (rowDelta : Nat) (first : Bool) (n : Nat)
    (p : PixelCtx) : Prop where
  pixel : w n = wire d p.pixel
  firstLine : p.firstLine = first
  side : first = decide (n < rowDelta)
  ypixel : wire d p.ypixel = above w rowDelta n
  yzero : first = true → p.ypixel = 0
  deep : d = .bpp15 → p.pixel < 2 ^ 15 ∧ p.ypixel < 2 ^ 15

theorem wire_xor (d : Depth) (a b : Nat) : wire d (a ^^^ b) = wire d a ^^^ wire d b := by
  have h : 256 ^ d.bytes = 2 ^ (8 * d.bytes) := by rw [Nat.pow_mul]
  unfold wire
  rw [h, Nat.xor_mod_two_pow]

theorem wire_mix {d : Depth} (h : d ≠ .bpp15) : wire d d.mix = d.white := by
  cases d with
  | bpp15 => exact absurd rfl h
  | _ => rfl

theorem PixelAt.isFill {p : PixelCtx} (h : PixelAt d w rowDelta first n p)
    (ht : testFill p = true) : IsFill w rowDelta n := by
  unfold testFill at ht
  unfold IsFill
  rw [h.firstLine] at ht
  cases hf : first with
  | true =>
    have hy := h.yzero hf
    rw [hf, if_pos rfl, beq_iff_eq] at ht
    rw [h.pixel, ht, ← h.ypixel, hy]
  | false =>
    rw [hf, if_neg (by simp), beq_iff_eq] at ht
    rw [h.pixel, ht, h.ypixel]

/-- A pixel that is the one above mixed with `mix`; never so in 15 bits. -/
theorem PixelAt.isMix {p : PixelCtx} (h : PixelAt d w rowDelta first n p)
    (ht : p.pixel = p.ypixel ^^^ d.mix) : IsMix d w rowDelta n := by
  by_cases h15 : d = .bpp15
  · obtain ⟨hp, hy⟩ := h.deep h15
    exfalso
    subst h15
    have hx : p.ypixel ^^^ p.pixel < 2 ^ 15 := Nat.xor_lt_two_pow hy hp
    rw [ht, Nat.xor_xor_cancel_left] at hx
    exact absurd hx (by decide)
  · unfold IsMix
    rw [h.pixel, ht, wire_xor, h.ypixel, wire_mix h15]

theorem PixelAt.testMix_iff {p : PixelCtx} (h : PixelAt d w rowDelta first n p) :
    testMix d p = true ↔ p.pixel = p.ypixel ^^^ d.mix := by
  unfold testMix
  rw [h.firstLine]
  cases hf : first with
  | true => simp [h.yzero hf]
  | false => simp

theorem TailRun.snoc {P : Nat → Prop} {n count c : Nat} (h : TailRun P n count c) (hn : P n) :
    TailRun P (n + 1) (count + 1) (c + 1) := by
  refine ⟨by have := h.le; omega, fun i h1 h2 => ?_⟩
  by_cases hi : i = n
  · exact hi ▸ hn
  · exact h.run i (by omega) (by omega)

theorem OneSide.snoc {c c' : Nat} (h : OneSide rowDelta first n c)
    (hn : OneSide rowDelta first (n + 1) 0) (hc : c' ≤ c + 1) :
    OneSide rowDelta first (n + 1) c' := by
  unfold OneSide at *
  cases first <;> simp at * <;> omega

/-- **Counting a pixel keeps the invariant** when no run is left that it does not continue. -/
theorem countPixel_spec {p : PixelCtx} (h : RleInv d w rowDelta first slack n st)
    (he : Ended d p st) (hp : PixelAt d w rowDelta first n p)
    (hs : slack = if testFill p then 0 else 1) (hsmall : n + 1 ≤ 16384)
    (hside : OneSide rowDelta first (n + 1) 0) :
    RleInv d w rowDelta first 0 (n + 1) (countPixel d p st) where
  small := hsmall
  count_le := Nat.succ_le_succ h.count_le
  side := hside
  pending := by
    obtain ⟨ps, htemp, hlen, hps⟩ := h.pending
    refine ⟨ps ++ [p.pixel], by simp [countPixel, htemp], by simp [countPixel, hlen], ?_⟩
    intro j q hj
    have hc := h.count_le
    simp only [countPixel]
    rw [show n + 1 - (st.count + 1) + j = n - st.count + j by omega]
    by_cases hjl : j < ps.length
    · rw [List.getElem?_append_left hjl] at hj
      exact hps j q hj
    · rw [List.getElem?_append_right (by omega)] at hj
      obtain ⟨hlt, hq⟩ := List.getElem?_eq_some_iff.1 hj
      rw [List.length_singleton] at hlt
      have hjn : n - st.count + j = n := by omega
      rw [hjn, hp.pixel, ← hq]
      simp
  decoded := by
    obtain ⟨ins, hd, hi⟩ := h.decoded
    refine ⟨ins, ?_, fun ht => ?_⟩
    · simp only [countPixel]
      rwa [show n + 1 - (st.count + 1) = n - st.count by omega]
    · have := hi ht
      simp only [countPixel]
      cases htf : testFill p with
      | true => rw [htf, if_pos rfl] at hs; rw [if_pos rfl]; omega
      | false => have := he.fill htf; rw [if_neg (by simp)]; omega
  fill := by
    simp only [countPixel]
    split
    · rename_i ht
      exact h.fill.snoc (hp.isFill ht)
    · rename_i ht
      rw [he.fill (by simpa using ht)]
      exact .zero _ _ _
  fillSide := h.fillSide.snoc hside (by simp only [countPixel]; split <;> omega)
  mix := by
    simp only [countPixel]
    split
    · rename_i ht
      exact h.mix.snoc (hp.isMix (hp.testMix_iff.1 ht))
    · rename_i ht
      rw [he.mix (by simpa using ht)]
      exact .zero _ _ _
  mixSide := h.mixSide.snoc hside (by simp only [countPixel]; split <;> omega)
  color := by
    simp only [countPixel]
    split
    · rename_i ht
      have hl : p.pixel = st.lastPixel := by simpa [testColor] using ht
      rw [hl]
      exact h.color.snoc (hl ▸ hp.pixel)
    · rename_i ht
      rw [he.color (by simpa using ht)]
      exact .zero _ _ _
  bicolor_le := by
    have := h.bicolor_le
    simp only [countPixel]
    split <;> omega
  bicolor := by
    have hle := h.bicolor_le
    have hc := h.count_le
    simp only [countPixel]
    split
    · rename_i ht
      intro j hj
      rw [show n + 1 - (st.bicolorCount + 1) + j = n - st.bicolorCount + j by omega]
      by_cases hjb : j < st.bicolorCount
      · exact h.bicolor j hjb
      · obtain rfl : j = st.bicolorCount := by omega
        rw [Nat.sub_add_cancel (by omega), hp.pixel]
        congr 1
        simp only [testBicolor, h.spin, Bool.and_eq_true, Bool.or_eq_true, Bool.not_eq_true',
          decide_eq_false_iff_not, decide_eq_true_eq, beq_iff_eq] at ht
        rcases ht.2 with ⟨⟨h0, h1⟩, -⟩ | ⟨⟨h0, h1⟩, -⟩
        · rw [h1, if_pos (by omega)]
        · rw [h1, if_neg (by omega)]
    · rename_i ht
      rw [he.bicolor (by simpa using ht)]
      intro j hj
      omega
  spin := by
    simp only [countPixel]
    split
    · rw [h.spin]
      rcases Nat.mod_two_eq_zero_or_one st.bicolorCount with h0 | h0 <;>
        simp [h0, Nat.add_mod]
    · exact h.spin
  fom_le := by
    have := h.fom_le
    simp only [countPixel]
    split <;> omega
  fomSide := h.fomSide.snoc hside (by simp only [countPixel]; split <;> omega)
  fom := by
    have hle := h.fom_le
    have hc := h.count_le
    simp only [countPixel]
    split
    · rename_i ht
      intro j hj
      rw [show n + 1 - (st.fomCount + 1) + j = n - st.fomCount + j by omega,
        (fomMaskPush_spec _ h.fomMask_length h.fomMask_zero).2 j]
      by_cases hjf : j = st.fomCount
      · rw [if_pos hjf, hjf, Nat.sub_add_cancel (by omega)]
        by_cases hm : p.pixel = p.ypixel ^^^ d.mix
        · rw [if_pos (by simpa using hm)]
          exact hp.isMix hm
        · rw [if_neg (by simpa using hm)]
          refine hp.isFill ?_
          simp only [testFom, Bool.or_eq_true] at ht
          rcases ht with ht | ht
          · exact ht
          · exact absurd (hp.testMix_iff.1 ht) hm
      · rw [if_neg hjf]
        exact h.fom j (by omega)
    · rename_i ht
      rw [he.fom (by simpa using ht)]
      intro j hj
      omega
  fomMask_length := by
    simp only [countPixel]
    split
    · exact (fomMaskPush_spec _ h.fomMask_length h.fomMask_zero).1
    · exact h.fomMask_length
  fomMask_zero := by
    simp only [countPixel]
    split
    · intro j hj
      rw [(fomMaskPush_spec _ h.fomMask_length h.fomMask_zero).2 j, if_neg (by omega)]
      exact h.fomMask_zero j (by omega)
    · exact h.fomMask_zero

/-- **One pixel.** -/
theorem pixelStep_spec {p : PixelCtx} (h : RleInv d w rowDelta first 0 n st) (hr : 0 < rowDelta)
    (hp : PixelAt d w rowDelta first n p) (hsmall : n + 1 ≤ 16384)
    (hside : OneSide rowDelta first (n + 1) 0) :
    RleInv d w rowDelta first 0 (n + 1) (pixelStep d p st) := by
  obtain ⟨h', he, -⟩ := endRuns_spec h hr p
  exact countPixel_spec h' he hp rfl hsmall hside

/-! ## One line -/

/-- Pixel `x` of a padded row: behind its end the last one. -/
def rowPixel (d : Depth) (inData : Nat → UInt8) (width line x : Nat) : Nat :=
  getPixel d inData line (min x (width - 1))

/-- Reading along a row, the last pixel read stands for the ones behind the end. -/
theorem inPixel_rowPixel {inData : Nat → UInt8} {width line i last : Nat} (hw : 0 < width)
    (hl : 0 < i → last = rowPixel d inData width line (i - 1)) :
    inPixel d inData (some line) i width last = rowPixel d inData width line i := by
  simp only [inPixel, rowPixel]
  by_cases hi : i < width
  · rw [if_pos hi, min_eq_left (by omega)]
  · rw [if_neg hi, hl (by omega), rowPixel, min_eq_right (by omega), min_eq_right (by omega)]

/-- What line `line`, sent as pixels `n0` to `n0 + rowDelta` of the image, has to do with it. -/
structure LineAt (d : Depth) (w : Nat → Nat) (inData : Nat → UInt8) (width rowDelta : Nat)
    (lastLine : Option Nat) (line n0 : Nat) : Prop where
  pixel : ∀ i < rowDelta, w (n0 + i) = wire d (rowPixel d inData width line i)
  start : lastLine = none ↔ n0 = 0
  after : n0 = 0 ∨ rowDelta ≤ n0
  yline : ∀ l, lastLine = some l → ∀ i < rowDelta,
    w (n0 + i - rowDelta) = wire d (rowPixel d inData width l i)
  deep : d = .bpp15 → ∀ i, rowPixel d inData width line i < 2 ^ 15 ∧
    ∀ l, lastLine = some l → rowPixel d inData width l i < 2 ^ 15

theorem lineLoop_spec {inData : Nat → UInt8} {width line n0 : Nat} {lastLine : Option Nat}
    (hw : 0 < width) (hl : LineAt d w inData width rowDelta lastLine line n0)
    (hsmall : n0 + rowDelta ≤ 16384) (todo : Nat) {i : Nat} {st : RleSt} (hi : i + todo = rowDelta)
    (h : RleInv d w rowDelta lastLine.isNone 0 (n0 + i) st)
    (hlast : 0 < i → st.lastPixel = rowPixel d inData width line (i - 1))
    (hylast : 0 < i → ∀ l, lastLine = some l →
      st.lastYpixel = rowPixel d inData width l (i - 1)) :
    RleInv d w rowDelta lastLine.isNone 0 (n0 + rowDelta)
      (lineLoop d inData width line lastLine todo i st) := by
  induction todo generalizing i st with
  | zero =>
    obtain rfl : i = rowDelta := by omega
    exact h
  | succ todo ih =>
    have hpix := inPixel_rowPixel (d := d) hw hlast
    have hy : ∀ l, lastLine = some l → inPixel d inData lastLine i width st.lastYpixel =
        rowPixel d inData width l i := by
      rintro l rfl
      exact inPixel_rowPixel hw fun h0 => hylast h0 l rfl
    have hside : lastLine.isNone = decide (n0 + i < rowDelta) := by
      cases hll : lastLine with
      | none =>
        have := hl.start.1 hll
        simp; omega
      | some l =>
        have h0 : n0 ≠ 0 := fun h0 => by
          rw [hl.start.2 h0] at hll
          cases hll
        have := hl.after
        simp; omega
    have hp : PixelAt d w rowDelta lastLine.isNone (n0 + i) ⟨lastLine.isNone,
        rowPixel d inData width line i, inPixel d inData lastLine i width st.lastYpixel⟩ := by
      refine ⟨hl.pixel i (by omega), rfl, hside, ?_, fun hf => ?_, fun h15 => ?_⟩
      · cases hll : lastLine with
        | none =>
          have := hl.start.1 hll
          rw [above, if_pos (by omega)]
          simp [inPixel, wire]
        | some l =>
          rw [hll] at hside
          have hn : ¬ n0 + i < rowDelta := by simpa using hside
          rw [above, if_neg hn, hl.yline l hll i (by omega), ← hll, hy l hll]
      · rw [Option.isNone_iff_eq_none.1 hf]
        rfl
      · obtain ⟨hdp, hdy⟩ := hl.deep h15 i
        refine ⟨hdp, ?_⟩
        cases hll : lastLine with
        | none => exact Nat.two_pow_pos 15
        | some l =>
          rw [← hll, hy l hll]
          exact hdy l hll
    have hside' : OneSide rowDelta lastLine.isNone (n0 + i + 1) 0 := by
      rw [hside]
      by_cases hn : n0 + i < rowDelta
      · rw [decide_eq_true hn]
        exact hn
      · rw [decide_eq_false hn]
        simp only [OneSide, Bool.false_eq_true, if_false]
        omega
    have hstep := pixelStep_spec h (by omega) hp (by omega) hside'
    rw [lineLoop, hpix]
    refine ih (by omega) hstep (fun _ => rfl) fun _ l hll => ?_
    rw [Nat.add_sub_cancel]
    exact hy l hll

/-- After the first line no counter refers to the line above, so the next line may. -/
theorem endFirstLine_spec (h : RleInv d w rowDelta true 0 rowDelta st) (hr : 0 < rowDelta) :
    RleInv d w rowDelta false 0 rowDelta (endFirstLine d st) := by
  have h1 : RleInv d w rowDelta true 0 rowDelta (st.endFill d) := h.endFill hr (.inr ⟨rfl, rfl⟩)
  have h3 := (h1.endMix hr).endFom hr
  have hfill : (endFirstLine d st).fillCount = 0 := by
    have hf : (((st.endFill d).endMix d).endFom d).fillCount = 0 := by
      have h2 : ((st.endFill d).endMix d).fillCount = 0 :=
        (fewer_endMix d _).fill rfl
      exact (fewer_endFom d _).fill h2
    exact hf
  have hmix : (endFirstLine d st).mixCount = 0 := (fewer_endFom d _).mix rfl
  have hfom : (endFirstLine d st).fomCount = 0 := rfl
  exact { h3 with
    side := le_rfl
    fillSide := by
      show OneSide rowDelta false rowDelta (endFirstLine d st).fillCount
      rw [hfill]
      exact le_rfl
    mixSide := by
      show OneSide rowDelta false rowDelta (endFirstLine d st).mixCount
      rw [hmix]
      exact le_rfl
    fomSide := by
      show OneSide rowDelta false rowDelta (endFirstLine d st).fomCount
      rw [hfom]
      exact le_rfl }

/-- What is pending goes out at the end. -/
theorem finish_spec (h : RleInv d w rowDelta first 0 n st) (hr : 0 < rowDelta) :
    ∃ ins, Decoded d w rowDelta (finish d st).s n ins := by
  unfold finish
  split
  · rename_i hw
    simp only [RleSt.fillWins, Bool.and_eq_true, decide_eq_true_eq] at hw
    obtain ⟨ins, hd, -⟩ := h.flushFill hr (by omega)
    exact ⟨ins, hd⟩
  split
  · rename_i hw
    simp only [RleSt.mixWins, Bool.and_eq_true, decide_eq_true_eq] at hw
    exact ⟨_, h.flushMix hr (by omega)⟩
  split
  · rename_i hw
    simp only [RleSt.colorWins, Bool.and_eq_true, decide_eq_true_eq] at hw
    exact ⟨_, h.flushColor hr (by omega)⟩
  split
  · rename_i hw
    simp only [RleSt.bicolorWins, Bool.and_eq_true, decide_eq_true_eq] at hw
    refine ⟨false, ?_⟩
    have := h.flushBicolor hr (by omega)
    simpa [RleSt.flush, RleSt.flushBicolor, outCopyCount, outBicolorCount] using this
  split
  · rename_i hw
    simp only [RleSt.fomWins, Bool.and_eq_true, decide_eq_true_eq] at hw
    exact ⟨_, h.flushFom hr (by omega)⟩
  · obtain ⟨ins, hd, -⟩ := h.flushCopy hr (Nat.zero_le _)
    refine ⟨ins, ?_⟩
    simpa [RleSt.flush] using hd

end

/-! ## All lines -/

/-- The address of the `r`-th line sent of an image whose first sent line is `total - 1`. -/
def lineOf (d : Depth) (width total r : Nat) : Nat := width * (total - 1 - r) * d.inBytes

/-- The image as the client is to see it. -/
def image (d : Depth) (inData : Nat → UInt8) (width rowDelta total n : Nat) : Nat :=
  wire d (rowPixel d inData width (lineOf d width total (n / rowDelta)) (n % rowDelta))

/-- In 15 bits a pixel leaves the top bit clear. -/
def Deep (d : Depth) (inData : Nat → UInt8) (width total : Nat) : Prop :=
  d = .bpp15 → ∀ row < total, ∀ x < width, getPixel d inData (width * row * d.inBytes) x < 2 ^ 15

theorem Depth.bytes_pos (d : Depth) : 1 ≤ d.bytes := by cases d <;> decide

theorem image_at {d : Depth} {inData : Nat → UInt8} {width rowDelta total : Nat} (r : Nat)
    {i : Nat} (hi : i < rowDelta) : image d inData width rowDelta total (r * rowDelta + i) =
      wire d (rowPixel d inData width (lineOf d width total r) i) := by
  rw [image, Nat.add_comm, Nat.add_mul_div_right _ _ (by omega), Nat.div_eq_of_lt hi,
    Nat.add_mul_mod_self_right, Nat.mod_eq_of_lt hi, Nat.zero_add]

theorem lineAt_image {d : Depth} {inData : Nat → UInt8} {width rowDelta total r : Nat}
    (hw : 0 < width) (hd : Deep d inData width total) (hr : r < total) (hpos : 0 < rowDelta) :
    LineAt d (image d inData width rowDelta total) inData width rowDelta
      (if r = 0 then none else some (lineOf d width total (r - 1))) (lineOf d width total r)
      (r * rowDelta) := by
  have hdeep : d = .bpp15 → ∀ r' < total, ∀ i,
      rowPixel d inData width (lineOf d width total r') i < 2 ^ 15 := fun h15 r' hr' i =>
    hd h15 (total - 1 - r') (by omega) _ (by omega)
  refine ⟨fun i hi => image_at r hi, ?_, ?_, ?_, ?_⟩
  · by_cases h0 : r = 0
    · simp [h0]
    · simp [h0]; omega
  · rcases Nat.eq_zero_or_pos r with h0 | h0
    · left
      rw [h0, Nat.zero_mul]
    · right
      exact Nat.le_mul_of_pos_left _ h0
  · intro l hl i hi
    split at hl
    · cases hl
    · rename_i h0
      cases hl
      have hsub : r * rowDelta + i - rowDelta = (r - 1) * rowDelta + i := by
        obtain ⟨k, rfl⟩ : ∃ k, r = k + 1 := ⟨r - 1, by omega⟩
        rw [Nat.add_sub_cancel, Nat.add_mul]
        omega
      rw [hsub, image_at _ hi]
  · intro h15 i
    refine ⟨hdeep h15 r hr i, fun l hl => ?_⟩
    split at hl
    · cases hl
    · cases hl
      exact hdeep h15 (r - 1) (by omega) i

theorem imageLoop_spec {d : Depth} {inData : Nat → UInt8} {width rowDelta total base : Nat}
    {byteLimit : Int} (hw : 0 < width) (hpos : 0 < rowDelta) (hd : Deep d inData width total)
    (todo : Nat) {r : Nat} {st : RleSt} (hr : r + todo = total)
    (h : RleInv d (image d inData width rowDelta total) rowDelta (decide (r = 0)) 0 (r * rowDelta)
      st) :
    ∃ lines st' first, imageLoop d inData width rowDelta base byteLimit todo
        ((r + 1) * (rowDelta * d.bytes))
        (if r = 0 then none else some (lineOf d width total (r - 1))) st = (lines, st') ∧
      lines ≤ todo ∧
      RleInv d (image d inData width rowDelta total) rowDelta first 0 ((r + lines) * rowDelta)
        st' := by
  induction todo generalizing r st with
  | zero => exact ⟨0, st, _, rfl, le_rfl, h⟩
  | succ todo ih =>
    rw [imageLoop]
    split
    · exact ⟨0, st, _, rfl, Nat.zero_le _, h⟩
    split
    · exact ⟨0, st, _, rfl, Nat.zero_le _, h⟩
    rename_i hout _
    have hsmall : (r + 1) * rowDelta ≤ 16384 := by
      have h1 : (r + 1) * rowDelta ≤ (r + 1) * (rowDelta * d.bytes) :=
        Nat.mul_le_mul_left _ (Nat.le_mul_of_pos_right _ d.bytes_pos)
      simp only [BC_MAX_BYTES] at hout
      omega
    have hline : width * todo * d.inBytes = lineOf d width total r := by
      rw [lineOf, show total - 1 - r = todo by omega]
    have hfirst : (if r = 0 then none else some (lineOf d width total (r - 1)) :
        Option Nat).isNone = decide (r = 0) := by
      split <;> simp [*]
    have hloop := lineLoop_spec (i := 0) hw (lineAt_image (r := r) hw hd (by omega) hpos)
      (by rw [← Nat.succ_mul]; exact hsmall) rowDelta (Nat.zero_add _)
      (by rw [hfirst]; exact h) (fun h0 => absurd h0 (by omega)) (fun h0 => absurd h0 (by omega))
    rw [hfirst] at hloop
    obtain ⟨st1, hst1, h1⟩ : ∃ st1, (if (if r = 0 then none else
          some (lineOf d width total (r - 1)) : Option Nat).isNone then
          endFirstLine d (lineLoop d inData width (lineOf d width total r)
            (if r = 0 then none else some (lineOf d width total (r - 1))) rowDelta 0 st)
        else lineLoop d inData width (lineOf d width total r)
            (if r = 0 then none else some (lineOf d width total (r - 1))) rowDelta 0 st) = st1 ∧
        RleInv d (image d inData width rowDelta total) rowDelta (decide (r + 1 = 0)) 0
          ((r + 1) * rowDelta) st1 := by
      refine ⟨_, rfl, ?_⟩
      rw [hfirst]
      by_cases h0 : r = 0
      · subst h0
        simp only [decide_true, if_true, Nat.zero_mul, Nat.zero_add] at hloop ⊢
        rw [Nat.one_mul]
        exact endFirstLine_spec hloop hpos
      · have hf : decide (r = 0) = false := decide_eq_false h0
        rw [hf] at hloop ⊢
        rw [Nat.succ_mul]
        exact hloop
    obtain ⟨lines, st', first, hrec, hle, hinv⟩ := ih (r := r + 1) (by omega) h1
    rw [if_neg (Nat.succ_ne_zero r), Nat.add_sub_cancel] at hrec
    refine ⟨lines + 1, st', first, ?_, by omega, ?_⟩
    · simp only [hline, hst1]
      rw [show (r + 1) * (rowDelta * d.bytes) + rowDelta * d.bytes =
        (r + 1 + 1) * (rowDelta * d.bytes) by ring, hrec]
    · rwa [show r + (lines + 1) = r + 1 + lines by omega]

/-! ## The round trip -/

/-- Row `row` of the image as the client is to see it: the low bits of its pixels, and `e` copies
of the last one. -/
def paddedLine (d : Depth) (inData : Nat → UInt8) (width e row : Nat) : List Nat :=
  (List.range width).map (fun x => wire d (getPixel d inData (width * row * d.inBytes) x)) ++
    List.replicate e (wire d (getPixel d inData (width * row * d.inBytes) (width - 1)))

/-- `lines` rows from `startLine` on upwards. -/
def scanLines (d : Depth) (inData : Nat → UInt8) (width e : Nat) (startLine : Int) (lines : Nat) :
    List Nat :=
  (List.range lines).flatMap fun (j : Nat) => paddedLine d inData width e (startLine - j).toNat

theorem paddedLine_eq {d : Depth} {inData : Nat → UInt8} {width e row : Nat} (hw : 0 < width) :
    paddedLine d inData width e row = (List.range (width + e)).map fun x =>
      wire d (rowPixel d inData width (width * row * d.inBytes) x) := by
  rw [paddedLine, List.range_add, List.map_append, List.map_map]
  congr 1
  · apply List.map_congr_left
    intro x hx
    rw [rowPixel, min_eq_left (by have := List.mem_range.1 hx; omega)]
  · symm
    rw [List.eq_replicate_iff]
    refine ⟨by simp, fun b hb => ?_⟩
    obtain ⟨x, -, rfl⟩ := List.mem_map.1 hb
    simp only [Function.comp, rowPixel, min_eq_right (by omega : width - 1 ≤ width + x)]

theorem scanLines_eq {d : Depth} {inData : Nat → UInt8} {width e lines : Nat} {startLine : Int}
    (hw : 0 < width) (hl : lines ≤ (startLine + 1).toNat) :
    scanLines d inData width e startLine lines =
      (List.range (lines * (width + e))).map
        (image d inData width (width + e) (startLine + 1).toNat) := by
  induction lines with
  | zero => simp [scanLines]
  | succ lines ih =>
    rw [scanLines, List.range_succ, List.flatMap_append, ← scanLines, ih (by omega), Nat.succ_mul,
      List.range_add, List.map_append, List.map_map]
    congr 1
    rw [List.flatMap_singleton, paddedLine_eq hw]
    apply List.map_congr_left
    intro x hx
    rw [Function.comp, image_at lines (List.mem_range.1 hx), lineOf,
      show (startLine - (lines : Nat)).toNat = (startLine + 1).toNat - 1 - lines by omega]

/-- **Interleaved-RLE round trip**: whatever the image, the limits and the starting line, the bytes
appended decode to the lines sent. -/
theorem rle_round_trip (d : Depth) (inData : Nat → UInt8) {width : Nat} (hw : 0 < width) (base e : Nat)
    (byteLimit startLine : Int) (hd : Deep d inData width (startLine + 1).toNat) :
    (xrdpBitmapCompress inData width d base byteLimit startLine e).1 ≤ (startLine + 1).toNat ∧
    rleDecode d (width + e) (xrdpBitmapCompress inData width d base byteLimit startLine e).2 =
      some (scanLines d inData width e startLine
        (xrdpBitmapCompress inData width d base byteLimit startLine e).1) := by
  have hpos : 0 < width + e := by omega
  have h0 : RleInv d (image d inData width (width + e) (startLine + 1).toNat) (width + e) true 0 0
      RleSt.init := RleInv.fresh (by omega) (Nat.zero_le _) (Decoded.nil hpos) (by simp)
  obtain ⟨lines, st, first, hloop, hle, hinv⟩ := @imageLoop_spec _ _ _ _ _ base byteLimit hw hpos hd
    (startLine + 1).toNat 0 _ (Nat.zero_add _) (by simpa using h0)
  obtain ⟨ins, os, hreads, hout, -⟩ := finish_spec hinv hpos
  rw [Nat.zero_add, Nat.one_mul, if_pos rfl] at hloop
  simp only [xrdpBitmapCompress, hloop]
  refine ⟨hle, ?_⟩
  rw [rleDecode, hreads.parseOrders, Option.map_some, hout, scanLines_eq hw hle, Nat.zero_add]

/-- Two lines of five equal pixels, but for one, sixteen bits deep. -/
def stripedImage (i : Nat) : UInt8 := if i = 8 ∨ i = 9 then 0xff else 0x12

theorem rle_round_trip_striped :
    (0 < 5 ∧ Deep .bpp16 stripedImage 5 (1 + 1 : Int).toNat) ∧
      (xrdpBitmapCompress stripedImage 5 .bpp16 0 64 1 1).1 ≤ (1 + 1 : Int).toNat ∧
      rleDecode .bpp16 (5 + 1) (xrdpBitmapCompress stripedImage 5 .bpp16 0 64 1 1).2 =
        some (scanLines .bpp16 stripedImage 5 1 1
          (xrdpBitmapCompress stripedImage 5 .bpp16 0 64 1 1).1) :=
  ⟨⟨by decide, fun h => by cases h⟩,
    rle_round_trip .bpp16 stripedImage (by decide) 0 1 64 1 (fun h => by cases h)⟩

end Xrdp.Bitmap
