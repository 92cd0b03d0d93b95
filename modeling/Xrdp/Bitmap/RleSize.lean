import Xrdp.Bitmap.Rle

/-!
# The size of an interleaved-RLE stream

A run goes out only when it is longer than three pixels, so that an order never costs much more
than the pixels it stands for: the stream and the pending pixels together take at most 17/16 of the
image.

* `RleSize` — the bound between two pixels; `pixelStep_size`, `imageLoop_size` keep it.
* `compress_length` — the bound for one call.
* `compress_pos` — a line is sent when there is room to start one.
-/

namespace Xrdp.Bitmap

open Wire

/-- The length of a run header. -/
def headerLength (n : Nat) : Nat := if n < 32 then 1 else if n < 288 then 2 else 3

theorem runHeader_length (code n : Nat) : (runHeader code n).length = headerLength n := by
  unfold runHeader headerLength
  split
  · simp
  split
  · simp
  · simp

theorem outCopyCount_length (d : Depth) (n : Nat) {temp : List UInt8}
    (h : n * d.bytes ≤ temp.length) :
    (outCopyCount d n temp).length = if n > 0 then headerLength n + n * d.bytes else 0 := by
  unfold outCopyCount
  split
  · rw [List.length_append, runHeader_length, List.length_take, Nat.min_eq_left h]
  · rfl

theorem no_mask : ([] : List UInt8).length = (0 + 7) / 8 := by rfl

/-- The state after `n` pixels takes at most 17/16 of them. -/
structure RleSize (d : Depth) (n : Nat) (st : RleSt) : Prop where
  temp : st.tempS.length = st.count * d.bytes
  fill : st.fillCount ≤ st.count
  mix : st.mixCount ≤ st.count
  color : st.colorCount ≤ st.count
  bicolor : st.bicolorCount ≤ st.count
  fom : st.fomCount ≤ st.count
  mask : st.fomMask.length = (st.fomCount + 7) / 8
  size : 16 * st.s.length + 17 * (st.count * d.bytes) ≤ 17 * (n * d.bytes)

section

variable {d : Depth} {n : Nat} {st : RleSt}

/-- What a flush costs: the copy order of the pixels before the run, and the order of the run. -/
theorem RleSize.flush (h : RleSize d n st) {run : Nat} (hrun : run ≤ st.count)
    {order : List UInt8}
    (hcost : 16 * ((if st.count - run > 0 then headerLength (st.count - run) else 0) +
      order.length) ≤ 16 * (run * d.bytes) + st.count * d.bytes) :
    16 * (st.flush d run order).s.length ≤ 17 * (n * d.bytes) := by
  have hsize := h.size
  have hsplit : (st.count - run) * d.bytes + run * d.bytes = st.count * d.bytes := by
    rw [← Nat.add_mul, Nat.sub_add_cancel hrun]
  have hcopy := outCopyCount_length d (st.count - run) (by
    rw [h.temp]
    exact Nat.mul_le_mul_right _ (Nat.sub_le _ _))
  simp only [RleSt.flush, List.length_append, hcopy]
  split at hcost <;> rename_i hpos
  · rw [if_pos hpos]
    omega
  · rw [if_neg hpos]
    omega

/-- Nothing is counted any more. -/
theorem RleSize.reset {st' : RleSt} (hs : 16 * st'.s.length ≤ 17 * (n * d.bytes))
    (hcount : st'.count = 0) (htemp : st'.tempS = []) : RleSize d n st'.resetCounts := by
  refine ⟨?_, Nat.zero_le _, Nat.zero_le _, Nat.zero_le _, Nat.zero_le _, Nat.zero_le _,
    no_mask, ?_⟩
  · change st'.tempS.length = st'.count * d.bytes
    rw [htemp, hcount, Nat.zero_mul]
    rfl
  · change 16 * st'.s.length + 17 * (st'.count * d.bytes) ≤ _
    rw [hcount, Nat.zero_mul]
    exact hs

theorem headerLength_le (r : Nat) : headerLength r ≤ 1 + r / 32 ∧ headerLength r ≤ 3 := by
  unfold headerLength
  split
  · omega
  split
  · omega
  · omega

/-- The header of a copy order, which may be missing. -/
theorem copyHeader_le (k : Nat) :
    (if k > 0 then headerLength k else 0) ≤ 1 + k / 32 ∧
      (if k > 0 then headerLength k else 0) ≤ 3 := by
  have := headerLength_le k
  split
  · exact this
  · omega

theorem outFillCount_length {c : Nat} (h : 0 < c) :
    (outFillCount c).length = headerLength c := by
  rw [outFillCount, if_pos h, runHeader_length]

theorem outMixCount_length {c : Nat} (h : 0 < c) : (outMixCount c).length = headerLength c := by
  rw [outMixCount, if_pos h, runHeader_length]

theorem outColorCount_length (d : Depth) {c : Nat} (h : 0 < c) (p : Nat) :
    (outColorCount d c p).length = headerLength c + d.bytes := by
  rw [outColorCount, if_pos h, List.length_append, runHeader_length, outPixel_length]

theorem RleSize.flushFill (h : RleSize d n st) (hwin : 3 < st.fillCount) :
    16 * (st.flushFill d).s.length ≤ 17 * (n * d.bytes) := by
  refine h.flush h.fill ?_
  have hc := copyHeader_le (st.count - st.fillCount)
  have ho := headerLength_le st.fillCount
  have hle := h.fill
  rw [outFillCount_length (by omega)]
  cases d <;> simp only [Depth.bytes] <;> omega

theorem RleSize.flushMix (h : RleSize d n st) (hwin : 3 < st.mixCount) :
    16 * (st.flushMix d).s.length ≤ 17 * (n * d.bytes) := by
  refine h.flush h.mix ?_
  have hc := copyHeader_le (st.count - st.mixCount)
  have ho := headerLength_le st.mixCount
  have hle := h.mix
  rw [outMixCount_length (by omega)]
  cases d <;> simp only [Depth.bytes] <;> omega

theorem RleSize.flushColor (h : RleSize d n st) (hwin : 3 < st.colorCount) :
    16 * (st.flushColor d).s.length ≤ 17 * (n * d.bytes) := by
  refine h.flush h.color ?_
  have hc := copyHeader_le (st.count - st.colorCount)
  have ho := headerLength_le st.colorCount
  have hle := h.color
  rw [outColorCount_length d (by omega)]
  cases d <;> simp only [Depth.bytes] <;> omega

theorem outBicolorCount_length (d : Depth) {c : Nat} (h : 0 < c) (a b : Nat) :
    (outBicolorCount d c a b).length ≤ 1 + c / 32 + 2 * d.bytes := by
  unfold outBicolorCount
  rw [if_pos h]
  split
  · simp [outPixel_length]; omega
  split
  · simp [outPixel_length]; omega
  · simp [outPixel_length]; omega

theorem RleSize.flushBicolor (h : RleSize d n st) (hwin : 3 < st.bicolorCount) :
    16 * (st.flushBicolor d).s.length ≤ 17 * (n * d.bytes) := by
  have hle := h.bicolor
  have hpair : ∀ run, 3 < run → run ≤ st.count → ∀ a b,
      16 * (st.flush d run (outBicolorCount d run a b)).s.length ≤ 17 * (n * d.bytes) := by
    intro run h3 hrun a b
    refine h.flush hrun ?_
    have hc := copyHeader_le (st.count - run)
    have ho := outBicolorCount_length d (c := run) (by omega) a b
    cases d <;> simp only [Depth.bytes] at ho ⊢ <;> omega
  by_cases heven : st.bicolorCount % 2 = 0
  · simp only [RleSt.flushBicolor, if_pos heven]
    exact hpair _ hwin hle _ _
  · simp only [RleSt.flushBicolor, if_neg heven]
    exact hpair _ (by omega) (by omega) _ _

theorem outFomCount_length {c : Nat} (h : 0 < c) {mask : List UInt8}
    (hm : mask.length = (c + 7) / 8) :
    (outFomCount c mask).length ≤ 2 + c / 256 + (c + 7) / 8 := by
  unfold outFomCount
  rw [if_pos h]
  split
  · simp [hm]; omega
  split
  · simp [hm]; omega
  · simp [hm]; omega

theorem RleSize.flushFom (h : RleSize d n st) (hwin : 3 < st.fomCount) :
    16 * (st.flushFom d).s.length ≤ 17 * (n * d.bytes) := by
  refine h.flush h.fom ?_
  have hc := copyHeader_le (st.count - st.fomCount)
  have hle := h.fom
  have ho := outFomCount_length (c := st.fomCount) (by omega) h.mask
  cases d <;> simp only [Depth.bytes] <;> omega

/-! ## One pixel -/

theorem RleSize.endFill (h : RleSize d n st) : RleSize d n (st.endFill d) := by
  unfold RleSt.endFill
  split
  · rename_i hw
    simp only [RleSt.fillWins, Bool.and_eq_true, decide_eq_true_eq] at hw
    exact { RleSize.reset (h.flushFill (by omega)) rfl rfl with fill := Nat.zero_le _ }
  · exact { h with fill := Nat.zero_le _ }

theorem RleSize.endMix (h : RleSize d n st) : RleSize d n (st.endMix d) := by
  unfold RleSt.endMix
  split
  · rename_i hw
    simp only [RleSt.mixWins, Bool.and_eq_true, decide_eq_true_eq] at hw
    exact { RleSize.reset (h.flushMix (by omega)) rfl rfl with mix := Nat.zero_le _ }
  · exact { h with mix := Nat.zero_le _ }

theorem RleSize.endColor (h : RleSize d n st) : RleSize d n (st.endColor d) := by
  unfold RleSt.endColor
  split
  · rename_i hw
    simp only [RleSt.colorWins, Bool.and_eq_true, decide_eq_true_eq] at hw
    exact { RleSize.reset (h.flushColor (by omega)) rfl rfl with color := Nat.zero_le _ }
  · exact { h with color := Nat.zero_le _ }

theorem RleSize.endBicolor (h : RleSize d n st) (pixel : Nat) :
    RleSize d n (st.endBicolor d pixel) := by
  unfold RleSt.endBicolor
  split
  · rename_i hw
    simp only [RleSt.bicolorWins, Bool.and_eq_true, decide_eq_true_eq] at hw
    exact { RleSize.reset (h.flushBicolor (by omega)) rfl rfl with bicolor := Nat.zero_le _ }
  · exact { h with bicolor := Nat.zero_le _ }

theorem RleSize.endFom (h : RleSize d n st) : RleSize d n (st.endFom d) := by
  unfold RleSt.endFom
  split
  · rename_i hw
    simp only [RleSt.fomWins, Bool.and_eq_true, decide_eq_true_eq] at hw
    exact { RleSize.reset (h.flushFom (by omega)) rfl rfl with fom := Nat.zero_le _, mask := no_mask }
  · exact { h with fom := Nat.zero_le _, mask := no_mask }

theorem endRuns_size (h : RleSize d n st) (p : PixelCtx) : RleSize d n (endRuns d p st) := by
  unfold endRuns
  have h1 : RleSize d n (if testFill p then st else st.endFill d) := by
    split
    · exact h
    · exact h.endFill
  have h2 : ∀ st, RleSize d n st → RleSize d n (if testMix d p then st else st.endMix d) := by
    intro st h
    split
    · exact h
    · exact h.endMix
  have h3 : ∀ st, RleSize d n st → RleSize d n (if testColor st p then st else st.endColor d) := by
    intro st h
    split
    · exact h
    · exact h.endColor
  have h4 : ∀ st, RleSize d n st →
      RleSize d n (if testBicolor st p then st else st.endBicolor d p.pixel) := by
    intro st h
    split
    · exact h
    · exact h.endBicolor _
  have h5 : ∀ st, RleSize d n st → RleSize d n (if testFom d p then st else st.endFom d) := by
    intro st h
    split
    · exact h
    · exact h.endFom
  exact h5 _ (h4 _ (h3 _ (h2 _ h1)))

theorem fomMaskPush_length {mask : List UInt8} {c : Nat} (h : mask.length = (c + 7) / 8)
    (isMix : Bool) : (fomMaskPush mask c isMix).length = (c + 1 + 7) / 8 := by
  unfold fomMaskPush
  split <;> split <;> simp [h] <;> omega

theorem countPixel_size (h : RleSize d n st) (p : PixelCtx) :
    RleSize d (n + 1) (countPixel d p st) := by
  have hinc : ∀ (t : Bool) (c : Nat), c ≤ st.count →
      (if t then c + 1 else c) ≤ st.count + 1 := by
    intro t c hc
    split
    · exact Nat.succ_le_succ hc
    · exact Nat.le_succ_of_le hc
  refine ⟨?_, hinc _ _ h.fill, hinc _ _ h.mix, hinc _ _ h.color, hinc _ _ h.bicolor,
    hinc _ _ h.fom, ?_, ?_⟩
  · simp [countPixel, h.temp, Nat.add_mul]
  · simp only [countPixel]
    split
    · exact fomMaskPush_length h.mask _
    · exact h.mask
  · have := h.size
    simp only [countPixel, Nat.add_mul]
    omega

theorem pixelStep_size (h : RleSize d n st) (p : PixelCtx) :
    RleSize d (n + 1) (pixelStep d p st) := countPixel_size (endRuns_size h p) p

/-! ## Lines -/

theorem lineLoop_size (inData : Nat → UInt8) (width line : Nat) (lastLine : Option Nat)
    (todo : Nat) {i : Nat} (h : RleSize d n st) :
    RleSize d (n + todo) (lineLoop d inData width line lastLine todo i st) := by
  induction todo generalizing i n st with
  | zero => exact h
  | succ todo ih =>
    have := ih (i := i + 1) (pixelStep_size h ⟨lastLine.isNone,
      inPixel d inData (some line) i width st.lastPixel,
      inPixel d inData lastLine i width st.lastYpixel⟩)
    rwa [Nat.add_assoc, Nat.add_comm 1] at this

theorem finish_size (h : RleSize d n st) :
    16 * (finish d st).s.length ≤ 17 * (n * d.bytes) + 48 := by
  unfold finish
  split
  · rename_i hw
    simp only [RleSt.fillWins, Bool.and_eq_true, decide_eq_true_eq] at hw
    have := h.flushFill (by omega)
    omega
  split
  · rename_i hw
    simp only [RleSt.mixWins, Bool.and_eq_true, decide_eq_true_eq] at hw
    have := h.flushMix (by omega)
    omega
  split
  · rename_i hw
    simp only [RleSt.colorWins, Bool.and_eq_true, decide_eq_true_eq] at hw
    have := h.flushColor (by omega)
    omega
  split
  · rename_i hw
    simp only [RleSt.bicolorWins, Bool.and_eq_true, decide_eq_true_eq] at hw
    have := h.flushBicolor (by omega)
    simp [RleSt.flush, RleSt.flushBicolor, outCopyCount, outBicolorCount] at this ⊢
    omega
  split
  · rename_i hw
    simp only [RleSt.fomWins, Bool.and_eq_true, decide_eq_true_eq] at hw
    have := h.flushFom (by omega)
    omega
  · have hsize := h.size
    have hcopy := outCopyCount_length d st.count (by rw [h.temp])
    have hhead := headerLength_le st.count
    simp only [RleSt.flush, List.length_append, Nat.sub_zero, hcopy, List.length_nil]
    split
    · omega
    · omega

end

theorem RleSize.init (d : Depth) : RleSize d 0 RleSt.init :=
  ⟨by simp [RleSt.init], le_rfl, le_rfl, le_rfl, le_rfl, le_rfl, rfl, by simp [RleSt.init]⟩

/-- The lines of a call: their bytes are bounded by the pixels, they are no more than fit
`BC_MAX_BYTES`, and with room for 17/16 of the image there are that many. -/
theorem imageLoop_size {d : Depth} {inData : Nat → UInt8} {width endX base : Nat}
    {byteLimit : Int} (todo : Nat) {r : Nat} {lastLine : Option Nat} {st : RleSt}
    (h : RleSize d (r * endX) st) :
    ∃ lines st', imageLoop d inData width endX base byteLimit todo
        ((r + 1) * (endX * d.bytes)) lastLine st = (lines, st') ∧
      RleSize d ((r + lines) * endX) st' ∧
      (0 < lines → (r + lines) * (endX * d.bytes) ≤ BC_MAX_BYTES) ∧
      (0 < todo → (r + 1) * (endX * d.bytes) ≤ BC_MAX_BYTES →
        16 * (base : Int) + 17 * (r * (endX * d.bytes) : Nat) < 16 * byteLimit → 0 < lines) := by
  induction todo generalizing r lastLine st with
  | zero => exact ⟨0, st, rfl, by simpa using h, by omega, by omega⟩
  | succ todo ih =>
    have hsize := h.size
    rw [Nat.mul_assoc] at hsize
    rw [imageLoop]
    split
    · rename_i hout
      exact ⟨0, st, rfl, by simpa using h, by omega, fun _ _ _ => by omega⟩
    rename_i hout
    -- the limit has not been reached while there is room
    have hlimit : 16 * (base : Int) + 17 * (r * (endX * d.bytes) : Nat) < 16 * byteLimit →
        overLimit d base byteLimit st = false := by
      intro hroom
      simp only [overLimit, Bool.and_eq_false_iff, decide_eq_false_iff_not]
      left; left; left; left
      push_cast at hsize hroom ⊢
      have : (0 : Int) ≤ st.colorCount * d.bytes := by positivity
      have hpend : (0 : Int) ≤ st.count * d.bytes := by positivity
      have hs : (16 : Int) * st.s.length + 17 * (st.count * d.bytes) ≤
          17 * (r * (endX * d.bytes)) := by
        exact_mod_cast hsize
      omega
    split
    · rename_i hover
      have hno : ¬16 * (base : Int) + 17 * (r * (endX * d.bytes) : Nat) < 16 * byteLimit := by
        intro hroom
        rw [hlimit hroom] at hover
        cases hover
      exact ⟨0, st, rfl, by simpa using h, by omega, fun _ _ hroom => absurd hroom hno⟩
    · set st1 := lineLoop d inData width (width * todo * d.inBytes) lastLine endX 0 st
      have h1 : RleSize d (r * endX + endX) st1 := lineLoop_size _ _ _ _ _ h
      have h2 : RleSize d ((r + 1) * endX) (if lastLine.isNone then endFirstLine d st1 else st1) := by
        rw [Nat.add_mul, Nat.one_mul]
        split
        · exact h1.endFill.endMix.endFom
        · exact h1
      obtain ⟨lines, st', hrec, hs, hmax, -⟩ := ih (r := r + 1) h2
      refine ⟨lines + 1, st', ?_, ?_, fun _ => ?_, fun _ _ _ => by omega⟩
      · simp only
        rw [show (r + 1) * (endX * d.bytes) + endX * d.bytes = (r + 1 + 1) * (endX * d.bytes) by
          ring, hrec]
      · rwa [show r + (lines + 1) = r + 1 + lines by omega]
      · rcases Nat.eq_zero_or_pos lines with h0 | h0
        · rw [h0]
          simpa using Nat.le_of_not_gt hout
        · rw [show r + (lines + 1) = r + 1 + lines by omega]
          exact hmax h0

/-- **The size of one call.** -/
theorem compress_length (inData : Nat → UInt8) (width : Nat) (d : Depth) (base : Nat)
    (byteLimit startLine : Int) (e : Nat) :
    16 * (xrdpBitmapCompress inData width d base byteLimit startLine e).2.length ≤
      17 * ((xrdpBitmapCompress inData width d base byteLimit startLine e).1 *
        ((width + e) * d.bytes)) + 48 ∧
    ((xrdpBitmapCompress inData width d base byteLimit startLine e).1 *
        ((width + e) * d.bytes)) ≤ BC_MAX_BYTES := by
  obtain ⟨lines, st, hloop, hs, hmax, -⟩ := @imageLoop_size d inData width (width + e) base
    byteLimit (startLine + 1).toNat 0 none _ (by simpa using RleSize.init d)
  rw [Nat.zero_add, Nat.one_mul] at hloop
  rw [Nat.zero_add] at hs hmax
  simp only [xrdpBitmapCompress, hloop]
  refine ⟨by rw [← Nat.mul_assoc lines]; exact finish_size hs, ?_⟩
  rcases Nat.eq_zero_or_pos lines with h0 | h0
  · simp [h0]
  · exact hmax h0

/-- **A line is always sent** when there is room to start one. -/
theorem compress_pos (inData : Nat → UInt8) {width : Nat} {d : Depth} {base : Nat}
    {byteLimit startLine : Int} {e : Nat} (hstart : 0 ≤ startLine)
    (hmax : (width + e) * d.bytes ≤ BC_MAX_BYTES) (hroom : base < byteLimit) :
    0 < (xrdpBitmapCompress inData width d base byteLimit startLine e).1 := by
  obtain ⟨lines, st, hloop, -, -, hpos⟩ := @imageLoop_size d inData width (width + e) base
    byteLimit (startLine + 1).toNat 0 none _ (by simpa using RleSize.init d)
  rw [Nat.zero_add, Nat.one_mul] at hloop
  simp only [xrdpBitmapCompress, hloop]
  exact hpos (by omega) (by simpa using hmax) (by simp; omega)

end Xrdp.Bitmap
