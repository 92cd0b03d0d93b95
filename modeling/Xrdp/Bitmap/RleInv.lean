import Xrdp.Bitmap.RleFormat

/-!
# The compressor's invariant

Between two pixels the bytes written so far decode to the image up to the pending pixels, the
pending pixels are in `temp_s`, and each counter counts pixels at the end of the image that
satisfy the relation of its run.

* `Decoded` — the decoder's side, `Decoded.order` — one more order.
* `RleInv` — the compressor's side.
* `RleInv.flushFill` and its kin — a run that is flushed leaves everything decoded.
-/

namespace Xrdp.Bitmap

open Wire

/-! ## The decoder's side -/

section

variable (d : Depth) (w : Nat → Nat) (rowDelta : Nat)

/-- The pixel above pixel `i`, black above the first line. -/
def above (i : Nat) : Nat := if i < rowDelta then 0 else w (i - rowDelta)

def IsFill (i : Nat) : Prop := w i = above w rowDelta i

def IsMix (i : Nat) : Prop := w i = above w rowDelta i ^^^ d.white

/-- `bs` decodes to the first `m` pixels of the image; `ins` says that a background run that
follows gets a foreground pel. -/
def Decoded (bs : List UInt8) (m : Nat) (ins : Bool) : Prop :=
  ∃ os, Reads d bs os ∧
    (os.foldl (DecSt.apply rowDelta) (DecSt.initial d)).out = (List.range m).map w ∧
    (os.foldl (DecSt.apply rowDelta) (DecSt.initial d)).fgPel = d.white ∧
    ((os.foldl (DecSt.apply rowDelta) (DecSt.initial d)).startOrder rowDelta).firstLine =
      decide (m < rowDelta) ∧
    ((os.foldl (DecSt.apply rowDelta) (DecSt.initial d)).startOrder rowDelta).insertFg = ins

end

section

variable {d : Depth} {w : Nat → Nat} {rowDelta : Nat}

@[simp] theorem DecSt.startOrder_out (st : DecSt) : (st.startOrder rowDelta).out = st.out := by
  unfold startOrder; split <;> rfl

@[simp] theorem DecSt.startOrder_fgPel (st : DecSt) :
    (st.startOrder rowDelta).fgPel = st.fgPel := by
  unfold startOrder; split <;> rfl

theorem Decoded.nil (hr : 0 < rowDelta) : Decoded d w rowDelta [] 0 false := by
  have h0 : ¬ rowDelta ≤ 0 := by omega
  exact ⟨[], Reads.nil d, rfl, rfl, by simp [DecSt.initial, DecSt.startOrder, h0, hr],
    by simp [DecSt.initial, DecSt.startOrder, h0]⟩

/-- One more order whose pens are right about the image. -/
theorem Decoded.order {bs cs : List UInt8} {m : Nat} {ins : Bool} {o : RleOrder}
    (hr : 0 < rowDelta) (h : Decoded d w rowDelta bs m ins) (hp : Parses d cs o)
    (hfg : o.newFg d.white = d.white)
    (hpens : ∀ j pen, (o.pens ins)[j]? = some pen →
      PenOk w rowDelta d.white (decide (m < rowDelta)) (m + j) pen) :
    Decoded d w rowDelta (bs ++ cs) (m + (o.pens ins).length)
      (o.isBgRun && !(decide (m < rowDelta) && decide (rowDelta ≤ m + (o.pens ins).length))) := by
  obtain ⟨os, hreads, hout, hpel, hfirst, hins⟩ := h
  refine ⟨os ++ [o], hreads.snoc hp, ?_⟩
  rw [List.foldl_append, List.foldl_cons, List.foldl_nil]
  generalize os.foldl (DecSt.apply rowDelta) (DecSt.initial d) = D at *
  have hw : (D.apply rowDelta o).out = (List.range (m + (o.pens ins).length)).map w := by
    simp only [DecSt.apply, DecSt.startOrder_out, DecSt.startOrder_fgPel, hfirst, hins, hpel, hfg,
      hout]
    exact writePens_range hr (by simp) _ hpens
  have hfl : (D.apply rowDelta o).firstLine = decide (m < rowDelta) := hfirst
  refine ⟨hw, ?_, ?_, ?_⟩
  · simp only [DecSt.apply, DecSt.startOrder_fgPel, hpel, hfg]
  · unfold DecSt.startOrder
    rw [hw, hfl, List.length_map, List.length_range]
    by_cases h1 : m < rowDelta <;>
      by_cases h2 : rowDelta ≤ m + (o.pens ins).length <;> simp [h1, h2, hfl] <;> omega
  · have hi : (D.apply rowDelta o).insertFg = o.isBgRun := rfl
    unfold DecSt.startOrder
    rw [hw, hfl, List.length_map, List.length_range]
    by_cases h1 : m < rowDelta <;>
      by_cases h2 : rowDelta ≤ m + (o.pens ins).length <;> simp [h1, h2, hi]

/-- Orders other than background runs. -/
theorem Decoded.order' {bs cs : List UInt8} {m n : Nat} {ins : Bool} {o : RleOrder}
    (hr : 0 < rowDelta) (h : Decoded d w rowDelta bs m ins) (hp : Parses d cs o)
    (hfg : o.newFg d.white = d.white) (hbg : o.isBgRun = false) (hn : m + (o.pens ins).length = n)
    (hpens : ∀ j pen, (o.pens ins)[j]? = some pen →
      PenOk w rowDelta d.white (decide (m < rowDelta)) (m + j) pen) :
    Decoded d w rowDelta (bs ++ cs) n false := by
  have := h.order hr hp hfg hpens
  rwa [hbg, Bool.false_and, hn] at this

/-- The pending pixels in front of a run. -/
theorem Decoded.copy {bs : List UInt8} {m n : Nat} {ins : Bool} {ps qs : List Nat}
    (hr : 0 < rowDelta) (h : Decoded d w rowDelta bs m ins) (hn : n < 65536)
    (hlen : ps.length = n) (hps : ∀ j p, ps[j]? = some p → w (m + j) = wire d p) :
    ∃ ins', Decoded d w rowDelta (bs ++ outCopyCount d n ((ps ++ qs).flatMap (outPixel d))) (m + n)
      ins' ∧ (ins' = true → ins = true ∧ n = 0) := by
  rcases Nat.eq_zero_or_pos n with h0 | h1
  · refine ⟨ins, ?_, fun hi => ⟨hi, h0⟩⟩
    simpa [outCopyCount, h0] using h
  · refine ⟨false, ?_, by simp⟩
    refine h.order' hr (parses_copy d hlen h1 hn) rfl rfl (by simp [RleOrder.pens, hlen]) ?_
    intro j pen hj
    simp only [RleOrder.pens, List.map_map, List.getElem?_map, Option.map_eq_some_iff] at hj
    obtain ⟨p, hp, rfl⟩ := hj
    exact hps j p hp

/-- All pixels of the image from `m` up to `n` are chosen by one pen. -/
theorem replicate_pens {m n : Nat} {pen : Pen} {P : Nat → Prop} {first : Bool} {c : Nat}
    (hP : ∀ i, m ≤ i → i < n → P i) (hc : m + c = n)
    (hok : ∀ i, m ≤ i → i < n → P i → PenOk w rowDelta d.white first i pen) :
    ∀ j q, (List.replicate c pen)[j]? = some q → PenOk w rowDelta d.white first (m + j) q := by
  intro j q hj
  rw [List.getElem?_replicate] at hj
  split at hj
  · cases hj
    exact hok _ (by omega) (by omega) (hP _ (by omega) (by omega))
  · cases hj

/-- A run relates to the line above; it lies inside the first line or behind it. -/
theorem penOk_bg {m n i : Nat} (hline : n ≤ rowDelta ∨ rowDelta ≤ m) (hm : m ≤ i) (hi : i < n)
    (h : IsFill w rowDelta i) : PenOk w rowDelta d.white (decide (m < rowDelta)) i .bg := by
  unfold IsFill above at h
  simp only [PenOk, h]
  by_cases hf : m < rowDelta
  · have hi' : i < rowDelta := by omega
    simp [hf, hi']
  · have hi' : ¬ i < rowDelta := by omega
    simp [hf, hi']

theorem penOk_fg {m n i : Nat} (hline : n ≤ rowDelta ∨ rowDelta ≤ m) (hm : m ≤ i) (hi : i < n)
    (h : IsMix d w rowDelta i) : PenOk w rowDelta d.white (decide (m < rowDelta)) i .fg := by
  unfold IsMix above at h
  simp only [PenOk, h]
  by_cases hf : m < rowDelta
  · have hi' : i < rowDelta := by omega
    simp [hf, hi']
  · have hi' : ¬ i < rowDelta := by omega
    simp [hf, hi']

theorem Decoded.fill {bs : List UInt8} {m n c : Nat} (hr : 0 < rowDelta)
    (h : Decoded d w rowDelta bs m false) (hc : m + c = n) (h1 : 1 ≤ c) (hn : n < 65536)
    (hline : n ≤ rowDelta ∨ rowDelta ≤ m) (hrun : ∀ i, m ≤ i → i < n → IsFill w rowDelta i) :
    ∃ ins, Decoded d w rowDelta (bs ++ outFillCount c) n ins ∧
      (ins = true → ¬ (n = rowDelta ∧ m < rowDelta)) := by
  have hd := h.order hr (parses_fill d h1 (by omega)) rfl
    (replicate_pens hrun hc fun i hm hi hf => penOk_bg hline hm hi hf)
  simp only [RleOrder.pens, Bool.false_eq_true, if_false, List.length_replicate, hc] at hd
  refine ⟨_, hd, ?_⟩
  rintro hi ⟨rfl, hm⟩
  simp [hm] at hi

theorem Decoded.mix {bs : List UInt8} {m n c : Nat} {ins : Bool} (hr : 0 < rowDelta)
    (h : Decoded d w rowDelta bs m ins) (hc : m + c = n) (h1 : 1 ≤ c) (hn : n < 65536)
    (hline : n ≤ rowDelta ∨ rowDelta ≤ m) (hrun : ∀ i, m ≤ i → i < n → IsMix d w rowDelta i) :
    Decoded d w rowDelta (bs ++ outMixCount c) n false :=
  h.order' hr (parses_mix d h1 (by omega)) rfl rfl (by simp [RleOrder.pens, hc])
    (replicate_pens hrun hc fun i hm hi hf => penOk_fg hline hm hi hf)

theorem Decoded.color {bs : List UInt8} {m n c p : Nat} {ins : Bool} (hr : 0 < rowDelta)
    (h : Decoded d w rowDelta bs m ins) (hc : m + c = n) (h1 : 1 ≤ c) (hn : n < 65536)
    (hrun : ∀ i, m ≤ i → i < n → w i = wire d p) :
    Decoded d w rowDelta (bs ++ outColorCount d c p) n false :=
  h.order' hr (parses_color d h1 (by omega)) rfl rfl (by simp [RleOrder.pens, hc])
    (replicate_pens hrun hc fun _ _ _ hf => hf)

theorem Decoded.bicolor {bs : List UInt8} {m n c a b : Nat} {ins : Bool} (hr : 0 < rowDelta)
    (h : Decoded d w rowDelta bs m ins) (hc : m + c = n) (h2 : 2 ≤ c) (heven : c % 2 = 0)
    (hn : n < 65536) (hrun : ∀ j < c, w (m + j) = wire d (if j % 2 = 0 then a else b)) :
    Decoded d w rowDelta (bs ++ outBicolorCount d c a b) n false := by
  refine h.order' hr (parses_bicolor d (by omega) (by omega)) rfl rfl
    (by simp [RleOrder.pens]; omega) ?_
  intro j pen hj
  simp only [RleOrder.pens, List.getElem?_map, Option.map_eq_some_iff] at hj
  obtain ⟨i, hi, rfl⟩ := hj
  have hij := List.getElem?_eq_some_iff.1 hi
  obtain ⟨hlt, rfl⟩ := hij
  rw [List.length_range] at hlt
  rw [List.getElem_range]
  have := hrun j (by omega)
  simp only [PenOk, this]
  split <;> rfl

theorem Decoded.fom {bs : List UInt8} {m n c : Nat} {mask : List UInt8} {ins : Bool}
    (hr : 0 < rowDelta) (h : Decoded d w rowDelta bs m ins) (hc : m + c = n) (h1 : 1 ≤ c)
    (hn : n < 65536) (hmask : mask.length = (c + 7) / 8) (hline : n ≤ rowDelta ∨ rowDelta ≤ m)
    (hrun : ∀ j < c, if maskBit mask j then IsMix d w rowDelta (m + j)
      else IsFill w rowDelta (m + j)) :
    Decoded d w rowDelta (bs ++ outFomCount c mask) n false := by
  refine h.order' hr (parses_fom d h1 (by omega) hmask) rfl rfl (by simp [RleOrder.pens, hc]) ?_
  intro j pen hj
  simp only [RleOrder.pens, List.getElem?_map, Option.map_eq_some_iff] at hj
  obtain ⟨i, hi, rfl⟩ := hj
  obtain ⟨hlt, rfl⟩ := List.getElem?_eq_some_iff.1 hi
  rw [List.length_range] at hlt
  rw [List.getElem_range]
  have := hrun j hlt
  split at this
  · rename_i hb
    rw [if_pos hb]
    exact penOk_fg hline (by omega) (by omega : m + j < n) this
  · rename_i hb
    rw [if_neg hb]
    exact penOk_bg hline (by omega) (by omega : m + j < n) this

end

/-! ## The compressor's side -/

/-- A counter of pixels at the end of the image, `n` pixels long so far, that have not been
written. -/
structure TailRun (P : Nat → Prop) (n count c : Nat) : Prop where
  le : c ≤ count
  run : ∀ i, n - c ≤ i → i < n → P i

/-- A counter that refers to the line above does not straddle the end of the first line. -/
def OneSide (rowDelta : Nat) (first : Bool) (n c : Nat) : Prop :=
  if first then n ≤ rowDelta else rowDelta + c ≤ n

/-- The compressor after `n` pixels.  `first` is `last_line == 0`; `slack` is one while a pixel is
being looked at that is no background pixel, else zero. -/
structure RleInv (d : Depth) (w : Nat → Nat) (rowDelta : Nat) (first : Bool) (slack n : Nat)
    (st : RleSt) : Prop where
  small : n ≤ 16384
  count_le : st.count ≤ n
  side : OneSide rowDelta first n 0
  pending : ∃ ps : List Nat, st.tempS = ps.flatMap (outPixel d) ∧ ps.length = st.count ∧
    ∀ j p, ps[j]? = some p → w (n - st.count + j) = wire d p
  decoded : ∃ ins, Decoded d w rowDelta st.s (n - st.count) ins ∧
    (ins = true → st.fillCount < st.count + slack)
  fill : TailRun (IsFill w rowDelta) n st.count st.fillCount
  fillSide : OneSide rowDelta first n st.fillCount
  mix : TailRun (IsMix d w rowDelta) n st.count st.mixCount
  mixSide : OneSide rowDelta first n st.mixCount
  color : TailRun (fun i => w i = wire d st.lastPixel) n st.count st.colorCount
  bicolor_le : st.bicolorCount ≤ st.count
  bicolor : ∀ j < st.bicolorCount,
    w (n - st.bicolorCount + j) = wire d (if j % 2 = 0 then st.bicolor1 else st.bicolor2)
  spin : st.bicolorSpin = decide (st.bicolorCount % 2 = 1)
  fom_le : st.fomCount ≤ st.count
  fomSide : OneSide rowDelta first n st.fomCount
  fom : ∀ j < st.fomCount, if maskBit st.fomMask j then IsMix d w rowDelta (n - st.fomCount + j)
    else IsFill w rowDelta (n - st.fomCount + j)
  fomMask_length : st.fomMask.length = (st.fomCount + 7) / 8
  fomMask_zero : ∀ j, st.fomCount ≤ j → maskBit st.fomMask j = false

section

variable {d : Depth} {w : Nat → Nat} {rowDelta n slack : Nat} {first : Bool} {st : RleSt}

theorem OneSide.line {c : Nat} (h : OneSide rowDelta first n c) :
    n ≤ rowDelta ∨ rowDelta ≤ n - c := by
  unfold OneSide at h
  split at h
  · exact .inl h
  · right; omega

/-- What a flush writes before the order of its run. -/
theorem RleInv.flushCopy (h : RleInv d w rowDelta first slack n st) (hr : 0 < rowDelta) {run : Nat}
    (hrun : run ≤ st.count) :
    ∃ ins, Decoded d w rowDelta (st.s ++ outCopyCount d (st.count - run) st.tempS) (n - run) ins ∧
      (ins = true → st.fillCount < st.count + slack ∧ st.count = run) := by
  obtain ⟨ps, htemp, hlen, hps⟩ := h.pending
  obtain ⟨ins, hdec, hins⟩ := h.decoded
  have hsmall := h.small
  have hcount := h.count_le
  have hsplit : ps = ps.take (st.count - run) ++ ps.drop (st.count - run) :=
    (List.take_append_drop _ _).symm
  obtain ⟨ins', hd, hi⟩ := @Decoded.copy _ _ _ _ _ (st.count - run) _
    (ps.take (st.count - run)) _ hr hdec (by omega) (by simp; omega) (fun j p hj => by
      rw [List.getElem?_take] at hj
      split at hj
      · exact hps j p hj
      · cases hj)
  rw [← hsplit, ← htemp, show n - st.count + (st.count - run) = n - run by omega] at hd
  refine ⟨ins', hd, fun h' => ?_⟩
  obtain ⟨h1, h2⟩ := hi h'
  exact ⟨hins h1, by omega⟩

theorem RleInv.flushFill (h : RleInv d w rowDelta first 0 n st) (hr : 0 < rowDelta)
    (hpos : 0 < st.fillCount) :
    ∃ ins, Decoded d w rowDelta (st.flushFill d).s n ins ∧
      (ins = true → ¬ (first = true ∧ n = rowDelta)) := by
  have hle := h.fill.le
  have hcount := h.count_le
  have hsmall := h.small
  obtain ⟨ins, hd, hi⟩ := h.flushCopy hr hle
  obtain rfl : ins = false := by
    cases ins with
    | false => rfl
    | true => have := hi rfl; omega
  obtain ⟨ins', hd', hi'⟩ := hd.fill hr (n := n) (c := st.fillCount) (by omega) hpos (by omega)
    h.fillSide.line h.fill.run
  exact ⟨ins', hd', fun ht ⟨_, hn⟩ => hi' ht ⟨hn, by omega⟩⟩

theorem RleInv.flushMix (h : RleInv d w rowDelta first slack n st) (hr : 0 < rowDelta)
    (hpos : 0 < st.mixCount) : Decoded d w rowDelta (st.flushMix d).s n false := by
  have hle := h.mix.le
  have hcount := h.count_le
  have hsmall := h.small
  obtain ⟨ins, hd, -⟩ := h.flushCopy hr hle
  exact hd.mix hr (by omega) hpos (by omega) h.mixSide.line h.mix.run

theorem RleInv.flushColor (h : RleInv d w rowDelta first slack n st) (hr : 0 < rowDelta)
    (hpos : 0 < st.colorCount) : Decoded d w rowDelta (st.flushColor d).s n false := by
  have hle := h.color.le
  have hcount := h.count_le
  have hsmall := h.small
  obtain ⟨ins, hd, -⟩ := h.flushCopy hr hle
  exact hd.color hr (by omega) hpos (by omega) h.color.run

theorem RleInv.flushBicolor (h : RleInv d w rowDelta first slack n st) (hr : 0 < rowDelta)
    (hpos : 3 < st.bicolorCount) : Decoded d w rowDelta (st.flushBicolor d).s n false := by
  have hle := h.bicolor_le
  have hcount := h.count_le
  have hsmall := h.small
  by_cases heven : st.bicolorCount % 2 = 0
  · simp only [RleSt.flushBicolor, if_pos heven]
    obtain ⟨ins, hd, -⟩ := h.flushCopy hr hle
    exact hd.bicolor hr (by omega) (by omega) heven (by omega) h.bicolor
  · simp only [RleSt.flushBicolor, if_neg heven]
    obtain ⟨ins, hd, -⟩ := @RleInv.flushCopy _ _ _ _ _ _ _ h hr (st.bicolorCount - 1) (by omega)
    refine hd.bicolor hr (by omega) (by omega) (by omega) (by omega) fun j hj => ?_
    have hb := h.bicolor (j + 1) (by omega)
    rw [show n - st.bicolorCount + (j + 1) = n - (st.bicolorCount - 1) + j by omega] at hb
    rw [hb]
    rcases Nat.mod_two_eq_zero_or_one j with hj2 | hj2
    · rw [if_neg (by omega), if_pos hj2]
    · rw [if_pos (by omega), if_neg (by omega)]

theorem RleInv.flushFom (h : RleInv d w rowDelta first slack n st) (hr : 0 < rowDelta)
    (hpos : 0 < st.fomCount) : Decoded d w rowDelta (st.flushFom d).s n false := by
  have hle := h.fom_le
  have hcount := h.count_le
  have hsmall := h.small
  obtain ⟨ins, hd, -⟩ := h.flushCopy hr hle
  exact hd.fom hr (by omega) hpos (by omega) h.fomMask_length h.fomSide.line h.fom

end

end Xrdp.Bitmap
