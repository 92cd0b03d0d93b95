import Xrdp.Bitmap.PlanarRoundTrip

/-!
# Where the planar round trip ends

An opaque red image is not read back with any width and flags that `PlanarFits` excludes: a first
line of more than 4096 bytes runs into the next plane, and the green it should not have gets there
too; behind a header with a color space the red plane is luma.

* `red_not_readBack` — no result of a call with the red image is right.
* `planar_round_trip_iff` — the round trip for every image, exactly within `PlanarFits`.
-/

namespace Xrdp.Bitmap

/-- Pixels with alpha and red only. -/
def redImage : Nat → UInt8 := fun i => if i % 4 < 2 then 0 else 255

def redPixel : Nat := 0xFFFF0000

/-- A work buffer that is nowhere zero. -/
def usedBuf : Buf UInt8 := ⟨65536, fun _ => 255⟩

theorem pixel32_red (line width x : Nat) :
    pixel32 redImage (line * width * 4) x = redPixel := by
  have h0 : (line * width * 4 + 4 * x) % 4 = 0 := by omega
  have h1 : (line * width * 4 + 4 * x + 1) % 4 = 1 := by omega
  have h2 : (line * width * 4 + 4 * x + 2) % 4 = 2 := by omega
  have h3 : (line * width * 4 + 4 * x + 3) % 4 = 3 := by omega
  unfold pixel32 redImage redPixel
  rw [h0, h1, h2, h3]
  rfl

theorem planarLine_red {width e : Nat} (hw : 0 < width) :
    planarLine redImage width e 0 = List.replicate (width + e) redPixel := by
  have hpx : (List.range width).map (pixel32 redImage (0 * width * 4)) =
      List.replicate width redPixel := by
    rw [List.map_congr_left (g := fun _ => redPixel) fun x _ => pixel32_red 0 width x]
    simp
  simp only [planarLine, hpx]
  rw [List.replicate_add]
  congr 1
  cases width with
  | zero => omega
  | succ width => rw [List.replicate_succ', List.getLastD_concat]

/-- The first pixel of the line has no green, and no pixel if the line is empty. -/
theorem planarLine_red_green {width e : Nat} (hpw : 0 < width + e) (noAlpha : Bool) :
    ∃ q, ((planarLine redImage width e 0).map (argbOf noAlpha))[0]? = some q ∧ q.g = 0 := by
  rcases Nat.eq_zero_or_pos width with rfl | hw
  · cases e with
    | zero => omega
    | succ e => exact ⟨_, rfl, rfl⟩
  · rw [planarLine_red hw]
    cases h : width + e with
    | zero => omega
    | succ n => exact ⟨_, rfl, by cases noAlpha <;> rfl⟩

/-! ## Planes that run into each other -/

/-- The bytes below the green plane are set, and so is its first byte if `reached`. -/
structure Spilled (reached : Prop) (buf : Buf UInt8) : Prop where
  below : ∀ j < 2 * PLANE_BYTES, buf.cells j = 255
  green : reached → buf.cells (2 * PLANE_BYTES) = 255

theorem memcpy_cells {b b' : Buf UInt8} {off : Nat} {src : List UInt8}
    (h : b.memcpy off src = .ok b') :
    b'.cells = fun j => if off ≤ j then (src[j - off]?).getD (b.cells j) else b.cells j := by
  unfold Buf.memcpy at h
  split at h
  · cases h
    rfl
  · cases h

theorem write_cells {b b' : Buf UInt8} {i : Nat} {v : UInt8} (h : b.write i v = .ok b') :
    b'.cells = fun j => if j = i then v else b.cells j := by
  unfold Buf.write at h
  split at h
  · cases h
    rfl
  · cases h

/-- Copying set bytes. -/
theorem memcpy_set {b b' : Buf UInt8} {off n : Nat}
    (h : b.memcpy off (List.replicate n 255) = .ok b') {j : Nat}
    (hj : b.cells j = 255 ∨ off ≤ j ∧ j < off + n) : b'.cells j = 255 := by
  rw [memcpy_cells h]
  dsimp only
  split
  · rcases Nat.lt_or_ge (j - off) n with hlt | hge
    · simp [hlt]
    · rw [List.getElem?_eq_none (by simpa using hge)]
      exact hj.resolve_right (by omega)
  · exact hj.resolve_right (by omega)

theorem memcpy_before {b b' : Buf UInt8} {off : Nat} {src : List UInt8}
    (h : b.memcpy off src = .ok b') {j : Nat} (hj : j < off) : b'.cells j = b.cells j := by
  rw [memcpy_cells h]
  exact if_neg (by omega)

theorem storePixels_spilled {noAlpha : Bool} {o n : Nat} {buf buf' : Buf UInt8} (hn : 0 < n)
    (hn4 : n ≤ 4)
    (hok : storePixels (planesOf noAlpha) o (List.replicate n redPixel) buf = .ok buf')
    (h : Spilled (PLANE_BYTES < o) buf) : Spilled (PLANE_BYTES < o + n) buf' := by
  have hbyte : ∀ s, (List.replicate n redPixel).map (planeByte s) =
      List.replicate n (planeByte s redPixel) := fun s => List.map_replicate
  have ha : planeByte 24 redPixel = 255 := by decide
  have hr : planeByte 16 redPixel = 255 := by decide
  -- red and what follows
  have hrgb : ∀ b : Buf UInt8, Spilled (PLANE_BYTES < o) b →
      [rPlane, gPlane, bPlane].foldlM (fun buf p => buf.memcpy (p.sData + o)
        ((List.replicate n redPixel).map (planeByte p.shift))) b = .ok buf' →
      Spilled (PLANE_BYTES < o + n) buf' := by
    intro b hb hrest
    simp only [List.foldlM_cons, List.foldlM_nil, Run.bind_eq_ok, Run.pure_eq, hbyte] at hrest
    obtain ⟨b₁, h₁, b₂, h₂, b₃, h₃, heq⟩ := hrest
    cases heq
    rw [show planeByte rPlane.shift redPixel = 255 from hr] at h₁
    simp only [rPlane, gPlane, bPlane, PLANE_BYTES] at h₁ h₂ h₃
    constructor
    · intro j hj
      rw [PLANE_BYTES] at hj
      rw [memcpy_before h₃ (by omega), memcpy_before h₂ (by omega)]
      exact memcpy_set h₁ (.inl (hb.below j (by rw [PLANE_BYTES]; omega)))
    · intro hreach
      rw [PLANE_BYTES] at hreach ⊢
      rw [memcpy_before h₃ (by omega), memcpy_before h₂ (by omega)]
      refine memcpy_set h₁ ?_
      rcases Nat.lt_or_ge 4096 o with hlt | hge
      · exact .inl (hb.green (by rw [PLANE_BYTES]; omega))
      · exact .inr (by omega)
  unfold storePixels at hok
  cases noAlpha with
  | true => exact hrgb buf h hok
  | false =>
    simp only [planesOf, Bool.false_eq_true, if_false] at hok
    rw [List.foldlM_cons, Run.bind_eq_ok] at hok
    obtain ⟨b, hb, hrest⟩ := hok
    rw [hbyte, show planeByte aPlane.shift redPixel = 255 from ha] at hb
    exact hrgb b ⟨fun j hj => memcpy_set hb (.inl (h.below j hj)),
      fun hreach => memcpy_set hb (.inl (h.green hreach))⟩ hrest

theorem padByte_spilled {o : Nat} {p : Plane} {reached : Prop} {buf buf' : Buf UInt8}
    (hok : padByte o buf p = .ok buf') (h : Spilled reached buf) :
    Spilled (reached ∨ p.sData + o = 2 * PLANE_BYTES) buf' := by
  unfold padByte at hok
  cases hi : p.sData + o with
  | zero => rw [hi] at hok; cases hok
  | succ i =>
    rw [hi] at hok
    obtain ⟨b, hb, hw⟩ := Run.bind_eq_ok.1 hok
    obtain ⟨-, rfl⟩ := Buf.read_eq_ok hb
    have hcells := write_cells hw
    constructor
    · intro j hj
      rw [hcells]
      dsimp only
      split
      · exact h.below i (by omega)
      · exact h.below j hj
    · intro hreach
      rw [hcells]
      dsimp only
      split
      · exact h.below i (by omega)
      · exact h.green (hreach.resolve_right (by omega))

theorem padBytes_spilled {o : Nat} {planes : List Plane} {reached : Prop} {buf buf' : Buf UInt8}
    (hok : planes.foldlM (padByte o) buf = .ok buf') (h : Spilled reached buf) :
    Spilled (reached ∨ ∃ p ∈ planes, p.sData + o = 2 * PLANE_BYTES) buf' := by
  induction planes generalizing reached buf with
  | nil =>
    cases hok
    exact ⟨h.below, fun hr => h.green (hr.resolve_right fun ⟨_, hp, _⟩ => by cases hp)⟩
  | cons p planes ih =>
    rw [List.foldlM_cons, Run.bind_eq_ok] at hok
    obtain ⟨b, hb, hrest⟩ := hok
    have := ih hrest (padByte_spilled hb h)
    refine ⟨this.below, fun hr => this.green ?_⟩
    rcases hr with hr | ⟨q, hq, heq⟩
    · exact .inl (.inl hr)
    rcases List.mem_cons.1 hq with rfl | hq
    · exact .inl (.inr heq)
    · exact .inr ⟨q, hq, heq⟩

theorem rPlane_mem (noAlpha : Bool) : rPlane ∈ planesOf noAlpha := by cases noAlpha <;> decide

theorem gPlane_mem (noAlpha : Bool) : gPlane ∈ planesOf noAlpha := by cases noAlpha <;> decide

theorem padLine_spilled {noAlpha : Bool} {e o : Nat} {zeroWidth : Prop} {buf buf' : Buf UInt8}
    (hok : padLine (planesOf noAlpha) e o buf = .ok buf')
    (h : Spilled (zeroWidth ∨ PLANE_BYTES < o) buf) :
    Spilled (zeroWidth ∨ PLANE_BYTES < o + e) buf' := by
  induction e generalizing o buf with
  | zero =>
    cases hok
    exact h
  | succ e ih =>
    rw [padLine, Run.bind_eq_ok] at hok
    obtain ⟨b, hb, hrest⟩ := hok
    have hb := padBytes_spilled hb h
    rw [← Nat.add_assoc, Nat.add_right_comm]
    refine ih hrest ⟨hb.below, fun hr => hb.green ?_⟩
    rcases hr with hr | hr
    · exact .inl (.inl hr)
    rcases Nat.lt_or_ge PLANE_BYTES o with hlt | hge
    · exact .inl (.inr hlt)
    · exact .inr ⟨rPlane, rPlane_mem noAlpha, by simp only [rPlane]; omega⟩

theorem splitLine_spilled {noAlpha : Bool} {width line todo index o : Nat} {buf buf' : Buf UInt8}
    (hok : splitLine redImage (line * width * 4) (planesOf noAlpha) todo index o buf = .ok buf')
    (h : Spilled (PLANE_BYTES < o) buf) : Spilled (PLANE_BYTES < o + todo) buf' := by
  induction todo using Nat.strong_induction_on generalizing index o buf with
  | _ todo ih =>
    have hround : ∀ n, 0 < n → n ≤ 4 → n ≤ todo →
        (splitLine redImage (line * width * 4) (planesOf noAlpha) todo index o buf =
          storePixels (planesOf noAlpha) o ((List.range n).map fun k =>
            pixel32 redImage (line * width * 4) (index + k)) buf >>=
          splitLine redImage (line * width * 4) (planesOf noAlpha) (todo - n) (index + n) (o + n)) →
        Spilled (PLANE_BYTES < o + todo) buf' := by
      intro n hn hn4 hle heq
      rw [heq, Run.bind_eq_ok] at hok
      obtain ⟨b, hb, hrest⟩ := hok
      rw [List.map_congr_left (g := fun _ => redPixel) fun k _ => pixel32_red line width (index + k),
        List.map_const', List.length_range] at hb
      have := ih (todo - n) (by omega) hrest (storePixels_spilled hn hn4 hb h)
      rwa [Nat.add_assoc, Nat.add_sub_of_le hle] at this
    rcases Nat.eq_zero_or_pos todo with rfl | hpos
    · rw [splitLine] at hok
      cases hok
      exact h
    rcases Nat.lt_or_ge todo 4 with hlt | hge
    · refine hround 1 one_pos (by omega) hpos ?_
      obtain rfl | rfl | rfl : todo = 1 ∨ todo = 2 ∨ todo = 3 := by omega
      all_goals rfl
    · obtain ⟨m, rfl⟩ := Nat.exists_eq_add_of_le' hge
      exact hround 4 (by omega) le_rfl hge rfl

/-- One line of a width that does not fit, or without pixels. -/
theorem fsplit_spilled {noAlpha : Bool} {width e cy : Nat} {buf : Buf UInt8}
    (hwide : width = 0 ∨ PLANE_BYTES < width + e)
    (hok : fsplit redImage width e (planesOf noAlpha) 1 0 0 usedBuf = .ok (cy, buf)) :
    cy = 1 ∧ Spilled True buf := by
  rw [fsplit, Run.bind_eq_ok] at hok
  obtain ⟨b₁, h₁, hok⟩ := hok
  obtain ⟨b₂, h₂, hok⟩ := Run.bind_eq_ok.1 hok
  have hs₁ : Spilled (width = 0 ∨ PLANE_BYTES < 0 + width) b₁ := by
    rcases Nat.eq_zero_or_pos width with rfl | hw
    · cases h₁
      exact ⟨fun _ _ => rfl, fun _ => rfl⟩
    · have := splitLine_spilled h₁ ⟨fun _ _ => rfl, fun _ => rfl⟩
      exact ⟨this.below, fun hr => this.green (hr.resolve_left (by omega))⟩
  have hs₂ := padLine_spilled h₂ hs₁
  rw [Nat.zero_add] at hs₂
  have hgreen : Spilled True b₂ := ⟨hs₂.below, fun _ => hs₂.green hwide⟩
  split at hok
  · cases hok
    exact ⟨rfl, hgreen⟩
  · cases hok
    exact ⟨rfl, hgreen⟩

/-- `fdelta` of one line copies it. -/
theorem fdelta_line {inPlane outPlane cx : Nat} {buf buf' : Buf UInt8} (hcx : 0 < cx)
    (h : fdelta inPlane outPlane cx 1 buf = .ok buf') :
    buf'.cells outPlane = buf.cells inPlane ∧ ∀ j < outPlane, buf'.cells j = buf.cells j := by
  unfold fdelta readBytes at h
  split at h
  · rw [Run.ok_bind, Run.bind_eq_ok] at h
    obtain ⟨b, hb, hok⟩ := h
    rw [Nat.mul_one, Nat.sub_self] at hok
    cases hok
    refine ⟨?_, fun j hj => memcpy_before hb hj⟩
    rw [memcpy_cells hb]
    simp [hcx]
  · cases h

/-- The first bytes of red and green, before and behind `fdelta`. -/
structure Green (buf : Buf UInt8) : Prop where
  red : buf.cells rPlane.sData = 255
  green : buf.cells gPlane.sData = 255
  redDelta : buf.cells rPlane.data = 255
  greenDelta : buf.cells gPlane.data = 255

theorem fdeltas_green {noAlpha : Bool} {cx : Nat} {buf buf' : Buf UInt8} (hcx : 0 < cx)
    (h : Spilled True buf)
    (hok : (planesOf noAlpha).foldlM (fun buf p => fdelta p.sData p.data cx 1 buf) buf =
      .ok buf') : Green buf' := by
  have hrgb : ∀ b : Buf UInt8, b.cells rPlane.sData = 255 → b.cells gPlane.sData = 255 →
      [rPlane, gPlane, bPlane].foldlM (fun buf p => fdelta p.sData p.data cx 1 buf) b = .ok buf' →
      Green buf' := by
    intro b hr hg hrest
    simp only [List.foldlM_cons, List.foldlM_nil, Run.bind_eq_ok, Run.pure_eq] at hrest
    obtain ⟨b₁, h₁, b₂, h₂, b₃, h₃, heq⟩ := hrest
    cases heq
    obtain ⟨hd₁, hk₁⟩ := fdelta_line hcx h₁
    obtain ⟨hd₂, hk₂⟩ := fdelta_line hcx h₂
    obtain ⟨-, hk₃⟩ := fdelta_line hcx h₃
    constructor
    · rw [hk₃ _ (by decide), hk₂ _ (by decide), hk₁ _ (by decide), hr]
    · rw [hk₃ _ (by decide), hk₂ _ (by decide), hk₁ _ (by decide), hg]
    · rw [hk₃ _ (by decide), hk₂ _ (by decide), hd₁, hr]
    · rw [hk₃ _ (by decide), hd₂, hk₁ _ (by decide), hg]
  have hr : buf.cells rPlane.sData = 255 := h.below _ (by decide)
  have hg : buf.cells gPlane.sData = 255 := h.green trivial
  cases noAlpha with
  | true => exact hrgb buf hr hg hok
  | false =>
    simp only [planesOf, Bool.false_eq_true, if_false] at hok
    rw [List.foldlM_cons, Run.bind_eq_ok] at hok
    obtain ⟨b, hb, hrest⟩ := hok
    obtain ⟨-, hk⟩ := fdelta_line hcx hb
    exact hrgb b ((hk _ (by decide)).trans hr) ((hk _ (by decide)).trans hg) hrest

/-! ## What the client sees -/

/-- Whatever is decoded, the first pixel has green. -/
def ShowsGreen (cx : Nat) (bytes : List UInt8) : Prop :=
  ∀ px, planarDecode cx 1 bytes = some px → ∃ q, px[0]? = some q ∧ q.g ≠ 0

theorem ShowsGreen.not_readBack {width e : Nat} {noAlpha : Bool} {byteLimit : Int}
    {bytes : List UInt8} (hpw : 0 < width + e) (h : ShowsGreen (width + e) bytes) :
    ¬ReadBack (width + e) noAlpha byteLimit (planarLines redImage width e 1 1) (1, bytes) := by
  intro hread
  obtain ⟨q, hq, hgreen⟩ := h _ hread.pixels
  obtain ⟨q', hq', h0⟩ := planarLine_red_green hpw noAlpha
  have hline : ((planarLines redImage width e 1 1).take 1).flatten =
      planarLine redImage width e 0 := by simp [planarLines]
  rw [hline, hq'] at hq
  cases hq
  exact hgreen h0

theorem foutraw_green {cx : Nat} {noAlpha : Bool} {buf : Buf UInt8} {bytes : List UInt8}
    (hcx : 0 < cx) (hgreen : buf.cells gPlane.sData = 255)
    (hok : foutraw buf (cx * 1) (rawHeader noAlpha) (planesOf noAlpha) = .ok bytes) :
    ShowsGreen cx bytes := by
  rw [foutraw, Run.bind_eq_ok] at hok
  obtain ⟨raw, hraw, hbytes⟩ := hok
  obtain ⟨enc, henc, rfl⟩ := Run.mapM_eq_ok hraw
  cases hbytes
  have hlen : ∀ p ∈ planesOf noAlpha, enc p = (List.range cx).map fun i => buf.cells (p.sData + i)
      := by
    intro p hp
    have := henc p hp
    rw [readBytes, Nat.mul_one] at this
    split at this
    · exact (Except.ok.inj this).symm
    · cases this
  intro px hpx
  rw [planarDecode_planes (by cases noAlpha <;> decide) (by cases noAlpha <;> decide)
    (by cases noAlpha <;> decide) one_pos (fun p hp rest => by
      rw [decodePlane, if_neg (by cases noAlpha <;> decide)]
      exact Wire.getBytes_append (by rw [hlen p hp]; simp) rest)] at hpx
  cases hpx
  refine ⟨_, by rw [Nat.mul_one, List.getElem?_map, List.getElem?_range hcx]; rfl, ?_⟩
  simp only [hlen gPlane (gPlane_mem noAlpha)]
  simp [hcx, hgreen]

theorem clip_ne_zero {cll : Nat} {a : Option UInt8} {co cg : UInt8} :
    (fromYCoCg cll a 255 co cg).g ≠ 0 := by
  have hlow : -128 ≤ chroma cll cg := Int8.le_toInt _
  have hy : ((255 : UInt8).toNat : Int) = 255 := rfl
  simp only [fromYCoCg, clip, hy]
  intro h
  have := congrArg UInt8.toNat h
  rw [UInt8.toNat_ofNat', UInt8.toNat_zero] at this
  omega

theorem decodePlane_packLine {cx : Nat} {b : UInt8} {row : List UInt8} (h : row.length + 1 = cx)
    (rest : List UInt8) :
    decodePlane true cx 1 (packLine b row ++ rest) = some (b :: row, rest) := by
  have := @decodeRows_packRows cx (by omega) [b :: row] (by simpa using h) rest
  have hpack : packRows [b :: row] = packLine b row := by simp [packRows]
  rw [hpack] at this
  rw [decodePlane, if_pos rfl, show (1 : Nat) = [b :: row].length from rfl, this]
  simp [undeltaRows]

theorem fpack_line {buf : Buf UInt8} {plane cx : Nat} {bytes : List UInt8}
    (hok : fpack buf plane cx 1 = .ok bytes) :
    ∃ row, row.length = cx - 1 ∧ bytes = packLine (buf.cells plane) row := by
  rw [fpack, Run.bind_eq_ok] at hok
  obtain ⟨lines, hlines, hbytes⟩ := hok
  cases hbytes
  simp only [List.range_one, List.mapM_cons, List.mapM_nil, Run.bind_eq_ok, Run.pure_eq,
    Nat.zero_mul, Nat.add_zero] at hlines
  obtain ⟨line, ⟨b, hb, row, hrow, hline⟩, ls, hls, hcons⟩ := hlines
  cases hls
  cases hcons
  cases hline
  obtain ⟨-, rfl⟩ := Buf.read_eq_ok hb
  refine ⟨row, ?_, by simp⟩
  rw [readBytes] at hrow
  split at hrow <;> cases hrow
  simp

/-- Behind the alpha plane, if there is one, comes the red one. -/
theorem alpha_decoded {cx : Nat} {noAlpha : Bool} {enc line : Plane → List UInt8}
    (hread : ∀ p ∈ planesOf noAlpha, ∀ rest,
      decodePlane true cx 1 (enc p ++ rest) = some (line p, rest)) :
    ∃ alpha rest, (if noAlpha then some (none, ((planesOf noAlpha).map enc).flatten)
      else (decodePlane true cx 1 ((planesOf noAlpha).map enc).flatten).map
        fun (p, bs) => (some p, bs)) = some (alpha, enc rPlane ++ rest) := by
  cases noAlpha with
  | true => exact ⟨none, _, rfl⟩
  | false =>
    refine ⟨some (line aPlane), enc gPlane ++ (enc bPlane ++ []), ?_⟩
    simp only [planesOf, Bool.false_eq_true, if_false, List.map_cons, List.map_nil,
      List.flatten_cons, List.flatten_nil]
    rw [hread aPlane (by decide)]
    rfl

theorem packed_green {cx header : Nat} {noAlpha : Bool} {buf : Buf UInt8}
    {packed : List (List UInt8)} (hcx : 0 < cx) (hh : header < 256)
    (hna : header.testBit 5 = noAlpha) (hrle : header.testBit 4 = true)
    (hred : buf.cells rPlane.data = 255)
    (hgreen : buf.cells gPlane.data = 255 ∨ header % 16 ≠ 0)
    (hok : (planesOf noAlpha).mapM (fun p => fpack buf p.data cx 1) = .ok packed) :
    ShowsGreen cx (UInt8.ofNat header :: packed.flatten) := by
  obtain ⟨enc, henc, rfl⟩ := Run.mapM_eq_ok hok
  choose! row hrow henc using fun p hp => fpack_line (henc p hp)
  have hread : ∀ p ∈ planesOf noAlpha, ∀ rest, decodePlane true cx 1 (enc p ++ rest) =
      some (buf.cells p.data :: row p, rest) := by
    intro p hp rest
    rw [henc p hp]
    exact decodePlane_packLine (by rw [hrow p hp]; omega) rest
  intro px hpx
  by_cases hlow : header % 16 = 0
  · have := planarDecode_planes hh hlow hna one_pos (by rwa [hrle]) []
    rw [List.append_nil] at this
    rw [this] at hpx
    cases hpx
    refine ⟨_, by rw [Nat.mul_one, List.getElem?_map, List.getElem?_range hcx]; rfl, ?_⟩
    simp [hgreen.resolve_right (not_not.2 hlow)]
  · -- luma is decoded first
    have hbyte : (UInt8.ofNat header).toNat = header := by
      rw [UInt8.toNat_ofNat', Nat.mod_eq_of_lt hh]
    obtain ⟨alpha, rest, halpha⟩ := alpha_decoded hread
    rw [planarDecode, if_neg one_ne_zero] at hpx
    simp only [hbyte, hna, hrle, halpha, Option.bind_some,
      hread rPlane (rPlane_mem noAlpha)] at hpx
    split at hpx
    · cases hpx
    rename_i hcs
    obtain ⟨⟨co, bs⟩, -, hpx⟩ := Option.bind_eq_some_iff.1 hpx
    obtain ⟨⟨cg, bs'⟩, -, hpx⟩ := Option.map_eq_some_iff.1 hpx
    have hcll : header % 8 ≠ 0 := by
      intro h0
      refine hcs ⟨?_, h0⟩
      rw [Nat.testBit_eq_decide_div_mod_eq, decide_eq_true_iff]
      omega
    subst hpx
    refine ⟨_, by rw [Nat.mul_one, List.getElem?_map, List.getElem?_range hcx]; rfl, ?_⟩
    simp only [if_neg hcll, List.getD_cons_zero, hred]
    exact clip_ne_zero

/-! ## Calls with the red image -/

/-- The limit of a call that has room for the raw line. -/
def lineLimit (width e : Nat) : Int := 2 + ((width + e) * 4 : Nat)

theorem planes_limit (noAlpha : Bool) (width e : Nat) :
    (2 : Int) + ((width + e) * 1 * (planesOf noAlpha).length : Nat) ≤ lineLimit width e := by
  cases noAlpha
  · simp [planesOf, lineLimit]
  · simp [planesOf, lineLimit]
    omega

theorem spilled_not_readBack {width e flags : Nat} (hpw : 0 < width + e)
    (hwide : width = 0 ∨ PLANE_BYTES < width + e) {r : Nat × List UInt8}
    (hok : xrdpBitmap32Compress redImage width (lineLimit width e) 0 usedBuf e flags = .ok r) :
    ¬ReadBack (width + e) (flags.testBit 5) (lineLimit width e)
      (planarLines redImage width e 1 1) r := by
  obtain ⟨hh, hna, hrle, -, hbit5, hbit4, -⟩ := header_bits flags
  have hdec : decide ((flags &&& 0xFF) &&& FLAGS_NOALPHA ≠ 0) = flags.testBit 5 := by
    rw [Bool.eq_iff_iff, decide_eq_true_iff, hna]
  have hroom := planes_limit (flags.testBit 5) width e
  unfold xrdpBitmap32Compress at hok
  rw [if_neg (by decide)] at hok
  simp only [hdec] at hok
  obtain ⟨⟨cy, buf⟩, hsplit, hok⟩ := Run.bind_eq_ok.1 hok
  obtain ⟨rfl, hspill⟩ := fsplit_spilled hwide hsplit
  dsimp only at hok
  split at hok
  · rename_i hr
    obtain ⟨buf', hdelta, hok⟩ := Run.bind_eq_ok.1 hok
    have hgreen := fdeltas_green hpw hspill hdelta
    simp only [rleLoop, Nat.zero_add] at hok
    obtain ⟨packed, hpacked, hok⟩ := Run.bind_eq_ok.1 hok
    split at hok
    · obtain ⟨bytes, hbytes, hres⟩ := Run.bind_eq_ok.1 hok
      cases hres
      exact (foutraw_green hpw hgreen.green hbytes).not_readBack hpw
    · rw [if_pos (by omega)] at hok
      cases hok
      exact (packed_green hpw hh hbit5 (hbit4.trans (hrle.1 hr)) hgreen.redDelta
        (.inl hgreen.greenDelta) hpacked).not_readBack hpw
  · simp only [rawLoop, if_pos hroom] at hok
    obtain ⟨bytes, hbytes, hres⟩ := Run.bind_eq_ok.1 hok
    cases hres
    exact (foutraw_green hpw (hspill.green trivial) hbytes).not_readBack hpw

/-! ### The color space -/

theorem packLoop_replicate (col : List UInt8) (collen replen m : Nat) (v : UInt8) :
    packLoop col collen replen v (List.replicate m v) = fout collen (replen + m) col := by
  induction m generalizing replen with
  | zero => rfl
  | succ m ih =>
    rw [List.replicate_succ, packLoop, if_pos rfl, ih, Nat.add_assoc, Nat.add_comm 1]

/-- A run alone takes at most one byte more than it has. -/
theorem foutRun_length (fuel replen : Nat) (col : List UInt8) :
    (foutRun fuel 0 replen col).length ≤ replen + 1 := by
  induction fuel generalizing replen col with
  | zero => simp [foutRun]
  | succ fuel ih =>
    rw [foutRun]
    split
    · simp
    split
    · have := ih (replen - min replen 47) (col.drop (min replen 47))
      simp only [List.length_cons]
      omega
    · simp only [List.length_cons, List.length_append, List.length_take]
      split
      · rename_i hne h15 h3
        have : replen - min replen 15 = 0 := by omega
        rw [this]
        cases fuel <;> simp [foutRun]
      · have := ih (replen - min replen 15) (col.drop (0 + min replen 15))
        omega

theorem fout_zero_length {n : Nat} (h3 : 3 ≤ n) (col : List UInt8) :
    (fout 0 n col).length + 1 ≤ n := by
  simp only [fout, foutRaw, List.nil_append, foutRun]
  rw [if_neg (by omega)]
  split
  · have := foutRun_length n (n - min n 47) (col.drop (min n 47))
    simp only [List.length_cons]
    omega
  · have := foutRun_length n (n - min n 15) (col.drop (0 + min n 15))
    have h15 : ¬min n 15 < 3 := by omega
    simp only [if_neg h15, List.length_cons, List.length_append, List.length_take]
    omega

theorem fout_one_length (n : Nat) (col : List UInt8) : (fout 1 n col).length ≤ n + 2 := by
  have hraw : foutRaw 1 1 col = ([], 1, col) := rfl
  simp only [fout, hraw, List.nil_append, foutRun]
  rw [if_neg (by omega), if_neg (by omega)]
  split
  · rename_i h3
    have h0 : n - min n 15 = 0 := by omega
    have hz : ∀ c, foutRun n 0 0 c = [] := by intro c; cases n <;> simp [foutRun]
    rw [h0, hz]
    simp only [List.length_cons, List.length_append, List.length_take, List.length_nil]
    omega
  · have := foutRun_length n (n - min n 15) (col.drop (1 + min n 15))
    simp only [List.length_cons, List.length_append, List.length_take]
    omega

/-- A line of one byte, packed. -/
theorem packLine_replicate_length {m : Nat} (h2 : 2 ≤ m) (b : UInt8) :
    (packLine b (List.replicate m b)).length ≤ if b = 0 then m else m + 2 := by
  rw [packLine]
  split
  · rw [packLoop_replicate]
    have := fout_zero_length (n := 1 + m) (by omega) (b :: List.replicate m b)
    omega
  · rw [packLoop_replicate, Nat.zero_add]
    exact fout_one_length m _

theorem color_not_readBack {width e flags : Nat} (hw : 0 < width) (hpw : width + e ≤ PLANE_BYTES)
    (h3 : 3 ≤ width + e) (hrle : flags &&& FLAGS_RLE ≠ 0) (hcolor : flags &&& 0x0F ≠ 0)
    {r : Nat × List UInt8}
    (hok : xrdpBitmap32Compress redImage width (lineLimit width e) 0 usedBuf e flags = .ok r) :
    ¬ReadBack (width + e) (flags.testBit 5) (lineLimit width e)
      (planarLines redImage width e 1 1) r := by
  obtain ⟨hh, hna, hrle', hrle0, hbit5, hbit4, hlow⟩ := header_bits flags
  have hdec : decide ((flags &&& 0xFF) &&& FLAGS_NOALPHA ≠ 0) = flags.testBit 5 := by
    rw [Bool.eq_iff_iff, decide_eq_true_iff, hna]
  have hbit : flags.testBit 4 = true := by
    rw [← Bool.not_eq_false, ← hrle0]
    exact hrle
  have hroom := planes_limit (flags.testBit 5) width e
  set noAlpha := flags.testBit 5
  set px := List.replicate (width + e) redPixel with hpx
  have hlen : px.length = width + e := List.length_replicate
  have hbytes : ∀ p : Plane, p.bytes px = List.replicate (width + e) (planeByte p.shift redPixel) :=
    fun p => List.map_replicate
  have hline : (planarLines redImage width e 1 1).flatten = px := by
    simp [planarLines, planarLine_red hw, hpx]
  obtain ⟨k, buf, hsplit, hk1, hk, -, hs⟩ := @fsplit_spec redImage _ e (.inl hw) _ _ _ []
    usedBuf (by simpa using hpw)
    ⟨by decide, fun p hp => .nil (by
      have := (planesOf_laid hp).sData
      simp only [usedBuf, PLANE_BYTES] at *
      omega)⟩
  obtain rfl : k = 1 := Nat.le_antisymm hk1 (hk one_pos)
  rw [List.nil_append, hline] at hs
  obtain ⟨buf', hdelta, -, hd⟩ := fdeltas_spec (by rw [hlen, Nat.mul_one]) one_pos
    (by omega) hs
  have hpacked : ∀ p ∈ planesOf noAlpha, fpack buf' p.data (width + e) 1 =
      .ok (packLine (planeByte p.shift redPixel)
        (List.replicate (width + e - 1) (planeByte p.shift redPixel))) := by
    intro p hp
    have hdata := hd p hp
    have hrep : deltaBytes (width + e) (p.bytes px) = [p.bytes px].flatten := by
      rw [List.flatten_singleton, deltaBytes, List.take_of_length_le (by simp [hlen]),
        List.drop_of_length_le (by simp [hlen])]
      simp
    rw [hrep] at hdata
    rw [fpack_spec (k := 1) (by omega) (by simp [hlen]) (by simp) hdata]
    cases hn : width + e with
    | zero => omega
    | succ n =>
      rw [List.take_of_length_le (by simp), hbytes, hn]
      simp [packRows, List.replicate_succ]
  have hred : buf'.cells rPlane.data = 255 := by
    have := (hd rPlane (rPlane_mem noAlpha)).cells 0 (by
      rw [deltaBytes_length]
      · simp [hlen]
        omega
      · simp [hlen])
    rw [Nat.add_zero] at this
    rw [this]
    simp only [deltaBytes, hbytes]
    rw [List.getElem_append_left (by simp; omega)]
    simp
    decide
  have htotal : ((planesOf noAlpha).map fun p => packLine (planeByte p.shift redPixel)
      (List.replicate (width + e - 1) (planeByte p.shift redPixel))).flatten.length ≤
      (width + e) * 1 * (planesOf noAlpha).length := by
    have hshort : ∀ b, (packLine b (List.replicate (width + e - 1) b)).length ≤
        if b = 0 then width + e - 1 else width + e - 1 + 2 :=
      fun b => packLine_replicate_length (by omega) b
    have ha := hshort (planeByte 24 redPixel)
    have hr := hshort (planeByte 16 redPixel)
    have hg := hshort (planeByte 8 redPixel)
    have hb := hshort (planeByte 0 redPixel)
    rw [if_neg (by decide)] at ha hr
    rw [if_pos (by decide)] at hg hb
    cases noAlpha <;> simp [planesOf, aPlane, rPlane, gPlane, bPlane] <;> omega
  unfold xrdpBitmap32Compress at hok
  rw [if_neg (by decide)] at hok
  simp only [hdec] at hok
  change fsplit redImage width e (planesOf noAlpha) 1 0 0 usedBuf >>= _ = _ at hok
  rw [List.length_nil, Nat.zero_add] at hsplit
  rw [hsplit, Run.ok_bind] at hok
  dsimp only at hok
  rw [if_pos (hrle'.2 hbit), hdelta, Run.ok_bind, rleLoop] at hok
  have hmap := Run.mapM_ok hpacked
  simp only [Nat.zero_add, hmap, Run.ok_bind] at hok
  rw [if_neg (by omega), if_pos (by omega)] at hok
  cases hok
  exact (packed_green (by omega) hh hbit5 (hbit4.trans hbit) hred
    (.inr fun h0 => hcolor (hlow.2 h0)) hmap).not_readBack (by omega)

/-! ## The claimed round trip -/

/-- No result of a call with the red image is right outside `PlanarFits`. -/
theorem red_not_readBack {width e flags : Nat} (h : ¬PlanarFits width e flags)
    {r : Nat × List UInt8}
    (hok : xrdpBitmap32Compress redImage width (lineLimit width e) 0 usedBuf e flags = .ok r) :
    ¬ReadBack (width + e) (flags.testBit 5) (lineLimit width e)
      (planarLines redImage width e 1 1) r := by
  by_cases hzero : 0 < width ∨ e = 0
  · by_cases hwide : width + e ≤ PLANE_BYTES
    · have hflags : flags &&& FLAGS_RLE ≠ 0 ∧ flags &&& 0x0F ≠ 0 ∧ ¬width + e ≤ 2 := by
        unfold PlanarFits at h
        tauto
      exact color_not_readBack (by omega) hwide (by omega) hflags.1 hflags.2.1 hok
    · exact spilled_not_readBack (by omega) (.inr (by omega)) hok
  · exact spilled_not_readBack (by omega) (.inl (by omega)) hok

/-- **When the planar compressor is read back**: for every image, limit, start line and work
buffer it returns, and the client decodes the lines it took, within the limit, exactly for the
widths, paddings and flags of `PlanarFits`. -/
theorem planar_round_trip_iff (width e flags : Nat) :
    (∀ (inData : Nat → UInt8) (byteLimit startLine : Int) (tempS : Buf UInt8),
      ∃ cy bytes,
        xrdpBitmap32Compress inData width byteLimit startLine tempS e flags = .ok (cy, bytes) ∧
        cy ≤ (startLine + 1).toNat ∧
        planarDecode (width + e) cy bytes =
          some ((planarLines inData width e (startLine + 1).toNat cy).flatten.map
            (argbOf (flags.testBit 5))) ∧
        (0 < cy → (bytes.length : Int) ≤ byteLimit)) ↔
    (0 < width ∨ e = 0) ∧ width + e ≤ 4096 ∧
      (flags &&& FLAGS_RLE = 0 ∨ flags &&& 0x0F = 0 ∨ width + e ≤ 2) := by
  constructor
  · intro h
    by_contra hfits
    obtain ⟨cy, bytes, hok, hle, hpixels, hlimit⟩ := h redImage (lineLimit width e) 0 usedBuf
    refine red_not_readBack hfits hok ⟨by simpa using hle, ?_, hlimit⟩
    have htake := planarLines_take redImage width e 1 (k := cy) (by simpa using hle)
    rw [htake]
    exact hpixels
  · intro hfits inData byteLimit startLine tempS
    obtain ⟨⟨cy, bytes⟩, hok, hread, -, -⟩ := planar_readBack hfits inData byteLimit startLine tempS
    have hle := hread.le
    rw [planarLines_length] at hle
    have hpixels := hread.pixels
    rw [planarLines_take _ _ _ _ hle] at hpixels
    exact ⟨cy, bytes, hok, hle, hpixels, hread.limit⟩

/-- One opaque red line of 4100 pixels comes back with green. -/
theorem red_line_spills :
    ¬∃ cy bytes,
      xrdpBitmap32Compress redImage 4100 16402 0 usedBuf 0 0x10 = .ok (cy, bytes) ∧
      planarDecode 4100 cy bytes =
        some ((planarLines redImage 4100 0 1 cy).flatten.map (argbOf false)) ∧
      cy ≤ 1 ∧ (0 < cy → (bytes.length : Int) ≤ 16402) := by
  rintro ⟨cy, bytes, hok, hpixels, hle, hlimit⟩
  refine red_not_readBack (e := 0)
    (fun hfits => absurd hfits.2.1 (by decide)) hok ⟨by simpa using hle, ?_, hlimit⟩
  rw [planarLines_take _ _ _ _ hle]
  exact hpixels

end Xrdp.Bitmap
