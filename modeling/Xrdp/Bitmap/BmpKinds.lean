import Xrdp.Bitmap.BmpLoaded

/-!
# Which bitmap files are loaded right

* `loadsRight_of_loadable` — the files of some kinds are.
* `whitePixel` — of every other kind there is a file, black but for one pixel, that is not.
* `loads_right_iff` — the kinds of files that are loaded right.
-/

namespace Xrdp.Bitmap.Bmp

open Wire Loops

variable {junk : Junk} {self : Image} {K : Kind} {f : List UInt8}

/-! ## Files that are loaded right -/

theorem rowsIn_cells {content : List UInt8} {pos height size : Nat} {data : Buf UInt8} {y t : Nat} (hy : y < height)
    (ht : t < size) : (rowsIn content pos height size data).cells (y * size + t) =
      byteAt content (pos + (height - 1 - y) * size + t) := by
  have hlt : y * size + t < height * size := by
    have hle : (y + 1) * size ≤ height * size := Nat.mul_le_mul_right _ hy
    rw [Nat.succ_mul] at hle
    omega
  have hdiv : (y * size + t) / size = y := by
    rw [Nat.mul_comm, Nat.mul_add_div (by omega), Nat.div_eq_of_lt ht, Nat.add_zero]
  have hmod : (y * size + t) % size = t := by rw [Nat.mul_comm, Nat.mul_add_mod, Nat.mod_eq_of_lt ht]
  unfold rowsIn
  dsimp only
  rw [if_pos hlt, hdiv, hmod]

/-- What a pixel that is drawn is. -/
theorem getPixel_drawn {b : XrdpBitmap} {w h : Nat} {color : Nat → Nat} {d : Buf Nat} (hb : IsSized b w h)
    (hd : b.data = some d) (hsize : d.size = h * w) (hint : h * w < 2 ^ 31) {x y : Nat} (hx : x < w) (hy : y < h) :
    xrdpBitmapGetPixel (drawn b color (h * w)) x y = .ok (stored b.bpp (color (y * w + x))) := by
  have hlt : y * w + x < h * w := by
    have hle : (y + 1) * w ≤ h * w := Nat.mul_le_mul_right _ hy
    rw [Nat.succ_mul] at hle
    omega
  unfold xrdpBitmapGetPixel drawn
  rw [hd]
  dsimp only [Option.map_some]
  rw [if_pos (in_bitmap hb hx hy), hb.width, index_eq (by omega), if_neg (by omega), Int.toNat_natCast]
  have hread : ∀ cells, (⟨d.size, cells⟩ : Buf Nat).read (y * w + x) = .ok (cells (y * w + x)) :=
    fun cells => Buf.read_ok (b := ⟨d.size, cells⟩) (show _ < d.size by omega)
  rw [hread, if_pos hlt]

/-- The pixels of a row are as the reader looks for them. -/
theorem colorOf_row (junk : Junk) (pal : Buf Nat) {x y : Nat} (hx : x < K.width) (hy : y < K.height)
    (heven : K.bits = .four → K.width % 2 = 0) :
    let o := dataStart K f + (K.height - 1 - y) * rowBytes K
    colorOf K pal (rowsBuf junk K f) (y * K.width + x) = match K.bits with
      | .four => pal.cells (half (byteAt f (o + x / 2)) x)
      | .eight => pal.cells (byteAt f (o + x)).toNat
      | .twentyFour => (byteAt f (o + 3 * x)).toNat ||| (byteAt f (o + (3 * x + 1))).toNat <<< 8 |||
          (byteAt f (o + (3 * x + 2))).toNat <<< 16 := by
  have hcell : ∀ t < rowBytes K, (rowsBuf junk K f).cells (y * rowBytes K + t) =
      byteAt f (dataStart K f + (K.height - 1 - y) * rowBytes K + t) := fun t ht => rowsIn_cells hy ht
  have hdiv : (y * K.width + x) / K.width = y := by
    rw [Nat.mul_comm, Nat.mul_add_div K.width_pos, Nat.div_eq_of_lt hx, Nat.add_zero]
  have hmod : (y * K.width + x) % K.width = x := by rw [Nat.mul_comm, Nat.mul_add_mod, Nat.mod_eq_of_lt hx]
  dsimp only
  unfold colorOf
  unfold rowBytes at hcell ⊢
  cases hbits : K.bits with
  | four =>
    rw [hbits] at hcell
    have hhalf : (K.width + 1) / 2 = K.width / 2 := by
      have hmod := heven hbits
      omega
    dsimp only at hcell ⊢
    have heven := heven hbits
    rw [hdiv, hmod, hhalf, hcell (x / 2) (by omega)]
  | eight =>
    rw [hbits] at hcell
    dsimp only at hcell ⊢
    rw [hcell x hx]
  | twentyFour =>
    rw [hbits] at hcell
    dsimp only at hcell ⊢
    have hpos : 3 * (y * K.width + x) = y * (K.width * 3) + 3 * x := by ring
    rw [hpos, Nat.add_assoc _ (3 * x) 1, Nat.add_assoc _ (3 * x) 2, hcell (3 * x) (by omega),
      hcell (3 * x + 1) (by omega), hcell (3 * x + 2) (by omega)]

/-- Three bytes are a colour. -/
theorem or_bytes (b g r : UInt8) : b.toNat ||| g.toNat <<< 8 ||| r.toNat <<< 16 =
    b.toNat + 256 * (g.toNat + 256 * (r.toNat + 256 * 0)) := by
  have hb := b.toNat_lt
  have hg := g.toNat_lt
  have h8 : b.toNat ||| g.toNat <<< 8 = b.toNat + 256 * g.toNat := by
    rw [Nat.or_comm, ← Nat.shiftLeft_add_eq_or_of_lt (by exact hb), Nat.shiftLeft_eq]
    omega
  rw [h8, Nat.or_comm, ← Nat.shiftLeft_add_eq_or_of_lt (by omega), Nat.shiftLeft_eq]
  omega

/-- A colour of the palette. -/
theorem palette1_cells (junk : Junk) (f : List UInt8) (i : Nat) :
    (palette1 junk f).cells i = if i < u32At f 46 then u32At f (14 + u32At f 14 + 4 * i) else 0 := by
  show (if i < u32At f 46 then u32In (paletteBuf junk f).cells (4 * i) else 0) = _
  split_ifs with hi
  · refine u32In_congr fun j hj => ?_
    unfold paletteBuf
    rw [filled_cells (by omega), Nat.sub_zero, ← Nat.add_assoc]
  · rfl

theorem dataStart_eq (h : IsBmp K f) (hcounted : K.counted = true ↔ K.bits ≠ .twentyFour)
    (hdirect : K.direct = true) : dataStart K f = u32At f 10 ∧ (K.bits ≠ .twentyFour → colours K f = u32At f 46) := by
  have hoff := h.direct.1 hdirect
  have hcount : K.bits ≠ .twentyFour → colours K f = u32At f 46 := fun hbits =>
    if_pos (h.counted.1 (hcounted.2 hbits))
  refine ⟨?_, hcount⟩
  unfold dataStart
  split_ifs with hbits
  · have hnone : ¬ u32At f 46 ≠ 0 := fun hne => (hcounted.1 (h.counted.2 hne)) hbits
    have hzero : colours K f = 0 := by
      unfold colours
      rw [if_neg hnone, if_pos hbits]
    omega
  · rw [← hcount hbits]
    exact hoff

/-- **The files of these kinds are loaded right.** -/
theorem loadsRight_of_loadable (junk : Junk) (hK : Loadable self.bpp K) (h : IsBmp K f) : LoadsRight junk self K f := by
  have hfit : SizesFit self.bpp K := ⟨hK.pixels_lt, hK.bytes_lt⟩
  obtain ⟨hsized, hbpp⟩ := resized_sized junk self K
  obtain ⟨d, hd, hsize⟩ := resized_cells junk self hK.pixels_lt
  obtain ⟨hstart, hcolours⟩ := dataStart_eq h hK.counted hK.direct
  have hint : K.height * K.width < 2 ^ 31 := by
    rw [Nat.mul_comm]
    exact count_lt hfit
  have hpos : posOf K (K.height * K.width) ≤ (rowsBuf junk K f).size := by
    rw [rowsBuf_size]
    refine le_trans ?_ (Nat.le_max_left ..)
    unfold posOf totalBytes
    cases hbits : K.bits with
    | four =>
      have heven := hK.even hbits
      have hhalf : (K.width + 1) / 2 = K.width / 2 := by omega
      dsimp only
      unfold pos4
      rw [Nat.mul_div_cancel _ K.width_pos, Nat.mul_mod_left, hhalf, Nat.le_div_iff_mul_le (by decide), Nat.add_zero]
      have hdouble : K.height * (K.width / 2) * 2 = K.width * K.height := by
        rw [Nat.mul_assoc, Nat.div_mul_cancel (Nat.dvd_of_mod_eq_zero heven), Nat.mul_comm]
      omega
    | eight => exact (Nat.mul_comm ..).le
    | twentyFour =>
      dsimp only
      rw [Nat.mul_comm K.height]
      omega
  have hdraw := drawPixels_ok (fetchesOf K (palette1 junk f) rfl (rowsBuf junk K f)) hsized hpos hint
    fun n hn d' hd' => by
      cases hd.symm.trans hd'
      omega
  refine ⟨drawn (resized junk self K) (colorOf K (palette1 junk f) (rowsBuf junk K f)) (K.height * K.width),
    ?_, ?_, ?_, fun x hx y hy => ?_⟩
  · rw [load_pixels junk self h, loadPixels_eq junk h hfit, hdraw]
    rfl
  · exact hsized.width
  · exact hsized.height
  rw [getPixel_drawn hsized hd hsize hint hx hy, hbpp, ← stored_eq self.depth]
  -- where the reader looks for a row is where it is
  have hrow : dataStart K f + (K.height - 1 - y) * rowBytes K = rowAt K f y := by
    unfold rowAt
    rw [hstart]
    rcases hK.rows with hrows | hone
    · rw [(rowBytes_le K).2.2 hrows]
    · rw [show K.height - 1 - y = 0 by omega, Nat.zero_mul, Nat.zero_mul]
  rw [colorOf_row junk _ hx hy hK.even, hrow]
  have hpalette : K.bits ≠ .twentyFour → (palette1 junk f).cells (indexAt K f x y) =
      (paletteAt f (indexAt K f x y)).b.toNat + 256 * ((paletteAt f (indexAt K f x y)).g.toNat +
        256 * ((paletteAt f (indexAt K f x y)).r.toNat + 256 * 0)) := by
    intro hbits
    have hlt := h.index_lt hbits x hx y hy
    have hreserved := h.reserved _ hlt
    rw [palette1_cells junk f, if_pos (by rw [← hcolours hbits]; exact hlt)]
    show leVal [_, _, _, byteAt f (14 + u32At f 14 + 4 * indexAt K f x y + 3)] = _
    rw [hreserved]
    rfl
  refine congrArg (Except.ok ∘ stored self.bpp) ?_
  unfold pixelAt
  unfold indexAt at hpalette ⊢
  cases hbits : K.bits with
  | four =>
    rw [hbits, if_pos rfl] at hpalette
    simp only [reduceCtorEq, if_false, if_true]
    exact hpalette (by decide)
  | eight =>
    rw [hbits] at hpalette
    simp only [reduceCtorEq, if_false] at hpalette ⊢
    exact hpalette (by decide)
  | twentyFour =>
    simp only [if_true]
    exact or_bytes ..

/-! ## A file with one white pixel -/

/-- How many colours its palette has, and the header's number of them. -/
def paletteSize (K : Kind) : Nat :=
  if K.bits = .twentyFour then (if K.counted then 1 else 0) else 2 ^ K.bits.bits

def headerColours (K : Kind) : Nat := if K.counted then paletteSize K else 0

/-- Where its pixels are. -/
def offset (K : Kind) : Nat := 54 + 4 * paletteSize K + if K.direct then 0 else 1

def headerBytes (K : Kind) : List UInt8 :=
  [0x42, 0x4D] ++ leBytes 4 0 ++ leBytes 4 0 ++ leBytes 4 (offset K) ++ leBytes 4 40 ++ leBytes 4 K.width ++
    leBytes 4 K.height ++ leBytes 2 1 ++ leBytes 2 K.bits.bits ++ leBytes 4 0 ++ leBytes 4 0 ++ leBytes 4 0 ++
    leBytes 4 0 ++ leBytes 4 (headerColours K) ++ leBytes 4 0

/-- Where the white pixel is. -/
def whiteAt (K : Kind) (x y : Nat) : Nat :=
  offset K + (K.height - 1 - y) * stride K +
    match K.bits with
    | .four => x / 2
    | .eight => x
    | .twentyFour => 3 * x

/-- The bytes behind the header: the second colour is white, and so is the pixel. -/
def bodyByte (K : Kind) (x y n : Nat) : UInt8 :=
  if K.bits = .twentyFour then
    if whiteAt K x y ≤ n ∧ n < whiteAt K x y + 3 then 0xFF else 0
  else if n = whiteAt K x y then
    if K.bits = .four ∧ x % 2 = 0 then 0x10 else 1
  else if 58 ≤ n ∧ n < 61 then 0xFF
  else 0

/-- A file that is black but for one pixel. -/
def whitePixel (K : Kind) (x y : Nat) : List UInt8 :=
  headerBytes K ++ (List.range (offset K + K.height * stride K - 54)).map fun n => bodyByte K x y (54 + n)

variable {x y : Nat}

theorem headerBytes_length (K : Kind) : (headerBytes K).length = 54 := by simp [headerBytes]

theorem offset_ge (K : Kind) : 54 + 4 * paletteSize K ≤ offset K := by
  unfold offset
  omega

theorem whitePixel_length (K : Kind) (x y : Nat) :
    (whitePixel K x y).length = offset K + K.height * stride K := by
  have hoff := offset_ge K
  unfold whitePixel
  rw [List.length_append, headerBytes_length, List.length_map, List.length_range]
  omega

theorem byteAt_body {n : Nat} (hn : 54 ≤ n) (hlt : n < offset K + K.height * stride K) :
    byteAt (whitePixel K x y) n = bodyByte K x y n := by
  unfold byteAt whitePixel
  rw [List.getElem?_append_right (by rw [headerBytes_length]; exact hn), headerBytes_length, List.getElem?_map,
    List.getElem?_range (by omega)]
  show bodyByte K x y (54 + (n - 54)) = _
  rw [Nat.add_sub_cancel' hn]

/-- What is behind a block. -/
theorem byteAt_skip (l t : List UInt8) (i : Nat) : byteAt (l ++ t) (l.length + i) = byteAt t i := by
  unfold byteAt
  rw [List.getElem?_append_right (Nat.le_add_right ..), Nat.add_sub_cancel_left]

theorem u32At_skip {l t : List UInt8} {p : Nat} (hp : l.length ≤ p) : u32At (l ++ t) p = u32At t (p - l.length) := by
  refine u32In_congr fun i _ => ?_
  rw [← byteAt_skip l t, ← Nat.add_assoc, Nat.add_sub_cancel' hp]

theorem u16At_skip {l t : List UInt8} {p : Nat} (hp : l.length ≤ p) : u16At (l ++ t) p = u16At t (p - l.length) := by
  obtain ⟨q, rfl⟩ := Nat.exists_eq_add_of_le hp
  unfold u16At u16In
  rw [Nat.add_sub_cancel_left, Nat.add_assoc, byteAt_skip, byteAt_skip]

/-- A field at the front. -/
theorem u32At_field (v : Nat) (t : List UInt8) : u32At (leBytes 4 v ++ t) 0 = v % 256 ^ 4 := leVal_leBytes 4 v

theorem u16At_field (v : Nat) (t : List UInt8) : u16At (leBytes 2 v ++ t) 0 = v % 256 ^ 2 := leVal_leBytes 2 v

theorem paletteSize_le (K : Kind) : paletteSize K ≤ 256 ∧ (K.bits ≠ .twentyFour → paletteSize K = 2 ^ K.bits.bits) := by
  unfold paletteSize
  cases K.bits <;> cases K.counted <;> simp [BitCount.bits]

/-- What the header says. -/
theorem header_whitePixel (K : Kind) (x y : Nat) :
    u32At (whitePixel K x y) 10 = offset K ∧ u32At (whitePixel K x y) 14 = 40 ∧
      u32At (whitePixel K x y) 18 = K.width ∧ u32At (whitePixel K x y) 22 = K.height ∧
      u16At (whitePixel K x y) 26 = 1 ∧ u16At (whitePixel K x y) 28 = K.bits.bits ∧
      u32At (whitePixel K x y) 30 = 0 ∧ u32At (whitePixel K x y) 46 = headerColours K := by
  have hsize := (paletteSize_le K).1
  have hcolours : headerColours K < 256 ^ 4 := by
    unfold headerColours
    split_ifs <;> omega
  have hoff : offset K < 256 ^ 4 := by
    unfold offset
    split_ifs <;> omega
  have hbits : K.bits.bits < 256 ^ 2 := by cases K.bits <;> decide
  have hw : K.width < 256 ^ 4 := K.width_lt.trans (by decide)
  have hh : K.height < 256 ^ 4 := K.height_lt.trans (by decide)
  unfold whitePixel headerBytes
  simp (disch := simp) only [List.append_assoc, u32At_skip, u16At_skip, leBytes_length, List.length_cons,
    List.length_nil, Nat.reduceAdd, Nat.reduceSub, u32At_field, u16At_field, Nat.mod_eq_of_lt hcolours,
    Nat.mod_eq_of_lt hoff, Nat.mod_eq_of_lt hbits, Nat.mod_eq_of_lt hw, Nat.mod_eq_of_lt hh]
  decide

theorem colours_whitePixel (K : Kind) (x y : Nat) : colours K (whitePixel K x y) = paletteSize K := by
  obtain ⟨-, -, -, -, -, -, -, hclr⟩ := header_whitePixel K x y
  unfold colours
  rw [hclr]
  unfold headerColours paletteSize
  cases K.bits <;> cases K.counted <;> simp [BitCount.bits]

/-- A pixel is in the file. -/
theorem whiteAt_lt (hx : x < K.width) (hy : y < K.height) :
    whiteAt K x y + (if K.bits = .twentyFour then 2 else 0) < offset K + K.height * stride K ∧
      54 + 4 * paletteSize K ≤ whiteAt K x y := by
  have hoff := offset_ge K
  have hrow : (K.height - 1 - y) * stride K + stride K ≤ K.height * stride K := by
    rw [← Nat.succ_mul]
    exact Nat.mul_le_mul_right _ (by omega)
  unfold whiteAt
  cases hbits : K.bits with
  | four =>
    have hstride : x / 2 < stride K := by
      unfold stride
      rw [hbits]
      dsimp only [BitCount.bits]
      omega
    simp only [reduceCtorEq, if_false]
    omega
  | eight =>
    have hstride : x < stride K := by
      unfold stride
      rw [hbits]
      dsimp only [BitCount.bits]
      omega
    simp only [reduceCtorEq, if_false]
    omega
  | twentyFour =>
    have hstride : 3 * x + 2 < stride K := by
      unfold stride
      rw [hbits]
      dsimp only [BitCount.bits]
      omega
    simp only [if_true]
    omega

/-- A byte of the palette. -/
theorem byteAt_palette (hbits : K.bits ≠ .twentyFour) (hx : x < K.width) (hy : y < K.height) {n : Nat} (hn : 54 ≤ n)
    (hlt : n < 54 + 4 * paletteSize K) :
    byteAt (whitePixel K x y) n = if 58 ≤ n ∧ n < 61 then 0xFF else 0 := by
  obtain ⟨hwhite, hge⟩ := whiteAt_lt hx hy
  rw [byteAt_body hn (by omega), bodyByte, if_neg hbits, if_neg (by omega)]

/-- A byte of a pixel, where the reader may look for it. -/
theorem byteAt_pixels (hbits : K.bits ≠ .twentyFour) {n : Nat} (hn : 54 + 4 * paletteSize K ≤ n)
    (hlt : n < offset K + K.height * stride K) :
    byteAt (whitePixel K x y) n =
      if n = whiteAt K x y then (if K.bits = .four ∧ x % 2 = 0 then 0x10 else 1) else 0 := by
  have hsize := (paletteSize_le K).2 hbits
  have hfew : 16 ≤ paletteSize K := by
    rw [hsize]
    cases hb : K.bits with
    | twentyFour => exact absurd hb hbits
    | _ => decide
  rw [byteAt_body (by omega) hlt, bodyByte, if_neg hbits]
  split_ifs <;> first | rfl | omega

/-- **It is well formed.** -/
theorem isBmp_whitePixel (hx : x < K.width) (hy : y < K.height) : IsBmp K (whitePixel K x y) := by
  obtain ⟨hoffset, hsize, hwidth, hheight, hplanes, hbits, hcompression, hclr⟩ := header_whitePixel K x y
  have hcolours := colours_whitePixel K x y
  have hpalette := paletteSize_le K
  constructor
  · exact ⟨rfl, rfl⟩
  · exact .inl hsize
  · exact hwidth
  · exact hheight
  · exact hplanes
  · exact hbits
  · exact hcompression
  · rw [hclr]
    unfold headerColours paletteSize
    cases K.bits <;> cases K.counted <;> simp [BitCount.bits]
  · intro hb
    rw [hcolours, hpalette.2 hb]
  · rw [hsize, hcolours, hoffset]
    exact offset_ge K
  · rw [hsize, hcolours, hoffset]
    unfold offset
    cases K.direct <;> simp
  · intro i hi
    rw [hcolours] at hi
    rw [hsize]
    obtain ⟨hwhite, hge⟩ := whiteAt_lt hx hy
    by_cases hb : K.bits = .twentyFour
    · rw [byteAt_body (by omega) (by omega), bodyByte, if_pos hb, if_neg (by omega)]
    · rw [byteAt_palette hb hx hy (by omega) (by omega), if_neg (by omega)]
  · rw [hoffset, whitePixel_length]
  · intro hb i hi j hj
    rw [hcolours, hpalette.2 hb]
    unfold indexAt
    split_ifs with hfour
    · rw [hfour]
      have hk := (byteAt (whitePixel K x y) (rowAt K (whitePixel K x y) j + i / 2)).toNat_lt
      unfold half
      show _ < 2 ^ 4
      split_ifs <;> omega
    · have height : K.bits = .eight := by
        cases hb' : K.bits with
        | four => exact absurd hb' hfour
        | eight => rfl
        | twentyFour => exact absurd hb' hb
      rw [height]
      exact UInt8.toNat_lt _

/-- And the pixel is white. -/
theorem pixelAt_white (hx : x < K.width) (hy : y < K.height) : pixelAt K (whitePixel K x y) x y = white := by
  obtain ⟨hoffset, hsize, -, -, -, -, -, -⟩ := header_whitePixel K x y
  obtain ⟨hwhite, hge⟩ := whiteAt_lt hx hy
  have hrow : rowAt K (whitePixel K x y) y = offset K + (K.height - 1 - y) * stride K := by
    unfold rowAt
    rw [hoffset]
  have hpalette : K.bits ≠ .twentyFour → paletteAt (whitePixel K x y) 1 = white := by
    intro hb
    have hfew : 4 ≤ paletteSize K := by
      rw [(paletteSize_le K).2 hb]
      cases K.bits <;> decide
    unfold paletteAt
    rw [hsize]
    dsimp only
    rw [byteAt_palette hb hx hy (by omega) (by omega), byteAt_palette hb hx hy (by omega) (by omega),
      byteAt_palette hb hx hy (by omega) (by omega)]
    rfl
  unfold pixelAt
  by_cases hb : K.bits = .twentyFour
  · have hat : whiteAt K x y = offset K + (K.height - 1 - y) * stride K + 3 * x := by
      unfold whiteAt
      rw [hb]
    rw [if_pos hb] at hwhite
    have hbyte : ∀ i < 3, byteAt (whitePixel K x y) (whiteAt K x y + i) = 0xFF := fun i hi => by
      rw [byteAt_body (by omega) (by omega), bodyByte, if_pos hb, if_pos (by omega)]
    rw [if_pos hb, hrow]
    dsimp only
    rw [← hat, hbyte 1 (by decide), hbyte 2 (by decide), ← Nat.add_zero (whiteAt K x y), hbyte 0 (by decide)]
    rfl
  · rw [if_neg hb] at hwhite ⊢
    have hindex : indexAt K (whitePixel K x y) x y = 1 := by
      unfold indexAt
      rw [hrow]
      by_cases hfour : K.bits = .four
      · have hat : whiteAt K x y = offset K + (K.height - 1 - y) * stride K + x / 2 := by
          unfold whiteAt
          rw [hfour]
        rw [if_pos hfour, ← hat, byteAt_pixels hb hge (by omega), if_pos rfl]
        unfold half
        by_cases heven : x % 2 = 0
        · rw [if_pos heven, if_pos ⟨hfour, heven⟩]
          rfl
        · rw [if_neg heven, if_neg fun h => heven h.2]
          rfl
      · have hat : whiteAt K x y = offset K + (K.height - 1 - y) * stride K + x := by
          unfold whiteAt
          cases hb' : K.bits with
          | four => exact absurd hb' hfour
          | eight => rfl
          | twentyFour => exact absurd hb' hb
        rw [if_neg hfour, ← hat, byteAt_pixels hb hge (by omega), if_pos rfl, if_neg fun h => hfour h.1]
        rfl
    rw [hindex, hpalette hb]

/-! ## It is not loaded right -/

/-- Memory that is full of zeros. -/
def noJunk : Junk := ⟨fun _ _ => 0, fun _ => 0⟩

theorem screenColour_white {bpp : Int} (hdepth : bpp ∈ depths) : screenColour bpp white ≠ 0 := by
  simp only [depths, List.mem_cons, List.not_mem_nil, or_false] at hdepth
  rcases hdepth with rfl | rfl | rfl | rfl | rfl <;> decide

/-- If it is loaded right, the sizes fit, and the reader finds a pixel that is not black. -/
theorem not_black (hx : x < K.width) (hy : y < K.height) (h : LoadsRight noJunk self K (whitePixel K x y)) :
    SizesFit self.bpp K ∧ colorOf K (palette1 noJunk (whitePixel K x y)) (rowsBuf noJunk K (whitePixel K x y))
      (y * K.width + x) % 256 ≠ 0 := by
  have hbmp := isBmp_whitePixel hx hy
  obtain ⟨b, hload, -, -, hpixels⟩ := h
  have hwhite := hpixels x hx y hy
  rw [pixelAt_white hx hy] at hwhite
  rw [load_pixels noJunk self hbmp] at hload
  obtain ⟨b', hdraw, hload⟩ := Run.bind_eq_ok.1 hload
  cases hload
  have hdata : b.data ≠ none := by
    intro hnone
    have hzero : xrdpBitmapGetPixel b x y = .ok 0 := by
      unfold xrdpBitmapGetPixel
      rw [hnone]
    exact screenColour_white self.depth (Except.ok.inj (hzero.symm.trans hwhite)).symm
  have hfit := sizesFit_of_load noJunk hdraw hdata
  refine ⟨hfit, ?_⟩
  obtain ⟨hsized, hbpp⟩ := resized_sized noJunk self K
  obtain ⟨d, hd, hsize⟩ := resized_cells noJunk self hfit.1
  have hint : K.height * K.width < 2 ^ 31 := by
    rw [Nat.mul_comm]
    exact count_lt hfit
  rw [loadPixels_eq noJunk hbmp hfit] at hdraw
  obtain ⟨rfl, -, -⟩ := drawPixels_eq_ok (fetchesOf K (palette1 noJunk (whitePixel K x y)) rfl
    (rowsBuf noJunk K (whitePixel K x y))) hsized (fun d hd => (resized_short noJunk self hd).1) hdraw
  rw [getPixel_drawn hsized hd hsize hint hx hy, hbpp] at hwhite
  exact blue_of_white self.depth (Except.ok.inj hwhite)

/-- The colours that are not black are at 1, and there are some only if the header has their number. -/
theorem index_of_not_black (hbits : K.bits ≠ .twentyFour) (hx : x < K.width) (hy : y < K.height) {i : Nat}
    (h : (palette1 noJunk (whitePixel K x y)).cells i % 256 ≠ 0) : i = 1 ∧ K.counted = true := by
  obtain ⟨hoffset, hsize, -, -, -, -, -, hclr⟩ := header_whitePixel K x y
  rw [palette1_cells, hclr, hsize] at h
  have hlt : i < headerColours K := by
    by_contra hge
    rw [if_neg hge] at h
    exact h rfl
  have hcounted : K.counted = true := by
    unfold headerColours at hlt
    by_contra hnone
    rw [if_neg hnone] at hlt
    exact absurd hlt (Nat.not_lt_zero _)
  refine ⟨?_, hcounted⟩
  unfold headerColours at hlt
  rw [if_pos hcounted] at hlt
  rw [if_pos (by unfold headerColours; rw [if_pos hcounted]; exact hlt)] at h
  have hbyte : u32At (whitePixel K x y) (14 + 40 + 4 * i) % 256 =
      (byteAt (whitePixel K x y) (14 + 40 + 4 * i)).toNat := by
    have hk := (byteAt (whitePixel K x y) (14 + 40 + 4 * i)).toNat_lt
    unfold u32At u32In leVal
    omega
  rw [hbyte, byteAt_palette hbits hx hy (by omega) (by omega)] at h
  by_contra hne
  rw [if_neg (by omega)] at h
  exact h rfl

theorem half_zero (x : Nat) : half 0 x = 0 := by
  unfold half
  split <;> rfl

/-- **If it is loaded right, the reader looks for the pixel where it is.** -/
theorem place_of_not_black (hx : x < K.width) (hy : y < K.height) (heven : K.bits = .four → K.width % 2 = 0)
    (hzero : x = 0)
    (h : colorOf K (palette1 noJunk (whitePixel K x y)) (rowsBuf noJunk K (whitePixel K x y)) (y * K.width + x) % 256 ≠ 0) :
    (K.counted = true ↔ K.bits ≠ .twentyFour) ∧ K.direct = true ∧
      (stride K * 8 = K.width * K.bits.bits ∨ K.height - 1 - y = 0) := by
  obtain ⟨hoffset, hsize, -, -, -, -, -, hclr⟩ := header_whitePixel K x y
  have hread := (dataStart_le (isBmp_whitePixel hx hy)).1
  obtain ⟨hlt, hge⟩ := whiteAt_lt hx hy
  obtain ⟨hrowle, hroweq⟩ := rowBytes_le K
  rw [whitePixel_length] at hread
  subst hzero
  rw [colorOf_row noJunk _ hx hy heven] at h
  have hrows : (K.height - 1 - y) * rowBytes K ≤ (K.height - 1 - y) * stride K := Nat.mul_le_mul_left _ hrowle
  have hlast : (K.height - 1 - y) * rowBytes K + rowBytes K ≤ K.height * rowBytes K := by
    rw [← Nat.succ_mul]
    exact Nat.mul_le_mul_right _ (by omega)
  -- from the place it follows that there is nothing between
  have hend : ∀ p, dataStart K (whitePixel K 0 y) = 54 + 4 * p → p ≤ paletteSize K →
      dataStart K (whitePixel K 0 y) + (K.height - 1 - y) * rowBytes K =
        offset K + (K.height - 1 - y) * stride K →
      p = paletteSize K ∧ K.direct = true ∧
        (stride K * 8 = K.width * K.bits.bits ∨ K.height - 1 - y = 0) := by
    intro p hp hle heq
    have hoff : offset K = 54 + 4 * paletteSize K + if K.direct then 0 else 1 := rfl
    have hdirect : K.direct = true := by
      by_contra hnot
      rw [if_neg hnot] at hoff
      omega
    rw [if_pos hdirect] at hoff
    refine ⟨by omega, hdirect, ?_⟩
    have hsame : (K.height - 1 - y) * rowBytes K = (K.height - 1 - y) * stride K := by omega
    rcases Nat.eq_zero_or_pos (K.height - 1 - y) with hnone | hpos
    · exact .inr hnone
    · exact .inl (hroweq.1 (Nat.eq_of_mul_eq_mul_left hpos hsame))
  have hwhite : whiteAt K 0 y = offset K + (K.height - 1 - y) * stride K := by
    unfold whiteAt
    cases K.bits <;> rfl
  have hpos : 0 < rowBytes K := by
    have hw := K.width_pos
    unfold rowBytes
    cases hb : K.bits with
    | four =>
      have heven := heven hb
      dsimp only
      omega
    | eight => exact hw
    | twentyFour => exact Nat.mul_pos hw (by decide)
  have hoff := offset_ge K
  by_cases hb : K.bits = .twentyFour
  · have hstart : dataStart K (whitePixel K 0 y) = 54 := by
      unfold dataStart
      rw [if_pos hb, hsize]
    rw [hstart] at h hread hend
    have hbyte : (byteAt (whitePixel K 0 y) (54 + (K.height - 1 - y) * rowBytes K)) ≠ 0 := by
      intro hnone
      simp only [hb, Nat.mul_zero, Nat.add_zero, hnone, or_bytes] at h
      refine h ?_
      show (0 + 256 * _) % 256 = 0
      omega
    have hle : whiteAt K 0 y ≤ 54 + (K.height - 1 - y) * rowBytes K := by
      by_contra hnot
      rw [byteAt_body (by omega) (by omega), bodyByte, if_pos hb, if_neg (by omega)] at hbyte
      exact hbyte rfl
    obtain ⟨hnone, hdirect, hrow⟩ := hend 0 rfl (Nat.zero_le _) (by omega)
    refine ⟨⟨fun hcounted => ?_, fun hne => absurd hb hne⟩, hdirect, hrow⟩
    unfold paletteSize at hnone
    rw [if_pos hb, if_pos hcounted] at hnone
    cases hnone
  · -- the reader's byte gives the number of the colour
    have hbyte : K.counted = true ∧
        byteAt (whitePixel K 0 y) (dataStart K (whitePixel K 0 y) + (K.height - 1 - y) * rowBytes K) ≠ 0 := by
      cases hb' : K.bits with
      | twentyFour => exact absurd hb' hb
      | four =>
        simp only [hb', Nat.zero_div, Nat.add_zero] at h
        obtain ⟨hindex, hcounted⟩ := index_of_not_black hb hx hy h
        refine ⟨hcounted, fun hnone => ?_⟩
        rw [hnone, half_zero] at hindex
        cases hindex
      | eight =>
        simp only [hb', Nat.add_zero] at h
        obtain ⟨hindex, hcounted⟩ := index_of_not_black hb hx hy h
        refine ⟨hcounted, fun hnone => ?_⟩
        rw [hnone] at hindex
        cases hindex
    obtain ⟨hcounted, hbyte⟩ := hbyte
    have hstart : dataStart K (whitePixel K 0 y) = 54 + 4 * paletteSize K := by
      unfold dataStart headerColours at *
      rw [if_neg hb, hsize, hclr, if_pos hcounted]
    have heq : dataStart K (whitePixel K 0 y) + (K.height - 1 - y) * rowBytes K = whiteAt K 0 y := by
      by_contra hne
      rw [byteAt_pixels hb (by omega) (by omega), if_neg hne] at hbyte
      exact hbyte rfl
    obtain ⟨-, hdirect, hrow⟩ := hend _ hstart le_rfl (heq.trans hwhite)
    exact ⟨⟨fun _ => hb, fun _ => hcounted⟩, hdirect, hrow⟩

/-- **Rows of odd width are not**, with four bits a pixel: the last byte of the first row is that of the second one,
or none that has been read for it. -/
theorem black_of_odd (hfour : K.bits = .four) (hodd : K.width % 2 ≠ 0) :
    colorOf K (palette1 noJunk (whitePixel K (K.width - 1) 0)) (rowsBuf noJunk K (whitePixel K (K.width - 1) 0))
      (0 * K.width + (K.width - 1)) % 256 = 0 := by
  have hw := K.width_pos
  have hx : K.width - 1 < K.width := by omega
  have hb : K.bits ≠ .twentyFour := by rw [hfour]; decide
  obtain ⟨hoffset, hsize, -, -, -, -, -, hclr⟩ := header_whitePixel K (K.width - 1) 0
  obtain ⟨hlt, hge⟩ := whiteAt_lt hx K.height_pos
  by_contra hne
  have hcell : colorOf K (palette1 noJunk (whitePixel K (K.width - 1) 0)) (rowsBuf noJunk K (whitePixel K (K.width - 1) 0))
      (0 * K.width + (K.width - 1)) = (palette1 noJunk (whitePixel K (K.width - 1) 0)).cells
        (half ((rowsBuf noJunk K (whitePixel K (K.width - 1) 0)).cells (K.width / 2)) (K.width - 1)) := by
    unfold colorOf
    rw [hfour]
    dsimp only
    rw [Nat.zero_mul, Nat.zero_add, Nat.div_eq_of_lt hx, Nat.mod_eq_of_lt hx, Nat.zero_mul, Nat.zero_add,
      show (K.width - 1) / 2 = K.width / 2 by omega]
  rw [hcell] at hne
  obtain ⟨hindex, hcounted⟩ := index_of_not_black hb hx K.height_pos hne
  have hhigh : half ((rowsBuf noJunk K (whitePixel K (K.width - 1) 0)).cells (K.width / 2)) (K.width - 1) =
      ((rowsBuf noJunk K (whitePixel K (K.width - 1) 0)).cells (K.width / 2)).toNat / 16 := by
    unfold half
    rw [if_pos (by omega)]
  rw [hhigh] at hindex
  have hsixteen : paletteSize K = 16 := by rw [(paletteSize_le K).2 hb, hfour]; rfl
  have hcolours : headerColours K = 16 := by
    unfold headerColours
    rw [if_pos hcounted, hsixteen]
  have hrow : rowBytes K = K.width / 2 := by
    unfold rowBytes
    rw [hfour]
  have hstart : dataStart K (whitePixel K (K.width - 1) 0) = 118 := by
    unfold dataStart
    rw [if_neg hb, hsize, hclr, hcolours]
  have hread := (dataStart_le (isBmp_whitePixel (K := K) hx K.height_pos)).1
  rw [whitePixel_length, hstart, hrow] at hread
  have hstride : K.width / 2 ≤ stride K := by
    rw [← hrow]
    exact (rowBytes_le K).1
  unfold rowsBuf rowsIn at hindex
  dsimp only at hindex
  rw [hrow, hstart] at hindex
  split_ifs at hindex with hin
  · -- it is the first byte of the second row
    have hpos : 0 < K.width / 2 := by
      by_contra hnone
      rw [Nat.eq_zero_of_not_pos hnone, Nat.mul_zero] at hin
      exact absurd hin (Nat.lt_irrefl 0)
    have htwo : 2 ≤ K.height := by
      by_contra hone
      rw [show K.height = 1 by have := K.height_pos; omega, Nat.one_mul] at hin
      exact absurd hin (Nat.lt_irrefl _)
    have hback : (K.height - 1 - 1) * (K.width / 2) + (K.width / 2) ≤ K.height * (K.width / 2) := by
      rw [← Nat.succ_mul]
      exact Nat.mul_le_mul_right _ (by omega)
    have hbefore : (K.height - 1 - 1) * (K.width / 2) + K.width / 2 ≤ (K.height - 1) * stride K := by
      rw [← Nat.succ_mul]
      exact Nat.mul_le_mul (by omega) hstride
    have hwhite : whiteAt K (K.width - 1) 0 = offset K + (K.height - 1) * stride K + (K.width - 1) / 2 := by
      unfold whiteAt
      rw [hfour, Nat.sub_zero]
    have hoff := offset_ge K
    rw [Nat.div_self hpos, Nat.mod_self, byteAt_pixels hb (by omega) (by omega), if_neg (by omega)] at hindex
    exact absurd hindex (by decide)
  · -- it is not read with the rows
    unfold initStream at hindex
    split_ifs at hindex with hlarge
    · exact absurd hindex (show ¬ (0 : UInt8).toNat / 16 = 1 by decide)
    · unfold streamOf paletteBuf at hindex
      rw [if_neg hb, hclr, hcolours, hsize] at hindex
      dsimp only at hindex
      by_cases hp : K.width / 2 < 64
      · rw [filled_cells (by omega), Nat.sub_zero, byteAt_palette hb hx K.height_pos (by omega) (by omega)] at hindex
        split_ifs at hindex
        · exact absurd hindex (by decide)
        · exact absurd hindex (by decide)
      · unfold headerBuf at hindex
        rw [filled_cells_of_not (by omega), filled_cells_of_not (by omega), filled_cells_of_not (by omega)] at hindex
        exact absurd hindex (show ¬ (0 : UInt8).toNat / 16 = 1 by decide)

/-! ## Kinds of files -/

/-- **The files that are loaded right, whatever is in them, are those of some kinds.** -/
theorem loads_right_iff (self : Image) (K : Kind) :
    (∀ junk f, IsBmp K f → LoadsRight junk self K f) ↔ Loadable self.bpp K := by
  constructor
  · intro h
    have hright : ∀ x < K.width, ∀ y < K.height, LoadsRight noJunk self K (whitePixel K x y) :=
      fun x hx y hy => h noJunk _ (isBmp_whitePixel hx hy)
    have heven : K.bits = .four → K.width % 2 = 0 := by
      intro hfour
      by_contra hodd
      have hx : K.width - 1 < K.width := by
        have := K.width_pos
        omega
      exact (not_black hx K.height_pos (hright _ hx 0 K.height_pos)).2 (black_of_odd hfour hodd)
    have hy : K.height - 2 < K.height := by
      have := K.height_pos
      omega
    obtain ⟨hfit, hcolor⟩ := not_black K.width_pos hy (hright 0 K.width_pos _ hy)
    obtain ⟨hcounted, hdirect, hrows⟩ := place_of_not_black K.width_pos hy heven rfl hcolor
    exact ⟨hcounted, hdirect, hrows.imp_right fun hlast => by omega, heven, hfit.1, hfit.2⟩
  · exact fun hK junk f hf => loadsRight_of_loadable junk hK hf

/-- One pixel to a row and two rows, of 24 bits. -/
def paddedKind : Kind := ⟨.twentyFour, 1, 2, false, true, Nat.one_pos, Nat.two_pos, by decide, by decide⟩

/-- The rows of this file are padded, and the upper one is not right. -/
theorem padded_rows : IsBmp paddedKind (whitePixel paddedKind 0 0) ∧
    ¬ LoadsRight noJunk (Image.created noJunk 4 4 24 (by decide) (by decide)) paddedKind (whitePixel paddedKind 0 0) := by
  refine ⟨isBmp_whitePixel (by decide) (by decide), fun h => ?_⟩
  obtain ⟨-, hcolor⟩ := not_black (K := paddedKind) (by decide) (by decide) h
  obtain ⟨-, -, hrows⟩ := place_of_not_black (K := paddedKind) (by decide) (by decide) (fun hfour => by cases hfour) rfl hcolor
  revert hrows
  decide

end Xrdp.Bitmap.Bmp
