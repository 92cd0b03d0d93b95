import Xrdp.Bitmap.PlanarSplit

/-!
# The planar round trip

With the widths and flags of `PlanarFits` the bytes of `xrdp_bitmap32_compress` are read back from
every image, start line, limit and work buffer.

* `planarDecode_pixels` — planes that are read back one by one are read back together.
* `rleLoop_spec`, `rawLoop_spec` — what the loops over the number of lines leave.
* `planar_readBack` — the round trip, and that a line is taken when one fits.
-/

namespace Xrdp.Bitmap

/-- A pixel at the client. -/
def argbOf (noAlpha : Bool) (pixel : Nat) : Argb :=
  ⟨if noAlpha then none else some (planeByte 24 pixel), planeByte 16 pixel, planeByte 8 pixel,
    planeByte 0 pixel⟩

/-! ## Decoding the planes -/

/-- Planes that are read back one by one are read back together. -/
theorem planarDecode_planes {cx k header : Nat} {noAlpha : Bool} {enc dec : Plane → List UInt8}
    (hh : header < 256) (hlow : header % 16 = 0) (hna : header.testBit 5 = noAlpha) (hk : 0 < k)
    (henc : ∀ p ∈ planesOf noAlpha, ∀ rest,
      decodePlane (header.testBit 4) cx k (enc p ++ rest) = some (dec p, rest))
    (tail : List UInt8) :
    planarDecode cx k (UInt8.ofNat header :: (((planesOf noAlpha).map enc).flatten ++ tail)) =
      some ((List.range (cx * k)).map fun i =>
        ⟨if noAlpha then none else some ((dec aPlane).getD i 0), (dec rPlane).getD i 0,
          (dec gPlane).getD i 0, (dec bPlane).getD i 0⟩) := by
  have hbyte : (UInt8.ofNat header).toNat = header := by
    rw [UInt8.toNat_ofNat', Nat.mod_eq_of_lt hh]
  have hcs : header.testBit 3 = false := by
    rw [Nat.testBit_eq_decide_div_mod_eq, decide_eq_false_iff_not]
    omega
  have hcll : header % 8 = 0 := by omega
  rw [planarDecode, if_neg (by omega)]
  simp only [hbyte, hcs, hna, hcll]
  have hr := henc rPlane (by cases noAlpha <;> simp [planesOf])
  have hg := henc gPlane (by cases noAlpha <;> simp [planesOf])
  have hb := henc bPlane (by cases noAlpha <;> simp [planesOf])
  cases noAlpha with
  | true =>
    simp only [planesOf, if_true, List.map_cons, List.map_nil, List.flatten_cons, List.flatten_nil,
      List.append_assoc, Bool.false_eq_true, false_and, if_false, Option.bind_some, hr, hg, hb,
      Option.map_some, Option.map_none, List.nil_append]
  | false =>
    have ha := henc aPlane (by simp [planesOf])
    simp only [planesOf, if_true, List.map_cons, List.map_nil, List.flatten_cons, List.flatten_nil,
      List.append_assoc, Bool.false_eq_true, false_and, if_false, Option.bind_some, ha, hr, hg, hb,
      Option.map_some, List.nil_append]

/-- The same for the planes of some pixels. -/
theorem planarDecode_pixels {cx k header : Nat} {noAlpha : Bool} {px : List Nat}
    {enc : Plane → List UInt8} (hh : header < 256) (hlow : header % 16 = 0)
    (hna : header.testBit 5 = noAlpha) (hlen : px.length = cx * k)
    (henc : ∀ p ∈ planesOf noAlpha, ∀ rest,
      decodePlane (header.testBit 4) cx k (enc p ++ rest) = some (p.bytes px, rest))
    (tail : List UInt8) :
    planarDecode cx k (UInt8.ofNat header :: (((planesOf noAlpha).map enc).flatten ++ tail)) =
      some (px.map (argbOf noAlpha)) := by
  rcases Nat.eq_zero_or_pos k with rfl | hk
  · have : px = [] := List.length_eq_zero_iff.1 hlen
    rw [this, planarDecode, if_pos rfl]
    rfl
  rw [planarDecode_planes hh hlow hna hk henc]
  congr 1
  apply List.ext_getElem
  · simp [hlen]
  · intro i h1 h2
    have hi : i < px.length := by simpa using h2
    simp [Plane.bytes, argbOf, hi, aPlane, rPlane, gPlane, bPlane]

/-! ## The loops over the number of lines -/

theorem flatten_take {α : Type} {cx k : Nat} {rows : List (List α)}
    (h : ∀ row ∈ rows, row.length = cx) : rows.flatten.take (cx * k) = (rows.take k).flatten := by
  induction rows generalizing k with
  | nil => simp
  | cons row rows ih =>
    obtain ⟨hrow, hrows⟩ := List.forall_mem_cons.1 h
    cases k with
    | zero => simp
    | succ k =>
      rw [List.flatten_cons, Nat.mul_add, Nat.mul_one, Nat.add_comm, List.take_add,
        List.take_left' hrow, List.drop_left' hrow, ih hrows]
      rfl

/-- What the client needs of a result: some of the lines, read back, within the limit. -/
structure ReadBack (cx : Nat) (noAlpha : Bool) (byteLimit : Int) (lines : List (List Nat))
    (r : Nat × List UInt8) : Prop where
  le : r.1 ≤ lines.length
  pixels : planarDecode cx r.1 r.2 = some ((lines.take r.1).flatten.map (argbOf noAlpha))
  limit : 0 < r.1 → (r.2.length : Int) ≤ byteLimit

theorem planarDecode_zero (width : Nat) (bytes : List UInt8) :
    planarDecode width 0 bytes = some [] := by
  cases bytes <;> rfl

theorem ReadBack.zero {cx : Nat} {noAlpha : Bool} {byteLimit : Int} {lines : List (List Nat)}
    (bytes : List UInt8) : ReadBack cx noAlpha byteLimit lines (0, bytes) :=
  ⟨Nat.zero_le _, planarDecode_zero cx bytes, fun h => absurd h (Nat.lt_irrefl 0)⟩

section

variable {cx : Nat} {noAlpha : Bool} {byteLimit : Int} {lines : List (List Nat)} {buf : Buf UInt8}

theorem lines_length (hrow : ∀ line ∈ lines, line.length = cx) :
    lines.flatten.length = cx * lines.length := by
  rw [List.length_flatten, List.map_congr_left (g := fun _ => cx) hrow]
  simp [Nat.mul_comm]

/-- Raw planes of the first `k` lines. -/
theorem foutraw_spec (hrow : ∀ line ∈ lines, line.length = cx)
    (h : Split (planesOf noAlpha) lines.flatten buf) {k : Nat} (hk : k ≤ lines.length)
    (hlimit : (2 : Int) + (cx * k * (planesOf noAlpha).length : Nat) ≤ byteLimit) :
    ∃ bytes, foutraw buf (cx * k) (rawHeader noAlpha) (planesOf noAlpha) = .ok bytes ∧
      ReadBack cx noAlpha byteLimit lines (k, bytes) := by
  set px := (lines.take k).flatten with hpx
  have hlen : px.length = cx * k := by
    rw [hpx, lines_length fun line hl => hrow line (List.mem_of_mem_take hl),
      List.length_take_of_le hk]
  have hread : ∀ p ∈ planesOf noAlpha, readBytes buf p.sData (cx * k) = .ok (p.bytes px) := by
    intro p hp
    rw [readBytes_ok (h.holds p hp) (by
      rw [Plane.bytes_length, lines_length hrow]; exact Nat.mul_le_mul_left _ hk), Plane.bytes,
      ← List.map_take, flatten_take hrow]
    rfl
  have hsize : (((planesOf noAlpha).map fun p => p.bytes px).flatten).length =
      cx * k * (planesOf noAlpha).length := by
    cases noAlpha <;> simp [planesOf, hlen] <;> omega
  refine ⟨_, by rw [foutraw, Run.mapM_ok hread]; rfl, hk, ?_, fun _ => ?_⟩
  · refine planarDecode_pixels (by cases noAlpha <;> decide) (by cases noAlpha <;> decide)
      (by cases noAlpha <;> decide) hlen (fun p _ rest => ?_) [0]
    rw [decodePlane, if_neg (by cases noAlpha <;> decide)]
    exact Wire.getBytes_append (by simpa using hlen) rest
  · simp only [List.length_cons, List.length_append, hsize, List.length_nil]
    omega

theorem rawLoop_spec (hrow : ∀ line ∈ lines, line.length = cx)
    (h : Split (planesOf noAlpha) lines.flatten buf) {cy : Nat} (hcy : cy ≤ lines.length) :
    ∃ r, rawLoop buf cx noAlpha byteLimit cy = .ok r ∧
      ReadBack cx noAlpha byteLimit lines r ∧
      (0 < cy → (2 : Int) + (cx * 1 * (planesOf noAlpha).length : Nat) ≤ byteLimit → 0 < r.1) := by
  induction cy with
  | zero => exact ⟨_, rfl, .zero [], fun h0 => absurd h0 (Nat.lt_irrefl 0)⟩
  | succ cy ih =>
    simp only [rawLoop]
    split
    · rename_i hfits
      obtain ⟨bytes, hok, hread⟩ := foutraw_spec hrow h hcy hfits
      exact ⟨_, by rw [hok]; rfl, hread, fun _ _ => Nat.succ_pos cy⟩
    · rename_i hfits
      obtain ⟨r, hok, hread, hpos⟩ := ih (by omega)
      refine ⟨r, hok, hread, fun _ hone => ?_⟩
      rcases Nat.eq_zero_or_pos cy with rfl | h0
      · exact absurd hone hfits
      · exact hpos h0 hone

/-- What `fpack` finds behind `fdelta`. -/
def Deltas (buf : Buf UInt8) (noAlpha : Bool) (lines : List (List Nat)) : Prop :=
  ∀ p ∈ planesOf noAlpha, buf.Holds p.data (deltaRows (lines.map p.bytes)).flatten

/-- Packed planes of the first `k` lines. -/
theorem fpacks_spec (hcx : 0 < cx) (hrow : ∀ line ∈ lines, line.length = cx)
    (h : Deltas buf noAlpha lines) {k : Nat} (hk : k ≤ lines.length) :
    (planesOf noAlpha).mapM (fun p => fpack buf p.data cx k) = .ok
      ((planesOf noAlpha).map fun p => packRows (deltaRows ((lines.take k).map p.bytes))) := by
  refine Run.mapM_ok fun p hp => ?_
  rw [fpack_spec hcx (deltaRows_row ?_)
    (by simpa [deltaRows_length] using hk) (h p hp), deltaRows_take, List.map_take]
  intro row hmem
  obtain ⟨line, hl, rfl⟩ := List.mem_map.1 hmem
  simpa using hrow line hl

theorem packed_readBack {header : Nat} (hcx : 0 < cx) (hh : header < 256) (hlow : header % 16 = 0)
    (hna : header.testBit 5 = noAlpha) (hrle : header.testBit 4 = true)
    (hrow : ∀ line ∈ lines, line.length = cx) {k : Nat} (hk : k ≤ lines.length)
    (hlimit : (1 : Int) + (((planesOf noAlpha).map fun p =>
      packRows (deltaRows ((lines.take k).map p.bytes))).flatten.length : Nat) ≤ byteLimit) :
    ReadBack cx noAlpha byteLimit lines (k, UInt8.ofNat header :: ((planesOf noAlpha).map fun p =>
      packRows (deltaRows ((lines.take k).map p.bytes))).flatten) := by
  have hrowk : ∀ line ∈ lines.take k, line.length = cx :=
    fun line hl => hrow line (List.mem_of_mem_take hl)
  refine ⟨hk, ?_, fun _ => by simp only [List.length_cons]; omega⟩
  have := @planarDecode_pixels _ k _ _ _
    (fun p => packRows (deltaRows ((lines.take k).map p.bytes))) hh hlow hna
    (by rw [lines_length hrowk, List.length_take_of_le hk]) (fun p _ rest => ?_) []
  · rwa [List.append_nil] at this
  · have hread := @decodePlane_packRows _ hcx ((lines.take k).map p.bytes) (by
      intro row hmem
      obtain ⟨line, hl, rfl⟩ := List.mem_map.1 hmem
      simpa using hrowk line hl) rest
    rw [List.length_map, List.length_take_of_le hk] at hread
    rw [hrle, hread, Plane.bytes, List.map_flatten]
    rfl

/-- **The loop with `FLAGS_RLE`**: lines of at most two bytes never go out packed, and packed
planes need a header without color space. -/
theorem rleLoop_spec {header : Nat} (hh : header < 256) (hna : header.testBit 5 = noAlpha)
    (hrle : header.testBit 4 = true) (hrow : ∀ line ∈ lines, line.length = cx)
    (h : Split (planesOf noAlpha) lines.flatten buf) (hd : Deltas buf noAlpha lines)
    (hfit : cx * lines.length ≤ PLANE_BYTES) (hlow : header % 16 = 0 ∨ cx ≤ 2) {cy : Nat}
    (hcy : cy ≤ lines.length) (s : List UInt8) :
    ∃ r, rleLoop buf cx header noAlpha byteLimit cy s = .ok r ∧
      ReadBack cx noAlpha byteLimit lines r ∧
      (0 < cy → (2 : Int) + (cx * 1 * (planesOf noAlpha).length : Nat) ≤ byteLimit → 0 < r.1) := by
  induction cy generalizing s with
  | zero => exact ⟨_, rfl, .zero s, fun h0 => absurd h0 (Nat.lt_irrefl 0)⟩
  | succ cy ih =>
    have hpacked : ∃ packed, (planesOf noAlpha).mapM (fun p => fpack buf p.data cx (cy + 1)) =
        .ok packed ∧ (cx ≤ 2 → cx * (cy + 1) * (planesOf noAlpha).length + 2 ≤
          packed.flatten.length) ∧
        (¬cx ≤ 2 → packed = (planesOf noAlpha).map fun p =>
          packRows (deltaRows ((lines.take (cy + 1)).map p.bytes))) := by
      by_cases h2 : cx ≤ 2
      · have hle : cx * (cy + 1) ≤ PLANE_BYTES := (Nat.mul_le_mul_left _ hcy).trans hfit
        choose! enc henc hlen using fun (p : Plane) (hp : p.data < buf.size ∧
          p.data + cx * (cy + 1) ≤ buf.size) => fpack_short h2 hp.1 hp.2
        have hlaid : ∀ p ∈ planesOf noAlpha, p.data < buf.size ∧
            p.data + cx * (cy + 1) ≤ buf.size := by
          intro p hp
          have := (planesOf_laid hp).data
          have := h.size
          have : 0 < PLANE_BYTES := by decide
          omega
        refine ⟨_, Run.mapM_ok fun p hp => henc p (hlaid p hp), fun _ => ?_, fun hn => absurd h2 hn⟩
        rw [List.length_flatten, List.map_map,
          List.map_congr_left (f := List.length ∘ enc) (g := fun _ => (cy + 1) * (cx - 1 + 2))
            fun p hp => hlen p (hlaid p hp), List.map_const', List.sum_replicate, smul_eq_mul]
        obtain rfl | rfl | rfl : cx = 0 ∨ cx = 1 ∨ cx = 2 := by omega
        all_goals cases noAlpha <;> simp [planesOf] <;> omega
      · exact ⟨_, fpacks_spec (by omega) hrow hd hcy, fun hn => absurd hn h2, fun _ => rfl⟩
    obtain ⟨packed, hok, hshort, hlong⟩ := hpacked
    simp only [rleLoop, hok, Run.ok_bind]
    split
    · rename_i hraw
      obtain ⟨bytes, hbytes, hread⟩ := foutraw_spec hrow h hcy hraw.2
      exact ⟨_, by rw [hbytes]; rfl, hread, fun _ _ => Nat.succ_pos cy⟩
    · rename_i hraw
      split
      · rename_i hlimit
        have hcx : ¬cx ≤ 2 := by
          intro h2
          have := hshort h2
          exact hraw ⟨by omega, by omega⟩
        have := hlong hcx
        subst this
        exact ⟨_, rfl, packed_readBack (by omega) hh (hlow.resolve_right hcx) hna hrle hrow hcy
          hlimit, fun _ _ => Nat.succ_pos cy⟩
      · rename_i hlimit
        obtain ⟨r, hok, hread, hpos⟩ := ih (by omega) (UInt8.ofNat header :: packed.flatten)
        refine ⟨r, hok, hread, fun _ hone => ?_⟩
        rcases Nat.eq_zero_or_pos cy with rfl | h0
        · rw [Nat.zero_add] at hraw
          exact absurd ⟨by omega, hone⟩ hraw
        · exact hpos h0 hone

end

/-! ## Reading back what fits -/

theorem ReadBack.of_take {cx k : Nat} {noAlpha : Bool} {byteLimit : Int} {lines : List (List Nat)}
    {r : Nat × List UInt8} (h : ReadBack cx noAlpha byteLimit (lines.take k) r) :
    ReadBack cx noAlpha byteLimit lines r := by
  have hle := h.le
  rw [List.length_take] at hle
  have hpixels := h.pixels
  rw [List.take_take, Nat.min_eq_left (by omega)] at hpixels
  exact ⟨by omega, hpixels, h.limit⟩

theorem planarLines_take (inData : Nat → UInt8) (width e todo : Nat) {k : Nat} (hk : k ≤ todo) :
    (planarLines inData width e todo todo).take k = planarLines inData width e todo k := by
  rw [planarLines, ← List.map_take, List.take_range, Nat.min_eq_left hk, planarLines]

theorem planarLines_row {inData : Nat → UInt8} {width e todo k : Nat} :
    ∀ line ∈ planarLines inData width e todo k, line.length = width + e := by
  intro line h
  obtain ⟨i, -, rfl⟩ := List.mem_map.1 h
  simp [planarLine]

@[simp] theorem planarLines_length (inData : Nat → UInt8) (width e todo k : Nat) :
    (planarLines inData width e todo k).length = k := by
  simp [planarLines]

/-- `fdelta` of no lines copies a line that nobody reads. -/
theorem fdeltas_zero {noAlpha : Bool} {px : List Nat} {cx : Nat} {buf : Buf UInt8}
    (hcx : cx ≤ PLANE_BYTES) (h : Split (planesOf noAlpha) px buf) :
    ∃ buf', (planesOf noAlpha).foldlM (fun buf p => fdelta p.sData p.data cx 0 buf) buf =
      .ok buf' := by
  have hstep : ∀ (p : Plane) (s : Buf UInt8), p.Laid ∧ PLANE_BYTES * 8 ≤ s.size →
      ∃ s', fdelta p.sData p.data cx 0 s = .ok s' ∧ (p.Laid ∧ PLANE_BYTES * 8 ≤ s'.size) ∧
        ∀ q, Plane.Apart p q ∨ Plane.Apart q p →
          (q.Laid ∧ PLANE_BYTES * 8 ≤ s.size → q.Laid ∧ PLANE_BYTES * 8 ≤ s'.size) ∧
          (q.Laid ∧ PLANE_BYTES * 8 ≤ s.size → q.Laid ∧ PLANE_BYTES * 8 ≤ s'.size) := by
    rintro p s ⟨hlaid, hsize⟩
    have h1 := hlaid.sData
    have h2 := hlaid.data
    obtain ⟨s', hs', -, ht⟩ := @Buf.memcpy_spec _ s p.data
      ((List.range cx).map fun i => s.cells (p.sData + i)) (by simp; omega)
    have hsize' := ht.size
    refine ⟨s', ?_, ⟨hlaid, by omega⟩, fun q _ => ⟨fun hq => ⟨hq.1, by omega⟩,
      fun hq => ⟨hq.1, by omega⟩⟩⟩
    rw [fdelta, readBytes, if_pos (by omega), Run.ok_bind, hs', Run.ok_bind, Nat.mul_zero,
      Nat.zero_sub]
    rfl
  obtain ⟨buf', hok, -⟩ := Run.foldlM_parts hstep (planesOf_apart noAlpha)
    (s := buf) fun p hp => ⟨planesOf_laid hp, h.size⟩
  exact ⟨buf', hok⟩

/-- The bits of the header that the compressor and the decoder test. -/
theorem header_bits (flags : Nat) :
    flags &&& 0xFF < 256 ∧ ((flags &&& 0xFF) &&& FLAGS_NOALPHA ≠ 0 ↔ flags.testBit 5 = true) ∧
      ((flags &&& 0xFF) &&& FLAGS_RLE ≠ 0 ↔ flags.testBit 4 = true) ∧
      (flags &&& FLAGS_RLE = 0 ↔ flags.testBit 4 = false) ∧
      (flags &&& 0xFF).testBit 5 = flags.testBit 5 ∧
      (flags &&& 0xFF).testBit 4 = flags.testBit 4 ∧
      (flags &&& 0x0F = 0 ↔ (flags &&& 0xFF) % 16 = 0) := by
  have hmod : flags &&& 0xFF = flags % 256 := Nat.and_two_pow_sub_one_eq_mod flags 8
  have hlow : flags &&& 0x0F = flags % 16 := Nat.and_two_pow_sub_one_eq_mod flags 4
  have hbit : ∀ n i, n &&& 2 ^ i = 0 ↔ n.testBit i = false := by
    intro n i
    rw [Nat.and_two_pow]
    cases n.testBit i <;> simp
  have hbit' : ∀ n i, n &&& 2 ^ i ≠ 0 ↔ n.testBit i = true := by
    intro n i
    rw [Ne, hbit, Bool.not_eq_false]
  have t5 : (flags &&& 0xFF).testBit 5 = flags.testBit 5 := by
    rw [hmod, show 256 = 2 ^ 8 from rfl, Nat.testBit_mod_two_pow]
    simp
  have t4 : (flags &&& 0xFF).testBit 4 = flags.testBit 4 := by
    rw [hmod, show 256 = 2 ^ 8 from rfl, Nat.testBit_mod_two_pow]
    simp
  refine ⟨?_, ?_, ?_, hbit flags 4, t5, t4, ?_⟩
  · rw [hmod]
    exact Nat.mod_lt _ (by decide)
  · exact (hbit' (flags &&& 0xFF) 5).trans (by rw [t5])
  · exact (hbit' (flags &&& 0xFF) 4).trans (by rw [t4])
  · rw [hlow, hmod]
    omega

/-- The widths and flags with which every image is read back: a line has a pixel to pad with, fits
a plane, and no low bit of the flags gets into the header of packed planes. -/
def PlanarFits (width e flags : Nat) : Prop :=
  (0 < width ∨ e = 0) ∧ width + e ≤ PLANE_BYTES ∧
    (flags &&& FLAGS_RLE = 0 ∨ flags &&& 0x0F = 0 ∨ width + e ≤ 2)

theorem planar_readBack {width e flags : Nat} (h : PlanarFits width e flags)
    (inData : Nat → UInt8) (byteLimit startLine : Int) (tempS : Buf UInt8) :
    ∃ r, xrdpBitmap32Compress inData width byteLimit startLine tempS e flags = .ok r ∧
      ReadBack (width + e) (flags.testBit 5) byteLimit
        (planarLines inData width e (startLine + 1).toNat (startLine + 1).toNat) r ∧
      r.1 * (width + e) ≤ PLANE_BYTES ∧
      (PLANE_BYTES * 8 ≤ tempS.size → 0 ≤ startLine →
        (2 : Int) + (4 * (width + e) : Nat) ≤ byteLimit → 0 < r.1) := by
  obtain ⟨hw, hpw, hflags⟩ := h
  obtain ⟨hh, hna, hrle, hrle', hbit5, hbit4, hlow⟩ := header_bits flags
  unfold xrdpBitmap32Compress
  split
  · exact ⟨_, rfl, .zero [], by simp, fun _ => by omega⟩
  rename_i hsize
  have hplanes : (2 : Int) + (4 * (width + e) : Nat) ≤ byteLimit →
      (2 : Int) + ((width + e) * 1 * (planesOf (flags.testBit 5)).length : Nat) ≤ byteLimit := by
    cases flags.testBit 5 <;> simp [planesOf] <;> omega
  set todo := (startLine + 1).toNat
  have hdec : decide ((flags &&& 0xFF) &&& FLAGS_NOALPHA ≠ 0) = flags.testBit 5 := by
    rw [Bool.eq_iff_iff, decide_eq_true_iff, hna]
  simp only [hdec]
  have hstart : Split (planesOf (flags.testBit 5)) [] tempS := by
    refine ⟨by omega, fun p hp => .nil ?_⟩
    have := (planesOf_laid hp).sData
    omega
  obtain ⟨k, buf, hok, hk, hkpos, hfit, hs⟩ := fsplit_spec inData hw
    (by simpa using hpw) hstart
  rw [List.length_nil, Nat.zero_add] at hok hfit
  rw [List.nil_append] at hs
  rw [hok, Run.ok_bind]
  have htake := planarLines_take inData width e todo hk
  have hrow := @planarLines_row inData width e todo k
  have hlen := lines_length hrow
  rw [planarLines_length] at hlen
  have hres : ∀ {r}, ReadBack (width + e) (flags.testBit 5) byteLimit
      (planarLines inData width e todo k) r → ReadBack (width + e) (flags.testBit 5) byteLimit
        (planarLines inData width e todo todo) r := fun hr => .of_take (htake ▸ hr)
  have hlines : ∀ {r}, ReadBack (width + e) (flags.testBit 5) byteLimit
      (planarLines inData width e todo k) r → r.1 * (width + e) ≤ PLANE_BYTES := by
    intro r hr
    have hle := hr.le
    rw [planarLines_length] at hle
    exact (Nat.mul_le_mul_right _ hle).trans hfit
  dsimp only
  split
  · rename_i hr
    have hr4 := hrle.1 hr
    rcases Nat.eq_zero_or_pos k with rfl | hk0
    · obtain ⟨buf', hbuf'⟩ := fdeltas_zero hpw hs
      exact ⟨(0, []), by rw [hbuf']; rfl, .zero [], by simp, fun _ _ _ => hkpos (by omega)⟩
    · obtain ⟨buf', hbuf', hs', hd⟩ := fdeltas_spec hlen hk0
        (by rw [hlen, Nat.mul_comm]; exact hfit) hs
      rw [hbuf', Run.ok_bind]
      have hdeltas : Deltas buf' (flags.testBit 5) (planarLines inData width e todo k) := by
        intro p hp
        have := hd p hp
        obtain ⟨first, rest, hcons⟩ : ∃ first rest, planarLines inData width e todo k =
            first :: rest := List.exists_cons_of_length_pos (by simpa using hk0)
        rw [hcons] at this hrow ⊢
        rw [Plane.bytes, List.map_flatten, List.map_cons, deltaBytes_flatten] at this
        · exact this
        · intro row hmem
          rw [← List.map_cons (f := List.map (planeByte p.shift))] at hmem
          obtain ⟨line, hl, rfl⟩ := List.mem_map.1 hmem
          simpa using hrow line hl
      have hlow' : (flags &&& 0xFF) % 16 = 0 ∨ width + e ≤ 2 := by
        rcases hflags with hf | hf | hf
        · rw [hrle'.1 hf] at hr4
          cases hr4
        · exact .inl (hlow.1 hf)
        · exact .inr hf
      obtain ⟨r, hok, hread, hpos⟩ := @rleLoop_spec _ _ _ _ _ _ hh hbit5 (hbit4.trans hr4)
        hrow hs' hdeltas (by rw [planarLines_length, Nat.mul_comm]; exact hfit) hlow' k
        (by simp) []
      exact ⟨r, hok, hres hread, hlines hread, fun _ _ hone => hpos hk0 (hplanes hone)⟩
  · obtain ⟨r, hok, hread, hpos⟩ := @rawLoop_spec _ _ _ _ _ hrow hs k (by simp)
    exact ⟨r, hok, hres hread, hlines hread,
      fun _ _ hone => hpos (hkpos (by omega)) (hplanes hone)⟩

end Xrdp.Bitmap
