import Xrdp.Bitmap.UpdateFormat
import Xrdp.Bitmap.RleSize
import Xrdp.Bitmap.RleRoundTrip
import Xrdp.Bitmap.PlanarLimits

/-!
# A bitmap arrives on the screen

`libxrdp_send_bitmap` ends and its rectangles paint the bitmap exactly once when a padded line
takes at most 16284 bytes, the destination lies inside the 16-bit coordinates of the wire, and
pixels of 15 bits have no more.  Without compression no bitmap that does not fit so arrives.

* `compress_spec` — a block of the compressed path holds the lines it claims.
* `Paints.append` — strips next to each other paint their union.
* `compressedPdus_spec`, `plainPdus_spec` — the two paths.
* `send_bitmap_iff` — when both paths end and paint the picture.
-/

namespace Xrdp.Bitmap

open Wire

/-! ## Lines and pixels -/

theorem flatten_getElem? {α : Type} {w j k : Nat} {rows : List (List α)}
    (h : ∀ row ∈ rows, row.length = w) (hk : k < w) :
    rows.flatten[j * w + k]? = rows[j]?.bind (·[k]?) := by
  induction rows generalizing j with
  | nil => simp
  | cons row rows ih =>
    obtain ⟨hrow, hrows⟩ := List.forall_mem_cons.1 h
    cases j with
    | zero =>
      rw [List.flatten_cons, Nat.zero_mul, Nat.zero_add, List.getElem?_append_left (by omega)]
      rfl
    | succ j =>
      rw [List.flatten_cons, Nat.succ_mul, List.getElem?_append_right (by omega), hrow,
        show j * w + w + k - w = j * w + k by omega, ih hrows]
      rfl

theorem argbOf_value (p : Nat) : (argbOf false p).value = p % 256 ^ 4 := by
  simp only [argbOf, Argb.value, planeByte, Bool.false_eq_true, if_false, Option.getD_some,
    UInt8.toNat_ofNat', Nat.shiftRight_eq_div_pow]
  omega

theorem Bpp.bytes_upTo24 (d : Depth) : (Bpp.upTo24 d).bytes = d.bytes := by cases d <;> rfl

/-- `px` are `lines` lines of the picture from line `top + lines - 1` upwards. -/
def Shows (b : Picture) (top lines : Nat) (px : List Nat) : Prop :=
  px.length = b.paddedWidth * lines ∧
    ∀ j < lines, ∀ k < b.width,
      px[j * b.paddedWidth + k]? = some (b.shown (top + lines - 1 - j) k)

/-- The largest block: what is left of `MAX_BITMAP_BUF_SIZE` for pixels. -/
def maxBlock : Nat := MAX_BITMAP_BUF_SIZE - 100

theorem shows_rle {b : Picture} {d : Depth} (hd : b.bpp = .upTo24 d) {i lines : Nat}
    (hi : 0 < i) (hl : lines ≤ i) :
    Shows b (i - lines) lines
      (scanLines d b.data b.width (padding b.width) ((i : Int) - 1) lines) := by
  have htotal : ((i : Int) - 1 + 1).toNat = i := by omega
  rw [scanLines_eq b.width_pos (by omega), htotal]
  refine ⟨by simp [Picture.paddedWidth, Nat.mul_comm], fun j hj k hk => ?_⟩
  have hlt : j * b.paddedWidth + k < lines * b.paddedWidth := by
    have : (j + 1) * b.paddedWidth ≤ lines * b.paddedWidth := Nat.mul_le_mul_right _ hj
    rw [Nat.add_mul] at this
    simp only [Picture.paddedWidth] at this ⊢
    omega
  rw [List.getElem?_map, List.getElem?_range (by simpa [Picture.paddedWidth] using hlt)]
  simp only [Option.map_some, Option.some.injEq]
  rw [show j * b.paddedWidth + k = j * (b.width + padding b.width) + k from rfl,
    image_at j (by omega : k < b.width + padding b.width), lineOf, rowPixel,
    Nat.min_eq_left (by omega), wire, Picture.shown, Picture.pixel, hd, Bpp.bytes_upTo24,
    show i - lines + lines - 1 - j = i - 1 - j by omega]

theorem shows_planar {b : Picture} (hd : b.bpp = .bpp32) {i lines : Nat} (hl : lines ≤ i) :
    Shows b (i - lines) lines
      (((planarLines b.data b.width (padding b.width) i lines).flatten.map (argbOf false)).map
        Argb.value) := by
  have hrow := @planarLines_row b.data b.width (padding b.width) i lines
  refine ⟨?_, fun j hj k hk => ?_⟩
  · rw [List.length_map, List.length_map, lines_length hrow, planarLines_length]
    rfl
  · rw [List.getElem?_map, List.getElem?_map,
      show j * b.paddedWidth + k = j * (b.width + padding b.width) + k from rfl,
      flatten_getElem? hrow (by omega)]
    have hline : (planarLines b.data b.width (padding b.width) i lines)[j]? =
        some (planarLine b.data b.width (padding b.width) (i - 1 - j)) := by
      simp [planarLines, hj]
    rw [hline, Option.bind_some, planarLine, List.getElem?_append_left (by simpa using hk)]
    simp only [List.getElem?_map, List.getElem?_range hk, Option.map_some, Option.some.injEq]
    rw [argbOf_value, Picture.shown, Picture.pixel, hd,
      show i - lines + lines - 1 - j = i - 1 - j by omega]
    rfl

/-- **A block** of the compressed path. -/
theorem compress_spec (b : Picture) (hfit : b.paddedWidth * b.bpp.bytes ≤ maxBlock)
    (htop : b.TopClear) {i base : Nat} {byteLimit : Int} {tempS : Buf UInt8} (hi : 0 < i) (hih : i ≤ b.height)
    (hlimit : byteLimit ≤ maxBlock) :
    ∃ lines data px, b.compress base byteLimit ((i : Int) - 1) tempS = .ok (lines, data) ∧
      lines ≤ i ∧ lines ≤ 16384 ∧ (0 < lines → data.length ≤ 20000) ∧
      unpackPixels b.bpp b.paddedWidth lines data = some px ∧ Shows b (i - lines) lines px ∧
      (byteLimit = maxBlock → base < maxBlock → tempS.size = 65536 → 0 < lines) := by
  have htotal : ((i : Int) - 1 + 1).toNat = i := by omega
  unfold Picture.compress
  cases hd : b.bpp with
  | upTo24 d =>
    rw [hd, Bpp.bytes_upTo24] at hfit
    have hdeep : Deep d b.data b.width ((i : Int) - 1 + 1).toNat := by
      rintro rfl row hrow x hx
      exact htop hd row (by omega) x hx
    obtain ⟨hle, hdec⟩ := rle_round_trip d b.data b.width_pos base (padding b.width) byteLimit
      ((i : Int) - 1) hdeep
    obtain ⟨hsize, hmax⟩ := compress_length b.data b.width d base byteLimit ((i : Int) - 1)
      (padding b.width)
    have hpos : byteLimit = maxBlock → base < maxBlock →
        0 < (xrdpBitmapCompress b.data b.width d base byteLimit ((i : Int) - 1)
          (padding b.width)).1 := by
      intro hl hbase
      refine compress_pos b.data (by omega) (le_trans hfit (by decide)) ?_
      rw [hl]
      exact_mod_cast hbase
    rw [htotal] at hle
    dsimp only
    generalize xrdpBitmapCompress b.data b.width d base byteLimit ((i : Int) - 1)
      (padding b.width) = r at hle hdec hsize hmax hpos ⊢
    obtain ⟨lines, data⟩ := r
    rw [show BC_MAX_BYTES = 16384 from rfl] at hmax
    dsimp only at hsize hmax
    have hlines : lines ≤ lines * ((b.width + padding b.width) * d.bytes) :=
      Nat.le_mul_of_pos_right _ (Nat.mul_pos (by have := b.width_pos; omega) d.bytes_pos)
    exact ⟨lines, data, _, rfl, hle, by omega, fun _ => by omega, hdec, shows_rle hd hi hle,
      fun hl hbase _ => hpos hl hbase⟩
  | bpp32 =>
    rw [hd] at hfit
    have hpw : b.paddedWidth * 4 ≤ maxBlock := hfit
    have hbound : maxBlock = 16284 := rfl
    have hwidth : b.paddedWidth = b.width + padding b.width := rfl
    have heven : b.paddedWidth % 4 = 0 := by
      rw [hwidth]
      unfold padding
      omega
    have hfits : PlanarFits b.width (padding b.width) 0x10 :=
      ⟨.inl b.width_pos, by simp only [PLANE_BYTES]; omega, .inr (.inl (by decide))⟩
    obtain ⟨⟨lines, data⟩, hok, hread, hmax, hpos⟩ := planar_readBack hfits b.data byteLimit ((i : Int) - 1)
      tempS
    have hle := hread.le
    have hpixels := hread.pixels
    rw [planarLines_length, htotal] at hle
    rw [htotal, planarLines_take _ _ _ _ hle] at hpixels
    have hlines : lines ≤ lines * (b.width + padding b.width) :=
      Nat.le_mul_of_pos_right _ (by have := b.width_pos; omega)
    rw [show PLANE_BYTES = 4096 from rfl] at hmax
    refine ⟨lines, data, _, hok, hle, hlines.trans (hmax.trans (by decide)), fun h0 => ?_, ?_,
      shows_planar hd hle, ?_⟩
    · have : (data.length : Int) ≤ byteLimit := hread.limit h0
      omega
    · rw [unpackPixels, hwidth, hpixels]
      rfl
    · rintro hl - htemp
      refine hpos ?_ (by omega) ?_
      · rw [htemp]
        decide
      · rw [hl, hbound, ← hwidth]
        omega

/-! ## Rectangles -/

theorem getLe_outUint16 (v : Int) (rest : List UInt8) :
    getLe 2 (outUint16 v ++ rest) = some ((v % 65536).toNat, rest) := by
  rw [outUint16, getLe_leBytes]
  congr 2
  have := Int.emod_lt_of_pos v (by decide : (0 : Int) < 65536)
  omega

/-- Fields are read back. -/
theorem getFields_outUint16 (vs : List Int) (rest : List UInt8) :
    getFields vs.length (vs.flatMap outUint16 ++ rest) =
      some (vs.map fun v => (v % 65536).toNat, rest) := by
  induction vs with
  | nil => rfl
  | cons v vs ih =>
    rw [List.length_cons, List.flatMap_cons, List.append_assoc, getFields, getLe_outUint16,
      Option.bind_some]
    simp only [ih, Option.map_some, List.map_cons]

theorem outUint16_nat {v : Nat} (h : v < 65536) : ((v : Int) % 65536).toNat = v := by omega

@[simp] theorem bppOfBits_bits (bpp : Bpp) : bppOfBits bpp.bits = some bpp := by
  rcases bpp with d | _
  · cases d <;> rfl
  · rfl

theorem bits_lt (bpp : Bpp) : bpp.bits < 65536 := by
  rcases bpp with d | _
  · cases d <;> decide
  · decide

theorem ite_append_ite {α : Type} {A B C : Prop} [Decidable A] [Decidable B] [Decidable C]
    (l : List α) (hC : C ↔ A ∨ B) (hd : A → ¬B) :
    (if A then l else []) ++ (if B then l else []) = if C then l else [] := by
  by_cases hA : A
  · rw [if_pos hA, if_neg (hd hA), if_pos (hC.2 (.inl hA)), List.append_nil]
  · by_cases hB : B
    · rw [if_neg hA, if_pos hB, if_pos (hC.2 (.inr hB)), List.nil_append]
    · rw [if_neg hA, if_neg hB, if_neg fun h => (hC.1 h).elim hA hB, List.nil_append]

/-- Strips next to each other paint their union, in either order. -/
theorem Paints.append {b : Picture} {x y : Int} {lo mid hi : Nat} {ts us : List Tile}
    (h : Paints b x y lo mid ts) (h' : Paints b x y mid hi us) (hlo : lo ≤ mid) (hhi : mid ≤ hi) :
    Paints b x y lo hi (ts ++ us) ∧ Paints b x y lo hi (us ++ ts) := by
  constructor
  · intro px py
    rw [List.filter_append, List.map_append, h px py, h' px py]
    exact ite_append_ite _ (by omega) (by omega)
  · intro px py
    rw [List.filter_append, List.map_append, h px py, h' px py]
    exact ite_append_ite _ (by omega) (by omega)

theorem Paints.nil (b : Picture) (x y : Int) (lo : Nat) : Paints b x y lo lo [] := by
  intro px py
  rw [if_neg (by omega)]
  rfl

/-- The destination lies inside the coordinates of the wire. -/
structure OnWire (b : Picture) (x y : Int) : Prop where
  left : 0 ≤ x
  right : x + b.width ≤ 65536
  top : 0 ≤ y
  bottom : y + b.height ≤ 65536

/-- The rectangle of some lines. -/
def stripTile (b : Picture) (x y : Int) (top lines : Nat) (px : List Nat) : Tile :=
  ⟨x.toNat, (y + top).toNat, (x + b.width - 1).toNat, (y + top + lines - 1).toNat, b.paddedWidth,
    lines, px⟩

theorem paints_strip {b : Picture} {x y : Int} {top lines : Nat} {px : List Nat}
    (hw : OnWire b x y) (hl : 0 < lines) (h : Shows b top lines px) :
    Paints b x y top (top + lines) [stripTile b x y top lines px] := by
  intro px' py'
  have hx := hw.left
  have hy := hw.top
  have hwidth := b.width_pos
  have hcov : (stripTile b x y top lines px).covers px' py' ↔
      x ≤ px' ∧ px' < x + b.width ∧ y + top ≤ py' ∧ py' < y + (top + lines : Nat) := by
    simp only [Tile.covers, stripTile]
    omega
  by_cases hin : (stripTile b x y top lines px).covers px' py'
  · have hin' := hcov.1 hin
    rw [if_pos hin', List.filter_cons_of_pos (by simpa using hin), List.filter_nil, List.map_cons,
      List.map_nil]
    have hpix := h.2 (y + (top + lines : Nat) - 1 - py').toNat (by omega) (px' - x).toNat (by omega)
    have hat : (stripTile b x y top lines px).pixelAt px' py' =
        px[(y + (top + lines : Nat) - 1 - py').toNat * b.paddedWidth + (px' - x).toNat]? := by
      simp only [Tile.pixelAt, stripTile]
      congr 2
      · congr 1
        omega
      · omega
    rw [hat, hpix, show top + lines - 1 - (y + (top + lines : Nat) - 1 - py').toNat =
      (py' - y).toNat by omega]
  · rw [if_neg (fun hc => hin (hcov.2 hc)), List.filter_cons_of_neg (by simpa using hin)]
    rfl

theorem paddedWidth_lt {b : Picture} (hfit : b.paddedWidth * b.bpp.bytes ≤ maxBlock) :
    b.paddedWidth < 65536 := by
  have h1 : 1 ≤ b.bpp.bytes := by
    rcases b.bpp with d | _
    · cases d <;> decide
    · decide
  have : b.paddedWidth ≤ b.paddedWidth * b.bpp.bytes := Nat.le_mul_of_pos_right _ h1
  have : maxBlock = 16284 := rfl
  omega

/-- A rectangle is read back. -/
theorem decodeTile_strip {b : Picture} {x y : Int} {top lines flags : Nat}
    {block px : List _} (hw : OnWire b x y) (hl : 0 < lines) (hl' : lines ≤ 16384)
    (hh : top + lines ≤ b.height) (hpw : b.paddedWidth < 65536) (hflags : flags < 65536)
    (hblock : block.length < 65536)
    (hpx : decodeBlock b.bpp b.paddedWidth lines flags block = some px)
    (hs : Shows b top lines px) (rest : List UInt8) :
    decodeTile (([x, y + top, x + b.width - 1, y + top + lines - 1, b.paddedWidth, lines,
        b.bpp.bits, flags, block.length] : List Int).flatMap outUint16 ++ (block ++ rest)) =
      some (stripTile b x y top lines px, rest) := by
  obtain ⟨hx, hx', hy, hy'⟩ := hw
  have hwidth := b.width_pos
  have e1 : (x % 65536).toNat = x.toNat := by omega
  have e2 : ((y + top) % 65536).toNat = (y + top).toNat := by omega
  have e3 : ((x + b.width - 1) % 65536).toNat = (x + b.width - 1).toNat := by omega
  have e4 : ((y + top + lines - 1) % 65536).toNat = (y + top + lines - 1).toNat := by omega
  have e5 := outUint16_nat hpw
  have e6 := outUint16_nat (lt_of_le_of_lt hl' (by decide) : lines < 65536)
  have e7 := outUint16_nat (bits_lt b.bpp)
  have hfields := getFields_outUint16 [x, y + top, x + b.width - 1, y + top + lines - 1,
    b.paddedWidth, lines, b.bpp.bits, flags, block.length] (block ++ rest)
  simp only [List.map_cons, List.map_nil, e1, e2, e3, e4, e5, e6, e7, outUint16_nat hflags,
    outUint16_nat hblock] at hfields
  change getFields 9 _ = _ at hfields
  rw [decodeTile, hfields]
  simp only [bppOfBits_bits, Option.bind_some, getBytes_append rfl, hpx]
  rw [if_pos hs.1]
  rfl

/-- A compressed rectangle is read back. -/
theorem decodeTile_compressed (ss : Session) {b : Picture} {x y : Int} {top lines : Nat}
    {data : List UInt8} {px : List Nat} (hw : OnWire b x y) (hl : 0 < lines) (hl' : lines ≤ 16384)
    (hh : top + lines ≤ b.height) (hpw : b.paddedWidth < 65536) (hdata : data.length ≤ 20000)
    (hpx : unpackPixels b.bpp b.paddedWidth lines data = some px) (hs : Shows b top lines px)
    (rest : List UInt8) :
    decodeTile (compressedHeader ss b x (y + top) b.width lines data.length ++ data ++ rest) =
      some (stripTile b x y top lines px, rest) := by
  unfold compressedHeader
  by_cases hop : ss.op1
  · have := @decodeTile_strip _ _ _ _ _ 0x401 data _ hw hl hl' hh hpw (by decide) (by omega) (by
        rw [decodeBlock, if_pos (by decide), if_pos (by decide)]
        exact hpx) hs rest
    simpa only [hop, if_true, List.flatMap_cons, List.flatMap_nil, List.append_nil,
      List.append_assoc, Nat.cast_ofNat] using this
  · set head := outUint16 0 ++ outUint16 data.length ++
      outUint16 (b.paddedWidth * b.bpp.bytes : Nat) ++
      outUint16 (b.paddedWidth * b.bpp.bytes * lines : Nat) with hhead
    have hlen : head.length = 8 := by simp [hhead, outUint16]
    have hlen' : (head ++ data).length = data.length + 8 := by
      rw [List.length_append, hlen, Nat.add_comm]
    have := @decodeTile_strip _ _ _ _ _ 0x1 (head ++ data) _ hw hl hl' hh hpw (by decide) (by omega) (by
        rw [decodeBlock, if_pos (by decide), if_neg (by decide), getBytes_append hlen]
        exact hpx) hs rest
    rw [hlen'] at this
    simpa [hop, hhead] using this

/-! ## With compression -/

/-- What is known of the work buffer: it was allocated with 64 KiB. -/
def WorkBuffers (tempS : Nat → Buf UInt8) : Prop := ∀ i, (tempS i).size = 65536

theorem initData_le (ss : Session) : ss.initData ≤ 49 := by
  unfold Session.initData
  split
  · split
    · omega
    split
    · omega
    · omega
  · omega

theorem channelHdr_bounds (ss : Session) : 18 ≤ ss.channelHdr ∧ ss.channelHdr ≤ 26 := by
  unfold Session.channelHdr
  split <;> omega

/-- The rectangles of one PDU: some lines less to go, at least one if the PDU was empty. -/
theorem compressedUpdates_spec (ss : Session) (b : Picture)
    (hfit : b.paddedWidth * b.bpp.bytes ≤ maxBlock) (htop : b.TopClear) (x y cx : Int)
    {tempS : Nat → Buf UInt8} (htemp : WorkBuffers tempS) {i total : Nat} (hi : 0 < i) (hih : i ≤ b.height)
    (htotal : total < MAX_BITMAP_BUF_SIZE) :
    ∃ n j rects, compressedUpdates ss b x y cx tempS i total = .ok (n, j, rects) ∧ j ≤ i ∧
      (total = 0 → j < i) ∧ 18 * n + total ≤ MAX_BITMAP_BUF_SIZE + 18 ∧
      (cx = b.width → OnWire b x y →
        ∃ tiles, decodeTiles n rects = some tiles ∧ Paints b x y j i tiles) := by
  induction i using Nat.strong_induction_on generalizing total with
  | _ i ih =>
    have hinit := initData_le ss
    have hhdr := channelHdr_bounds ss
    have hmax : MAX_BITMAP_BUF_SIZE = 16384 := rfl
    have hblock : maxBlock = 16284 := rfl
    obtain ⟨lines, data, px, hok, hle, hle', hdata, hpx, hshows, hpos⟩ := @compress_spec b hfit htop i _
      ((MAX_BITMAP_BUF_SIZE : Int) - 100 - total) _ hi hih (by omega)
    rw [compressedUpdates, hok, Run.ok_bind]
    by_cases h0 : lines = 0
    · refine ⟨0, i, [], by simp [h0], le_rfl, fun ht => ?_, by omega, fun _ _ =>
        ⟨[], rfl, .nil b x y i⟩⟩
      have := hpos (by omega) (by omega) (htemp i)
      omega
    · have hl : 0 < lines := Nat.pos_of_ne_zero h0
      have hsum : i - lines + lines = i := Nat.sub_add_cancel hle
      have hpw := paddedWidth_lt hfit
      have hread : cx = b.width → OnWire b x y → ∀ rest,
          decodeTile (compressedHeader ss b x (y + (i - lines : Nat)) cx lines data.length ++ data ++
            rest) = some (stripTile b x y (i - lines) lines px, rest) := by
        rintro rfl hw rest
        exact decodeTile_compressed ss hw hl hle' (by omega) hpw (hdata hl) hpx hshows rest
      have hstrip : OnWire b x y →
          Paints b x y (i - lines) i [stripTile b x y (i - lines) lines px] := by
        intro hw
        have := paints_strip hw hl hshows
        rwa [hsum] at this
      simp only [dif_neg h0]
      split
      · rename_i hmore
        obtain ⟨n, j, rects, hrec, hj, -, hn, hpaint⟩ := ih (i - lines) (by omega) hmore.2 (by omega)
          hmore.1
        refine ⟨n + 1, j, compressedHeader ss b x (y + (i - lines : Nat)) cx lines data.length ++
          data ++ rects, by rw [hrec]; rfl, by omega, fun _ => by omega, by omega, ?_⟩
        intro hcx hw
        obtain ⟨tiles, htiles, hps⟩ := hpaint hcx hw
        refine ⟨stripTile b x y (i - lines) lines px :: tiles, ?_, ?_⟩
        · rw [decodeTiles, hread hcx hw, Option.bind_some]
          simp only [htiles, Option.map_some]
        · exact (hps.append (hstrip hw) hj (by omega)).2
      · refine ⟨1, i - lines, _, rfl, by omega, fun _ => by omega, by omega, fun hcx hw => ?_⟩
        refine ⟨[stripTile b x y (i - lines) lines px], ?_, hstrip hw⟩
        have := hread hcx hw []
        rw [List.append_nil] at this
        rw [decodeTiles, this]
        rfl

theorem decodePdu_bitmap {n : Nat} (hn : n < 65536) (rects : List UInt8) :
    decodePdu (outUint16 RDP_UPDATE_BITMAP ++ outUint16 n ++ rects) = decodeTiles n rects := by
  have hfields := getFields_outUint16 [(RDP_UPDATE_BITMAP : Int), n] rects
  simp only [List.flatMap_cons, List.flatMap_nil, List.append_nil, List.map_cons, List.map_nil,
    outUint16_nat hn] at hfields
  change getFields 2 _ = _ at hfields
  rw [decodePdu, hfields]
  exact if_pos rfl

/-- **The compressed path** ends, and its PDUs paint the lines `0 … i - 1`. -/
theorem compressedPdus_spec (ss : Session) (b : Picture)
    (hfit : b.paddedWidth * b.bpp.bytes ≤ maxBlock) (htop : b.TopClear) (x y cx : Int)
    {tempS : Nat → Buf UInt8} (htemp : WorkBuffers tempS) {fuel i : Nat} (hfuel : i < fuel) (hih : i ≤ b.height) :
    ∃ pdus, compressedPdus ss b x y cx tempS fuel i = .ok pdus ∧
      (cx = b.width → OnWire b x y →
        ∃ tiles, decodePdus pdus = some tiles ∧ Paints b x y 0 i tiles) := by
  induction fuel generalizing i with
  | zero => exact absurd hfuel (Nat.not_lt_zero i)
  | succ fuel ih =>
    rw [compressedPdus]
    split
    · rename_i hi
      obtain ⟨n, j, rects, hok, hj, hless, hn, hpaint⟩ := @compressedUpdates_spec ss b hfit htop x
        y cx _ htemp _ 0 hi hih (by decide)
      have hlt := hless rfl
      obtain ⟨pdus, hrec, hpaints⟩ := ih (i := j) (by omega) (by omega)
      refine ⟨(outUint16 RDP_UPDATE_BITMAP ++ outUint16 n ++ rects) :: pdus, ?_, fun hcx hw => ?_⟩
      · rw [hok, Run.ok_bind]
        simp only [hrec, Run.ok_bind]
        rfl
      obtain ⟨tiles, htiles, hps⟩ := hpaint hcx hw
      obtain ⟨tiles', htiles', hps'⟩ := hpaints hcx hw
      refine ⟨tiles ++ tiles', ?_, (hps'.append hps (Nat.zero_le _) hj).2⟩
      rw [show MAX_BITMAP_BUF_SIZE = 16384 from rfl] at hn
      rw [decodePdus, decodePdu_bitmap (by omega), htiles, Option.bind_some, htiles']
      rfl
    · rename_i hi
      obtain rfl : i = 0 := by omega
      exact ⟨[], rfl, fun _ _ => ⟨[], rfl, .nil b x y 0⟩⟩

/-! ## Without -/

theorem rawPixels_leBytes (k : Nat) (ps : List Nat) :
    rawPixels k ps.length (ps.flatMap (leBytes k)) = some (ps.map (· % 256 ^ k)) := by
  induction ps with
  | nil => rfl
  | cons p ps ih =>
    rw [List.length_cons, List.flatMap_cons, rawPixels, getLe_leBytes, Option.bind_some]
    simp only [ih, Option.map_some, List.map_cons]

theorem flatMap_leBytes_length (k : Nat) (ps : List Nat) :
    (ps.flatMap (leBytes k)).length = ps.length * k := by
  induction ps with
  | nil => simp
  | cons p ps ih =>
    rw [List.flatMap_cons, List.length_append, ih, leBytes_length, List.length_cons, Nat.succ_mul,
      Nat.add_comm]

/-- The pixels of a plain line: the padding is black. -/
def plainPixels (b : Picture) (row : Nat) : List Nat :=
  (List.range b.width).map (b.pixel row) ++ List.replicate (padding b.width) 0

theorem replicate_zero_bytes (k n : Nat) :
    List.replicate (n * k) (0 : UInt8) = (List.replicate n 0).flatMap (leBytes k) := by
  have hz : ∀ k, leBytes k 0 = List.replicate k (0 : UInt8) := by
    intro k
    induction k with
    | zero => rfl
    | succ k ih => rw [leBytes, Nat.zero_div, ih]; rfl
  induction n with
  | zero => simp
  | succ n ih =>
    rw [Nat.succ_mul, Nat.add_comm, List.replicate_add, ih, List.replicate_succ, List.flatMap_cons,
      hz]

theorem plainLine_eq (b : Picture) (row : Nat) :
    plainLine b row = (plainPixels b row).flatMap (leBytes b.bpp.bytes) := by
  rw [plainLine, plainPixels, List.flatMap_append, replicate_zero_bytes, List.flatMap_map]

/-- The pixels of some plain lines, the last of them first. -/
def plainBlock (b : Picture) (i lines : Nat) : List (List Nat) :=
  (List.range lines).map fun j => plainPixels b (i + lines - 1 - j)

theorem plainBlock_row (b : Picture) (i lines : Nat) :
    ∀ row ∈ plainBlock b i lines, row.length = b.paddedWidth := by
  intro row h
  obtain ⟨j, -, rfl⟩ := List.mem_map.1 h
  simp [plainPixels, Picture.paddedWidth]

theorem plainBlock_bytes (b : Picture) (i lines : Nat) :
    ((List.range lines).flatMap fun j => plainLine b (i + lines - 1 - j)) =
      (plainBlock b i lines).flatten.flatMap (leBytes b.bpp.bytes) := by
  rw [plainBlock, List.flatMap_def, List.flatMap_def, List.map_flatten, List.map_map,
    List.flatten_flatten, List.map_map]
  congr 1
  apply List.map_congr_left
  intro j _
  rw [plainLine_eq, List.flatMap_def]
  rfl

theorem shows_plain (b : Picture) (i lines : Nat) :
    Shows b i lines ((plainBlock b i lines).flatten.map (· % 256 ^ b.bpp.bytes)) := by
  refine ⟨?_, fun j hj k hk => ?_⟩
  · rw [List.length_map, lines_length (plainBlock_row b i lines)]
    simp [plainBlock]
  · have hline : (plainBlock b i lines)[j]? = some (plainPixels b (i + lines - 1 - j)) := by
      simp [plainBlock, hj]
    rw [List.getElem?_map, flatten_getElem? (plainBlock_row b i lines)
      (by simp only [Picture.paddedWidth]; omega), hline, Option.bind_some, plainPixels,
      List.getElem?_append_left (by simpa using hk), List.getElem?_map, List.getElem?_range hk]
    rfl

theorem linePadBytes_pos (b : Picture) : 0 < b.linePadBytes := by
  have hbytes : 0 < b.bpp.bytes := by
    rcases b.bpp with d | _
    · cases d <;> decide
    · decide
  exact Nat.add_pos_left (Nat.mul_pos b.width_pos hbytes) _

/-- A plain PDU is read back. -/
theorem decodePdu_plain {b : Picture} {x y : Int} {i lines : Nat} (hw : OnWire b x y)
    (hl : 0 < lines) (hh : i + lines ≤ b.height) (hpw : b.paddedWidth < 65536)
    (hsize : b.linePadBytes * lines ≤ maxBlock) :
    decodePdu (plainPdu b x y b.width i lines) = some [stripTile b x y i lines
      ((plainBlock b i lines).flatten.map (· % 256 ^ b.bpp.bytes))] := by
  set block := (List.range lines).flatMap fun j => plainLine b (i + lines - 1 - j) with hblock
  have hlen : (plainBlock b i lines).flatten.length = b.paddedWidth * lines := by
    rw [lines_length (plainBlock_row b i lines)]
    simp [plainBlock]
  have hbytes : block.length = b.linePadBytes * lines := by
    rw [hblock, plainBlock_bytes, flatMap_leBytes_length, hlen, Picture.linePadBytes,
      Picture.paddedWidth]
    ring
  have hpos := linePadBytes_pos b
  have hlines : lines ≤ b.linePadBytes * lines := Nat.le_mul_of_pos_left _ hpos
  have hmax : maxBlock = 16284 := rfl
  have htile := @decodeTile_strip _ _ _ _ _ 0 block _ hw hl (by omega) hh hpw (by decide) (by omega) (by
      rw [decodeBlock, if_neg (by decide), hblock, plainBlock_bytes, ← hlen]
      exact rawPixels_leBytes _ _) (shows_plain b i lines) []
  rw [List.append_nil, hbytes] at htile
  have hpdu : plainPdu b x y b.width i lines = outUint16 RDP_UPDATE_BITMAP ++
      outUint16 (1 : Nat) ++ (([x, y + i, x + b.width - 1, y + i + lines - 1, b.paddedWidth, lines,
        b.bpp.bits, (0 : Nat), (b.linePadBytes * lines : Nat)] : List Int).flatMap outUint16 ++
        block) := by
    simp [plainPdu, hblock]
  rw [hpdu, decodePdu_bitmap (by decide), decodeTiles, htile]
  rfl

/-- **The plain path** ends, and its PDUs paint the lines from `i` on. -/
theorem plainPdus_spec (b : Picture) (x y cx : Int) {fuel i : Nat} (hfuel : b.height < fuel + i)
    (hi : i ≤ b.height) :
    ∃ pdus, plainPdus b x y cx fuel i = .ok pdus ∧
      (b.paddedWidth * b.bpp.bytes ≤ maxBlock → cx = b.width → OnWire b x y →
        ∃ tiles, decodePdus pdus = some tiles ∧ Paints b x y i b.height tiles) := by
  induction fuel generalizing i with
  | zero => omega
  | succ fuel ih =>
    by_cases hlt : i < b.height
    · set fits := (MAX_BITMAP_BUF_SIZE - 100) / b.linePadBytes with hfits
      set lines := if i + fits > b.height then b.height - i else fits with hlines
      have hround : plainPdus b x y cx (fuel + 1) i = if lines = 0 then .ok [] else do
          let rest ← plainPdus b x y cx fuel (i + lines)
          return plainPdu b x y cx i lines :: rest := by
        rw [plainPdus, if_pos hlt]
      by_cases h0 : lines = 0
      · refine ⟨[], by rw [hround, if_pos h0], fun hfit => ?_⟩
        -- a line fits
        have hpad : b.linePadBytes = b.paddedWidth * b.bpp.bytes := by
          rw [Picture.linePadBytes, Picture.paddedWidth, Nat.add_mul]
        have : 0 < fits := Nat.div_pos (by rw [hpad]; exact hfit) (linePadBytes_pos b)
        rw [hlines] at h0
        split at h0 <;> omega
      · have hle : i + lines ≤ b.height := by
          rw [hlines]
          split <;> omega
        have hle' : lines ≤ fits := by
          rw [hlines]
          split <;> omega
        obtain ⟨pdus, hrec, hpaint⟩ := ih (i := i + lines) (by omega) hle
        refine ⟨plainPdu b x y cx i lines :: pdus, ?_, fun hfit hcx hw => ?_⟩
        · rw [hround, if_neg h0, hrec]
          rfl
        obtain ⟨tiles, htiles, hps⟩ := hpaint hfit hcx hw
        subst hcx
        have hpdu := decodePdu_plain hw (Nat.pos_of_ne_zero h0) hle (paddedWidth_lt hfit)
          ((Nat.mul_le_mul_left _ hle').trans (Nat.mul_div_le _ _))
        refine ⟨_, by rw [decodePdus, hpdu, Option.bind_some, htiles, Option.map_some], ?_⟩
        exact ((paints_strip hw (Nat.pos_of_ne_zero h0) (shows_plain b i lines)).append hps
          (by omega) hle).1
    · obtain rfl : i = b.height := by omega
      exact ⟨[], by rw [plainPdus, if_neg hlt], fun _ _ _ => ⟨[], rfl, .nil b x y _⟩⟩

/-! ## When the bitmap arrives -/

/-- The function ends, whatever part of the bitmap it is asked for; and asked for all of it, with
and without compression, it paints the bitmap at `(x, y)`. -/
def SendsRight (b : Picture) (x y : Int) : Prop :=
  (∀ ss tempS cx cy, WorkBuffers tempS →
    ∃ fuel pdus, libxrdpSendBitmap ss b x y cx cy tempS fuel = .ok pdus) ∧
  ∀ ss tempS, WorkBuffers tempS →
    ∃ fuel pdus tiles, libxrdpSendBitmap ss b x y b.width b.height tempS fuel = .ok pdus ∧
      decodePdus pdus = some tiles ∧ Paints b x y 0 b.height tiles

theorem sendsRight_of_fits {b : Picture} {x y : Int}
    (hfit : b.paddedWidth * b.bpp.bytes ≤ maxBlock) (hw : OnWire b x y) (htop : b.TopClear) :
    SendsRight b x y := by
  constructor
  · intro ss tempS cx cy htemp
    refine ⟨b.height + 1, ?_⟩
    unfold libxrdpSendBitmap
    split
    · obtain ⟨pdus, hok, -⟩ := @compressedPdus_spec ss b hfit htop x y cx _ htemp
        (b.height + 1) (if cy ≤ b.height then cy.toNat else 0)
        (by split <;> omega) (by split <;> omega)
      exact ⟨pdus, hok⟩
    split
    · obtain ⟨pdus, hok, -⟩ := @plainPdus_spec b x y cx (b.height + 1) 0 (by omega) (Nat.zero_le _)
      exact ⟨pdus, hok⟩
    · exact ⟨[], rfl⟩
  · intro ss tempS htemp
    refine ⟨b.height + 1, ?_⟩
    unfold libxrdpSendBitmap
    split
    · rw [if_pos le_rfl, Int.toNat_natCast]
      obtain ⟨pdus, hok, hpaint⟩ := @compressedPdus_spec ss b hfit htop x y b.width _ htemp
        (b.height + 1) b.height (by omega) le_rfl
      obtain ⟨tiles, htiles, hps⟩ := hpaint rfl hw
      exact ⟨pdus, tiles, hok, htiles, hps⟩
    · have hpos : b.width * b.bpp.bytes > 0 ∧ b.height > 0 := by
        refine ⟨Nat.mul_pos b.width_pos ?_, b.height_pos⟩
        rcases b.bpp with d | _
        · cases d <;> decide
        · decide
      rw [if_pos hpos]
      obtain ⟨pdus, hok, hpaint⟩ := @plainPdus_spec b x y b.width (b.height + 1) 0 (by omega) (Nat.zero_le _)
      obtain ⟨tiles, htiles, hps⟩ := hpaint hfit rfl hw
      exact ⟨pdus, tiles, hok, htiles, hps⟩

theorem getFields_lt {n : Nat} {vs : List Nat} {bs rest : List UInt8}
    (h : getFields n bs = some (vs, rest)) : ∀ v ∈ vs, v < 65536 := by
  induction n generalizing bs vs rest with
  | zero =>
    cases h
    exact fun _ hv => absurd hv List.not_mem_nil
  | succ n ih =>
    obtain ⟨⟨v, bs'⟩, hv, h⟩ := Option.bind_eq_some_iff.1 h
    obtain ⟨⟨vs', rest'⟩, hvs, heq⟩ := Option.map_eq_some_iff.1 h
    cases heq
    exact List.forall_mem_cons.2 ⟨getLe_lt hv, ih hvs⟩

/-- A rectangle has 16-bit coordinates. -/
def Tile.Small (t : Tile) : Prop := t.right < 65536 ∧ t.bottom < 65536

theorem decodeTile_small {bs rest : List UInt8} {t : Tile} (h : decodeTile bs = some (t, rest)) :
    t.Small := by
  unfold decodeTile at h
  split at h
  · rename_i left top right bottom width height bits flags length bs' hfields
    have hlt := getFields_lt hfields
    obtain ⟨bpp, -, h⟩ := Option.bind_eq_some_iff.1 h
    obtain ⟨⟨block, rest'⟩, -, h⟩ := Option.bind_eq_some_iff.1 h
    obtain ⟨pixels, -, h⟩ := Option.bind_eq_some_iff.1 h
    split at h
    · cases h
      exact ⟨hlt right (by simp), hlt bottom (by simp)⟩
    · cases h
  · cases h

theorem decodeTiles_small {n : Nat} {bs : List UInt8} {ts : List Tile}
    (h : decodeTiles n bs = some ts) : ∀ t ∈ ts, t.Small := by
  induction n generalizing bs ts with
  | zero =>
    rw [decodeTiles] at h
    split at h
    · cases h
      exact fun _ ht => absurd ht List.not_mem_nil
    · cases h
  | succ n ih =>
    obtain ⟨⟨t, bs'⟩, ht, h⟩ := Option.bind_eq_some_iff.1 h
    obtain ⟨ts', hts, heq⟩ := Option.map_eq_some_iff.1 h
    cases heq
    exact List.forall_mem_cons.2 ⟨decodeTile_small ht, ih hts⟩

theorem decodePdus_small {pdus : List (List UInt8)} {ts : List Tile}
    (h : decodePdus pdus = some ts) : ∀ t ∈ ts, t.Small := by
  induction pdus generalizing ts with
  | nil =>
    cases h
    exact fun _ ht => absurd ht List.not_mem_nil
  | cons pdu pdus ih =>
    obtain ⟨us, hus, h⟩ := Option.bind_eq_some_iff.1 h
    obtain ⟨vs, hvs, heq⟩ := Option.map_eq_some_iff.1 h
    cases heq
    have hpdu : ∀ t ∈ us, t.Small := by
      unfold decodePdu at hus
      split at hus
      · split at hus
        · exact decodeTiles_small hus
        · cases hus
      · cases hus
    intro t ht
    rcases List.mem_append.1 ht with ht | ht
    · exact hpdu t ht
    · exact ih hvs t ht

/-- A painted pixel lies inside the coordinates of the wire. -/
theorem Paints.small {b : Picture} {x y : Int} {lo hi : Nat} {ts : List Tile}
    (h : Paints b x y lo hi ts) (hs : ∀ t ∈ ts, t.Small) {px py : Int}
    (hin : x ≤ px ∧ px < x + b.width ∧ y + lo ≤ py ∧ py < y + hi) :
    0 ≤ px ∧ px < 65536 ∧ 0 ≤ py ∧ py < 65536 := by
  have hp := h px py
  rw [if_pos hin] at hp
  cases hf : ts.filter (·.covers px py) with
  | nil =>
    rw [hf] at hp
    cases hp
  | cons t us =>
    have hmem : t ∈ ts.filter (·.covers px py) := by
      rw [hf]
      exact List.mem_cons_self
    obtain ⟨ht, hcov⟩ := List.mem_filter.1 hmem
    have hcov : t.covers px py := by simpa using hcov
    obtain ⟨h1, h2, h3, h4⟩ := hcov
    obtain ⟨hr, hb⟩ := hs t ht
    omega

/-- A padded line takes at most 16284 bytes, and the destination lies inside the coordinates of the
wire. -/
def Fits (b : Picture) (x y : Int) : Prop :=
  b.paddedWidth * b.bpp.bytes ≤ 16284 ∧ 0 ≤ x ∧ x + b.width ≤ 65536 ∧ 0 ≤ y ∧ y + b.height ≤ 65536

/-- Only what fits arrives, whatever its pixels are. -/
theorem fits_of_sendsRight {b : Picture} {x y : Int} (h : SendsRight b x y) : Fits b x y := by
  obtain ⟨-, hpaint⟩ := h
  -- the plain path
  obtain ⟨fuel, pdus, tiles, hok, htiles, hps⟩ := hpaint ⟨false, false, 0⟩
    (fun _ => ⟨65536, fun _ => 0⟩) fun _ => rfl
  have hwidth := b.width_pos
  have hheight := b.height_pos
  have hsmall := decodePdus_small htiles
  have hfirst := @Paints.small _ _ _ _ _ _ hps hsmall x y (by omega)
  have hlast := @Paints.small _ _ _ _ _ _ hps hsmall (x + b.width - 1) (y + b.height - 1) (by omega)
  refine ⟨?_, by omega, by omega, by omega, by omega⟩
  by_contra hbig
  have hpad : b.linePadBytes = b.paddedWidth * b.bpp.bytes := by
    rw [Picture.linePadBytes, Picture.paddedWidth, Nat.add_mul]
  have hfits : (MAX_BITMAP_BUF_SIZE - 100) / b.linePadBytes = 0 :=
    Nat.div_eq_of_lt (by rw [hpad]; exact Nat.lt_of_not_le hbig)
  have hnone : pdus = [] := by
    simp only [libxrdpSendBitmap, Bool.false_eq_true, if_false] at hok
    split at hok
    · cases fuel with
      | zero => cases hok
      | succ fuel =>
        rw [plainPdus, if_pos hheight, hfits] at hok
        simp only [Nat.add_zero, gt_iff_lt, Nat.not_lt_zero, if_false, if_true] at hok
        cases hok
        rfl
    · cases hok
      rfl
  subst hnone
  cases htiles
  have := hps x y
  rw [if_pos (by omega)] at this
  cases this

/-- **When a bitmap arrives**: the function ends and both paths paint the bitmap if it fits and
pixels of 15 bits leave the top bit clear; and what does not fit does not arrive. -/
theorem send_bitmap_iff (b : Picture) (x y : Int) :
    (b.TopClear → (SendsRight b x y ↔ Fits b x y)) ∧ (SendsRight b x y → Fits b x y) := by
  refine ⟨fun htop => ⟨fits_of_sendsRight, fun hfits => ?_⟩, fits_of_sendsRight⟩
  obtain ⟨hfit, h1, h2, h3, h4⟩ := hfits
  exact sendsRight_of_fits hfit ⟨h1, h2, h3, h4⟩ htop

/-- Three white pixels of 15 bits. -/
def whiteLine : Picture where
  width := 3
  height := 1
  bpp := .upTo24 .bpp15
  data := fun i => if i % 2 = 0 then 0xff else 0x7f
  width_pos := by decide
  height_pos := by decide

theorem send_bitmap_whiteLine : SendsRight whiteLine 10 20 := by
  have htop : whiteLine.TopClear := by
    intro _ row hrow k hk
    have hrow' : row = 0 := Nat.lt_one_iff.1 hrow
    have hk' : k < 3 := hk
    subst hrow'
    revert k
    decide
  have hfits : Fits whiteLine 10 20 := by
    unfold Fits
    decide
  exact ((send_bitmap_iff whiteLine 10 20).1 htop).2 hfits

/-! ## A bitmap that is sent for ever -/

/-- When the first block of a PDU takes no line, no PDU is the last. -/
theorem compressedPdus_stuck (ss : Session) (b : Picture) (x y cx : Int) {tempS : Nat → Buf UInt8}
    {i : Nat} {data : List UInt8} (hi : 0 < i)
    (hnone : b.compress (ss.initData + 4 + 0 + ss.channelHdr) (MAX_BITMAP_BUF_SIZE - 100 - (0 : Nat))
      ((i : Int) - 1) (tempS i) = .ok (0, data)) (fuel : Nat) :
    compressedPdus ss b x y cx tempS fuel i = .error .outOfFuel := by
  induction fuel with
  | zero => rfl
  | succ fuel ih =>
    have hround : compressedUpdates ss b x y cx tempS i 0 = .ok (0, i, []) := by
      rw [compressedUpdates, hnone]
      rfl
    rw [compressedPdus, if_pos hi, hround, Run.ok_bind]
    simp only [ih, Run.error_bind]

/-- A line of more than 16 KiB is never taken. -/
theorem compress_wide (inData : Nat → UInt8) {width : Nat} {d : Depth} {base e : Nat}
    {byteLimit startLine : Int} (hwide : BC_MAX_BYTES < (width + e) * d.bytes) :
    (xrdpBitmapCompress inData width d base byteLimit startLine e).1 = 0 := by
  simp only [xrdpBitmapCompress]
  cases (startLine + 1).toNat with
  | zero => rfl
  | succ todo => rw [imageLoop, if_pos hwide]

/-- One black line of 16388 pixels of one byte. -/
def longLine : Picture where
  width := 16388
  height := 1
  bpp := .upTo24 .bpp8
  data := fun _ => 0
  width_pos := by decide
  height_pos := by decide

/-- With compression `longLine` is sent for ever, an empty PDU after the other. -/
theorem longLine_never_sent :
    (∀ fuel, libxrdpSendBitmap ⟨true, true, 0⟩ longLine 0 0 16388 1
      (fun _ => ⟨65536, fun _ => 0⟩) fuel = .error .outOfFuel) ∧ ¬SendsRight longLine 0 0 := by
  have hstuck : ∀ fuel, libxrdpSendBitmap ⟨true, true, 0⟩ longLine 0 0 16388 1
      (fun _ => ⟨65536, fun _ => 0⟩) fuel = .error .outOfFuel := by
    intro fuel
    have hwide := @compress_wide longLine.data longLine.width .bpp8
      (Session.initData ⟨true, true, 0⟩ + 4 + 0 + Session.channelHdr ⟨true, true, 0⟩)
      (padding longLine.width) (MAX_BITMAP_BUF_SIZE - 100 - (0 : Nat)) (((1 : Nat) : Int) - 1)
      (by decide)
    exact compressedPdus_stuck ⟨true, true, 0⟩ longLine 0 0 16388 one_pos
      (congrArg Except.ok (Prod.ext hwide rfl)) fuel
  refine ⟨hstuck, fun h => ?_⟩
  obtain ⟨fuel, pdus, hok⟩ := h.1 ⟨true, true, 0⟩ (fun _ => ⟨65536, fun _ => 0⟩) 16388 1 fun _ => rfl
  rw [hstuck fuel] at hok
  cases hok

end Xrdp.Bitmap
