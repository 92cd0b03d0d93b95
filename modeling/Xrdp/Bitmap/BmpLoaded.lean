import Xrdp.Bitmap.BmpFiles

/-!
# Loading a bitmap file

* `load_pixels` — a well-formed file gets to the rows.
* `loadPixels_eq`, `sizesFit_of_load` — what is drawn, and that the sizes then fit in an `int`.
* `stored_eq` — the colour that is drawn is that of the screen.
-/

namespace Xrdp.Bitmap.Bmp

open Wire Loops

variable {junk : Junk} {self : Image} {K : Kind} {f : List UInt8}

/-! ## Up to the rows -/

/-- The stream's first buffer, with the header. -/
def headerBuf (junk : Junk) (f : List UInt8) : Buf UInt8 :=
  filled (filled ⟨8192, junk.bytes 8192⟩ 0 4 fun i => byteAt f (2 + i)) 0 40 fun i => byteAt f (14 + i)

/-- And with the palette. -/
def paletteBuf (junk : Junk) (f : List UInt8) : Buf UInt8 :=
  filled (headerBuf junk f) 0 (4 * u32At f 46) fun i => byteAt f (14 + u32At f 14 + i)

def palette1 (junk : Junk) (f : List UInt8) : Buf Nat := paletteOf (paletteBuf junk f).cells (u32At f 46)

/-- Where the rows are read from. -/
def dataStart (K : Kind) (f : List UInt8) : Nat :=
  14 + u32At f 14 + if K.bits = .twentyFour then 0 else 4 * u32At f 46

/-- The stream, the size of a row and of all of them, and the reader, for each number of bits. -/
def streamOf (junk : Junk) (K : Kind) (f : List UInt8) : Stream :=
  if K.bits = .twentyFour then ⟨headerBuf junk f, 40⟩ else ⟨paletteBuf junk f, 0⟩

def rowSize (K : Kind) : Int :=
  match K.bits with
  | .four => (K.width : Int).tdiv 2
  | .eight => K.width
  | .twentyFour => int (K.width * 3)

def totalSize (K : Kind) : Int :=
  match K.bits with
  | .four => (int (K.width * K.height)).tdiv 2
  | .eight => int (K.width * K.height)
  | .twentyFour => int (K.width * K.height * 3)

def fetchOf (K : Kind) (palette1 : Buf Nat) : Fetch :=
  match K.bits with
  | .four => fetch4 palette1
  | .eight => fetch8 palette1
  | .twentyFour => fetch24

theorem u32In_congr {bytes bytes' : Nat → UInt8} {p q : Nat} (h : ∀ i < 4, bytes (p + i) = bytes' (q + i)) :
    u32In bytes p = u32In bytes' q := by
  unfold u32In
  rw [← Nat.add_zero p, ← Nat.add_zero q, h 0 (by decide), Nat.add_zero, Nat.add_zero, h 1 (by decide),
    h 2 (by decide), h 3 (by decide)]

theorem headerBuf_cells (junk : Junk) (f : List UInt8) {p : Nat} (hp : p < 40) :
    (headerBuf junk f).cells p = byteAt f (14 + p) := by
  unfold headerBuf
  rw [filled_cells (by omega), Nat.sub_zero]

theorem headerBuf_size (junk : Junk) (f : List UInt8) : (headerBuf junk f).size = 8192 := rfl

/-- A buffer of the first size stays. -/
theorem initStream_same (junk : Junk) {data : Buf UInt8} (hdata : data.size = 8192) (p : Nat) :
    initStream junk 8192 ⟨data, p⟩ = ⟨data, 0⟩ := by
  unfold initStream
  rw [hdata, if_neg (by omega)]

theorem headerBuf_u32 (junk : Junk) (f : List UInt8) {p : Nat} (hp : p + 4 ≤ 40) :
    u32In (headerBuf junk f).cells p = u32At f (14 + p) :=
  u32In_congr fun i hi => by rw [headerBuf_cells junk f (by omega), Nat.add_assoc]

theorem headerBuf_u16 (junk : Junk) (f : List UInt8) : u16In (headerBuf junk f).cells 14 = u16At f 28 := by
  unfold u16At u16In
  rw [headerBuf_cells junk f (p := 14) (by decide), headerBuf_cells junk f (p := 14 + 1) (by decide)]

/-- What the reader has of the header. -/
theorem header_eq (junk : Junk) (h : IsBmp K f) :
    let header := headerIn (headerBuf junk f).cells
    header.size = u32At f 14 ∧ header.imageWidth = K.width ∧ header.imageHeight = K.height ∧
      header.bitCount = K.bits.bits ∧ header.clrUsed = int (u32At f 46) := by
  have h32 : ∀ p v : Nat, p + 4 ≤ 40 → u32At f (14 + p) = v → v < 2 ^ 31 →
      int (u32In (headerBuf junk f).cells p) = v := fun p v hp hv hlt => by
    rw [headerBuf_u32 junk f hp, hv, int_of_lt hlt]
  have hsize : u32At f 14 < 2 ^ 31 := by rcases h.headerSize with hsize | hsize | hsize <;> omega
  dsimp only [headerIn]
  refine ⟨?_, ?_, ?_, ?_, ?_⟩
  · exact h32 0 _ (by omega) rfl hsize
  · exact h32 4 _ (by omega) h.width K.width_lt
  · exact h32 8 _ (by omega) h.height K.height_lt
  · rw [headerBuf_u16, h.bitCount]
    cases K.bits <;> decide
  · rw [headerBuf_u32 junk f (by omega)]

theorem offset_le (h : IsBmp K f) : 54 + 4 * colours K f ≤ u32At f 10 ∧ u32At f 10 ≤ f.length ∧
    14 + u32At f 14 < 2 ^ 31 := by
  have hpalette := h.palette_le
  have hpixels := h.pixels
  rcases h.headerSize with hsize | hsize | hsize <;> omega

theorem clrUsed_le (h : IsBmp K f) (hbits : K.bits ≠ .twentyFour) :
    u32At f 46 ≤ 256 ∧ 4 * u32At f 46 ≤ 4 * colours K f := by
  have hcolours := h.colours_le hbits
  have hle : u32At f 46 ≤ colours K f := by
    unfold colours
    split_ifs <;> omega
  have hbits' : 2 ^ K.bits.bits ≤ 256 := by
    cases hb : K.bits with
    | twentyFour => exact absurd hb hbits
    | _ => decide
  omega

/-- The palette is read. -/
theorem loadPalette_ok (junk : Junk) (h : IsBmp K f) (hbits : K.bits ≠ .twentyFour) :
    loadPalette junk (headerIn (headerBuf junk f).cells) ⟨f, 54⟩ ⟨headerBuf junk f, 40⟩ =
      .ok (palette1 junk f, ⟨f, dataStart K f⟩, ⟨paletteBuf junk f, 0⟩) := by
  obtain ⟨hsize, -, -, -, hclr⟩ := header_eq junk h
  obtain ⟨hoff, hlength, hint⟩ := offset_le h
  obtain ⟨hle, hle'⟩ := clrUsed_le h hbits
  have hpalette := h.palette_le
  have hseek : int (14 + ((u32At f 14 : Nat) : Int)) = ((14 + u32At f 14 : Nat) : Int) := by
    have hcast : (14 + ((u32At f 14 : Nat) : Int)) = ((14 + u32At f 14 : Nat) : Int) := by push_cast; rfl
    rw [hcast, int_of_lt hint]
  have hlen : int (((u32At f 46 : Nat) : Int) * 4) = ((4 * u32At f 46 : Nat) : Int) := by
    have hcast : (((u32At f 46 : Nat) : Int) * 4) = ((4 * u32At f 46 : Nat) : Int) := by push_cast; ring
    rw [hcast, int_of_lt (by omega)]
  have hread := @gFileRead_ok ⟨f, 14 + u32At f 14⟩ (headerBuf junk f) 0 (4 * u32At f 46) (by dsimp only; omega)
    (show 0 + 4 * u32At f 46 ≤ 8192 by omega)
  have hstart : dataStart K f = 14 + u32At f 14 + 4 * u32At f 46 := by
    unfold dataStart
    rw [if_neg hbits]
  unfold loadPalette
  rw [hsize, hclr, int_of_lt (by omega), hseek, hlen, hstart]
  dsimp only
  have hfd : gFileSeek ⟨f, 54⟩ ((14 + u32At f 14 : Nat) : Int) = ⟨f, 14 + u32At f 14⟩ := by
    unfold gFileSeek
    rw [if_neg (by omega), Int.toNat_natCast]
  rw [hfd, initStream_same junk (headerBuf_size junk f)]
  have hread' : gFileRead ⟨f, 14 + u32At f 14⟩ (headerBuf junk f) 0 ((4 * u32At f 46 : Nat) : Int) = _ := hread
  dsimp only
  rw [hread', Run.ok_bind]
  dsimp only
  have hcolours := @readPalette_ok (paletteBuf junk f) (u32At f 46) hle (show 4 * u32At f 46 ≤ 8192 by omega)
  have hpal : readPalette ((u32At f 46 : Nat) : Int) ⟨filled (headerBuf junk f) 0 (4 * u32At f 46)
    (fun i => byteAt f (14 + u32At f 14 + i)), 0⟩ = .ok (palette1 junk f) := hcolours
  rw [hpal]
  rfl

/-- **A well-formed file gets to the rows.** -/
theorem load_pixels (junk : Junk) (self : Image) (h : IsBmp K f) :
    xrdpBitmapLoad junk self.toXrdpBitmap (some f) = do
      let b ← loadPixels junk (fetchOf K (palette1 junk f)) K.height (rowSize K) (totalSize K) ⟨f, dataStart K f⟩
        (streamOf junk K f) (resized junk self K)
      return (0, b) := by
  obtain ⟨hsize, hwidth, hheight, hcount, hclr⟩ := header_eq junk h
  obtain ⟨hoff, hlength, hint⟩ := offset_le h
  have htype : gFileRead ⟨f, 0⟩ (Buf.alloc 4) 0 2 = .ok (2, ⟨f, 0 + 2⟩, filled (Buf.alloc 4) 0 2 fun i => byteAt f (0 + i)) :=
    gFileRead_ok ⟨f, 0⟩ 0 2 (by dsimp only; omega) (by decide)
  have hfile : gFileRead ⟨f, 0 + 2⟩ ⟨8192, junk.bytes 8192⟩ 0 4 =
      .ok (4, ⟨f, 0 + 2 + 4⟩, filled ⟨8192, junk.bytes 8192⟩ 0 4 fun i => byteAt f (2 + i)) :=
    gFileRead_ok ⟨f, 2⟩ 0 4 (by dsimp only; omega) (by dsimp only; omega)
  have hheader : gFileRead (gFileSeek ⟨f, 0 + 2 + 4⟩ 14) (filled ⟨8192, junk.bytes 8192⟩ 0 4 fun i => byteAt f (2 + i)) 0 40 =
      .ok (40, ⟨f, 54⟩, headerBuf junk f) :=
    gFileRead_ok ⟨f, 14⟩ 0 40 (by dsimp only; omega)
      (show 0 + 40 ≤ 8192 by omega)
  have hfields := @readHeader_ok (headerBuf junk f) (show 40 ≤ 8192 by omega)
  have hmagic : ¬ ((2 : Int) ≠ 2 ∨ (filled (Buf.alloc 4) 0 2 fun i => byteAt f (0 + i)).cells 0 ≠ 0x42 ∨
      (filled (Buf.alloc 4) 0 2 fun i => byteAt f (0 + i)).cells 1 ≠ 0x4D) := by
    rw [filled_cells (by omega), filled_cells (by omega)]
    have hmagic := h.magic
    simp [hmagic.1, hmagic.2]
  unfold xrdpBitmapLoad
  dsimp only
  rw [htype, Run.ok_bind]
  dsimp only
  rw [if_neg hmagic, hfile, Run.ok_bind]
  dsimp only
  rw [initStream_same junk rfl, hheader, Run.ok_bind]
  dsimp only
  rw [hfields, Run.ok_bind]
  dsimp only
  rw [hcount]
  cases hbits : K.bits with
  | twentyFour =>
    have hseek : gFileSeek ⟨f, 54⟩ (int (14 + ((u32At f 14 : Nat) : Int))) = ⟨f, dataStart K f⟩ := by
      have hcast : (14 + ((u32At f 14 : Nat) : Int)) = ((14 + u32At f 14 : Nat) : Int) := by push_cast; rfl
      rw [hcast, int_of_lt hint, gFileSeek, if_neg (by omega), Int.toNat_natCast, dataStart, if_pos hbits, Nat.add_zero]
    rw [if_pos (by decide)]
    unfold load24
    rw [hsize, hwidth, hheight, hseek]
    simp only [fetchOf, rowSize, totalSize, streamOf, hbits, if_true]
    rfl
  | eight =>
    have hne : K.bits ≠ .twentyFour := by rw [hbits]; decide
    rw [if_neg (by decide), if_pos (by decide)]
    unfold load8
    rw [loadPalette_ok junk h hne, hwidth, hheight]
    simp only [fetchOf, rowSize, totalSize, streamOf, hbits]
    rfl
  | four =>
    have hne : K.bits ≠ .twentyFour := by rw [hbits]; decide
    rw [if_neg (by decide), if_neg (by decide), if_pos (by decide)]
    unfold load4
    rw [loadPalette_ok junk h hne, hwidth, hheight]
    simp only [fetchOf, rowSize, totalSize, streamOf, hbits]
    rfl

/-! ## What is drawn -/

def rowBytes (K : Kind) : Nat :=
  match K.bits with
  | .four => K.width / 2
  | .eight => K.width
  | .twentyFour => K.width * 3

def totalBytes (K : Kind) : Nat :=
  match K.bits with
  | .four => K.width * K.height / 2
  | .eight => K.width * K.height
  | .twentyFour => K.width * K.height * 3

/-- How far the reader gets in the stream, and the colours that it gets. -/
def posOf (K : Kind) (n : Nat) : Nat :=
  match K.bits with
  | .four => pos4 K.width n
  | .eight => n
  | .twentyFour => 3 * n

def colorOf (K : Kind) (palette1 : Buf Nat) (data : Buf UInt8) (n : Nat) : Nat :=
  match K.bits with
  | .four => palette1.cells (half (data.cells (n / K.width * ((K.width + 1) / 2) + n % K.width / 2)) (n % K.width))
  | .eight => palette1.cells (data.cells n).toNat
  | .twentyFour => (data.cells (3 * n)).toNat ||| (data.cells (3 * n + 1)).toNat <<< 8 |||
      (data.cells (3 * n + 2)).toNat <<< 16

theorem fetchesOf (K : Kind) (pal : Buf Nat) (hpal : pal.size = 256) (data : Buf UInt8) :
    Fetches (fetchOf K pal) data K.width K.height (posOf K) (colorOf K pal data) := by
  unfold fetchOf posOf colorOf
  cases K.bits with
  | four => exact fetches4 hpal data K.width K.height
  | eight => exact fetches8 hpal data K.width K.height
  | twentyFour => exact fetches24 data K.width K.height

/-- The sizes fit in an `int`. -/
def SizesFit (bpp : Int) (K : Kind) : Prop :=
  K.width * K.height * bytesPerPixel bpp < 2 ^ 31 ∧ (K.bits = .twentyFour → K.width * K.height * 3 < 2 ^ 31)

theorem count_lt {bpp : Int} (h : SizesFit bpp K) : K.width * K.height < 2 ^ 31 :=
  (Nat.le_mul_of_pos_right _ (bytesPerPixel_pos bpp)).trans_lt h.1

theorem sizes_eq {bpp : Int} (h : SizesFit bpp K) : rowSize K = rowBytes K ∧ totalSize K = totalBytes K := by
  have hcount := count_lt h
  have hprod : int ((K.width : Int) * K.height) = ((K.width * K.height : Nat) : Int) := by
    rw [← Nat.cast_mul, int_of_lt hcount]
  unfold rowSize totalSize rowBytes totalBytes
  cases hbits : K.bits with
  | four =>
    dsimp only
    rw [hprod]
    exact ⟨rfl, rfl⟩
  | eight => exact ⟨rfl, hprod⟩
  | twentyFour =>
    have hthree := h.2 hbits
    have hrow : K.width * 3 ≤ K.width * K.height * 3 :=
      Nat.mul_le_mul_right _ (Nat.le_mul_of_pos_right _ K.height_pos)
    have hrow' : ((K.width : Int) * 3) = ((K.width * 3 : Nat) : Int) := by push_cast; rfl
    have htotal : ((K.width : Int) * K.height * 3) = ((K.width * K.height * 3 : Nat) : Int) := by push_cast; rfl
    dsimp only
    rw [hrow', htotal, int_of_lt (by omega), int_of_lt hthree]
    exact ⟨rfl, rfl⟩

theorem rows_le (K : Kind) : K.height * rowBytes K ≤ totalBytes K := by
  unfold rowBytes totalBytes
  cases K.bits with
  | four =>
    dsimp only
    rw [Nat.le_div_iff_mul_le (by decide), Nat.mul_assoc, Nat.mul_comm K.width]
    exact Nat.mul_le_mul_left _ (Nat.div_mul_le_self ..)
  | eight => exact (Nat.mul_comm ..).le
  | twentyFour =>
    dsimp only
    rw [← Nat.mul_assoc, Nat.mul_comm K.height]

theorem rowBytes_le (K : Kind) : rowBytes K ≤ stride K ∧
    (rowBytes K = stride K ↔ stride K * 8 = K.width * K.bits.bits) := by
  unfold rowBytes stride
  cases K.bits <;> dsimp only [BitCount.bits] <;> omega

/-- The file has all that is read. -/
theorem dataStart_le (h : IsBmp K f) : dataStart K f + K.height * rowBytes K ≤ f.length ∧
    dataStart K f ≤ u32At f 10 := by
  have hpalette := h.palette_le
  have hpixels := h.pixels
  have hrows : K.height * rowBytes K ≤ K.height * stride K := Nat.mul_le_mul_left _ (rowBytes_le K).1
  have hstart : dataStart K f ≤ 14 + u32At f 14 + 4 * colours K f := by
    unfold dataStart
    split_ifs with hbits
    · omega
    · have hle := (clrUsed_le h hbits).2
      omega
  omega

/-- The stream, with the rows in it. -/
def rowsBuf (junk : Junk) (K : Kind) (f : List UInt8) : Buf UInt8 :=
  rowsIn f (dataStart K f) K.height (rowBytes K) (initStream junk (totalBytes K) (streamOf junk K f)).data

theorem streamOf_size (junk : Junk) (K : Kind) (f : List UInt8) : (streamOf junk K f).data.size = 8192 := by
  unfold streamOf
  split_ifs <;> rfl

theorem initStream_spec (junk : Junk) (v : Int) (s : Stream) : (initStream junk v s).p = 0 ∧
    (initStream junk v s).data.size = max v.toNat s.data.size := by
  unfold initStream
  split_ifs with hv
  · exact ⟨rfl, show v.toNat = _ by omega⟩
  · exact ⟨rfl, show s.data.size = _ by omega⟩

theorem rowsBuf_size (junk : Junk) (K : Kind) (f : List UInt8) : (rowsBuf junk K f).size = max (totalBytes K) 8192 := by
  have hsize := (initStream_spec junk (totalBytes K) (streamOf junk K f)).2
  rw [streamOf_size, Int.toNat_natCast] at hsize
  exact hsize

/-- **If the sizes fit, the rows are read.** -/
theorem loadPixels_eq (junk : Junk) {bpp : Int} (h : IsBmp K f) (hfit : SizesFit bpp K) (fetch : Fetch) (b : XrdpBitmap) :
    loadPixels junk fetch K.height (rowSize K) (totalSize K) ⟨f, dataStart K f⟩ (streamOf junk K f) b =
      drawPixels fetch ⟨rowsBuf junk K f, 0⟩ b := by
  obtain ⟨hrow, htotal⟩ := sizes_eq hfit
  have hspec := initStream_spec junk (totalBytes K) (streamOf junk K f)
  have hlt : totalBytes K < 2 ^ 31 := by
    have hcount := count_lt hfit
    unfold totalBytes
    cases hbits : K.bits with
    | four => exact (Nat.div_le_self ..).trans_lt hcount
    | eight => exact hcount
    | twentyFour => exact hfit.2 hbits
  have hread := @readRows_ok K.height (rowBytes K) ⟨f, dataStart K f⟩
    (initStream junk (totalBytes K) (streamOf junk K f)) (dataStart_le h).1
    (by
      rw [hspec.2, Int.toNat_natCast]
      exact (rows_le K).trans (Nat.le_max_left ..))
    ((rows_le K).trans_lt hlt)
  unfold loadPixels
  rw [hrow, htotal, hread, Run.ok_bind, hspec.1]
  rfl

/-- If it is loaded into a bitmap that has data, the sizes fit. -/
theorem sizesFit_of_load (junk : Junk) {b : XrdpBitmap}
    (hload : loadPixels junk (fetchOf K (palette1 junk f)) K.height (rowSize K) (totalSize K) ⟨f, dataStart K f⟩
      (streamOf junk K f) (resized junk self K) = .ok b) (hdata : b.data ≠ none) : SizesFit self.bpp K := by
  obtain ⟨s, hrows, hdraw⟩ := Run.bind_eq_ok.1 hload
  obtain ⟨hsize, hp⟩ := readRows_size hrows
  have hspec := initStream_spec junk (totalSize K) (streamOf junk K f)
  obtain ⟨data, p⟩ := s
  have hp : p = 0 := hp.trans hspec.1
  subst hp
  have hsize : data.size = max (totalSize K).toNat 8192 := by
    rw [← streamOf_size junk K f, ← hspec.2]
    exact hsize
  have hend := drawPixels_eq_ok (fetchesOf K (palette1 junk f) rfl data) (resized_sized junk self K).1
    (fun d hd => (resized_short junk self hd).1) hdraw
  obtain ⟨rfl, hpos, hcells⟩ := hend
  constructor
  · cases hd : (resized junk self K).data with
    | none =>
      refine absurd ?_ hdata
      unfold drawn
      rw [hd]
      rfl
    | some d =>
      refine (resized_short junk self hd).2 ?_
      have hpixels : 0 < K.height * K.width := Nat.mul_pos K.height_pos K.width_pos
      have hlast := hcells (K.height * K.width - 1) (by omega) d hd
      omega
  · intro hbits
    have htotal : totalSize K < 2 ^ 31 := by
      unfold totalSize
      rw [hbits]
      dsimp only
      unfold int
      have hmod := @Int.bmod_lt ((K.width : Int) * K.height * 3) (2 ^ 32) (by decide)
      omega
    unfold posOf at hpos
    rw [hbits] at hpos
    dsimp only at hpos
    rw [Nat.mul_comm K.height] at hpos
    omega

/-! ## Colours -/

theorem channels (b g r t : Nat) (hb : b < 256) (hg : g < 256) (hr : r < 256) :
    blue (b + 256 * (g + 256 * (r + 256 * t))) = b ∧ green (b + 256 * (g + 256 * (r + 256 * t))) = g ∧
      red (b + 256 * (g + 256 * (r + 256 * t))) = r := by
  have hmask : ∀ c k : Nat, (c &&& (0xff <<< k)) >>> k = c / 2 ^ k % 256 := fun c k => by
    rw [Nat.shiftRight_and_distrib, Nat.shiftLeft_shiftRight, Nat.and_two_pow_sub_one_eq_mod _ 8,
      Nat.shiftRight_eq_div_pow]
  refine ⟨?_, ?_, ?_⟩
  · refine (hmask _ 0).trans ?_
    omega
  · refine (hmask _ 8).trans ?_
    omega
  · refine (hmask _ 16).trans ?_
    omega

theorem color8_lt {r g b : Nat} (hr : r < 256) (hg : g < 256) (hb : b < 256) : color8 r g b < 2 ^ 8 := by
  unfold color8
  refine Nat.or_lt_two_pow (Nat.or_lt_two_pow ?_ ?_) ?_ <;> rw [Nat.shiftLeft_eq, Nat.shiftRight_eq_div_pow] <;> omega

theorem color15_lt {r g b : Nat} (hr : r < 256) (hg : g < 256) (hb : b < 256) : color15 r g b < 2 ^ 16 := by
  unfold color15
  refine Nat.or_lt_two_pow (Nat.or_lt_two_pow ?_ ?_) ?_ <;> simp only [Nat.shiftLeft_eq, Nat.shiftRight_eq_div_pow] <;>
    omega

theorem color16_lt {r g b : Nat} (hr : r < 256) (hg : g < 256) (hb : b < 256) : color16 r g b < 2 ^ 16 := by
  unfold color16
  refine Nat.or_lt_two_pow (Nat.or_lt_two_pow ?_ ?_) ?_ <;> simp only [Nat.shiftLeft_eq, Nat.shiftRight_eq_div_pow] <;>
    omega

theorem index_eq_color8 (color : Nat) : xrdpBitmapGetIndex color = color8 (red color) (green color) (blue color) := by
  unfold xrdpBitmapGetIndex color8
  rw [Nat.or_comm, Nat.or_comm (_ <<< 6), Nat.or_assoc]

/-- **A colour is converted into that of the screen.** -/
theorem stored_eq {bpp : Int} (hdepth : bpp ∈ depths) (c : Rgb) :
    stored bpp (c.b.toNat + 256 * (c.g.toNat + 256 * (c.r.toNat + 256 * 0))) = screenColour bpp c := by
  have hr := c.r.toNat_lt
  have hg := c.g.toNat_lt
  have hb := c.b.toNat_lt
  obtain ⟨hblue, hgreen, hred⟩ := channels c.b.toNat c.g.toNat c.r.toNat 0 hb hg hr
  have htrue : (c.b.toNat + 256 * (c.g.toNat + 256 * (c.r.toNat + 256 * 0))) % 2 ^ 32 =
      c.r.toNat * 65536 + c.g.toNat * 256 + c.b.toNat := by omega
  simp only [depths, List.mem_cons, List.not_mem_nil, or_false] at hdepth
  unfold stored convert screenColour pixelBits
  rw [index_eq_color8, hblue, hgreen, hred]
  rcases hdepth with rfl | rfl | rfl | rfl | rfl
  · exact Nat.mod_eq_of_lt (color8_lt hr hg hb)
  · exact Nat.mod_eq_of_lt (color15_lt hr hg hb)
  · exact Nat.mod_eq_of_lt (color16_lt hr hg hb)
  · exact htrue
  · exact htrue

def white : Rgb := ⟨0xFF, 0xFF, 0xFF⟩

/-- What is stored as white has a blue part. -/
theorem blue_of_white {bpp : Int} (hdepth : bpp ∈ depths) {color : Nat}
    (hwhite : stored bpp color = screenColour bpp white) : color % 256 ≠ 0 := by
  intro h0
  have hblue : blue color = 0 := by
    rw [← h0]
    exact Nat.and_two_pow_sub_one_eq_mod color 8
  have hlt : ∀ c k : Nat, (c &&& (0xff <<< k)) >>> k < 256 := fun c k => by
    rw [Nat.shiftRight_and_distrib, Nat.shiftLeft_shiftRight, Nat.and_two_pow_sub_one_eq_mod _ 8]
    exact Nat.mod_lt _ (by decide)
  have hred : red color < 256 := hlt color 16
  have hgreen : green color < 256 := hlt color 8
  simp only [depths, List.mem_cons, List.not_mem_nil, or_false] at hdepth
  unfold stored convert pixelBits at hwhite
  rw [index_eq_color8, hblue] at hwhite
  rcases hdepth with rfl | rfl | rfl | rfl | rfl
  · have hlow : color8 (red color) (green color) 0 < 2 ^ 6 := by
      unfold color8
      refine Nat.or_lt_two_pow (Nat.or_lt_two_pow ?_ ?_) ?_ <;>
        simp only [Nat.shiftLeft_eq, Nat.shiftRight_eq_div_pow] <;> omega
    have hwhite : color8 (red color) (green color) 0 % 2 ^ 8 = 255 := hwhite
    omega
  · have hwhite : color15 (red color) (green color) 0 % 2 ^ 16 = 32767 := hwhite
    have hbit := congrArg (Nat.testBit · 0) hwhite
    simp [color15] at hbit
  · have hwhite : color16 (red color) (green color) 0 % 2 ^ 16 = 65535 := hwhite
    have hbit := congrArg (Nat.testBit · 0) hwhite
    simp [color16] at hbit
  · have hwhite : color % 2 ^ 32 = 16777215 := hwhite
    omega
  · have hwhite : color % 2 ^ 32 = 16777215 := hwhite
    omega

end Xrdp.Bitmap.Bmp
