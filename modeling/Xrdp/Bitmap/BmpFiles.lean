import Xrdp.Bitmap.BmpReaders

/-!
# Bitmap files

* `pixelAt`, `IsBmp` — what a file says, and which files are well formed.
* `screenColour` — a colour as a screen of some depth has it.
* `LoadsRight` — what is promised of a file; `Loadable` — the kinds of files of which it is kept.
* `Image` — the bitmaps that files are loaded into, and what becomes of one that is resized.
-/

namespace Xrdp.Bitmap.Bmp

open Wire Loops

/-! ## The format -/

inductive BitCount where
  | four
  | eight
  | twentyFour
  deriving DecidableEq, Repr

def BitCount.bits : BitCount → Nat
  | four => 4
  | eight => 8
  | twentyFour => 24

structure Rgb where
  r : UInt8
  g : UInt8
  b : UInt8

def u32At (f : List UInt8) (p : Nat) : Nat := u32In (byteAt f) p

def u16At (f : List UInt8) (p : Nat) : Nat := u16In (byteAt f) p

/-- What kind of a file it is: its bits per pixel and its size, whether the header has a number of colours, and
whether the pixels are directly behind the palette. -/
structure Kind where
  bits : BitCount
  width : Nat
  height : Nat
  counted : Bool
  direct : Bool
  width_pos : 0 < width
  height_pos : 0 < height
  width_lt : width < 2 ^ 31
  height_lt : height < 2 ^ 31

/-- Rows are padded to whole words. -/
def stride (K : Kind) : Nat := 4 * ((K.width * K.bits.bits + 31) / 32)

/-- How many colours the palette has; where the header has no number, all that the bits can name. -/
def colours (K : Kind) (f : List UInt8) : Nat :=
  if u32At f 46 ≠ 0 then u32At f 46 else if K.bits = .twentyFour then 0 else 2 ^ K.bits.bits

/-- A colour of the palette, which is behind the header. -/
def paletteAt (f : List UInt8) (i : Nat) : Rgb :=
  let o := 14 + u32At f 14 + 4 * i
  ⟨byteAt f (o + 2), byteAt f (o + 1), byteAt f o⟩

/-- Where a row begins; the lowest is the first. -/
def rowAt (K : Kind) (f : List UInt8) (y : Nat) : Nat := u32At f 10 + (K.height - 1 - y) * stride K

/-- The number of a pixel's colour. -/
def indexAt (K : Kind) (f : List UInt8) (x y : Nat) : Nat :=
  if K.bits = .four then half (byteAt f (rowAt K f y + x / 2)) x else (byteAt f (rowAt K f y + x)).toNat

def pixelAt (K : Kind) (f : List UInt8) (x y : Nat) : Rgb :=
  if K.bits = .twentyFour then
    let o := rowAt K f y + 3 * x
    ⟨byteAt f (o + 2), byteAt f (o + 1), byteAt f o⟩
  else paletteAt f (indexAt K f x y)

/-- A well-formed uncompressed file of this kind. -/
structure IsBmp (K : Kind) (f : List UInt8) : Prop where
  magic : byteAt f 0 = 0x42 ∧ byteAt f 1 = 0x4D
  headerSize : u32At f 14 = 40 ∨ u32At f 14 = 108 ∨ u32At f 14 = 124
  width : u32At f 18 = K.width
  height : u32At f 22 = K.height
  planes : u16At f 26 = 1
  bitCount : u16At f 28 = K.bits.bits
  compression : u32At f 30 = 0
  counted : K.counted = true ↔ u32At f 46 ≠ 0
  colours_le : K.bits ≠ .twentyFour → colours K f ≤ 2 ^ K.bits.bits
  palette_le : 14 + u32At f 14 + 4 * colours K f ≤ u32At f 10
  direct : K.direct = true ↔ 14 + u32At f 14 + 4 * colours K f = u32At f 10
  reserved : ∀ i < colours K f, byteAt f (14 + u32At f 14 + 4 * i + 3) = 0
  pixels : u32At f 10 + K.height * stride K ≤ f.length
  index_lt : K.bits ≠ .twentyFour → ∀ x < K.width, ∀ y < K.height, indexAt K f x y < colours K f

/-! ## Bitmaps that files are loaded into -/

/-- `COLOR8`. -/
def color8 (r g b : Nat) : Nat := ((r >>> 5) <<< 0) ||| ((g >>> 5) <<< 3) ||| ((b >>> 6) <<< 6)

/-- A colour on a screen of this depth. -/
def screenColour (bpp : Int) (c : Rgb) : Nat :=
  let r := c.r.toNat
  let g := c.g.toNat
  let b := c.b.toNat
  if bpp = 8 then color8 r g b
  else if bpp = 15 then color15 r g b
  else if bpp = 16 then color16 r g b
  else r * 65536 + g * 256 + b

/-- A bitmap of a screen, with data of its own for all its pixels. -/
structure Image extends XrdpBitmap where
  wide : 0 ≤ width
  tall : 0 ≤ height
  depth : bpp ∈ depths
  own : doNotFreeData = false
  fits : width * height * bytesPerPixel bpp < 2 ^ 31
  hasData : ∃ d, data = some d ∧ d.size = (width * height).toNat

theorem bytesPerPixel_pos (bpp : Int) : 0 < bytesPerPixel bpp := by
  unfold bytesPerPixel
  split_ifs <;> decide

/-- A size of an allocation that fits gives a cell for every pixel. -/
theorem mallocPixels_fits (junk : Junk) {w h : Nat} {bpp : Int} (hfits : w * h * bytesPerPixel bpp < 2 ^ 31) :
    mallocPixels junk w h bpp = some ⟨w * h, junk.pixels⟩ := by
  have hsize : int ((w : Int) * h * bytesPerPixel bpp) = ((w * h * bytesPerPixel bpp : Nat) : Int) := by
    rw [← Nat.cast_mul, ← Nat.cast_mul, int_of_lt hfits]
  unfold mallocPixels
  dsimp only
  rw [hsize, if_pos (by omega), Int.toNat_natCast, Nat.mul_div_cancel _ (bytesPerPixel_pos bpp)]

theorem create_data (junk : Junk) (w h bpp : Int) :
    (xrdpBitmapCreate junk w h bpp).data = mallocPixels junk w h bpp := rfl

/-- As `xrdp_bitmap_create` makes it. -/
def Image.created (junk : Junk) (w h : Nat) (bpp : Int) (hdepth : bpp ∈ depths)
    (hfits : w * h * bytesPerPixel bpp < 2 ^ 31) : Image where
  toXrdpBitmap := xrdpBitmapCreate junk w h bpp
  wide := Int.natCast_nonneg w
  tall := Int.natCast_nonneg h
  depth := hdepth
  own := rfl
  fits := by
    show (w : Int) * h * bytesPerPixel bpp < 2 ^ 31
    rw [← Nat.cast_mul, ← Nat.cast_mul]
    exact_mod_cast hfits
  hasData := by
    rw [create_data, mallocPixels_fits junk hfits]
    refine ⟨_, rfl, ?_⟩
    show w * h = ((w : Int) * h).toNat
    rw [← Nat.cast_mul, Int.toNat_natCast]

/-- **What is promised**: the file is loaded, nothing is outside its buffers, and every pixel has its colour. -/
def LoadsRight (junk : Junk) (self : Image) (K : Kind) (f : List UInt8) : Prop :=
  ∃ b, xrdpBitmapLoad junk self.toXrdpBitmap (some f) = .ok (0, b) ∧ b.width = K.width ∧ b.height = K.height ∧
    ∀ x < K.width, ∀ y < K.height,
      xrdpBitmapGetPixel b x y = .ok (screenColour self.bpp (pixelAt K f x y))

/-- The condition: there is no number of colours with 24 bits, and there is one otherwise; the pixels are directly
behind the palette; no row that another one follows is padded, and none with 4 bits is of odd width; and the sizes fit
in an `int`. -/
structure Loadable (bpp : Int) (K : Kind) : Prop where
  counted : K.counted = true ↔ K.bits ≠ .twentyFour
  direct : K.direct = true
  rows : stride K * 8 = K.width * K.bits.bits ∨ K.height = 1
  even : K.bits = .four → K.width % 2 = 0
  pixels_lt : K.width * K.height * bytesPerPixel bpp < 2 ^ 31
  bytes_lt : K.bits = .twentyFour → K.width * K.height * 3 < 2 ^ 31

/-! ## Resizing -/

variable {junk : Junk} {self : Image} {K : Kind} {f : List UInt8}

/-- The bitmap into which it is drawn. -/
def resized (junk : Junk) (self : Image) (K : Kind) : XrdpBitmap :=
  (xrdpBitmapResize junk self.toXrdpBitmap K.width K.height).2

theorem resized_sized (junk : Junk) (self : Image) (K : Kind) :
    IsSized (resized junk self K) K.width K.height ∧ (resized junk self K).bpp = self.bpp := by
  unfold resized xrdpBitmapResize
  rw [self.own]
  split_ifs with hsame h
  · exact ⟨⟨hsame.1.symm, hsame.2.symm, self.depth⟩, rfl⟩
  · cases h
  · exact ⟨⟨rfl, rfl, self.depth⟩, rfl⟩

/-- Its data is that of the bitmap if it is of the same size, and new otherwise. -/
theorem resized_data (junk : Junk) (self : Image) (K : Kind) :
    (self.width = K.width ∧ self.height = K.height ∧ (resized junk self K).data = self.data) ∨
      (resized junk self K).data = mallocPixels junk K.width K.height self.bpp := by
  unfold resized xrdpBitmapResize
  rw [self.own]
  split_ifs with hsame h
  · exact .inl ⟨hsame.1.symm, hsame.2.symm, rfl⟩
  · cases h
  · right
    dsimp only

/-- It has a cell for every pixel if the size fits. -/
theorem resized_cells (junk : Junk) (self : Image)
    (hfits : K.width * K.height * bytesPerPixel self.bpp < 2 ^ 31) :
    ∃ d, (resized junk self K).data = some d ∧ d.size = K.height * K.width := by
  rcases resized_data junk self K with ⟨hwidth, hheight, hdata⟩ | hdata
  · obtain ⟨d, hd, hsize⟩ := self.hasData
    refine ⟨d, hdata.trans hd, ?_⟩
    rw [hsize, hwidth, hheight, ← Nat.cast_mul, Int.toNat_natCast, Nat.mul_comm]
  · rw [hdata, mallocPixels_fits junk hfits]
    exact ⟨_, rfl, Nat.mul_comm ..⟩

/-- And otherwise not. -/
theorem resized_short (junk : Junk) (self : Image) {d : Buf Nat} (hd : d ∈ (resized junk self K).data) :
    d.size < 2 ^ 31 ∧ (K.height * K.width ≤ d.size → K.width * K.height * bytesPerPixel self.bpp < 2 ^ 31) := by
  have hpos := bytesPerPixel_pos self.bpp
  by_cases hfits : K.width * K.height * bytesPerPixel self.bpp < 2 ^ 31
  · obtain ⟨d', hd', hsize⟩ := resized_cells junk self hfits
    cases hd'.symm.trans hd
    have hle : K.width * K.height ≤ K.width * K.height * bytesPerPixel self.bpp := Nat.le_mul_of_pos_right _ hpos
    rw [Nat.mul_comm] at hsize
    exact ⟨by omega, fun _ => hfits⟩
  · rcases resized_data junk self K with ⟨hwidth, hheight, -⟩ | hdata
    · refine absurd ?_ hfits
      have hself := self.fits
      rw [hwidth, hheight] at hself
      exact_mod_cast hself
    · have hlt : int (K.width * K.height * bytesPerPixel self.bpp) < 2 ^ 31 := by
        unfold int
        have hmod := @Int.bmod_lt ((K.width : Int) * K.height * bytesPerPixel self.bpp) (2 ^ 32) (by decide)
        omega
      rw [hdata] at hd
      unfold mallocPixels at hd
      dsimp only at hd
      split_ifs at hd with hsize
      · cases hd
        have hdiv : (int (K.width * K.height * bytesPerPixel self.bpp)).toNat / bytesPerPixel self.bpp ≤
          (int (K.width * K.height * bytesPerPixel self.bpp)).toNat := Nat.div_le_self ..
        dsimp only
        refine ⟨by omega, fun hle => ?_⟩
        have hle' := (Nat.le_div_iff_mul_le hpos).1 hle
        rw [Nat.mul_comm K.height] at hle'
        omega
      · cases hd

end Xrdp.Bitmap.Bmp
