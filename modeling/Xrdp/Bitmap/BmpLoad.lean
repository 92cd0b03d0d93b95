import Xrdp.Lib.Wire
import Xrdp.Memory

/-!
# `xrdp_bitmap_load`

The colours of `xrdp_bitmap.c` and `common/defines.h`, a bitmap, the stream and the file that `xrdp_bitmap_load`
reads, and the function with its three readers.
-/

namespace Xrdp.Bitmap.Bmp

open Wire

/-- The value of an `int` expression. -/
def int (v : Int) : Int := v.bmod (2 ^ 32)

/-! ## Colours -/

/-- `COLOR15`. -/
def color15 (r g b : Nat) : Nat := ((r >>> 3) <<< 10) ||| ((g >>> 3) <<< 5) ||| (b >>> 3)

/-- `COLOR16`. -/
def color16 (r g b : Nat) : Nat := ((r >>> 3) <<< 11) ||| ((g >>> 2) <<< 5) ||| (b >>> 3)

def red (color : Nat) : Nat := (color &&& 0xff0000) >>> 16

def green (color : Nat) : Nat := (color &&& 0x00ff00) >>> 8

def blue (color : Nat) : Nat := (color &&& 0x0000ff) >>> 0

/-- The palette it is given is not looked at. -/
def xrdpBitmapGetIndex (color : Nat) : Nat :=
  ((blue color >>> 6) <<< 6) ||| ((green color >>> 5) <<< 3) ||| ((red color >>> 5) <<< 0)

/-- What each reader does with a colour. -/
def convert (bpp : Int) (color : Nat) : Nat :=
  if bpp = 8 then xrdpBitmapGetIndex color
  else if bpp = 15 then color15 (red color) (green color) (blue color)
  else if bpp = 16 then color16 (red color) (green color) (blue color)
  else color

/-! ## Bitmaps -/

/-- What is in memory that `g_malloc` has given: for each size, and for pixels. -/
structure Junk where
  bytes : Nat → Nat → UInt8
  pixels : Nat → Nat

/-- A cell of `data` is a pixel. -/
structure XrdpBitmap where
  width : Int
  height : Int
  bpp : Int
  data : Option (Buf Nat)
  doNotFreeData : Bool

/-- `Bpp`. -/
def bytesPerPixel (bpp : Int) : Nat :=
  if bpp = 8 then 1 else if bpp = 15 then 2 else if bpp = 16 then 2 else 4

/-- `g_malloc(width * height * Bpp, 0)`, which gives nothing for a negative size. -/
def mallocPixels (junk : Junk) (width height bpp : Int) : Option (Buf Nat) :=
  let size := int (width * height * bytesPerPixel bpp)
  if 0 ≤ size then some ⟨size.toNat / bytesPerPixel bpp, junk.pixels⟩ else none

/-- A bitmap of a type that has data. -/
def xrdpBitmapCreate (junk : Junk) (width height bpp : Int) : XrdpBitmap :=
  ⟨width, height, bpp, mallocPixels junk width height bpp, false⟩

def xrdpBitmapResize (junk : Junk) (self : XrdpBitmap) (width height : Int) : Int × XrdpBitmap :=
  if width = self.width ∧ height = self.height then (0, self)
  else if self.doNotFreeData then (1, self)
  else (0, { self with width := width, height := height, data := mallocPixels junk width height self.bpp })

/-- How many bits of a pixel are kept. -/
def pixelBits (bpp : Int) : Nat := if bpp = 8 then 8 else if bpp = 15 ∨ bpp = 16 then 16 else 32

/-- `SETPIXEL8`, `SETPIXEL16` and `SETPIXEL32`. -/
def setPixel (d : Buf Nat) (x y w : Int) (bits pixel : Nat) : Run (Buf Nat) :=
  let index := int (int (y * w) + x)
  if index < 0 then .error .outOfBounds else d.write index.toNat (pixel % 2 ^ bits)

def xrdpBitmapSetPixel (self : XrdpBitmap) (x y : Int) (pixel : Nat) : Run XrdpBitmap :=
  match self.data with
  | none => .ok self
  | some d =>
    if 0 ≤ x ∧ x < self.width ∧ 0 ≤ y ∧ y < self.height ∧ (self.bpp = 8 ∨ self.bpp = 15 ∨ self.bpp = 16 ∨ 24 ≤ self.bpp)
    then do
      let d ← setPixel d x y self.width (pixelBits self.bpp) pixel
      return { self with data := some d }
    else .ok self

def xrdpBitmapGetPixel (self : XrdpBitmap) (x y : Int) : Run Nat :=
  match self.data with
  | none => .ok 0
  | some d =>
    if 0 ≤ x ∧ x < self.width ∧ 0 ≤ y ∧ y < self.height ∧ (self.bpp = 8 ∨ self.bpp = 15 ∨ self.bpp = 16 ∨ 24 ≤ self.bpp)
    then
      let index := int (int (y * self.width) + x)
      if index < 0 then .error .outOfBounds else d.read index.toNat
    else .ok 0

/-! ## The file and the stream -/

structure File where
  content : List UInt8
  pos : Nat

/-- `g_file_read(fd, data + off, len)`: what is left of the file, or `len` bytes of it. -/
def gFileRead (fd : File) (data : Buf UInt8) (off len : Int) : Run (Int × File × Buf UInt8) :=
  let got := (fd.content.drop fd.pos).take len.toNat
  if len < 0 then .ok (-1, fd, data)
  else if got = [] then .ok (0, fd, data)
  else if off < 0 then .error .outOfBounds
  else do
    let data ← data.memcpy off.toNat got
    return (got.length, { fd with pos := fd.pos + got.length }, data)

def gFileSeek (fd : File) (offset : Int) : File :=
  if offset < 0 then fd else { fd with pos := offset.toNat }

structure Stream where
  data : Buf UInt8
  p : Nat

/-- The buffer stays, with what is in it, if it is large enough. -/
def initStream (junk : Junk) (v : Int) (s : Stream) : Stream :=
  if v > s.data.size then ⟨⟨v.toNat, junk.bytes v.toNat⟩, 0⟩ else { s with p := 0 }

def inUint8 (s : Stream) : Run (UInt8 × Stream) := do
  let v ← s.data.read s.p
  return (v, { s with p := s.p + 1 })

def inLe (n : Nat) (s : Stream) : Run (Nat × Stream) := do
  let bytes ← (List.range n).mapM fun i => s.data.read (s.p + i)
  return (leVal bytes, { s with p := s.p + n })

def inUint16Le : Stream → Run (Nat × Stream) := inLe 2

def inUint32Le : Stream → Run (Nat × Stream) := inLe 4

/-! ## Headers and palettes -/

structure XrdpBmpHeader where
  size : Int
  imageWidth : Int
  imageHeight : Int
  planes : Int
  bitCount : Int
  compression : Int
  imageSize : Int
  xPelsPerMeter : Int
  yPelsPerMeter : Int
  clrUsed : Int
  clrImportant : Int

/-- The fields that are `int` and the two that are `short`. -/
def readHeader (s : Stream) : Run (XrdpBmpHeader × Stream) := do
  let (size, s) ← inUint32Le s
  let (imageWidth, s) ← inUint32Le s
  let (imageHeight, s) ← inUint32Le s
  let (planes, s) ← inUint16Le s
  let (bitCount, s) ← inUint16Le s
  let (compression, s) ← inUint32Le s
  let (imageSize, s) ← inUint32Le s
  let (xPelsPerMeter, s) ← inUint32Le s
  let (yPelsPerMeter, s) ← inUint32Le s
  let (clrUsed, s) ← inUint32Le s
  let (clrImportant, s) ← inUint32Le s
  return (⟨int size, int imageWidth, int imageHeight, (planes : Int).bmod (2 ^ 16), (bitCount : Int).bmod (2 ^ 16),
    int compression, int imageSize, int xPelsPerMeter, int yPelsPerMeter, int clrUsed, int clrImportant⟩, s)

def readColour (st : Buf Nat × Stream) (i : Nat) : Run (Buf Nat × Stream) := do
  let (v, s) ← inUint32Le st.2
  let palette1 ← st.1.write i v
  return (palette1, s)

/-- `palette1`, as it is in the stream. -/
def readPalette (clrUsed : Int) (s : Stream) : Run (Buf Nat) := do
  let st ← (List.range clrUsed.toNat).foldlM readColour (Buf.alloc 256, s)
  return st.1

/-! ## Rows and pixels -/

def readRow (height size : Int) (st : File × Buf UInt8) (m : Nat) : Run (File × Buf UInt8) := do
  let i := height - 1 - m
  let (_, st) ← gFileRead st.1 st.2 (int (i * size)) size
  return st

/-- The rows, of `size` bytes, the last first. -/
def readRows (height size : Int) (fd : File) (s : Stream) : Run Stream := do
  let st ← (List.range height.toNat).foldlM (readRow height size) (fd, s.data)
  return { s with data := st.2 }

/-- How a reader gets the colour of a pixel in column `j`, from the stream and the byte that it has read last. -/
abbrev Fetch := Nat → UInt8 × Stream → Run (Nat × UInt8 × Stream)

def fetch24 : Fetch := fun _ (_, s) => do
  let (k, s) ← inUint8 s
  let color := k.toNat
  let (k, s) ← inUint8 s
  let color := color ||| k.toNat <<< 8
  let (k, s) ← inUint8 s
  let color := color ||| k.toNat <<< 16
  return (color, k, s)

def fetch8 (palette1 : Buf Nat) : Fetch := fun _ (_, s) => do
  let (k, s) ← inUint8 s
  let color ← palette1.read k.toNat
  return (color, k, s)

/-- The left of two pixels is in the high bits. -/
def fetch4 (palette1 : Buf Nat) : Fetch := fun j (k, s) => do
  let (color, k, s) ←
    if j &&& 1 = 0 then do
      let (k, s) ← inUint8 s
      pure ((k.toNat >>> 4) &&& 0xf, k, s)
    else pure (k.toNat &&& 0xf, k, s)
  let color ← palette1.read color
  return (color, k, s)

/-- A pixel. -/
def drawPixel (fetch : Fetch) (st : (UInt8 × Stream) × XrdpBitmap) (i j : Nat) : Run ((UInt8 × Stream) × XrdpBitmap) := do
  let (color, ks) ← fetch j st.1
  let self ← xrdpBitmapSetPixel st.2 j i (convert st.2.bpp color)
  return (ks, self)

/-- The two loops of a reader. -/
def drawPixels (fetch : Fetch) (s : Stream) (self : XrdpBitmap) : Run XrdpBitmap := do
  let st ← (List.range self.height.toNat).foldlM
    (fun st i => (List.range self.width.toNat).foldlM (fun st j => drawPixel fetch st i j) st) ((0, s), self)
  return st.2

/-! ## The readers -/

/-- What is the same in all of them: the rows are read into a stream of `total` bytes, and drawn. -/
def loadPixels (junk : Junk) (fetch : Fetch) (height rowBytes total : Int) (fd : File) (s : Stream)
    (self : XrdpBitmap) : Run XrdpBitmap := do
  let s ← readRows height rowBytes fd (initStream junk total s)
  drawPixels fetch s self

def load24 (junk : Junk) (self : XrdpBitmap) (header : XrdpBmpHeader) (fd : File) (s : Stream) : Run XrdpBitmap :=
  let fd := gFileSeek fd (int (14 + header.size))
  let self := (xrdpBitmapResize junk self header.imageWidth header.imageHeight).2
  loadPixels junk fetch24 header.imageHeight (int (header.imageWidth * 3))
    (int (header.imageWidth * header.imageHeight * 3)) fd s self

/-- The palette, with the file behind it. -/
def loadPalette (junk : Junk) (header : XrdpBmpHeader) (fd : File) (s : Stream) : Run (Buf Nat × File × Stream) := do
  let fd := gFileSeek fd (int (14 + header.size))
  let s := initStream junk 8192 s
  let (_, fd, data) ← gFileRead fd s.data 0 (int (header.clrUsed * 4))
  let s := { s with data := data }
  let palette1 ← readPalette header.clrUsed s
  return (palette1, fd, s)

def load8 (junk : Junk) (self : XrdpBitmap) (header : XrdpBmpHeader) (fd : File) (s : Stream) : Run XrdpBitmap := do
  let (palette1, fd, s) ← loadPalette junk header fd s
  let self := (xrdpBitmapResize junk self header.imageWidth header.imageHeight).2
  loadPixels junk (fetch8 palette1) header.imageHeight header.imageWidth
    (int (header.imageWidth * header.imageHeight)) fd s self

def load4 (junk : Junk) (self : XrdpBitmap) (header : XrdpBmpHeader) (fd : File) (s : Stream) : Run XrdpBitmap := do
  let (palette1, fd, s) ← loadPalette junk header fd s
  let self := (xrdpBitmapResize junk self header.imageWidth header.imageHeight).2
  loadPixels junk (fetch4 palette1) header.imageHeight (header.imageWidth.tdiv 2)
    ((int (header.imageWidth * header.imageHeight)).tdiv 2) fd s self

/-- `xrdp_bitmap_load`, of a file that can be opened or not. -/
def xrdpBitmapLoad (junk : Junk) (self : XrdpBitmap) (file : Option (List UInt8)) : Run (Int × XrdpBitmap) :=
  match file with
  | none => .ok (1, self)
  | some content => do
    let (n, fd, type1) ← gFileRead ⟨content, 0⟩ (Buf.alloc 4) 0 2
    if n ≠ 2 ∨ type1.cells 0 ≠ 0x42 ∨ type1.cells 1 ≠ 0x4D then return (1, self)
    else do
      let s : Stream := ⟨⟨8192, junk.bytes 8192⟩, 0⟩
      let (_, fd, data) ← gFileRead fd s.data 0 4
      let s := initStream junk 8192 { s with data := data }
      let (_, fd, data) ← gFileRead (gFileSeek fd 14) s.data 0 40
      let (header, s) ← readHeader { s with data := data }
      if header.bitCount = 24 then do
        let self ← load24 junk self header fd s
        return (0, self)
      else if header.bitCount = 8 then do
        let self ← load8 junk self header fd s
        return (0, self)
      else if header.bitCount = 4 then do
        let self ← load4 junk self header fd s
        return (0, self)
      else return (1, self)

end Xrdp.Bitmap.Bmp
