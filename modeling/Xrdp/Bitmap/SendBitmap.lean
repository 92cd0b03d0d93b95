import Xrdp.Bitmap.Rle
import Xrdp.Bitmap.Planar

/-!
# Bitmap updates (`libxrdp_send_bitmap` in `libxrdp/libxrdp.c`)

A bitmap goes out in update PDUs of one or more rectangles, each a strip of whole lines.  With
bitmap compression the strips are as high as the compressor fits into what is left of 16 KiB, from
the last line upwards; without it they are as high as fits, from the first line downwards.

The model returns the bodies handed to `xrdp_rdp_send_data`.  Loops that need not end take fuel.
-/

namespace Xrdp.Bitmap

open Wire

def MAX_BITMAP_BUF_SIZE : Nat := 16 * 1024

def RDP_UPDATE_BITMAP : Nat := 1

/-- The supported `bpp`. -/
inductive Bpp where
  | upTo24 (d : Depth)
  | bpp32
  deriving DecidableEq, Repr

def Bpp.bits : Bpp → Nat
  | .upTo24 .bpp8 => 8
  | .upTo24 .bpp15 => 15
  | .upTo24 .bpp16 => 16
  | .upTo24 .bpp24 => 24
  | .bpp32 => 32

/-- `Bpp = (bpp + 7) / 8`. -/
def Bpp.bytes (bpp : Bpp) : Nat := (bpp.bits + 7) / 8

/-- A bitmap: some lines of some pixels. -/
structure Picture where
  width : Nat
  height : Nat
  bpp : Bpp
  data : Nat → UInt8
  width_pos : 0 < width
  height_pos : 0 < height

/-- A pixel of 15 bits leaves the top bit clear, as `COLOR15` does. -/
def Picture.TopClear (b : Picture) : Prop :=
  b.bpp = .upTo24 .bpp15 → ∀ row < b.height, ∀ k < b.width,
    getPixel .bpp15 b.data (b.width * row * 2) k < 2 ^ 15

/-- `e = (4 - width) & 3`. -/
def padding (width : Nat) : Nat := (4 - width % 4) % 4

/-- `width + e`. -/
def Picture.paddedWidth (b : Picture) : Nat := b.width + padding b.width

/-- `line_pad_bytes`. -/
def Picture.linePadBytes (b : Picture) : Nat :=
  b.width * b.bpp.bytes + padding b.width * b.bpp.bytes

/-- The pixel in column `k` of row `row`. -/
def Picture.pixel (b : Picture) (row k : Nat) : Nat :=
  match b.bpp with
  | .upTo24 d => getPixel d b.data (b.width * row * d.inBytes) k
  | .bpp32 => pixel32 b.data (row * b.width * 4) k

/-! ## The session -/

def CRYPT_LEVEL_LOW : Nat := 1
def CRYPT_LEVEL_FIPS : Nat := 4

/-- What the function reads of the session. -/
structure Session where
  useBitmapComp : Bool
  op1 : Bool
  cryptLevel : Nat
  deriving DecidableEq, Repr

/-- The layers `xrdp_rdp_init_data` pushes: iso, mcs, sec and rdp. -/
def Session.initData (ss : Session) : Nat :=
  7 + 8 +
    (if ss.cryptLevel > 0 then
      if ss.cryptLevel = CRYPT_LEVEL_FIPS then 4 + 4 + 8
      else if ss.cryptLevel > CRYPT_LEVEL_LOW then 4 + 8 else 4
    else 0) + 18

/-- The layer pushed for the fields of a rectangle. -/
def Session.channelHdr (ss : Session) : Nat := if ss.op1 then 18 else 26

/-- `out_uint16_le` of an `int`. -/
def outUint16 (v : Int) : List UInt8 := leBytes 2 (v % 65536).toNat

/-! ## With compression -/

/-- One block from line `startLine` upwards; `base` is where it starts in `s`, and `tempS` the work
buffer as the last call left it. -/
def Picture.compress (b : Picture) (base : Nat) (byteLimit startLine : Int) (tempS : Buf UInt8) :
    Run (Nat × List UInt8) :=
  match b.bpp with
  | .bpp32 =>
    xrdpBitmap32Compress b.data b.width byteLimit startLine tempS (padding b.width) 0x10
  | .upTo24 d =>
    .ok (xrdpBitmapCompress b.data b.width d base byteLimit startLine (padding b.width))

/-- The fields of a compressed rectangle of `lines` lines from `top` on. -/
def compressedHeader (ss : Session) (b : Picture) (x top cx : Int) (lines bufsize : Nat) :
    List UInt8 :=
  outUint16 x ++ outUint16 top ++ outUint16 (x + cx - 1) ++ outUint16 (top + lines - 1) ++
    outUint16 b.paddedWidth ++ outUint16 lines ++ outUint16 b.bpp.bits ++
    (if ss.op1 then outUint16 0x401 ++ outUint16 bufsize
    else
      outUint16 0x1 ++ outUint16 (bufsize + 8) ++ outUint16 0 ++ outUint16 bufsize ++
        outUint16 (b.paddedWidth * b.bpp.bytes) ++
        outUint16 (b.paddedWidth * b.bpp.bytes * lines))

/-- `do … while (total_bufsize < MAX_BITMAP_BUF_SIZE && i > 0)`: `num_updates`, the lines left and
the rectangles. -/
def compressedUpdates (ss : Session) (b : Picture) (x y cx : Int) (tempS : Nat → Buf UInt8)
    (i totalBufsize : Nat) : Run (Nat × Nat × List UInt8) := do
  let (lines, data) ← b.compress (ss.initData + 4 + totalBufsize + ss.channelHdr)
    (MAX_BITMAP_BUF_SIZE - 100 - totalBufsize) (i - 1) (tempS i)
  if _h : lines = 0 then return (0, i, [])
  else
    let block := compressedHeader ss b x (y + (i - lines : Nat)) cx lines data.length ++ data
    let totalBufsize := totalBufsize + data.length + ss.channelHdr
    if _h : totalBufsize < MAX_BITMAP_BUF_SIZE ∧ 0 < i - lines then
      let (numUpdates, j, rest) ← compressedUpdates ss b x y cx tempS (i - lines) totalBufsize
      return (numUpdates + 1, j, block ++ rest)
    else return (1, i - lines, block)
  termination_by i

/-- `while (i > 0)`: one PDU after the other. -/
def compressedPdus (ss : Session) (b : Picture) (x y cx : Int) (tempS : Nat → Buf UInt8) :
    Nat → Nat → Run (List (List UInt8))
  | 0, _ => .error .outOfFuel
  | fuel + 1, i =>
    if i > 0 then do
      let (numUpdates, i, rects) ← compressedUpdates ss b x y cx tempS i 0
      let rest ← compressedPdus ss b x y cx tempS fuel i
      return (outUint16 RDP_UPDATE_BITMAP ++ outUint16 numUpdates ++ rects) :: rest
    else .ok []

/-! ## Without -/

/-- One line, padded with zeros; eight bits a pixel are copied, other depths written pixel by
pixel, of 24 bits the low three bytes. -/
def plainLine (b : Picture) (row : Nat) : List UInt8 :=
  ((List.range b.width).flatMap fun k => leBytes b.bpp.bytes (b.pixel row k)) ++
    List.replicate (padding b.width * b.bpp.bytes) 0

/-- The PDU of the lines `i … i + lines - 1`, the last of them first. -/
def plainPdu (b : Picture) (x y cx : Int) (i lines : Nat) : List UInt8 :=
  outUint16 RDP_UPDATE_BITMAP ++ outUint16 1 ++ outUint16 x ++ outUint16 (y + i) ++
    outUint16 (x + cx - 1) ++ outUint16 (y + i + lines - 1) ++ outUint16 b.paddedWidth ++
    outUint16 lines ++ outUint16 b.bpp.bits ++ outUint16 0 ++ outUint16 (b.linePadBytes * lines) ++
    (List.range lines).flatMap fun j => plainLine b (i + lines - 1 - j)

/-- `while (i < total_lines)`. -/
def plainPdus (b : Picture) (x y cx : Int) : Nat → Nat → Run (List (List UInt8))
  | 0, _ => .error .outOfFuel
  | fuel + 1, i =>
    if i < b.height then
      let lines := (MAX_BITMAP_BUF_SIZE - 100) / b.linePadBytes
      let lines := if i + lines > b.height then b.height - i else lines
      if lines = 0 then .ok []
      else do
        let rest ← plainPdus b x y cx fuel (i + lines)
        return plainPdu b x y cx i lines :: rest
    else .ok []

/-! ## The function -/

/-- `libxrdp_send_bitmap`. -/
def libxrdpSendBitmap (ss : Session) (b : Picture) (x y cx cy : Int) (tempS : Nat → Buf UInt8)
    (fuel : Nat) : Run (List (List UInt8)) :=
  if ss.useBitmapComp then
    compressedPdus ss b x y cx tempS fuel (if cy ≤ b.height then cy.toNat else 0)
  else if b.width * b.bpp.bytes > 0 ∧ b.height > 0 then plainPdus b x y cx fuel 0
  else .ok []

end Xrdp.Bitmap
