import Xrdp.Bitmap.SendBitmap
import Xrdp.Bitmap.RleFormat
import Xrdp.Bitmap.PlanarFormat

/-!
# The bitmap update at the client

A decoder for bitmap update PDUs: rectangles with raw, interleaved-RLE or planar pixels, bottom
line first, with or without a compression header.

* `decodeTile`, `decodePdu` — the decoder.
* `Tile.covers`, `Tile.pixelAt` — what a rectangle paints.
-/

namespace Xrdp.Bitmap

open Wire

/-- A rectangle with the pixels it came with, bottom line first. -/
structure Tile where
  left : Nat
  top : Nat
  right : Nat
  bottom : Nat
  width : Nat
  height : Nat
  pixels : List Nat
  deriving DecidableEq, Repr

/-- The screen position lies inside the rectangle. -/
def Tile.covers (t : Tile) (px py : Int) : Prop :=
  t.left ≤ px ∧ px ≤ t.right ∧ t.top ≤ py ∧ py ≤ t.bottom

instance (t : Tile) (px py : Int) : Decidable (t.covers px py) := by
  unfold Tile.covers
  infer_instance

/-- The pixel a rectangle paints at a screen position; columns right of the rectangle and lines
above it are not shown. -/
def Tile.pixelAt (t : Tile) (px py : Int) : Option Nat :=
  t.pixels[(t.bottom - py).toNat * t.width + (px - t.left).toNat]?

/-- `bitsPerPixel`. -/
def bppOfBits : Nat → Option Bpp
  | 8 => some (.upTo24 .bpp8)
  | 15 => some (.upTo24 .bpp15)
  | 16 => some (.upTo24 .bpp16)
  | 24 => some (.upTo24 .bpp24)
  | 32 => some .bpp32
  | _ => none

/-- Four planes are one pixel value; a pixel without alpha is opaque. -/
def Argb.value (p : Argb) : Nat :=
  p.b.toNat + 256 * p.g.toNat + 65536 * p.r.toNat + 16777216 * (p.a.getD 255).toNat

/-- `n` pixels of `k` bytes. -/
def rawPixels (k : Nat) : Nat → List UInt8 → Option (List Nat)
  | 0, bs => if bs = [] then some [] else none
  | n + 1, bs => (getLe k bs).bind fun (v, bs) => (rawPixels k n bs).map (v :: ·)

/-- The pixels of a compressed block. -/
def unpackPixels (bpp : Bpp) (width height : Nat) (bs : List UInt8) : Option (List Nat) :=
  match bpp with
  | .upTo24 d => rleDecode d width bs
  | .bpp32 => (planarDecode width height bs).map (List.map Argb.value)

/-- Some 16-bit fields. -/
def getFields : Nat → List UInt8 → Option (List Nat × List UInt8)
  | 0, bs => some ([], bs)
  | n + 1, bs =>
    (getLe 2 bs).bind fun (v, bs) => (getFields n bs).map fun (vs, bs) => (v :: vs, bs)

/-- The pixel data of a rectangle; without flag 0x400 a compressed block starts with a compression
header. -/
def decodeBlock (bpp : Bpp) (width height flags : Nat) (block : List UInt8) : Option (List Nat) :=
  if flags.testBit 0 then
    if flags.testBit 10 then unpackPixels bpp width height block
    else (getBytes 8 block).bind fun (_, block) => unpackPixels bpp width height block
  else rawPixels bpp.bytes (width * height) block

/-- One rectangle off the front. -/
def decodeTile (bs : List UInt8) : Option (Tile × List UInt8) :=
  match getFields 9 bs with
  | some ([left, top, right, bottom, width, height, bits, flags, length], bs) =>
    (bppOfBits bits).bind fun bpp =>
      (getBytes length bs).bind fun (block, rest) =>
        (decodeBlock bpp width height flags block).bind fun pixels =>
          if pixels.length = width * height then
            some (⟨left, top, right, bottom, width, height, pixels⟩, rest)
          else none
  | _ => none

/-- `n` rectangles and nothing behind them. -/
def decodeTiles : Nat → List UInt8 → Option (List Tile)
  | 0, bs => if bs = [] then some [] else none
  | n + 1, bs => (decodeTile bs).bind fun (t, bs) => (decodeTiles n bs).map (t :: ·)

/-- One update PDU. -/
def decodePdu (bs : List UInt8) : Option (List Tile) :=
  match getFields 2 bs with
  | some ([kind, n], bs) => if kind = RDP_UPDATE_BITMAP then decodeTiles n bs else none
  | _ => none

/-- Some update PDUs, one after the other. -/
def decodePdus : List (List UInt8) → Option (List Tile)
  | [] => some []
  | pdu :: pdus => (decodePdu pdu).bind fun ts => (decodePdus pdus).map (ts ++ ·)

/-! ## Pictures on the screen -/

/-- A pixel as the client is to see it: of 24 bits the low ones. -/
def Picture.shown (b : Picture) (row k : Nat) : Nat := b.pixel row k % 256 ^ b.bpp.bytes

/-- The rectangles paint the lines `lo … hi - 1` of the picture at `(x, y)`: every pixel of them
exactly once, and nothing else. -/
def Paints (b : Picture) (x y : Int) (lo hi : Nat) (tiles : List Tile) : Prop :=
  ∀ px py : Int, (tiles.filter (·.covers px py)).map (·.pixelAt px py) =
    if x ≤ px ∧ px < x + b.width ∧ y + lo ≤ py ∧ py < y + hi then
      [some (b.shown (py - y).toNat (px - x).toNat)]
    else []

end Xrdp.Bitmap
