import Mathlib.Logic.Function.Basic
import Xrdp.Lib.Wire

/-!
# Messages of a VNC server

The module reads what the server sends (`vnc/vnc.c`): rectangles of the screen, palettes, and texts of
the clipboard.  Sizes and places are computed in `int` from numbers that the server says.

* `Vnc` — the state, with what has been computed (`Access`).
* `libFramebufferUpdate`, `libPaletteUpdate`, `libClipData` — the handlers.
* `libModProcessMessage` — a message.
-/

namespace Xrdp.VncClient

/-- A result of `int` arithmetic. -/
def int32 (x : Int) : Int := (x + 2 ^ 31) % 2 ^ 32 - 2 ^ 31

/-- The number in bytes, the highest first. -/
def beVal (bs : List UInt8) : Nat := Wire.leVal bs.reverse

/-- What is computed: a size, for one that is meant; a length to skip of what is left; and some cells
from a place on, of those that there are. -/
inductive Access where
  | size (computed : Int) (meant : Nat)
  | skip (length : Int) (left : Nat)
  | cells (place : Int) (count limit : Nat)
  deriving DecidableEq, Repr

/-- `server_*`. -/
inductive ServerCall where
  | beginUpdate
  | endUpdate
  | paintRect (x y cx cy : Nat) (data : List UInt8)
  | screenBlt (x y cx cy srcx srcy : Nat)
  | setCursor (x y : Nat)
  | reset (width height bpp : Nat)
  | palette
  | msg
  | bellTrigger
  | formatAnnounce
  | updateRequest
  deriving DecidableEq, Repr

/-- `clip_data_s`: its `size`, and the bytes that have been received. -/
structure ClipData where
  said : Nat
  size : Nat
  data : List UInt8
  deriving DecidableEq, Repr

/-- `struct vnc`, with what the server has sent and will send, whether the connection is up, and what
has been computed and called. -/
structure Vnc where
  incoming : List UInt8
  up : Bool
  modBpp : Nat
  modWidth : Nat
  modHeight : Nat
  palette : Nat → Nat
  suppressOutput : Bool
  clipDataS : Option ClipData
  accesses : List Access
  calls : List ServerCall

/-- A handler has an error or not. -/
abbrev Handled := Bool × Vnc

namespace Vnc

def record (v : Vnc) (accesses : List Access) : Vnc := { v with accesses := v.accesses ++ accesses }

/-- A call; `fails` tells which of them have an error, by the number of those before. -/
def call (fails : Nat → Bool) (v : Vnc) (c : ServerCall) : Handled :=
  (fails v.calls.length, { v with calls := v.calls ++ [c] })

/-- What is done if there has been no error. -/
def andThen (r : Handled) (f : Vnc → Handled) : Handled :=
  match r with
  | (true, v) => (true, v)
  | (false, v) => f v

/-- `trans_force_read_s` of `size` bytes into a stream with so much room. -/
def forceRead (v : Vnc) (room : Nat) (size : Int) : Option (List UInt8) × Vnc :=
  if v.up = false then (none, v)
  else if size ≤ 0 then (some [], v)
  else if room < size then (none, v)
  else if v.incoming.length < size then (none, { v with up := false, incoming := [] })
  else (some (v.incoming.take size.toNat), { v with incoming := v.incoming.drop size.toNat })

/-- What is done with the bytes that have been read. -/
def reading (r : Option (List UInt8) × Vnc) (f : List UInt8 → Vnc → Handled) : Handled :=
  match r with
  | (none, v) => (true, v)
  | (some bytes, v) => f bytes v

end Vnc

/-- `Bpp`. -/
def bytesPerPixel (bpp : Nat) : Nat :=
  let Bpp := (bpp + 7) / 8
  if Bpp = 3 then 4 else Bpp

/-- What `get_pixel_safe` reads: so many bytes from a place on. -/
def getPixelSafe (x y width height bpp : Nat) : Option (Nat × Nat) :=
  if width ≤ x then none
  else if height ≤ y then none
  else if bpp = 1 then some (y * ((width + 7) / 8) + x / 8, 1)
  else if bpp = 4 then some (y * ((width + 1) / 2) + x / 2, 1)
  else if bpp = 8 then some (y * width + x, 1)
  else if bpp = 15 ∨ bpp = 16 then some (2 * (y * width + x), 2)
  else if bpp = 24 ∨ bpp = 32 then some (4 * (y * width + x), 4)
  else none

/-! ## Rectangles -/

/-- The header of a rectangle. -/
structure Rect where
  x : Nat
  y : Nat
  cx : Nat
  cy : Nat
  encoding : Nat
  deriving DecidableEq, Repr

def Rect.ofBytes (bs : List UInt8) : Rect where
  x := beVal (bs.take 2)
  y := beVal ((bs.drop 2).take 2)
  cx := beVal ((bs.drop 4).take 2)
  cy := beVal ((bs.drop 6).take 2)
  encoding := beVal ((bs.drop 8).take 4)

namespace Vnc

/-- Encoding 0. -/
def raw (fails : Nat → Bool) (v : Vnc) (r : Rect) : Handled :=
  let Bpp := bytesPerPixel v.modBpp
  let needSize := int32 (r.cx * r.cy * Bpp)
  reading ((v.record [.size needSize (r.cx * r.cy * Bpp)]).forceRead needSize.toNat needSize)
    fun data v => v.call fails (.paintRect r.x r.y r.cx r.cy data)

/-- Encoding 1. -/
def copyRect (fails : Nat → Bool) (v : Vnc) (r : Rect) : Handled :=
  reading (v.forceRead 8192 4) fun bytes v =>
    v.call fails (.screenBlt r.x r.y r.cx r.cy (beVal (bytes.take 2)) (beVal (bytes.drop 2)))

/-- The bit of the mask for a pixel. -/
def maskBit (received : List UInt8) (place : Int) (x : Nat) : Bool :=
  (received.getD place.toNat 0).toNat &&& (0x80 >>> (x % 8)) ≠ 0

/-- One pass of the loop over the pixels of a cursor: `d2` is `j` behind `d1`. -/
def cursorPixel (bpp cx cy : Nat) (j : Int) (received : List UInt8) (x y : Nat) : List Access :=
  match getPixelSafe x (31 - y) cx cy 1 with
  | none => [.cells (y * 4 + x / 8) 1 128]
  | some (at₂, n₂) =>
    [.cells (j + at₂) n₂ received.length, .cells (y * 4 + x / 8) 1 128] ++
      if maskBit received (j + at₂) x then
        (match getPixelSafe x (31 - y) cx cy bpp with
        | none => []
        | some (at₁, n₁) => .cells at₁ n₁ received.length ::
          if bpp = 8 then [.cells (received.getD at₁ 0).toNat 1 256] else []) ++
        [.cells (3 * (y * 32 + x)) 3 3072]
      else []

/-- The loop over the pixels. -/
def cursorPixels (bpp cx cy : Nat) (j : Int) (received : List UInt8) : List Access :=
  (List.range 32).flatMap fun y => (List.range 32).flatMap fun x => cursorPixel bpp cx cy j received x y

/-- Encoding `0xffffff11`. -/
def cursor (fails : Nat → Bool) (v : Vnc) (r : Rect) : Handled :=
  let Bpp := bytesPerPixel v.modBpp
  let j := int32 (r.cx * r.cy * Bpp)
  let k := int32 ((r.cx + 7) / 8 * r.cy : Nat)
  let v := v.record [.size j (r.cx * r.cy * Bpp), .size k ((r.cx + 7) / 8 * r.cy)]
  reading (v.forceRead (max 8192 (int32 (j + k)).toNat) (int32 (j + k))) fun received v =>
    let v := v.record ([.skip j received.length, .skip k (received.length - j).toNat] ++
      cursorPixels v.modBpp r.cx r.cy j received)
    v.call fails (.setCursor (min r.x 31) (min r.y 31))

/-- Encoding `0xffffff21`. -/
def desktopSize (fails : Nat → Bool) (v : Vnc) (r : Rect) : Handled :=
  { v with modWidth := r.cx, modHeight := r.cy }.call fails (.reset r.cx r.cy v.modBpp)

/-- What is done with a rectangle. -/
def rectangle (fails : Nat → Bool) (v : Vnc) (r : Rect) : Handled :=
  if r.encoding = 0 then v.raw fails r
  else if r.encoding = 1 then v.copyRect fails r
  else if r.encoding = 0xffffff11 then v.cursor fails r
  else if r.encoding = 0xffffff21 then v.desktopSize fails r
  else (false, (v.call fails .msg).2)

/-- The next rectangle. -/
def nextRectangle (fails : Nat → Bool) (v : Vnc) : Handled :=
  reading (v.forceRead 8192 12) fun bytes v => v.rectangle fails (.ofBytes bytes)

/-- The loop over the rectangles. -/
def rectangles (fails : Nat → Bool) : Nat → Vnc → Handled
  | 0, v => (false, v)
  | n + 1, v => andThen (v.nextRectangle fails) (rectangles fails n)

/-- `lib_framebuffer_update`. -/
def libFramebufferUpdate (fails : Nat → Bool) (v : Vnc) : Handled :=
  reading (v.forceRead 8192 3) fun bytes v =>
    andThen (v.call fails .beginUpdate) fun v =>
    andThen (v.rectangles fails (beVal (bytes.drop 1))) fun v =>
    andThen (v.call fails .endUpdate) fun v =>
      if v.suppressOutput then (false, v) else v.call fails .updateRequest

/-! ## Palettes -/

/-- One pass of the loop over the colours. -/
def setColor (firstColor : Nat) (colors : List UInt8) (v : Vnc) (i : Nat) : Vnc :=
  let channel (n : Nat) : Nat := beVal ((colors.drop (6 * i + 2 * n)).take 2) / 256
  { v with
    palette := Function.update v.palette (firstColor + i)
      (channel 0 * 65536 + channel 1 * 256 + channel 2) }.record [.cells (firstColor + i) 1 256]

/-- `lib_palette_update`. -/
def libPaletteUpdate (fails : Nat → Bool) (v : Vnc) : Handled :=
  reading (v.forceRead 8192 5) fun bytes v =>
    let firstColor := beVal ((bytes.drop 1).take 2)
    let numColors := beVal (bytes.drop 3)
    reading (v.forceRead 8192 (numColors * 6)) fun colors v =>
      andThen (((List.range numColors).foldl (setColor firstColor colors) v).call fails .beginUpdate)
        fun v =>
      andThen (v.call fails .palette) fun v => v.call fails .endUpdate

/-! ## Texts of the clipboard -/

/-- `lib_clip_data`: the stream has no room but for `size`, if that is positive. -/
def libClipData (fails : Nat → Bool) (v : Vnc) : Handled :=
  reading ({ v with clipDataS := none }.forceRead 8192 7) fun bytes v =>
    let said := beVal (bytes.drop 3)
    let size := int32 said
    let v := { v with
      clipDataS := some ⟨said, size.toNat, v.incoming.take size.toNat⟩ }.record [.size size said]
    reading (v.forceRead size.toNat size) fun _ v => v.call fails .formatAnnounce

/-! ## Messages -/

/-- `lib_mod_process_message`. -/
def libModProcessMessage (fails : Nat → Bool) (v : Vnc) (type : UInt8) : Handled :=
  if type = 0 then v.libFramebufferUpdate fails
  else if type = 1 then v.libPaletteUpdate fails
  else if type = 2 then v.call fails .bellTrigger
  else if type = 3 then v.libClipData fails
  else (false, (v.call fails .msg).2)

/-- `lib_data_in` for the next message, if there is one; an error closes the connection. -/
def libDataIn (fails : Nat → Bool) (v : Vnc) : Vnc :=
  match v.up, v.incoming with
  | true, type :: incoming =>
    match { v with incoming := incoming }.libModProcessMessage fails type with
    | (true, v) => { v with up := false }
    | (false, v) => v
  | _, _ => v

end Vnc

end Xrdp.VncClient
