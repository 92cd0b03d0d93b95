import Xrdp.Lib.Wire

/-!
# The interleaved RLE compressor (`libxrdp/xrdp_bitmap_compress.c`)

`xrdp_bitmap_compress` counts five kinds of runs in parallel while it copies the pixels to
`temp_s`; when a run that is the longest ends, the pixels before it go out as a copy order and the
run as an order of its own.  The three branches of the source, for 8, 15 or 16, and 24 bits per
pixel, differ in the pixel access, the pixel width and `mix`; they are one definition over
`Depth`.

A stream is the list of the bytes behind its data pointer; `fom_mask` is the list of its first
`fom_mask_len` bytes.  Pixels and counts are `Nat`: pixels are only compared and xor-ed, counts
never exceed `count`.
-/

namespace Xrdp.Bitmap

open Wire

def BC_MAX_BYTES : Nat := 16 * 1024

/-- The values of `bpp` with a branch of their own. -/
inductive Depth where
  | bpp8
  | bpp15
  | bpp16
  | bpp24
  deriving DecidableEq, Repr

/-- Bytes of a pixel on the wire. -/
def Depth.bytes : Depth → Nat
  | .bpp8 => 1
  | .bpp15 => 2
  | .bpp16 => 2
  | .bpp24 => 3

/-- Bytes of a pixel of the image. -/
def Depth.inBytes : Depth → Nat
  | .bpp8 => 1
  | .bpp15 => 2
  | .bpp16 => 2
  | .bpp24 => 4

/-- `mix`. -/
def Depth.mix : Depth → Nat
  | .bpp8 => 0xff
  | .bpp15 => 0xba1f
  | .bpp16 => 0xffff
  | .bpp24 => 0xffffff

/-- `GETPIXEL8`, `GETPIXEL16`, `GETPIXEL32` at pixel `x` of the row that starts at byte `line`. -/
def getPixel (d : Depth) (inData : Nat → UInt8) (line x : Nat) : Nat :=
  match d with
  | .bpp8 => (inData (line + x)).toNat
  | .bpp15 | .bpp16 =>
    (inData (line + 2 * x)).toNat + 256 * (inData (line + 2 * x + 1)).toNat
  | .bpp24 =>
    (inData (line + 4 * x)).toNat + 256 * (inData (line + 4 * x + 1)).toNat +
      65536 * (inData (line + 4 * x + 2)).toNat + 16777216 * (inData (line + 4 * x + 3)).toNat

/-- `IN_PIXEL8`, `IN_PIXEL16`, `IN_PIXEL32`; a null row reads as zero. -/
def inPixel (d : Depth) (inData : Nat → UInt8) (inPtr : Option Nat) (inX inW inLastPixel : Nat) :
    Nat :=
  match inPtr with
  | none => 0
  | some line => if inX < inW then getPixel d inData line inX else inLastPixel

/-- The pixel bytes the `out_uint*` calls write: `pixel`, or its low 24 bits. -/
def outPixel (d : Depth) (pixel : Nat) : List UInt8 := leBytes d.bytes pixel

@[simp] theorem outPixel_length (d : Depth) (p : Nat) : (outPixel d p).length = d.bytes :=
  leBytes_length _ _

/-! ## Order headers -/

/-- The header of fill (0), mix (1), color (3) and copy (4) orders. -/
def runHeader (code inCount : Nat) : List UInt8 :=
  if inCount < 32 then leBytes 1 (code <<< 5 ||| inCount)
  else if inCount < 256 + 32 then leBytes 1 (code <<< 5) ++ leBytes 1 (inCount - 32)
  else leBytes 1 (0xf0 + code) ++ leBytes 2 inCount

/-- `OUT_FILL_COUNT1/2/3`. -/
def outFillCount (inCount : Nat) : List UInt8 :=
  if inCount > 0 then runHeader 0x0 inCount else []

/-- `OUT_MIX_COUNT1/2/3`. -/
def outMixCount (inCount : Nat) : List UInt8 :=
  if inCount > 0 then runHeader 0x1 inCount else []

/-- `OUT_COLOR_COUNT1/2/3`. -/
def outColorCount (d : Depth) (inCount inData : Nat) : List UInt8 :=
  if inCount > 0 then runHeader 0x3 inCount ++ outPixel d inData else []

/-- `OUT_COPY_COUNT1/2/3`: the first `in_count` pixels of `temp_s`. -/
def outCopyCount (d : Depth) (inCount : Nat) (inData : List UInt8) : List UInt8 :=
  if inCount > 0 then runHeader 0x4 inCount ++ inData.take (inCount * d.bytes) else []

/-- `OUT_BICOLOR_COUNT1/2/3`. -/
def outBicolorCount (d : Depth) (inCount inColor1 inColor2 : Nat) : List UInt8 :=
  if inCount > 0 then
    (if inCount / 2 < 16 then leBytes 1 (0xe <<< 4 ||| inCount / 2)
      else if inCount / 2 < 256 + 16 then leBytes 1 0xe0 ++ leBytes 1 (inCount / 2 - 16)
      else leBytes 1 0xf8 ++ leBytes 2 (inCount / 2)) ++
      (outPixel d inColor1 ++ outPixel d inColor2)
  else []

/-- `OUT_FOM_COUNT1/2/3`. -/
def outFomCount (inCount : Nat) (inMask : List UInt8) : List UInt8 :=
  if inCount > 0 then
    (if inCount % 8 = 0 ∧ inCount < 249 then leBytes 1 (0x2 <<< 5 ||| inCount / 8)
      else if inCount < 256 then leBytes 1 0x40 ++ leBytes 1 (inCount - 1)
      else leBytes 1 0xf2 ++ leBytes 2 inCount) ++ inMask
  else []

/-! ## The state of the loops -/

structure RleSt where
  s : List UInt8
  tempS : List UInt8
  count : Nat
  colorCount : Nat
  lastPixel : Nat
  lastYpixel : Nat
  bicolorCount : Nat
  bicolor1 : Nat
  bicolor2 : Nat
  bicolorSpin : Bool
  fillCount : Nat
  mixCount : Nat
  fomCount : Nat
  fomMask : List UInt8

def RleSt.init : RleSt :=
  { s := [], tempS := [], count := 0, colorCount := 0, lastPixel := 0, lastYpixel := 0
    bicolorCount := 0, bicolor1 := 0, bicolor2 := 0, bicolorSpin := false
    fillCount := 0, mixCount := 0, fomCount := 0, fomMask := [] }

/-- `RESET_COUNTS`. -/
def RleSt.resetCounts (st : RleSt) : RleSt :=
  { st with
    bicolorCount := 0, fillCount := 0, colorCount := 0, mixCount := 0, fomCount := 0
    fomMask := [], bicolorSpin := false }

/-- `count -= run; OUT_COPY_COUNT(count, s, temp_s)`, then the order of the run. -/
def RleSt.flush (d : Depth) (st : RleSt) (run : Nat) (order : List UInt8) : RleSt :=
  { st with
    s := st.s ++ outCopyCount d (st.count - run) st.tempS ++ order
    count := 0
    tempS := [] }

/-! ## The tests -/

/-- What the tests of one pixel look at besides the state: `last_line == 0`, `pixel`, `ypixel`. -/
structure PixelCtx where
  firstLine : Bool
  pixel : Nat
  ypixel : Nat

/-- `TEST_FILL`. -/
def testFill (p : PixelCtx) : Bool := if p.firstLine then p.pixel == 0 else p.pixel == p.ypixel

/-- `TEST_MIX`. -/
def testMix (d : Depth) (p : PixelCtx) : Bool :=
  if p.firstLine then p.pixel == d.mix else p.pixel == p.ypixel ^^^ d.mix

/-- `TEST_FOM`. -/
def testFom (d : Depth) (p : PixelCtx) : Bool := testFill p || testMix d p

/-- `TEST_COLOR`. -/
def testColor (st : RleSt) (p : PixelCtx) : Bool := p.pixel == st.lastPixel

/-- `TEST_BICOLOR`. -/
def testBicolor (st : RleSt) (p : PixelCtx) : Bool :=
  p.pixel != st.lastPixel &&
    ((!st.bicolorSpin && p.pixel == st.bicolor1 && st.lastPixel == st.bicolor2) ||
      (st.bicolorSpin && p.pixel == st.bicolor2 && st.lastPixel == st.bicolor1))

/-! ## Runs that end -/

def RleSt.fillWins (st : RleSt) : Bool :=
  st.fillCount > 3 && st.fillCount ≥ st.colorCount && st.fillCount ≥ st.bicolorCount &&
    st.fillCount ≥ st.mixCount && st.fillCount ≥ st.fomCount

def RleSt.mixWins (st : RleSt) : Bool :=
  st.mixCount > 3 && st.mixCount ≥ st.fillCount && st.mixCount ≥ st.bicolorCount &&
    st.mixCount ≥ st.colorCount && st.mixCount ≥ st.fomCount

def RleSt.colorWins (st : RleSt) : Bool :=
  st.colorCount > 3 && st.colorCount ≥ st.fillCount && st.colorCount ≥ st.bicolorCount &&
    st.colorCount ≥ st.mixCount && st.colorCount ≥ st.fomCount

def RleSt.bicolorWins (st : RleSt) : Bool :=
  st.bicolorCount > 3 && st.bicolorCount ≥ st.fillCount && st.bicolorCount ≥ st.colorCount &&
    st.bicolorCount ≥ st.mixCount && st.bicolorCount ≥ st.fomCount

def RleSt.fomWins (st : RleSt) : Bool :=
  st.fomCount > 3 && st.fomCount ≥ st.fillCount && st.fomCount ≥ st.colorCount &&
    st.fomCount ≥ st.mixCount && st.fomCount ≥ st.bicolorCount

def RleSt.flushFill (d : Depth) (st : RleSt) : RleSt :=
  { st.flush d st.fillCount (outFillCount st.fillCount) with fillCount := 0 }

def RleSt.flushMix (d : Depth) (st : RleSt) : RleSt :=
  { st.flush d st.mixCount (outMixCount st.mixCount) with mixCount := 0 }

def RleSt.flushColor (d : Depth) (st : RleSt) : RleSt :=
  { st.flush d st.colorCount (outColorCount d st.colorCount st.lastPixel) with colorCount := 0 }

/-- An odd run leaves its first pixel to the copy order and starts with the other color. -/
def RleSt.flushBicolor (d : Depth) (st : RleSt) : RleSt :=
  let even := st.bicolorCount % 2 = 0
  let run := if even then st.bicolorCount else st.bicolorCount - 1
  let color1 := if even then st.bicolor1 else st.bicolor2
  let color2 := if even then st.bicolor2 else st.bicolor1
  { st.flush d run (outBicolorCount d run color1 color2) with bicolorCount := 0 }

def RleSt.flushFom (d : Depth) (st : RleSt) : RleSt :=
  { st.flush d st.fomCount (outFomCount st.fomCount st.fomMask) with fomCount := 0 }

/-- `if (!TEST_FILL) …`, and the same block at the end of the first line. -/
def RleSt.endFill (d : Depth) (st : RleSt) : RleSt :=
  { if st.fillWins then (st.flushFill d).resetCounts else st with fillCount := 0 }

def RleSt.endMix (d : Depth) (st : RleSt) : RleSt :=
  { if st.mixWins then (st.flushMix d).resetCounts else st with mixCount := 0 }

def RleSt.endColor (d : Depth) (st : RleSt) : RleSt :=
  { if st.colorWins then (st.flushColor d).resetCounts else st with colorCount := 0 }

def RleSt.endBicolor (d : Depth) (st : RleSt) (pixel : Nat) : RleSt :=
  { if st.bicolorWins then (st.flushBicolor d).resetCounts else st with
    bicolorCount := 0, bicolor1 := st.lastPixel, bicolor2 := pixel, bicolorSpin := false }

def RleSt.endFom (d : Depth) (st : RleSt) : RleSt :=
  { if st.fomWins then (st.flushFom d).resetCounts else st with fomCount := 0, fomMask := [] }

/-! ## One pixel -/

/-- The five `if (!TEST_…)` blocks. -/
def endRuns (d : Depth) (p : PixelCtx) (st : RleSt) : RleSt :=
  let st := if testFill p then st else st.endFill d
  let st := if testMix d p then st else st.endMix d
  let st := if testColor st p then st else st.endColor d
  let st := if testBicolor st p then st else st.endBicolor d p.pixel
  if testFom d p then st else st.endFom d

/-- `fom_mask[fom_mask_len] = 0; fom_mask_len++` for a new byte, then `|=` into the last. -/
def fomMaskPush (mask : List UInt8) (fomCount : Nat) (isMix : Bool) : List UInt8 :=
  let mask := if fomCount % 8 = 0 then mask ++ [0] else mask
  if isMix then
    mask.modify (mask.length - 1) fun b => b ||| UInt8.ofNat (1 <<< (fomCount % 8))
  else mask

/-- The five `if (TEST_…)` counters, none of which another test looks at; then the pixel goes to
`temp_s`. -/
def countPixel (d : Depth) (p : PixelCtx) (st : RleSt) : RleSt :=
  { s := st.s
    tempS := st.tempS ++ outPixel d p.pixel
    count := st.count + 1
    colorCount := if testColor st p then st.colorCount + 1 else st.colorCount
    lastPixel := p.pixel
    lastYpixel := p.ypixel
    bicolorCount := if testBicolor st p then st.bicolorCount + 1 else st.bicolorCount
    bicolor1 := st.bicolor1
    bicolor2 := st.bicolor2
    bicolorSpin := if testBicolor st p then !st.bicolorSpin else st.bicolorSpin
    fillCount := if testFill p then st.fillCount + 1 else st.fillCount
    mixCount := if testMix d p then st.mixCount + 1 else st.mixCount
    fomCount := if testFom d p then st.fomCount + 1 else st.fomCount
    fomMask := if testFom d p then
        fomMaskPush st.fomMask st.fomCount (p.pixel == p.ypixel ^^^ d.mix)
      else st.fomMask }

def pixelStep (d : Depth) (p : PixelCtx) (st : RleSt) : RleSt := countPixel d p (endRuns d p st)

/-! ## Lines -/

/-- `for (i = 0; i < end; i++)`, with `todo` pixels of the row to go. -/
def lineLoop (d : Depth) (inData : Nat → UInt8) (width : Nat) (line : Nat) (lastLine : Option Nat) :
    Nat → Nat → RleSt → RleSt
  | 0, _, st => st
  | todo + 1, i, st =>
    let pixel := inPixel d inData (some line) i width st.lastPixel
    let ypixel := inPixel d inData lastLine i width st.lastYpixel
    lineLoop d inData width line lastLine todo (i + 1)
      (pixelStep d ⟨lastLine.isNone, pixel, ypixel⟩ st)

/-- "can't take fix, mix, or fom past first line". -/
def endFirstLine (d : Depth) (st : RleSt) : RleSt := ((st.endFill d).endMix d).endFom d

/-- No run is long enough to keep the output below the limit. -/
def overLimit (d : Depth) (base : Nat) (byteLimit : Int) (st : RleSt) : Bool :=
  let i : Int := base + st.s.length + st.count * d.bytes
  i - st.colorCount * d.bytes ≥ byteLimit && i - st.bicolorCount * d.bytes ≥ byteLimit &&
    i - st.fillCount * d.bytes ≥ byteLimit && i - st.mixCount * d.bytes ≥ byteLimit &&
    i - st.fomCount * d.bytes ≥ byteLimit

/-- `while (start_line >= 0 && out_count <= BC_MAX_BYTES)`: `todo` is `start_line + 1`, `base` is
`s->p - s->data` at the call.  The result counts the lines sent. -/
def imageLoop (d : Depth) (inData : Nat → UInt8) (width endX base : Nat) (byteLimit : Int) :
    Nat → Nat → Option Nat → RleSt → Nat × RleSt
  | 0, _, _, st => (0, st)
  | todo + 1, outCount, lastLine, st =>
    if outCount > BC_MAX_BYTES then (0, st)
    else if overLimit d base byteLimit st then (0, st)
    else
      let line := width * todo * d.inBytes
      let st := lineLoop d inData width line lastLine endX 0 st
      let st := if lastLine.isNone then endFirstLine d st else st
      let (lines, st) := imageLoop d inData width endX base byteLimit todo
        (outCount + endX * d.bytes) (some line) st
      (lines + 1, st)

/-- What is pending after the last line goes out. -/
def finish (d : Depth) (st : RleSt) : RleSt :=
  if st.fillWins then st.flushFill d
  else if st.mixWins then st.flushMix d
  else if st.colorWins then st.flushColor d
  else if st.bicolorWins then
    -- the source repeats the flush with what is left of `count` and `bicolor_count`: nothing
    let st := st.flushBicolor d
    { st.flush d st.bicolorCount
        (outBicolorCount d st.bicolorCount st.bicolor1 st.bicolor2) with bicolorCount := 0 }
  else if st.fomWins then st.flushFom d
  else st.flush d 0 []

/-- `xrdp_bitmap_compress`: the lines sent and the bytes appended to `s`. -/
def xrdpBitmapCompress (inData : Nat → UInt8) (width : Nat) (d : Depth) (base : Nat)
    (byteLimit startLine : Int) (e : Nat) : Nat × List UInt8 :=
  let endX := width + e
  let r := imageLoop d inData width endX base byteLimit (startLine + 1).toNat (endX * d.bytes)
    none RleSt.init
  (r.1, (finish d r.2).s)

end Xrdp.Bitmap
