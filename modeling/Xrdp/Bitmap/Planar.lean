import Xrdp.Memory

/-!
# The planar compressor (`libxrdp/xrdp_bitmap32_compress.c`)

`xrdp_bitmap32_compress` splits 32-bit pixels into planes of bytes, takes differences between
lines, packs each line of each plane into segments of raw bytes and runs, and lowers the number of
lines until the result fits.  The planes live in one work buffer, `temp_s`, 4096 bytes apart;
`fsplit` writes as many bytes into each as a line has.

`fsplit3` and `fsplit4` differ in the planes they fill, and the two halves of the main function in
the planes they handle, so both are one definition over a list of planes.
-/

namespace Xrdp.Bitmap

def FLAGS_RLE : Nat := 0x10
def FLAGS_NOALPHA : Nat := 0x20

/-- `max_bytes = 4 * 1024`, the distance of the planes in `temp_s`. -/
def PLANE_BYTES : Nat := 4 * 1024

/-- A plane: where its bytes and its line differences are in `temp_s`, and which byte of a pixel it
takes. -/
structure Plane where
  sData : Nat
  data : Nat
  shift : Nat
  deriving DecidableEq, Repr

def aPlane : Plane := ⟨0, 4 * PLANE_BYTES, 24⟩
def rPlane : Plane := ⟨PLANE_BYTES, 5 * PLANE_BYTES, 16⟩
def gPlane : Plane := ⟨2 * PLANE_BYTES, 6 * PLANE_BYTES, 8⟩
def bPlane : Plane := ⟨3 * PLANE_BYTES, 7 * PLANE_BYTES, 0⟩

/-- The planes in the order they are sent. -/
def planesOf (noAlpha : Bool) : List Plane :=
  if noAlpha then [rPlane, gPlane, bPlane] else [aPlane, rPlane, gPlane, bPlane]

/-! ## Splitting -/

/-- `*ptr32` at pixel `x` of the line that starts at byte `line`. -/
def pixel32 (inData : Nat → UInt8) (line x : Nat) : Nat :=
  (inData (line + 4 * x)).toNat + 256 * (inData (line + 4 * x + 1)).toNat +
    65536 * (inData (line + 4 * x + 2)).toNat + 16777216 * (inData (line + 4 * x + 3)).toNat

/-- The byte of a pixel that goes to a plane. -/
def planeByte (shift pixel : Nat) : UInt8 := UInt8.ofNat (pixel >>> shift)

/-- The bytes of some neighbouring pixels, to all planes. -/
def storePixels (planes : List Plane) (outIndex : Nat) (pixels : List Nat) (buf : Buf UInt8) :
    Run (Buf UInt8) :=
  planes.foldlM
    (fun buf p => buf.memcpy (p.sData + outIndex) (pixels.map (planeByte p.shift))) buf

/-- `while (index + 4 <= width)`, four pixels at a time, then `while (index < width)`; `todo`
pixels are left from `index` on. -/
def splitLine (inData : Nat → UInt8) (line : Nat) (planes : List Plane) :
    Nat → Nat → Nat → Buf UInt8 → Run (Buf UInt8)
  | 0, _, _, buf => .ok buf
  | todo + 4, index, outIndex, buf => do
    let buf ← storePixels planes outIndex
      ((List.range 4).map fun k => pixel32 inData line (index + k)) buf
    splitLine inData line planes todo (index + 4) (outIndex + 4) buf
  | todo + 1, index, outIndex, buf => do
    let buf ← storePixels planes outIndex [pixel32 inData line index] buf
    splitLine inData line planes todo (index + 1) (outIndex + 1) buf

/-- `p[out_index] = p[out_index - 1]`; the first plane has no byte before it. -/
def padByte (outIndex : Nat) (buf : Buf UInt8) (p : Plane) : Run (Buf UInt8) :=
  match p.sData + outIndex with
  | 0 => .error .outOfBounds
  | i + 1 => do buf.write (i + 1) (← buf.read i)

/-- `for (index = 0; index < e; index++)`: the last byte of each plane again. -/
def padLine (planes : List Plane) : Nat → Nat → Buf UInt8 → Run (Buf UInt8)
  | 0, _, buf => .ok buf
  | e + 1, outIndex, buf => do
    let buf ← planes.foldlM (padByte outIndex) buf
    padLine planes e (outIndex + 1) buf

/-- `fsplit3`, `fsplit4`: `while (start_line >= 0)` with `todo = start_line + 1`, until the next
line would not fit 64 * 64 bytes. -/
def fsplit (inData : Nat → UInt8) (width e : Nat) (planes : List Plane) :
    Nat → Nat → Nat → Buf UInt8 → Run (Nat × Buf UInt8)
  | 0, _, cy, buf => .ok (cy, buf)
  | todo + 1, outIndex, cy, buf => do
    let buf ← splitLine inData (todo * width * 4) planes width 0 outIndex buf
    let buf ← padLine planes e (outIndex + width) buf
    if outIndex + (width + e) + width + e > 64 * 64 then return (cy + 1, buf)
    else fsplit inData width e planes todo (outIndex + (width + e)) (cy + 1) buf

/-! ## Differences between lines -/

/-- `DELTA_ONE` on the two bytes it reads. -/
def deltaOne (above below : UInt8) : UInt8 :=
  let delta := below - above
  let isNeg := (delta >>> 7) &&& 1
  (((delta ^^^ (0 - isNeg)) + isNeg) <<< 1) - isNeg

/-- The `DELTA_ONE` loops, one byte after the other. -/
def deltaLoop (cx inPlane outPlane : Nat) : Nat → Nat → Buf UInt8 → Run (Buf UInt8)
  | 0, _, buf => .ok buf
  | todo + 1, k, buf => do
    let above ← buf.read (inPlane + k)
    let below ← buf.read (inPlane + k + cx)
    let buf ← buf.write (outPlane + k + cx) (deltaOne above below)
    deltaLoop cx inPlane outPlane todo (k + 1) buf

/-- `b[off] … b[off + n - 1]`. -/
def readBytes (buf : Buf UInt8) (off n : Nat) : Run (List UInt8) :=
  if off + n ≤ buf.size then .ok ((List.range n).map fun i => buf.cells (off + i))
  else .error .outOfBounds

/-- `fdelta`. -/
def fdelta (inPlane outPlane cx cy : Nat) (buf : Buf UInt8) : Run (Buf UInt8) := do
  let firstLine ← readBytes buf inPlane cx
  let buf ← buf.memcpy outPlane firstLine
  deltaLoop cx inPlane outPlane (cx * cy - cx) 0 buf

/-! ## Segments -/

/-- `while (collen > 13)`: raw bytes only; the bytes written, what is left of `collen` and of the
bytes at `colptr`. -/
def foutRaw : Nat → Nat → List UInt8 → List UInt8 × Nat × List UInt8
  | 0, collen, col => ([], collen, col)
  | fuel + 1, collen, col =>
    if collen > 13 then
      let lcollen := min collen 15
      let (out, collen', col') := foutRaw fuel (collen - lcollen) (col.drop lcollen)
      (UInt8.ofNat (lcollen <<< 4) :: (col.take lcollen ++ out), collen', col')
    else ([], collen, col)

/-- The second loop of `fout`.  `collen` is zero after the first round, so that
`(collen > 0) || (replen > 0)` is the condition of every round. -/
def foutRun : Nat → Nat → Nat → List UInt8 → List UInt8
  | 0, _, _, _ => []
  | fuel + 1, collen, replen, col =>
    if collen = 0 ∧ replen = 0 then []
    else if collen = 0 ∧ replen > 15 then
      let lreplen := min replen 47
      UInt8.ofNat (((lreplen &&& 0xF) <<< 4) ||| ((lreplen &&& 0xF0) >>> 4)) ::
        foutRun fuel 0 (replen - lreplen) (col.drop lreplen)
    else
      let l := min replen 15
      let collen := if l < 3 then collen + l else collen
      let lreplen := if l < 3 then 0 else l
      UInt8.ofNat ((collen <<< 4) ||| lreplen) ::
        (col.take collen ++ foutRun fuel 0 (replen - l) (col.drop (collen + lreplen)))

/-- `fout`: `collen` raw bytes at `colptr`, then `replen` more bytes equal to the last. -/
def fout (collen replen : Nat) (colptr : List UInt8) : List UInt8 :=
  let (out, collen, col) := foutRaw collen collen colptr
  out ++ foutRun (replen + 1) collen replen col

/-- `while (ptr8 < lend)`: `cur` is `ptr8[0]`, the list argument what follows it. -/
def packLoop (colptr : List UInt8) (collen replen : Nat) (cur : UInt8) :
    List UInt8 → List UInt8
  | [] => fout collen replen colptr
  | next :: rest =>
    if cur = next then packLoop colptr collen (replen + 1) next rest
    else if replen > 0 then
      if replen < 3 then packLoop colptr (collen + (replen + 1)) 0 next rest
      else fout collen replen colptr ++ packLoop (next :: rest) 1 0 next rest
    else packLoop colptr (collen + 1) replen next rest

/-- One line of `fpack`: `colptr[0]` and what follows it up to `lend`. -/
def packLine (b : UInt8) (rest : List UInt8) : List UInt8 :=
  if b = 0 then packLoop (b :: rest) 0 1 b rest else packLoop (b :: rest) 1 0 b rest

/-- `fpack`. -/
def fpack (buf : Buf UInt8) (plane cx cy : Nat) : Run (List UInt8) := do
  let lines ← (List.range cy).mapM fun jndex => do
    let b ← buf.read (plane + jndex * cx)
    return packLine b (← readBytes buf (plane + jndex * cx + 1) (cx - 1))
  return lines.flatten

/-! ## One call -/

/-- `foutraw3`, `foutraw4`. -/
def foutraw (buf : Buf UInt8) (bytes header : Nat) (planes : List Plane) : Run (List UInt8) := do
  let raw ← planes.mapM fun p => readBytes buf p.sData bytes
  return UInt8.ofNat header :: (raw.flatten ++ [0])

/-- The header of raw planes. -/
def rawHeader (noAlpha : Bool) : Nat := if noAlpha then FLAGS_NOALPHA else 0

/-- `while (cy > 0)` with `FLAGS_RLE`.  What the last round wrote stays in `s` when nothing fits. -/
def rleLoop (buf : Buf UInt8) (cx header : Nat) (noAlpha : Bool) (byteLimit : Int) :
    Nat → List UInt8 → Run (Nat × List UInt8)
  | 0, s => .ok (0, s)
  | cy + 1, _ => do
    let planes := planesOf noAlpha
    let packed ← planes.mapM fun p => fpack buf p.data cx (cy + 1)
    let maxBytes := cx * (cy + 1) * planes.length
    let totalBytes := packed.flatten.length
    let s := UInt8.ofNat header :: packed.flatten
    if totalBytes > maxBytes ∧ (2 : Int) + maxBytes ≤ byteLimit then
      return (cy + 1, ← foutraw buf (cx * (cy + 1)) (rawHeader noAlpha) planes)
    else if (1 : Int) + totalBytes ≤ byteLimit then return (cy + 1, s)
    else rleLoop buf cx header noAlpha byteLimit cy s

/-- `while (cy > 0)` without. -/
def rawLoop (buf : Buf UInt8) (cx : Nat) (noAlpha : Bool) (byteLimit : Int) :
    Nat → Run (Nat × List UInt8)
  | 0 => .ok (0, [])
  | cy + 1 => do
    let planes := planesOf noAlpha
    if (2 : Int) + (cx * (cy + 1) * planes.length : Nat) ≤ byteLimit then
      return (cy + 1, ← foutraw buf (cx * (cy + 1)) (rawHeader noAlpha) planes)
    else rawLoop buf cx noAlpha byteLimit cy

/-- `xrdp_bitmap32_compress`: the lines and the bytes appended to `s`. -/
def xrdpBitmap32Compress (inData : Nat → UInt8) (width : Nat) (byteLimit startLine : Int)
    (tempS : Buf UInt8) (e flags : Nat) : Run (Nat × List UInt8) :=
  if PLANE_BYTES * 8 > tempS.size then return (0, [])
  else do
    let header := flags &&& 0xFF
    let cx := width + e
    let noAlpha := header &&& FLAGS_NOALPHA ≠ 0
    let planes := planesOf noAlpha
    let (cy, buf) ← fsplit inData width e planes (startLine + 1).toNat 0 0 tempS
    if header &&& FLAGS_RLE ≠ 0 then
      let buf ← planes.foldlM (fun buf p => fdelta p.sData p.data cx cy buf) buf
      rleLoop buf cx header noAlpha byteLimit cy []
    else rawLoop buf cx noAlpha byteLimit cy

end Xrdp.Bitmap
