import Xrdp.Lib.Wire
import Xrdp.Bitmap.Planar

/-!
# The planar stream

A decoder for RDP 6.0 planar bitmaps: the format header, raw planes, run-length planes with
differences from the line above, and the two color spaces a header can announce.

* `decodeRow`, `decodePlane`, `planarDecode` — the decoder.
* `undelta_deltaOne` — the compressor's differences are undone.
* `RowReads` — what a piece of a packed line decodes to; `RowReads.append`, `RowReads.segment`.
-/

namespace Xrdp.Bitmap

open Wire

/-! ## Planes -/

/-- Raw bytes and run of a segment's control byte: lengths from 16 on have no raw bytes. -/
def controlByte (b : Nat) : Nat × Nat :=
  if b % 16 = 1 then (0, b / 16 + 16)
  else if b % 16 = 2 then (0, b / 16 + 32)
  else (b / 16, b % 16)

/-- A row of `n` more bytes; `last` is the byte that a run without raw bytes repeats. -/
def decodeRow (n : Nat) (last : UInt8) (bs : List UInt8) : Option (List UInt8 × List UInt8) :=
  if n = 0 then some ([], bs)
  else match bs with
    | [] => none
    | control :: bs =>
      let raw := (controlByte control.toNat).1
      let run := (controlByte control.toNat).2
      if _h : 0 < raw + run ∧ raw + run ≤ n then
        (getBytes raw bs).bind fun (block, bs) =>
          let last := block.getLastD last
          (decodeRow (n - (raw + run)) last bs).map fun (row, bs) =>
            (block ++ List.replicate run last ++ row, bs)
      else none
  termination_by n
  decreasing_by omega

/-- `height` rows, each from a previous byte of zero. -/
def decodeRows (width : Nat) : Nat → List UInt8 → Option (List (List UInt8) × List UInt8)
  | 0, bs => some ([], bs)
  | height + 1, bs =>
    (decodeRow width 0 bs).bind fun (row, bs) =>
      (decodeRows width height bs).map fun (rows, bs) => (row :: rows, bs)

/-- A difference, sign folded into the lowest bit, added to the byte above. -/
def undelta (above delta : UInt8) : UInt8 :=
  if delta &&& 1 = 0 then above + (delta >>> 1) else above - ((delta >>> 1) + 1)

/-- The rows of a plane from its first row and the differences below. -/
def undeltaRows : List UInt8 → List (List UInt8) → List (List UInt8)
  | _, [] => []
  | above, delta :: rows =>
    let row := List.zipWith undelta above delta
    row :: undeltaRows row rows

/-- One plane, row after row. -/
def decodePlane (rle : Bool) (width height : Nat) (bs : List UInt8) :
    Option (List UInt8 × List UInt8) :=
  if rle then
    (decodeRows width height bs).map fun (rows, bs) =>
      match rows with
      | [] => ([], bs)
      | first :: rows => (first ++ (undeltaRows first rows).flatten, bs)
  else getBytes (width * height) bs

/-! ## Pixels -/

structure Argb where
  a : Option UInt8
  r : UInt8
  g : UInt8
  b : UInt8
  deriving DecidableEq, Repr

/-- A signed byte of chroma, `cll - 1` bits up. -/
def chroma (cll : Nat) (v : UInt8) : Int := (v <<< UInt8.ofNat (cll - 1)).toInt8.toInt

def clip (v : Int) : UInt8 := UInt8.ofNat (min 255 v.toNat)

/-- Luma, orange and green chroma to red, green, blue. -/
def fromYCoCg (cll : Nat) (a : Option UInt8) (y co cg : UInt8) : Argb :=
  let t := (y.toNat : Int) - chroma cll cg
  { a, r := clip (t + chroma cll co), g := clip (y.toNat + chroma cll cg)
    b := clip (t - chroma cll co) }

/-- **The decoder**: the pixels of a `width * height` bitmap, row after row.  A bitmap of no rows
reads nothing. -/
def planarDecode (width height : Nat) : List UInt8 → Option (List Argb)
  | [] => if height = 0 then some [] else none
  | header :: bs =>
    if height = 0 then some []
    else
      let cll := header.toNat % 8
      let cs := header.toNat.testBit 3
      let rle := header.toNat.testBit 4
      let noAlpha := header.toNat.testBit 5
      -- subsampled chroma needs a color space with chroma
      if cs ∧ cll = 0 then none
      else
        let cw := if cs then (width + 1) / 2 else width
        let ch := if cs then (height + 1) / 2 else height
        (if noAlpha then some (none, bs)
          else (decodePlane rle width height bs).map fun (p, bs) => (some p, bs)).bind
        fun (alpha, bs) => (decodePlane rle width height bs).bind
        fun (plane0, bs) => (decodePlane rle cw ch bs).bind
        fun (plane1, bs) => (decodePlane rle cw ch bs).map
        fun (plane2, _) => (List.range (width * height)).map fun i =>
          let j := if cs then i / width / 2 * cw + i % width / 2 else i
          let a := alpha.map fun p => p.getD i 0
          if cll = 0 then ⟨a, plane0.getD i 0, plane1.getD j 0, plane2.getD j 0⟩
          else fromYCoCg cll a (plane0.getD i 0) (plane1.getD j 0) (plane2.getD j 0)

/-! ## Differences are undone -/

theorem undelta_deltaOne (above below : UInt8) : undelta above (deltaOne above below) = below := by
  have h : ∀ delta : UInt8,
      let isNeg := (delta >>> 7) &&& 1
      let v := (((delta ^^^ (0 - isNeg)) + isNeg) <<< 1) - isNeg
      (v &&& 1 = 0 → v >>> 1 = delta) ∧ (v &&& 1 ≠ 0 → (v >>> 1) + 1 = 0 - delta) := by
    decide +kernel
  obtain ⟨h0, h1⟩ := h (below - above)
  unfold undelta deltaOne
  split
  · rename_i he
    rw [h0 he]
    grind
  · rename_i he
    rw [h1 he]
    grind

/-- Differences of neighbouring rows are undone row by row. -/
theorem undeltaRows_zipWith (first : List UInt8) (rows : List (List UInt8))
    (hlen : ∀ row ∈ rows, row.length = first.length) :
    undeltaRows first (List.zipWith (List.zipWith deltaOne) (first :: rows) rows) = rows := by
  induction rows generalizing first with
  | nil => rfl
  | cons row rows ih =>
    obtain ⟨hrow, hrows⟩ := List.forall_mem_cons.1 hlen
    have hz : List.zipWith undelta first (List.zipWith deltaOne first row) = row := by
      apply List.ext_getElem
      · simp [hrow]
      · intro i h1 h2
        simp [undelta_deltaOne]
    rw [List.zipWith_cons_cons, undeltaRows]
    simp only [hz]
    rw [ih row fun r hr => (hrows r hr).trans hrow.symm]

/-! ## Packed lines -/

/-- The bytes `bs` are `part` of a row whose last byte was `last`, whatever follows them; `last'`
is the last byte behind them. -/
def RowReads (last : UInt8) (bs part : List UInt8) (last' : UInt8) : Prop :=
  ∀ n rest, decodeRow (part.length + n) last (bs ++ rest) =
    (decodeRow n last' rest).map fun (row, tail) => (part ++ row, tail)

theorem RowReads.nil (last : UInt8) : RowReads last [] [] last := by
  intro n rest
  rw [List.length_nil, Nat.zero_add, List.nil_append]
  cases decodeRow n last rest <;> rfl

theorem RowReads.append {l l' l'' : UInt8} {bs cs part part' : List UInt8}
    (h : RowReads l bs part l') (h' : RowReads l' cs part' l'') :
    RowReads l (bs ++ cs) (part ++ part') l'' := by
  intro n rest
  rw [List.length_append, Nat.add_assoc, List.append_assoc, h, h']
  cases decodeRow n l'' rest with
  | none => rfl
  | some r => simp

/-- One segment. -/
theorem RowReads.segment {last v : UInt8} {control raw run : Nat} {block : List UInt8}
    (hc : control < 256) (hcb : controlByte control = (raw, run)) (hb : block.length = raw)
    (hpos : 0 < raw + run) (hv : block.getLastD last = v) :
    RowReads last (UInt8.ofNat control :: block) (block ++ List.replicate run v) v := by
  intro n rest
  have hbyte : (UInt8.ofNat control).toNat = control := by
    rw [UInt8.toNat_ofNat', Nat.mod_eq_of_lt hc]
  have hlen : (block ++ List.replicate run v).length = raw + run := by simp [hb]
  rw [hlen, decodeRow.eq_def, if_neg (by omega), List.cons_append]
  simp only [hbyte, hcb]
  rw [dif_pos ⟨hpos, by omega⟩, getBytes_append hb, Option.bind_some]
  simp only [hv, Nat.add_sub_cancel_left]

end Xrdp.Bitmap
