import Xrdp.Bitmap.Rle

/-!
# The interleaved RLE stream

A decoder for RDP interleaved RLE: order headers with short, long and mega forms, the remembered
foreground pel, the pel inserted between two background runs, and the change from the first line
to the others, which is noticed between orders only.

* `RleOrder`, `parseOrder` — the orders and their syntax.
* `RleOrder.pens`, `DecSt.apply` — an order writes pixels with pens: the background (the pixel
  above, or black), the foreground, or a color of its own.
* `parseHeader_runHeader` and its kin — the compressor's headers are read back.
* `writePens_range` — pens that are right about an image write it.
-/

namespace Xrdp.Bitmap

open Wire

/-! ## Orders -/

/-- What an order header says besides the length. -/
inductive RleCode where
  | bgRun
  | fgRun
  | fgBgImage
  | colorRun
  | colorImage
  | setFgRun
  | setFgBgImage
  | ditheredRun
  | fgBg1
  | fgBg2
  | white
  | black
  deriving DecidableEq, Repr

inductive RleOrder where
  | bgRun (n : Nat)
  | fgRun (setFg : Option Nat) (n : Nat)
  | fgBgImage (setFg : Option Nat) (n : Nat) (masks : List UInt8)
  | colorRun (n pixel : Nat)
  | colorImage (pixels : List Nat)
  | ditheredRun (n pixelA pixelB : Nat)
  deriving DecidableEq, Repr

/-- The white of the palette or the color depth. -/
def Depth.white : Depth → Nat
  | .bpp8 => 0xff
  | .bpp15 => 0x7fff
  | .bpp16 => 0xffff
  | .bpp24 => 0xffffff

/-! ## Syntax -/

/-- The length in the low `2 ^ k` part of the header byte, else in the next byte behind `base`. -/
def runLength (low base : Nat) (b : Nat) (bs : List UInt8) : Option (Nat × List UInt8) :=
  if b % low = 0 then (getLe 1 bs).map fun (v, rest) => (v + base, rest) else some (b % low, bs)

/-- The same for mask images, whose short lengths count bytes of mask. -/
def imageLength (low : Nat) (b : Nat) (bs : List UInt8) : Option (Nat × List UInt8) :=
  if b % low = 0 then (getLe 1 bs).map fun (v, rest) => (v + 1, rest)
  else some (8 * (b % low), bs)

def withCode (code : RleCode) (r : Option (Nat × List UInt8)) :
    Option (RleCode × Nat × List UInt8) :=
  r.map fun (n, rest) => (code, n, rest)

/-- The order code, the run length and what follows the header. -/
def parseHeader : List UInt8 → Option (RleCode × Nat × List UInt8)
  | [] => none
  | byte :: bs =>
    let b := byte.toNat
    if b < 0x20 then withCode .bgRun (runLength 32 32 b bs)
    else if b < 0x40 then withCode .fgRun (runLength 32 32 b bs)
    else if b < 0x60 then withCode .fgBgImage (imageLength 32 b bs)
    else if b < 0x80 then withCode .colorRun (runLength 32 32 b bs)
    else if b < 0xa0 then withCode .colorImage (runLength 32 32 b bs)
    else if b < 0xc0 then none
    else if b < 0xd0 then withCode .setFgRun (runLength 16 16 b bs)
    else if b < 0xe0 then withCode .setFgBgImage (imageLength 16 b bs)
    else if b < 0xf0 then withCode .ditheredRun (runLength 16 16 b bs)
    else match b - 0xf0 with
      | 0 => withCode .bgRun (getLe 2 bs)
      | 1 => withCode .fgRun (getLe 2 bs)
      | 2 => withCode .fgBgImage (getLe 2 bs)
      | 3 => withCode .colorRun (getLe 2 bs)
      | 4 => withCode .colorImage (getLe 2 bs)
      | 6 => withCode .setFgRun (getLe 2 bs)
      | 7 => withCode .setFgBgImage (getLe 2 bs)
      | 8 => withCode .ditheredRun (getLe 2 bs)
      | 9 => some (.fgBg1, 8, bs)
      | 10 => some (.fgBg2, 8, bs)
      | 13 => some (.white, 1, bs)
      | 14 => some (.black, 1, bs)
      | _ => none

/-- One pixel off the front. -/
def readPixel (d : Depth) (bs : List UInt8) : Option (Nat × List UInt8) := getLe d.bytes bs

def readPixels (d : Depth) : Nat → List UInt8 → Option (List Nat × List UInt8)
  | 0, bs => some ([], bs)
  | n + 1, bs => do
    let (p, bs) ← readPixel d bs
    let (ps, bs) ← readPixels d n bs
    return (p :: ps, bs)

/-- One order off the front. -/
def parseOrder (d : Depth) (bs : List UInt8) : Option (RleOrder × List UInt8) := do
  let (code, n, bs) ← parseHeader bs
  match code with
  | .bgRun => return (.bgRun n, bs)
  | .fgRun => return (.fgRun none n, bs)
  | .fgBgImage =>
    let (masks, bs) ← getBytes ((n + 7) / 8) bs
    return (.fgBgImage none n masks, bs)
  | .colorRun =>
    let (p, bs) ← readPixel d bs
    return (.colorRun n p, bs)
  | .colorImage =>
    let (ps, bs) ← readPixels d n bs
    return (.colorImage ps, bs)
  | .setFgRun =>
    let (fg, bs) ← readPixel d bs
    return (.fgRun (some fg) n, bs)
  | .setFgBgImage =>
    let (fg, bs) ← readPixel d bs
    let (masks, bs) ← getBytes ((n + 7) / 8) bs
    return (.fgBgImage (some fg) n masks, bs)
  | .ditheredRun =>
    let (a, bs) ← readPixel d bs
    let (b, bs) ← readPixel d bs
    return (.ditheredRun n a b, bs)
  | .fgBg1 => return (.fgBgImage none n [0x03], bs)
  | .fgBg2 => return (.fgBgImage none n [0x05], bs)
  | .white => return (.colorRun 1 d.white, bs)
  | .black => return (.colorRun 1 0, bs)

/-! ## What orders write -/

/-- How one pixel is chosen. -/
inductive Pen where
  | bg
  | fg
  | color (pixel : Nat)
  deriving DecidableEq, Repr

structure DecSt where
  out : List Nat
  fgPel : Nat
  insertFg : Bool
  firstLine : Bool

def DecSt.initial (d : Depth) : DecSt :=
  { out := [], fgPel := d.white, insertFg := false, firstLine := true }

/-- Between orders: the first line ends, and with it the pending foreground pel. -/
def DecSt.startOrder (rowDelta : Nat) (st : DecSt) : DecSt :=
  if st.firstLine && rowDelta ≤ st.out.length then
    { st with firstLine := false, insertFg := false }
  else st

/-- The pixel a pen writes behind `out`. -/
def Pen.pixel (rowDelta fgPel : Nat) (firstLine : Bool) (out : List Nat) : Pen → Nat
  | .bg => if firstLine then 0 else out.getD (out.length - rowDelta) 0
  | .fg => if firstLine then fgPel else out.getD (out.length - rowDelta) 0 ^^^ fgPel
  | .color p => p

def writePens (rowDelta fgPel : Nat) (firstLine : Bool) : List Nat → List Pen → List Nat
  | out, [] => out
  | out, pen :: pens =>
    writePens rowDelta fgPel firstLine (out ++ [pen.pixel rowDelta fgPel firstLine out]) pens

/-- Bit `i` of a mask image. -/
def maskBit (masks : List UInt8) (i : Nat) : Bool := (masks.getD (i / 8) 0).toNat.testBit (i % 8)

/-- The pens of an order; `insertFg` is the decoder's pending foreground pel. -/
def RleOrder.pens (insertFg : Bool) : RleOrder → List Pen
  | .bgRun n => if insertFg then .fg :: List.replicate (n - 1) .bg else List.replicate n .bg
  | .fgRun _ n => List.replicate n .fg
  | .fgBgImage _ n masks => (List.range n).map fun i => if maskBit masks i then .fg else .bg
  | .colorRun n p => List.replicate n (.color p)
  | .colorImage ps => ps.map .color
  | .ditheredRun n a b => (List.range (2 * n)).map fun i => .color (if i % 2 = 0 then a else b)

/-- The foreground pel after an order. -/
def RleOrder.newFg (fgPel : Nat) : RleOrder → Nat
  | .fgRun (some fg) _ => fg
  | .fgBgImage (some fg) _ _ => fg
  | _ => fgPel

def RleOrder.isBgRun : RleOrder → Bool
  | .bgRun _ => true
  | _ => false

/-- One order. -/
def DecSt.apply (rowDelta : Nat) (st : DecSt) (o : RleOrder) : DecSt :=
  let st := st.startOrder rowDelta
  let fgPel := o.newFg st.fgPel
  { st with
    out := writePens rowDelta fgPel st.firstLine st.out (o.pens st.insertFg)
    fgPel
    insertFg := o.isBgRun }

/-- The orders of a stream, to its end. -/
def parseOrders (d : Depth) : Nat → List UInt8 → Option (List RleOrder)
  | _, [] => some []
  | 0, _ :: _ => none
  | fuel + 1, b :: bs => do
    let (o, rest) ← parseOrder d (b :: bs)
    let os ← parseOrders d fuel rest
    return o :: os

/-- **The decoder**: the pixels of a stream whose lines are `rowDelta` wide. -/
def rleDecode (d : Depth) (rowDelta : Nat) (bs : List UInt8) : Option (List Nat) :=
  (parseOrders d bs.length bs).map fun os =>
    (os.foldl (DecSt.apply rowDelta) (DecSt.initial d)).out

/-! ## The compressor's headers are read back -/

theorem byte_toNat {v : Nat} (h : v < 256) : (UInt8.ofNat v).toNat = v := by
  rw [UInt8.toNat_ofNat', Nat.mod_eq_of_lt h]

theorem leBytes_one (v : Nat) : leBytes 1 v = [UInt8.ofNat v] := rfl

theorem getLe_two {n : Nat} (hn : n < 65536) (rest : List UInt8) :
    getLe 2 (leBytes 2 n ++ rest) = some (n, rest) := by
  rw [getLe_leBytes, Nat.mod_eq_of_lt (by omega)]

/-- The codes of runs and copies in `runHeader`. -/
def runCode : Nat → RleCode
  | 0 => .bgRun
  | 1 => .fgRun
  | 3 => .colorRun
  | _ => .colorImage

theorem parseHeader_regular {code b : Nat} (hc : code = 0 ∨ code = 1 ∨ code = 3 ∨ code = 4)
    (hb : b / 32 = code) (bs : List UInt8) :
    parseHeader (UInt8.ofNat b :: bs) = withCode (runCode code) (runLength 32 32 b bs) := by
  have hbyte : (UInt8.ofNat b).toNat = b := byte_toNat (by omega)
  unfold parseHeader
  simp only [hbyte]
  rcases hc with rfl | rfl | rfl | rfl
  · rw [if_pos (by omega)]; rfl
  · rw [if_neg (by omega), if_pos (by omega)]; rfl
  · rw [if_neg (by omega), if_neg (by omega), if_neg (by omega), if_pos (by omega)]; rfl
  · rw [if_neg (by omega), if_neg (by omega), if_neg (by omega), if_neg (by omega),
      if_pos (by omega)]
    rfl

theorem parseHeader_runHeader {code n : Nat} (hc : code = 0 ∨ code = 1 ∨ code = 3 ∨ code = 4)
    (h1 : 1 ≤ n) (hn : n < 65536) (rest : List UInt8) :
    parseHeader (runHeader code n ++ rest) = some (runCode code, n, rest) := by
  have hsh : code <<< 5 = 32 * code := by rw [Nat.shiftLeft_eq]; omega
  unfold runHeader
  by_cases h32 : n < 32
  · have hor : code <<< 5 ||| n = 32 * code + n := by
      rw [← Nat.shiftLeft_add_eq_or_of_lt (by omega : n < 2 ^ 5), hsh]
    rw [if_pos h32, hor, leBytes_one, List.singleton_append,
      parseHeader_regular hc (by omega), runLength, if_neg (by omega)]
    simp only [withCode, Option.map_some]
    congr 3
    omega
  rw [if_neg h32]
  by_cases h288 : n < 256 + 32
  · rw [if_pos h288, hsh, leBytes_one, List.append_assoc, List.singleton_append,
      parseHeader_regular hc (by omega), runLength, if_pos (by omega), getLe_leBytes]
    simp only [withCode, Option.map_some]
    congr 3
    omega
  · rw [if_neg h288, leBytes_one, List.append_assoc, List.singleton_append]
    rcases hc with rfl | rfl | rfl | rfl
    · exact congrArg (withCode .bgRun) (getLe_two hn rest)
    · exact congrArg (withCode .fgRun) (getLe_two hn rest)
    · exact congrArg (withCode .colorRun) (getLe_two hn rest)
    · exact congrArg (withCode .colorImage) (getLe_two hn rest)

theorem parseHeader_fom {n : Nat} (h1 : 1 ≤ n) (hn : n < 65536) (rest : List UInt8) :
    parseHeader ((if n % 8 = 0 ∧ n < 249 then leBytes 1 (0x2 <<< 5 ||| n / 8)
      else if n < 256 then leBytes 1 0x40 ++ leBytes 1 (n - 1)
      else leBytes 1 0xf2 ++ leBytes 2 n) ++ rest) = some (.fgBgImage, n, rest) := by
  have himage : ∀ {b : Nat}, b / 32 = 2 → ∀ bs, parseHeader (UInt8.ofNat b :: bs) =
      withCode .fgBgImage (imageLength 32 b bs) := by
    intro b hb bs
    have hbyte : (UInt8.ofNat b).toNat = b := byte_toNat (by omega)
    unfold parseHeader
    simp only [hbyte]
    rw [if_neg (by omega), if_neg (by omega), if_pos (by omega)]
  split
  · rename_i h
    have hor : 0x2 <<< 5 ||| n / 8 = 64 + n / 8 :=
      (Nat.shiftLeft_add_eq_or_of_lt (by omega : n / 8 < 2 ^ 5) 2).symm
    rw [hor, leBytes_one, List.singleton_append, himage (by omega), imageLength,
      if_neg (by omega)]
    simp only [withCode, Option.map_some]
    congr 3
    omega
  split
  · rw [leBytes_one, List.append_assoc, List.singleton_append, himage (by omega), imageLength,
      if_pos (by omega), getLe_leBytes]
    simp only [withCode, Option.map_some]
    congr 3
    omega
  · rw [leBytes_one, List.append_assoc, List.singleton_append]
    exact congrArg (withCode .fgBgImage) (getLe_two hn rest)

theorem parseHeader_bicolor {n : Nat} (h1 : 1 ≤ n) (hn : n < 65536) (rest : List UInt8) :
    parseHeader ((if n < 16 then leBytes 1 (0xe <<< 4 ||| n)
      else if n < 256 + 16 then leBytes 1 0xe0 ++ leBytes 1 (n - 16)
      else leBytes 1 0xf8 ++ leBytes 2 n) ++ rest) = some (.ditheredRun, n, rest) := by
  have hlite : ∀ {b : Nat}, b / 16 = 14 → ∀ bs, parseHeader (UInt8.ofNat b :: bs) =
      withCode .ditheredRun (runLength 16 16 b bs) := by
    intro b hb bs
    have hbyte : (UInt8.ofNat b).toNat = b := byte_toNat (by omega)
    unfold parseHeader
    simp only [hbyte]
    rw [if_neg (by omega), if_neg (by omega), if_neg (by omega), if_neg (by omega),
      if_neg (by omega), if_neg (by omega), if_neg (by omega), if_neg (by omega),
      if_pos (by omega)]
  split
  · have hor : 0xe <<< 4 ||| n = 224 + n :=
      (Nat.shiftLeft_add_eq_or_of_lt (by omega : n < 2 ^ 4) 0xe).symm
    rw [hor, leBytes_one, List.singleton_append, hlite (by omega), runLength, if_neg (by omega)]
    simp only [withCode, Option.map_some]
    congr 3
    omega
  split
  · rw [leBytes_one, List.append_assoc, List.singleton_append, hlite (by omega), runLength,
      if_pos (by omega), getLe_leBytes]
    simp only [withCode, Option.map_some]
    congr 3
    omega
  · rw [leBytes_one, List.append_assoc, List.singleton_append]
    exact congrArg (withCode .ditheredRun) (getLe_two hn rest)

/-! ## The compressor's orders are read back -/

/-- What a pixel is worth on the wire. -/
def wire (d : Depth) (pixel : Nat) : Nat := pixel % 256 ^ d.bytes

theorem readPixel_outPixel (d : Depth) (p : Nat) (rest : List UInt8) :
    readPixel d (outPixel d p ++ rest) = some (wire d p, rest) :=
  getLe_leBytes d.bytes p rest

theorem readPixels_outPixel (d : Depth) (ps : List Nat) (rest : List UInt8) :
    readPixels d ps.length (ps.flatMap (outPixel d) ++ rest) = some (ps.map (wire d), rest) := by
  induction ps with
  | nil => rfl
  | cons p ps ih =>
    rw [List.flatMap_cons, List.append_assoc, List.length_cons, readPixels, readPixel_outPixel,
      Option.bind_eq_bind, Option.bind_some]
    simp only [ih]
    rfl

/-- `bs` is one order, whatever follows it. -/
def Parses (d : Depth) (bs : List UInt8) (o : RleOrder) : Prop :=
  ∀ rest, parseOrder d (bs ++ rest) = some (o, rest)

theorem parses_fill (d : Depth) {n : Nat} (h1 : 1 ≤ n) (hn : n < 65536) :
    Parses d (outFillCount n) (.bgRun n) := by
  intro rest
  rw [outFillCount, if_pos (show n > 0 from h1), parseOrder, parseHeader_runHeader (.inl rfl) h1 hn]
  rfl

theorem parses_mix (d : Depth) {n : Nat} (h1 : 1 ≤ n) (hn : n < 65536) :
    Parses d (outMixCount n) (.fgRun none n) := by
  intro rest
  rw [outMixCount, if_pos (show n > 0 from h1), parseOrder, parseHeader_runHeader (.inr (.inl rfl)) h1 hn]
  rfl

theorem parses_color (d : Depth) {n p : Nat} (h1 : 1 ≤ n) (hn : n < 65536) :
    Parses d (outColorCount d n p) (.colorRun n (wire d p)) := by
  intro rest
  rw [outColorCount, if_pos (show n > 0 from h1), List.append_assoc, parseOrder,
    parseHeader_runHeader (.inr (.inr (.inl rfl))) h1 hn]
  simp only [runCode, Option.bind_eq_bind, Option.bind_some, readPixel_outPixel]
  rfl

theorem flatMap_outPixel_length (d : Depth) (ps : List Nat) :
    (ps.flatMap (outPixel d)).length = ps.length * d.bytes := by
  rw [List.length_flatMap]
  simp [outPixel_length]

/-- A copy order takes the first `n` of the pending pixels. -/
theorem parses_copy (d : Depth) {n : Nat} {ps qs : List Nat} (hp : ps.length = n) (h1 : 1 ≤ n)
    (hn : n < 65536) :
    Parses d (outCopyCount d n ((ps ++ qs).flatMap (outPixel d)))
      (.colorImage (ps.map (wire d))) := by
  intro rest
  have htake : ((ps ++ qs).flatMap (outPixel d)).take (n * d.bytes) = ps.flatMap (outPixel d) := by
    rw [List.flatMap_append, ← hp, ← flatMap_outPixel_length, List.take_left']
    rfl
  have hread := readPixels_outPixel d ps rest
  rw [hp] at hread
  rw [outCopyCount, if_pos (show n > 0 from h1), htake, List.append_assoc, parseOrder,
    parseHeader_runHeader (.inr (.inr (.inr rfl))) h1 hn]
  simp only [runCode, Option.bind_eq_bind, Option.bind_some, hread]
  rfl

theorem parses_bicolor (d : Depth) {n a b : Nat} (h1 : 1 ≤ n / 2) (hn : n < 65536) :
    Parses d (outBicolorCount d n a b) (.ditheredRun (n / 2) (wire d a) (wire d b)) := by
  intro rest
  rw [outBicolorCount, if_pos (by omega), List.append_assoc, parseOrder,
    parseHeader_bicolor h1 (by omega), Option.bind_eq_bind, Option.bind_some, List.append_assoc]
  simp only [readPixel_outPixel, Option.bind_eq_bind, Option.bind_some]
  rfl

theorem parses_fom (d : Depth) {n : Nat} {mask : List UInt8} (h1 : 1 ≤ n) (hn : n < 65536)
    (hm : mask.length = (n + 7) / 8) :
    Parses d (outFomCount n mask) (.fgBgImage none n mask) := by
  intro rest
  rw [outFomCount, if_pos (show n > 0 from h1), List.append_assoc, parseOrder, parseHeader_fom h1 hn,
    Option.bind_eq_bind, Option.bind_some]
  simp only [getBytes_append hm]
  rfl

theorem Parses.ne_nil {d : Depth} {bs : List UInt8} {o : RleOrder} (h : Parses d bs o) :
    bs ≠ [] := by
  rintro rfl
  have := h []
  cases this

/-- `bs` is the orders `os`, whatever follows it. -/
def Reads (d : Depth) (bs : List UInt8) (os : List RleOrder) : Prop :=
  os.length ≤ bs.length ∧ ∀ rest os' fuel, parseOrders d fuel rest = some os' →
    parseOrders d (fuel + os.length) (bs ++ rest) = some (os ++ os')

theorem Reads.nil (d : Depth) : Reads d [] [] := ⟨le_rfl, fun _ _ _ h => h⟩

theorem Reads.snoc {d : Depth} {bs cs : List UInt8} {os : List RleOrder} {o : RleOrder}
    (h : Reads d bs os) (ho : Parses d cs o) : Reads d (bs ++ cs) (os ++ [o]) := by
  have hpos : 1 ≤ cs.length := List.length_pos_iff.2 ho.ne_nil
  refine ⟨by have := h.1; simp; omega, fun rest os' fuel hr => ?_⟩
  have hcs : parseOrders d (fuel + 1) (cs ++ rest) = some (o :: os') := by
    obtain ⟨b, cs', hcons⟩ : ∃ b cs', cs ++ rest = b :: cs' := by
      cases hc : cs with
      | nil => rw [hc] at hpos; simp at hpos
      | cons b cs' => exact ⟨b, cs' ++ rest, rfl⟩
    have hp := ho rest
    rw [hcons] at hp ⊢
    rw [parseOrders, hp, Option.bind_eq_bind, Option.bind_some]
    simp only [hr]
    rfl
  have := h.2 _ _ _ hcs
  rw [List.append_assoc, List.append_assoc, List.length_append, List.length_singleton,
    show fuel + (os.length + 1) = fuel + 1 + os.length by omega]
  exact this

theorem Reads.parseOrders {d : Depth} {bs : List UInt8} {os : List RleOrder} (h : Reads d bs os) :
    parseOrders d bs.length bs = some os := by
  have := h.2 [] [] (bs.length - os.length) (by rw [Bitmap.parseOrders])
  rwa [List.append_nil, List.append_nil, Nat.sub_add_cancel h.1] at this

/-! ## Pens and an image -/

/-- The pen is right about pixel `i` of the image `w`. -/
def PenOk (w : Nat → Nat) (rowDelta fgPel : Nat) (firstLine : Bool) (i : Nat) : Pen → Prop
  | .bg => w i = if firstLine then 0 else w (i - rowDelta)
  | .fg => w i = if firstLine then fgPel else w (i - rowDelta) ^^^ fgPel
  | .color p => w i = p

/-- **Pens that are right about an image write it**, behind what is there of it. -/
theorem writePens_range {w : Nat → Nat} {rowDelta fgPel m : Nat} {firstLine : Bool}
    (hr : 0 < rowDelta) (hf : firstLine = false → rowDelta ≤ m) (pens : List Pen)
    (hp : ∀ j pen, pens[j]? = some pen → PenOk w rowDelta fgPel firstLine (m + j) pen) :
    writePens rowDelta fgPel firstLine ((List.range m).map w) pens =
      (List.range (m + pens.length)).map w := by
  induction pens generalizing m with
  | nil => rfl
  | cons pen pens ih =>
    have hpen : pen.pixel rowDelta fgPel firstLine ((List.range m).map w) = w m := by
      have h0 := hp 0 pen rfl
      have habove : firstLine = false →
          ((List.range m).map w).getD (((List.range m).map w).length - rowDelta) 0 =
            w (m - rowDelta) := by
        intro h
        have := hf h
        rw [List.length_map, List.length_range, List.getD_eq_getElem _ _ (by simp; omega)]
        simp
      cases pen with
      | bg =>
        cases firstLine with
        | true => exact h0.symm
        | false => exact (habove rfl).trans h0.symm
      | fg =>
        cases firstLine with
        | true => exact h0.symm
        | false =>
          rw [Pen.pixel, if_neg (by simp), habove rfl]
          exact h0.symm
      | color p => exact h0.symm
    have hsnoc : (List.range m).map w ++ [w m] = (List.range (m + 1)).map w := by
      rw [List.range_succ, List.map_append]
      rfl
    rw [writePens, hpen, hsnoc, ih (fun h => by have := hf h; omega) (fun j q hq => ?_),
      List.length_cons]
    · congr 2
      omega
    · have := hp (j + 1) q hq
      rwa [show m + (j + 1) = m + 1 + j by omega] at this

end Xrdp.Bitmap
