import Xrdp.Lib.Loops
import Xrdp.Bitmap.BmpLoad

/-!
# What the readers of `xrdp_bitmap_load` get

* `readRows_ok` — where in the file a byte of the stream is from.
* `drawPixels_ok`, `drawPixels_eq_ok` — the colour that each pixel gets, and that everything has to be in the buffers.
* `Fetches` — how a reader goes through the stream; `fetches24`, `fetches8`, `fetches4`.
-/

namespace Xrdp.Bitmap.Bmp

open Wire Loops

theorem int_of_lt {n : Nat} (h : n < 2 ^ 31) : int n = n := by
  unfold int
  rw [Int.bmod_def]
  split_ifs <;> omega

/-! ## Reading the file -/

def byteAt (file : List UInt8) (i : Nat) : UInt8 := file[i]?.getD 0

/-- `len` cells from `off` on are filled. -/
def filled (data : Buf UInt8) (off len : Nat) (bytes : Nat → UInt8) : Buf UInt8 :=
  { data with cells := fun j => if off ≤ j ∧ j < off + len then bytes (j - off) else data.cells j }

theorem filled_cells {data : Buf UInt8} {off len : Nat} {bytes : Nat → UInt8} {j : Nat} (hj : off ≤ j ∧ j < off + len) :
    (filled data off len bytes).cells j = bytes (j - off) := if_pos hj

theorem filled_cells_of_not {data : Buf UInt8} {off len : Nat} {bytes : Nat → UInt8} {j : Nat}
    (hj : ¬ (off ≤ j ∧ j < off + len)) : (filled data off len bytes).cells j = data.cells j := if_neg hj

/-- A block that the file has is read into room for it. -/
theorem gFileRead_ok (fd : File) {data : Buf UInt8} (off len : Nat) (hfile : fd.pos + len ≤ fd.content.length)
    (hdata : off + len ≤ data.size) : gFileRead fd data off len =
      .ok (len, ⟨fd.content, fd.pos + len⟩, filled data off len fun i => byteAt fd.content (fd.pos + i)) := by
  have hlength : ((fd.content.drop fd.pos).take len).length = len := by
    rw [List.length_take, List.length_drop]
    omega
  unfold gFileRead
  rw [if_neg (by omega), Int.toNat_natCast]
  by_cases hgot : (fd.content.drop fd.pos).take len = []
  · rw [if_pos hgot]
    rw [hgot] at hlength
    cases hlength
    have hsame : filled data off 0 (fun i => byteAt fd.content (fd.pos + i)) = data := by
      unfold filled
      congr 1
      funext j
      exact if_neg (by omega)
    rw [List.length_nil, hsame]
    rfl
  · rw [if_neg hgot, if_neg (by omega), Int.toNat_natCast, Buf.memcpy_ok (by omega)]
    simp only [Run.ok_bind, hlength]
    show Except.ok _ = _
    congr 3
    unfold filled
    congr 1
    funext j
    by_cases hj : off ≤ j
    · rw [if_pos hj]
      by_cases hlt : j < off + len
      · rw [if_pos ⟨hj, hlt⟩, List.getElem?_take_of_lt (by omega), List.getElem?_drop,
          List.getElem?_eq_getElem (by omega)]
        show _ = byteAt fd.content (fd.pos + (j - off))
        rw [byteAt, List.getElem?_eq_getElem (by omega)]
        rfl
      · rw [if_neg (by omega), List.getElem?_eq_none (by omega)]
        rfl
    · rw [if_neg hj, if_neg (by omega)]

theorem gFileRead_size {fd : File} {data : Buf UInt8} {off len : Int} {r : Int × File × Buf UInt8}
    (h : gFileRead fd data off len = .ok r) : r.2.2.size = data.size := by
  unfold gFileRead at h
  dsimp only at h
  split_ifs at h
  · cases h
    rfl
  · cases h
    rfl
  · obtain ⟨data', hdata', h⟩ := Run.bind_eq_ok.1 h
    cases h
    unfold Buf.memcpy at hdata'
    split_ifs at hdata'
    cases hdata'
    rfl

/-- The buffer with the rows: the last row of the file is the first. -/
def rowsIn (content : List UInt8) (pos height size : Nat) (data : Buf UInt8) : Buf UInt8 :=
  { data with cells := fun j =>
      if j < height * size then byteAt content (pos + (height - 1 - j / size) * size + j % size) else data.cells j }

/-- The file and the buffer behind `m` rows. -/
def rowsBehind (content : List UInt8) (pos height size : Nat) (data : Buf UInt8) (m : Nat) : File × Buf UInt8 :=
  (⟨content, pos + m * size⟩, { data with cells := fun j =>
      if (height - m) * size ≤ j ∧ j < height * size
      then (byteAt content (pos + (height - 1 - j / size) * size + j % size)) else data.cells j })

theorem rowsBehind_zero (content : List UInt8) (pos height size : Nat) (data : Buf UInt8) :
    rowsBehind content pos height size data 0 = (⟨content, pos⟩, data) := by
  unfold rowsBehind
  rw [Nat.zero_mul, Nat.sub_zero]
  congr 1
  show Buf.mk _ _ = Buf.mk _ _
  congr 1
  funext j
  exact if_neg (by omega)

theorem rowsBehind_all (content : List UInt8) (pos height size : Nat) (data : Buf UInt8) :
    (rowsBehind content pos height size data height).2 = rowsIn content pos height size data := by
  unfold rowsBehind rowsIn
  rw [Nat.sub_self, Nat.zero_mul]
  simp only [Nat.zero_le, true_and]

/-- A row. -/
theorem rowsBehind_succ (content : List UInt8) (pos size : Nat) (data : Buf UInt8) (m i : Nat) :
    filled (rowsBehind content pos (m + 1 + i) size data m).2 (i * size) size
        (fun t => byteAt content (pos + m * size + t)) =
      (rowsBehind content pos (m + 1 + i) size data (m + 1)).2 := by
  have hheight : (m + 1 + i) * size = m * size + size + i * size := by rw [Nat.add_mul, Nat.succ_mul]
  have hstart : (m + 1 + i - m) * size = i * size + size := by
    rw [show m + 1 + i - m = i + 1 by omega, Nat.succ_mul]
  have hnext : (m + 1 + i - (m + 1)) * size = i * size := by rw [show m + 1 + i - (m + 1) = i by omega]
  unfold filled rowsBehind
  dsimp only
  rw [hstart, hnext]
  congr 1
  funext j
  by_cases hj : i * size ≤ j ∧ j < i * size + size
  · have hdiv : j / size = i := by
      rw [Nat.div_eq_iff (by omega)]
      omega
    have hmod : j % size = j - i * size := by
      have hda := Nat.div_add_mod j size
      rw [hdiv, Nat.mul_comm] at hda
      omega
    rw [if_pos hj, if_pos (by omega), hdiv, hmod, show m + 1 + i - 1 - i = m by omega]
  · rw [if_neg hj]
    by_cases hj' : i * size + size ≤ j ∧ j < (m + 1 + i) * size
    · rw [if_pos hj', if_pos (by omega)]
    · rw [if_neg hj', if_neg (by omega)]

/-- **The rows are read, each behind the one before it.** -/
theorem readRows_ok {height size : Nat} {fd : File} {s : Stream} (hfile : fd.pos + height * size ≤ fd.content.length)
    (hdata : height * size ≤ s.data.size) (hint : height * size < 2 ^ 31) :
    readRows height size fd s = .ok { s with data := rowsIn fd.content fd.pos height size s.data } := by
  have hloop : (List.range height).foldlM (readRow height size) (rowsBehind fd.content fd.pos height size s.data 0) =
      .ok (rowsBehind fd.content fd.pos height size s.data height) := by
    refine foldlM_range_ok _ fun m hm => ?_
    obtain ⟨i, rfl⟩ : ∃ i, height = m + 1 + i := ⟨height - (m + 1), by omega⟩
    have hheight : (m + 1 + i) * size = m * size + size + i * size := by rw [Nat.add_mul, Nat.succ_mul]
    have hsub : ((m + 1 + i : Nat) : Int) - 1 - m = (i : Nat) := by omega
    have hoff : int (((i : Nat) : Int) * size) = ((i * size : Nat) : Int) := by
      rw [← Nat.cast_mul, int_of_lt (by omega)]
    have hread := @gFileRead_ok (rowsBehind fd.content fd.pos (m + 1 + i) size s.data m).1
      (rowsBehind fd.content fd.pos (m + 1 + i) size s.data m).2 (i * size) size
      (by show fd.pos + m * size + size ≤ fd.content.length; omega) (by show i * size + size ≤ s.data.size; omega)
    have hpos : fd.pos + m * size + size = fd.pos + (m + 1) * size := by
      rw [Nat.succ_mul]
      omega
    unfold readRow
    dsimp only
    rw [hsub, hoff, hread]
    exact congrArg Except.ok (Prod.ext (congrArg (File.mk _) hpos) (rowsBehind_succ ..))
  rw [rowsBehind_zero] at hloop
  unfold readRows
  rw [Int.toNat_natCast, hloop, Run.ok_bind, rowsBehind_all]
  rfl

theorem readRows_size {height size : Int} {fd : File} {s t : Stream} (h : readRows height size fd s = .ok t) :
    t.data.size = s.data.size ∧ t.p = s.p := by
  obtain ⟨st, hrows, h⟩ := Run.bind_eq_ok.1 h
  cases h
  refine ⟨foldlM_keeps (P := fun st : File × Buf UInt8 => st.2.size = s.data.size) ?_ rfl hrows, rfl⟩
  intro st m st' hsize hpass
  obtain ⟨r, hread, hpass⟩ := Run.bind_eq_ok.1 hpass
  cases hpass
  exact (gFileRead_size hread).trans hsize

/-! ## Drawing -/

/-- The depths a screen can have. -/
def depths : List Int := [8, 15, 16, 24, 32]

/-- What is kept of a colour. -/
def stored (bpp : Int) (color : Nat) : Nat := convert bpp color % 2 ^ pixelBits bpp

/-- The first `n` pixels have got their colours. -/
def drawn (b : XrdpBitmap) (color : Nat → Nat) (n : Nat) : XrdpBitmap :=
  { b with data := b.data.map fun d => { d with cells := fun m => if m < n then stored b.bpp (color m) else d.cells m } }

theorem drawn_zero (b : XrdpBitmap) (color : Nat → Nat) : drawn b color 0 = b := by
  obtain ⟨w, h, bpp, data, free⟩ := b
  cases data <;> simp [drawn]

/-- A bitmap of this size, for a screen. -/
structure IsSized (b : XrdpBitmap) (w h : Nat) : Prop where
  width : b.width = w
  height : b.height = h
  depth : b.bpp ∈ depths

/-- There is room for the pixel `n`, if there is for any. -/
def HasCell (b : XrdpBitmap) (n : Nat) : Prop := ∀ d ∈ b.data, n < d.size

variable {b : XrdpBitmap} {w h n : Nat} {color : Nat → Nat}

theorem depth_cases (hb : IsSized b w h) : b.bpp = 8 ∨ b.bpp = 15 ∨ b.bpp = 16 ∨ 24 ≤ b.bpp := by
  have hdepth := hb.depth
  simp only [depths, List.mem_cons, List.not_mem_nil, or_false] at hdepth
  omega

theorem in_bitmap (hb : IsSized b w h) {x y : Nat} (hx : x < w) (hy : y < h) :
    0 ≤ (x : Int) ∧ (x : Int) < b.width ∧ 0 ≤ (y : Int) ∧ (y : Int) < b.height ∧
      (b.bpp = 8 ∨ b.bpp = 15 ∨ b.bpp = 16 ∨ 24 ≤ b.bpp) :=
  ⟨Int.natCast_nonneg x, by rw [hb.width]; omega, Int.natCast_nonneg y, by rw [hb.height]; omega, depth_cases hb⟩

/-- The `int` with which a cell is found. -/
theorem index_eq {x y : Nat} (hn : y * w + x < 2 ^ 31) : int (int ((y : Int) * w) + x) = ((y * w + x : Nat) : Int) := by
  rw [← Nat.cast_mul, int_of_lt (by omega), ← Nat.cast_add, int_of_lt hn]

theorem setPixel_ok (color : Nat → Nat) (hb : IsSized b w h) (hn : n < h * w) (hint : ∀ d ∈ b.data, n < 2 ^ 31) (hcell : HasCell b n) :
    xrdpBitmapSetPixel (drawn b color n) (n % w : Nat) (n / w : Nat) (convert b.bpp (color n)) =
      .ok (drawn b color (n + 1)) := by
  have hw : 0 < w := Nat.pos_of_ne_zero fun h0 => by simp [h0] at hn
  have hx := Nat.mod_lt n hw
  have hy : n / w < h := Nat.div_lt_of_lt_mul (by rwa [Nat.mul_comm])
  have hsplit : n / w * w + n % w = n := by rw [Nat.mul_comm]; exact Nat.div_add_mod n w
  unfold xrdpBitmapSetPixel drawn
  cases hdata : b.data with
  | none => rfl
  | some d =>
    have hmem : d ∈ b.data := hdata
    have hlt := hcell d hmem
    have hint := hint d hmem
    have hwrite : ∀ cells v, (⟨d.size, cells⟩ : Buf Nat).write n v =
        .ok ⟨d.size, fun m => if m = n then v else cells m⟩ := fun cells v => Buf.write_ok (b := ⟨d.size, cells⟩) hlt v
    simp only [Option.map_some]
    rw [if_pos (in_bitmap hb hx hy), setPixel, hb.width, index_eq (by omega), hsplit, if_neg (by omega),
      Int.toNat_natCast, hwrite]
    simp only [Run.ok_bind, Run.pure_eq]
    congr 3
    refine congrArg (Buf.mk _) (funext fun m => ?_)
    by_cases hm : m = n
    · rw [if_pos hm, if_pos (by omega), hm]
      rfl
    · rw [if_neg hm]
      by_cases hlt : m < n
      · rw [if_pos hlt, if_pos (by omega)]
      · rw [if_neg hlt, if_neg (by omega)]

theorem hasCell_of_setPixel {b' : XrdpBitmap} {pixel : Nat} (hb : IsSized b w h) (hn : n < h * w)
    (hint : ∀ d ∈ b.data, n < 2 ^ 31)
    (hset : xrdpBitmapSetPixel (drawn b color n) (n % w : Nat) (n / w : Nat) pixel = .ok b') : HasCell b n := by
  have hw : 0 < w := Nat.pos_of_ne_zero fun h0 => by simp [h0] at hn
  have hx := Nat.mod_lt n hw
  have hy : n / w < h := Nat.div_lt_of_lt_mul (by rwa [Nat.mul_comm])
  have hsplit : n / w * w + n % w = n := by rw [Nat.mul_comm]; exact Nat.div_add_mod n w
  intro d hd
  have hdata : b.data = some d := hd
  have hint := hint d hd
  unfold xrdpBitmapSetPixel drawn at hset
  rw [hdata] at hset
  simp only [Option.map_some] at hset
  rw [if_pos (in_bitmap hb hx hy), setPixel, hb.width, index_eq (by omega), hsplit, if_neg (by omega),
    Int.toNat_natCast] at hset
  by_contra hge
  rw [Buf.write, if_neg hge] at hset
  cases hset

/-! ## Going through the stream -/

/-- The byte read last. -/
def lastByte (data : Buf UInt8) (p : Nat) : UInt8 := if p = 0 then 0 else data.cells (p - 1)

/-- Before the pixel `n`, `pos n` bytes have been read; `color n` is its colour. -/
structure Fetches (fetch : Fetch) (data : Buf UInt8) (w h : Nat) (pos color : Nat → Nat) : Prop where
  zero : pos 0 = 0
  mono : ∀ n, pos n ≤ pos (n + 1)
  ok : ∀ n < h * w, pos (n + 1) ≤ data.size → fetch (n % w) (lastByte data (pos n), ⟨data, pos n⟩) =
    .ok (color n, lastByte data (pos (n + 1)), ⟨data, pos (n + 1)⟩)
  fits : ∀ n < h * w, pos n ≤ data.size → ∀ r,
    fetch (n % w) (lastByte data (pos n), ⟨data, pos n⟩) = .ok r → pos (n + 1) ≤ data.size

variable {fetch : Fetch} {data : Buf UInt8} {pos : Nat → Nat}

/-- The state of the loops before the pixel `n`. -/
def drawnBefore (data : Buf UInt8) (b : XrdpBitmap) (pos color : Nat → Nat) (n : Nat) :
    (UInt8 × Stream) × XrdpBitmap := ((lastByte data (pos n), ⟨data, pos n⟩), drawn b color n)

theorem drawPixels_eq (hf : Fetches fetch data w h pos color) (hb : IsSized b w h) :
    drawPixels fetch ⟨data, 0⟩ b = do
      let st ← (List.range (h * w)).foldlM (fun st n => drawPixel fetch st (n / w) (n % w))
        (drawnBefore data b pos color 0)
      return st.2 := by
  have hstart : (((0 : UInt8), (⟨data, 0⟩ : Stream)), b) = drawnBefore data b pos color 0 := by
    unfold drawnBefore
    rw [hf.zero, drawn_zero]
    rfl
  unfold drawPixels
  rw [hb.width, hb.height, Int.toNat_natCast, Int.toNat_natCast, foldlM_nested, hstart]

/-- **All pixels are drawn**, if the stream and the bitmap have all of them. -/
theorem drawPixels_ok (hf : Fetches fetch data w h pos color) (hb : IsSized b w h) (hpos : pos (h * w) ≤ data.size)
    (hint : h * w < 2 ^ 31) (hcells : ∀ n < h * w, HasCell b n) :
    drawPixels fetch ⟨data, 0⟩ b = .ok (drawn b color (h * w)) := by
  have hmono := monotone_nat_of_le_succ hf.mono
  rw [drawPixels_eq hf hb, foldlM_range_ok (drawnBefore data b pos color)]
  · rfl
  intro n hn
  have hfetch := hf.ok n hn ((hmono (by omega)).trans hpos)
  unfold drawPixel drawnBefore
  dsimp only
  rw [hfetch]
  simp only [Run.ok_bind]
  have hset := setPixel_ok color hb hn (fun _ _ => by omega) (hcells n hn)
  show (do let self ← xrdpBitmapSetPixel _ _ _ (convert b.bpp _); _) = _
  rw [hset]
  rfl

/-- **If the loops end, the stream and the bitmap have had all pixels**, and they are drawn. -/
theorem drawPixels_eq_ok {b' : XrdpBitmap} (hf : Fetches fetch data w h pos color) (hb : IsSized b w h)
    (hsize : ∀ d ∈ b.data, d.size < 2 ^ 31) (hdraw : drawPixels fetch ⟨data, 0⟩ b = .ok b') :
    b' = drawn b color (h * w) ∧ pos (h * w) ≤ data.size ∧ ∀ n < h * w, HasCell b n := by
  rw [drawPixels_eq hf hb] at hdraw
  obtain ⟨st, hloop, hdraw⟩ := Run.bind_eq_ok.1 hdraw
  cases hdraw
  have hall := foldlM_range_eq_ok (fun n => pos (n + 1) ≤ data.size ∧ HasCell b n) ?_ hloop
  · obtain ⟨rfl, hcond⟩ := hall
    refine ⟨rfl, ?_, fun n hn => (hcond n hn).2⟩
    cases hcount : h * w with
    | zero =>
      rw [hf.zero]
      exact Nat.zero_le _
    | succ n => exact (hcond n (by omega)).1
  intro n hn hbefore t hpass
  have hpos : pos n ≤ data.size := by
    cases n with
    | zero =>
      rw [hf.zero]
      exact Nat.zero_le _
    | succ n => exact (hbefore n (Nat.lt_succ_self n)).1
  -- the pixel before it has a cell
  have hlt : ∀ d ∈ b.data, n < 2 ^ 31 := by
    intro d hd
    have hd' := hsize d hd
    cases n with
    | zero => omega
    | succ n =>
      have hprev := (hbefore n (Nat.lt_succ_self n)).2 d hd
      omega
  unfold drawPixel drawnBefore at hpass
  obtain ⟨r, hfetch, hpass⟩ := Run.bind_eq_ok.1 hpass
  have hnext := hf.fits n hn hpos r hfetch
  cases (hf.ok n hn hnext).symm.trans hfetch
  obtain ⟨b'', hset, hpass⟩ := Run.bind_eq_ok.1 hpass
  cases hpass
  have hcell := hasCell_of_setPixel hb hn hlt hset
  have hset' := setPixel_ok color hb hn hlt hcell
  cases hset'.symm.trans hset
  exact ⟨rfl, hnext, hcell⟩

theorem lastByte_succ (data : Buf UInt8) (p : Nat) : lastByte data (p + 1) = data.cells p := rfl

theorem inUint8_ok {data : Buf UInt8} {p : Nat} (hp : p < data.size) :
    inUint8 ⟨data, p⟩ = .ok (data.cells p, ⟨data, p + 1⟩) := by
  unfold inUint8
  rw [Buf.read_ok hp]
  rfl

theorem inUint8_eq_ok {s : Stream} {r : UInt8 × Stream} (hr : inUint8 s = .ok r) :
    s.p < s.data.size ∧ r = (s.data.cells s.p, ⟨s.data, s.p + 1⟩) := by
  obtain ⟨k, hk, hr⟩ := Run.bind_eq_ok.1 hr
  obtain ⟨hp, rfl⟩ := Buf.read_eq_ok hk
  cases hr
  exact ⟨hp, rfl⟩

/-- Three bytes a pixel. -/
theorem fetches24 (data : Buf UInt8) (w h : Nat) : Fetches fetch24 data w h (fun n => 3 * n) fun n =>
    (data.cells (3 * n)).toNat ||| (data.cells (3 * n + 1)).toNat <<< 8 ||| (data.cells (3 * n + 2)).toNat <<< 16 where
  zero := rfl
  mono n := by omega
  ok n _ hfits := by
    unfold fetch24
    dsimp only
    rw [inUint8_ok (by omega), Run.ok_bind]
    dsimp only
    rw [inUint8_ok (by omega), Run.ok_bind]
    dsimp only
    rw [inUint8_ok (by omega), Run.ok_bind]
    rfl
  fits n _ _ r hr := by
    obtain ⟨r₁, h₁, hr⟩ := Run.bind_eq_ok.1 hr
    obtain ⟨-, rfl⟩ := inUint8_eq_ok h₁
    obtain ⟨r₂, h₂, hr⟩ := Run.bind_eq_ok.1 hr
    obtain ⟨-, rfl⟩ := inUint8_eq_ok h₂
    obtain ⟨r₃, h₃, hr⟩ := Run.bind_eq_ok.1 hr
    have hlast := (inUint8_eq_ok h₃).1
    dsimp only at hlast
    omega

/-- A byte a pixel. -/
theorem fetches8 {palette1 : Buf Nat} (hpalette : palette1.size = 256) (data : Buf UInt8) (w h : Nat) :
    Fetches (fetch8 palette1) data w h (fun n => n) fun n => palette1.cells (data.cells n).toNat where
  zero := rfl
  mono n := by omega
  ok n _ hfits := by
    unfold fetch8
    dsimp only
    rw [inUint8_ok (by omega), Run.ok_bind]
    dsimp only
    rw [Buf.read_ok (by rw [hpalette]; exact (data.cells n).toNat_lt)]
    rfl
  fits n _ _ r hr := by
    obtain ⟨r₁, h₁, -⟩ := Run.bind_eq_ok.1 hr
    exact (inUint8_eq_ok h₁).1

/-- The half of a byte that a pixel is. -/
def half (k : UInt8) (x : Nat) : Nat := if x % 2 = 0 then k.toNat / 16 else k.toNat % 16

theorem half_lt (k : UInt8) (x : Nat) : half k x < 256 := by
  have hk := k.toNat_lt
  unfold half
  split <;> omega

/-- How many bytes have been read. -/
def pos4 (w n : Nat) : Nat := n / w * ((w + 1) / 2) + (n % w + 1) / 2

/-- A byte is read for every pixel in an even column. -/
theorem pos4_succ {w : Nat} (hw : 0 < w) (n : Nat) : pos4 w (n + 1) = pos4 w n + if n % w % 2 = 0 then 1 else 0 := by
  unfold pos4
  have hx := Nat.mod_lt n hw
  rcases Nat.lt_or_ge (n % w + 1) w with hlt | hge
  · have hmod : (n + 1) % w = n % w + 1 := by
      rw [Nat.add_mod, Nat.mod_eq_of_lt (a := 1) (by omega), Nat.mod_eq_of_lt hlt]
    have hdiv : (n + 1) / w = n / w := by
      rw [Nat.add_div hw, Nat.mod_eq_of_lt (a := 1) (by omega), if_neg (by omega), Nat.div_eq_of_lt (a := 1) (by omega)]
      rfl
    rw [hmod, hdiv]
    split <;> omega
  · have hsplit := Nat.div_add_mod n w
    have hnext : n + 1 = w * (n / w + 1) := by
      rw [Nat.mul_succ]
      omega
    have hdiv : (n + 1) / w = n / w + 1 := by rw [hnext, Nat.mul_div_cancel_left _ hw]
    have hmod : (n + 1) % w = 0 := by rw [hnext, Nat.mul_mod_right]
    rw [hdiv, hmod, Nat.succ_mul]
    split <;> omega

/-- A byte for two pixels, and one for the last in a row of odd width. -/
theorem fetches4 {palette1 : Buf Nat} (hpalette : palette1.size = 256) (data : Buf UInt8) (w h : Nat) :
    Fetches (fetch4 palette1) data w h (pos4 w)
      fun n => palette1.cells (half (data.cells (n / w * ((w + 1) / 2) + n % w / 2)) (n % w)) := by
  have hpos : ∀ n, n < h * w → 0 < w := fun n hn => Nat.pos_of_ne_zero fun h0 => by simp [h0] at hn
  constructor
  · simp [pos4]
  · intro n
    rcases Nat.eq_zero_or_pos w with rfl | hw
    · simp only [pos4, Nat.div_zero, Nat.mod_zero, Nat.zero_mul, Nat.zero_add]
      omega
    · rw [pos4_succ hw]
      omega
  · intro n hn hfits
    have hsucc := pos4_succ (hpos n hn) n
    unfold fetch4
    dsimp only
    by_cases heven : n % w % 2 = 0
    · have hcell : pos4 w n = n / w * ((w + 1) / 2) + n % w / 2 := by
        unfold pos4
        omega
      rw [if_pos heven] at hsucc
      have hhalf : (data.cells (pos4 w n)).toNat >>> 4 &&& 15 = half (data.cells (pos4 w n)) (n % w) := by
        have hk := (data.cells (pos4 w n)).toNat_lt
        rw [half, if_pos heven, Nat.shiftRight_eq_div_pow, Nat.and_two_pow_sub_one_eq_mod _ 4]
        omega
      rw [if_pos (by rw [Nat.and_one_is_mod]; exact heven), inUint8_ok (by omega), hsucc, ← hcell]
      simp only [Run.ok_bind, Run.pure_eq]
      rw [hhalf, Buf.read_ok (by rw [hpalette]; exact half_lt ..)]
      rfl
    · have hcell : pos4 w n = n / w * ((w + 1) / 2) + n % w / 2 + 1 := by
        unfold pos4
        omega
      have hhalf : ∀ k : UInt8, k.toNat &&& 15 = half k (n % w) := fun k => by
        rw [half, if_neg heven, Nat.and_two_pow_sub_one_eq_mod _ 4]
      rw [if_neg heven] at hsucc
      rw [if_neg (by rw [Nat.and_one_is_mod]; exact heven), hsucc, Nat.add_zero]
      simp only [Run.ok_bind, Run.pure_eq]
      rw [hhalf, Buf.read_ok (by rw [hpalette]; exact half_lt ..), hcell, lastByte_succ]
      rfl
  · intro n hn hbefore r hr
    have hsucc := pos4_succ (hpos n hn) n
    by_cases heven : n % w % 2 = 0
    · unfold fetch4 at hr
      dsimp only at hr
      rw [if_pos (by rw [Nat.and_one_is_mod]; exact heven)] at hr
      obtain ⟨r₁, h₁, -⟩ := Run.bind_eq_ok.1 hr
      obtain ⟨r₂, h₂, -⟩ := Run.bind_eq_ok.1 h₁
      have hlt := (Buf.read_eq_ok h₂).1
      rw [hsucc, if_pos heven]
      exact hlt
    · rw [if_neg heven] at hsucc
      omega

/-! ## Palettes and headers -/

/-- The number that the four bytes from `p` on are. -/
def u32In (bytes : Nat → UInt8) (p : Nat) : Nat := leVal [bytes p, bytes (p + 1), bytes (p + 2), bytes (p + 3)]

def u16In (bytes : Nat → UInt8) (p : Nat) : Nat := leVal [bytes p, bytes (p + 1)]

theorem inLe_ok {data : Buf UInt8} {p : Nat} (k : Nat) (hp : p + k ≤ data.size) :
    inLe k ⟨data, p⟩ = .ok (leVal ((List.range k).map fun i => data.cells (p + i)), ⟨data, p + k⟩) := by
  unfold inLe
  rw [Run.mapM_ok (g := fun i => data.cells (p + i)) fun i hi => Buf.read_ok (by
    have := List.mem_range.1 hi
    show p + i < data.size
    omega)]
  rfl

theorem inUint32Le_ok {data : Buf UInt8} {p : Nat} (hp : p + 4 ≤ data.size) :
    inUint32Le ⟨data, p⟩ = .ok (u32In data.cells p, ⟨data, p + 4⟩) := inLe_ok 4 hp

theorem inUint16Le_ok {data : Buf UInt8} {p : Nat} (hp : p + 2 ≤ data.size) :
    inUint16Le ⟨data, p⟩ = .ok (u16In data.cells p, ⟨data, p + 2⟩) := inLe_ok 2 hp

/-- `palette1` with its first `n` colours. -/
def paletteOf (bytes : Nat → UInt8) (n : Nat) : Buf Nat := ⟨256, fun i => if i < n then u32In bytes (4 * i) else 0⟩

/-- **The palette is as it is in the stream**, and has zeros behind it. -/
theorem readPalette_ok {data : Buf UInt8} {n : Nat} (hn : n ≤ 256) (hdata : 4 * n ≤ data.size) :
    readPalette n ⟨data, 0⟩ = .ok (paletteOf data.cells n) := by
  have hloop : (List.range n).foldlM readColour (paletteOf data.cells 0, (⟨data, 4 * 0⟩ : Stream)) =
      .ok (paletteOf data.cells n, ⟨data, 4 * n⟩) := by
    refine foldlM_range_ok (fun i => (paletteOf data.cells i, (⟨data, 4 * i⟩ : Stream))) fun i hi => ?_
    unfold readColour
    dsimp only
    rw [inUint32Le_ok (by omega), Run.ok_bind]
    dsimp only
    rw [Buf.write_ok (by show i < 256; omega), Run.ok_bind]
    refine congrArg Except.ok (Prod.ext ?_ rfl)
    refine congrArg (Buf.mk _) (funext fun j => ?_)
    by_cases hj : j = i
    · rw [if_pos hj, if_pos (by omega), hj]
    · rw [if_neg hj]
      show (if j < i then _ else 0) = _
      by_cases hlt : j < i
      · rw [if_pos hlt, if_pos (by omega)]
      · rw [if_neg hlt, if_neg (by omega)]
  have hstart : (Buf.alloc 256 : Buf Nat) = paletteOf data.cells 0 := by
    refine congrArg (Buf.mk _) (funext fun j => ?_)
    rw [if_neg (Nat.not_lt_zero _)]
  unfold readPalette
  rw [Int.toNat_natCast, hstart]
  exact congrArg (fun r : Run (Buf Nat × Stream) => r >>= fun st => .ok st.1) hloop

/-- The header that is in these bytes. -/
def headerIn (bytes : Nat → UInt8) : XrdpBmpHeader :=
  ⟨int (u32In bytes 0), int (u32In bytes 4), int (u32In bytes 8), (u16In bytes 12 : Int).bmod (2 ^ 16),
    (u16In bytes 14 : Int).bmod (2 ^ 16), int (u32In bytes 16), int (u32In bytes 20), int (u32In bytes 24),
    int (u32In bytes 28), int (u32In bytes 32), int (u32In bytes 36)⟩

theorem readHeader_ok {data : Buf UInt8} (hdata : 40 ≤ data.size) :
    readHeader ⟨data, 0⟩ = .ok (headerIn data.cells, ⟨data, 40⟩) := by
  have h32 : ∀ p, p + 4 ≤ 40 → inUint32Le ⟨data, p⟩ = .ok (u32In data.cells p, ⟨data, p + 4⟩) :=
    fun p hp => inUint32Le_ok (hp.trans hdata)
  have h16 : ∀ p, p + 2 ≤ 40 → inUint16Le ⟨data, p⟩ = .ok (u16In data.cells p, ⟨data, p + 2⟩) :=
    fun p hp => inUint16Le_ok (hp.trans hdata)
  unfold readHeader
  simp only [Run.ok_bind, Nat.reduceAdd, h32 0 (by decide), h32 4 (by decide), h32 8 (by decide), h16 12 (by decide),
    h16 14 (by decide), h32 16 (by decide), h32 20 (by decide), h32 24 (by decide), h32 28 (by decide),
    h32 32 (by decide), h32 36 (by decide)]
  rfl

end Xrdp.Bitmap.Bmp
