import Xrdp.Bitmap.PlanarPack

/-!
# What the planes hold

As long as a line fits a plane, `fsplit` leaves in every plane the bytes of the padded lines, and
`fdelta` the first line and the differences of the others.

* `fsplit_spec` — the lines taken and what the planes hold then.
* `fdelta_spec`, `fdeltas_spec` — the differences of one plane, of all planes.
* `decodePlane_packRows` — a packed plane of differences is read back.
-/

namespace Xrdp.Bitmap

/-- A line of pixels, padded with its last one. -/
def planarLine (inData : Nat → UInt8) (width e line : Nat) : List Nat :=
  let pixels := (List.range width).map (pixel32 inData (line * width * 4))
  pixels ++ List.replicate e (pixels.getLastD 0)

/-- The lines `todo - 1`, `todo - 2`, … of an image. -/
def planarLines (inData : Nat → UInt8) (width e todo cy : Nat) : List (List Nat) :=
  (List.range cy).map fun i => planarLine inData width e (todo - 1 - i)

/-- The bytes of pixels that a plane takes. -/
def Plane.bytes (p : Plane) (pixels : List Nat) : List UInt8 := pixels.map (planeByte p.shift)

@[simp] theorem Plane.bytes_length (p : Plane) (pixels : List Nat) :
    (p.bytes pixels).length = pixels.length := List.length_map _

theorem Plane.bytes_append (p : Plane) (px ps : List Nat) :
    p.bytes (px ++ ps) = p.bytes px ++ p.bytes ps := List.map_append

/-! ## The layout of `temp_s` -/

def Plane.Apart (p q : Plane) : Prop :=
  p.sData + PLANE_BYTES ≤ q.sData ∧ p.data + PLANE_BYTES ≤ q.data

/-- Bytes in the first half of `temp_s`, differences in the second. -/
structure Plane.Laid (p : Plane) : Prop where
  sData : p.sData + PLANE_BYTES ≤ PLANE_BYTES * 4
  data : PLANE_BYTES * 4 ≤ p.data ∧ p.data + PLANE_BYTES ≤ PLANE_BYTES * 8

theorem planesOf_apart (noAlpha : Bool) : (planesOf noAlpha).Pairwise Plane.Apart := by
  cases noAlpha <;> simp [planesOf, Plane.Apart, aPlane, rPlane, gPlane, bPlane, PLANE_BYTES]

theorem planesOf_laid {noAlpha : Bool} {p : Plane} (h : p ∈ planesOf noAlpha) : p.Laid := by
  have hp : p = aPlane ∨ p = rPlane ∨ p = gPlane ∨ p = bPlane := by
    cases noAlpha <;> simp [planesOf] at h <;> grind
  rcases hp with rfl | rfl | rfl | rfl <;> exact ⟨by decide, by decide⟩

/-! ## Splitting -/

/-- The planes hold the bytes of `px`. -/
structure Split (planes : List Plane) (px : List Nat) (buf : Buf UInt8) : Prop where
  size : PLANE_BYTES * 8 ≤ buf.size
  holds : ∀ p ∈ planes, buf.Holds p.sData (p.bytes px)

/-- One round of a splitting loop appends to every plane. -/
theorem split_append {f : Buf UInt8 → Plane → Run (Buf UInt8)} {noAlpha : Bool} {px ps : List Nat}
    {buf : Buf UInt8} (hfit : px.length + ps.length ≤ PLANE_BYTES)
    (hf : ∀ p buf, p.sData + px.length + ps.length ≤ buf.size →
      Buf.Holds buf p.sData (p.bytes px) → ∃ buf', f buf p = .ok buf' ∧
        buf'.Holds (p.sData + px.length) (p.bytes ps) ∧
        buf.Touched buf' (p.sData + px.length) ps.length)
    (h : Split (planesOf noAlpha) px buf) :
    ∃ buf', (planesOf noAlpha).foldlM f buf = .ok buf' ∧
      Split (planesOf noAlpha) (px ++ ps) buf' := by
  let Pre (px : List Nat) (p : Plane) (s : Buf UInt8) : Prop :=
    p.Laid ∧ PLANE_BYTES * 8 ≤ s.size ∧ s.Holds p.sData (p.bytes px)
  have hstep : ∀ p s, Pre px p s → ∃ s', f s p = .ok s' ∧ Pre (px ++ ps) p s' ∧
      ∀ q, Plane.Apart p q ∨ Plane.Apart q p →
        (Pre px q s → Pre px q s') ∧ (Pre (px ++ ps) q s → Pre (px ++ ps) q s') := by
    rintro p s ⟨hlaid, hsize, hholds⟩
    have h1 := hlaid.sData
    obtain ⟨s', hs', htail, htouch⟩ := hf p s (by omega) hholds
    have hsize' : PLANE_BYTES * 8 ≤ s'.size := htouch.size ▸ hsize
    have hhead := hholds.touched htouch (.inl (by simp))
    refine ⟨s', hs', ⟨hlaid, hsize', ?_⟩, ?_⟩
    · rw [p.bytes_append]
      exact hhead.append (by simpa using htail)
    · rintro q hq
      have hkeep : ∀ qx : List Nat, qx.length ≤ px.length + ps.length →
          Pre qx q s → Pre qx q s' := by
        rintro qx hqx ⟨hl, -, hh⟩
        refine ⟨hl, hsize', hh.touched htouch ?_⟩
        rw [Plane.bytes_length]
        rcases hq with hq | hq
        · exact .inr (by have := hq.1; omega)
        · exact .inl (by have := hq.1; omega)
      exact ⟨hkeep px (by omega), hkeep (px ++ ps) (by simp)⟩
  obtain ⟨buf', hok, hpost, -⟩ := Run.foldlM_parts hstep (planesOf_apart noAlpha)
    (s := buf) fun p hp => ⟨planesOf_laid hp, h.size, h.holds p hp⟩
  refine ⟨buf', hok, ?_, fun p hp => (hpost p hp).2.2⟩
  have hmem : rPlane ∈ planesOf noAlpha := by cases noAlpha <;> decide
  exact (hpost _ hmem).2.1

theorem storePixels_spec {noAlpha : Bool} {px ps : List Nat} {buf : Buf UInt8}
    (hfit : px.length + ps.length ≤ PLANE_BYTES) (h : Split (planesOf noAlpha) px buf) :
    ∃ buf', storePixels (planesOf noAlpha) px.length ps buf = .ok buf' ∧
      Split (planesOf noAlpha) (px ++ ps) buf' := by
  refine split_append hfit (fun p buf hsize _ => ?_) h
  obtain ⟨buf', hok, hholds, htouch⟩ := @Buf.memcpy_spec _ buf _ (p.bytes ps) (by simpa using hsize)
  exact ⟨buf', hok, hholds, by simpa using htouch⟩

theorem splitLine_spec (inData : Nat → UInt8) (line : Nat) {noAlpha : Bool} {todo index : Nat}
    {px : List Nat} {buf : Buf UInt8} (hfit : px.length + todo ≤ PLANE_BYTES)
    (h : Split (planesOf noAlpha) px buf) :
    ∃ buf', splitLine inData line (planesOf noAlpha) todo index px.length buf = .ok buf' ∧
      Split (planesOf noAlpha)
        (px ++ (List.range todo).map fun k => pixel32 inData line (index + k)) buf' := by
  induction todo using Nat.strong_induction_on generalizing index px buf with
  | _ todo ih =>
    -- a round takes `n` pixels
    have hround : ∀ n, 0 < n → n ≤ todo → (splitLine inData line (planesOf noAlpha) todo index
        px.length buf = storePixels (planesOf noAlpha) px.length
          ((List.range n).map fun k => pixel32 inData line (index + k)) buf >>=
          splitLine inData line (planesOf noAlpha) (todo - n) (index + n) (px.length + n)) →
        ∃ buf', splitLine inData line (planesOf noAlpha) todo index px.length buf = .ok buf' ∧
          Split (planesOf noAlpha)
            (px ++ (List.range todo).map fun k => pixel32 inData line (index + k)) buf' := by
      intro n hn hle heq
      obtain ⟨buf₁, h₁, hs₁⟩ := @storePixels_spec _ _
        ((List.range n).map fun k => pixel32 inData line (index + k)) _ (by simp; omega) h
      obtain ⟨buf₂, h₂, hs₂⟩ := @ih (todo - n) (by omega) (index + n) _ _
        (by simp; omega) hs₁
      refine ⟨buf₂, ?_, ?_⟩
      · rw [heq, h₁, Run.ok_bind, ← h₂]
        simp
      · rw [List.append_assoc] at hs₂
        rw [← Nat.add_sub_of_le hle, List.range_add, List.map_append, List.map_map]
        simpa only [Function.comp_def, Nat.add_assoc] using hs₂
    rcases Nat.eq_zero_or_pos todo with rfl | hpos
    · exact ⟨buf, by rw [splitLine], by simpa using h⟩
    rcases Nat.lt_or_ge todo 4 with hlt | hge
    · refine hround 1 one_pos hpos ?_
      obtain rfl | rfl | rfl : todo = 1 ∨ todo = 2 ∨ todo = 3 := by omega
      all_goals rfl
    · obtain ⟨m, rfl⟩ := Nat.exists_eq_add_of_le' hge
      exact hround 4 (by omega) hge rfl

theorem padByte_spec {px : List Nat} {p : Plane} {buf : Buf UInt8} (hpx : px ≠ [])
    (hsize : p.sData + px.length < buf.size) (h : buf.Holds p.sData (p.bytes px)) :
    ∃ buf', padByte px.length buf p = .ok buf' ∧
      buf'.Holds (p.sData + px.length) (p.bytes [px.getLastD 0]) ∧
      buf.Touched buf' (p.sData + px.length) 1 := by
  have hpos : 0 < px.length := List.length_pos_iff.2 hpx
  have hread : buf.cells (p.sData + (px.length - 1)) = planeByte p.shift (px.getLastD 0) := by
    rw [h.cells (px.length - 1) (by simp; omega), List.getLastD_eq_getLast?,
      List.getLast?_eq_getElem?, List.getElem?_eq_getElem (by omega)]
    simp [Plane.bytes]
  obtain ⟨buf', hok, hholds, htouch⟩ := Buf.write_spec hsize (planeByte p.shift (px.getLastD 0))
  have hprev : p.sData + px.length = p.sData + (px.length - 1) + 1 := by omega
  refine ⟨buf', ?_, hholds, htouch⟩
  rw [padByte, hprev]
  change (buf.read (p.sData + (px.length - 1)) >>= fun b =>
    buf.write (p.sData + (px.length - 1) + 1) b) = .ok buf'
  rw [Buf.read_ok (by omega), Run.ok_bind, hread, ← hprev, hok]

theorem padLine_spec {noAlpha : Bool} {e : Nat} {px : List Nat} {buf : Buf UInt8}
    (hpx : px ≠ [] ∨ e = 0) (hfit : px.length + e ≤ PLANE_BYTES)
    (h : Split (planesOf noAlpha) px buf) :
    ∃ buf', padLine (planesOf noAlpha) e px.length buf = .ok buf' ∧
      Split (planesOf noAlpha) (px ++ List.replicate e (px.getLastD 0)) buf' := by
  induction e generalizing px buf with
  | zero => exact ⟨buf, rfl, by simpa using h⟩
  | succ e ih =>
    have hpx : px ≠ [] := hpx.resolve_right (by omega)
    obtain ⟨buf₁, h₁, hs₁⟩ := split_append (f := padByte px.length)
      (by simp; omega) (fun p buf hsize hholds => padByte_spec hpx (by simp at hsize; omega) hholds)
      h
    obtain ⟨buf₂, h₂, hs₂⟩ := ih (by simp) (by simp; omega) hs₁
    refine ⟨buf₂, ?_, ?_⟩
    · rw [padLine, h₁, Run.ok_bind, ← h₂]
      simp
    · simpa [List.replicate_succ] using hs₂

/-- **`fsplit`**: with lines that fit a plane it takes as many as fit one together. -/
theorem fsplit_spec (inData : Nat → UInt8) {width e : Nat} (hw : 0 < width ∨ e = 0) {noAlpha : Bool} {todo cy : Nat} {px : List Nat}
    {buf : Buf UInt8} (hfit : px.length + (width + e) ≤ PLANE_BYTES)
    (h : Split (planesOf noAlpha) px buf) :
    ∃ k buf', fsplit inData width e (planesOf noAlpha) todo px.length cy buf = .ok (cy + k, buf') ∧
      k ≤ todo ∧ (0 < todo → 0 < k) ∧ px.length + k * (width + e) ≤ PLANE_BYTES ∧
      Split (planesOf noAlpha) (px ++ (planarLines inData width e todo k).flatten) buf' := by
  induction todo generalizing cy px buf with
  | zero => exact ⟨0, buf, rfl, le_rfl, by omega, by omega, by simpa [planarLines] using h⟩
  | succ todo ih =>
    have hne : (List.range width).map (pixel32 inData (todo * width * 4)) ≠ [] ∨ e = 0 := by
      rcases hw with hw | he
      · exact .inl (by simp; omega)
      · exact .inr he
    obtain ⟨buf₁, h₁, hs₁⟩ := @splitLine_spec inData (todo * width * 4) _ width 0 _ _ (by omega) h
    simp only [Nat.zero_add] at hs₁
    obtain ⟨buf₂, h₂, hs₂⟩ := padLine_spec (e := e)
      (hne.imp_left fun h h0 => h (List.append_eq_nil_iff.1 h0).2) (by simp; omega) hs₁
    have hlast : List.replicate e
        ((px ++ (List.range width).map (pixel32 inData (todo * width * 4))).getLastD 0) =
        List.replicate e (((List.range width).map (pixel32 inData (todo * width * 4))).getLastD 0) := by
      rcases hne with hne | rfl
      · rw [List.getLastD_eq_getLast?, List.getLastD_eq_getLast?,
          List.getLast?_append_of_ne_nil _ hne]
      · rfl
    have hline : planarLines inData width e (todo + 1) 1 = [planarLine inData width e todo] := rfl
    rw [hlast, List.append_assoc] at hs₂
    change Split (planesOf noAlpha) (px ++ planarLine inData width e todo) buf₂ at hs₂
    have hlen : (px ++ planarLine inData width e todo).length = px.length + (width + e) := by
      simp [planarLine]
    simp only [List.length_append, List.length_map, List.length_range] at h₂
    rw [fsplit, h₁, Run.ok_bind, h₂, Run.ok_bind]
    split
    · exact ⟨1, buf₂, rfl, by omega, fun _ => one_pos, by omega, by simpa [hline] using hs₂⟩
    · rename_i hroom
      obtain ⟨k, buf₃, h₃, hk, -, hroom', hs₃⟩ := ih (by
        rw [hlen]; simp only [PLANE_BYTES]; omega) hs₂
      rw [hlen] at h₃ hroom'
      have hcons : planarLines inData width e (todo + 1) (k + 1) =
          planarLine inData width e todo :: planarLines inData width e todo k := by
        simp [planarLines, List.range_succ_eq_map, Function.comp_def, Nat.sub_sub, Nat.add_comm 1]
      refine ⟨k + 1, buf₃, by rw [h₃, Nat.add_assoc, Nat.add_comm 1], by omega,
        fun _ => Nat.succ_pos k, ?_, ?_⟩
      · rw [Nat.add_mul]
        omega
      · rw [hcons, List.flatten_cons, ← List.append_assoc]
        exact hs₃

/-! ## Differences -/

/-- The first row, and every other row as differences from the one above. -/
def deltaRows : List (List UInt8) → List (List UInt8)
  | [] => []
  | first :: rows => first :: List.zipWith (List.zipWith deltaOne) (first :: rows) rows

/-- The same for the bytes of the rows. -/
def deltaBytes (cx : Nat) (bytes : List UInt8) : List UInt8 :=
  bytes.take cx ++ List.zipWith deltaOne bytes (bytes.drop cx)

theorem deltaBytes_length {cx : Nat} {bytes : List UInt8} (h : cx ≤ bytes.length) :
    (deltaBytes cx bytes).length = bytes.length := by
  simp [deltaBytes]
  omega

theorem deltaBytes_getElem {cx k : Nat} {bytes : List UInt8} (h : k + cx < bytes.length)
    (h' : cx + k < (deltaBytes cx bytes).length) :
    (deltaBytes cx bytes)[cx + k] = deltaOne bytes[k] bytes[k + cx] := by
  simp only [deltaBytes]
  rw [List.getElem_append_right (by simp)]
  simp only [List.getElem_zipWith, List.getElem_drop]
  have hmin : min cx bytes.length = cx := by omega
  simp only [List.length_take, hmin, Nat.add_sub_cancel_left]
  simp only [Nat.add_comm cx k]

theorem deltaBytes_flatten {cx : Nat} {first : List UInt8} {rows : List (List UInt8)}
    (h : ∀ row ∈ first :: rows, row.length = cx) :
    deltaBytes cx (first :: rows).flatten = (deltaRows (first :: rows)).flatten := by
  have hz : ∀ (rows : List (List UInt8)) (first : List UInt8),
      (∀ row ∈ first :: rows, row.length = cx) →
      List.zipWith deltaOne (first :: rows).flatten rows.flatten =
        (List.zipWith (List.zipWith deltaOne) (first :: rows) rows).flatten := by
    intro rows
    induction rows with
    | nil => intro first _; simp
    | cons row rows ih =>
      intro first h
      obtain ⟨hfirst, hrest⟩ := List.forall_mem_cons.1 h
      have hrow := (List.forall_mem_cons.1 hrest).1
      rw [List.flatten_cons (l := first), List.flatten_cons (l := row),
        List.zipWith_append (by rw [hfirst, hrow]), ← List.flatten_cons, ih row hrest]
      rfl
  have hfirst := (List.forall_mem_cons.1 h).1
  have hdrop : (first :: rows).flatten.drop cx = rows.flatten := by
    rw [List.flatten_cons, List.drop_left' hfirst]
  have htake : (first :: rows).flatten.take cx = first := by
    rw [List.flatten_cons, List.take_left' hfirst]
  rw [deltaBytes, hdrop, htake, hz rows first h]
  rfl

theorem deltaRows_length (rows : List (List UInt8)) : (deltaRows rows).length = rows.length := by
  cases rows <;> simp [deltaRows]

theorem deltaRows_take (rows : List (List UInt8)) (k : Nat) :
    (deltaRows rows).take k = deltaRows (rows.take k) := by
  cases rows with
  | nil => simp [deltaRows]
  | cons first rows =>
    cases k with
    | zero => simp [deltaRows]
    | succ k =>
      simp only [deltaRows, List.take_succ_cons, List.take_zipWith]
      congr 1
      have h : ∀ {α β γ : Type} (f : α → β → γ) (as : List α) (bs : List β) (n : Nat),
          List.zipWith f (as.take (n + 1)) (bs.take n) = List.zipWith f (as.take n) (bs.take n) := by
        intro α β γ f as bs n
        apply List.ext_getElem?
        intro i
        simp only [List.getElem?_zipWith, List.getElem?_take]
        grind
      rw [← h, List.take_succ_cons]

theorem deltaRows_row {cx : Nat} {rows : List (List UInt8)} (h : ∀ row ∈ rows, row.length = cx) :
    ∀ row ∈ deltaRows rows, row.length = cx := by
  cases rows with
  | nil => exact h
  | cons first rows =>
    intro row hrow
    rcases List.mem_cons.1 hrow with rfl | hrow
    · exact h _ List.mem_cons_self
    · obtain ⟨i, hi, rfl⟩ := List.mem_iff_getElem.1 hrow
      simp only [List.length_zipWith] at hi
      have h1 := h _ (List.getElem_mem (l := first :: rows) (n := i) (by omega))
      have h2 := h _ (List.mem_cons_of_mem first (List.getElem_mem (l := rows) (n := i) (by omega)))
      simp [h1, h2]

theorem deltaLoop_spec {cx inPlane outPlane : Nat} {bytes : List UInt8} {todo k : Nat}
    {buf : Buf UInt8} (htodo : k + todo + cx = bytes.length)
    (hapart : inPlane + bytes.length ≤ outPlane) (hout : outPlane + bytes.length ≤ buf.size)
    (hin : buf.Holds inPlane bytes)
    (hdone : buf.Holds outPlane ((deltaBytes cx bytes).take (cx + k))) :
    ∃ buf', deltaLoop cx inPlane outPlane todo k buf = .ok buf' ∧
      buf'.Holds outPlane (deltaBytes cx bytes) ∧
      buf.Touched buf' (outPlane + (cx + k)) todo := by
  have hlen := @deltaBytes_length cx bytes (by omega)
  induction todo generalizing k buf with
  | zero =>
    rw [List.take_of_length_le (by omega)] at hdone
    exact ⟨buf, rfl, hdone, rfl, fun _ _ => rfl⟩
  | succ todo ih =>
    have habove := hin.cells k (by omega)
    have hbelow := hin.cells (k + cx) (by omega)
    obtain ⟨buf₁, h₁, hh₁, ht₁⟩ := @Buf.write_spec _ buf (outPlane + (cx + k))
      (by omega) (deltaOne bytes[k] bytes[k + cx])
    have htake : (deltaBytes cx bytes).take (cx + (k + 1)) =
        (deltaBytes cx bytes).take (cx + k) ++ [deltaOne bytes[k] bytes[k + cx]] := by
      rw [← Nat.add_assoc, List.take_succ_eq_append_getElem (by omega),
        deltaBytes_getElem (by omega)]
    have hsize := ht₁.size
    obtain ⟨buf₂, h₂, hh₂, ht₂⟩ := ih (k := k + 1) (by omega) (by omega)
      (hin.touched ht₁ (.inl (by omega))) (by
        rw [htake]
        refine (hdone.touched ht₁ (.inl (by simp))).append ?_
        rwa [List.length_take_of_le (by omega)])
    refine ⟨buf₂, ?_, hh₂, ?_⟩
    · rw [deltaLoop, Buf.read_ok (by have := hin.fits; omega), Run.ok_bind,
        Buf.read_ok (by have := hin.fits; omega), Run.ok_bind, habove, Nat.add_assoc inPlane, hbelow,
        show outPlane + k + cx = outPlane + (cx + k) by omega, h₁, Run.ok_bind, h₂]
    · rw [Nat.add_comm todo 1]
      exact ht₁.trans (by rwa [← Nat.add_assoc cx, ← Nat.add_assoc outPlane] at ht₂)

theorem readBytes_ok {buf : Buf UInt8} {off : Nat} {bytes : List UInt8} (h : buf.Holds off bytes)
    {n : Nat} (hn : n ≤ bytes.length) : readBytes buf off n = .ok (bytes.take n) := by
  have hfits := h.fits
  rw [readBytes, if_pos (by omega)]
  congr 1
  apply List.ext_getElem
  · simp [hn]
  · intro i h1 h2
    have hi : i < bytes.length := by simp at h1; omega
    simpa using h.cells i hi

/-- **`fdelta`** of one plane. -/
theorem fdelta_spec {inPlane outPlane cx cy : Nat} {bytes : List UInt8} {buf : Buf UInt8}
    (hlen : bytes.length = cx * cy) (hcy : 0 < cy) (hapart : inPlane + bytes.length ≤ outPlane)
    (hout : outPlane + bytes.length ≤ buf.size) (hin : buf.Holds inPlane bytes) :
    ∃ buf', fdelta inPlane outPlane cx cy buf = .ok buf' ∧
      buf'.Holds outPlane (deltaBytes cx bytes) ∧ buf.Touched buf' outPlane bytes.length := by
  have hcx : cx ≤ bytes.length := hlen ▸ Nat.le_mul_of_pos_right cx hcy
  have hfirst : (bytes.take cx).length = cx := List.length_take_of_le hcx
  obtain ⟨buf₁, h₁, hh₁, ht₁⟩ := @Buf.memcpy_spec _ buf outPlane (bytes.take cx) (by omega)
  have hsize := ht₁.size
  obtain ⟨buf₂, h₂, hh₂, ht₂⟩ := @deltaLoop_spec cx _ _ _ (bytes.length - cx) 0
    _ (by omega) hapart (by omega) (hin.touched ht₁ (.inl hapart)) (by
      rw [Nat.add_zero, deltaBytes, List.take_left' hfirst]
      exact hh₁)
  refine ⟨buf₂, ?_, hh₂, ?_⟩
  · rw [fdelta, readBytes_ok hin hcx, Run.ok_bind, h₁, Run.ok_bind, ← hlen, h₂]
  · rw [hfirst] at ht₁
    have := ht₁.trans ht₂
    rwa [Nat.add_sub_of_le hcx] at this

/-- **`fdelta`** of all planes: the bytes stay, the differences are behind them. -/
theorem fdeltas_spec {noAlpha : Bool} {px : List Nat} {cx cy : Nat} {buf : Buf UInt8}
    (hlen : px.length = cx * cy) (hcy : 0 < cy) (hfit : px.length ≤ PLANE_BYTES)
    (h : Split (planesOf noAlpha) px buf) :
    ∃ buf', (planesOf noAlpha).foldlM (fun buf p => fdelta p.sData p.data cx cy buf) buf = .ok buf' ∧
      Split (planesOf noAlpha) px buf' ∧
      ∀ p ∈ planesOf noAlpha, buf'.Holds p.data (deltaBytes cx (p.bytes px)) := by
  let Pre (p : Plane) (s : Buf UInt8) : Prop :=
    p.Laid ∧ PLANE_BYTES * 8 ≤ s.size ∧ s.Holds p.sData (p.bytes px)
  let Post (p : Plane) (s : Buf UInt8) : Prop :=
    Pre p s ∧ s.Holds p.data (deltaBytes cx (p.bytes px))
  have hcx : cx ≤ px.length := hlen ▸ Nat.le_mul_of_pos_right cx hcy
  have hstep : ∀ p s, Pre p s → ∃ s', fdelta p.sData p.data cx cy s = .ok s' ∧ Post p s' ∧
      ∀ q, Plane.Apart p q ∨ Plane.Apart q p → (Pre q s → Pre q s') ∧ (Post q s → Post q s') := by
    rintro p s ⟨hlaid, hsize, hholds⟩
    have h1 := hlaid.sData
    have h2 := hlaid.data
    obtain ⟨s', hs', hdata, htouch⟩ := @fdelta_spec _ p.data _ _ _ _
      (by simpa using hlen) hcy
      (by simp; omega) (by simp; omega) hholds
    rw [Plane.bytes_length] at htouch
    have hsize' : PLANE_BYTES * 8 ≤ s'.size := htouch.size ▸ hsize
    have hkeep : ∀ q, Pre q s → Pre q s' := by
      rintro q ⟨hl, -, hh⟩
      refine ⟨hl, hsize', hh.touched htouch (.inl ?_)⟩
      have := hl.sData
      rw [Plane.bytes_length]
      omega
    refine ⟨s', hs', ⟨hkeep p ⟨hlaid, hsize, hholds⟩, hdata⟩, fun q hq => ⟨hkeep q, ?_⟩⟩
    rintro ⟨hpre, hd⟩
    refine ⟨hkeep q hpre, hd.touched htouch ?_⟩
    rw [deltaBytes_length (by simpa using hcx), Plane.bytes_length]
    rcases hq with hq | hq
    · exact .inr (by have := hq.2; omega)
    · exact .inl (by have := hq.2; omega)
  obtain ⟨buf', hok, hpost, -⟩ := Run.foldlM_parts hstep (planesOf_apart noAlpha)
    (s := buf) fun p hp => ⟨planesOf_laid hp, h.size, h.holds p hp⟩
  have hmem : rPlane ∈ planesOf noAlpha := by cases noAlpha <;> decide
  exact ⟨buf', hok, ⟨(hpost _ hmem).1.2.1, fun p hp => (hpost p hp).1.2.2⟩,
    fun p hp => (hpost p hp).2⟩

/-! ## Packed planes of differences -/

theorem flatten_length {cx : Nat} {rows : List (List UInt8)} (h : ∀ row ∈ rows, row.length = cx) :
    rows.flatten.length = cx * rows.length := by
  rw [List.length_flatten, List.map_congr_left (g := fun _ => cx) h]
  simp [Nat.mul_comm]

/-- A row inside rows of one length. -/
theorem flatten_row {cx j : Nat} {rows : List (List UInt8)} (h : ∀ row ∈ rows, row.length = cx)
    (hj : j < rows.length) : (rows.flatten.drop (j * cx)).take cx = rows[j] := by
  induction rows generalizing j with
  | nil => exact absurd hj (Nat.not_lt_zero _)
  | cons row rows ih =>
    obtain ⟨hrow, hrows⟩ := List.forall_mem_cons.1 h
    cases j with
    | zero => rw [Nat.zero_mul, List.drop_zero, List.flatten_cons, List.take_left' hrow]; rfl
    | succ j =>
      rw [List.flatten_cons, Nat.succ_mul, Nat.add_comm, ← List.drop_drop, List.drop_left' hrow,
        ih hrows (by simpa using hj)]
      rfl

/-- **`fpack`** of rows that are not empty. -/
theorem fpack_spec {cx k : Nat} (hcx : 0 < cx) {rows : List (List UInt8)} {buf : Buf UInt8}
    {plane : Nat} (h : ∀ row ∈ rows, row.length = cx) (hk : k ≤ rows.length)
    (hholds : buf.Holds plane rows.flatten) :
    fpack buf plane cx k = .ok (packRows (rows.take k)) := by
  have hline : ∀ j ∈ List.range k, (do
      let b ← buf.read (plane + j * cx)
      return packLine b (← readBytes buf (plane + j * cx + 1) (cx - 1)) : Run (List UInt8)) =
      .ok (packLine ((rows.getD j []).headD 0) (rows.getD j []).tail) := by
    intro j hj
    have hj : j < rows.length := lt_of_lt_of_le (List.mem_range.1 hj) hk
    have hlen := flatten_length h
    have hle : (j + 1) * cx ≤ cx * rows.length := by
      rw [Nat.mul_comm cx]
      exact Nat.mul_le_mul_right _ hj
    rw [Nat.add_mul, Nat.one_mul] at hle
    have hrow := hholds.sub (j * cx) cx (by omega)
    rw [flatten_row h hj] at hrow
    have hcxr : rows[j].length = cx := h _ (List.getElem_mem hj)
    rw [List.getD_eq_getElem?_getD, List.getElem?_eq_getElem hj, Option.getD_some]
    cases hr : rows[j] with
    | nil =>
      rw [hr, List.length_nil] at hcxr
      omega
    | cons b row =>
      rw [hr] at hrow hcxr
      have hfits := hrow.fits
      have hb : buf.cells (plane + j * cx) = b := hrow.cells 0 (by simp)
      have htail := readBytes_ok (hrow.sub 1 cx (by simp)) (n := cx - 1) (by
        simp at hcxr ⊢
        omega)
      rw [Buf.read_ok (by omega), Run.ok_bind, hb, htail, Run.ok_bind]
      simp only [Run.pure_eq, List.headD_cons, List.tail_cons, List.drop_one]
      rw [List.take_of_length_le (l := row) (by simp at hcxr; omega),
        List.take_of_length_le (by simp at hcxr; omega)]
  rw [fpack, Run.mapM_ok hline, Run.ok_bind, Run.pure_eq, packRows, List.flatMap_def]
  congr 2
  apply List.ext_getElem
  · simp [hk]
  · intro i h1 h2
    simp only [List.length_map, List.length_range] at h1
    simp [List.getElem?_eq_getElem (lt_of_lt_of_le h1 hk)]

/-- Lines of at most two bytes: one byte more than they have, and two if they have none. -/
theorem fpack_short {cx cy : Nat} (hcx : cx ≤ 2) {buf : Buf UInt8} {plane : Nat}
    (hp : plane < buf.size) (hfit : plane + cx * cy ≤ buf.size) :
    ∃ packed, fpack buf plane cx cy = .ok packed ∧ packed.length = cy * (cx - 1 + 2) := by
  have hline : ∀ j ∈ List.range cy, (do
      let b ← buf.read (plane + j * cx)
      return packLine b (← readBytes buf (plane + j * cx + 1) (cx - 1)) : Run (List UInt8)) =
      .ok (packLine (buf.cells (plane + j * cx))
        ((List.range (cx - 1)).map fun i => buf.cells (plane + j * cx + 1 + i))) := by
    intro j hj
    have hle : (j + 1) * cx ≤ cx * cy := by
      rw [Nat.mul_comm cx]
      exact Nat.mul_le_mul_right _ (List.mem_range.1 hj)
    have hj : j * cx + 1 + (cx - 1) ≤ max 1 (cx * cy) := by
      rcases Nat.eq_zero_or_pos cx with rfl | h0
      · simp
      · rw [Nat.add_mul, Nat.one_mul] at hle
        omega
    rw [Buf.read_ok (by omega), Run.ok_bind, readBytes, if_pos (by omega)]
    rfl
  refine ⟨_, by rw [fpack, Run.mapM_ok hline]; rfl, ?_⟩
  rw [List.length_flatten, List.map_map, List.map_congr_left (g := fun _ => cx - 1 + 2)]
  · simp
  · intro j _
    simpa using @packLine_length (buf.cells (plane + j * cx))
      ((List.range (cx - 1)).map fun i => buf.cells (plane + j * cx + 1 + i))
      (by simp; omega)

/-- **A packed plane of differences is read back as its rows.** -/
theorem decodePlane_packRows {cx : Nat} (hcx : 0 < cx) {rows : List (List UInt8)}
    (h : ∀ row ∈ rows, row.length = cx) (rest : List UInt8) :
    decodePlane true cx rows.length (packRows (deltaRows rows) ++ rest) =
      some (rows.flatten, rest) := by
  have hread := decodeRows_packRows hcx (deltaRows_row h) rest
  rw [deltaRows_length] at hread
  rw [decodePlane, if_pos rfl, hread, Option.map_some]
  cases rows with
  | nil => rfl
  | cons first rows =>
    obtain ⟨hfirst, hrows⟩ := List.forall_mem_cons.1 h
    simp only [deltaRows]
    rw [undeltaRows_zipWith first rows fun r hr => (hrows r hr).trans hfirst.symm]
    rfl

end Xrdp.Bitmap
