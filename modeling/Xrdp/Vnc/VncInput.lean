import Xrdp.Lib.Runs
import Xrdp.Vnc.Vnc

/-!
# What a VNC server can make the module compute

* `Access.Right`, `Vnc.Sound` — what is promised of all that has been computed.
* `RectFits`, `Vnc.MessageFits` — the condition on a rectangle, and on a message.
* `vnc_input_iff` — the servers with which it holds.
-/

namespace Xrdp.VncClient

open Runs

/-! ## What is promised -/

/-- A size is what it should be; no more is skipped than there is; and cells are where there are some. -/
def Access.Right : Access → Prop
  | .size computed meant => computed = meant
  | .skip length left => 0 ≤ length ∧ length ≤ left
  | .cells place count limit => 0 ≤ place ∧ place + count ≤ limit

/-- All has been computed right. -/
def Vnc.Sound (v : Vnc) : Prop := ∀ a ∈ v.accesses, a.Right

/-! ## When it holds -/

/-- Raw pixels have a size that is an `int`, and so has a cursor with its mask. -/
def RectFits (bpp : Nat) (r : Rect) : Prop :=
  if r.encoding = 0 then r.cx * r.cy * bytesPerPixel bpp < 2 ^ 31
  else if r.encoding = 0xffffff11 then
    r.cx * r.cy * bytesPerPixel bpp + (r.cx + 7) / 8 * r.cy < 2 ^ 31
  else True

namespace Vnc

/-- The next rectangle, if its header comes. -/
def NextFits (v : Vnc) : Prop :=
  ∀ bytes v', v.forceRead 8192 12 = (some bytes, v') → RectFits v.modBpp (.ofBytes bytes)

/-- The rectangles up to the first that has an error. -/
def RectanglesFit (fails : Nat → Bool) : Nat → Vnc → Prop
  | 0, _ => True
  | n + 1, v => v.NextFits ∧ ∀ v', v.nextRectangle fails = (false, v') → RectanglesFit fails n v'

/-- A framebuffer update. -/
def UpdateFits (fails : Nat → Bool) (v : Vnc) : Prop :=
  ∀ bytes v' v'', v.forceRead 8192 3 = (some bytes, v') → v'.call fails .beginUpdate = (false, v'') →
    v''.RectanglesFit fails (beVal (bytes.drop 1))

/-- The colours of a palette, if they come, are some of the first 256. -/
def PaletteFits (v : Vnc) : Prop :=
  ∀ bytes v' colors v'', v.forceRead 8192 5 = (some bytes, v') →
    v'.forceRead 8192 (beVal (bytes.drop 3) * 6) = (some colors, v'') →
    beVal (bytes.drop 3) = 0 ∨ beVal ((bytes.drop 1).take 2) + beVal (bytes.drop 3) ≤ 256

/-- A text has a size that is an `int`. -/
def ClipFits (v : Vnc) : Prop :=
  ∀ bytes v', { v with clipDataS := none }.forceRead 8192 7 = (some bytes, v') →
    beVal (bytes.drop 3) < 2 ^ 31

/-- The condition on the next message. -/
def MessageFits (fails : Nat → Bool) (v : Vnc) : Prop :=
  v.up = true → ∀ type incoming, v.incoming = type :: incoming →
    let v := { v with incoming := incoming }
    if type = 0 then v.UpdateFits fails
    else if type = 1 then v.PaletteFits
    else if type = 3 then v.ClipFits
    else True

end Vnc

/-! ## Numbers -/

theorem int32_eq_iff (n : Nat) : int32 n = n ↔ n < 2 ^ 31 := by
  unfold int32
  omega

theorem int32_eq {n : Nat} (h : n < 2 ^ 31) : int32 n = n := (int32_eq_iff n).2 h

theorem beVal_lt (bs : List UInt8) : beVal bs < 256 ^ bs.length := by
  have hlt := Wire.leVal_lt bs.reverse
  rwa [List.length_reverse] at hlt

theorem beVal_take_two_lt (bs : List UInt8) : beVal (bs.take 2) < 65536 := by
  have hlt := beVal_lt (bs.take 2)
  have hpow : 256 ^ (bs.take 2).length ≤ 256 ^ 2 :=
    Nat.pow_le_pow_right (by decide) (List.length_take_le 2 bs)
  omega

theorem ofBytes_lt (bytes : List UInt8) :
    (Rect.ofBytes bytes).cx < 65536 ∧ (Rect.ofBytes bytes).cy < 65536 :=
  ⟨beVal_take_two_lt _, beVal_take_two_lt _⟩

/-- A cell of a table with rows one after another. -/
theorem cell_lt {x y w h : Nat} (hx : x < w) (hy : y < h) : y * w + x < w * h := by
  have hrow : (y + 1) * w ≤ h * w := Nat.mul_le_mul_right w hy
  rw [Nat.add_mul, Nat.one_mul, Nat.mul_comm h w] at hrow
  omega

/-! ## Reads and calls -/

namespace Vnc

@[simp] theorem forceRead_accesses (v : Vnc) (room : Nat) (size : Int) :
    (v.forceRead room size).2.accesses = v.accesses := by
  unfold forceRead
  split_ifs <;> rfl

@[simp] theorem forceRead_modBpp (v : Vnc) (room : Nat) (size : Int) :
    (v.forceRead room size).2.modBpp = v.modBpp := by
  unfold forceRead
  split_ifs <;> rfl

/-- What a read comes to. -/
theorem forceRead_some {v v' : Vnc} {room : Nat} {size : Int} {bytes : List UInt8}
    (h : v.forceRead room size = (some bytes, v')) :
    v.up = true ∧ (size ≤ 0 ∧ bytes = [] ∧ v' = v ∨
      0 < size ∧ size ≤ room ∧ size ≤ v.incoming.length ∧ bytes = v.incoming.take size.toNat ∧
        v' = { v with incoming := v.incoming.drop size.toNat }) := by
  unfold forceRead at h
  split at h
  · cases h
  rename_i hup
  refine ⟨by simpa using hup, ?_⟩
  split at h
  · rename_i hle
    cases h
    exact .inl ⟨hle, rfl, rfl⟩
  rename_i hpos
  split at h
  · cases h
  rename_i hroom
  split at h
  · cases h
  rename_i hlength
  cases h
  exact .inr ⟨Int.not_le.1 hpos, Int.not_lt.1 hroom, Int.not_lt.1 hlength, rfl, rfl⟩

theorem forceRead_length {v v' : Vnc} {room : Nat} {size : Int} {bytes : List UInt8}
    (h : v.forceRead room size = (some bytes, v')) : (bytes.length : Int) = max size 0 := by
  obtain ⟨-, ⟨hle, rfl, -⟩ | ⟨hpos, -, hlength, rfl, -⟩⟩ := forceRead_some h
  · rw [List.length_nil]
    omega
  · rw [List.length_take]
    omega

/-- The connection is up after a read. -/
theorem forceRead_up {v v' : Vnc} {room : Nat} {size : Int} {bytes : List UInt8}
    (h : v.forceRead room size = (some bytes, v')) : v'.up = true := by
  obtain ⟨hup, ⟨-, -, rfl⟩ | ⟨-, -, -, -, rfl⟩⟩ := forceRead_some h
  · exact hup
  · exact hup

/-- Nothing is read of a size that is negative. -/
theorem forceRead_of_neg {v : Vnc} (hup : v.up = true) (room : Nat) {size : Int} (h : size ≤ 0) :
    v.forceRead room size = (some [], v) := by
  unfold forceRead
  rw [if_neg (by simp [hup]), if_pos h]

theorem sound_record {v : Vnc} {accesses : List Access} :
    (v.record accesses).Sound ↔ v.Sound ∧ ∀ a ∈ accesses, a.Right := by
  unfold Sound record
  simp only [List.mem_append, or_imp, forall_and]

theorem sound_congr {v v' : Vnc} (h : v'.accesses = v.accesses) : v'.Sound ↔ v.Sound := by
  unfold Sound
  rw [h]

/-- What is computed after a read. -/
theorem sound_reading {v : Vnc} {room : Nat} {size : Int} {f : List UInt8 → Vnc → Handled}
    {fits : Prop} (hnone : (v.forceRead room size).1 = none → fits)
    (hsome : ∀ bytes v', v.forceRead room size = (some bytes, v') → v'.Sound = v.Sound →
      ((f bytes v').2.Sound ↔ v.Sound ∧ fits)) :
    (reading (v.forceRead room size) f).2.Sound ↔ v.Sound ∧ fits := by
  have haccesses := forceRead_accesses v room size
  obtain ⟨o, v', hread⟩ : ∃ o v', v.forceRead room size = (o, v') := ⟨_, _, rfl⟩
  rw [hread] at hnone haccesses ⊢
  have hsound : v'.Sound ↔ v.Sound := sound_congr haccesses
  cases o with
  | none =>
    show v'.Sound ↔ _
    rw [hsound]
    exact (and_iff_left (hnone rfl)).symm
  | some bytes => exact hsome bytes v' hread (propext hsound)

/-- What is computed after a step that may have an error. -/
theorem sound_andThen {r : Handled} {v : Vnc} {f : Vnc → Handled} {fits fits' : Prop}
    (hr : r.2.Sound ↔ v.Sound ∧ fits)
    (hf : ∀ v', r = (false, v') → ((f v').2.Sound ↔ v'.Sound ∧ fits'))
    (hfails : r.1 = true → fits') : (andThen r f).2.Sound ↔ v.Sound ∧ fits ∧ fits' := by
  obtain ⟨error, v'⟩ := r
  cases error with
  | true =>
    show v'.Sound ↔ _
    rw [hr, ← and_assoc]
    exact (and_iff_left (hfails rfl)).symm
  | false =>
    show (f v').2.Sound ↔ _
    rw [hf v' rfl, ← and_assoc]
    exact and_congr_left fun _ => hr

theorem sound_call (fails : Nat → Bool) (v : Vnc) (c : ServerCall) :
    (v.call fails c).2.Sound ↔ v.Sound := sound_congr rfl

/-- Nothing is computed after a read. -/
theorem quiet_reading {v : Vnc} {room : Nat} {size : Int} {f : List UInt8 → Vnc → Handled}
    (hf : ∀ bytes v', (f bytes v').2.Sound ↔ v'.Sound) :
    (reading (v.forceRead room size) f).2.Sound ↔ v.Sound := by
  have haccesses := forceRead_accesses v room size
  obtain ⟨o, v', hread⟩ : ∃ o v', v.forceRead room size = (o, v') := ⟨_, _, rfl⟩
  rw [hread] at haccesses ⊢
  cases o with
  | none => exact sound_congr haccesses
  | some bytes => exact (hf bytes v').trans (sound_congr haccesses)

/-- Nothing is computed after a step. -/
theorem quiet_andThen {r : Handled} {f : Vnc → Handled} (hf : ∀ v', (f v').2.Sound ↔ v'.Sound) :
    (andThen r f).2.Sound ↔ r.2.Sound := by
  obtain ⟨error, v'⟩ := r
  cases error with
  | true => exact Iff.rfl
  | false => exact hf v'

end Vnc

/-! ## Pixels of a cursor -/

theorem getPixelSafe_mask {x y width height place count : Nat}
    (h : getPixelSafe x y width height 1 = some (place, count)) :
    place + count ≤ (width + 7) / 8 * height := by
  unfold getPixelSafe at h
  split at h
  · cases h
  rename_i hx
  split at h
  · cases h
  rename_i hy
  rw [if_pos rfl] at h
  cases h
  exact cell_lt (by omega) (Nat.not_le.1 hy)

/-- The bytes of a pixel are those of the raw pixels. -/
theorem getPixelSafe_le {x y width height bpp place count : Nat}
    (h : getPixelSafe x y width height bpp = some (place, count)) :
    place + count ≤ width * height * bytesPerPixel bpp := by
  unfold getPixelSafe at h
  split at h
  · cases h
  rename_i hx
  split at h
  · cases h
  rename_i hy
  have hcell := cell_lt (Nat.not_le.1 hx) (Nat.not_le.1 hy)
  have hpacked : ∀ w, w ≤ width → w * height ≤ width * height := fun w hw => Nat.mul_le_mul_right _ hw
  split at h
  · rename_i hbpp
    subst hbpp
    cases h
    have hlt : y * ((width + 7) / 8) + x / 8 < (width + 7) / 8 * height :=
      cell_lt (by omega) (Nat.not_le.1 hy)
    exact Nat.le_trans hlt ((hpacked _ (by omega)).trans (Nat.mul_one _).ge)
  split at h
  · rename_i hbpp
    subst hbpp
    cases h
    have hlt : y * ((width + 1) / 2) + x / 2 < (width + 1) / 2 * height :=
      cell_lt (by omega) (Nat.not_le.1 hy)
    exact Nat.le_trans hlt ((hpacked _ (by omega)).trans (Nat.mul_one _).ge)
  split at h
  · rename_i hbpp
    subst hbpp
    cases h
    exact Nat.le_trans hcell (Nat.mul_one _).ge
  split at h
  · rename_i hbpp
    have htwo : bytesPerPixel bpp = 2 := by rcases hbpp with rfl | rfl <;> rfl
    cases h
    rw [htwo]
    omega
  split at h
  · rename_i hbpp
    have hfour : bytesPerPixel bpp = 4 := by rcases hbpp with rfl | rfl <;> rfl
    cases h
    rw [hfour]
    omega
  · cases h

/-- All pixels that are read have been received, and the pixels of the pointer are in their arrays. -/
theorem cursorPixel_right {bpp cx cy x y : Nat} {received : List UInt8}
    (hlength : received.length = cx * cy * bytesPerPixel bpp + (cx + 7) / 8 * cy) (hx : x < 32)
    (hy : y < 32) :
    ∀ a ∈ Vnc.cursorPixel bpp cx cy (cx * cy * bytesPerPixel bpp : Nat) received x y, a.Right := by
  have hmask : (Access.cells (y * 4 + x / 8) 1 128).Right := ⟨by omega, by omega⟩
  have hdata : (Access.cells (3 * (y * 32 + x)) 3 3072).Right := ⟨by omega, by omega⟩
  unfold Vnc.cursorPixel
  cases hbit : getPixelSafe x (31 - y) cx cy 1 with
  | none => exact List.forall_mem_singleton.2 hmask
  | some cell =>
    obtain ⟨at₂, n₂⟩ := cell
    have hle := getPixelSafe_mask hbit
    have hread : (Access.cells ((cx * cy * bytesPerPixel bpp : Nat) + at₂) n₂ received.length).Right :=
      ⟨by omega, by omega⟩
    dsimp only
    refine List.forall_mem_append.2
      ⟨List.forall_mem_cons.2 ⟨hread, List.forall_mem_singleton.2 hmask⟩, ?_⟩
    split
    · refine List.forall_mem_append.2 ⟨?_, List.forall_mem_singleton.2 hdata⟩
      cases hcolor : getPixelSafe x (31 - y) cx cy bpp with
      | none => exact List.forall_mem_nil _
      | some cell =>
        obtain ⟨at₁, n₁⟩ := cell
        have hle' := getPixelSafe_le hcolor
        have hbyte := UInt8.toNat_lt (received.getD at₁ 0)
        refine List.forall_mem_cons.2 ⟨⟨by omega, by omega⟩, ?_⟩
        split
        · exact List.forall_mem_singleton.2 ⟨by omega, by omega⟩
        · exact List.forall_mem_nil _
    · exact List.forall_mem_nil _

theorem cursorPixels_right {bpp cx cy : Nat} {received : List UInt8}
    (hlength : received.length = cx * cy * bytesPerPixel bpp + (cx + 7) / 8 * cy) :
    ∀ a ∈ Vnc.cursorPixels bpp cx cy (cx * cy * bytesPerPixel bpp : Nat) received, a.Right := by
  intro a ha
  obtain ⟨y, hy, ha⟩ := List.mem_flatMap.1 ha
  obtain ⟨x, hx, ha⟩ := List.mem_flatMap.1 ha
  exact cursorPixel_right hlength (List.mem_range.1 hx) (List.mem_range.1 hy) a ha

/-! ## Rectangles -/

namespace Vnc

theorem raw_sound (fails : Nat → Bool) (v : Vnc) (r : Rect) :
    (v.raw fails r).2.Sound ↔ v.Sound ∧ r.cx * r.cy * bytesPerPixel v.modBpp < 2 ^ 31 := by
  unfold raw
  dsimp only
  rw [quiet_reading fun _ v' => sound_call fails v' _, sound_record, ← int32_eq_iff]
  simp [Access.Right]

theorem copyRect_sound (fails : Nat → Bool) (v : Vnc) (r : Rect) :
    (v.copyRect fails r).2.Sound ↔ v.Sound := by
  unfold copyRect
  exact quiet_reading fun _ v' => sound_call fails v' _

/-- Nothing is forgotten that has been computed before a read. -/
theorem sound_of_reading {v : Vnc} {room : Nat} {size : Int} {f : List UInt8 → Vnc → Handled}
    (hf : ∀ bytes v', (f bytes v').2.Sound → v'.Sound)
    (h : (reading (v.forceRead room size) f).2.Sound) : v.Sound := by
  have haccesses := forceRead_accesses v room size
  obtain ⟨o, v', hread⟩ : ∃ o v', v.forceRead room size = (o, v') := ⟨_, _, rfl⟩
  rw [hread] at h haccesses
  cases o with
  | none => exact (sound_congr haccesses).1 h
  | some bytes => exact (sound_congr haccesses).1 (hf bytes v' h)

theorem cursor_sound (fails : Nat → Bool) (v : Vnc) (r : Rect) (hup : v.up = true)
    (hcy : r.cy < 65536) (hcx : r.cx < 65536) :
    (v.cursor fails r).2.Sound ↔
      v.Sound ∧ r.cx * r.cy * bytesPerPixel v.modBpp + (r.cx + 7) / 8 * r.cy < 2 ^ 31 := by
  have hmask : (r.cx + 7) / 8 * r.cy ≤ 8192 * 65536 := Nat.mul_le_mul (by omega) hcy.le
  have hk : int32 ((r.cx + 7) / 8 * r.cy : Nat) = ((r.cx + 7) / 8 * r.cy : Nat) := int32_eq (by omega)
  have hcast : (r.cx * r.cy * bytesPerPixel v.modBpp : Int) =
      (r.cx * r.cy * bytesPerPixel v.modBpp : Nat) := by
    push_cast
    rfl
  have hpixels := fun received => @cursorPixels_right v.modBpp r.cx r.cy received
  unfold cursor
  dsimp only
  rw [hk, hcast]
  generalize r.cx * r.cy * bytesPerPixel v.modBpp = pixels at *
  generalize (r.cx + 7) / 8 * r.cy = bits at *
  by_cases hsize : pixels < 2 ^ 31
  · rw [int32_eq hsize]
    have hsizes : ((v.record [.size pixels pixels, .size bits bits]).Sound ↔ v.Sound) := by
      rw [sound_record]
      simp [Access.Right]
    by_cases hfits : pixels + bits < 2 ^ 31
    · have hsum : int32 ((pixels : Int) + bits) = (pixels + bits : Nat) := by
        rw [← Nat.cast_add]
        exact int32_eq hfits
      rw [hsum, and_iff_left hfits, ← hsizes]
      refine (sound_reading (fun _ => trivial) ?_).trans (and_iff_left trivial)
      intro received v' hread heq
      have hlength := forceRead_length hread
      have hbpp : v'.modBpp = v.modBpp := by
        have hkept := forceRead_modBpp (v.record [.size pixels pixels, .size bits bits])
          (max 8192 ((pixels + bits : Nat) : Int).toNat) ((pixels + bits : Nat) : Int)
        rw [hread] at hkept
        exact hkept
      rw [sound_call, sound_record, heq, and_true, and_iff_left]
      rw [hbpp]
      intro a ha
      rcases List.mem_append.1 ha with hskip | hpixel
      · rw [List.mem_cons, List.mem_singleton] at hskip
        rcases hskip with rfl | rfl
        · exact ⟨by omega, by omega⟩
        · exact ⟨by omega, by omega⟩
      · exact hpixels received (by omega) a hpixel
    · refine iff_of_false (fun hsound => ?_) fun hall => hfits hall.2
      have hneg : int32 ((pixels : Int) + bits) ≤ 0 := by
        unfold int32
        omega
      rw [forceRead_of_neg (v := v.record [.size pixels pixels, .size bits bits]) hup _ hneg] at hsound
      have hskip := hsound (.skip pixels (([] : List UInt8).length)) (by simp [reading, call, record])
      have hzero : (pixels : Int) ≤ 0 := hskip.2
      omega
  · refine iff_of_false (fun hsound => ?_) fun hall => hsize (by omega)
    have hbefore := sound_of_reading (fun bytes v' h => (sound_record.1 ((sound_call _ _ _).1 h)).1) hsound
    have hright := (sound_record.1 hbefore).2 (.size (int32 pixels) pixels) (by simp)
    exact hsize ((int32_eq_iff pixels).1 hright)

theorem rectangle_sound (fails : Nat → Bool) (v : Vnc) (r : Rect) (hup : v.up = true)
    (hcx : r.cx < 65536) (hcy : r.cy < 65536) :
    (v.rectangle fails r).2.Sound ↔ v.Sound ∧ RectFits v.modBpp r := by
  unfold rectangle RectFits
  by_cases hraw : r.encoding = 0
  · rw [if_pos hraw, if_pos hraw]
    exact raw_sound fails v r
  rw [if_neg hraw, if_neg hraw]
  by_cases hcopy : r.encoding = 1
  · rw [if_pos hcopy, if_neg (by omega), and_true]
    exact copyRect_sound fails v r
  rw [if_neg hcopy]
  by_cases hcursor : r.encoding = 0xffffff11
  · rw [if_pos hcursor, if_pos hcursor]
    exact cursor_sound fails v r hup hcy hcx
  rw [if_neg hcursor, if_neg hcursor, and_true]
  split
  · exact sound_call fails _ _
  · exact sound_call fails v .msg

theorem nextRectangle_sound (fails : Nat → Bool) (v : Vnc) :
    (v.nextRectangle fails).2.Sound ↔ v.Sound ∧ v.NextFits := by
  unfold nextRectangle NextFits
  refine sound_reading (fun hnone bytes v' hread => ?_) fun bytes v' hread heq => ?_
  · rw [hread] at hnone
    cases hnone
  · have hbpp : v'.modBpp = v.modBpp := by
      have hkept := forceRead_modBpp v 8192 12
      rwa [hread] at hkept
    obtain ⟨hcx, hcy⟩ := ofBytes_lt bytes
    rw [rectangle_sound fails v' (.ofBytes bytes) (forceRead_up hread) hcx hcy, heq, hbpp]
    refine and_congr_right fun _ => ⟨fun hfits bytes' v'' hread' => ?_, fun hall => hall bytes v' hread⟩
    rw [hread] at hread'
    cases hread'
    exact hfits

theorem rectangles_sound (fails : Nat → Bool) (n : Nat) (v : Vnc) :
    (v.rectangles fails n).2.Sound ↔ v.Sound ∧ v.RectanglesFit fails n := by
  induction n generalizing v with
  | zero => exact (and_iff_left trivial).symm
  | succ n ih =>
    refine sound_andThen (nextRectangle_sound fails v) (fun v' hnext => ?_) fun herror v' hnext => ?_
    · rw [ih v']
      refine and_congr_right fun _ => ⟨fun hfits v'' hnext' => ?_, fun hall => hall v' hnext⟩
      rw [hnext] at hnext'
      cases hnext'
      exact hfits
    · rw [hnext] at herror
      cases herror

/-! ## Messages -/

theorem update_sound (fails : Nat → Bool) (v : Vnc) :
    (v.libFramebufferUpdate fails).2.Sound ↔ v.Sound ∧ v.UpdateFits fails := by
  unfold libFramebufferUpdate UpdateFits
  refine sound_reading (fun hnone bytes v' v'' hread => ?_) fun bytes v' hread heq => ?_
  · rw [hread] at hnone
    cases hnone
  · cases hbegin : fails v'.calls.length with
    | true =>
      have hcall : v'.call fails .beginUpdate = (true, { v' with calls := v'.calls ++ [.beginUpdate] }) :=
        Prod.ext hbegin rfl
      rw [hcall, and_iff_left, ← heq]
      · exact sound_congr rfl
      · intro bytes' w w' hread' hcall'
        rw [hread] at hread'
        cases hread'
        rw [hcall] at hcall'
        cases hcall'
    | false =>
      have hcall : v'.call fails .beginUpdate = (false, { v' with calls := v'.calls ++ [.beginUpdate] }) :=
        Prod.ext hbegin rfl
      rw [hcall]
      have hrest : ∀ w : Vnc, (andThen (w.call fails .endUpdate) fun v =>
          if v.suppressOutput then (false, v) else v.call fails .updateRequest).2.Sound ↔ w.Sound := by
        intro w
        refine (quiet_andThen fun w' => ?_).trans (sound_call fails w .endUpdate)
        split
        · exact Iff.rfl
        · exact sound_call fails w' .updateRequest
      refine (quiet_andThen hrest).trans ((rectangles_sound fails _ _).trans ?_)
      rw [← heq]
      refine and_congr (sound_congr rfl) ⟨fun hfits bytes' w w' hread' hcall' => ?_,
        fun hall => hall bytes v' _ hread hcall⟩
      rw [hread] at hread'
      cases hread'
      rw [hcall] at hcall'
      cases hcall'
      exact hfits

theorem setColors_sound (firstColor : Nat) (colors : List UInt8) (is : List Nat) (v : Vnc) :
    (is.foldl (setColor firstColor colors) v).Sound ↔ v.Sound ∧ ∀ i ∈ is, firstColor + i < 256 := by
  induction is generalizing v with
  | nil => simp
  | cons i is ih =>
    have hright : (Access.cells ((firstColor : Int) + i) 1 256).Right ↔ firstColor + i < 256 := by
      unfold Access.Right
      omega
    rw [List.foldl_cons, ih, setColor, sound_record, List.forall_mem_singleton, hright,
      List.forall_mem_cons, and_assoc]
    exact and_congr_left fun _ => sound_congr rfl

theorem palette_sound (fails : Nat → Bool) (v : Vnc) :
    (v.libPaletteUpdate fails).2.Sound ↔ v.Sound ∧ v.PaletteFits := by
  unfold libPaletteUpdate PaletteFits
  refine sound_reading (fun hnone bytes v' colors v'' hread => ?_) fun bytes v' hread heq => ?_
  · rw [hread] at hnone
    cases hnone
  rw [← heq]
  refine sound_reading (fun hnone bytes' w colors w' hread' hcolors => ?_) fun colors v'' hcolors heq' => ?_
  · rw [hread] at hread'
    cases hread'
    rw [hcolors] at hnone
    cases hnone
  have hcalls : ∀ w : Vnc, (andThen (w.call fails .beginUpdate) fun w =>
      andThen (w.call fails .palette) fun w => w.call fails .endUpdate).2.Sound ↔ w.Sound := by
    intro w
    refine (quiet_andThen fun w' => ?_).trans (sound_call fails w .beginUpdate)
    exact (quiet_andThen fun w'' => sound_call fails w'' .endUpdate).trans (sound_call fails w' .palette)
  rw [hcalls, setColors_sound, heq']
  refine and_congr_right fun _ => ⟨fun hall bytes' w colors' w' hread' hcolors' => ?_, fun hall i hi => ?_⟩
  · rw [hread] at hread'
    cases hread'
    by_contra hnot
    have hlast := hall (beVal (bytes.drop 3) - 1) (List.mem_range.2 (by omega))
    omega
  · have hlt := List.mem_range.1 hi
    have hfits := hall bytes v' colors v'' hread hcolors
    omega

theorem clip_sound (fails : Nat → Bool) (v : Vnc) :
    (v.libClipData fails).2.Sound ↔ v.Sound ∧ v.ClipFits := by
  unfold libClipData ClipFits
  have hsame : Sound { v with clipDataS := none } ↔ v.Sound := sound_congr rfl
  rw [← hsame]
  refine sound_reading (fun hnone bytes v' hread => ?_) fun bytes v' hread heq => ?_
  · rw [hread] at hnone
    cases hnone
  dsimp only
  rw [quiet_reading fun _ w => sound_call fails w _, sound_record, List.forall_mem_singleton, ← heq]
  refine and_congr (sound_congr rfl) ?_
  constructor
  · intro hright bytes' w hread'
    rw [hread] at hread'
    cases hread'
    exact (int32_eq_iff _).1 hright
  · exact fun hall => (int32_eq_iff _).2 (hall bytes v' hread)

theorem libModProcessMessage_sound (fails : Nat → Bool) (v : Vnc) (type : UInt8) :
    (v.libModProcessMessage fails type).2.Sound ↔ v.Sound ∧
      (if type = 0 then v.UpdateFits fails
      else if type = 1 then v.PaletteFits
      else if type = 3 then v.ClipFits
      else True) := by
  unfold libModProcessMessage
  by_cases hupdate : type = 0
  · rw [if_pos hupdate, if_pos hupdate]
    exact update_sound fails v
  rw [if_neg hupdate, if_neg hupdate]
  by_cases hpalette : type = 1
  · rw [if_pos hpalette, if_pos hpalette]
    exact palette_sound fails v
  rw [if_neg hpalette, if_neg hpalette]
  by_cases hbell : type = 2
  · rw [if_pos hbell, if_neg (by rw [hbell]; decide), and_true]
    exact sound_call fails v .bellTrigger
  rw [if_neg hbell]
  by_cases hclip : type = 3
  · rw [if_pos hclip, if_pos hclip]
    exact clip_sound fails v
  rw [if_neg hclip, if_neg hclip, and_true]
  exact sound_call fails v .msg

/-- **A message** is computed with right just if it meets its condition. -/
theorem libDataIn_sound (fails : Nat → Bool) (v : Vnc) :
    (v.libDataIn fails).Sound ↔ v.Sound ∧ v.MessageFits fails := by
  obtain ⟨incoming, up, modBpp, modWidth, modHeight, palette, suppressOutput, clipDataS, accesses,
    calls⟩ := v
  unfold libDataIn MessageFits
  cases up with
  | false => simp
  | true =>
    cases incoming with
    | nil => simp
    | cons type incoming =>
      have hmessage := libModProcessMessage_sound fails ⟨incoming, true, modBpp, modWidth, modHeight,
        palette, suppressOutput, clipDataS, accesses, calls⟩ type
      dsimp only
      generalize libModProcessMessage fails ⟨incoming, true, modBpp, modWidth, modHeight, palette,
        suppressOutput, clipDataS, accesses, calls⟩ type = r at hmessage ⊢
      obtain ⟨error, v'⟩ := r
      have hresult : Sound (match ((error, v') : Handled) with
          | (true, v) => { v with up := false }
          | (false, v) => v) ↔ v'.Sound := by
        cases error with
        | true => exact sound_congr rfl
        | false => exact Iff.rfl
      refine hresult.trans (hmessage.trans (and_congr (sound_congr rfl) ?_))
      simp

end Vnc

/-! ## Servers -/

/-- The module when it is connected; `incoming` is all that the server will send. -/
def Vnc.start (modBpp modWidth modHeight : Nat) (incoming : List UInt8) : Vnc where
  incoming := incoming
  up := true
  modBpp := modBpp
  modWidth := modWidth
  modHeight := modHeight
  palette := fun _ => 0
  suppressOutput := false
  clipDataS := none
  accesses := []
  calls := []

/-- A message is handled; `fails` tells which calls have an error. -/
def VncNext (v : Vnc) (fails : Nat → Bool) (v' : Vnc) : Prop := v.libDataIn fails = v'

theorem vncNext_det (v : Vnc) (fails : Nat → Bool) (v₁ v₂ : Vnc) (h₁ : VncNext v fails v₁)
    (h₂ : VncNext v fails v₂) : v₁ = v₂ := Eq.trans (Eq.symm h₁) h₂

/-- **What a VNC server sends**: all that is computed from it is right, just if its raw rectangles and
its cursors have sizes that are an `int`, as its texts have, and its palettes end with colour 255. -/
theorem vnc_input_iff (modBpp modWidth modHeight : Nat) (incoming : List UInt8)
    (fs : List (Nat → Bool)) :
    Always VncNext Vnc.Sound (.start modBpp modWidth modHeight incoming) fs ↔
      AllFit VncNext (fun v fails => v.MessageFits fails) (.start modBpp modWidth modHeight incoming)
        fs := by
  have hstart : Vnc.Sound (.start modBpp modWidth modHeight incoming) := by simp [Vnc.Sound, Vnc.start]
  refine always_iff vncNext_det (fun v (h : v.Sound) => h) (fun v fails h => ?_) hstart fs
  refine .of_next vncNext_det rfl ?_ id
  rw [Vnc.libDataIn_sound]
  exact and_iff_right h

/-- A palette update with one colour, at 65535. -/
theorem palette_behind_its_end :
    ∃ v', Leads VncNext (.start 24 640 480 [1, 0, 255, 255, 0, 1, 0, 0, 0, 0, 0, 0]) [fun _ => false] v' ∧
      v'.accesses = [.cells 65535 1 256] ∧ ¬ v'.Sound := by
  refine ⟨_, leads_fun.2 rfl, by decide, fun h => ?_⟩
  have hright := (h (.cells 65535 1 256) (by decide)).2
  omega

end Xrdp.VncClient
