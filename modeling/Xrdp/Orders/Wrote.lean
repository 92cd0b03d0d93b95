import Xrdp.Orders.Primary

/-!
# What is written

* `Wrote` — bytes have been put behind what was there, which is as it was.
* `xrdpOrderPackSmallOrTiny_eq` — what is left of the bits of the fields, and the flags.
* `orderBytes` — the bytes of a primary order, and `outOrder_wrote` — they are what is written.
-/

namespace Xrdp.Orders

open Wire

/-! ## Bytes behind others -/

/-- `bs` are written to `out`, which is `out'` then. -/
structure Wrote (out out' : OutStream) (bs : List UInt8) : Prop where
  data : out'.data = out.data
  p : out'.p = out.p + bs.length
  bytes : bytesAt out'.cells out.p bs.length = bs
  before : ∀ j < out.p, out'.cells j = out.cells j

namespace Wrote

variable {out out' out'' : OutStream} {bs cs : List UInt8}

theorem nil : Wrote out out [] := ⟨rfl, rfl, rfl, fun _ _ => rfl⟩

theorem put (bs : List UInt8) : Wrote out (out.put bs) bs where
  data := rfl
  p := rfl
  bytes := bytesAt_writeAt
  before := fun _ hj => writeAt_before hj

theorem skip (n : Nat) : Wrote out (out.skip n) (bytesAt out.cells out.p n) where
  data := rfl
  p := by simp [OutStream.skip]
  bytes := by simp [OutStream.skip]
  before := fun _ _ => rfl

theorem append (h : Wrote out out' bs) (h' : Wrote out' out'' cs) : Wrote out out'' (bs ++ cs) where
  data := h'.data.trans h.data
  p := by rw [h'.p, h.p, List.length_append, Nat.add_assoc]
  bytes := by
    rw [List.length_append, bytesAt_add, ← h.p, h'.bytes]
    congr 1
    calc bytesAt out''.cells out.p bs.length
      _ = bytesAt out'.cells out.p bs.length :=
        bytesAt_congr fun j _ hj => h'.before j (by rw [h.p]; exact hj)
      _ = bs := h.bytes
  before := fun j hj => (h'.before j (by rw [h.p]; omega)).trans (h.before j hj)

/-- The byte at the front is replaced. -/
theorem patch {b : UInt8} (h : Wrote out out' (b :: bs)) (b' : UInt8) :
    Wrote out { out' with cells := writeAt out'.cells out.p [b'] } (b' :: bs) where
  data := h.data
  p := h.p
  bytes := by
    have hrest : bytesAt out'.cells out.p ([b].length + bs.length) = [b] ++ bs := by
      rw [Nat.add_comm]
      exact h.bytes
    rw [bytesAt_add] at hrest
    have hrest := (List.append_inj hrest (by simp)).2
    rw [show (b' :: bs).length = [b'].length + bs.length by simp; omega, bytesAt_add,
      bytesAt_writeAt, bytesAt_writeAt_of_disjoint (.inr (Nat.le_refl _))]
    exact congrArg (b' :: ·) hrest
  before := fun j hj => (writeAt_before hj).trans (h.before j hj)

end Wrote

/-! ## The bits of the fields -/

/-- The number of zero bytes at the end. -/
def zeroTail (bs : List UInt8) : Nat := (bs.reverse.takeWhile (· = 0)).length

theorem zeroTail_concat (bs : List UInt8) (b : UInt8) :
    zeroTail (bs ++ [b]) = if b = 0 then zeroTail bs + 1 else 0 := by
  simp only [zeroTail, List.reverse_append, List.reverse_singleton, List.singleton_append,
    List.takeWhile_cons, decide_eq_true_eq]
  split <;> simp

theorem zeroTail_le (bs : List UInt8) : zeroTail bs ≤ bs.length := by
  rw [zeroTail, ← @List.length_reverse _ bs]
  exact (List.takeWhile_sublist _).length_le

theorem leBytes_succ (n v : Nat) : leBytes (n + 1) v = leBytes n v ++ [UInt8.ofNat (v >>> (n * 8))] := by
  induction n generalizing v with
  | zero => simp [leBytes]
  | succ n ih =>
    rw [leBytes, ih]
    simp only [leBytes, List.cons_append]
    congr 4
    rw [Nat.shiftRight_eq_div_pow, Nat.shiftRight_eq_div_pow, Nat.div_div_eq_div_mul]
    congr 1
    rw [Nat.add_mul, Nat.pow_add, Nat.mul_comm]

theorem writeAt_cell {cells cells' : Nat → UInt8} {j : Nat} (h : cells j = cells' j) (a : Nat)
    (bs : List UInt8) : writeAt cells a bs j = writeAt cells' a bs j := by
  simp only [writeAt, h]

/-- Bytes are written at two places that do not meet, in either order. -/
theorem writeAt_comm {cells : Nat → UInt8} {a b : Nat} {bs cs : List UInt8} (h : a + bs.length ≤ b) :
    writeAt (writeAt cells b cs) a bs = writeAt (writeAt cells a bs) b cs := by
  funext j
  rcases Nat.lt_or_ge j b with hj | hj
  · rw [writeAt_before hj]
    exact writeAt_cell (writeAt_before hj) a bs
  · rw [writeAt_behind (by omega)]
    exact writeAt_cell (writeAt_behind (by omega)).symm b cs

/-- The first loop: it writes all bytes, and counts the zero ones at the end. -/
theorem packLoop_eq (ptr present n : Nat) (cells : Nat → UInt8) (m : Nat) (keep : Bool) :
    (packLoop ptr present n (cells, m, keep)).1 = writeAt cells ptr (leBytes n present) ∧
      (packLoop ptr present n (cells, m, keep)).2.1 =
        m + if keep then zeroTail (leBytes n present) else 0 := by
  induction n generalizing cells m keep with
  | zero =>
    constructor
    · funext j
      simp [packLoop, leBytes, writeAt]
    · simp [packLoop, leBytes, zeroTail]
  | succ n ih =>
    have hcells : writeAt (writeAt cells (ptr + n) [UInt8.ofNat (present >>> (n * 8))]) ptr
        (leBytes n present) = writeAt cells ptr (leBytes (n + 1) present) := by
      rw [leBytes_succ, ← writeAt_append, leBytes_length, writeAt_comm (by simp)]
    rw [leBytes_succ, zeroTail_concat, ← leBytes_succ, packLoop]
    cases keep with
    | true =>
      by_cases hb : UInt8.ofNat (present >>> (n * 8)) = 0
      · rw [if_pos rfl, if_pos hb, (ih _ _ _).1, (ih _ _ _).2, if_pos rfl, if_pos hb, hcells]
        exact ⟨rfl, by simp; omega⟩
      · rw [if_pos rfl, if_neg hb, (ih _ _ _).1, (ih _ _ _).2, if_pos rfl, if_neg hb, hcells]
        exact ⟨rfl, by simp⟩
    | false =>
      rw [if_neg (by simp), (ih _ _ _).1, (ih _ _ _).2, hcells]
      exact ⟨rfl, by simp⟩

/-- The stream once the bits are packed: what is behind them has moved down `m` bytes. -/
theorem xrdpOrderPackSmallOrTiny_eq (out : OutStream) (orderFlagsPtr flags presentPtr present size n : Nat)
    (hp : out.p = presentPtr + size + n) :
    let bits := leBytes size present
    let m := zeroTail bits
    ∃ cells, xrdpOrderPackSmallOrTiny out orderFlagsPtr flags presentPtr present size =
        { out with
          p := out.p - m
          cells := writeAt cells orderFlagsPtr [UInt8.ofNat (flags ||| (m <<< 6))] } ∧
      bytesAt cells (presentPtr + (size - m)) n = bytesAt out.cells (presentPtr + size) n ∧
      ∀ j < presentPtr + (size - m), cells j = writeAt out.cells presentPtr bits j := by
  intro bits m
  obtain ⟨hcells, hcount⟩ := packLoop_eq presentPtr present size out.cells 0 true
  have hm : (packLoop presentPtr present size (out.cells, 0, true)).2.1 = m := by simpa using hcount
  have hle : m ≤ size := by simpa [bits] using zeroTail_le bits
  have htail : bytesAt (writeAt out.cells presentPtr bits) (presentPtr + size) n =
      bytesAt out.cells (presentPtr + size) n :=
    bytesAt_writeAt_of_disjoint (.inr (by simp [bits]))
  simp only [xrdpOrderPackSmallOrTiny, hcells, hm]
  by_cases hpos : m > 0
  · rw [if_pos hpos]
    refine ⟨_, rfl, ?_, ?_⟩
    · rw [bytesAt_copyDown (by omega) (by omega)]
      exact htail
    · intro j hj
      rw [copyDown_apply (by omega), if_neg (by omega)]
  · have hzero : m = 0 := by omega
    rw [if_neg hpos, hzero]
    exact ⟨_, by simp [bits], htail, fun _ _ => rfl⟩

/-- **The bits are packed**: those at the end that are all zero go, what is behind them moves up, and
the flags say how many have gone. -/
theorem Wrote.pack {out out' : OutStream} {c : UInt8} {type cs tail : List UInt8}
    (h : Wrote out out' ([c] ++ type ++ cs ++ tail)) (flags present : Nat) {bits : List UInt8} {m : Nat}
    (hbits : leBytes cs.length present = bits) (hm : zeroTail bits = m) :
    Wrote out (xrdpOrderPackSmallOrTiny out' out.p flags (out.p + 1 + type.length) present cs.length)
      ([UInt8.ofNat (flags ||| (m <<< 6))] ++ type ++ bits.take (cs.length - m) ++ tail) := by
  have hp := h.p
  simp only [List.length_append, List.length_singleton] at hp
  obtain ⟨cells, heq, htail, hfront⟩ := xrdpOrderPackSmallOrTiny_eq out' out.p flags
    (out.p + 1 + type.length) present cs.length tail.length (by omega)
  rw [hbits, hm] at heq htail hfront
  have hlen : bits.length = cs.length := by simp [← hbits]
  have hle : m ≤ cs.length := by
    rw [← hm, ← hlen]
    exact zeroTail_le bits
  have htake : (bits.take (cs.length - m)).length = cs.length - m := by
    rw [List.length_take]
    omega
  -- what has been there
  have hbytes := h.bytes
  simp only [List.length_append, bytesAt_add] at hbytes
  obtain ⟨hbytes, hold⟩ := List.append_inj hbytes (by simp; omega)
  obtain ⟨hbytes, -⟩ := List.append_inj hbytes (by simp; omega)
  obtain ⟨-, htype⟩ := List.append_inj hbytes (by simp)
  -- what is there
  have hbefore : ∀ j < out.p + 1 + type.length, cells j = out'.cells j := fun j hj =>
    (hfront j (by omega)).trans (writeAt_before hj)
  have hnew : ∀ a n, out.p + 1 ≤ a →
      bytesAt (writeAt cells out.p [UInt8.ofNat (flags ||| (m <<< 6))]) a n = bytesAt cells a n :=
    fun a n ha => bytesAt_writeAt_of_disjoint (.inr ha)
  rw [heq]
  refine ⟨h.data, ?_, ?_, fun j hj => ?_⟩
  · simp only [List.length_append, List.length_singleton, htake]
    omega
  · simp only [List.length_append, List.length_singleton, htake, bytesAt_add]
    congr 1
    · congr 1
      · congr 1
        · exact bytesAt_writeAt
        · rw [hnew _ _ (by omega)]
          exact (bytesAt_congr fun j _ hj => hbefore j (by omega)).trans htype
      · rw [hnew _ _ (by omega), bytesAt_congr fun j _ hj => hfront j (by omega), ← Nat.add_assoc]
        have hall : bytesAt (writeAt out'.cells (out.p + 1 + type.length) bits)
            (out.p + 1 + type.length) (cs.length - m + m) = bits := by
          rw [Nat.sub_add_cancel hle, ← hlen]
          exact bytesAt_writeAt
        rw [bytesAt_add] at hall
        have hfirst := congrArg (List.take (cs.length - m)) hall
        rwa [List.take_left' (by simp)] at hfirst
    · rw [hnew _ _ (by omega), ← Nat.add_assoc, ← Nat.add_assoc, htail]
      simpa [Nat.add_assoc] using hold
  · exact (writeAt_before hj).trans ((hbefore j (by omega)).trans (h.before j hj))

/-! ## Bounds and fields -/

/-- The bounds of an order. -/
def boundsBytes (clip rect : Rect) : List UInt8 :=
  let flags := boundsFlags clip rect
  UInt8.ofNat flags :: (boundsSide flags 0x01 0x10 rect.left clip.left 0 ++
    boundsSide flags 0x02 0x20 rect.top clip.top 0 ++
    boundsSide flags 0x04 0x40 rect.right clip.right 1 ++
    boundsSide flags 0x08 0x80 rect.bottom clip.bottom 1)

theorem xrdpOrdersOutBounds_wrote (out : OutStream) (clip rect : Rect) :
    Wrote out (xrdpOrdersOutBounds out clip rect).1 (boundsBytes clip rect) := by
  have h : Wrote out ((out.skip 1).put _) (out.cells out.p :: (boundsBytes clip rect).tail) :=
    (Wrote.skip 1).append (.put _)
  have hpatch := h.patch (UInt8.ofNat (boundsFlags clip rect))
  simp only [xrdpOrdersOutBounds, OutStream.put_put]
  exact hpatch

variable {α ρ : Type}

/-- What is remembered after an order. -/
def remembered (a : α) : List (Field α ρ) → ρ → ρ
  | [], r => r
  | f :: fs, r => remembered a fs (if f.changed a r then f.remember a r else r)

/-- The bits of the fields that are sent. -/
def fieldsPresent (a : α) : List (Field α ρ) → ρ → Nat
  | [], _ => 0
  | f :: fs, r => if f.changed a r then f.bit ||| fieldsPresent a fs (f.remember a r)
    else fieldsPresent a fs r

/-- The fields that are sent. -/
def fieldsBytes (delta : Bool) (a : α) : List (Field α ρ) → ρ → List UInt8
  | [], _ => []
  | f :: fs, r => if f.changed a r then f.bytes delta a r ++ fieldsBytes delta a fs (f.remember a r)
    else fieldsBytes delta a fs r

theorem put_nil (out : OutStream) : out.put [] = out := by
  have hcells : writeAt out.cells out.p [] = out.cells := by
    funext j
    simp [writeAt]
  simp [OutStream.put, hcells]

theorem outFields_eq (delta : Bool) (a : α) (fs : List (Field α ρ)) (out : OutStream) (present : Nat)
    (r : ρ) :
    outFields delta a fs (out, present, r) =
      (out.put (fieldsBytes delta a fs r), present ||| fieldsPresent a fs r, remembered a fs r) := by
  induction fs generalizing out present r with
  | nil =>
    simp [outFields, fieldsBytes, fieldsPresent, remembered, put_nil]
  | cons f fs ih =>
    rw [outFields, fieldsBytes, fieldsPresent, remembered]
    by_cases hf : f.changed a r
    · rw [if_pos hf, if_pos hf, if_pos hf, if_pos hf, ih, OutStream.put_put, Nat.lor_assoc]
    · rw [if_neg hf, if_neg hf, if_neg hf, if_neg hf, ih]

/-! ## An order -/

/-- The bounds in an order, if any, for a clip that is remembered. -/
def orderBounds (flags : Nat) (clip : Rect) : Option Rect → List UInt8
  | none => []
  | some rect =>
    if flags &&& TS_BOUNDS ≠ 0 ∧ flags &&& TS_ZERO_BOUNDS_DELTAS = 0 then boundsBytes clip rect
    else []

/-- The clip that is remembered after an order. -/
def orderClip (flags : Nat) (clip : Rect) : Option Rect → Rect
  | none => clip
  | some rect =>
    if flags &&& TS_BOUNDS ≠ 0 ∧ flags &&& TS_ZERO_BOUNDS_DELTAS = 0 then rect else clip

/-- The bytes of an order. -/
def orderBytes (k : Kind α ρ) (st : OrdersState) (a : α) (rect : Option Rect) : List UInt8 :=
  let flags := orderFlags k st a rect
  let bits := leBytes k.presentSize (fieldsPresent a k.fields (k.get st))
  let type := if flags &&& TS_TYPE_CHANGE ≠ 0 then [UInt8.ofNat k.type] else []
  [UInt8.ofNat (flags ||| (zeroTail bits <<< 6))] ++ type ++
    bits.take (k.presentSize - zeroTail bits) ++
    (orderBounds flags st.clip rect ++
      fieldsBytes (flags &&& TS_DELTA_COORDINATES ≠ 0) a k.fields (k.get st))

/-- The state after an order. -/
def orderState (k : Kind α ρ) (st : OrdersState) (a : α) (rect : Option Rect) : OrdersState :=
  { k.set st (remembered a k.fields (k.get st)) with
    lastOrder := k.type, clip := orderClip (orderFlags k st a rect) st.clip rect }

theorem outType_wrote (flags type : Nat) (out : OutStream) :
    Wrote out (outType flags type out)
      (if flags &&& TS_TYPE_CHANGE ≠ 0 then [UInt8.ofNat type] else []) := by
  rw [outType]
  split
  · exact .put _
  · exact .nil

theorem outClip_wrote (flags : Nat) (out : OutStream) (clip : Rect) (rect : Option Rect) :
    Wrote out (outClip flags out clip rect).1 (orderBounds flags clip rect) ∧
      (outClip flags out clip rect).2 = orderClip flags clip rect := by
  cases rect with
  | none => exact ⟨.nil, rfl⟩
  | some rect =>
    rw [outClip, orderBounds, orderClip]
    split
    · exact ⟨xrdpOrdersOutBounds_wrote out clip rect, rfl⟩
    · exact ⟨.nil, rfl⟩

/-- **What is written for an order**, and what is remembered of it. -/
theorem outOrder_wrote (k : Kind α ρ) (out : OutStream) (st : OrdersState) (a : α)
    (rect : Option Rect) :
    Wrote out (outOrder k out st a rect).1 (orderBytes k st a rect) ∧
      (outOrder k out st a rect).2 = orderState k st a rect := by
  have htype := outType_wrote (orderFlags k st a rect) k.type (out.skip 1)
  obtain ⟨hclip, hmem⟩ := outClip_wrote (orderFlags k st a rect)
    ((outType (orderFlags k st a rect) k.type (out.skip 1)).skip k.presentSize) st.clip rect
  have hall := (((Wrote.skip 1).append htype).append (.skip k.presentSize)).append
    (hclip.append (.put (fieldsBytes (orderFlags k st a rect &&& TS_DELTA_COORDINATES ≠ 0) a k.fields
      (k.get st))))
  have hpack := hall.pack (c := out.cells out.p) (orderFlags k st a rect)
    (fieldsPresent a k.fields (k.get st)) rfl rfl
  have hptr : (outType (orderFlags k st a rect) k.type (out.skip 1)).p = out.p + 1 +
      (if orderFlags k st a rect &&& TS_TYPE_CHANGE ≠ 0 then [UInt8.ofNat k.type] else []).length :=
    htype.p
  rw [bytesAt_length] at hpack
  simp only [outOrder, outFields_eq, hmem, hptr, Nat.zero_or]
  exact ⟨hpack, rfl⟩

end Xrdp.Orders
