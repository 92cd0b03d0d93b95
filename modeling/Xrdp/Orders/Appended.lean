import Xrdp.Orders.OrderTypes

/-!
# What a call puts into the stream

* `Call.maxSize` — the size that a call declares, if it asks for room at all.
* `SecondaryCall.size` — how much a secondary order comes to.
* `Grows` — bytes have been put behind what was there, whatever they are.
* `Call.run_appends` — a call that gets the room counts one order and puts its bytes at the end.
* `Call.run_refused` — a call that does not leaves everything.
-/

namespace Xrdp.Orders

open Wire

/-- A session with few options, and a transport that does not fail. -/
def Env.plain (useFastPath op2 : Bool) : Env where
  maxFastpathFragBytes := 16 * 1024
  useFastPath := useFastPath
  op2 := op2
  useCacheGlyphV2 := true
  v3CodecId := 0
  rfxCodecId := 0
  jpegCodecId := 0
  compress := fun _ _ => (0, [])
  rfxCompress := none
  jpegCompress := none
  rfxMinPixel := 64 * 32
  headerBytes := 6
  sendOk := fun _ => true
  afterSend := id

/-! ## Declared sizes -/

def PrimaryCall.maxSize (c : PrimaryCall) : Int := c.order.kind.maxSize c.order.args

/-- The data of a bitmap of the third revision, if it is sent in that way. -/
def v3Data (env : Env) (b : Bitmap) (hints : Int) : Option (List UInt8) :=
  if env.v3CodecId = 0 then none
  else if env.v3CodecId = env.rfxCodecId then
    if sendAs b hints env.rfxMinPixel then env.rfxCompress.map (· b) else none
  else if env.v3CodecId = env.jpegCodecId then
    if sendAs b hints 64 then env.jpegCompress.map (· b) else none
  else none

/-- The bytes of the lines that are sent as they are, behind so many of the header. -/
def Bitmap.bufsize (b : Bitmap) (env : Env) (header : Nat) : Nat :=
  b.lineBytes * b.rawLines header env.maxOrdersSize b.height

/-- What is declared, unless a bitmap is too large or not sent in that way. -/
def SecondaryCall.maxSize (env : Env) : SecondaryCall → Option Int
  | palette _ _ => some 2000
  | rawBitmap b _ _ => if b.width > 64 ∨ b.height > 64 then none else some (b.bufsize env 16 + 16)
  | bitmap b _ _ => if b.width > 64 ∨ b.height > 64 then none
    else some ((env.compress b env.maxOrdersSize).2.length + 16)
  | font c _ _ => some (c.datasize + if env.useCacheGlyphV2 then 15 else 18)
  | rawBitmap2 b _ _ => if b.width > 64 ∨ b.height > 64 then none else some (b.bufsize env 14 + 14)
  | bitmap2 b _ _ => if b.width > 64 ∨ b.height > 64 then none
    else some ((env.compress b env.maxOrdersSize).2.length + 14)
  | bitmap3 b _ _ hints => (v3Data env b hints).map fun data => data.length + 30
  | brush _ _ _ _ data _ => some (data.length + 12)
  | createOsSurface _ _ _ delList =>
    some (if delList.length > 0 then 7 + 2 + delList.length * 2 else 7)
  | switchOsSurface _ => some 3

def Call.maxSize (env : Env) : Call → Option Int
  | primary c _ => some c.maxSize
  | secondary c => c.maxSize env

/-- The bytes behind the number of orders. -/
def Env.pad (env : Env) : Nat := if env.useFastPath then 0 else 2

/-- The check of a declared size sends what has been collected. -/
def CheckFlushes (env : Env) (o : XrdpOrders) (m : Int) : Prop :=
  o.orderLevel ≠ 0 ∧ int ((o.out.p : Int) - o.orderCountPtr + int m + 100) > env.maxOrdersSize

/-! ## Sizes -/

/-- The bytes of a number with a sign; there are none if it is too big. -/
def signedSize (v : Int) : Nat := if v.natAbs > 0x3FFF then 0 else if v.natAbs ≥ 0x3F then 2 else 1

/-- The bytes of a number without one. -/
def unsignedSize (v : Nat) : Nat := if v > 0x7FFF then 0 else if v ≥ 0x7F then 2 else 1

/-- The bytes of the four numbers of a glyph, up to one that is too big. -/
def FontChar.numbersSize (c : FontChar) : Nat :=
  signedSize c.offset +
    if c.offset.natAbs > 0x3FFF then 0
    else signedSize c.baseline +
      if c.baseline.natAbs > 0x3FFF then 0
      else unsignedSize (asUnsigned c.width) +
        if asUnsigned c.width > 0x7FFF then 0 else unsignedSize (asUnsigned c.height)

/-- What a secondary order comes to. -/
def SecondaryCall.size (env : Env) : SecondaryCall → Nat
  | palette _ _ => 1033
  | rawBitmap b _ _ => 15 + if 1 ≤ b.Bpp ∧ b.Bpp ≤ 4 then b.bufsize env 16 else 0
  | bitmap b _ _ => (if env.op2 then 15 else 23) + (env.compress b env.maxOrdersSize).2.length
  | font c _ _ =>
    if env.useCacheGlyphV2 then 7 + c.numbersSize + if c.Fits then c.datasize.toNat else 0
    else 18 + c.datasize.toNat
  | rawBitmap2 b _ _ => 12 + if 1 ≤ b.Bpp ∧ b.Bpp ≤ 4 then b.bufsize env 14 else 0
  | bitmap2 b _ _ => 12 + (env.compress b env.maxOrdersSize).2.length
  | bitmap3 b _ _ hints => 28 + ((v3Data env b hints).getD []).length
  | brush _ _ _ _ data _ => 12 + data.length
  | createOsSurface _ _ _ delList => if delList.length > 0 then 9 + 2 * delList.length else 7
  | switchOsSurface _ => 3

/-! ## Growing streams -/

/-- So many bytes are put behind what was there, which stays. -/
structure Grows (out out' : OutStream) (n : Nat) : Prop where
  data : out'.data = out.data
  p : out'.p = out.p + n
  before : ∀ j < out.p, out'.cells j = out.cells j

namespace Grows

variable {out out' out'' : OutStream} {n m : Nat}

theorem nil : Grows out out 0 := ⟨rfl, rfl, fun _ _ => rfl⟩

theorem put (bs : List UInt8) : Grows out (out.put bs) bs.length :=
  ⟨rfl, rfl, fun _ hj => writeAt_before hj⟩

theorem skip (k : Nat) : Grows out (out.skip k) k := ⟨rfl, rfl, fun _ _ => rfl⟩

theorem append (h : Grows out out' n) (h' : Grows out' out'' m) : Grows out out'' (n + m) where
  data := h'.data.trans h.data
  p := by rw [h'.p, h.p, Nat.add_assoc]
  before := fun j hj => (h'.before j (by rw [h.p]; omega)).trans (h.before j hj)

/-- Bytes behind what was there are replaced. -/
theorem overwrite (h : Grows out out' n) {a : Nat} (ha : out.p ≤ a) (bs : List UInt8) :
    Grows out { out' with cells := writeAt out'.cells a bs } n :=
  ⟨h.data, h.p, fun j hj => (writeAt_before (by omega)).trans (h.before j hj)⟩

theorem cast (h : Grows out out' n) (hn : n = m) : Grows out out' m := hn ▸ h

/-- What has been put there. -/
theorem wrote (h : Grows out out' n) : Wrote out out' (bytesAt out'.cells out.p n) where
  data := h.data
  p := by rw [h.p, bytesAt_length]
  bytes := by rw [bytesAt_length]
  before := h.before

end Grows

theorem Wrote.grows {out out' : OutStream} {bs : List UInt8} (h : Wrote out out' bs) :
    Grows out out' bs.length :=
  ⟨h.data, h.p, h.before⟩

/-! ## Bitmaps and glyphs -/

theorem Bitmap.pixelBytes_length (b : Bitmap) (i j : Nat) : (b.pixelBytes i j).length = b.Bpp := by
  simp [Bitmap.pixelBytes]

theorem Bitmap.outLines_grows (b : Bitmap) (height : Nat) (out : OutStream) :
    Grows out (b.outLines height out) (b.lineBytes * height) := by
  induction height generalizing out with
  | zero => exact .nil
  | succ height ih =>
    have hline : ((List.range b.width).flatMap (b.pixelBytes height)).length = b.width * b.Bpp := by
      rw [List.length_flatMap]
      simp [Bitmap.pixelBytes_length]
    refine (((Grows.put _).append (.skip _)).append (ih _)).cast ?_
    rw [hline, Bitmap.lineBytes, Nat.mul_succ, Nat.add_mul, Nat.mul_comm b.e, Nat.add_comm]

theorem Bitmap.outRaw_grows (b : Bitmap) (height : Nat) (out : OutStream) :
    Grows out (b.outRaw height out)
      (if 1 ≤ b.Bpp ∧ b.Bpp ≤ 4 then b.lineBytes * height else 0) := by
  rw [Bitmap.outRaw]
  split
  · exact b.outLines_grows height out
  · exact .nil

theorem write2ByteSigned_grows (s : OutStream) (v : Int) :
    Grows s (write2ByteSigned s v).2 (signedSize v) := by
  simp only [write2ByteSigned, signedSize]
  split
  · exact .nil
  · split
    · exact (Grows.put _).append (.put _)
    · exact .put _

theorem write2ByteUnsigned_grows (s : OutStream) (v : Nat) :
    Grows s (write2ByteUnsigned s v).2 (unsignedSize v) := by
  simp only [write2ByteUnsigned, unsignedSize]
  split
  · exact .nil
  · split
    · exact (Grows.put _).append (.put _)
    · exact .put _

/-- What follows a number, if it could be written. -/
theorem grows_returnsOn {out s : OutStream} {n k rv : Nat} {x : Nat × OutStream} {big : Prop}
    [Decidable big] (hbig : rv = 0 ↔ ¬big) (hs : Grows out s n) (hx : Grows s x.2 k) :
    Grows out (if rv ≠ 0 then (1, s) else x).2 (n + if big then 0 else k) := by
  by_cases hrv : rv ≠ 0
  · rw [if_pos hrv, if_pos (by by_contra h; exact hrv (hbig.2 h))]
    exact hs
  · rw [if_neg hrv, if_neg (hbig.1 (not_not.1 hrv))]
    exact hs.append hx

theorem outGlyph_grows (c : FontChar) (s : OutStream) : Grows s (outGlyph c s).2 c.numbersSize :=
  grows_returnsOn (write2ByteSigned_eq_zero.trans Nat.not_lt.symm) (write2ByteSigned_grows s _)
    (grows_returnsOn (write2ByteSigned_eq_zero.trans Nat.not_lt.symm) (write2ByteSigned_grows _ _)
      (grows_returnsOn (write2ByteUnsigned_eq_zero.trans Nat.not_lt.symm) (write2ByteUnsigned_grows _ _)
        (write2ByteUnsigned_grows _ _)))

theorem FontChar.bytes_length (c : FontChar) : c.bytes.length = c.datasize.toNat := by
  simp [FontChar.bytes]

theorem secondaryHeader_length (len flags : Int) (type : Nat) :
    (secondaryHeader len flags type).length = 6 := by
  simp [secondaryHeader]

/-! ## Calls -/

/-- What a call comes to that gets the room: one order more, and its bytes at the end. -/
structure Appends (o o' : XrdpOrders) (n : Nat) : Prop where
  grows : Grows o.out o'.out n
  orderCount : o'.orderCount = o.orderCount + 1
  orderCountPtr : o'.orderCountPtr = o.orderCountPtr
  orderLevel : o'.orderLevel = o.orderLevel
  sent : o'.sent = o.sent

theorem primaryOrder_appends {α ρ : Type} {env : Env} {k : Kind α ρ} {self : XrdpOrders} {a : α}
    {rect : Option Rect} (hok : OrderFits env self (k.maxSize a)) :
    Appends (xrdpOrdersCheck env self (k.maxSize a)).2 (primaryOrder env k self a rect).2
        (orderBytes k self.state a rect).length ∧
      (primaryOrder env k self a rect).1 = 0 := by
  have hrv := xrdpOrdersCheck_eq_zero.2 hok
  have hstate := xrdpOrdersCheck_state env self (k.maxSize a)
  simp only [primaryOrder, hrv, if_neg (not_not.2 (Eq.refl 0))]
  have hwrote := (outOrder_wrote k (xrdpOrdersCheck env self (k.maxSize a)).2.out
    (xrdpOrdersCheck env self (k.maxSize a)).2.state a rect).1
  rw [hstate] at hwrote ⊢
  exact ⟨⟨hwrote.grows, rfl, rfl, rfl, rfl⟩, trivial⟩

theorem secondaryOrder_appends {env : Env} {self : XrdpOrders} {m : Int}
    {write : OutStream → Nat × OutStream} {n : Nat} (hok : OrderFits env self m)
    (hwrite : ∀ out, Grows out (write out).2 n) :
    Appends (xrdpOrdersCheck env self m).2 (secondaryOrder env self m write).2 n ∧
      ∃ out, (secondaryOrder env self m write).1 = (write out).1 := by
  have hrv := xrdpOrdersCheck_eq_zero.2 hok
  simp only [secondaryOrder, hrv, if_neg (not_not.2 (Eq.refl 0))]
  exact ⟨⟨hwrite _, rfl, rfl, rfl, rfl⟩, _, rfl⟩

/-- A secondary order that does not get the room. -/
theorem secondaryOrder_refused {env : Env} {self : XrdpOrders} {m : Int}
    {write : OutStream → Nat × OutStream} (hok : ¬OrderFits env self m) :
    secondaryOrder env self m write = (1, self) := by
  have hrv := fun h => hok (xrdpOrdersCheck_eq_zero.1 h)
  simp only [secondaryOrder, if_pos hrv, xrdpOrdersCheck_fails hrv]

/-- A bitmap that is not too large. -/
theorem of_large {large : Prop} [Decidable large] {m m' : Int}
    (h : (if large then none else some m) = some m') : ¬large ∧ m = m' := by
  split at h
  · cases h
  · exact ⟨‹_›, Option.some.inj h⟩

/-- What is sent of a bitmap of the third revision, and what is returned then. -/
theorem xrdpOrdersSendBitmap3_eq {env : Env} {b : Bitmap} {hints : Int} {data : List UInt8}
    (h : v3Data env b hints = some data) (self : XrdpOrders) (cacheId cacheIdx : Int) :
    ∃ width, xrdpOrdersSendBitmap3 env self b cacheId cacheIdx hints =
      (0, (xrdpOrdersOutV3 env self cacheId cacheIdx data width b env.v3CodecId).2) := by
  unfold v3Data at h
  unfold xrdpOrdersSendBitmap3
  by_cases hzero : env.v3CodecId = 0
  · rw [if_pos hzero] at h
    cases h
  · rw [if_neg hzero] at h ⊢
    by_cases hrfx : env.v3CodecId = env.rfxCodecId
    · rw [if_pos hrfx] at h ⊢
      cases hcompress : env.rfxCompress with
      | none => simp [hcompress] at h
      | some compress =>
        simp only [hcompress, Option.map_some] at h
        split at h
        · cases h
          rename_i hsend
          simp only [if_pos hsend]
          exact ⟨_, rfl⟩
        · cases h
    · rw [if_neg hrfx] at h ⊢
      by_cases hjpeg : env.v3CodecId = env.jpegCodecId
      · rw [if_pos hjpeg] at h ⊢
        cases hcompress : env.jpegCompress with
        | none => simp [hcompress] at h
        | some compress =>
          simp only [hcompress, Option.map_some] at h
          split at h
          · cases h
            rename_i hsend
            simp only [if_pos hsend]
            exact ⟨_, rfl⟩
          · cases h
      · rw [if_neg hjpeg] at h
        cases h

/-- A bitmap that is not sent in that way. -/
theorem xrdpOrdersSendBitmap3_none {env : Env} {b : Bitmap} {hints : Int}
    (h : v3Data env b hints = none) (self : XrdpOrders) (cacheId cacheIdx : Int) :
    (xrdpOrdersSendBitmap3 env self b cacheId cacheIdx hints).1 ≠ 0 ∧
      (xrdpOrdersSendBitmap3 env self b cacheId cacheIdx hints).2 = self := by
  unfold v3Data at h
  unfold xrdpOrdersSendBitmap3
  repeat' split
  all_goals first
    | exact ⟨by decide, rfl⟩
    | simp_all

/-- A glyph of the second revision can be refused when half of it has been written. -/
def SecondaryCall.Whole (env : Env) : SecondaryCall → Prop
  | font c _ _ => env.useCacheGlyphV2 → c.Fits
  | _ => True

/-- For a bitmap of the third revision it is not asked whether it gets the room. -/
def SecondaryCall.asks : SecondaryCall → Bool
  | bitmap3 _ _ _ _ => false
  | _ => true

/-- What it takes to show that a call writes just its own size, if it gets the room. -/
theorem writes {env : Env} {self : XrdpOrders} {m : Int} {write : OutStream → Nat × OutStream} {n : Nat}
    {whole : Prop} {x : Nat × XrdpOrders} (hx : x = secondaryOrder env self m write)
    (h : ∀ out, Grows out (write out).2 n ∧ (whole → (write out).1 = 0)) :
    ∃ write : OutStream → Nat × OutStream, (∀ out, Grows out (write out).2 n ∧ (whole → (write out).1 = 0)) ∧
      x = (if true then (secondaryOrder env self m write).1 else 0, (secondaryOrder env self m write).2) :=
  ⟨write, h, hx⟩

/-- **A call of a secondary order that declares a size** writes just its own size, if it gets the room. -/
theorem SecondaryCall.run_eq {env : Env} {c : SecondaryCall} {m : Int} (hm : c.maxSize env = some m)
    (self : XrdpOrders) :
    ∃ write : OutStream → Nat × OutStream,
      (∀ out, Grows out (write out).2 (c.size env) ∧ (c.Whole env → (write out).1 = 0)) ∧
      c.run env self = (if c.asks then (secondaryOrder env self m write).1 else 0,
        (secondaryOrder env self m write).2) := by
  cases c with
  | palette p cacheId =>
    cases hm
    unfold SecondaryCall.run xrdpOrdersSendPalette
    refine writes rfl fun out => ⟨?_, fun _ => rfl⟩
    refine (Grows.put _).cast ?_
    have hcolors : (List.ofFn fun i => outLe 3 (p i) ++ [0]).flatten.length = 1024 := by
      have hone : (List.length ∘ fun i => outLe 3 (p i) ++ [0]) = fun _ => 4 := by
        funext i
        simp
      rw [List.length_flatten, List.map_ofFn, hone, List.ofFn_const, List.sum_replicate]
      rfl
    simp only [List.length_append, secondaryHeader_length, outLe_length, hcolors]
    rfl
  | rawBitmap b cacheId cacheIdx =>
    obtain ⟨hsmall, rfl⟩ := of_large hm
    refine writes (if_neg hsmall) fun out =>
      ⟨((((Grows.put _).append (.skip 1)).append (.put _)).append (b.outRaw_grows _ _)).cast ?_, fun _ => rfl⟩
    simp [secondaryHeader_length, SecondaryCall.size, Bitmap.bufsize]
  | bitmap b cacheId cacheIdx =>
    obtain ⟨hsmall, rfl⟩ := of_large hm
    refine writes (if_neg hsmall) fun out => ⟨?_, fun _ => rfl⟩
    simp only [SecondaryCall.size]
    by_cases hop2 : env.op2
    · simp only [if_pos hop2]
      refine (((((Grows.put _).append (.put _)).append (.skip 1)).append (.put _)).append (.put _)).cast ?_
      simp [secondaryHeader_length]
    · simp only [if_neg hop2]
      refine (((((((Grows.put _).append (.put _)).append (.skip 1)).append (.put _)).append
        (.skip 2)).append (.put _)).append (.put _)).cast ?_
      simp [secondaryHeader_length]
  | font c fontIndex charIndex =>
    cases hm
    simp only [SecondaryCall.run, xrdpOrdersSendFont, SecondaryCall.size, SecondaryCall.Whole]
    by_cases hv2 : env.useCacheGlyphV2
    · simp only [if_pos hv2]
      unfold xrdpOrdersCacheGlyphV2
      refine writes rfl fun out => ⟨?_, fun hwhole => ?_⟩
      · have hhead : Grows out ((out.outUint8 (TS_STANDARD ||| TS_SECONDARY)).put
            (outLe 2 0 ++ outLe 2 ((fontIndex % 16).toNat ||| (0x2 <<< 4) ||| (1 <<< 8) : Nat) ++
              outLe 1 TS_CACHE_GLYPH ++ outLe 1 charIndex)) 7 :=
          ((Grows.put _).append (.put _)).cast (by simp)
        by_cases hfit : c.Fits
        · have hrv := fun s => (@outGlyph_eq_zero c s).2 hfit
          simp only [hrv, if_neg (not_not.2 (Eq.refl 0)), if_pos hfit]
          refine (((hhead.append (outGlyph_grows c _)).append (.put _)).cast ?_).overwrite ?_ _
          · rw [FontChar.bytes_length]
          · exact Nat.le_add_right _ _
        · have hrv := fun s h => hfit ((@outGlyph_eq_zero c s).1 h)
          simp only [if_pos (hrv _), if_neg hfit]
          exact hhead.append (outGlyph_grows c _)
      · simp only [outGlyph_eq_zero.2 (hwhole hv2), if_neg (not_not.2 (Eq.refl 0))]
    · simp only [if_neg hv2]
      unfold xrdpOrdersCacheGlyph
      refine writes rfl fun out => ⟨?_, fun _ => rfl⟩
      refine (Grows.put _).cast ?_
      simp only [List.length_append, secondaryHeader_length, outLe_length, FontChar.bytes_length]
  | rawBitmap2 b cacheId cacheIdx =>
    obtain ⟨hsmall, rfl⟩ := of_large hm
    refine writes (if_neg hsmall) fun out =>
      ⟨((Grows.put _).append (b.outRaw_grows _ _)).cast ?_, fun _ => rfl⟩
    simp [secondaryHeader_length, SecondaryCall.size, Bitmap.bufsize, bitmap2Fields]
  | bitmap2 b cacheId cacheIdx =>
    obtain ⟨hsmall, rfl⟩ := of_large hm
    refine writes (if_neg hsmall) fun out => ⟨(Grows.put _).cast ?_, fun _ => rfl⟩
    simp only [List.length_append, secondaryHeader_length, SecondaryCall.size, bitmap2Fields,
      outLe_length, beBytes_length, List.length_singleton]
  | bitmap3 b cacheId cacheIdx hints =>
    obtain ⟨data, hdata, rfl⟩ := Option.map_eq_some_iff.1 hm
    obtain ⟨width, hrun⟩ := xrdpOrdersSendBitmap3_eq hdata self cacheId cacheIdx
    refine ⟨_, fun out => ⟨(Grows.put _).cast ?_, fun _ => rfl⟩, hrun⟩
    simp [secondaryHeader_length, SecondaryCall.size, hdata]
    omega
  | brush width height bpp type data cacheId =>
    cases hm
    unfold SecondaryCall.run xrdpOrdersSendBrush
    refine writes rfl fun out => ⟨?_, fun _ => rfl⟩
    refine (Grows.put _).cast ?_
    simp [secondaryHeader_length, SecondaryCall.size]
    omega
  | createOsSurface id width height delList =>
    cases hm
    unfold SecondaryCall.run xrdpOrdersSendCreateOsSurface
    refine writes rfl fun out => ⟨?_, fun _ => rfl⟩
    simp only [SecondaryCall.size]
    by_cases hdel : delList.length > 0
    · simp only [if_pos hdel]
      refine ((Grows.put _).append (.put _)).cast ?_
      simp [List.length_flatMap]
      omega
    · simp only [if_neg hdel]
      refine (Grows.put _).cast ?_
      simp
  | switchOsSurface id =>
    cases hm
    unfold SecondaryCall.run xrdpOrdersSendSwitchOsSurface
    refine writes rfl fun out => ⟨?_, fun _ => rfl⟩
    exact (Grows.put _).cast (by simp [SecondaryCall.size])

/-- A call that does not declare a size fails. -/
theorem SecondaryCall.run_none {env : Env} {c : SecondaryCall} (hm : c.maxSize env = none)
    (self : XrdpOrders) : (c.run env self).1 ≠ 0 ∧ (c.run env self).2 = self := by
  have hlarge : ∀ {large : Prop} [Decidable large] {m : Int} {x : Nat × XrdpOrders},
      (if large then none else some m) = none → (if large then (1, self) else x) = (1, self) := by
    intro large _ m x h
    split at h
    · exact if_pos ‹_›
    · cases h
  cases c with
  | rawBitmap b i j => simp [SecondaryCall.run, xrdpOrdersSendRawBitmap, hlarge hm]
  | bitmap b i j => simp [SecondaryCall.run, xrdpOrdersSendBitmap, hlarge hm]
  | rawBitmap2 b i j => simp [SecondaryCall.run, xrdpOrdersSendRawBitmap2, hlarge hm]
  | bitmap2 b i j => simp [SecondaryCall.run, xrdpOrdersSendBitmap2, hlarge hm]
  | bitmap3 b i j hints => exact xrdpOrdersSendBitmap3_none (Option.map_eq_none_iff.1 hm) self i j
  | _ => cases hm

/-! ## All calls -/

/-- What a call comes to, in a state in which it gets the room. -/
def Call.size (env : Env) (st : OrdersState) : Call → Nat
  | primary c clip => (orderBytes c.order.kind st c.order.args clip).length
  | secondary c => c.size env

/-- A call that gets the room leaves a whole order, and one that is not asked for gets it. -/
def Call.Whole (env : Env) (self : XrdpOrders) : Call → Prop
  | primary _ _ => True
  | secondary c => ∀ m, c.maxSize env = some m →
    (c.asks = false → OrderFits env self m) ∧ (OrderFits env self m → c.Whole env)

/-- **A call that gets the room** puts just its size at the end, and succeeds if it leaves a whole order. -/
theorem Call.run_appends {env : Env} {self : XrdpOrders} {call : Call} {m : Int}
    (hm : call.maxSize env = some m) (hok : OrderFits env self m) :
    Appends (xrdpOrdersCheck env self m).2 (call.run env self).2 (call.size env self.state) ∧
      (call.Whole env self → (call.run env self).1 = 0) := by
  cases call with
  | primary c clip =>
    cases hm
    simp only [Call.run, PrimaryCall.run_eq]
    exact (primaryOrder_appends hok).imp_right fun h _ => h
  | secondary c =>
    obtain ⟨write, hwrite, hrun⟩ := SecondaryCall.run_eq hm self
    obtain ⟨happends, out, hrv⟩ := secondaryOrder_appends hok fun out => (hwrite out).1
    simp only [Call.run, hrun]
    refine ⟨happends, fun hwhole => ?_⟩
    rw [hrv, (hwrite out).2 ((hwhole m hm).2 hok), ite_self]

/-- **A call that does not** leaves everything, and fails. -/
theorem Call.run_refused {env : Env} {self : XrdpOrders} {call : Call}
    (h : ∀ m, call.maxSize env = some m → ¬OrderFits env self m) :
    (call.run env self).2 = self ∧ (call.Whole env self → (call.run env self).1 ≠ 0) := by
  cases call with
  | primary c clip =>
    have hrv : (c.run env self clip).1 ≠ 0 := fun hzero => h _ rfl (PrimaryCall.run_eq_zero.1 hzero)
    refine ⟨?_, fun _ => hrv⟩
    simp only [Call.run, PrimaryCall.run_eq] at hrv ⊢
    exact primaryOrder_fails hrv
  | secondary c =>
    cases hm : c.maxSize env with
    | none => exact (SecondaryCall.run_none hm self).symm.imp_right fun h _ => h
    | some m =>
      obtain ⟨write, -, hrun⟩ := SecondaryCall.run_eq hm self
      simp only [Call.run, hrun, secondaryOrder_refused (h m hm)]
      refine ⟨trivial, fun hwhole => ?_⟩
      cases hasks : c.asks with
      | false => exact absurd ((hwhole m hm).1 hasks) (h m hm)
      | true => exact Nat.one_ne_zero

end Xrdp.Orders
