import Xrdp.Orders.Secondary

/-!
# Failing order functions

* `xrdpOrdersCheck_eq_zero` — when an order of a declared size is let through.
* `Atomic` — a call that fails leaves what is pending as it is, or as it is once sent.
* `glyph_left_unfinished` — a call that is not.
* `atomic_iff` — every call is, but for one of a glyph that has a number too big for its field.
-/

namespace Xrdp.Orders

open Wire

/-! ## Checking -/

/-- An order of a declared size is let through. -/
def OrderFits (env : Env) (self : XrdpOrders) (maxSize : Int) : Prop :=
  if self.orderLevel = 0 then int maxSize ≤ env.maxOrdersSize else self.orderCountPtr ≤ self.out.p

theorem xrdpOrdersCheck_eq_zero {env : Env} {self : XrdpOrders} {maxSize : Int} :
    (xrdpOrdersCheck env self maxSize).1 = 0 ↔ OrderFits env self maxSize := by
  simp only [xrdpOrdersCheck, OrderFits]
  by_cases hlevel : self.orderLevel = 0
  · rw [if_pos (by omega), if_pos hlevel]
    by_cases hbig : int maxSize > env.maxOrdersSize
    · rw [if_pos hbig]
      simp
      omega
    · rw [if_neg hbig]
      simp
      omega
  · rw [if_neg (by omega), if_neg hlevel]
    by_cases hsize : (self.out.p : Int) - self.orderCountPtr < 0
    · simp only [if_pos hsize]
      omega
    · simp only [if_neg hsize]
      split <;> (simp; omega)

/-- A check that fails does nothing. -/
theorem xrdpOrdersCheck_fails {env : Env} {self : XrdpOrders} {maxSize : Int}
    (h : (xrdpOrdersCheck env self maxSize).1 ≠ 0) : (xrdpOrdersCheck env self maxSize).2 = self := by
  simp only [xrdpOrdersCheck] at h ⊢
  split
  · split
    · rfl
    · simp_all
  · split
    · rfl
    · split <;> simp_all

/-! ## Failing -/

/-- What is pending is the same. -/
structure SamePending (o o' : XrdpOrders) : Prop where
  orderCount : o'.orderCount = o.orderCount
  orderLevel : o'.orderLevel = o.orderLevel
  p : o'.out.p = o.out.p
  state : o'.state = o.state
  sent : o'.sent = o.sent

theorem SamePending.refl (o : XrdpOrders) : SamePending o o := ⟨rfl, rfl, rfl, rfl, rfl⟩

/-- A call that fails leaves what is pending, but that earlier orders may have been sent. -/
def Atomic (env : Env) (self : XrdpOrders) (call : Call) : Prop :=
  (call.run env self).1 ≠ 0 →
    SamePending self (call.run env self).2 ∨
      (xrdpOrdersForceSend env self).1 = 0 ∧
        SamePending (xrdpOrdersInit env (xrdpOrdersForceSend env self).2) (call.run env self).2

/-- A function for primary orders fails only if the order is not let through. -/
theorem primaryOrder_fails {α ρ : Type} {env : Env} {k : Kind α ρ} {self : XrdpOrders} {a : α}
    {rect : Option Rect} (h : (primaryOrder env k self a rect).1 ≠ 0) :
    (primaryOrder env k self a rect).2 = self := by
  unfold primaryOrder at h ⊢
  by_cases hrv : (xrdpOrdersCheck env self (k.maxSize a)).1 ≠ 0
  · simp only [if_pos hrv]
    exact xrdpOrdersCheck_fails hrv
  · simp only [if_neg hrv] at h
    exact absurd rfl h

/-- A function for secondary orders that can write its order does not fail but by the check. -/
theorem secondaryOrder_fails {env : Env} {self : XrdpOrders} {maxSize : Int}
    {write : OutStream → Nat × OutStream} (hwrite : ∀ out, (write out).1 = 0)
    (h : (secondaryOrder env self maxSize write).1 ≠ 0) :
    (secondaryOrder env self maxSize write).2 = self := by
  unfold secondaryOrder at h ⊢
  by_cases hrv : (xrdpOrdersCheck env self maxSize).1 ≠ 0
  · simp only [if_pos hrv]
    exact xrdpOrdersCheck_fails hrv
  · simp only [if_neg hrv] at h
    exact absurd (hwrite _) h

theorem sizes_fail {self : XrdpOrders} {c : Prop} [Decidable c] {x : Nat × XrdpOrders}
    (hx : x.1 ≠ 0 → x.2 = self) (h : (if c then (1, self) else x).1 ≠ 0) :
    (if c then (1, self) else x).2 = self := by
  split
  · rfl
  · rename_i hc
    rw [if_neg hc] at h
    exact hx h

/-- Every other function leaves everything if it fails. -/
theorem SecondaryCall.run_fails {env : Env} {self : XrdpOrders} {c : SecondaryCall}
    (hfont : ∀ f i j, c = .font f i j → env.useCacheGlyphV2 = false)
    (h : (c.run env self).1 ≠ 0) : (c.run env self).2 = self := by
  cases c with
  | palette p cacheId => exact secondaryOrder_fails (fun _ => rfl) h
  | rawBitmap b cacheId cacheIdx =>
    exact sizes_fail (secondaryOrder_fails fun _ => rfl) h
  | bitmap b cacheId cacheIdx => exact sizes_fail (secondaryOrder_fails fun _ => rfl) h
  | font f i j =>
    simp only [SecondaryCall.run, xrdpOrdersSendFont, hfont f i j rfl, Bool.false_eq_true,
      if_false] at h ⊢
    exact secondaryOrder_fails (fun _ => rfl) h
  | rawBitmap2 b cacheId cacheIdx => exact sizes_fail (secondaryOrder_fails fun _ => rfl) h
  | bitmap2 b cacheId cacheIdx => exact sizes_fail (secondaryOrder_fails fun _ => rfl) h
  | bitmap3 b cacheId cacheIdx hints =>
    revert h
    simp only [SecondaryCall.run, xrdpOrdersSendBitmap3]
    -- what the encoders make of it is not asked for whether it has been let through
    repeat' split
    all_goals first
      | exact fun _ => rfl
      | exact fun h => absurd rfl h
  | brush width height bpp type data cacheId => exact secondaryOrder_fails (fun _ => rfl) h
  | createOsSurface id width height delList => exact secondaryOrder_fails (fun _ => rfl) h
  | switchOsSurface id => exact secondaryOrder_fails (fun _ => rfl) h

/-! ## Glyphs -/

/-- The numbers of a glyph fit in their fields of one or two bytes. -/
def FontChar.Fits (c : FontChar) : Prop :=
  c.offset.natAbs ≤ 0x3FFF ∧ c.baseline.natAbs ≤ 0x3FFF ∧ asUnsigned c.width ≤ 0x7FFF ∧
    asUnsigned c.height ≤ 0x7FFF

instance (c : FontChar) : Decidable c.Fits := by unfold FontChar.Fits; infer_instance

theorem write2ByteSigned_eq_zero {s : OutStream} {v : Int} :
    (write2ByteSigned s v).1 = 0 ↔ v.natAbs ≤ 0x3FFF := by
  unfold write2ByteSigned
  simp only
  split
  · simp
    omega
  · split <;> simp <;> omega

theorem write2ByteUnsigned_eq_zero {s : OutStream} {v : Nat} :
    (write2ByteUnsigned s v).1 = 0 ↔ v ≤ 0x7FFF := by
  unfold write2ByteUnsigned
  split
  · simp
    omega
  · split <;> simp <;> omega

theorem returnsOn_eq_zero {β : Type} {rv : Nat} {s : β} {x : Nat × β} :
    (if rv ≠ 0 then (1, s) else x).1 = 0 ↔ rv = 0 ∧ x.1 = 0 := by
  split <;> simp_all

theorem outGlyph_eq_zero {c : FontChar} {s : OutStream} : (outGlyph c s).1 = 0 ↔ c.Fits := by
  simp only [outGlyph, returnsOn_eq_zero, write2ByteSigned_eq_zero, write2ByteUnsigned_eq_zero,
    FontChar.Fits]

/-- What a call of a glyph comes to that does not fit: it is counted, and fails. -/
theorem xrdpOrdersCacheGlyphV2_unfit {env : Env} {self : XrdpOrders} {c : FontChar}
    {fontIndex charIndex : Int} (hok : OrderFits env self (c.datasize + 15)) (hfit : ¬c.Fits) :
    ∃ out, xrdpOrdersCacheGlyphV2 env self c fontIndex charIndex =
      (1, { (xrdpOrdersCheck env self (c.datasize + 15)).2 with
        orderCount := (xrdpOrdersCheck env self (c.datasize + 15)).2.orderCount + 1, out }) := by
  have hrv := xrdpOrdersCheck_eq_zero.2 hok
  have hglyph : ∀ s, (outGlyph c s).1 ≠ 0 := fun s h => hfit (outGlyph_eq_zero.1 h)
  simp only [xrdpOrdersCacheGlyphV2, secondaryOrder, hrv, if_pos (hglyph _)]
  exact ⟨_, rfl⟩

/-- A call of a glyph that fits, or is not let through, does not fail in the middle. -/
theorem xrdpOrdersCacheGlyphV2_fails {env : Env} {self : XrdpOrders} {c : FontChar}
    {fontIndex charIndex : Int} (hfit : OrderFits env self (c.datasize + 15) → c.Fits)
    (h : (xrdpOrdersCacheGlyphV2 env self c fontIndex charIndex).1 ≠ 0) :
    (xrdpOrdersCacheGlyphV2 env self c fontIndex charIndex).2 = self := by
  by_cases hok : OrderFits env self (c.datasize + 15)
  · refine secondaryOrder_fails (fun out => ?_) h
    simp only [outGlyph_eq_zero.2 (hfit hok), if_neg (not_not.2 (Eq.refl 0))]
  · have hrv := fun h => hok (xrdpOrdersCheck_eq_zero.1 h)
    simp only [xrdpOrdersCacheGlyphV2, secondaryOrder, if_pos hrv]
    exact xrdpOrdersCheck_fails hrv

theorem xrdpOrdersInit_sent (env : Env) (self : XrdpOrders) :
    (xrdpOrdersInit env self).sent = self.sent := by
  simp only [xrdpOrdersInit]
  split
  · split <;> rfl
  · rfl

theorem xrdpOrdersInit_level (env : Env) (self : XrdpOrders) :
    (xrdpOrdersInit env self).orderLevel = self.orderLevel + 1 := by
  simp only [xrdpOrdersInit]
  split
  · split <;> rfl
  · rfl

/-- A new update has no orders yet. -/
theorem xrdpOrdersInit_count {env : Env} {self : XrdpOrders} (h : self.orderLevel = 0) :
    (xrdpOrdersInit env self).orderCount = 0 := by
  simp only [xrdpOrdersInit, h, Nat.zero_add, if_true]
  split <;> rfl

/-- A further level leaves the update. -/
theorem xrdpOrdersInit_count_of_pos {env : Env} {self : XrdpOrders} (h : self.orderLevel ≠ 0) :
    (xrdpOrdersInit env self).orderCount = self.orderCount := by
  simp only [xrdpOrdersInit]
  rw [if_neg (by omega)]

/-- What a flush comes to: it is completed, or fails and leaves the count. -/
theorem xrdpOrdersForceSend_cases (env : Env) (self : XrdpOrders) :
    ((xrdpOrdersForceSend env self).1 = 0 ∧ (xrdpOrdersForceSend env self).2.orderLevel = 0 ∧
      (self.orderLevel > 0 → self.orderCount > 0 →
        (xrdpOrdersForceSend env self).2.sent ≠ self.sent)) ∨
    ((xrdpOrdersForceSend env self).1 ≠ 0 ∧
      (xrdpOrdersForceSend env self).2.orderLevel = self.orderLevel ∧ self.orderLevel > 0 ∧
      (xrdpOrdersForceSend env self).2.orderCount = self.orderCount) := by
  simp only [xrdpOrdersForceSend]
  by_cases hpending : self.orderLevel > 0 ∧ self.orderCount > 0
  · simp only [if_pos hpending, xrdpRdpSend]
    split
    · left
      simp [XrdpOrders.close]
    · right
      simp [XrdpOrders.close, hpending]
  · simp only [if_neg hpending]
    left
    refine ⟨rfl, rfl, fun hlevel hcount => absurd ⟨hlevel, hcount⟩ hpending⟩

/-- What the check comes to, if it lets an order through. -/
theorem xrdpOrdersCheck_cases {env : Env} {self : XrdpOrders} {maxSize : Int}
    (hok : OrderFits env self maxSize) :
    self.orderLevel ≠ 0 ∧ (xrdpOrdersCheck env self maxSize).2 = self ∨
      self.orderLevel = 0 ∧ (xrdpOrdersCheck env self maxSize).2 = xrdpOrdersInit env self ∨
      self.orderLevel ≠ 0 ∧
        (xrdpOrdersCheck env self maxSize).2 = xrdpOrdersInit env (xrdpOrdersForceSend env self).2 := by
  unfold OrderFits at hok
  simp only [xrdpOrdersCheck]
  by_cases hlevel : self.orderLevel = 0
  · rw [if_pos hlevel] at hok
    rw [if_pos (by omega), if_neg (by omega)]
    exact .inr (.inl ⟨hlevel, rfl⟩)
  · rw [if_neg hlevel] at hok
    rw [if_neg (by omega)]
    rw [if_neg (by omega)]
    split
    · exact .inr (.inr ⟨hlevel, rfl⟩)
    · exact .inl ⟨hlevel, rfl⟩

/-- **A call of a glyph that does not fit**, once it has been let through, is not undone. -/
theorem not_atomic_of_unfit {env : Env} {self : XrdpOrders} {c : FontChar} {fontIndex charIndex : Int}
    (hv2 : env.useCacheGlyphV2) (hok : OrderFits env self (c.datasize + 15)) (hfit : ¬c.Fits) :
    ¬Atomic env self (.secondary (.font c fontIndex charIndex)) := by
  intro hatomic
  obtain ⟨out, hrun⟩ := @xrdpOrdersCacheGlyphV2_unfit env self c fontIndex charIndex hok hfit
  have hcall : Call.run env self (.secondary (.font c fontIndex charIndex)) =
      xrdpOrdersCacheGlyphV2 env self c fontIndex charIndex := if_pos hv2
  rw [Atomic, hcall, hrun] at hatomic
  have hforce := xrdpOrdersForceSend_cases env self
  rcases hatomic (by simp) with hsame | ⟨hsent, hsame⟩
  · have hcount := hsame.orderCount
    simp only at hcount
    rcases xrdpOrdersCheck_cases hok with ⟨-, hcheck⟩ | ⟨hlevel, hcheck⟩ | ⟨hlevel, hcheck⟩
    · rw [hcheck] at hcount
      omega
    · have hlevel' := hsame.orderLevel
      simp only [hcheck, xrdpOrdersInit_level] at hlevel'
      omega
    · rw [hcheck] at hcount
      rcases hforce with ⟨-, hzero, hsent⟩ | ⟨-, hkept, hpos, hcount'⟩
      · -- the orders that were pending have been sent
        rw [xrdpOrdersInit_count hzero] at hcount
        refine hsent (by omega) (by omega) ?_
        have hsame' := hsame.sent
        simpa only [hcheck, xrdpOrdersInit_sent] using hsame'
      · rw [xrdpOrdersInit_count_of_pos (by omega), hcount'] at hcount
        omega
  · have hcount := hsame.orderCount
    simp only at hcount
    rcases hforce with ⟨-, hzero, -⟩ | ⟨hfail, -⟩
    · rw [xrdpOrdersInit_count hzero] at hcount
      omega
    · exact hfail hsent

/-- A glyph too far off to the right: the order is counted, and half of it written. -/
theorem glyph_left_unfinished :
    let env : Env := {
      maxFastpathFragBytes := 16 * 1024, useFastPath := true, op2 := true, useCacheGlyphV2 := true
      v3CodecId := 0, rfxCodecId := 0, jpegCodecId := 0, compress := fun _ _ => (0, [])
      rfxCompress := none, jpegCompress := none, rfxMinPixel := 64 * 32, headerBytes := 6
      sendOk := fun _ => true, afterSend := id }
    let self := xrdpOrdersInit env (xrdpOrdersCreate ⟨fun _ => 0, 0, 0, 0, 0, 0⟩)
    ¬Atomic env self (.secondary (.font ⟨0x4000, 0, 8, 8, 1, fun _ => 0⟩ 0 65)) := by
  intro env self
  refine not_atomic_of_unfit rfl ?_ (by decide)
  show 6 ≤ 6 + 2
  omega

/-- **A call of an order function that fails leaves what is pending**, but for one of a glyph that has
a number too big for its field, if such orders are asked for and the check lets it through. -/
theorem atomic_iff (env : Env) (self : XrdpOrders) (call : Call) :
    Atomic env self call ↔
      ¬∃ c fontIndex charIndex, call = .secondary (.font c fontIndex charIndex) ∧
        env.useCacheGlyphV2 ∧ OrderFits env self (c.datasize + 15) ∧ ¬c.Fits := by
  constructor
  · rintro hatomic ⟨c, fontIndex, charIndex, rfl, hv2, hok, hfit⟩
    exact not_atomic_of_unfit hv2 hok hfit hatomic
  · intro hunfit hfails
    refine .inl ?_
    suffices hself : (call.run env self).2 = self by
      rw [hself]
      exact .refl self
    cases call with
    | primary c clip =>
      simp only [Call.run, PrimaryCall.run_eq] at hfails ⊢
      exact primaryOrder_fails hfails
    | secondary c =>
      by_cases hfont : ∃ f i j, c = .font f i j ∧ env.useCacheGlyphV2
      · obtain ⟨f, i, j, rfl, hv2⟩ := hfont
        have hcall : Call.run env self (.secondary (.font f i j)) =
            xrdpOrdersCacheGlyphV2 env self f i j := if_pos hv2
        rw [hcall] at hfails ⊢
        refine xrdpOrdersCacheGlyphV2_fails (fun hok => ?_) hfails
        by_contra hfit
        exact hunfit ⟨f, i, j, rfl, hv2, hok, hfit⟩
      · refine SecondaryCall.run_fails (fun f i j hc => ?_) hfails
        by_contra hv2
        exact hfont ⟨f, i, j, hc, by simpa using hv2⟩

end Xrdp.Orders
