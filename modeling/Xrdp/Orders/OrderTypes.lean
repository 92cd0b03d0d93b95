import Xrdp.Orders.Failures
import Xrdp.Lib.Runs

/-!
# The type of the last order

An order of the type of the last one does not say its type.  Each side remembers that type; a client
begins with `PATBLT`, and the server with whatever zero stands for.

* `orderBytes_type` — a client that remembers the same type takes every order for what it is.
* `Sides`, `next` — both sides over a run.
* `types_agree_iff` — every first order is taken for what it is just if none is a `DESTBLT`, and then
  every order is.
-/

namespace Xrdp.Orders

open Wire Runs

/-! ## Flags -/

/-- The flags of an order. -/
def flagsOf (change bounds zeroBounds delta : Bool) : Nat :=
  TS_STANDARD + (if change then TS_TYPE_CHANGE else 0) + (if bounds then TS_BOUNDS else 0) +
    (if zeroBounds then TS_ZERO_BOUNDS_DELTAS else 0) + (if delta then TS_DELTA_COORDINATES else 0)

variable {α ρ : Type}

/-- Whether an order has bounds. -/
def hasBounds (k : Kind α ρ) (a : α) (rect : Option Rect) : Bool := rect.any (k.clipNeeded a)

theorem orderFlags_eq (k : Kind α ρ) (st : OrdersState) (a : α) (rect : Option Rect) :
    orderFlags k st a rect = flagsOf (st.lastOrder ≠ k.type) (hasBounds k a rect)
      (hasBounds k a rect && rect.any (xrdpOrdersLastBounds st.clip))
      (k.hasDeltas && xrdpOrdersSendDelta (k.vals a (k.get st))) := by
  unfold orderFlags hasBounds
  generalize xrdpOrdersSendDelta (k.vals a (k.get st)) = delta
  generalize k.hasDeltas = hasDeltas
  obtain ⟨change, hchange⟩ : ∃ change : Bool, (st.lastOrder ≠ k.type) = (change = true) :=
    ⟨decide (st.lastOrder ≠ k.type), by simp⟩
  cases rect with
  | none =>
    simp only [hchange, Option.any_none, Bool.decide_eq_true]
    clear hchange
    revert change delta hasDeltas
    decide
  | some rect =>
    simp only [hchange, Option.any_some, Bool.decide_eq_true]
    generalize k.clipNeeded a rect = needed
    generalize xrdpOrdersLastBounds st.clip rect = last
    clear hchange
    revert change delta hasDeltas needed last
    decide

/-- The bit of the type among all flags, of which two count the bytes without a bit. -/
theorem flagsOf_type : ∀ (change bounds zeroBounds delta : Bool) (m : Fin 4),
    ((UInt8.ofNat (flagsOf change bounds zeroBounds delta ||| (m.val <<< 6))).toNat &&& TS_TYPE_CHANGE ≠ 0 ↔
      change) ∧
    (flagsOf change bounds zeroBounds delta &&& TS_TYPE_CHANGE ≠ 0 ↔ change) := by
  decide

/-! ## What a client takes an order for -/

/-- The type of an order for a client that remembers `last`. -/
def clientType (last : Nat) (bytes : List UInt8) : Nat :=
  if (bytes.getD 0 0).toNat &&& TS_TYPE_CHANGE ≠ 0 then (bytes.getD 1 0).toNat else last

/-- An order says its type if it is not what the server remembers. -/
theorem orderBytes_type {k : Kind α ρ} (htype : k.type < 256) (hsize : k.presentSize ≤ 3)
    (st : OrdersState) (a : α) (rect : Option Rect) (last : Nat) :
    clientType last (orderBytes k st a rect) = if st.lastOrder ≠ k.type then k.type else last := by
  have hle := zeroTail_le (leBytes k.presentSize (fieldsPresent a k.fields (k.get st)))
  rw [leBytes_length] at hle
  obtain ⟨hfirst, hchange⟩ := flagsOf_type (st.lastOrder ≠ k.type) (hasBounds k a rect)
    (hasBounds k a rect && rect.any (xrdpOrdersLastBounds st.clip))
    (k.hasDeltas && xrdpOrdersSendDelta (k.vals a (k.get st)))
    ⟨zeroTail (leBytes k.presentSize (fieldsPresent a k.fields (k.get st))), by omega⟩
  rw [← orderFlags_eq] at hfirst hchange
  have hflags : (orderBytes k st a rect).getD 0 0 = UInt8.ofNat (orderFlags k st a rect |||
      (zeroTail (leBytes k.presentSize (fieldsPresent a k.fields (k.get st))) <<< 6)) := rfl
  rw [clientType, hflags]
  by_cases hlast : st.lastOrder ≠ k.type
  · have hsaid : (orderBytes k st a rect).getD 1 0 = UInt8.ofNat k.type := by
      simp only [orderBytes]
      rw [if_pos (hchange.2 (decide_eq_true hlast))]
      rfl
    rw [if_pos (hfirst.2 (decide_eq_true hlast)), if_pos hlast, hsaid, UInt8.toNat_ofNat',
      Nat.mod_eq_of_lt htype]
  · rw [if_neg fun h => hlast (of_decide_eq_true (hfirst.1 h)), if_neg hlast]

/-- The bytes a call writes, behind those that were there or a new update begins with. -/
def PrimaryCall.written (env : Env) (self : XrdpOrders) (c : PrimaryCall) (clip : Option Rect) :
    List UInt8 :=
  let start := (xrdpOrdersCheck env self (c.order.kind.maxSize c.order.args)).2.out.p
  let out := (c.run env self clip).2.out
  bytesAt out.cells start (out.p - start)

theorem xrdpOrdersInit_state (env : Env) (self : XrdpOrders) :
    (xrdpOrdersInit env self).state = self.state := by
  simp only [xrdpOrdersInit]
  repeat' split
  all_goals rfl

theorem xrdpRdpSend_state (env : Env) (self : XrdpOrders) :
    (xrdpRdpSend env self).2.state = self.state := by
  simp only [xrdpRdpSend]
  split <;> rfl

theorem xrdpOrdersForceSend_state (env : Env) (self : XrdpOrders) :
    (xrdpOrdersForceSend env self).2.state = self.state := by
  simp only [xrdpOrdersForceSend]
  repeat' split
  all_goals first
    | rfl
    | exact xrdpRdpSend_state env self.close

theorem xrdpOrdersSend_state (env : Env) (self : XrdpOrders) :
    (xrdpOrdersSend env self).2.state = self.state := by
  simp only [xrdpOrdersSend]
  repeat' split
  all_goals first
    | rfl
    | exact xrdpRdpSend_state env _

theorem xrdpOrdersCheck_state (env : Env) (self : XrdpOrders) (maxSize : Int) :
    (xrdpOrdersCheck env self maxSize).2.state = self.state := by
  unfold xrdpOrdersCheck
  simp only
  repeat' split
  all_goals simp only [xrdpOrdersInit_state, xrdpOrdersForceSend_state]

/-- **What a call writes**, if it does. -/
theorem PrimaryCall.written_eq {env : Env} {self : XrdpOrders} {c : PrimaryCall} {clip : Option Rect}
    (hok : (c.run env self clip).1 = 0) :
    c.written env self clip = orderBytes c.order.kind self.state c.order.args clip ∧
      (c.run env self clip).2.state = orderState c.order.kind self.state c.order.args clip := by
  rw [PrimaryCall.run_eq] at hok
  simp only [PrimaryCall.written, PrimaryCall.run_eq]
  generalize c.order.args = a at *
  by_cases hrv : (xrdpOrdersCheck env self (c.order.kind.maxSize a)).1 ≠ 0
  · simp only [primaryOrder, if_pos hrv] at hok
    cases hok
  · have hstate := xrdpOrdersCheck_state env self (c.order.kind.maxSize a)
    obtain ⟨hwrote, hmem⟩ := outOrder_wrote c.order.kind
      (xrdpOrdersCheck env self (c.order.kind.maxSize a)).2.out
      (xrdpOrdersCheck env self (c.order.kind.maxSize a)).2.state a clip
    rw [hstate] at hwrote hmem
    simp only [primaryOrder, if_neg hrv, hstate]
    refine ⟨?_, hmem⟩
    rw [hwrote.p, Nat.add_sub_cancel_left]
    exact hwrote.bytes

theorem PrimaryCall.run_eq_zero {env : Env} {self : XrdpOrders} {c : PrimaryCall}
    {clip : Option Rect} :
    (c.run env self clip).1 = 0 ↔ OrderFits env self (c.order.kind.maxSize c.order.args) := by
  rw [PrimaryCall.run_eq, ← xrdpOrdersCheck_eq_zero]
  simp only [primaryOrder]
  split <;> simp_all

/-- A client takes an order for what it is, if it remembers the type that the server does; otherwise
only if the server does not remember just that type. -/
theorem PrimaryCall.clientType_written {env : Env} {self : XrdpOrders} {c : PrimaryCall}
    {clip : Option Rect} (hok : (c.run env self clip).1 = 0) (last : Nat) :
    clientType last (c.written env self clip) =
      if self.state.lastOrder ≠ c.type then c.type else last := by
  have hlaw : c.order.kind.type < 256 ∧ c.order.kind.presentSize ≤ 3 := by
    cases c <;> exact ⟨of_decide_eq_true rfl, of_decide_eq_true rfl⟩
  rw [(PrimaryCall.written_eq hok).1, orderBytes_type hlaw.1 hlaw.2, c.kind_type]

/-! ## Runs -/

/-- What happens on the server. -/
inductive Event where
  | reset
  | init
  | send
  | forceSend
  | call (c : Call)

/-- The server, and what the client remembers; it begins anew with a reset. -/
structure Sides where
  server : XrdpOrders
  client : Nat
  /-- There has been no primary order yet. -/
  fresh : Bool

def next (env : Env) (s : Sides) : Event → Sides
  | .reset =>
    let (rv, server) := xrdpOrdersReset env s.server
    if rv ≠ 0 then { s with server } else ⟨server, RDP_ORDER_PATBLT, true⟩
  | .init => { s with server := xrdpOrdersInit env s.server }
  | .send => { s with server := (xrdpOrdersSend env s.server).2 }
  | .forceSend => { s with server := (xrdpOrdersForceSend env s.server).2 }
  | .call (.primary c clip) =>
    let (rv, server) := c.run env s.server clip
    if rv ≠ 0 then { s with server }
    else ⟨server, clientType s.client (c.written env s.server clip), false⟩
  | .call (.secondary c) => { s with server := (c.run env s.server).2 }

/-- Both sides at the beginning. -/
def Sides.start (out : OutStream) : Sides := ⟨xrdpOrdersCreate out, RDP_ORDER_PATBLT, true⟩

/-- A primary order is taken for what it is. -/
def Understood (env : Env) (s : Sides) (e : Event) : Prop :=
  ∀ c clip, e = .call (.primary c clip) → (c.run env s.server clip).1 = 0 →
    clientType s.client (c.written env s.server clip) = c.type

/-- The first one is. -/
def FirstUnderstood (env : Env) (s : Sides) (e : Event) : Prop := s.fresh → Understood env s e

/-- The first primary order that fits is not a `DESTBLT`. -/
def FirstHasType (env : Env) (s : Sides) (e : Event) : Prop :=
  s.fresh → ∀ c clip, e = .call (.primary c clip) →
    OrderFits env s.server (c.order.kind.maxSize c.order.args) → c.type ≠ RDP_ORDER_DESTBLT

/-- What both sides remember: the same, once there has been an order. -/
def Agree (s : Sides) : Prop :=
  if s.fresh then s.server.state.lastOrder = 0 ∧ s.client = RDP_ORDER_PATBLT
  else s.server.state.lastOrder = s.client

theorem agree_start (out : OutStream) : Agree (Sides.start out) := ⟨rfl, rfl⟩

/-- The first order is taken for what it is just if it is not a `DESTBLT`. -/
theorem firstUnderstood_iff {env : Env} {s : Sides} (h : Agree s) (e : Event) :
    FirstUnderstood env s e ↔ FirstHasType env s e := by
  unfold FirstUnderstood FirstHasType Understood
  refine forall_congr' fun hfresh => forall_congr' fun c => forall_congr' fun clip =>
    forall_congr' fun _ => ?_
  rw [← @PrimaryCall.run_eq_zero _ _ _ clip]
  refine forall_congr' fun hok => ?_
  rw [Agree, if_pos hfresh] at h
  rw [PrimaryCall.clientType_written hok, h.1, h.2]
  by_cases hdest : c.type = RDP_ORDER_DESTBLT
  · rw [hdest]
    decide
  · rw [if_pos (show 0 ≠ c.type from Ne.symm hdest)]
    exact iff_of_true rfl hdest

/-- Then every order is. -/
theorem understood_of_agree {env : Env} {s : Sides} {e : Event} (h : Agree s)
    (hfirst : FirstHasType env s e) : Understood env s e := by
  by_cases hfresh : s.fresh
  · exact (firstUnderstood_iff h e).2 hfirst hfresh
  · intro c clip he hok
    rw [Agree, if_neg hfresh] at h
    rw [PrimaryCall.clientType_written hok, h]
    split
    · rfl
    · rename_i hsame
      exact not_not.1 hsame

theorem Agree.congr {s s' : Sides} (h : Agree s) (hstate : s'.server.state = s.server.state)
    (hclient : s'.client = s.client) (hfresh : s'.fresh = s.fresh) : Agree s' := by
  rw [Agree, hstate, hclient, hfresh]
  exact h

theorem secondaryOrder_state (env : Env) (self : XrdpOrders) (maxSize : Int)
    (write : OutStream → Nat × OutStream) :
    (secondaryOrder env self maxSize write).2.state = self.state := by
  simp only [secondaryOrder]
  split <;> exact xrdpOrdersCheck_state env self maxSize

/-- A secondary order leaves what is remembered of primary ones. -/
theorem SecondaryCall.run_state (env : Env) (self : XrdpOrders) (c : SecondaryCall) :
    (c.run env self).2.state = self.state := by
  cases c <;>
    simp only [SecondaryCall.run, xrdpOrdersSendPalette, xrdpOrdersSendRawBitmap, xrdpOrdersSendBitmap,
      xrdpOrdersSendFont, xrdpOrdersCacheGlyph, xrdpOrdersCacheGlyphV2, xrdpOrdersSendRawBitmap2,
      xrdpOrdersSendBitmap2, xrdpOrdersSendBitmap3, xrdpOrdersOutV3, xrdpOrdersSendBrush,
      xrdpOrdersSendCreateOsSurface, xrdpOrdersSendSwitchOsSurface] <;>
    (repeat' split) <;>
    first
      | rfl
      | exact secondaryOrder_state env self _ _

/-- An order that is taken for what it is leaves both sides with its type. -/
theorem agree_next {env : Env} {s : Sides} {e : Event} (h : Agree s)
    (hfirst : FirstHasType env s e) : Agree (next env s e) := by
  cases e with
  | reset =>
    by_cases hrv : (xrdpOrdersForceSend env s.server).1 ≠ 0
    · have hnext : next env s .reset = { s with server := (xrdpOrdersForceSend env s.server).2 } := by
        simp [next, xrdpOrdersReset, if_pos hrv]
      rw [hnext]
      exact h.congr (xrdpOrdersForceSend_state env s.server) rfl rfl
    · simp only [next, xrdpOrdersReset, if_neg hrv]
      exact ⟨rfl, rfl⟩
  | init => exact h.congr (xrdpOrdersInit_state env s.server) rfl rfl
  | send => exact h.congr (xrdpOrdersSend_state env s.server) rfl rfl
  | forceSend => exact h.congr (xrdpOrdersForceSend_state env s.server) rfl rfl
  | call call =>
    cases call with
    | primary c clip =>
      simp only [next]
      by_cases hrv : (c.run env s.server clip).1 ≠ 0
      · rw [if_pos hrv]
        refine h.congr ?_ rfl rfl
        rw [PrimaryCall.run_eq] at hrv ⊢
        exact congrArg XrdpOrders.state (primaryOrder_fails hrv)
      · rw [if_neg hrv]
        have hok := not_not.1 hrv
        have hstate := congrArg OrdersState.lastOrder (PrimaryCall.written_eq hok).2
        show (c.run env s.server clip).2.state.lastOrder = clientType s.client _
        rw [understood_of_agree h hfirst c clip rfl hok, hstate]
        exact c.kind_type
    | secondary c => exact h.congr (SecondaryCall.run_state env s.server c) rfl rfl

/-- A `DESTBLT` comes first: a client takes it for a `PATBLT`. -/
theorem first_destBlt_misread :
    let env : Env := {
      maxFastpathFragBytes := 16 * 1024, useFastPath := true, op2 := true, useCacheGlyphV2 := true
      v3CodecId := 0, rfxCodecId := 0, jpegCodecId := 0, compress := fun _ _ => (0, [])
      rfxCompress := none, jpegCompress := none, rfxMinPixel := 64 * 32, headerBytes := 6
      sendOk := fun _ => true, afterSend := id }
    ¬AllFit (fun s e s' => next env s e = s') (FirstUnderstood env)
      (Sides.start ⟨fun _ => 0, 0, 0, 0, 0, 0⟩)
      [.init, .call (.primary (.destBlt 0 0 8 8 0x55) none)] := by
  intro env h
  have hinit : Agree (next env (Sides.start ⟨fun _ => 0, 0, 0, 0, 0, 0⟩) .init) := ⟨rfl, rfl⟩
  have hfits : OrderFits env (next env (Sides.start ⟨fun _ => 0, 0, 0, 0, 0, 0⟩) .init).server 21 := by
    show 6 ≤ 6 + 2
    omega
  exact (firstUnderstood_iff hinit _).1 (h.2 _ rfl).1 rfl _ none rfl hfits rfl

/-- **The types agree**: in every run, every first primary order after the beginning or a reset is
taken for what it is just if none of them is a `DESTBLT`; and then every primary order is. -/
theorem types_agree_iff (env : Env) (out : OutStream) (es : List Event) :
    (AllFit (fun s e s' => next env s e = s') (FirstUnderstood env) (Sides.start out) es ↔
      AllFit (fun s e s' => next env s e = s') (FirstHasType env) (Sides.start out) es) ∧
    (AllFit (fun s e s' => next env s e = s') (FirstHasType env) (Sides.start out) es →
      AllFit (fun s e s' => next env s e = s') (Understood env) (Sides.start out) es) := by
  have hstart := agree_start out
  generalize Sides.start out = s at *
  induction es generalizing s with
  | nil => exact ⟨Iff.rfl, fun h => h⟩
  | cons e es ih =>
    simp only [AllFit, forall_eq']
    rw [firstUnderstood_iff hstart e]
    constructor
    · refine and_congr_right fun hfirst => ?_
      exact (ih _ (agree_next hstart hfirst)).1
    · rintro ⟨hfirst, hrest⟩
      exact ⟨understood_of_agree hstart hfirst, (ih _ (agree_next hstart hfirst)).2 hrest⟩

end Xrdp.Orders
