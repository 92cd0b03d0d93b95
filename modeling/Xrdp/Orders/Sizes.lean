import Xrdp.Orders.Appended

/-!
# Declared and real sizes of orders

Each order function declares how much it puts into the stream at most, and `xrdp_orders_check` makes
sure that there is room for that.

* `orderSize` — the size of a primary order, counted by its fields.
* `SizeFits` — the calls whose orders are as large as declared at most, and in the limit of an update.
* `sizes_declared_iff` — no others are.
-/

namespace Xrdp.Orders

open Wire

variable {α ρ : Type}

/-! ## Sizes by what differs -/

/-- The bytes of the fields that are sent. -/
def fieldsSize (delta : Bool) (a : α) : List (Field α ρ) → ρ → Nat
  | [], _ => 0
  | f :: fs, r =>
    if f.changed a r then (f.bytes delta a r).length + fieldsSize delta a fs (f.remember a r)
    else fieldsSize delta a fs r

/-- The bytes of one side of the bounds. -/
def sideSize (v last : Int) : Nat := if v = last then 0 else if |v - last| < 128 then 1 else 2

/-- The bytes of the bounds, with their flags in front. -/
def boundsSize (clip rect : Rect) : Nat :=
  1 + sideSize rect.left clip.left + sideSize rect.top clip.top + sideSize rect.right clip.right +
    sideSize rect.bottom clip.bottom

/-- The bytes of the bounds of an order, if it has any of its own. -/
def clipSize (k : Kind α ρ) (st : OrdersState) (a : α) (rect : Option Rect) : Nat :=
  match rect with
  | none => 0
  | some rect =>
    if k.clipNeeded a rect ∧ ¬xrdpOrdersLastBounds st.clip rect then boundsSize st.clip rect else 0

/-- The size of an order, counted by what differs from the last one of its type: flags, type, bits of
the fields but for zero bytes at the end, bounds and fields. -/
def orderSize (k : Kind α ρ) (st : OrdersState) (a : α) (rect : Option Rect) : Nat :=
  let r := k.get st
  let delta := k.hasDeltas && xrdpOrdersSendDelta (k.vals a r)
  1 + (if st.lastOrder = k.type then 0 else 1) +
    (k.presentSize - zeroTail (leBytes k.presentSize (fieldsPresent a k.fields r))) + clipSize k st a rect +
    fieldsSize delta a k.fields r

/-- What a field comes to at most. -/
def AtMost (a : α) (f : Field α ρ) (w : Nat) : Prop := ∀ delta r, (f.bytes delta a r).length ≤ w

theorem fieldsSize_le {a : α} {fs : List (Field α ρ)} {ws : List Nat}
    (h : List.Forall₂ (AtMost a) fs ws) (delta : Bool) (r : ρ) : fieldsSize delta a fs r ≤ ws.sum := by
  induction h generalizing r with
  | nil => exact Nat.le_refl 0
  | cons hf _ ih =>
    rw [fieldsSize, List.sum_cons]
    split
    · exact Nat.add_le_add (hf delta r) (ih _)
    · exact Nat.le_trans (ih _) (Nat.le_add_left _ _)

theorem clipSize_le (k : Kind α ρ) (st : OrdersState) (a : α) (rect : Option Rect) :
    clipSize k st a rect ≤ 9 := by
  have hside : ∀ v last, sideSize v last ≤ 2 := fun v last => by
    unfold sideSize
    split
    · exact Nat.zero_le 2
    · split <;> omega
  unfold clipSize boundsSize
  split
  · exact Nat.zero_le 9
  · rename_i rect
    have hleft := hside rect.left st.clip.left
    have htop := hside rect.top st.clip.top
    have hright := hside rect.right st.clip.right
    have hbottom := hside rect.bottom st.clip.bottom
    split <;> omega

/-- An order is as large as all its parts at most. -/
theorem orderSize_le {k : Kind α ρ} {a : α} {ws : List Nat} (h : List.Forall₂ (AtMost a) k.fields ws)
    (st : OrdersState) (rect : Option Rect) : orderSize k st a rect ≤ 11 + k.presentSize + ws.sum := by
  have hfields := fieldsSize_le h (k.hasDeltas && xrdpOrdersSendDelta (k.vals a (k.get st))) (k.get st)
  have hclip := clipSize_le k st a rect
  simp only [orderSize]
  split <;> omega

section

variable (a : α)

@[simp] theorem coord_atMost (bit : Nat) (new : α → Int) (last : ρ → Int) (set : ρ → Int → ρ) :
    AtMost a (coord bit new last set) 2 := fun delta r => by
  simp only [coord]
  split <;> simp

@[simp] theorem intField_atMost (n bit : Nat) (new : α → Int) (last : ρ → Int) (set : ρ → Int → ρ) :
    AtMost a (intField n bit new last set) n := fun delta r => by
  simp [intField]

end

@[simp] theorem rectColor_atMost (a : SolidRect) (i bit : Nat) : AtMost a (rectColor i bit) 1 :=
  fun delta r => by simp [rectColor]

@[simp] theorem brushPattern0_atMost (a : PatBlt) : AtMost a brushPattern0 1 :=
  fun _ _ => Nat.le_refl 1

@[simp] theorem brushPattern1_atMost (a : PatBlt) : AtMost a brushPattern1 7 :=
  fun delta r => by simp [brushPattern1]

@[simp] theorem memBltCache_atMost (a : MemBlt) : AtMost a memBltCache 2 :=
  fun delta r => by simp [memBltCache]

@[simp] theorem compositeTransform0_atMost (a : CompositeArgs) : AtMost a compositeTransform0 4 :=
  fun delta r => by simp [compositeTransform0]

@[simp] theorem compositeTransform1_atMost (a : CompositeArgs) : AtMost a compositeTransform1 36 :=
  fun delta r => by
    simp only [compositeTransform1]
    cases a.srctransform with
    | none => exact Nat.zero_le 36
    | some t => simp [List.ofFn_succ]

@[simp] theorem textData_atMost (a : TextArgs) : AtMost a textData (1 + a.data.length) :=
  fun delta r => by simp [textData]

/-- The sizes of the fields of an order, each in full. -/
def PrimaryCall.widths : PrimaryCall → List Nat
  | rect .. => [2, 2, 2, 2, 1, 1, 1]
  | screenBlt .. => [2, 2, 2, 2, 1, 2, 2]
  | patBlt .. => [2, 2, 2, 2, 1, 3, 3, 1, 1, 1, 1, 7]
  | destBlt .. => [2, 2, 2, 2, 1]
  | line .. => [2, 2, 2, 2, 2, 3, 1, 1, 1, 3]
  | memBlt .. => [2, 2, 2, 2, 2, 1, 2, 2, 2]
  | compositeBlt .. => [2, 4, 2, 1, 4, 36, 1, 2, 4, 2, 1, 1, 2, 2, 2, 2, 2, 2, 2, 2, 4]
  | text _ _ _ _ _ _ _ _ _ data => [1, 1, 1, 3, 3, 2, 2, 2, 2, 2, 2, 2, 2, 2, 2, 1 + data.length]

theorem PrimaryCall.atMost (c : PrimaryCall) :
    List.Forall₂ (AtMost c.order.args) c.order.kind.fields c.widths := by
  cases c <;>
    simp [PrimaryCall.order, PrimaryCall.widths, rectKind, screenBltKind, patBltKind, destBltKind,
      lineKind, memBltKind, compositeKind, textKind]
  exact textData_atMost _

/-- No function for primary orders declares too little, but for that of a composition. -/
theorem PrimaryCall.size_le {c : PrimaryCall} (h : ∀ a, c ≠ .compositeBlt a) (st : OrdersState)
    (clip : Option Rect) : (orderSize c.order.kind st c.order.args clip : Int) ≤ c.maxSize := by
  have hsize := orderSize_le c.atMost st clip
  cases c with
  | compositeBlt a => exact absurd rfl (h a)
  | text =>
    simp only [PrimaryCall.order, PrimaryCall.widths, PrimaryCall.maxSize, textKind, List.sum_cons,
      List.sum_nil] at hsize ⊢
    omega
  | _ => exact Int.ofNat_le.2 (Nat.le_trans hsize (of_decide_eq_true rfl))

/-! ## Declared sizes -/

/-- What is in an update. -/
def XrdpOrders.filled (o : XrdpOrders) : Int := o.out.p - o.orderCountPtr

/-- The size of an order, counted for a primary one by what differs. -/
def Call.counted (env : Env) (st : OrdersState) : Call → Nat
  | primary c clip => orderSize c.order.kind st c.order.args clip
  | secondary c => c.size env

/-- What else it takes, if the declared size is in the range of an `int`: a composition that is small
enough, the flag for bitmaps, and a glyph of a size that is not negative or is refused soon enough. -/
def Call.Honest (env : Env) (st : OrdersState) : Call → Prop
  | .primary (.compositeBlt a) clip => orderSize compositeKind st a clip ≤ 80
  | .secondary (.bitmap _ _ _) => env.op2
  | .secondary (.font c _ _) =>
    0 ≤ c.datasize ∨ env.useCacheGlyphV2 ∧ (c.numbersSize : Int) ≤ c.datasize + 8
  | _ => True

theorem int_eq {m : Int} (hlow : -2 ^ 31 ≤ m) (hhigh : m < 2 ^ 31) : int m = m := by
  simp only [int, Int.bmod_def]
  omega

theorem int_le {m : Int} (h : -2 ^ 31 ≤ m) : int m ≤ m := by
  simp only [int, Int.bmod_def]
  omega

theorem FontChar.datasize_range (c : FontChar) : -2 ^ 31 ≤ c.datasize ∧ c.datasize < 2 ^ 31 := by
  unfold FontChar.datasize
  split
  all_goals
    simp only [int, Int.bmod_def]
    omega

theorem FontChar.numbersSize_le (c : FontChar) : c.numbersSize ≤ 8 := by
  unfold FontChar.numbersSize signedSize unsignedSize
  grind

/-- A size that is declared well keeps to what an `int` makes of that just if it is in its range. -/
theorem size_le_int_iff {size : Nat} {m : Int} (hle : size ≤ m) (hnear : m ≤ size + 2000) :
    size ≤ int m ↔ m < 2 ^ 31 := by
  constructor
  · intro h
    by_contra hbig
    simp only [int, Int.bmod_def] at h
    omega
  · intro h
    rw [int_eq (by omega) h]
    exact hle

/-- A field that is always sent is in the order. -/
theorem le_fieldsSize {delta : Bool} {a : α} {n : Nat} {f : Field α ρ} {fs : List (Field α ρ)}
    (hf : f ∈ fs) (hsent : ∀ r, f.changed a r ∧ n ≤ (f.bytes delta a r).length) (r : ρ) :
    n ≤ fieldsSize delta a fs r := by
  induction fs generalizing r with
  | nil => cases hf
  | cons g fs ih =>
    rw [fieldsSize]
    rcases List.mem_cons.1 hf with rfl | hrest
    · rw [if_pos (hsent r).1]
      exact Nat.le_add_right_of_le (hsent r).2
    · split
      · exact Nat.le_add_left_of_le (ih hrest _)
      · exact ih hrest r

/-- A text is in its order. -/
theorem le_textSize (st : OrdersState) (a : TextArgs) (clip : Option Rect) :
    a.data.length ≤ orderSize textKind st a clip := by
  have hdata : textData ∈ textKind.fields := by simp [textKind]
  have hsent : ∀ r : Text, textData.changed a r ∧ a.data.length ≤ (textData.bytes false a r).length :=
    fun r => ⟨rfl, by simp [textData]⟩
  exact Nat.le_trans (le_fieldsSize hdata hsent (textKind.get st)) (Nat.le_add_left _ _)

/-- The size of a primary order, but for a composition. -/
theorem PrimaryCall.size_le_int_iff {c : PrimaryCall} (h : ∀ a, c ≠ .compositeBlt a) (st : OrdersState)
    (clip : Option Rect) :
    (orderSize c.order.kind st c.order.args clip : Int) ≤ int c.maxSize ↔ c.maxSize < 2 ^ 31 := by
  refine Orders.size_le_int_iff (PrimaryCall.size_le h st clip) ?_
  cases c with
  | compositeBlt a => exact absurd rfl (h a)
  | text font flags mixmode fgColor bgColor clip' box x y data =>
    have hdata := le_textSize st ⟨⟨font, flags, mixmode, fgColor, bgColor, clip', box, x, y⟩, data⟩ clip
    simp only [PrimaryCall.order, PrimaryCall.maxSize, textKind] at hdata ⊢
    omega
  | _ =>
    simp only [PrimaryCall.maxSize, PrimaryCall.order, rectKind, screenBltKind, patBltKind, destBltKind,
      lineKind, memBltKind]
    omega

theorem Bitmap.rawLines_fits (b : Bitmap) (header : Nat) (maxOrderSize : Int) (height : Nat) :
    b.rawLines header maxOrderSize height = 0 ∨
      (b.lineBytes * b.rawLines header maxOrderSize height + header : Int) ≤ maxOrderSize := by
  induction height with
  | zero => exact .inl rfl
  | succ height ih =>
    rw [Bitmap.rawLines]
    split
    · exact ih
    · exact .inr (by push_cast; omega)

/-- The lines that are sent as they are fit in an `int`. -/
theorem Bitmap.bufsize_lt {env : Env} (henv : env.maxFastpathFragBytes < 2 ^ 31) (b : Bitmap) (header : Nat) :
    (b.bufsize env header : Int) + header < 2 ^ 31 ∨ b.bufsize env header = 0 := by
  rcases b.rawLines_fits header env.maxOrdersSize b.height with h | h
  · exact .inr (by rw [Bitmap.bufsize, h, Nat.mul_zero])
  · refine .inl ?_
    simp only [Bitmap.bufsize, Env.maxOrdersSize] at h ⊢
    push_cast at h ⊢
    omega

/-- **The size of a secondary order**. -/
theorem SecondaryCall.size_le_int_iff {env : Env} (henv : env.maxFastpathFragBytes < 2 ^ 31)
    {c : SecondaryCall} {m : Int} (hm : c.maxSize env = some m) (st : OrdersState) :
    (c.size env : Int) ≤ int m ↔ m < 2 ^ 31 ∧ Call.Honest env st (.secondary c) := by
  cases c with
  | bitmap b cacheId cacheIdx =>
    obtain ⟨-, rfl⟩ := of_large hm
    simp only [SecondaryCall.size, Call.Honest]
    by_cases hop2 : env.op2
    · rw [if_pos hop2, and_iff_left hop2]
      exact Orders.size_le_int_iff (by omega) (by omega)
    · have hle := @int_le ((env.compress b env.maxOrdersSize).2.length + 16) (by omega)
      rw [if_neg hop2]
      exact iff_of_false (by omega) fun h => hop2 h.2
  | font c fontIndex charIndex =>
    cases hm
    have hrange := c.datasize_range
    have hnumbers := c.numbersSize_le
    simp only [SecondaryCall.size, Call.Honest]
    by_cases hv2 : env.useCacheGlyphV2
    · rw [if_pos hv2, if_pos hv2, and_iff_right hv2]
      by_cases hneg : c.datasize < 0
      · rw [int_eq (by omega) (by omega), Int.toNat_of_nonpos (by omega), ite_self]
        omega
      · by_cases hbig : c.datasize + 15 < 2 ^ 31
        · rw [int_eq (by omega) hbig]
          split <;> omega
        · have hwrap : int (c.datasize + 15) < 0 := by
            simp only [int, Int.bmod_def]
            omega
          exact iff_of_false (by omega) fun h => hbig h.1
    · rw [if_neg hv2, if_neg hv2, or_iff_left fun h => hv2 h.1]
      by_cases hneg : c.datasize < 0
      · rw [int_eq (by omega) (by omega)]
        omega
      · rw [Orders.size_le_int_iff (by omega) (by omega)]
        omega
  | rawBitmap b cacheId cacheIdx =>
    obtain ⟨-, rfl⟩ := of_large hm
    have hlt := b.bufsize_lt henv 16
    simp only [SecondaryCall.size, Call.Honest, and_true]
    rw [int_eq (by omega) (by omega)]
    split <;> omega
  | rawBitmap2 b cacheId cacheIdx =>
    obtain ⟨-, rfl⟩ := of_large hm
    have hlt := b.bufsize_lt henv 14
    simp only [SecondaryCall.size, Call.Honest, and_true]
    rw [int_eq (by omega) (by omega)]
    split <;> omega
  | bitmap2 b cacheId cacheIdx =>
    obtain ⟨-, rfl⟩ := of_large hm
    simp only [SecondaryCall.size, Call.Honest, and_true]
    exact Orders.size_le_int_iff (by omega) (by omega)
  | bitmap3 b cacheId cacheIdx hints =>
    obtain ⟨data, hdata, rfl⟩ := Option.map_eq_some_iff.1 hm
    simp only [SecondaryCall.size, Call.Honest, and_true, hdata, Option.getD_some]
    exact Orders.size_le_int_iff (by omega) (by omega)
  | createOsSurface id width height delList =>
    cases hm
    simp only [SecondaryCall.size, Call.Honest, and_true]
    split
    · exact Orders.size_le_int_iff (by omega) (by omega)
    · exact Orders.size_le_int_iff (by omega) (by omega)
  | _ =>
    cases hm
    simp only [SecondaryCall.size, Call.Honest, and_true]
    exact Orders.size_le_int_iff (by omega) (by omega)

/-- A call's order is as large as declared at most just if it is small enough for what is declared. -/
theorem Call.size_le_int_iff {env : Env} (henv : env.maxFastpathFragBytes < 2 ^ 31) {call : Call} {m : Int}
    (hm : call.maxSize env = some m) (st : OrdersState) :
    (call.counted env st : Int) ≤ int m ↔ m < 2 ^ 31 ∧ call.Honest env st := by
  cases call with
  | secondary c => exact SecondaryCall.size_le_int_iff henv hm st
  | primary c clip =>
    cases hm
    by_cases hcomposite : ∃ a, c = .compositeBlt a
    · obtain ⟨a, rfl⟩ := hcomposite
      have hmax : (PrimaryCall.compositeBlt a).maxSize = 80 := rfl
      rw [hmax, int_eq (by omega) (by omega)]
      simp only [Call.Honest, Call.counted, PrimaryCall.order]
      omega
    · have hother : ∀ a, c ≠ .compositeBlt a := fun a h => hcomposite ⟨a, h⟩
      have hhonest : (Call.primary c clip).Honest env st := by
        cases c with
        | compositeBlt a => exact absurd rfl (hother a)
        | _ => trivial
      rw [and_iff_left hhonest]
      exact PrimaryCall.size_le_int_iff hother st clip

end Xrdp.Orders
