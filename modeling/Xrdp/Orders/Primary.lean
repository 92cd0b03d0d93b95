import Xrdp.Orders.Orders

/-!
# Primary drawing orders

The functions for primary orders have one shape: of an order only those fields are written that
differ from the last order of its type, coordinates as differences if all differences are small, and
the bits of the fields that are present go in front, without the zero bytes at their end.

* `Kind` — what the functions differ in: the type, the fields in their order, and so on.
* `primaryOrder` — one of the functions, on the memory of the stream.
-/

namespace Xrdp.Orders

open Wire

def TS_STANDARD : Nat := 0x01
def TS_SECONDARY : Nat := 0x02
def TS_BOUNDS : Nat := 0x04
def TS_TYPE_CHANGE : Nat := 0x08
def TS_DELTA_COORDINATES : Nat := 0x10
def TS_ZERO_BOUNDS_DELTAS : Nat := 0x20

/-- `out_uint8`, `out_uint16_le` and so on of an `int`. -/
def outLe (n : Nat) (v : Int) : List UInt8 := leBytes n (v % 256 ^ n).toNat

@[simp] theorem outLe_length (n : Nat) (v : Int) : (outLe n v).length = n := by simp [outLe]

/-! ## Fields -/

/-- A field of an order: `α` is what is to be sent, `ρ` what is remembered. -/
structure Field (α ρ : Type) where
  /-- Its bit among those of the fields present. -/
  bit : Nat
  changed : α → ρ → Bool
  /-- What is written, which may be a difference. -/
  bytes : Bool → α → ρ → List UInt8
  remember : α → ρ → ρ

/-- What the functions for primary orders differ in. -/
structure Kind (α ρ : Type) where
  type : Nat
  maxSize : α → Int
  presentSize : Nat
  /-- "if clip is present, still check if it's needed" -/
  clipNeeded : α → Rect → Bool
  /-- Whether there are coordinates that can be sent as differences, and which. -/
  hasDeltas : Bool
  vals : α → ρ → List (Int × Int)
  fields : List (Field α ρ)
  get : OrdersState → ρ
  set : OrdersState → ρ → OrdersState

variable {α ρ : Type}

/-- The tests of the fields, one after the other: the stream, `present` and what is remembered. -/
def outFields (delta : Bool) (a : α) :
    List (Field α ρ) → OutStream × Nat × ρ → OutStream × Nat × ρ
  | [], st => st
  | f :: fs, (out, present, r) =>
    if f.changed a r then
      outFields delta a fs (out.put (f.bytes delta a r), present ||| f.bit, f.remember a r)
    else outFields delta a fs (out, present, r)

/-- `xrdp_orders_send_delta`. -/
def xrdpOrdersSendDelta (vals : List (Int × Int)) : Bool :=
  vals.all fun (v, last) => decide (|v - last| < 128)

/-! ## Bounds -/

/-- One side of the bounds: whether it is sent in full or as a difference. -/
def boundsFlag (full delta : Nat) (v last : Int) : Nat :=
  if v = last then 0 else if |v - last| < 128 then delta else full

/-- The flags of all sides. -/
def boundsFlags (clip rect : Rect) : Nat :=
  boundsFlag 0x01 0x10 rect.left clip.left ||| boundsFlag 0x02 0x20 rect.top clip.top |||
    boundsFlag 0x04 0x40 rect.right clip.right ||| boundsFlag 0x08 0x80 rect.bottom clip.bottom

/-- What is written for one side; `silly` is taken off one that is sent in full. -/
def boundsSide (flags full delta : Nat) (v last silly : Int) : List UInt8 :=
  if flags &&& full ≠ 0 then outLe 2 (v - silly)
  else if flags &&& delta ≠ 0 then outLe 1 (v - last)
  else []

/-- `xrdp_orders_last_bounds`. -/
def xrdpOrdersLastBounds (clip rect : Rect) : Bool :=
  rect.left == clip.left && rect.top == clip.top && rect.right == clip.right &&
    rect.bottom == clip.bottom

/-- `xrdp_orders_out_bounds`: the stream, and the bounds that are remembered. -/
def xrdpOrdersOutBounds (out : OutStream) (clip rect : Rect) : OutStream × Rect :=
  let boundsFlagsPtr := out.p
  let out := out.skip 1
  let flags := boundsFlags clip rect
  let out := out.put (boundsSide flags 0x01 0x10 rect.left clip.left 0)
  let out := out.put (boundsSide flags 0x02 0x20 rect.top clip.top 0)
  let out := out.put (boundsSide flags 0x04 0x40 rect.right clip.right 1)
  let out := out.put (boundsSide flags 0x08 0x80 rect.bottom clip.bottom 1)
  ({ out with cells := writeAt out.cells boundsFlagsPtr [UInt8.ofNat flags] }, rect)

/-! ## The bits of the fields -/

/-- The first loop of `xrdp_order_pack_small_or_tiny`, from the last byte down: the memory,
`move_up_count` and `keep_looking`. -/
def packLoop (presentPtr present : Nat) : Nat → (Nat → UInt8) × Nat × Bool →
    (Nat → UInt8) × Nat × Bool
  | 0, st => st
  | index + 1, (cells, moveUpCount, keepLooking) =>
    let byte := UInt8.ofNat (present >>> (index * 8))
    let cells := writeAt cells (presentPtr + index) [byte]
    if keepLooking then
      if byte = 0 then packLoop presentPtr present index (cells, moveUpCount + 1, true)
      else packLoop presentPtr present index (cells, moveUpCount, false)
    else packLoop presentPtr present index (cells, moveUpCount, false)

/-- `xrdp_order_pack_small_or_tiny`. -/
def xrdpOrderPackSmallOrTiny (out : OutStream) (orderFlagsPtr orderFlags presentPtr present
    presentSize : Nat) : OutStream :=
  let (cells, moveUpCount, _) := packLoop presentPtr present presentSize (out.cells, 0, true)
  let out := { out with cells }
  if moveUpCount > 0 then
    let orderFlags := orderFlags ||| (moveUpCount <<< 6)
    let size := out.p - presentPtr - presentSize
    let cells := copyDown size (presentPtr + (presentSize - moveUpCount)) (presentPtr + presentSize)
      out.cells
    { out with
      p := out.p - moveUpCount
      cells := writeAt cells orderFlagsPtr [UInt8.ofNat orderFlags] }
  else { out with cells := writeAt out.cells orderFlagsPtr [UInt8.ofNat orderFlags] }

/-! ## An order -/

/-- The flags of an order, all but the number of zero bytes. -/
def orderFlags (k : Kind α ρ) (st : OrdersState) (a : α) (rect : Option Rect) : Nat :=
  let flags := TS_STANDARD
  let flags := if st.lastOrder ≠ k.type then flags ||| TS_TYPE_CHANGE else flags
  let flags := match rect with
    | none => flags
    | some rect =>
      if k.clipNeeded a rect then
        if xrdpOrdersLastBounds st.clip rect then flags ||| TS_BOUNDS ||| TS_ZERO_BOUNDS_DELTAS
        else flags ||| TS_BOUNDS
      else flags
  if k.hasDeltas ∧ xrdpOrdersSendDelta (k.vals a (k.get st)) then flags ||| TS_DELTA_COORDINATES
  else flags

/-- The type of an order, if it is not that of the last one. -/
def outType (flags type : Nat) (out : OutStream) : OutStream :=
  if flags &&& TS_TYPE_CHANGE ≠ 0 then out.outUint8 type else out

/-- The bounds of an order, if they are not the last ones: the stream, and those remembered. -/
def outClip (flags : Nat) (out : OutStream) (clip : Rect) : Option Rect → OutStream × Rect
  | none => (out, clip)
  | some rect =>
    if flags &&& TS_BOUNDS ≠ 0 ∧ flags &&& TS_ZERO_BOUNDS_DELTAS = 0 then
      xrdpOrdersOutBounds out clip rect
    else (out, clip)

/-- What a function does once the order fits: the stream and the state. -/
def outOrder (k : Kind α ρ) (out : OutStream) (st : OrdersState) (a : α) (rect : Option Rect) :
    OutStream × OrdersState :=
  let flags := orderFlags k st a rect
  let orderFlagsPtr := out.p
  let out := outType flags k.type (out.skip 1)
  let presentPtr := out.p
  let (out, clip) := outClip flags (out.skip k.presentSize) st.clip rect
  let (out, present, r) :=
    outFields (flags &&& TS_DELTA_COORDINATES ≠ 0) a k.fields (out, 0, k.get st)
  (xrdpOrderPackSmallOrTiny out orderFlagsPtr flags presentPtr present k.presentSize,
    { k.set st r with lastOrder := k.type, clip })

/-- A function for primary orders. -/
def primaryOrder (env : Env) (k : Kind α ρ) (self : XrdpOrders) (a : α) (rect : Option Rect) :
    Nat × XrdpOrders :=
  let (rv, self) := xrdpOrdersCheck env self (k.maxSize a)
  if rv ≠ 0 then (1, self)
  else
    let (out, state) := outOrder k self.out self.state a rect
    (0, { self with orderCount := self.orderCount + 1, out, state })

end Xrdp.Orders
