import Xrdp.Lib.Formats
import Xrdp.Memory

/-!
# The orders of the X server

`lib_mod_process_orders` in `xup/xup.c`, with the function that reads each order.  Nothing is checked
by the code; a read that leaves the message, a copy that leaves its array, or an array of negative
length is `Stuck.outOfBounds` here.

* `Mod`, `Env` — what the orders depend on.
* `libModProcessOrders` — an order is read, and handed to the rest of the program.
* `bodySize` — how many bytes an order takes.
* `readOrder_takes` — an order takes these, or leaves the message.
-/

namespace Xrdp.Xup

open Formats

/-! ## Reading orders -/

/-- What is called with an order. -/
inductive ServerOp where
  | beginUpdate | endUpdate | fillRect | screenBlt | paintRect | setClip | resetClip | setFgcolor
  | setBgcolor | setOpcode | setPen | drawLine | setCursor | createOsSurface | switchOsSurface
  | deleteOsSurface | paintRectOs | setHints | windowNewUpdate | windowDelete | windowShow | addChar
  | addCharAlpha | drawText | createOsSurfaceBpp | paintRectBpp | composite | setCursorEx
  | paintRectShmem | paintRectShmemEx
  deriving DecidableEq, Repr

/-- A call, with what has been read for it, piece by piece. -/
structure ServerCall where
  op : ServerOp
  args : List (List Int)
  data : List (List UInt8)
  deriving DecidableEq, Repr

/-- A reader of the message. -/
abbrev In := Reader Stuck

/-- An order that is of a format: what is called with what has been read. -/
structure Order where
  op : ServerOp
  format : List Piece
  deriving Repr

def Order.read (order : Order) : In ServerCall := do
  let args ← Formats.read Stuck.outOfBounds order.format
  return ⟨order.op, args, []⟩

/-- `in_uint8a` of `n` bytes, into an array of `room`. -/
def inUint8a (room n : Nat) : In (List UInt8) :=
  if n ≤ room then takeBytes Stuck.outOfBounds n else fun _ => .error .outOfBounds

/-- `in_uint8p`, behind its length. -/
def bmpdata (lenBmpdata : Field) : Piece := .array lenBmpdata [.u8]

/-- `cur_mask[32 * (32 / 8)]`. -/
def curMask : Nat := 32 * (32 / 8)

def processServerFillRect : Order := ⟨.fillRect, [.fields [.s16, .s16, .u16, .u16]]⟩
def processServerScreenBlt : Order := ⟨.screenBlt, [.fields [.s16, .s16, .u16, .u16, .s16, .s16]]⟩
def processServerPaintRect : Order where
  op := .paintRect
  format := [.fields [.s16, .s16, .u16, .u16], bmpdata .s32, .fields [.u16, .u16, .s16, .s16]]
def processServerSetClip : Order := ⟨.setClip, [.fields [.s16, .s16, .u16, .u16]]⟩
def processServerResetClip : Order := ⟨.resetClip, []⟩
def processServerSetFgcolor : Order := ⟨.setFgcolor, [.fields [.s32]]⟩
def processServerSetBgcolor : Order := ⟨.setBgcolor, [.fields [.s32]]⟩
def processServerSetOpcode : Order := ⟨.setOpcode, [.fields [.u16]]⟩
def processServerSetPen : Order := ⟨.setPen, [.fields [.u16, .u16]]⟩
def processServerDrawLine : Order := ⟨.drawLine, [.fields [.s16, .s16, .s16, .s16]]⟩
def processServerCreateOsSurface : Order := ⟨.createOsSurface, [.fields [.s32, .u16, .u16]]⟩
def processServerSwitchOsSurface : Order := ⟨.switchOsSurface, [.fields [.s32]]⟩
def processServerDeleteOsSurface : Order := ⟨.deleteOsSurface, [.fields [.s32]]⟩
def processServerPaintRectOs : Order where
  op := .paintRectOs
  format := [.fields [.s16, .s16, .u16, .u16, .s32, .s16, .s16]]
def processServerSetHints : Order := ⟨.setHints, [.fields [.s32, .s32]]⟩

/-- The title and the two arrays of rectangles are copied into memory of their size. -/
def processServerWindowNewUpdate : Order where
  op := .windowNewUpdate
  format := [.fields [.s32, .s32, .s32, .s32, .s32], .array .u16 [.u8],
    .fields [.s32, .s32, .s32, .s32, .s32, .s32, .s32, .s32, .s32, .s32, .s32, .s32],
    .array .u16 [.u16, .u16, .u16, .u16], .fields [.s32, .s32], .array .u16 [.u16, .u16, .u16, .u16],
    .fields [.s32]]

def processServerWindowDelete : Order := ⟨.windowDelete, [.fields [.s32]]⟩
def processServerWindowShow : Order := ⟨.windowShow, [.fields [.s32, .s32, .s32]]⟩
def processServerAddChar : Order where
  op := .addChar
  format := [.fields [.u16, .u16, .s16, .s16, .u16, .u16], bmpdata .u16]
def processServerAddCharAlpha : Order where
  op := .addCharAlpha
  format := [.fields [.u16, .u16, .s16, .s16, .u16, .u16], bmpdata .u16]
def processServerDrawText : Order where
  op := .drawText
  format := [.fields [.u16, .u16, .u16], .fields [.s16, .s16, .s16, .s16],
    .fields [.s16, .s16, .s16, .s16], .fields [.s16, .s16], bmpdata .u16]
def processServerCreateOsSurfaceBpp : Order where
  op := .createOsSurfaceBpp
  format := [.fields [.s32, .u16, .u16, .u8]]
def processServerPaintRectBpp : Order where
  op := .paintRectBpp
  format := [.fields [.s16, .s16, .u16, .u16], bmpdata .s32, .fields [.u16, .u16, .s16, .s16, .u8]]

/-- `transform[10]` is copied with its 40 bytes. -/
def processServerComposite : Order where
  op := .composite
  format := [.fields [.u16, .s32, .u16, .u8], .fields (List.replicate 10 .s32),
    .fields [.u8, .u16, .s32, .u16, .u8, .u8, .s16, .s16, .s16, .s16, .s16, .s16, .u16, .u16, .s32]]

def processServerPaintRectShmem : Order where
  op := .paintRectShmem
  format := [.fields [.s16, .s16, .u16, .u16], .fields [.s32, .s32, .s32, .s32],
    .fields [.u16, .u16, .s16, .s16]]
def processServerPaintRectShmemEx : Order where
  op := .paintRectShmemEx
  format := [.array .u16 [.s16, .s16, .s16, .s16], .array .u16 [.s16, .s16, .s16, .s16],
    .fields [.s32, .s32, .s32, .s32], .fields [.u16, .u16]]

/-- `process_server_set_cursor`. -/
def processServerSetCursor : In ServerCall := do
  let args ← readFields Stuck.outOfBounds [.s16, .s16]
  let curData ← inUint8a (32 * (32 * 3)) (32 * (32 * 3))
  let mask ← inUint8a curMask curMask
  return ⟨.setCursor, [args], [curData, mask]⟩

/-- `Bpp` of `process_server_set_pointer_ex`. -/
def pointerBpp (bpp : Int) : Nat := if bpp = 0 then 3 else (bpp.toNat + 7) / 8

/-- `process_server_set_pointer_ex`: how much is copied is as the message says. -/
def processServerSetPointerEx : In ServerCall := do
  let args ← readFields Stuck.outOfBounds [.s16, .s16]
  let bpp ← readField Stuck.outOfBounds .u16
  let curData ← inUint8a (32 * (32 * 4)) (32 * (32 * pointerBpp bpp))
  let mask ← inUint8a curMask curMask
  return ⟨.setCursorEx, [args, [bpp]], [curData, mask]⟩

/-- The format of an order, if it has one, by its type. -/
def orderFormat : Nat → Option Order
  | 1 => some ⟨.beginUpdate, []⟩
  | 2 => some ⟨.endUpdate, []⟩
  | 3 => some processServerFillRect
  | 4 => some processServerScreenBlt
  | 5 => some processServerPaintRect
  | 10 => some processServerSetClip
  | 11 => some processServerResetClip
  | 12 => some processServerSetFgcolor
  | 13 => some processServerSetBgcolor
  | 14 => some processServerSetOpcode
  | 17 => some processServerSetPen
  | 18 => some processServerDrawLine
  | 20 => some processServerCreateOsSurface
  | 21 => some processServerSwitchOsSurface
  | 22 => some processServerDeleteOsSurface
  | 23 => some processServerPaintRectOs
  | 24 => some processServerSetHints
  | 25 => some processServerWindowNewUpdate
  | 26 => some processServerWindowDelete
  | 27 => some processServerWindowShow
  | 28 => some processServerAddChar
  | 29 => some processServerAddCharAlpha
  | 30 => some processServerDrawText
  | 31 => some processServerCreateOsSurfaceBpp
  | 32 => some processServerPaintRectBpp
  | 33 => some processServerComposite
  | 60 => some processServerPaintRectShmem
  | 61 => some processServerPaintRectShmemEx
  | _ => none

/-- The `switch` of `lib_mod_process_orders`: of an unknown order nothing is read. -/
def readOrder (type : Nat) : In (Option ServerCall) :=
  match type with
  | 19 => do
    let call ← processServerSetCursor
    return some call
  | 51 => do
    let call ← processServerSetPointerEx
    return some call
  | type =>
    match orderFormat type with
    | some order => do
      let call ← order.read
      return some call
    | none => pure none

/-! ## What is done with an order -/

/-- `struct mod`, as far as the orders use it. -/
structure Mod where
  screenShmemIdMapped : Bool
  screenShmemId : Int
  screenShmemPixels : Option Int
  deriving DecidableEq, Repr

/-- The rest of the program: what the calls return, and where memory is attached. -/
structure Env where
  returns : List ServerCall → Int
  shmat : Int → Option Int

/-- The memory of the screen is attached when it is another. -/
def Mod.attach (env : Env) (mod : Mod) (shmemId : Int) : Mod :=
  if mod.screenShmemIdMapped = false ∨ mod.screenShmemId ≠ shmemId then
    match env.shmat shmemId with
    | none => ⟨false, 0, none⟩
    | some pixels => ⟨true, shmemId, some pixels⟩
  else mod

/-- `bmpdata`; `none` is 0. -/
def Mod.pixelsAt (mod : Mod) (shmemOffset : Int) : Option Int :=
  mod.screenShmemPixels.bind fun pixels =>
    if pixels + shmemOffset = 0 then none else some (pixels + shmemOffset)

/-- An argument of a call. -/
def ServerCall.arg (call : ServerCall) (piece i : Nat) : Int := (call.args.getD piece []).getD i 0

/-- What an order returns; `calls` have been made before. -/
def Mod.perform (env : Env) (mod : Mod) (calls : List ServerCall) (call : ServerCall) : Int × Mod :=
  match call.op with
  | .windowNewUpdate => (0, mod)
  | .windowDelete => (0, mod)
  | .windowShow => (0, mod)
  | .paintRectShmem =>
    let mod := mod.attach env (call.arg 1 2)
    (if (mod.pixelsAt (call.arg 1 3)).isSome then env.returns (calls ++ [call]) else 0, mod)
  | .paintRectShmemEx =>
    -- only the screen has memory
    if call.arg 2 0 = 0 then
      let mod := mod.attach env (call.arg 2 2)
      (if (mod.pixelsAt (call.arg 2 3)).isSome then env.returns (calls ++ [call]) else 1, mod)
    else (1, mod)
  | _ => (env.returns (calls ++ [call]), mod)

/-- What comes of an order. -/
structure Handled where
  rv : Int
  mod : Mod
  calls : List ServerCall
  rest : List UInt8

/-- `lib_mod_process_orders`. -/
def libModProcessOrders (env : Env) (mod : Mod) (calls : List ServerCall) (type : Nat)
    (s : List UInt8) : Run Handled := do
  let (call, rest) ← readOrder type s
  match call with
  | none => return ⟨0, mod, calls, rest⟩
  | some call =>
    let (rv, mod) := mod.perform env calls call
    return ⟨rv, mod, calls ++ [call], rest⟩

/-! ## Sizes -/

/-- The size of an order behind its header; it has none if it says that an array has a negative length,
or a pointer more bytes than there is room for. -/
def bodySize (type : Nat) (s : List UInt8) : Option Nat :=
  match type with
  | 19 => some (4 + (3072 + 128))
  | 51 => if pointerBpp (Field.u16.value (s.drop 4)) ≤ 4 then
      some (4 + (2 + (1024 * pointerBpp (Field.u16.value (s.drop 4)) + 128))) else none
  | type => ((orderFormat type).map fun order => size order.format s).getD (some 0)

theorem inUint8a_takes {room n : Nat} {s : List UInt8} (h : n ≤ room) :
    TakesAt (inUint8a room n) s (some n) := by
  rw [inUint8a, if_pos h]
  exact takeBytes_takes n

theorem inUint8a_none {room n : Nat} {s : List UInt8} (h : ¬ n ≤ room) :
    TakesAt (inUint8a room n) s none := by
  rw [inUint8a, if_neg h]
  exact .error

theorem processServerSetCursor_takes (s : List UInt8) :
    TakesAt processServerSetCursor s (some (4 + (3072 + 128))) := by
  unfold processServerSetCursor
  refine TakesAt.bind (k := some (3072 + 128)) (readFields_takes [.s16, .s16]) fun _ _ => ?_
  refine TakesAt.bind (k := some 128) (inUint8a_takes (Nat.le_refl 3072)) fun _ _ => ?_
  exact (inUint8a_takes (Nat.le_refl 128)).map

theorem processServerSetPointerEx_takes (s : List UInt8) :
    TakesAt processServerSetPointerEx s
      (if pointerBpp (Field.u16.value (s.drop 4)) ≤ 4 then
        some (4 + (2 + (1024 * pointerBpp (Field.u16.value (s.drop 4)) + 128))) else none) := by
  unfold processServerSetPointerEx
  split
  · rename_i hbpp
    refine TakesAt.bind (k := some (2 + (1024 * pointerBpp (Field.u16.value (s.drop 4)) + 128)))
      (readFields_takes [.s16, .s16]) fun args _ => ?_
    refine TakesAt.bind (k := some (1024 * pointerBpp (Field.u16.value (s.drop 4)) + 128))
      (readField_takes .u16) fun bpp hread => ?_
    have hval : bpp = Field.u16.value (s.drop 4) := readField_value hread
    rw [← hval] at hbpp ⊢
    have hsize : 32 * (32 * pointerBpp bpp) = 1024 * pointerBpp bpp := by omega
    have hroom : 1024 * pointerBpp bpp ≤ 32 * (32 * 4) := by omega
    rw [hsize]
    refine TakesAt.bind (k := some 128) (inUint8a_takes hroom) fun _ _ => ?_
    exact (inUint8a_takes (Nat.le_refl 128)).map
  · rename_i hbpp
    refine TakesAt.bind (k := none) (readFields_takes [.s16, .s16]) fun args _ => ?_
    refine TakesAt.bind (k := none) (readField_takes .u16) fun bpp hread => ?_
    have hval : bpp = Field.u16.value (s.drop 4) := readField_value hread
    rw [← hval] at hbpp
    exact (inUint8a_none (by omega)).bind_none

theorem order_takes (order : Order) (s : List UInt8) :
    TakesAt order.read s (size order.format s) := (read_takes order.format).map

/-- **An order**: it takes the bytes of its size, or it leaves the message or an array. -/
theorem readOrder_takes (type : Nat) (s : List UInt8) :
    TakesAt (readOrder type) s (bodySize type s) := by
  unfold readOrder bodySize
  split
  · exact (processServerSetCursor_takes s).map
  · exact (processServerSetPointerEx_takes s).map
  · cases orderFormat type with
    | none => exact .pure
    | some order => exact (order_takes order s).map

end Xrdp.Xup
