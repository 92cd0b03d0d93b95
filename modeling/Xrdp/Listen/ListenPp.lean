import Xrdp.Memory
import Mathlib.Data.List.TakeWhile

/-!
# Listen addresses

The `port` of `xrdp.ini` is a list of addresses to listen on.  `xrdp_listen_pp` in `xrdp/xrdp_listen.c` takes the next
one off: it looks for one of the forms in which an address is written, and has scanners copy the address and
the port to arrays of 128 characters.

* `scanLoop`, `Scanner.parse` — the scanners.
* `Form`, `xrdpListenPp`, `listenCalls` — the forms, a call, and calls until none is left.
* `Scanner.field` — where in a text the field is that a scanner copies; `parse_some`, `parse_none` — it does.
-/

namespace Xrdp.Listen

/-- The characters of a literal. -/
def chars (s : String) : List UInt8 := s.toList.map fun c => UInt8.ofNat c.toNat

/-! ## Scanners -/

/-- What a scanner has copied, how far it has gone, and where it has begun to copy. -/
structure Scanned where
  strout : List UInt8
  count : Nat
  begun : Option Nat
  deriving DecidableEq, Repr

/-- One more character has been copied before. -/
def Scanned.put (c : UInt8) (r : Scanned) : Scanned := { r with strout := c :: r.strout }

/-- The loop of the scanners, with room for so many characters; `in` is whether it has begun. -/
def scanLoop (begins continues : UInt8 → Bool) : Option Nat → Nat → Nat → List UInt8 → Scanned
  | begun, count, 0, _ => ⟨[], count, begun⟩
  | begun, count, _ + 1, [] => ⟨[], count, begun⟩
  | some b, count, room + 1, c :: strin =>
    if continues c then (scanLoop begins continues (some b) (count + 1) room strin).put c
    else ⟨[], count, some b⟩
  | none, count, room + 1, c :: strin =>
    if begins c then (scanLoop begins continues (some count) (count + 1) room strin).put c
    else scanLoop begins continues none (count + 1) (room + 1) strin

/-- The loop of `xrdp_listen_parse_ipv6`, which does not copy the brace that it begins behind. -/
def scanLoop6 : Option Nat → Nat → Nat → List UInt8 → Scanned
  | begun, count, 0, _ => ⟨[], count, begun⟩
  | begun, count, _ + 1, [] => ⟨[], count, begun⟩
  | some b, count, room + 1, c :: strin =>
    -- the closing brace
    if c ≠ 0x7D then (scanLoop6 (some b) (count + 1) room strin).put c
    else ⟨[], count, some b⟩
  | none, count, room + 1, c :: strin =>
    if c = 0x7B then scanLoop6 (some (count + 1)) (count + 1) (room + 1) strin
    else scanLoop6 none (count + 1) (room + 1) strin

/-- `strout[strout_index] = 0`, in an array of `stroutMax` characters. -/
def terminate (stroutMax : Nat) (r : Scanned) : Run Scanned :=
  if r.strout.length < stroutMax then .ok r else .error .outOfBounds

/-- `> ' '`, as a `char`, and no comma. -/
def isFilename (c : UInt8) : Bool := 0x20 < c.toInt8 ∧ c ≠ 0x2C

def isDigit (c : UInt8) : Bool := 0x30 ≤ c ∧ c ≤ 0x39

def xrdpListenParseFilename (stroutMax : Nat) (strin : List UInt8) : Run Scanned :=
  terminate stroutMax (scanLoop isFilename isFilename none 0 stroutMax strin)

def xrdpListenParseInteger (stroutMax : Nat) (strin : List UInt8) : Run Scanned :=
  terminate stroutMax (scanLoop isDigit isDigit none 0 stroutMax strin)

/-- A minus is taken at the beginning. -/
def xrdpListenParseVsock (stroutMax : Nat) (strin : List UInt8) : Run Scanned :=
  terminate stroutMax (scanLoop (fun c => isDigit c || c == 0x2D) isDigit none 0 stroutMax strin)

/-- Dots are taken behind the beginning. -/
def xrdpListenParseIpv4 (stroutMax : Nat) (strin : List UInt8) : Run Scanned :=
  terminate stroutMax (scanLoop isDigit (fun c => isDigit c || c == 0x2E) none 0 stroutMax strin)

def xrdpListenParseIpv6 (stroutMax : Nat) (strin : List UInt8) : Run Scanned :=
  terminate stroutMax (scanLoop6 none 0 stroutMax strin)

inductive Scanner where
  | filename
  | integer
  | vsock
  | ipv4
  | ipv6
  deriving DecidableEq, Repr

def Scanner.parse : Scanner → Nat → List UInt8 → Run Scanned
  | filename => xrdpListenParseFilename
  | integer => xrdpListenParseInteger
  | vsock => xrdpListenParseVsock
  | ipv4 => xrdpListenParseIpv4
  | ipv6 => xrdpListenParseIpv6

/-! ## Calls -/

/-- `TRANS_MODE_TCP`, … -/
inductive Mode where
  | tcp
  | unix
  | vsock
  | tcp4
  | tcp6
  deriving DecidableEq, Repr

/-- How an address is written: a prefix, and what is copied behind it.  An address that is not written is the same
for all. -/
structure Form where
  pre : List UInt8
  mode : Mode
  address : List UInt8 ⊕ Scanner
  port : Scanner

namespace Form

def unix : Form := ⟨chars "unix://.", .unix, .inl [], .filename⟩
def tcpLocal : Form := ⟨chars "tcp://.:", .tcp4, .inl (chars "127.0.0.1"), .integer⟩
def tcpAny : Form := ⟨chars "tcp://:", .tcp4, .inl (chars "0.0.0.0"), .integer⟩
def tcp : Form := ⟨chars "tcp://", .tcp4, .inr .ipv4, .integer⟩
def tcp6Local : Form := ⟨chars "tcp6://.:", .tcp6, .inl (chars "::1"), .integer⟩
def tcp6Any : Form := ⟨chars "tcp6://:", .tcp6, .inl (chars "::"), .integer⟩
def tcp6 : Form := ⟨chars "tcp6://", .tcp6, .inr .ipv6, .integer⟩
def vsock : Form := ⟨chars "vsock://", .vsock, .inr .vsock, .vsock⟩

/-- A number alone. -/
def bare (useVsock : Bool) : Form :=
  ⟨[], if useVsock then .vsock else .tcp, .inl (chars "0.0.0.0"), .integer⟩

end Form

/-- The prefixes of `xrdp_listen_pp`, in the order in which it compares with them. -/
def forms : List Form :=
  [.unix, .tcpLocal, .tcpAny, .tcp, .tcp6Local, .tcp6Any, .tcp6, .vsock]

/-- The form that a text begins with. -/
def formAt (useVsock : Bool) (str : List UInt8) : Option Form :=
  match forms.find? fun f => f.pre.isPrefixOf str with
  | some f => some f
  | none => if str.head?.any isDigit then some (.bare useVsock) else none

/-- What a call gives: `mode`, `address`, `port`, and `index` as it is afterwards.  It is noted where in the string
the form begins, and how far from there the scanners have begun to copy, and how much. -/
structure Answer where
  mode : Mode
  address : List UInt8
  port : List UInt8
  index : Nat
  start : Nat
  copied : List (Nat × Nat)
  deriving DecidableEq, Repr

/-- A field that is `off` characters behind the beginning of the form. -/
def Scanned.place (off : Nat) (r : Scanned) : List (Nat × Nat) :=
  r.begun.toList.map fun b => (off + b, r.strout.length)

/-- A branch of `xrdp_listen_pp`. -/
def Form.take (f : Form) (str : List UInt8) (lindex : Nat) : Run Answer :=
  let off := f.pre.length
  match f.address with
  | .inl address => do
    let port ← f.port.parse 128 (str.drop off)
    return ⟨f.mode, address, port.strout, lindex + off + port.count, lindex, port.place off⟩
  | .inr scanner => do
    let address ← scanner.parse 128 (str.drop off)
    let port ← f.port.parse 128 (str.drop (off + address.count))
    return ⟨f.mode, address.strout, port.strout, lindex + off + address.count + port.count, lindex,
      address.place off ++ port.place (off + address.count)⟩

/-- The loop of `xrdp_listen_pp`; at the end of the string it returns 1. -/
def ppLoop (useVsock : Bool) : List UInt8 → Nat → Run (Option Answer)
  | [], _ => .ok none
  | c :: str, lindex =>
    match formAt useVsock (c :: str) with
    | some f => (f.take (c :: str) lindex).map some
    | none => ppLoop useVsock str (lindex + 1)

def xrdpListenPp (useVsock : Bool) (port : List UInt8) (index : Nat) : Run (Option Answer) :=
  ppLoop useVsock (port.drop index) index

/-- The calls of `xrdp_listen_process_startup_params`, of which there are so many at most. -/
def listenCalls (useVsock : Bool) (port : List UInt8) : Nat → Nat → Run (List Answer)
  | 0, _ => .error .outOfFuel
  | n + 1, index => do
    match ← xrdpListenPp useVsock port index with
    | none => return []
    | some a => do
      let answers ← listenCalls useVsock port n a.index
      return a :: answers

/-! ## Fields -/

/-- A field in a text, with what is before it and behind it. -/
structure Field where
  before : List UInt8
  text : List UInt8
  behind : List UInt8

/-- The field that begins with the first character that a field can begin with. -/
def fieldOf (begins continues : UInt8 → Bool) (t : List UInt8) : Option Field :=
  match t.dropWhile (! begins ·) with
  | [] => none
  | c :: cs => some ⟨t.takeWhile (! begins ·), c :: cs.takeWhile continues, cs.dropWhile continues⟩

/-- The field that begins behind the first brace. -/
def field6 (t : List UInt8) : Option Field :=
  match t.dropWhile (· != 0x7B) with
  | [] => none
  | b :: cs => some ⟨t.takeWhile (· != 0x7B) ++ [b], cs.takeWhile (· != 0x7D), cs.dropWhile (· != 0x7D)⟩

/-- The field that is looked for in a text. -/
def Scanner.field : Scanner → List UInt8 → Option Field
  | filename => fieldOf isFilename isFilename
  | integer => fieldOf isDigit isDigit
  | vsock => fieldOf (fun c => isDigit c || c == 0x2D) isDigit
  | ipv4 => fieldOf isDigit fun c => isDigit c || c == 0x2E
  | ipv6 => field6

variable {begins continues : UInt8 → Bool} {t : List UInt8} {F : Field} {k : Scanner}

theorem fieldOf_eq (h : fieldOf begins continues t = some F) : t = F.before ++ (F.text ++ F.behind) := by
  unfold fieldOf at h
  split at h
  · cases h
  · next c cs hdrop =>
    cases h
    rw [List.cons_append, List.takeWhile_append_dropWhile, ← hdrop, List.takeWhile_append_dropWhile]

/-- A text is made up of the field and of what is around it. -/
theorem field_eq (h : k.field t = some F) : t = F.before ++ (F.text ++ F.behind) := by
  cases k with
  | ipv6 =>
    have h : field6 t = some F := h
    unfold field6 at h
    split at h
    · cases h
    · next b cs hdrop =>
      cases h
      rw [List.append_assoc, List.takeWhile_append_dropWhile, List.singleton_append, ← hdrop,
        List.takeWhile_append_dropWhile]
  | _ => exact fieldOf_eq h

theorem scanLoop_some (b count room : Nat) (t : List UInt8) :
    scanLoop begins continues (some b) count room t =
      ⟨(t.takeWhile continues).take room, count + ((t.takeWhile continues).take room).length, some b⟩ := by
  induction t generalizing count room with
  | nil => cases room <;> simp [scanLoop]
  | cons c t ih =>
    cases room with
    | zero => simp [scanLoop]
    | succ room =>
      rw [scanLoop, List.takeWhile_cons]
      split
      · rw [ih, List.take_succ_cons, List.length_cons, Scanned.put]
        simp only [Scanned.mk.injEq, and_true, true_and]
        omega
      · rfl

theorem scanLoop6_some (b count room : Nat) (t : List UInt8) :
    scanLoop6 (some b) count room t = scanLoop (fun _ => false) (· != 0x7D) (some b) count room t := by
  induction t generalizing count room with
  | nil => cases room <;> simp [scanLoop, scanLoop6]
  | cons c t ih =>
    cases room with
    | zero => simp [scanLoop, scanLoop6]
    | succ room => simp [scanLoop, scanLoop6, ih]

theorem scanLoop_none (count room : Nat) (t : List UInt8) :
    scanLoop begins continues none count (room + 1) t =
      match fieldOf begins continues t with
      | none => ⟨[], count + t.length, none⟩
      | some F => ⟨F.text.take (room + 1), count + F.before.length + (F.text.take (room + 1)).length,
          some (count + F.before.length)⟩ := by
  induction t generalizing count with
  | nil => rfl
  | cons c t ih =>
    by_cases hc : begins c = true
    · have hfield : fieldOf begins continues (c :: t) = some ⟨[], c :: t.takeWhile continues, t.dropWhile continues⟩ := by
        simp [fieldOf, hc]
      rw [hfield, scanLoop, if_pos hc, scanLoop_some, Scanned.put]
      simp only [List.take_succ_cons, List.length_cons, List.length_nil, Scanned.mk.injEq, and_true, true_and,
        Nat.add_zero]
      omega
    · have hfield : fieldOf begins continues (c :: t) =
          (fieldOf begins continues t).map fun F => { F with before := c :: F.before } := by
        unfold fieldOf
        rw [List.dropWhile_cons_of_pos (by simpa using hc), List.takeWhile_cons_of_pos (by simpa using hc)]
        split <;> rfl
      rw [hfield, scanLoop, if_neg hc, ih]
      cases fieldOf begins continues t with
      | none =>
        simp only [Option.map_none, List.length_cons]
        congr 1
        omega
      | some F =>
        simp only [Option.map_some, List.length_cons]
        congr 1
        · omega
        · congr 1
          omega

theorem scanLoop6_none (count room : Nat) (t : List UInt8) :
    scanLoop6 none count (room + 1) t =
      match field6 t with
      | none => ⟨[], count + t.length, none⟩
      | some F => ⟨F.text.take (room + 1), count + F.before.length + (F.text.take (room + 1)).length,
          some (count + F.before.length)⟩ := by
  induction t generalizing count with
  | nil => rfl
  | cons c t ih =>
    by_cases hc : c = 0x7B
    · have hfield : field6 (c :: t) = some ⟨[c], t.takeWhile (· != 0x7D), t.dropWhile (· != 0x7D)⟩ := by
        simp [field6, hc]
      rw [hfield, scanLoop6, if_pos hc, scanLoop6_some, scanLoop_some]
      rfl
    · have hfield : field6 (c :: t) = (field6 t).map fun F => { F with before := c :: F.before } := by
        unfold field6
        rw [List.dropWhile_cons_of_pos (by simpa using hc), List.takeWhile_cons_of_pos (by simpa using hc)]
        split <;> rfl
      rw [hfield, scanLoop6, if_neg hc, ih]
      cases field6 t with
      | none =>
        simp only [Option.map_none, List.length_cons]
        congr 1
        omega
      | some F =>
        simp only [Option.map_some, List.length_cons]
        congr 1
        · omega
        · congr 1
          omega

/-- A scanner is one of the loops, and the zero at the end. -/
theorem parse_eq (k : Scanner) (room : Nat) (t : List UInt8) :
    k.parse (room + 1) t = terminate (room + 1) (match k.field t with
      | none => ⟨[], t.length, none⟩
      | some F => ⟨F.text.take (room + 1), F.before.length + (F.text.take (room + 1)).length,
          some F.before.length⟩) := by
  have hloop := fun begins continues => @scanLoop_none begins continues 0 room t
  simp only [Nat.zero_add] at hloop
  cases k with
  | filename => exact congrArg (terminate (room + 1)) (hloop ..)
  | integer => exact congrArg (terminate (room + 1)) (hloop ..)
  | vsock => exact congrArg (terminate (room + 1)) (hloop ..)
  | ipv4 => exact congrArg (terminate (room + 1)) (hloop ..)
  | ipv6 =>
    have hloop6 := scanLoop6_none 0 room t
    simp only [Nat.zero_add] at hloop6
    exact congrArg (terminate (room + 1)) hloop6

/-- There is no field. -/
theorem parse_none (room : Nat) (h : k.field t = none) : k.parse (room + 1) t = .ok ⟨[], t.length, none⟩ := by
  rw [parse_eq, h]
  exact if_pos (Nat.succ_pos _)

/-- **A scanner copies the field, if there is room for it and the zero behind it.** -/
theorem parse_some (room : Nat) (h : k.field t = some F) : k.parse (room + 1) t =
    if F.text.length < room + 1 then .ok ⟨F.text, F.before.length + F.text.length, some F.before.length⟩
    else .error .outOfBounds := by
  rw [parse_eq, h]
  dsimp only [terminate]
  by_cases hroom : F.text.length < room + 1
  · rw [List.take_of_length_le (Nat.le_of_lt hroom)]
  · rw [if_neg hroom, if_neg (by rw [List.length_take]; omega)]

end Xrdp.Listen
