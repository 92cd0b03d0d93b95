import Xrdp.Lib.Wire
import Xrdp.Memory

/-!
# What the clipboard channel reads

Bytes that the client has sent (`struct stream` of `common/parse.h`), and the text in them
(`clipboard_in_unicode` of `sesman/chansrv/clipboard.c`, `g_wcstombs` of `common/os_calls.c`).  A read
at a place where nothing has been received has no result.

* `ClipStream` — received bytes, and the place of the next read.
* `Run.Returns` — a run that has a result; what it comes to for each kind of read.
* `wcstombs`, `clipboardInUnicode` — text.
-/

namespace Xrdp

/-- The run has a result. -/
def Run.Returns {α : Type} (r : Run α) : Prop := ∃ a, r = .ok a

namespace Run

@[simp] theorem returns_ok {α : Type} (a : α) : Returns (.ok a) ↔ True :=
  iff_true_intro ⟨a, rfl⟩

@[simp] theorem returns_error {α : Type} (e : Stuck) : Returns (.error e : Run α) ↔ False :=
  iff_false_intro fun ⟨_, h⟩ => nomatch h

theorem returns_bind {α β : Type} {r : Run α} {f : α → Run β} :
    Returns (r >>= f) ↔ ∃ a, r = .ok a ∧ Returns (f a) := by
  cases r with
  | error e => simp
  | ok a => simp

/-- If what comes next has a result in any case. -/
theorem returns_bind_iff {α β : Type} {r : Run α} {f : α → Run β} (h : ∀ a, Returns (f a)) :
    Returns (r >>= f) ↔ Returns r := by
  rw [returns_bind]
  constructor
  · rintro ⟨a, ha, -⟩
    exact ⟨a, ha⟩
  · rintro ⟨a, ha⟩
    exact ⟨a, ha, h a⟩

theorem returns_bind_pure {α β : Type} {r : Run α} {f : α → β} :
    Returns (r >>= fun a => pure (f a)) ↔ Returns r :=
  returns_bind_iff fun a => ⟨f a, rfl⟩

/-- A step that has a result, and only one, just if `p`. -/
theorem returns_guard_bind {α β : Type} {p : Prop} [Decidable p] {a : α} {e : Stuck}
    {f : α → Run β} :
    Returns ((if p then .ok a else .error e) >>= f) ↔ p ∧ Returns (f a) := by
  by_cases hp : p <;> simp [hp]

end Run

theorem Buf.returns_write_bind {α β : Type} {b : Buf α} {i : Nat} {v : α} {f : Buf α → Run β} :
    Run.Returns (b.write i v >>= f) ↔
      i < b.size ∧
        Run.Returns (f { b with cells := fun j => if j = i then v else b.cells j }) :=
  Run.returns_guard_bind

theorem Buf.returns_memcpy_bind {α β : Type} {b : Buf α} {off : Nat} {src : List α}
    {f : Buf α → Run β} :
    Run.Returns (b.memcpy off src >>= f) ↔
      off + src.length ≤ b.size ∧ Run.Returns (f { b with
        cells := fun j => if off ≤ j then (src[j - off]?).getD (b.cells j) else b.cells j }) :=
  Run.returns_guard_bind

namespace Chansrv.ClipIn

/-! ## Streams -/

/-- The bytes up to `end`, and the place of `p`, which may be behind them. -/
structure ClipStream where
  bytes : List UInt8
  p : Nat

namespace ClipStream

/-- The bytes from `p` on. -/
def rest (s : ClipStream) : List UInt8 := s.bytes.drop s.p

/-- The next `n` bytes have been received. -/
def Has (s : ClipStream) (n : Nat) : Prop := s.p + n ≤ s.bytes.length

instance (s : ClipStream) (n : Nat) : Decidable (s.Has n) :=
  inferInstanceAs (Decidable (_ ≤ _))

/-- `in_uint8s(s, n)`. -/
def inUint8s (s : ClipStream) (n : Int) : ClipStream := { s with p := (s.p + n).toNat }

/-- The number at `p` of `n` bytes. -/
def num (s : ClipStream) (n : Nat) : Nat := Wire.leVal (s.rest.take n)

/-- A number of `n` bytes is read. -/
def inLe (n : Nat) (s : ClipStream) : Run (Nat × ClipStream) :=
  if s.Has n then .ok (s.num n, s.inUint8s n) else .error .outOfBounds

/-- `in_uint16_le`. -/
def inUint16Le (s : ClipStream) : Run (Nat × ClipStream) := inLe 2 s

/-- `in_uint32_le`. -/
def inUint32Le (s : ClipStream) : Run (Nat × ClipStream) := inLe 4 s

@[simp] theorem returns_inUint16Le_bind {α : Type} {s : ClipStream}
    {f : Nat × ClipStream → Run α} :
    Run.Returns (s.inUint16Le >>= f) ↔ s.Has 2 ∧ Run.Returns (f (s.num 2, s.inUint8s 2)) :=
  Run.returns_guard_bind

@[simp] theorem returns_inUint32Le_bind {α : Type} {s : ClipStream}
    {f : Nat × ClipStream → Run α} :
    Run.Returns (s.inUint32Le >>= f) ↔ s.Has 4 ∧ Run.Returns (f (s.num 4, s.inUint8s 4)) :=
  Run.returns_guard_bind

/-- Bytes that are skipped one after the other. -/
theorem has_inUint8s {s : ClipStream} {n m : Nat} :
    (s.inUint8s n).Has m ↔ s.Has (n + m) := by
  show (s.p + (n : Int)).toNat + m ≤ s.bytes.length ↔ s.p + (n + m) ≤ s.bytes.length
  omega

theorem Has.le {s : ClipStream} {n m : Nat} (h : s.Has n) (hm : m ≤ n) : s.Has m := by
  show s.p + m ≤ s.bytes.length
  exact Nat.le_trans (Nat.add_le_add_left hm s.p) h

theorem inUint16Le_ok {s s' : ClipStream} {v : Nat} (h : s.inUint16Le = .ok (v, s')) :
    s.Has 2 ∧ v = s.num 2 ∧ s' = s.inUint8s 2 := by
  unfold inUint16Le inLe at h
  split at h
  · cases h
    exact ⟨‹_›, rfl, rfl⟩
  · cases h

end ClipStream

/-! ## Text -/

/-- A number as an `int`. -/
def toInt (n : Nat) : Int := (n : Int).bmod (2 ^ 32)

/-- `wcstombs(dest, src, n)` up to the zero at the end: what it returns, if no character is one that
cannot be written, and what it writes.  How a character is written is up to the locale. -/
def wcstombs (encode : Nat → Option (List UInt8)) : Nat → List Nat → Option Nat × List UInt8
  | 0, _ => (some 0, [])
  | _ + 1, [] => (some 0, [0])
  | n + 1, chr :: src =>
    if chr = 0 then (some 0, [0])
    else match encode chr with
      | none => (none, [])
      | some bs =>
        if bs.length ≤ n + 1 then
          let (len, dest) := wcstombs encode (n + 1 - bs.length) src
          (len.map (· + bs.length), bs ++ dest)
        else (some 0, [])

/-- No more is written than there is room for. -/
theorem wcstombs_length (encode : Nat → Option (List UInt8)) (n : Nat) (src : List Nat) :
    (wcstombs encode n src).2.length ≤ n := by
  induction src generalizing n with
  | nil => cases n <;> simp [wcstombs]
  | cons chr src ih =>
    cases n with
    | zero => simp [wcstombs]
    | succ n =>
      rw [wcstombs]
      split
      · simp
      · split
        · simp
        · split
          · have h := ih (n + 1 - (‹List UInt8› : List UInt8).length)
            simp only [List.length_append]
            omega
          · simp

/-- The length of the text when it is written, if it can be: `wcstombs(0, src, 0)`. -/
def textLength (encode : Nat → Option (List UInt8)) : List Nat → Option Nat
  | [] => some 0
  | chr :: src =>
    if chr = 0 then some 0
    else do
      let bs ← encode chr
      let len ← textLength encode src
      return bs.length + len

/-- Units of two bytes up to a zero, or to where less than two are left. -/
def units : List UInt8 → List Nat
  | lo :: hi :: rest =>
    let chr := Wire.leVal [lo, hi]
    if chr = 0 then [0] else chr :: units rest
  | _ => []

/-- `clipboard_in_unicode` into `text`: the count and the text that are given back, and the number of
bytes.  Only the first 511 units are kept. -/
def clipboardInUnicode (encode : Nat → Option (List UInt8)) (s : ClipStream) (text : List UInt8)
    (numChars : Nat) : Run (Int × List UInt8 × Nat × ClipStream) :=
  let ltext := units s.rest
  let (len, dest) := wcstombs encode numChars (ltext.take 511)
  if dest.length ≤ text.length then
    .ok ((len.map Int.ofNat).getD (-1), dest ++ text.drop dest.length, 2 * ltext.length,
      s.inUint8s (2 * ltext.length))
  else .error .outOfBounds

/-- How many bytes of text there are at `p`, and what `clipboard_in_unicode` makes of them. -/
def ClipStream.textBytes (s : ClipStream) : Nat := 2 * (units s.rest).length

def ClipStream.text (encode : Nat → Option (List UInt8)) (s : ClipStream) (numChars : Nat) :
    Option Nat × List UInt8 :=
  wcstombs encode numChars ((units s.rest).take 511)

/-- The text goes where there is room for it. -/
theorem clipboardInUnicode_ok {encode : Nat → Option (List UInt8)} {s : ClipStream}
    {text : List UInt8} {numChars : Nat} (h : numChars ≤ text.length) :
    clipboardInUnicode encode s text numChars = .ok
      (((s.text encode numChars).1.map Int.ofNat).getD (-1),
        (s.text encode numChars).2 ++ text.drop (s.text encode numChars).2.length,
        s.textBytes, s.inUint8s s.textBytes) :=
  if_pos (Nat.le_trans (wcstombs_length encode numChars _) h)

/-- Where the text begins that is put over another, no more is taken away than is put there. -/
theorem length_text_append {encode : Nat → Option (List UInt8)} {s : ClipStream}
    {text : List UInt8} {numChars : Nat} (h : numChars ≤ text.length) :
    ((s.text encode numChars).2 ++ text.drop (s.text encode numChars).2.length).length =
      text.length := by
  have hroom : (s.text encode numChars).2.length ≤ numChars := wcstombs_length encode numChars _
  rw [List.length_append, List.length_drop]
  omega

/-- `g_pos(str, "\\") >= 0`. -/
def hasBackslash : List UInt8 → Run Bool
  | [] => .error .outOfBounds
  | chr :: str => if chr = 0 then .ok false else if chr = 92 then .ok true else hasBackslash str

/-- The characters of a string. -/
def cString : List UInt8 → Run (List UInt8)
  | [] => .error .outOfBounds
  | chr :: str =>
    if chr = 0 then .ok []
    else do
      let rest ← cString str
      return chr :: rest

theorem returns_hasBackslash {str : List UInt8} :
    Run.Returns (hasBackslash str) ↔ 0 ∈ str ∨ 92 ∈ str := by
  induction str with
  | nil => simp [hasBackslash]
  | cons chr str ih =>
    rw [hasBackslash, List.mem_cons, List.mem_cons]
    split
    · rename_i hchr
      simp [hchr]
    · rename_i hzero
      split
      · rename_i hslash
        simp [hslash]
      · rename_i hslash
        rw [ih]
        simp [Ne.symm hzero, Ne.symm hslash]

theorem cString_ok {str : List UInt8} (h : 0 ∈ str) :
    cString str = .ok (str.takeWhile (· ≠ 0)) := by
  induction str with
  | nil => simp at h
  | cons chr str ih =>
    rw [cString]
    split
    · rename_i hchr
      simp [hchr]
    · rename_i hchr
      have hmem : 0 ∈ str := by
        rcases List.mem_cons.1 h with heq | hmem
        · exact absurd heq.symm hchr
        · exact hmem
      rw [ih hmem]
      simp [hchr]

/-- A string in which no backslash has been found ends. -/
theorem mem_of_hasBackslash {str : List UInt8} (h : hasBackslash str = .ok false) : 0 ∈ str := by
  induction str with
  | nil => cases h
  | cons chr str ih =>
    rw [hasBackslash] at h
    split at h
    · rename_i hchr
      rw [hchr]
      exact List.mem_cons_self
    · split at h
      · cases h
      · exact List.mem_cons_of_mem chr (ih h)

end Chansrv.ClipIn

end Xrdp
