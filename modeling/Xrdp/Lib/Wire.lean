import Mathlib

/-!
# Byte fields

Fixed-width little-endian and big-endian fields, and how a reader takes them off the front of a
byte string.

* `getLe_leBytes`, `getBe_beBytes` — a field is read back, whatever follows it.
* `leVal_leBytes` — so is a field of known length.
* `getBytes_append` — so is a block of known length.
* `getLes_leBytes` — so are fields in a row.
* `getLit`, `whole` — fixed bytes, and what takes all bytes there are.
-/

namespace Wire

/-- `n` bytes of `v`, least significant first. -/
def leBytes : Nat → Nat → List UInt8
  | 0, _ => []
  | n + 1, v => UInt8.ofNat v :: leBytes n (v / 256)

/-- `n` bytes of `v`, most significant first. -/
def beBytes (n v : Nat) : List UInt8 := (leBytes n v).reverse

/-- The number in a little-endian field. -/
def leVal : List UInt8 → Nat
  | [] => 0
  | b :: bs => b.toNat + 256 * leVal bs

/-- A little-endian field off the front. -/
def getLe : Nat → List UInt8 → Option (Nat × List UInt8)
  | 0, bs => some (0, bs)
  | _ + 1, [] => none
  | n + 1, b :: bs => (getLe n bs).map fun (v, rest) => (b.toNat + 256 * v, rest)

/-- A block of `n` bytes off the front. -/
def getBytes (n : Nat) (bs : List UInt8) : Option (List UInt8 × List UInt8) :=
  if n ≤ bs.length then some (bs.take n, bs.drop n) else none

/-- `n` little-endian fields of `w` bytes off the front. -/
def getLes (w : Nat) : Nat → List UInt8 → Option (List Nat × List UInt8)
  | 0, bs => some ([], bs)
  | n + 1, bs =>
    (getLe w bs).bind fun (v, bs) => (getLes w n bs).map fun (vs, rest) => (v :: vs, rest)

/-- What is behind fixed bytes at the front. -/
def getLit (lit bs : List UInt8) : Option (List UInt8) :=
  if lit.isPrefixOf bs then some (bs.drop lit.length) else none

/-- What has been read, if nothing is left over. -/
def whole {α : Type} : Option (α × List UInt8) → Option α
  | some (a, []) => some a
  | _ => none

/-- A big-endian field off the front. -/
def getBe (n : Nat) (bs : List UInt8) : Option (Nat × List UInt8) :=
  (getBytes n bs).bind fun (block, rest) => (getLe n block.reverse).map fun (v, _) => (v, rest)

@[simp] theorem leBytes_length (n v : Nat) : (leBytes n v).length = n := by
  induction n generalizing v with
  | zero => rfl
  | succ n ih => simp [leBytes, ih]

@[simp] theorem beBytes_length (n v : Nat) : (beBytes n v).length = n := by simp [beBytes]

theorem leVal_leBytes (n v : Nat) : leVal (leBytes n v) = v % 256 ^ n := by
  induction n generalizing v with
  | zero => simp [leBytes, leVal, Nat.mod_one]
  | succ n ih =>
    have hb : (UInt8.ofNat v).toNat = v % 256 := UInt8.toNat_ofNat'
    rw [leBytes, leVal, ih, hb, Nat.pow_succ, Nat.mul_comm (256 ^ n), Nat.mod_mul]

theorem getLe_leBytes (n v : Nat) (rest : List UInt8) :
    getLe n (leBytes n v ++ rest) = some (v % 256 ^ n, rest) := by
  induction n generalizing v with
  | zero => simp [leBytes, getLe, Nat.mod_one]
  | succ n ih =>
    have hb : (UInt8.ofNat v).toNat = v % 256 := UInt8.toNat_ofNat'
    rw [leBytes, List.cons_append, getLe, ih, Option.map_some, hb, Nat.pow_succ,
      Nat.mul_comm (256 ^ n), Nat.mod_mul]

theorem getLe_lt {n v : Nat} {bs rest : List UInt8} (h : getLe n bs = some (v, rest)) :
    v < 256 ^ n := by
  induction n generalizing bs v rest with
  | zero =>
    rw [getLe] at h
    cases h
    exact one_pos
  | succ n ih =>
    cases bs with
    | nil => cases h
    | cons b bs =>
      rw [getLe] at h
      obtain ⟨⟨v', rest'⟩, hv, heq⟩ := Option.map_eq_some_iff.1 h
      cases heq
      have := ih hv
      have := b.toNat_lt
      rw [Nat.pow_succ]
      omega

theorem leVal_lt (bytes : List UInt8) : leVal bytes < 256 ^ bytes.length := by
  induction bytes with
  | nil => decide
  | cons b bytes ih =>
    have hb := b.toNat_lt
    rw [leVal, List.length_cons, Nat.pow_succ]
    omega

@[simp] theorem getBytes_append {n : Nat} {bs : List UInt8} (h : bs.length = n)
    (rest : List UInt8) : getBytes n (bs ++ rest) = some (bs, rest) := by
  subst h
  simp [getBytes]

@[simp] theorem leBytes_flatMap_length (w : Nat) (vs : List Nat) :
    (vs.flatMap (leBytes w)).length = w * vs.length := by
  induction vs with
  | nil => rfl
  | cons v vs ih =>
    rw [List.flatMap_cons, List.length_append, leBytes_length, ih, List.length_cons]
    ring

theorem getLes_leBytes (w : Nat) (vs : List Nat) (rest : List UInt8) :
    getLes w vs.length (vs.flatMap (leBytes w) ++ rest) =
      some (vs.map (· % 256 ^ w), rest) := by
  induction vs with
  | nil => rfl
  | cons v vs ih =>
    rw [List.length_cons, getLes, List.flatMap_cons, List.append_assoc, getLe_leBytes,
      Option.bind_some]
    dsimp only
    rw [ih]
    rfl

@[simp] theorem getLit_append (lit rest : List UInt8) : getLit lit (lit ++ rest) = some rest := by
  simp [getLit]

@[simp] theorem whole_nil {α : Type} (a : α) : whole (some (a, [])) = some a := rfl

theorem getBe_beBytes (n v : Nat) (rest : List UInt8) :
    getBe n (beBytes n v ++ rest) = some (v % 256 ^ n, rest) := by
  have h := getLe_leBytes n v []
  rw [List.append_nil] at h
  rw [getBe, getBytes_append (beBytes_length n v), Option.bind_some]
  simp only [beBytes, List.reverse_reverse, h, Option.map_some]

end Wire
