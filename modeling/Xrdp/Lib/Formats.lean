import Xrdp.Lib.Wire

/-!
# Formats of fields and arrays

A format is a row of pieces; each is some fields of fixed width, or an array with a count before it.

* `read` — a checked reader for a format.
* `size` — how many bytes a format takes from the front of some bytes.
* `TakesAt` — a reader that takes so many bytes there, or fails if there are fewer.
* `read_takes` — reading a format takes its size.
-/

namespace Formats

open Wire

variable {ε α β : Type}

/-- Fields, as they are read into an `int`. -/
inductive Field where
  | u8
  | u16
  | s16
  | s32
  deriving DecidableEq, Repr

def Field.size : Field → Nat
  | .u8 => 1
  | .u16 => 2
  | .s16 => 2
  | .s32 => 4

/-- The value of so many bytes, with a sign. -/
def signedVal (n : Nat) (bs : List UInt8) : Int :=
  let v : Int := leVal (bs.take n)
  if v < 2 ^ (8 * n - 1) then v else v - 2 ^ (8 * n)

/-- The value of the field in front. -/
def Field.value (f : Field) (bs : List UInt8) : Int :=
  match f with
  | .u8 => leVal (bs.take 1)
  | .u16 => leVal (bs.take 2)
  | .s16 => signedVal 2 bs
  | .s32 => signedVal 4 bs

/-- A piece of a format. -/
inductive Piece where
  | fields (fs : List Field)
  | array (count : Field) (unit : List Field)
  deriving Repr

/-! ## Readers -/

/-- A reader that takes bytes from the front. -/
abbrev Reader (ε : Type) := StateT (List UInt8) (Except ε)

variable (short : ε)

/-- So many bytes. -/
def takeBytes (n : Nat) : Reader ε (List UInt8) := fun bs =>
  if n ≤ bs.length then .ok (bs.take n, bs.drop n) else .error short

def readField (f : Field) : Reader ε Int := do
  let bs ← takeBytes short f.size
  return f.value bs

def readFields : List Field → Reader ε (List Int)
  | [] => pure []
  | f :: fs => do
    let v ← readField short f
    let vs ← readFields fs
    return v :: vs

def readUnits (unit : List Field) : Nat → Reader ε (List Int)
  | 0 => pure []
  | n + 1 => do
    let vs ← readFields short unit
    let ws ← readUnits unit n
    return vs ++ ws

/-- A piece; an array does not have a negative number of units. -/
def readPiece : Piece → Reader ε (List Int)
  | .fields fs => readFields short fs
  | .array count unit => do
    let n ← readField short count
    if n < 0 then fun _ => .error short else readUnits short unit n.toNat

def read : List Piece → Reader ε (List (List Int))
  | [] => pure []
  | p :: ps => do
    let vs ← readPiece short p
    let vss ← read ps
    return vs :: vss

/-! ## Sizes -/

def total (fs : List Field) : Nat := (fs.map Field.size).sum

/-- The size of a piece; it has none if it says that it has a negative number of units. -/
def Piece.size (bs : List UInt8) : Piece → Option Nat
  | .fields fs => some (total fs)
  | .array count unit =>
    if count.value bs < 0 then none else some (count.size + (count.value bs).toNat * total unit)

/-- The size of a format. -/
def size : List Piece → List UInt8 → Option Nat
  | [], _ => some 0
  | p :: ps, bs => (p.size bs).bind fun n => (size ps (bs.drop n)).map (n + ·)

/-- From these bytes the reader takes as many as it needs, or fails if there are fewer. -/
structure TakesAt (m : Reader ε α) (bs : List UInt8) (size : Option Nat) : Prop where
  ok : ∀ n, size = some n → n ≤ bs.length → ∃ a, m bs = .ok (a, bs.drop n)
  of_ok : ∀ a bs', m bs = .ok (a, bs') → ∃ n, size = some n ∧ n ≤ bs.length

variable {short} {bs : List UInt8}

theorem TakesAt.eq_drop {m : Reader ε α} {n : Nat} (h : TakesAt m bs (some n)) {a : α}
    {bs' : List UInt8} (hm : m bs = .ok (a, bs')) : n ≤ bs.length ∧ bs' = bs.drop n := by
  obtain ⟨k, hk, hle⟩ := h.of_ok a bs' hm
  cases hk
  obtain ⟨b, hb⟩ := h.ok n rfl hle
  rw [hm] at hb
  cases hb
  exact ⟨hle, rfl⟩

theorem TakesAt.pure {a : α} : TakesAt (pure a : Reader ε α) bs (some 0) := by
  refine ⟨fun n hn _ => ?_, fun b bs' _ => ⟨0, rfl, Nat.zero_le _⟩⟩
  cases hn
  exact ⟨a, rfl⟩

theorem TakesAt.error {e : ε} : TakesAt (fun _ => .error e : Reader ε α) bs none :=
  ⟨fun _ h => (nomatch h), fun _ _ h => (nomatch h)⟩

theorem bind_ok {m : Reader ε α} {f : α → Reader ε β} {a : α} {bs' : List UInt8}
    (h : m bs = .ok (a, bs')) : (m >>= f) bs = f a bs' := by
  change (m bs >>= fun r => f r.1 r.2) = _
  rw [h]
  rfl

theorem bind_eq_ok {m : Reader ε α} {f : α → Reader ε β} {b : β} {bs'' : List UInt8} :
    (m >>= f) bs = .ok (b, bs'') ↔ ∃ a bs', m bs = .ok (a, bs') ∧ f a bs' = .ok (b, bs'') := by
  cases h : m bs with
  | error e =>
    change (m bs >>= fun r => f r.1 r.2) = _ ↔ _
    rw [h]
    exact iff_of_false (fun h => nomatch h) fun ⟨_, _, h, _⟩ => nomatch h
  | ok r =>
    have hrun : (m >>= f) bs = f r.1 r.2 := bind_ok h
    rw [hrun]
    constructor
    · exact fun hf => ⟨r.1, r.2, rfl, hf⟩
    · rintro ⟨a, bs', heq, hf⟩
      cases heq
      exact hf

/-- One reader behind another. -/
theorem TakesAt.bind {m : Reader ε α} {f : α → Reader ε β} {n : Nat} {k : Option Nat}
    (hm : TakesAt m bs (some n))
    (hf : ∀ a, m bs = .ok (a, bs.drop n) → TakesAt (f a) (bs.drop n) k) :
    TakesAt (m >>= f) bs (k.map (n + ·)) := by
  constructor
  · intro t ht hle
    obtain ⟨j, rfl, rfl⟩ := Option.map_eq_some_iff.1 ht
    obtain ⟨a, ha⟩ := hm.ok n rfl (by omega)
    obtain ⟨b, hb⟩ := (hf a ha).ok j rfl (by rw [List.length_drop]; omega)
    refine ⟨b, ?_⟩
    rw [bind_ok ha, hb, List.drop_drop]
  · intro b bs'' h
    obtain ⟨a, bs', ha, hb⟩ := bind_eq_ok.1 h
    obtain ⟨hle, rfl⟩ := hm.eq_drop ha
    obtain ⟨j, rfl, hj⟩ := (hf a ha).of_ok b bs'' hb
    rw [List.length_drop] at hj
    exact ⟨n + j, rfl, by omega⟩

/-- Behind a reader that fails. -/
theorem TakesAt.bind_none {m : Reader ε α} {f : α → Reader ε β} (hm : TakesAt m bs none) :
    TakesAt (m >>= f) bs none := by
  refine ⟨fun _ h => (nomatch h), fun b bs'' h => ?_⟩
  obtain ⟨a, bs', ha, -⟩ := bind_eq_ok.1 h
  exact hm.of_ok a bs' ha

theorem TakesAt.map {m : Reader ε α} {g : α → β} {k : Option Nat} (hm : TakesAt m bs k) :
    TakesAt (m >>= fun a => Pure.pure (g a)) bs k := by
  constructor
  · intro n hn hle
    obtain ⟨a, ha⟩ := hm.ok n hn hle
    exact ⟨g a, by rw [bind_ok ha]; rfl⟩
  · intro b bs'' h
    obtain ⟨a, bs', ha, -⟩ := bind_eq_ok.1 h
    exact hm.of_ok a bs' ha

/-! ## Readers take what they should -/

theorem takeBytes_takes (n : Nat) : TakesAt (takeBytes short n) bs (some n) := by
  constructor
  · rintro k hk hle
    cases hk
    exact ⟨bs.take n, if_pos hle⟩
  · intro a bs' h
    unfold takeBytes at h
    split at h
    · exact ⟨n, rfl, ‹_›⟩
    · cases h

theorem readField_takes (f : Field) : TakesAt (readField short f) bs (some f.size) :=
  (takeBytes_takes f.size).map

theorem value_take (f : Field) : f.value (bs.take f.size) = f.value bs := by
  cases f <;> simp [Field.value, Field.size, signedVal, List.take_take]

theorem readField_value {f : Field} {v : Int} {bs' : List UInt8}
    (h : readField short f bs = .ok (v, bs')) : v = f.value bs := by
  obtain ⟨block, bs₁, hblock, hv⟩ := bind_eq_ok.1 h
  unfold takeBytes at hblock
  split at hblock
  · cases hblock
    cases hv
    exact value_take f
  · cases hblock

theorem readFields_takes (fs : List Field) : TakesAt (readFields short fs) bs (some (total fs)) := by
  induction fs generalizing bs with
  | nil => exact .pure
  | cons f fs ih => exact (readField_takes f).bind fun _ _ => ih.map

theorem readUnits_takes (unit : List Field) (n : Nat) :
    TakesAt (readUnits short unit n) bs (some (n * total unit)) := by
  induction n generalizing bs with
  | zero =>
    rw [Nat.zero_mul]
    exact .pure
  | succ n ih =>
    have hsum : (n + 1) * total unit = total unit + n * total unit := by rw [Nat.succ_mul, Nat.add_comm]
    rw [hsum]
    exact (readFields_takes unit).bind fun _ _ => ih.map

theorem readPiece_takes (p : Piece) : TakesAt (readPiece short p) bs (p.size bs) := by
  cases p with
  | fields fs => exact readFields_takes fs
  | array count unit =>
    have hrest : ∀ n : Int, readField short count bs = .ok (n, bs.drop count.size) →
        TakesAt (if n < 0 then fun _ => .error short else readUnits short unit n.toNat)
          (bs.drop count.size)
          (if count.value bs < 0 then none else some ((count.value bs).toNat * total unit)) := by
      intro n hn
      rw [readField_value hn]
      split
      · exact .error
      · exact readUnits_takes unit _
    have h := (readField_takes count).bind hrest
    by_cases hneg : count.value bs < 0
    · rw [if_pos hneg] at h
      rw [Piece.size, if_pos hneg]
      exact h
    · rw [if_neg hneg] at h
      rw [Piece.size, if_neg hneg]
      exact h

/-- Reading a format takes its size, if there are so many bytes. -/
theorem read_takes (ps : List Piece) : TakesAt (read short ps) bs (size ps bs) := by
  induction ps generalizing bs with
  | nil => exact .pure
  | cons p ps ih =>
    unfold size
    cases hp : p.size bs with
    | none =>
      have h : TakesAt (readPiece short p) bs none := hp ▸ readPiece_takes p
      exact h.bind_none
    | some n =>
      have h : TakesAt (readPiece short p) bs (some n) := hp ▸ readPiece_takes p
      exact h.bind fun _ _ => ih.map

end Formats
