import Mathlib.Data.List.Basic

/-!
# Characters of several bytes

A charset says which bytes are a character.  Texts are read and written one character after another.

* `Charset` — the bytes of a character, and the character in front of some bytes.
* `decode` — the characters of a text, if it is all characters.
* `ascii` — the characters of seven bits, and no others.
-/

namespace Charsets

/-- The bytes of characters; what is written is read, and a character takes a byte at least. -/
structure Charset where
  enc : Nat → Option (List UInt8)
  dec : List UInt8 → Option (Nat × List UInt8)
  dec_enc : ∀ {w front} rest, enc w = some front → dec (front ++ rest) = some (w, rest)
  dec_split : ∀ {bs w rest}, dec bs = some (w, rest) → ∃ front, front ≠ [] ∧ bs = front ++ rest
  enc_ascii : ∀ b : UInt8, b < 128 → enc b.toNat = some [b]

namespace Charset

variable (cs : Charset) {bs rest : List UInt8} {w : Nat} {ws : List Nat}

/-! ## Texts -/

/-- The characters of a text of at most so many. -/
def decodeUpTo : Nat → List UInt8 → Option (List Nat)
  | _, [] => some []
  | 0, _ :: _ => none
  | n + 1, b :: bs => (cs.dec (b :: bs)).bind fun r => (decodeUpTo n r.2).map (r.1 :: ·)

/-- The characters of a text. -/
def decode (bs : List UInt8) : Option (List Nat) := cs.decodeUpTo bs.length bs

/-- There are not more characters than bytes. -/
theorem decode_length_le (h : cs.decode bs = some ws) : ws.length ≤ bs.length := by
  have key : ∀ n bs ws, cs.decodeUpTo n bs = some ws → ws.length ≤ n := by
    intro n
    induction n with
    | zero =>
      intro bs ws h
      cases bs with
      | nil =>
        cases h
        exact Nat.le_refl _
      | cons b bs => cases h
    | succ n ih =>
      intro bs ws h
      cases bs with
      | nil =>
        cases h
        exact Nat.zero_le _
      | cons b bs =>
        obtain ⟨r, -, hr⟩ := Option.bind_eq_some_iff.1 h
        obtain ⟨vs, hvs, rfl⟩ := Option.map_eq_some_iff.1 hr
        exact Nat.succ_le_succ (ih _ _ hvs)
  exact key _ _ _ h

end Charset

/-- The characters of seven bits. -/
def ascii : Charset where
  enc w := if w < 128 then some [UInt8.ofNat w] else none
  dec
    | [] => none
    | b :: rest => if b < 128 then some (b.toNat, rest) else none
  dec_enc := by
    intro w front rest h
    rw [Option.ite_none_right_eq_some] at h
    obtain ⟨hw, ⟨⟩⟩ := h
    have hb : UInt8.ofNat w < 128 := by
      rw [UInt8.lt_iff_toNat_lt, UInt8.toNat_ofNat']
      show w % 256 < 128
      omega
    show (if UInt8.ofNat w < 128 then some ((UInt8.ofNat w).toNat, rest) else none) = _
    rw [if_pos hb, UInt8.toNat_ofNat', Nat.mod_eq_of_lt (by omega)]
  dec_split := by
    intro bs w rest h
    cases bs with
    | nil => cases h
    | cons b bs =>
      obtain ⟨-, heq⟩ := Option.ite_none_right_eq_some.1 h
      cases heq
      exact ⟨[b], by simp, rfl⟩
  enc_ascii := by
    intro b hb
    have hlt : b.toNat < 128 := UInt8.lt_iff_toNat_lt.1 hb
    rw [if_pos hlt, UInt8.ofNat_toNat]

end Charsets
