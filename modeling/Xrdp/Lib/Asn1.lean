import Xrdp.Lib.Wire

/-!
# Elements with a length

Lengths as BER and aligned PER write them, and elements that are told apart by a tag.

* `getBer_short`, `getBer_long` — an element of BER is read back with its contents.
* `getPerLength_long` — so is a length of PER in two bytes.
-/

namespace Asn1

open Wire

/-- A length in BER: one byte, or a byte that says how many bytes follow. -/
def getBerLength : List UInt8 → Option (Nat × List UInt8)
  | [] => none
  | b :: bs =>
    if b.toNat < 0x80 then some (b.toNat, bs)
    else if b.toNat = 0x80 then none
    else getBe (b.toNat - 0x80) bs

/-- The contents of an element with this tag, and what follows it. -/
def getBer (tag bs : List UInt8) : Option (List UInt8 × List UInt8) :=
  (getLit tag bs).bind fun bs => (getBerLength bs).bind fun (n, bs) => getBytes n bs

/-- A length in PER that is not of a fragment: one byte, or two bytes with the top bit set. -/
def getPerLength : List UInt8 → Option (Nat × List UInt8)
  | [] => none
  | b :: bs =>
    if b.toNat < 0x80 then some (b.toNat, bs)
    else if b.toNat < 0xc0 then (getLe 1 bs).map fun (c, bs) => ((b.toNat - 0x80) * 256 + c, bs)
    else none

section

variable {tag content : List UInt8} (rest : List UInt8)

theorem getBer_short (h : content.length < 0x80) :
    getBer tag (tag ++ UInt8.ofNat content.length :: (content ++ rest)) = some (content, rest) := by
  have hlen : (UInt8.ofNat content.length).toNat = content.length := by
    rw [UInt8.toNat_ofNat']
    omega
  simp [getBer, getBerLength, hlen, h]

theorem getBer_long (h : content.length < 2 ^ 16) :
    getBer tag (tag ++ 0x82 :: (beBytes 2 content.length ++ (content ++ rest))) =
      some (content, rest) := by
  have hlen : content.length % 65536 = content.length := Nat.mod_eq_of_lt h
  have h82 : (0x82 : UInt8).toNat = 0x82 := rfl
  simp [getBer, getBerLength, h82, getBe_beBytes, hlen]

end

/-- The two bytes of a length below `2 ^ 14`. -/
theorem getPerLength_long {n : Nat} (h : n < 2 ^ 14) (rest : List UInt8) :
    getPerLength (beBytes 2 (n ||| 0x8000) ++ rest) = some (n, rest) := by
  have hor : n ||| 0x8000 = n + 0x8000 := by
    rw [Nat.lor_comm, ← Nat.two_pow_add_eq_or_of_lt (i := 15) (by omega) 1]
    omega
  have hbytes : beBytes 2 (n + 0x8000) =
      [UInt8.ofNat ((n + 0x8000) / 256), UInt8.ofNat (n + 0x8000)] := rfl
  have hhigh : (UInt8.ofNat ((n + 0x8000) / 256)).toNat = n / 256 + 0x80 := by
    rw [UInt8.toNat_ofNat']
    omega
  have hlow : (UInt8.ofNat (n + 0x8000)).toNat = n % 256 := by
    rw [UInt8.toNat_ofNat']
    omega
  rw [hor, hbytes, List.cons_append, getPerLength, hhigh, if_neg (by omega), if_pos (by omega)]
  simp only [List.cons_append, List.nil_append, getLe, hlow, Option.map_some]
  rw [show (n / 256 + 0x80 - 0x80) * 256 + (n % 256 + 256 * 0) = n by omega]

end Asn1
