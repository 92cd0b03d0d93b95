import Xrdp.Lib.Bits
import Xrdp.Lib.Window

/-!
# The RDP 5.0 MPPC stream

The bit syntax of literals and back references (`tokenBits`) and a standard decoder for it: a
64K history, an offset into it, and the packet flags that rewind or clear them.

* `decodeToken_tokenBits` — a token is read back from its bits, whatever follows it.
* `decodeTokens_tokensBits` — so is a token list followed by less than a byte of padding.
-/

namespace Xrdp.Mppc

open BitString Window

/-! ## Token syntax -/

/-- `0` and seven bits below `0x80`, else `10` and the low seven bits. -/
def literalBits (b : UInt8) : List Bool :=
  if b < 0x80 then natBits 8 b.toNat else natBits 2 0x02 ++ natBits 7 (b.toNat % 128)

/-- The four classes of copy offsets. -/
def offsetBits (offset : Nat) : List Bool :=
  if offset < 64 then natBits 5 0x1f ++ natBits 6 offset
  else if offset < 320 then natBits 5 0x1e ++ natBits 8 (offset - 64)
  else if offset < 2368 then natBits 4 0x0e ++ natBits 11 (offset - 320)
  else natBits 3 0x06 ++ natBits 16 (offset - 2368)

/-- The length-of-match class `k`: `k` ones, a zero, and `k + 1` bits above `2 ^ (k + 1)`; class
`0` is the length three alone. -/
def lomClassBits (k lom : Nat) : List Bool :=
  if k = 0 then [false]
  else List.replicate k true ++ false :: natBits (k + 1) (lom - 2 ^ (k + 1))

/-- The class of a length of match. -/
def lomClass (lom : Nat) : Nat := if lom < 4 then 0 else lom.log2 - 1

def lomBits (lom : Nat) : List Bool := lomClassBits (lomClass lom) lom

def tokenBits : Token UInt8 → List Bool
  | .lit b => literalBits b
  | .copy dist len => offsetBits dist ++ lomBits len

def tokensBits (ts : List (Token UInt8)) : List Bool := ts.flatMap tokenBits

/-- The tokens the syntax can carry. -/
def ValidToken : Token UInt8 → Prop
  | .lit _ => True
  | .copy dist len => dist < 65536 ∧ 3 ≤ len ∧ len < 65536

instance : DecidablePred ValidToken := fun t => by
  cases t <;> (unfold ValidToken; infer_instance)

/-! ## The decoder -/

/-- The length of match behind a copy offset: at most fourteen ones. -/
def decodeLom : Nat → List Bool → Option (Nat × List Bool)
  | k, false :: bs =>
    if k = 0 then some (3, bs)
    else (takeBits (k + 1) bs).map fun (v, rest) => (2 ^ (k + 1) + v, rest)
  | k, true :: bs => if k < 14 then decodeLom (k + 1) bs else none
  | _, [] => none

def decodeCopy (base n : Nat) (bs : List Bool) : Option (Token UInt8 × List Bool) :=
  (takeBits n bs).bind fun (v, bs) =>
    (decodeLom 0 bs).map fun (lom, rest) => (.copy (base + v) lom, rest)

/-- One token off the front. -/
def decodeToken : List Bool → Option (Token UInt8 × List Bool)
  | false :: bs => (takeBits 7 bs).map fun (v, rest) => (.lit (UInt8.ofNat v), rest)
  | true :: false :: bs => (takeBits 7 bs).map fun (v, rest) => (.lit (UInt8.ofNat (128 + v)), rest)
  | true :: true :: false :: bs => decodeCopy 2368 16 bs
  | true :: true :: true :: false :: bs => decodeCopy 320 11 bs
  | true :: true :: true :: true :: false :: bs => decodeCopy 64 8 bs
  | true :: true :: true :: true :: true :: bs => decodeCopy 0 6 bs
  | _ => none

/-- Tokens while at least a byte of input is left; what is left is padding. -/
def decodeTokens : Nat → List Bool → Option (List (Token UInt8))
  | 0, bs => if bs.length < 8 then some [] else none
  | fuel + 1, bs =>
    if bs.length < 8 then some []
    else (decodeToken bs).bind fun (t, rest) => (decodeTokens fuel rest).map (t :: ·)

def PACKET_COMPRESSED_FLAG : Nat := 0x20
def PACKET_AT_FRONT_FLAG : Nat := 0x40
def PACKET_FLUSHED_FLAG : Nat := 0x80

def HISTORY_SIZE : Nat := 65536

/-- The decoder: its history and the offset into it. -/
structure Decoder where
  history : Nat → UInt8
  offset : Nat

def Decoder.initial : Decoder := ⟨fun _ => 0, 0⟩

/-- What the packet flags do before the data is looked at. -/
def Decoder.applyFlags (d : Decoder) (flags : Nat) : Decoder :=
  let d := if flags &&& PACKET_AT_FRONT_FLAG ≠ 0 then { d with offset := 0 } else d
  if flags &&& PACKET_FLUSHED_FLAG ≠ 0 then ⟨fun _ => 0, 0⟩ else d

/-- One packet: the new decoder and the packet's data, the part of the history it has filled. -/
def Decoder.decode (d : Decoder) (flags : Nat) (data : List UInt8) :
    Option (Decoder × List UInt8) :=
  let d := d.applyFlags flags
  if flags &&& PACKET_COMPRESSED_FLAG = 0 then none
  else do
    let ts ← decodeTokens (byteBits data).length (byteBits data)
    let w ← run HISTORY_SIZE (d.history, d.offset) ts
    return (⟨w.1, w.2⟩, (List.range (w.2 - d.offset)).map fun i => w.1 (d.offset + i))

/-! ## Reading tokens back -/

theorem lomClass_spec {lom : Nat} (h3 : 3 ≤ lom) (h : lom < 65536) :
    (lom = 3 ∧ lomClass lom = 0) ∨
      (1 ≤ lomClass lom ∧ lomClass lom ≤ 14 ∧
        2 ^ (lomClass lom + 1) ≤ lom ∧ lom < 2 ^ (lomClass lom + 2)) := by
  unfold lomClass
  split
  · left; omega
  · right
    have h2 : 2 ≤ lom.log2 := (Nat.le_log2 (by omega)).2 (by omega)
    have h16 : lom.log2 < 16 := (Nat.log2_lt (by omega)).2 (by omega)
    have h1 : lom.log2 - 1 + 1 = lom.log2 := by omega
    have h3 : lom.log2 - 1 + 2 = lom.log2 + 1 := by omega
    rw [h1, h3]
    exact ⟨by omega, by omega, Nat.log2_self_le (by omega), Nat.lt_log2_self⟩

theorem decodeLom_ones (k j : Nat) (bs : List Bool) (h : k + j ≤ 14) :
    decodeLom k (List.replicate j true ++ bs) = decodeLom (k + j) bs := by
  induction j generalizing k with
  | zero => simp
  | succ j ih =>
    rw [List.replicate_succ, List.cons_append, decodeLom, if_pos (by omega), ih (k + 1) (by omega)]
    congr 1; omega

theorem decodeLom_lomBits {lom : Nat} (h3 : 3 ≤ lom) (h : lom < 65536) (rest : List Bool) :
    decodeLom 0 (lomBits lom ++ rest) = some (lom, rest) := by
  unfold lomBits
  rcases lomClass_spec h3 h with ⟨rfl, hc⟩ | ⟨h1, h14, hlo, hhi⟩
  · rw [hc]; rfl
  · generalize lomClass lom = k at *
    have hk : k ≠ 0 := by omega
    have hv : lom - 2 ^ (k + 1) < 2 ^ (k + 1) := by
      rw [Nat.pow_succ] at hhi; omega
    rw [lomClassBits, if_neg hk, List.append_assoc, decodeLom_ones 0 k _ (by omega),
      List.cons_append, Nat.zero_add, decodeLom, if_neg hk, takeBits_natBits hv]
    simp; omega

theorem decodeCopy_natBits {base n v lom : Nat} (hv : v < 2 ^ n) (h3 : 3 ≤ lom) (h : lom < 65536)
    (rest : List Bool) :
    decodeCopy base n (natBits n v ++ (lomBits lom ++ rest)) =
      some (.copy (base + v) lom, rest) := by
  rw [decodeCopy, takeBits_natBits hv, Option.bind_some]
  simp only [decodeLom_lomBits h3 h, Option.map_some]

/-- **A token is read back from its bits.** -/
theorem decodeToken_tokenBits {t : Token UInt8} (ht : ValidToken t) (rest : List Bool) :
    decodeToken (tokenBits t ++ rest) = some (t, rest) := by
  cases t with
  | lit b =>
    rw [tokenBits, literalBits]
    split
    · rename_i hb
      have hb' : b.toNat < 2 ^ 7 := by simpa using UInt8.lt_iff_toNat_lt.1 hb
      have h7 : natBits 8 b.toNat = false :: natBits 7 b.toNat := by
        rw [natBits, Nat.testBit_lt_two_pow hb']
      rw [h7, List.cons_append, decodeToken, takeBits_natBits hb']
      simp
    · rename_i hb
      have hb' : 128 ≤ b.toNat := by
        have := mt UInt8.lt_iff_toNat_lt.2 hb
        simpa using this
      have hlt := b.toNat_lt
      have hv : 128 + b.toNat % 128 = b.toNat := by omega
      rw [List.append_assoc, show natBits 2 0x02 = [true, false] by rfl, List.cons_append,
        List.cons_append, List.nil_append, decodeToken,
        takeBits_natBits (Nat.mod_lt _ (by omega) : b.toNat % 128 < 2 ^ 7), Option.map_some]
      simp only [hv, UInt8.ofNat_toNat]
  | copy dist len =>
    obtain ⟨hd, h3, hl⟩ := ht
    rw [tokenBits, offsetBits]
    split
    · rename_i h
      have hc := @decodeCopy_natBits 0 6 _ _ h h3 hl rest
      rw [Nat.zero_add] at hc
      rw [show natBits 5 0x1f = [true, true, true, true, true] by rfl]
      simpa [decodeToken] using hc
    split
    · rename_i h
      have hc := @decodeCopy_natBits 64 8 (dist - 64) _ (by omega) h3 hl rest
      rw [show 64 + (dist - 64) = dist by omega] at hc
      rw [show natBits 5 0x1e = [true, true, true, true, false] by rfl]
      simpa [decodeToken] using hc
    split
    · rename_i h
      have hc := @decodeCopy_natBits 320 11 (dist - 320) _ (by omega) h3 hl rest
      rw [show 320 + (dist - 320) = dist by omega] at hc
      rw [show natBits 4 0x0e = [true, true, true, false] by rfl]
      simpa [decodeToken] using hc
    · have hc := @decodeCopy_natBits 2368 16 (dist - 2368) _ (by omega) h3 hl rest
      rw [show 2368 + (dist - 2368) = dist by omega] at hc
      rw [show natBits 3 0x06 = [true, true, false] by rfl]
      simpa [decodeToken] using hc

theorem tokenBits_length {t : Token UInt8} (ht : ValidToken t) : 8 ≤ (tokenBits t).length := by
  cases t with
  | lit b => rw [tokenBits, literalBits]; split <;> simp
  | copy dist len => rw [tokenBits, offsetBits]; split_ifs <;> simp <;> omega

/-- **A token list is read back from its bits and less than a byte of padding.** -/
theorem decodeTokens_tokensBits {ts : List (Token UInt8)} (hts : ∀ t ∈ ts, ValidToken t)
    {pad : List Bool} (hp : pad.length < 8) {fuel : Nat} (hf : ts.length ≤ fuel) :
    decodeTokens fuel (tokensBits ts ++ pad) = some ts := by
  induction ts generalizing fuel with
  | nil =>
    cases fuel with
    | zero => simp [decodeTokens, tokensBits, hp]
    | succ fuel => simp [decodeTokens, tokensBits, hp]
  | cons t ts ih =>
    obtain ⟨ht, hts⟩ := List.forall_mem_cons.1 hts
    cases fuel with
    | zero => simp at hf
    | succ fuel =>
      have hlen := tokenBits_length ht
      have h8 : ¬ (tokensBits (t :: ts) ++ pad).length < 8 := by
        simp [tokensBits]; omega
      have happ : tokensBits (t :: ts) ++ pad = tokenBits t ++ (tokensBits ts ++ pad) := by
        simp [tokensBits]
      rw [decodeTokens, if_neg h8, happ, decodeToken_tokenBits ht, Option.bind_some]
      simp only [ih hts (by simpa using hf : ts.length ≤ fuel), Option.map_some]

theorem length_le_tokensBits {ts : List (Token UInt8)} (hts : ∀ t ∈ ts, ValidToken t) :
    8 * ts.length ≤ (tokensBits ts).length := by
  induction ts with
  | nil => simp
  | cons t ts ih =>
    obtain ⟨ht, hts⟩ := List.forall_mem_cons.1 hts
    have := tokenBits_length ht
    have := ih hts
    simp [tokensBits] at *
    omega

end Xrdp.Mppc
