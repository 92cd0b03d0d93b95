import Xrdp.Lib.Extent
import Xrdp.Scp.Accept

/-!
# When `scp_vXs_accept` stays within its streams

* `v0End`, `v1End` — where the fields of a message end, from what is in the message.
* `AcceptFits` — the messages that fit their streams and have all their fields.
* `accept_iff` — these are exactly the byte sequences that are received and read within bounds.
* `login_cut` — a login of version 1 that ends before its strings.
-/

namespace Xrdp.Scp.Received

open Wire Extent

/-! ## Where fields end -/

variable (b : List UInt8)

/-- A field of 16 bits. -/
def at16 (i : Nat) : Nat := (b.getD i 0).toNat * 256 + (b.getD (i + 1) 0).toNat

/-- A field of 32 bits. -/
def at32 (i : Nat) : Nat := at16 b i * 65536 + at16 b (i + 2)

/-- The end of a string with its length in a byte. -/
def str8End (i : Nat) : Nat := i + 1 + (b.getD i 0).toNat

/-- The end of a string with its length in two bytes. -/
def str16End (i : Nat) : Nat := i + 2 + at16 b i

/-- The end of a field that may be missing. -/
def optionalEnd (i : Nat) : Nat := if i + 2 ≤ b.length then str16End b i else i

/-- The end of an address. -/
def addrEnd (i : Nat) : Nat :=
  if b.getD i 0 = SCP_ADDRESS_TYPE_IPV4 then i + 1 + 4
  else if b.getD i 0 = SCP_ADDRESS_TYPE_IPV6 then i + 1 + 16
  else i + 1

instance (bpp : UInt8) : Decidable (bppOk bpp) := inferInstanceAs (Decidable (_ ∨ _))

/-- The end of a session of version 0. -/
def session0End (i : Nat) : Nat :=
  if bppOk (b.getD (i + 5) 0) then
    optionalEnd b (optionalEnd b (optionalEnd b (optionalEnd b (i + 6))))
  else i + 6

/-- The end of a message of version 0. -/
def v0End : Nat :=
  if at16 b 0 = 0 ∨ at16 b 0 = 10 ∨ at16 b 0 = 20 then session0End b (str16End b (str16End b 2))
  else if at16 b 0 = 4 then str16End b (str16End b 2)
  else 2

/-- The end of a management session. -/
def mngEnd : Nat :=
  if at16 b 2 = 1 then str8End b (addrEnd b (str8End b (str8End b 4))) else 4

/-- The end of a session of version 1. -/
def session1End : Nat :=
  if b.getD 4 0 = SCP_SESSION_TYPE_XVNC ∨ b.getD 4 0 = SCP_SESSION_TYPE_XRDP then
    if bppOk (b.getD 9 0) then str8End b (str8End b (str8End b (addrEnd b 28))) else 10
  else 5

/-- The end of a message of version 1. -/
def v1End : Nat :=
  if at16 b 0 = SCP_COMMAND_SET_MANAGE then mngEnd b
  else if at16 b 0 = SCP_COMMAND_SET_RSR then 2
  else if at16 b 2 = 1 then session1End b
  else 4

/-! ## Messages that fit -/

/-- The number of bytes that a message of this size lets come in after the first eight. -/
def bodySize (size : Nat) : Nat := if 8 ≤ size ∧ size < 2 ^ 31 + 8 then size - 8 else 0

/-- What comes in fits the stream, and if all that is announced comes in, no field ends behind
it. -/
def BodyFits (capacity : Nat) (bodyEnd : List UInt8 → Nat) (n : Nat) (rest : List UInt8) : Prop :=
  min n rest.length ≤ capacity ∧ (n ≤ rest.length → bodyEnd (rest.take n) ≤ n)

/-- What comes in at a new connection fits the streams and has all its fields. -/
def AcceptFits (sck : List UInt8) : Prop :=
  8 ≤ sck.length →
    (at32 sck 0 = 0 → BodyFits 8196 v0End (bodySize (at32 sck 4)) (sck.drop 8)) ∧
    (at32 sck 0 = 1 → 12 ≤ at32 sck 4 → BodyFits 8192 v1End (bodySize (at32 sck 4)) (sck.drop 8))

/-! ## Fields -/

section

variable {b} {i : Nat}

theorem inUint8_reads : Reads b i inUint8 (i + 1) (b.getD i 0) := by
  constructor
  · exact Nat.le_succ i
  · intro hi
    rw [List.drop_eq_getElem_cons (by omega), inUint8_cons, List.getD_eq_getElem _ _ (by omega)]
  · intro hi hlt
    have hnil : b.drop i = [] := List.drop_eq_nil_of_le (by omega)
    rw [hnil]
    exact ⟨_, rfl⟩

theorem getBytes_drop {n : Nat} (h : i + n ≤ b.length) :
    getBytes n (b.drop i) = some ((b.drop i).take n, b.drop (i + n)) := by
  have hlen : n ≤ (b.drop i).length := by
    rw [List.length_drop]
    omega
  rw [getBytes, if_pos hlen, List.drop_drop]

theorem getBytes_behind {n : Nat} (hi : i ≤ b.length) (h : b.length < i + n) :
    getBytes n (b.drop i) = none := by
  have hlen : ¬ n ≤ (b.drop i).length := by
    rw [List.length_drop]
    omega
  rw [getBytes, if_neg hlen]

theorem inUint8a_reads (n : Nat) : Reads b i (inUint8a n) (i + n) ((b.drop i).take n) := by
  constructor
  · exact Nat.le_add_right i n
  · intro hle
    simp only [inUint8a, rdOf, getBytes_drop hle]
  · intro hi hlt
    simp only [inUint8a, rdOf, getBytes_behind hi hlt]
    exact ⟨_, rfl⟩

theorem take_two (h : i + 2 ≤ b.length) :
    (b.drop i).take 2 = [b.getD i 0, b.getD (i + 1) 0] := by
  rw [List.drop_eq_getElem_cons (by omega), List.drop_eq_getElem_cons (by omega),
    List.getD_eq_getElem _ _ (by omega), List.getD_eq_getElem _ _ (by omega)]
  rfl

theorem inUint16Be_reads : Reads b i inUint16Be (i + 2) (UInt16.ofNat (at16 b i)) := by
  constructor
  · exact Nat.le_add_right i 2
  · intro hle
    have hval : getLe 2 [b.getD i 0, b.getD (i + 1) 0].reverse = some (at16 b i, []) := by
      simp [getLe, at16]
      omega
    simp only [inUint16Be, rdOf, getBe, getBytes_drop hle, Option.bind_some, take_two hle, hval,
      Option.map_some]
  · intro hi hlt
    simp only [inUint16Be, rdOf, getBe, getBytes_behind hi hlt]
    exact ⟨_, rfl⟩

theorem inUint32Be_reads : Reads b i inUint32Be (i + 4) (UInt32.ofNat (at32 b i)) := by
  constructor
  · exact Nat.le_add_right i 4
  · intro hle
    have htake : (b.drop i).take 4 =
        [b.getD i 0, b.getD (i + 1) 0, b.getD (i + 2) 0, b.getD (i + 2 + 1) 0] := by
      have h := List.take_append_drop 2 ((b.drop i).take 4)
      rw [List.take_take, List.drop_take, List.drop_drop, take_two (by omega : i + 2 + 2 ≤ _)] at h
      rw [← h, Nat.min_eq_left (by omega), take_two (by omega)]
      rfl
    have hval : getLe 4
        [b.getD i 0, b.getD (i + 1) 0, b.getD (i + 2) 0, b.getD (i + 2 + 1) 0].reverse =
        some (at32 b i, []) := by
      simp [getLe, at32, at16]
      omega
    simp only [inUint32Be, rdOf, getBe, getBytes_drop hle, Option.bind_some, htake, hval,
      Option.map_some]
  · intro hi hlt
    simp only [inUint32Be, rdOf, getBe, getBytes_behind hi hlt]
    exact ⟨_, rfl⟩

/-! ## Strings and addresses -/

theorem readString_ends : Ends b i readString (str8End b i) :=
  Ends.bind inUint8_reads (Ends.bind_any (inUint8a_reads _).ends fun _ => Ends.pure)

theorem at16_lt (i : Nat) : at16 b i < 2 ^ 16 := by
  have hhi := (b.getD i 0).toNat_lt
  have hlo := (b.getD (i + 1) 0).toNat_lt
  rw [at16]
  omega

theorem toNat_at16 (i : Nat) : (UInt16.ofNat (at16 b i)).toNat = at16 b i :=
  UInt16.toNat_ofNat_of_lt' (at16_lt i)

theorem at16_eq_iff {v : UInt16} : UInt16.ofNat (at16 b i) = v ↔ at16 b i = v.toNat := by
  rw [← UInt16.toNat_inj, toNat_at16]

theorem readString16_ends : Ends b i readString16 (str16End b i) := by
  refine Ends.bind inUint16Be_reads (Ends.bind_any ?_ fun _ => Ends.pure)
  rw [toNat_at16]
  exact (inUint8a_reads _).ends

theorem readAddr_ends (session : ScpSession) : Ends b i (readAddr session) (addrEnd b i) := by
  apply Ends.bind inUint8_reads
  apply Ends.ite_iff Iff.rfl
  · exact Ends.bind_any inUint32Be_reads.ends fun _ => Ends.pure
  apply Ends.ite_iff Iff.rfl
  · apply Ends.bind_any (inUint8a_reads 16).ends
    intro buf
    split
    · exact Ends.pure
    · exact Ends.pure
  · exact Ends.pure

theorem sCheckRem_reads : Reads b i (sCheckRem 2) i (decide (i + 2 ≤ b.length)) := by
  constructor
  · exact Nat.le_refl i
  · intro hi
    have hiff : 2 ≤ (b.drop i).length ↔ i + 2 ≤ b.length := by
      rw [List.length_drop]
      omega
    simp only [sCheckRem, hiff]
  · intro hi hlt
    omega

theorem readOptional_ends (set : ScpFullSession → CString → ScpFullSession)
    (session : ScpFullSession) : Ends b i (readOptional set session) (optionalEnd b i) := by
  apply Ends.bind sCheckRem_reads
  apply Ends.ite_iff decide_eq_true_iff
  · apply Ends.bind inUint16Be_reads
    rw [toNat_at16]
    apply Ends.ite
    · intro _
      exact Ends.bind_any (inUint8a_reads _).ends fun _ => Ends.pure
    · intro hsz
      have hend : str16End b i = i + 2 := by
        rw [str16End]
        omega
      rw [hend]
      exact Ends.pure
  · exact Ends.pure

/-! ## Messages -/

theorem setBpp_isSome (session : ScpSession) (bpp : UInt8) :
    (∃ s, scpSessionSetBpp session bpp = some s) ↔ bppOk bpp := by
  unfold scpSessionSetBpp bppOk
  split <;> simp [*]

theorem readUser_ends (session : ScpSession) :
    Ends b i (readUser session) (str16End b (str16End b i)) :=
  Ends.bind_any readString16_ends fun _ => Ends.bind_any readString16_ends fun _ => Ends.pure

theorem readOptionals_ends (session : ScpFullSession) : Ends b i (readOptionals session)
    (optionalEnd b (optionalEnd b (optionalEnd b (optionalEnd b i)))) := by
  apply Ends.bind_any (readOptional_ends _ _)
  intro session
  apply Ends.bind_any (readOptional_ends _ _)
  intro session
  apply Ends.bind_any (readOptional_ends _ _)
  intro session
  apply Ends.bind_any (readOptional_ends _ _)
  intro session
  exact Ends.pure

/-- The depth of a session decides how it goes on. -/
theorem match_bpp_ends {session : ScpSession} {bpp : UInt8} {α : Type} {fail : Rd α}
    {go : ScpSession → Rd α} {j k : Nat} (hfail : Ends b i fail k)
    (hgo : ∀ s, Ends b i (go s) j) :
    Ends b i (match scpSessionSetBpp session bpp with
      | none => fail
      | some session => go session) (if bppOk bpp then j else k) := by
  cases hset : scpSessionSetBpp session bpp with
  | none =>
    have hbpp : ¬ bppOk bpp := by
      rw [← setBpp_isSome session, hset]
      simp
    rw [if_neg hbpp]
    exact hfail
  | some s =>
    rw [if_pos ((setBpp_isSome session bpp).1 ⟨s, hset⟩)]
    exact hgo s

theorem toUInt8_at16 (i : Nat) : (UInt16.ofNat (at16 b i)).toUInt8 = b.getD (i + 1) 0 := by
  apply UInt8.toNat_inj.1
  have hlo := (b.getD (i + 1) 0).toNat_lt
  rw [UInt16.toNat_toUInt8, toNat_at16, at16]
  omega

theorem readSession0_ends (type : UInt8) : Ends b i (readSession0 type)
    (session0End b (str16End b (str16End b i))) := by
  apply Ends.bind_any (readUser_ends _)
  intro session
  apply Ends.bind_any inUint16Be_reads.ends
  intro width
  apply Ends.bind_any inUint16Be_reads.ends
  intro height
  apply Ends.bind inUint16Be_reads
  rw [toUInt8_at16]
  exact match_bpp_ends Ends.pure fun _ => readOptionals_ends _

theorem readGateway_ends : Ends b i readGateway (str16End b (str16End b i)) :=
  Ends.bind_any (readUser_ends _) fun _ => Ends.pure

theorem readCode_ends : Ends b 0 readCode (v0End b) := by
  apply Ends.bind inUint16Be_reads
  have hsession : ∀ type, at16 b 0 = 0 ∨ at16 b 0 = 10 ∨ at16 b 0 = 20 →
      Ends b 2 (readSession0 type) (v0End b) := by
    intro type hcode
    rw [v0End, if_pos hcode]
    exact readSession0_ends type
  apply Ends.ite
  · intro h
    exact hsession _ (.inl (at16_eq_iff.1 h))
  intro h0
  apply Ends.ite
  · intro h
    exact hsession _ (.inr (.inl (at16_eq_iff.1 h)))
  intro h10
  apply Ends.ite
  · intro h
    exact hsession _ (.inr (.inr (at16_eq_iff.1 h)))
  intro h20
  have hcode : ¬ (at16 b 0 = 0 ∨ at16 b 0 = 10 ∨ at16 b 0 = 20) := by
    rintro (h | h | h)
    · exact h0 (at16_eq_iff.2 h)
    · exact h10 (at16_eq_iff.2 h)
    · exact h20 (at16_eq_iff.2 h)
  rw [v0End, if_neg hcode]
  exact Ends.ite_iff at16_eq_iff readGateway_ends Ends.pure

theorem scpV1sMngAccept_ends : Ends b 2 scpV1sMngAccept (mngEnd b) := by
  apply Ends.bind inUint16Be_reads
  unfold mngEnd
  rw [ite_not]
  apply Ends.ite_iff at16_eq_iff
  · apply Ends.bind_any readString_ends
    intro username
    apply Ends.bind_any readString_ends
    intro password
    apply Ends.bind_any (readAddr_ends _)
    intro session
    exact Ends.bind_any readString_ends fun _ => Ends.pure
  · exact Ends.pure

theorem readCredentials_ends (session : ScpSession) : Ends b i (readCredentials session)
    (str8End b (str8End b (str8End b i))) := by
  apply Ends.bind_any readString_ends
  intro hostname
  apply Ends.bind_any readString_ends
  intro username
  apply Ends.bind_any readString_ends
  intro password
  exact Ends.pure

theorem readLogin_ends (session : ScpSession) : Ends b 5 (readLogin session)
    (if bppOk (b.getD 9 0) then str8End b (str8End b (str8End b (addrEnd b 28))) else 10) := by
  apply Ends.bind_any inUint16Be_reads.ends
  intro height
  apply Ends.bind_any inUint16Be_reads.ends
  intro width
  apply Ends.bind inUint8_reads
  apply match_bpp_ends Ends.pure
  intro session
  apply Ends.bind_any inUint8_reads.ends
  intro rsr
  apply Ends.bind_any (inUint8a_reads 17).ends
  intro locale
  apply Ends.bind_any (readAddr_ends _)
  intro session
  exact readCredentials_ends session

theorem readSession_ends : Ends b 4 readSession (session1End b) := by
  apply Ends.bind inUint8_reads
  have hnot : ¬ (b.getD 4 0 ≠ SCP_SESSION_TYPE_XVNC ∧ b.getD 4 0 ≠ SCP_SESSION_TYPE_XRDP) ↔
      b.getD 4 0 = SCP_SESSION_TYPE_XVNC ∨ b.getD 4 0 = SCP_SESSION_TYPE_XRDP := by tauto
  rw [← ite_not]
  exact Ends.ite_iff hnot (readLogin_ends _) Ends.pure

theorem readCommand_ends : Ends b 0 readCommand (v1End b) := by
  apply Ends.bind inUint16Be_reads
  rw [toNat_at16]
  apply Ends.ite_iff Iff.rfl scpV1sMngAccept_ends
  apply Ends.ite_iff Iff.rfl Ends.pure
  apply Ends.bind inUint16Be_reads
  rw [ite_not]
  apply Ends.ite_iff at16_eq_iff
  · exact Ends.bind_any readSession_ends fun _ => Ends.pure
  · exact Ends.pure

end

/-! ## The whole -/

/-- What the server asks the socket for. -/
theorem bodySize_eq (size : UInt32) : (int (size - 8).toNat).toNat = bodySize size.toNat := by
  have hlt := size.toNat_lt
  unfold bodySize
  have hsub : (size - 8).toNat = (size.toNat + 4294967288) % 4294967296 := by
    rw [UInt32.toNat_sub, Nat.add_comm]
    rfl
  by_cases hlow : 8 ≤ size.toNat
  · have hval : (size - 8).toNat = size.toNat - 8 := by omega
    by_cases hhigh : size.toNat < 2 ^ 31 + 8
    · rw [hval, int_of_small (by omega), if_pos ⟨hlow, hhigh⟩, Int.toNat_natCast]
    · rw [hval, int_of_wrapped (by omega) (by omega), if_neg (by omega)]
      omega
  · have hval : (size - 8).toNat = size.toNat + 4294967288 := by omega
    rw [hval, int_of_wrapped (by omega) (by omega), if_neg (by omega)]
    omega

theorem body_iff {capacity : Nat} {x : Rd AcceptState} {bodyEnd : List UInt8 → Nat}
    (hx : ∀ b, Ends b 0 x (bodyEnd b)) (sck : List UInt8) (len : Int) :
    (∃ state, (do
      let received ← scpTcpForceRecv capacity sck len
      match received with
      | none => pure .networkErr
      | some (data, _) => do
        let (state, _) ← x data
        pure state : Run AcceptState) = .ok state) ↔
      BodyFits capacity bodyEnd len.toNat sck := by
  unfold scpTcpForceRecv BodyFits
  dsimp only
  by_cases hcap : capacity < min len.toNat sck.length
  · rw [if_pos hcap, Run.error_bind]
    constructor
    · rintro ⟨state, h⟩
      cases h
    · rintro ⟨hle, -⟩
      omega
  by_cases hshort : sck.length < len.toNat
  · rw [if_neg hcap, if_pos hshort, Run.ok_bind]
    constructor
    · intro _
      exact ⟨by omega, fun h => by omega⟩
    · intro _
      exact ⟨_, rfl⟩
  · have hlen : (sck.take len.toNat).length = len.toNat := by
      rw [List.length_take]
      omega
    have hiff := (hx (sck.take len.toNat)).isOk_iff
    rw [hlen] at hiff
    rw [if_neg hcap, if_neg hshort, Run.ok_bind]
    constructor
    · rintro ⟨state, h⟩
      obtain ⟨r, hr, -⟩ := Run.bind_eq_ok.1 h
      exact ⟨by omega, fun _ => hiff.1 ⟨r, hr⟩⟩
    · rintro ⟨-, hle⟩
      obtain ⟨r, hr⟩ := hiff.2 (hle (by omega))
      refine ⟨r.1, ?_⟩
      dsimp only
      rw [hr]
      rfl

theorem at32_take {n i : Nat} (h : i + 4 ≤ n) : at32 (b.take n) i = at32 b i := by
  have hget : ∀ j, j < n → (b.take n)[j]? = b[j]? := fun j hj => by
    rw [List.getElem?_take, if_pos hj]
  simp only [at32, at16, List.getD_eq_getElem?_getD]
  rw [hget i (by omega), hget (i + 1) (by omega), hget (i + 2) (by omega),
    hget (i + 2 + 1) (by omega)]

theorem at32_lt (i : Nat) : at32 b i < 2 ^ 32 := by
  have hhi := at16_lt (b := b) i
  have hlo := at16_lt (b := b) (i + 2)
  rw [at32]
  omega

theorem toNat_at32 (i : Nat) : (UInt32.ofNat (at32 b i)).toNat = at32 b i :=
  UInt32.toNat_ofNat_of_lt' (at32_lt b i)

theorem at32_eq_iff {i : Nat} {v : UInt32} : UInt32.ofNat (at32 b i) = v ↔ at32 b i = v.toNat := by
  rw [← UInt32.toNat_inj, toNat_at32]

/-- The version and the size are read from the first eight bytes. -/
theorem readHead (h : 8 ≤ b.length) :
    inUint32Be (b.take 8) = .ok (UInt32.ofNat (at32 b 0), (b.take 8).drop 4) ∧
      ∃ p, inUint32Be ((b.take 8).drop 4) = .ok (UInt32.ofNat (at32 b 4), p) := by
  have hlen : (b.take 8).length = 8 := by
    rw [List.length_take]
    omega
  have hversion := (inUint32Be_reads (b := b.take 8) (i := 0)).ok (by omega)
  have hsize := (inUint32Be_reads (b := b.take 8) (i := 4)).ok (by omega)
  rw [at32_take b (by omega)] at hversion hsize
  exact ⟨hversion, _, hsize⟩

theorem scpV0sAccept_iff {sck p p' : List UInt8} {size : UInt32}
    (hsize : inUint32Be p = .ok (size, p')) :
    (∃ state, scpV0sAccept sck p = .ok state) ↔
      BodyFits 8196 v0End (bodySize size.toNat) sck := by
  unfold scpV0sAccept
  rw [hsize, Run.ok_bind, ← bodySize_eq]
  exact body_iff (fun _ => readCode_ends) sck _

theorem scpV1sAccept_iff {sck p p' : List UInt8} {size : UInt32}
    (hsize : inUint32Be p = .ok (size, p')) :
    (∃ state, scpV1sAccept sck p = .ok state) ↔
      (12 ≤ size.toNat → BodyFits 8192 v1End (bodySize size.toNat) sck) := by
  unfold scpV1sAccept
  rw [hsize, Run.ok_bind]
  dsimp only
  by_cases hsmall : size.toNat < 12
  · rw [if_pos hsmall]
    constructor
    · intro _ hle
      omega
    · intro _
      exact ⟨_, rfl⟩
  · rw [if_neg hsmall, ← bodySize_eq]
    apply (body_iff (fun _ => readCommand_ends) sck _).trans
    constructor
    · exact fun h _ => h
    · exact fun h => h (by omega)

/-- **What comes in stays within the streams, and is read within what has come in**, just if it
fits. -/
theorem accept_iff (sck : List UInt8) :
    (∃ state, scpVXsAccept sck = .ok state) ↔ AcceptFits sck := by
  unfold scpVXsAccept AcceptFits
  have hroom : ¬ 8192 < min 8 sck.length := by omega
  rw [show scpTcpForceRecv 8192 sck 8 = if sck.length < 8 then .ok none
    else .ok (some (sck.take 8, sck.drop 8)) from if_neg hroom]
  by_cases hshort : sck.length < 8
  · rw [if_pos hshort]
    constructor
    · intro _ hlen
      omega
    · intro _
      exact ⟨_, rfl⟩
  have hlen : 8 ≤ sck.length := by omega
  obtain ⟨hversion, p, hsize⟩ := readHead sck hlen
  rw [if_neg hshort, Run.ok_bind]
  dsimp only
  rw [hversion, Run.ok_bind]
  dsimp only
  by_cases h0 : at32 sck 0 = 0
  · rw [if_pos ((at32_eq_iff sck).2 h0), scpV0sAccept_iff hsize, toNat_at32]
    constructor
    · exact fun h _ => ⟨fun _ => h, fun h1 => by omega⟩
    · exact fun h => (h hlen).1 h0
  rw [if_neg (mt (at32_eq_iff sck).1 h0)]
  by_cases h1 : at32 sck 0 = 1
  · rw [if_pos ((at32_eq_iff sck).2 h1), scpV1sAccept_iff hsize, toNat_at32]
    constructor
    · exact fun h _ => ⟨fun h0' => absurd h0' h0, fun _ => h⟩
    · exact fun h => (h hlen).2 h1
  · rw [if_neg (mt (at32_eq_iff sck).1 h1)]
    constructor
    · exact fun _ _ => ⟨fun h0' => absurd h0' h0, fun h1' => absurd h1' h1⟩
    · intro _
      exact ⟨_, rfl⟩

/-- A login of version 1 that ends with the depth. -/
def cutLogin : List UInt8 := [0, 0, 0, 1, 0, 0, 0, 18, 0, 0, 0, 1, 0, 0, 1, 0, 1, 8]

/-- What it becomes if there are zeros behind it. -/
def cutSession : ScpSession :=
  { scpSessionCreate with
    version := 1
    height := 1
    width := 1
    bpp := 8
    hostname := some ⟨[], by decide⟩
    username := some ⟨[], by decide⟩
    password := some ⟨[], by decide⟩ }

/-- **A login without its strings is not refused**: they are read behind it, and with zeros there
it is a session. -/
theorem login_cut : (¬ ∃ state, scpVXsAccept cutLogin = .ok state) ∧
    Scp.scpVXsAccept (zeroStream 8192) cutLogin = .ok (.ok cutSession) := by
  have hbehind : scpVXsAccept cutLogin = .error .outOfBounds := by decide +kernel
  constructor
  · rintro ⟨state, h⟩
    rw [hbehind] at h
    cases h
  · decide +kernel

end Xrdp.Scp.Received
