import Xrdp.Myxrdp.Query

/-!
# A user from the pool

A user's name and password for a local session are asked of a pool over UDP (`xrdp/myxrdp_extra.c`); the
answer is a line of tokens, of which the third and the fourth are copied.

* `getUserInfoFromPool` — the request, and what is made of its answer.
* `PoolRight` — what an answer should leave; `pool_right` — that it does.
-/

namespace Xrdp.Myxrdp

open CharArrays

/-- The arrays of the caller. -/
structure PoolUser where
  username : Chars 256
  passwd : Chars 256
  deriving DecidableEq

/-- What becomes of the request outside; nothing is received with an empty datagram. -/
inductive PoolExchange where
  | noSocket
  | notSent
  | timeout
  | datagram (bytes : List UInt8)

/-- `strcpy`. -/
def strcpy {n : Nat} (dest : Chars n) (src : List UInt8) : Run (Chars n) :=
  if h : (src ++ [0]).length ≤ n then .ok (dest.put (src ++ [0]) h) else .error .outOfBounds

/-- The loop over the tokens, with their number so far. -/
def copyToken (s : Nat × PoolUser) (tok : List UInt8) : Run (Nat × PoolUser) :=
  let k := s.1 + 1
  if k = 3 then do
    let username ← strcpy s.2.username tok
    return (k, { s.2 with username := username })
  else if k = 4 then do
    let passwd ← strcpy s.2.passwd tok
    return (k, { s.2 with passwd := passwd })
  else return (k, s.2)

/-- What an answer begins with. -/
def ansUser : List UInt8 := ofString "$ANS USER"

/-- `buff` when `recvfrom` has had a datagram. -/
def poolBuff (bytes : List UInt8) : List UInt8 :=
  bytes.take 512 ++ List.replicate (512 - (bytes.take 512).length) 0

/-- What `strtok` leaves of an answer. -/
def poolTokens (s : List UInt8) : List (List UInt8) := tokens (· == 32) s

/-- `extra_getUserInfoFromPool`. -/
def getUserInfoFromPool (user : PoolUser) : PoolExchange → Run (Bool × PoolUser)
  | .datagram bytes =>
    if bytes = [] then .ok (false, user)
    else do
      let s ← cString (poolBuff bytes)
      if ansUser <+: s.bytes then
        let r ← (poolTokens s.bytes).foldlM copyToken (0, user)
        return (decide (4 ≤ r.1), r.2)
      else return (false, user)
  | _ => .ok (false, user)

/-! ## What is promised -/

/-- The answer, up to its first zero. -/
def poolText (bytes : List UInt8) : List UInt8 := text (bytes.take 512)

/-- It is an answer of the pool. -/
def IsAnswer (bytes : List UInt8) : Prop := ansUser <+: poolText bytes

instance (bytes : List UInt8) : Decidable (IsAnswer bytes) :=
  inferInstanceAs (Decidable (ansUser <+: poolText bytes))

/-- The array holds that text. -/
def HoldsText (a : Chars 256) (tok : List UInt8) : Prop := a.text = tok ∧ a.Terminated

/-- The answer succeeds if it has four tokens, and then the third and the fourth are in the arrays, which
stay as they are otherwise. -/
structure PoolRight (user : PoolUser) (bytes : List UInt8) (r : Bool × PoolUser) : Prop where
  success : r.1 = true ↔ IsAnswer bytes ∧ 4 ≤ (poolTokens (poolText bytes)).length
  username : r.1 = true → ∀ tok, (poolTokens (poolText bytes))[2]? = some tok →
    HoldsText r.2.username tok
  passwd : r.1 = true → ∀ tok, (poolTokens (poolText bytes))[3]? = some tok →
    HoldsText r.2.passwd tok
  kept : r.1 = false → r.2 = user

/-- The answer fits the buffer with a zero; and if it is one, the third and the fourth token fit their
arrays, and there are not just three. -/
structure PoolFits (bytes : List UInt8) : Prop where
  zero : bytes.length < 512 ∨ 0 ∈ bytes.take 512
  fits : IsAnswer bytes → ∀ i tok, i = 2 ∨ i = 3 → (poolTokens (poolText bytes))[i]? = some tok →
    tok.length < 256
  enough : IsAnswer bytes → (poolTokens (poolText bytes)).length ≠ 3

/-! ## Tokens -/

theorem strcpy_ok {a : Chars 256} {tok : List UInt8} (hzero : 0 ∉ tok) (h : tok.length < 256) :
    ∃ a', strcpy a tok = .ok a' ∧ HoldsText a' tok := by
  have hfits : (tok ++ [0]).length ≤ 256 := by
    rw [List.length_append, List.length_singleton]
    omega
  exact ⟨_, dif_pos hfits, a.text_put hzero hfits⟩

/-- Nothing is done with the tokens behind the fourth. -/
theorem copyToken_rest (rest : List (List UInt8)) {k : Nat} (hk : 4 ≤ k) (user : PoolUser) :
    rest.foldlM copyToken (k, user) = .ok (k + rest.length, user) := by
  induction rest generalizing k with
  | nil => rfl
  | cons tok rest ih =>
    have hstep : copyToken (k, user) tok = .ok (k + 1, user) := by
      show (if k + 1 = 3 then _ else if k + 1 = 4 then _ else _) = _
      rw [if_neg (by omega), if_neg (by omega)]
      rfl
    rw [List.foldlM_cons, hstep, Run.ok_bind, ih (by omega), List.length_cons]
    congr 2
    omega

/-- What the loop leaves. -/
theorem copyTokens_spec {toks : List (List UInt8)} (user : PoolUser) (hzero : ∀ tok ∈ toks, 0 ∉ tok)
    (hfits : ∀ i tok, i = 2 ∨ i = 3 → toks[i]? = some tok → tok.length < 256) :
    ∃ user', toks.foldlM copyToken (0, user) = .ok (toks.length, user') ∧
      (toks.length ≤ 2 → user' = user) ∧
      (∀ tok, toks[2]? = some tok → HoldsText user'.username tok) ∧
      (∀ tok, toks[3]? = some tok → HoldsText user'.passwd tok) := by
  match toks with
  | [] => exact ⟨user, rfl, fun _ => rfl, fun _ h => (nomatch h), fun _ h => (nomatch h)⟩
  | [a] => exact ⟨user, rfl, fun _ => rfl, fun _ h => (nomatch h), fun _ h => (nomatch h)⟩
  | [a, b] => exact ⟨user, rfl, fun _ => rfl, fun _ h => (nomatch h), fun _ h => (nomatch h)⟩
  | [a, b, c] =>
    obtain ⟨username, hcopy, hholds⟩ :=
      strcpy_ok (a := user.username) (hzero c (by simp)) (hfits 2 c (.inl rfl) rfl)
    refine ⟨{ user with username := username }, ?_, fun hle => ?_, ?_, fun _ h => (nomatch h)⟩
    · show (strcpy user.username c >>= _) >>= _ = _
      rw [hcopy]
      rfl
    · exact absurd hle (by simp)
    · rintro tok htok
      cases htok
      exact hholds
  | a :: b :: c :: d :: rest =>
    obtain ⟨username, hcopy, hholds⟩ :=
      strcpy_ok (a := user.username) (hzero c (by simp)) (hfits 2 c (.inl rfl) rfl)
    obtain ⟨passwd, hcopy', hholds'⟩ :=
      strcpy_ok (a := user.passwd) (hzero d (by simp)) (hfits 3 d (.inr rfl) rfl)
    refine ⟨⟨username, passwd⟩, ?_, fun hle => ?_, ?_, ?_⟩
    · have hrest := copyToken_rest rest (Nat.le_refl 4) ⟨username, passwd⟩
      show (strcpy user.username c >>= _) >>= _ = _
      rw [hcopy]
      show (strcpy user.passwd d >>= _) >>= _ = _
      rw [hcopy']
      show rest.foldlM copyToken (4, ⟨username, passwd⟩) = _
      rw [hrest]
      congr 2
      simp only [List.length_cons]
      omega
    · simp at hle
    · rintro tok htok
      cases htok
      exact hholds
    · rintro tok htok
      cases htok
      exact hholds'

theorem zero_notMem_poolTokens (bytes : List UInt8) :
    ∀ tok ∈ poolTokens (poolText bytes), 0 ∉ tok := by
  intro tok htok hmem
  exact zero_notMem_text _ ((mem_tokens htok).subset hmem)

theorem cString_poolBuff {bytes : List UInt8} (h : bytes.length < 512 ∨ 0 ∈ bytes.take 512) :
    cString (poolBuff bytes) = .ok ⟨poolText bytes, zero_notMem_text _⟩ := by
  have hterminated : Terminated (poolBuff bytes) := by
    unfold Terminated poolBuff
    rw [List.mem_append, List.mem_replicate, List.length_take]
    rcases h with hlt | hmem
    · refine .inr ⟨?_, rfl⟩
      omega
    · exact .inl hmem
  unfold cString
  rw [if_pos hterminated]
  simp only [poolBuff, text_append_replicate]
  rfl

/-- **An answer of the pool** that fits succeeds just if it begins as one and has four tokens; then the
arrays hold the third and the fourth, and otherwise they are as before. -/
theorem pool_right (user : PoolUser) (bytes : List UInt8) (h : PoolFits bytes) :
    ∃ r, getUserInfoFromPool user (.datagram bytes) = .ok r ∧ PoolRight user bytes r := by
  unfold getUserInfoFromPool
  dsimp only
  by_cases hempty : bytes = []
  · subst hempty
    refine ⟨_, if_pos rfl, ?_, fun htrue => (nomatch htrue), fun htrue => (nomatch htrue), fun _ => rfl⟩
    have hnot : ¬ IsAnswer [] := by decide
    exact iff_of_false Bool.false_ne_true fun hall => hnot hall.1
  rw [if_neg hempty, cString_poolBuff h.zero, Run.ok_bind]
  dsimp only
  by_cases hanswer : IsAnswer bytes
  · obtain ⟨user', hloop, hkept, husername, hpasswd⟩ :=
      copyTokens_spec user (zero_notMem_poolTokens bytes) (h.fits hanswer)
    rw [if_pos (show ansUser <+: poolText bytes from hanswer), hloop]
    refine ⟨_, rfl, ?_, fun _ => husername, fun _ => hpasswd, fun hfalse => hkept ?_⟩
    · simp [hanswer]
    · have henough := h.enough hanswer
      have hless : ¬ 4 ≤ (poolTokens (poolText bytes)).length := of_decide_eq_false hfalse
      omega
  · rw [if_neg (show ¬ ansUser <+: poolText bytes from hanswer)]
    refine ⟨_, rfl, ?_, fun htrue => (nomatch htrue), fun htrue => (nomatch htrue), fun _ => rfl⟩
    exact iff_of_false Bool.false_ne_true fun hall => hanswer hall.1

/-- An answer with a name and a password. -/
def poolLine : List UInt8 := ofString "$ANS USER bob secret"

theorem poolLine_fits : PoolFits poolLine := by
  constructor
  · exact .inl (by decide)
  · intro _ i tok _ htok
    have hle : tok.length ≤ (poolText poolLine).length :=
      (mem_tokens (List.mem_of_getElem? htok)).length_le
    exact Nat.lt_of_le_of_lt hle (by decide)
  · intro _
    rw [poolTokens, tokens_eq]
    decide

theorem pool_right_line : PoolFits poolLine ∧
    ∃ r, getUserInfoFromPool ⟨.zero 256, .zero 256⟩ (.datagram poolLine) = .ok r ∧
      PoolRight ⟨.zero 256, .zero 256⟩ poolLine r :=
  ⟨poolLine_fits, pool_right ⟨.zero 256, .zero 256⟩ poolLine poolLine_fits⟩

/-- Four tokens are not enough: the answer has to begin as one. -/
theorem four_tokens_rejected :
    getUserInfoFromPool ⟨.zero 256, .zero 256⟩ (.datagram (ofString "a b c d")) =
        .ok (false, ⟨.zero 256, .zero 256⟩) ∧
      4 ≤ (poolTokens (poolText (ofString "a b c d"))).length := by
  refine ⟨?_, ?_⟩
  · rfl
  · rw [poolTokens, tokens_eq]
    decide

end Xrdp.Myxrdp
