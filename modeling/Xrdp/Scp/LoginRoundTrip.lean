import Xrdp.Lib.Ensures
import Xrdp.Scp.ScpV1

/-!
# What the server makes of a login

* `accept_plain` — whatever comes in, a session that is accepted is of few types, has no resource
  sharing and an IPv4 address, and its strings are short.
* `Plain` — a login that is no more than that.
* `accept_connect` — the message of a plain login is accepted as what it is.
* `scp_login_iff` — the session of the server is what was asked for just if the login is plain.
-/

namespace Xrdp.Scp

open Wire StateTRules

/-! ## Strings -/

theorem CString.ext {s t : CString} (h : s.chars = t.chars) : s = t := by
  cases s
  cases t
  cases h
  rfl

/-- A string is found in a buffer that goes on with a terminator or ends with it. -/
theorem CString.ofBuf_append (s : CString) (n : Nat) :
    CString.ofBuf (s.chars ++ List.replicate n 0) = s := by
  have hall : ∀ c ∈ s.chars, decide (c ≠ 0) = true := fun c hc =>
    decide_eq_true fun h => s.noNul (h ▸ hc)
  apply CString.ext
  change (s.chars ++ List.replicate n 0).takeWhile (· ≠ 0) = s.chars
  rw [List.takeWhile_append_of_pos hall]
  cases n with
  | zero => simp
  | succ n => simp [List.replicate_succ]

theorem CString.ofBuf_chars (s : CString) : CString.ofBuf s.chars = s := by
  have h := s.ofBuf_append 0
  rwa [List.replicate_zero, List.append_nil] at h

theorem CString.ofBuf_length_le (buf : List UInt8) :
    (CString.ofBuf buf).chars.length ≤ buf.length :=
  List.Sublist.length_le (List.takeWhile_sublist _)

/-- A locale as it is in the session: cut off if it is too long. -/
theorem ofBuf_gStrncpy_length (s : CString) : (CString.ofBuf (gStrncpy s 17)).chars.length ≤ 17 := by
  change ((s.chars.take 17 ++ List.replicate (17 - s.chars.length) 0 ++ [0]).takeWhile
    (· ≠ 0)).length ≤ 17
  have hlen : (s.chars.take 17 ++ List.replicate (17 - s.chars.length) (0 : UInt8)).length = 17 := by
    simp
    omega
  have hcut : ∀ bs : List UInt8, bs.length = 17 →
      ((bs ++ [0]).takeWhile (· ≠ 0)).length ≤ 17 := by
    intro bs hbs
    rw [List.takeWhile_append]
    split
    · simp [hbs]
    · exact hbs ▸ List.Sublist.length_le (List.takeWhile_sublist _)
  exact hcut _ hlen

/-- What is sent of a locale that fits. -/
theorem gStrncpy_take {s : CString} (h : s.chars.length ≤ 17) :
    (gStrncpy s 17).take 17 = s.chars ++ List.replicate (17 - s.chars.length) 0 := by
  rw [gStrncpy, List.take_of_length_le h]
  refine List.take_left' ?_
  simp
  omega

theorem ofBuf_gStrncpy {s : CString} (h : s.chars.length ≤ 17) :
    CString.ofBuf (gStrncpy s 17) = s := by
  have hzeros : gStrncpy s 17 = s.chars ++ List.replicate (17 - s.chars.length + 1) 0 := by
    rw [gStrncpy, List.take_of_length_le h, List.append_assoc, List.replicate_succ']
  rw [hzeros]
  exact s.ofBuf_append _

/-! ## Whatever comes in -/

/-- What a session that is accepted is like before its strings are read. -/
structure ScpSession.Begun (s : ScpSession) : Prop where
  type : s.type = SCP_SESSION_TYPE_XVNC ∨ s.type = SCP_SESSION_TYPE_XRDP
  rsr : s.rsr = 0
  locale : (CString.ofBuf s.locale).chars.length ≤ 17
  addrType : s.addrType = SCP_ADDRESS_TYPE_IPV4

/-- What any session that is accepted is like. -/
structure ScpSession.Plain (s : ScpSession) : Prop extends s.Begun where
  hostname : (charsOf s.hostname).length ≤ 255
  username : (charsOf s.username).length ≤ 255
  password : (charsOf s.password).length ≤ 255

/-- A session that is accepted is plain. -/
def OkPlain (state : ScpServerState) : Prop := ∀ s, state = .ok s → s.Plain

theorem rdOf_ensures {α : Type} {get : List UInt8 → Option (α × List UInt8)} {P : α → Prop}
    (h : ∀ s a s', get s = some (a, s') → P a) : Ensures (rdOf get) P := by
  intro s a s' hr
  unfold rdOf at hr
  split at hr
  · cases hr
  · rename_i hget
    cases hr
    exact h s a s' hget

theorem inUint8a_ensures (n : Nat) : Ensures (inUint8a n) fun buf => buf.length = n := by
  refine rdOf_ensures fun s a s' h => ?_
  unfold getBytes at h
  split at h
  · rename_i hle
    cases h
    exact List.length_take_of_le hle
  · cases h

theorem readString_ensures : Ensures readString fun s => s.chars.length ≤ 255 := by
  refine Ensures.bind_any fun sz => ?_
  refine Ensures.bind (inUint8a_ensures sz.toNat) fun buf hbuf => ?_
  refine Ensures.pure ?_
  have hle := CString.ofBuf_length_le buf
  have hsz := sz.toNat_lt
  omega

theorem readCredentials_ensures {session : ScpSession} (h : session.Begun) :
    Ensures (readCredentials session) OkPlain := by
  unfold readCredentials
  refine Ensures.bind readString_ensures fun hostname hhost => ?_
  refine Ensures.bind readString_ensures fun username huser => ?_
  refine Ensures.bind readString_ensures fun password hpass => ?_
  refine Ensures.pure fun s hs => ?_
  cases hs
  exact ⟨⟨h.type, h.rsr, h.locale, h.addrType⟩, hhost, huser, hpass⟩

theorem readAddr_ensures {session : ScpSession} (h : session.Begun) :
    Ensures (readAddr session) ScpSession.Begun := by
  have hset : ∀ addr, (scpSessionSetAddr session addr).Begun := by
    intro addr
    cases addr with
    | ipv4 addr => exact ⟨h.type, h.rsr, h.locale, h.addrType⟩
    | ipv6 addr => exact ⟨h.type, h.rsr, h.locale, h.addrType⟩
  unfold readAddr
  refine Ensures.bind_any fun sz => ?_
  apply Ensures.ite
  · intro _
    exact Ensures.bind_any fun addr => Ensures.pure (hset _)
  · intro _
    apply Ensures.ite
    · intro _
      refine Ensures.bind_any fun buf => ?_
      split
      · exact Ensures.pure (hset _)
      · exact Ensures.pure h
    · intro _
      exact Ensures.pure h

theorem readLogin_ensures {session : ScpSession} (h : session.Begun) :
    Ensures (readLogin session) OkPlain := by
  unfold readLogin
  refine Ensures.bind_any fun height => ?_
  refine Ensures.bind_any fun width => ?_
  refine Ensures.bind_any fun bpp => ?_
  split
  · exact Ensures.pure fun s hs => by cases hs
  · rename_i session' hbpp
    have hbegun : session'.Begun := by
      unfold scpSessionSetBpp at hbpp
      split at hbpp
      · cases hbpp
        exact ⟨h.type, h.rsr, h.locale, h.addrType⟩
      · cases hbpp
    refine Ensures.bind_any fun rsr => ?_
    refine Ensures.bind_any fun buf => ?_
    refine Ensures.bind (readAddr_ensures ?_) fun _ hs => readCredentials_ensures hs
    have hrsr : (scpSessionSetRsr session' rsr).rsr = 0 := if_neg (not_not.2 hbegun.rsr)
    exact ⟨hbegun.type, hrsr, ofBuf_gStrncpy_length _, hbegun.addrType⟩

theorem readSession_ensures : Ensures readSession OkPlain := by
  unfold readSession
  refine Ensures.bind_any fun sz => ?_
  apply Ensures.ite
  · intro _
    exact Ensures.pure fun s hs => by cases hs
  · intro hsz
    have htype : sz = SCP_SESSION_TYPE_XVNC ∨ sz = SCP_SESSION_TYPE_XRDP := by
      by_contra hno
      exact hsz (not_or.1 hno)
    apply readLogin_ensures
    rcases htype with rfl | rfl
    · exact ⟨.inl rfl, rfl, by decide, rfl⟩
    · exact ⟨.inr rfl, rfl, by decide, rfl⟩

theorem readCommand_ensures : Ensures readCommand OkPlain := by
  unfold readCommand
  refine Ensures.bind_any fun cmdset => ?_
  apply Ensures.ite
  · intro _
    exact Ensures.pure fun s hs => by cases hs
  · intro _
    apply Ensures.ite
    · intro _
      exact Ensures.pure fun s hs => by cases hs
    · intro _
      refine Ensures.bind_any fun cmd => ?_
      apply Ensures.ite
      · intro _
        exact Ensures.pure fun s hs => by cases hs
      · intro _
        exact readSession_ensures

/-- **Whatever comes in**, a session that is accepted is plain. -/
theorem accept_plain {inS : Stream 8192} {sck : List UInt8} {s : ScpSession}
    (h : scpVXsAccept inS sck = .ok (.ok s)) : s.Plain := by
  unfold scpVXsAccept at h
  obtain ⟨received, -, h⟩ := Run.bind_eq_ok.1 h
  cases received with
  | none => cases h
  | some r =>
    obtain ⟨data, sck'⟩ := r
    obtain ⟨⟨version, p⟩, -, h⟩ := Run.bind_eq_ok.1 h
    dsimp only at h
    split at h
    · cases h
    split at h
    · unfold scpV1sAccept at h
      obtain ⟨⟨size, p'⟩, -, h⟩ := Run.bind_eq_ok.1 h
      dsimp only at h
      split at h
      · cases h
      obtain ⟨received, -, h⟩ := Run.bind_eq_ok.1 h
      cases received with
      | none => cases h
      | some r =>
        obtain ⟨data', rest⟩ := r
        obtain ⟨⟨state, s'⟩, hstate, h⟩ := Run.bind_eq_ok.1 h
        cases h
        exact readCommand_ensures _ _ _ hstate s rfl
    · cases h

/-! ## Readers on what is written -/

section

variable (rest : List UInt8)

theorem inUint8_cons (b : UInt8) : inUint8 (b :: rest) = .ok (b, rest) := by
  simp [inUint8, rdOf, getLe]

theorem inUint16Be_append (v : UInt16) :
    inUint16Be (beBytes 2 v.toNat ++ rest) = .ok (v, rest) := by
  have hmod : v.toNat % 256 ^ 2 = v.toNat := Nat.mod_eq_of_lt v.toNat_lt
  simp only [inUint16Be, rdOf, getBe_beBytes, hmod, Option.map_some, UInt16.ofNat_toNat]

theorem inUint32Be_append (v : UInt32) :
    inUint32Be (beBytes 4 v.toNat ++ rest) = .ok (v, rest) := by
  have hmod : v.toNat % 256 ^ 4 = v.toNat := Nat.mod_eq_of_lt v.toNat_lt
  simp only [inUint32Be, rdOf, getBe_beBytes, hmod, Option.map_some, UInt32.ofNat_toNat]

theorem inUint8a_append {bs : List UInt8} {n : Nat} (h : bs.length = n) :
    inUint8a n (bs ++ rest) = .ok (bs, rest) := by
  simp only [inUint8a, rdOf, getBytes_append h]

/-- The length of a string of C that is not too long for an `int`. -/
theorem gStrlen_eq {s : CString} (h : s.chars.length ≤ 255) :
    gStrlen (some s) = s.chars.length := by
  unfold gStrlen int
  dsimp only
  rw [Int.bmod_eq_of_le] <;> omega

theorem outString_eq {s : CString} (h : s.chars.length ≤ 255) :
    outString (some s) = UInt8.ofNat s.chars.length :: s.chars := by
  have hsz : (gStrlen (some s) % 256).toNat = s.chars.length := by
    rw [gStrlen_eq h]
    omega
  unfold outString
  dsimp only
  rw [hsz]
  exact congrArg _ (List.take_length ..)

theorem readString_outString {s : CString} (h : s.chars.length ≤ 255) :
    readString (outString (some s) ++ rest) = .ok (s, rest) := by
  have hsz : s.chars.length = (UInt8.ofNat s.chars.length).toNat := by
    rw [UInt8.toNat_ofNat']
    omega
  rw [outString_eq h, List.cons_append, readString, bind_ok (inUint8_cons _ _),
    bind_ok (inUint8a_append rest hsz), s.ofBuf_chars]
  rfl

end

/-! ## Plain logins -/

/-- A login that the message and the server can carry: a type that the server knows, no resource
sharing, a locale that fits its field, an IPv4 address, and strings with lengths of one byte. -/
structure Login.Plain (l : Login) : Prop where
  type : l.type = SCP_SESSION_TYPE_XVNC ∨ l.type = SCP_SESSION_TYPE_XRDP
  rsr : l.rsr = 0
  locale : l.locale.chars.length ≤ 17
  addr : ∃ addr, l.addr = .ipv4 addr
  hostname : l.hostname.chars.length ≤ 255
  username : l.username.chars.length ≤ 255
  password : l.password.chars.length ≤ 255

section

variable {l : Login} {s : ScpSession}

/-- A session that was asked for is plain only if the login is. -/
theorem Login.plain_of_is (hs : s.Plain) (h : s.Is l) : l.Plain := by
  constructor
  · exact h.type ▸ hs.type
  · by_contra hne
    exact h.rsr.2 hne hs.rsr
  · exact h.locale ▸ hs.locale
  · have haddr := h.addr
    cases hl : l.addr with
    | ipv4 addr => exact ⟨addr, rfl⟩
    | ipv6 addr =>
      rw [hl] at haddr
      have htype : s.addrType = SCP_ADDRESS_TYPE_IPV6 := haddr.1
      rw [hs.addrType] at htype
      cases htype
  · have hlen := hs.hostname
    rwa [h.hostname] at hlen
  · have hlen := hs.username
    rwa [h.username] at hlen
  · have hlen := hs.password
    rwa [h.password] at hlen

/-- The depths that the setter accepts. -/
def bppOk (bpp : UInt8) : Prop := bpp = 8 ∨ bpp = 15 ∨ bpp = 16 ∨ bpp = 24 ∨ bpp = 32

/-- What the client has in its session for a plain login. -/
def Login.session (l : Login) (addr : UInt32) : ScpSession :=
  { scpSessionCreate with
    type := l.type
    version := 1
    height := l.height
    width := l.width
    bpp := l.bpp
    locale := gStrncpy l.locale 17
    ipv4addr := addr
    hostname := some l.hostname
    username := some l.username
    password := some l.password }

theorem toSession_eq (h : l.toSession = some s) (hl : l.Plain) {addr : UInt32}
    (haddr : l.addr = .ipv4 addr) : bppOk l.bpp ∧ s = l.session addr := by
  have htype : scpSessionSetType scpSessionCreate l.type =
      some { scpSessionCreate with type := l.type } :=
    if_pos (hl.type.elim .inl (.inr ∘ .inl))
  unfold Login.toSession at h
  rw [htype, haddr] at h
  by_cases hbpp : bppOk l.bpp
  · refine ⟨hbpp, ?_⟩
    have hset : ∀ s, scpSessionSetBpp s l.bpp = some { s with bpp := l.bpp } := fun s => if_pos hbpp
    simp only [Option.bind_eq_bind, Option.bind_some, scpSessionSetVersion, hset, or_true,
      if_true, Option.some.injEq] at h
    exact h.symm
  · have hset : ∀ s, scpSessionSetBpp s l.bpp = none := fun s => if_neg hbpp
    simp [scpSessionSetVersion, hset] at h

/-- The message of a plain login. -/
theorem connectBody_session (addr : UInt32) : connectBody (l.session addr) =
    l.type :: (beBytes 2 l.height.toNat ++ (beBytes 2 l.width.toNat ++ (l.bpp :: 0 ::
      ((gStrncpy l.locale 17).take 17 ++ (SCP_ADDRESS_TYPE_IPV4 :: (beBytes 4 addr.toNat ++
        (outString (some l.hostname) ++ (outString (some l.username) ++
          outString (some l.password))))))))) := by
  unfold connectBody
  simp only [List.append_assoc]
  rfl

theorem gStrncpy_take_length (str : CString) : ((gStrncpy str 17).take 17).length = 17 := by
  simp [gStrncpy]
  omega

theorem readAddr_ipv4 (session : ScpSession) (addr : UInt32) (rest : List UInt8) :
    readAddr session (SCP_ADDRESS_TYPE_IPV4 :: (beBytes 4 addr.toNat ++ rest)) =
      .ok (scpSessionSetAddr session (.ipv4 addr), rest) := by
  unfold readAddr
  rw [bind_ok (inUint8_cons _ _), if_pos rfl, bind_ok (inUint32Be_append _ _)]
  rfl

theorem readCredentials_out (session : ScpSession) (hl : l.Plain) (rest : List UInt8) :
    readCredentials session (outString (some l.hostname) ++ (outString (some l.username) ++
      (outString (some l.password) ++ rest))) =
      .ok (.ok (scpSessionSetPassword (scpSessionSetUsername (scpSessionSetHostname session
        l.hostname) l.username) l.password), rest) := by
  unfold readCredentials
  rw [bind_ok (readString_outString _ hl.hostname), bind_ok (readString_outString _ hl.username),
    bind_ok (readString_outString _ hl.password)]
  rfl

/-- **The server reads a plain login** as what it is. -/
theorem readSession_session (hl : l.Plain) (hbpp : bppOk l.bpp) {addr : UInt32}
    (haddr : l.addr = .ipv4 addr) (rest : List UInt8) : ∃ s',
      readSession (connectBody (l.session addr) ++ rest) = .ok (.ok s', rest) ∧ s'.Is l := by
  have htype : ¬ (l.type ≠ SCP_SESSION_TYPE_XVNC ∧ l.type ≠ SCP_SESSION_TYPE_XRDP) := by
    rintro ⟨hne, hne'⟩
    exact hl.type.elim hne hne'
  have hsetType : ∀ s, scpSessionSetType s l.type = some { s with type := l.type } :=
    fun s => if_pos (hl.type.elim .inl (.inr ∘ .inl))
  have hsetBpp : ∀ s, scpSessionSetBpp s l.bpp = some { s with bpp := l.bpp } := fun s => if_pos hbpp
  rw [connectBody_session]
  simp only [List.cons_append, List.append_assoc]
  unfold readSession
  rw [bind_ok (inUint8_cons _ _), if_neg htype, hsetType]
  unfold readLogin
  rw [Option.getD_some, bind_ok (inUint16Be_append _ _), bind_ok (inUint16Be_append _ _),
    bind_ok (inUint8_cons _ _), hsetBpp]
  dsimp only
  rw [bind_ok (inUint8_cons _ _), bind_ok (inUint8a_append _ (gStrncpy_take_length _))]
  rw [bind_ok (readAddr_ipv4 _ _ _), readCredentials_out _ hl]
  refine ⟨_, rfl, ?_⟩
  have hlocale : CString.ofBuf ((gStrncpy l.locale 17).take 17) = l.locale := by
    rw [gStrncpy_take hl.locale, CString.ofBuf_append]
  constructor
  · rfl
  · rfl
  · rfl
  · rfl
  · exact iff_of_false (not_not.2 rfl) (not_not.2 hl.rsr)
  · change CString.ofBuf (gStrncpy (CString.ofBuf ((gStrncpy l.locale 17).take 17)) 17) = l.locale
    rw [hlocale, ofBuf_gStrncpy hl.locale]
  · rw [haddr]
    exact ⟨rfl, rfl⟩
  · rfl
  · rfl
  · rfl

/-! ## The message on its way -/

theorem outString_length {s : CString} (h : s.chars.length ≤ 255) :
    (outString (some s)).length = s.chars.length + 1 := by
  rw [outString_eq h, List.length_cons]

theorem connectSize_session (hl : l.Plain) (addr : UInt32) : connectSize (l.session addr) =
    44 + l.hostname.chars.length + l.username.chars.length + l.password.chars.length := by
  have hhost := hl.hostname
  have huser := hl.username
  have hpass := hl.password
  have hsize : connectSize (l.session addr) = ((19 + 17 + 4 + gStrlen (some l.hostname) +
    gStrlen (some l.username) + gStrlen (some l.password) + 4) % 2 ^ 32).toNat := rfl
  rw [hsize, gStrlen_eq hhost, gStrlen_eq huser, gStrlen_eq hpass]
  omega

/-- The size that is sent along is the size of the message. -/
theorem connectMessage_length (hl : l.Plain) (addr : UInt32) :
    (connectMessage (l.session addr)).length = connectSize (l.session addr) := by
  rw [connectSize_session hl, connectMessage, connectBody_session]
  simp only [List.length_append, List.length_cons, beBytes_length, gStrncpy_take_length,
    outString_length hl.hostname, outString_length hl.username, outString_length hl.password]
  omega

theorem connectSize_lt (hl : l.Plain) (addr : UInt32) : connectSize (l.session addr) ≤ 809 := by
  have hhost := hl.hostname
  have huser := hl.username
  have hpass := hl.password
  rw [connectSize_session hl]
  omega

theorem int_of_small {n : Nat} (h : n < 2 ^ 31) : int n = n := by
  unfold int
  rw [Int.bmod_eq_of_le] <;> omega

theorem int_of_wrapped {n : Nat} (h : 2 ^ 31 ≤ n) (hlt : n < 2 ^ 32) : int n = n - 4294967296 := by
  have hsize : ((2 ^ 32 : Nat) : Int) = 4294967296 := by norm_num
  rw [int, Int.bmod_def, hsize, Int.emod_eq_of_lt (by omega) (by omega), if_neg (by omega)]

theorem int_le (n : Nat) : int n ≤ n := by
  have hsize : ((2 ^ 32 : Nat) : Int) = 4294967296 := by norm_num
  rw [int, Int.bmod_def, hsize]
  split <;> omega

/-- The whole message goes out. -/
theorem connect_session (outS : Stream 8196) (hl : l.Plain) (addr : UInt32) :
    scpV1cConnect outS (l.session addr) = .ok (connectMessage (l.session addr)) := by
  have hlen := connectMessage_length hl addr
  have hlt := connectSize_lt hl addr
  have hdata := outS.data_length
  have hput : putBytes outS.data (connectMessage (l.session addr)) =
      .ok (connectMessage (l.session addr) ++
        outS.data.drop (connectMessage (l.session addr)).length) := if_pos (by omega)
  rw [scpV1cConnect, hput, Run.ok_bind, int_of_small (by omega), scpTcpForceSend, if_pos]
  · rw [Int.toNat_natCast, ← hlen, List.take_left]
  · rw [List.length_append, hlen]
    omega

/-- What is received whole is in front of the stream. -/
theorem scpTcpForceRecv_append {bytes rest data : List UInt8} {n : Nat} (hn : bytes.length = n)
    (hle : n ≤ data.length) : scpTcpForceRecv (bytes ++ rest) data n =
      .ok (some (bytes ++ data.drop n, rest)) := by
  have hlen : (bytes ++ rest).length = n + rest.length := by rw [List.length_append, hn]
  unfold scpTcpForceRecv
  dsimp only
  rw [Int.toNat_natCast, if_neg (by omega), if_neg (by omega), List.take_left' hn, List.drop_left' hn]

/-- **A plain login is accepted as what it is.** -/
theorem accept_connect (inS : Stream 8192) (hl : l.Plain) (hbpp : bppOk l.bpp) {addr : UInt32}
    (haddr : l.addr = .ipv4 addr) :
    ∃ s', scpVXsAccept inS (connectMessage (l.session addr)) = .ok (.ok s') ∧ s'.Is l := by
  have hlen := connectMessage_length hl addr
  have hlt := connectSize_lt hl addr
  have hge := connectSize_session hl addr
  have hdata := inS.data_length
  have hsize : (UInt32.ofNat (connectSize (l.session addr))).toNat = connectSize (l.session addr) :=
    UInt32.toNat_ofNat_of_lt' (by unfold UInt32.size; omega)
  -- the version and the size, then the rest
  have hmessage : connectMessage (l.session addr) =
      (beBytes 4 (1 : UInt32).toNat ++ beBytes 4 (UInt32.ofNat (connectSize (l.session addr))).toNat) ++
        (beBytes 2 (0 : UInt16).toNat ++ (beBytes 2 (1 : UInt16).toNat ++
          connectBody (l.session addr))) := by
    rw [hsize, connectMessage]
    simp only [List.append_assoc]
    rfl
  generalize hpayload : beBytes 2 (0 : UInt16).toNat ++ (beBytes 2 (1 : UInt16).toNat ++
    connectBody (l.session addr)) = payload at hmessage
  have hpayloadLen : payload.length = connectSize (l.session addr) - 8 := by
    rw [hmessage] at hlen
    simp only [List.length_append, beBytes_length] at hlen
    omega
  -- what the stream holds after the first eight bytes, and after the rest
  have hfirst : scpTcpForceRecv (connectMessage (l.session addr)) inS.data 8 =
      .ok (some (beBytes 4 (1 : UInt32).toNat ++
        (beBytes 4 (UInt32.ofNat (connectSize (l.session addr))).toNat ++ inS.data.drop 8),
        payload)) := by
    have hroom : 8 ≤ inS.data.length := by omega
    rw [hmessage, ← List.append_assoc]
    exact scpTcpForceRecv_append (by simp) hroom
  generalize hdata' : beBytes 4 (1 : UInt32).toNat ++
    (beBytes 4 (UInt32.ofNat (connectSize (l.session addr))).toNat ++ inS.data.drop 8) = data
    at hfirst
  have hdataLen : data.length = 8192 := by
    rw [← hdata']
    simp only [List.length_append, beBytes_length, List.length_drop]
    omega
  have hsecond := @scpTcpForceRecv_append payload [] data _ hpayloadLen (by omega)
  rw [List.append_nil] at hsecond
  obtain ⟨s', hread, his⟩ := readSession_session hl hbpp haddr
    (data.drop (connectSize (l.session addr) - 8))
  refine ⟨s', ?_, his⟩
  unfold scpVXsAccept
  rw [hfirst, Run.ok_bind]
  dsimp only
  rw [← hdata', inUint32Be_append, Run.ok_bind, hdata']
  dsimp only
  rw [if_neg (by decide), if_pos rfl]
  unfold scpV1sAccept
  rw [inUint32Be_append, Run.ok_bind]
  dsimp only
  have hrest : (connectSize (l.session addr) : Int) - 8 =
      (connectSize (l.session addr) - 8 : Nat) := by omega
  rw [hsize, if_neg (by omega), hrest, int_of_small (by omega), hsecond, Run.ok_bind]
  dsimp only
  have hcommand : readCommand (payload ++ data.drop (connectSize (l.session addr) - 8)) =
      .ok (.ok s', data.drop (connectSize (l.session addr) - 8)) := by
    rw [← hpayload, readCommand]
    simp only [List.append_assoc]
    rw [bind_ok (inUint16Be_append _ _), if_neg (by decide), if_neg (by decide),
      bind_ok (inUint16Be_append _ _), if_neg (by decide), hread]
  rw [hcommand, Run.ok_bind, Run.pure_eq]

end

/-! ## The whole -/

/-- The server has the session that was asked for. -/
def RoundTrip (outS : Stream 8196) (inS : Stream 8192) (l : Login) (s : ScpSession) : Prop :=
  ∃ message s', scpV1cConnect outS s = .ok message ∧
    scpVXsAccept inS message = .ok (.ok s') ∧ s'.Is l

/-- **A login makes its way to the server** just if it is plain, whatever the streams held before:
its type is one that the server knows, it asks for no resource sharing, its locale fits, its address
is an IPv4 address, and no string has more than 255 characters. -/
theorem scp_login_iff (outS : Stream 8196) (inS : Stream 8192) {l : Login} {s : ScpSession}
    (h : l.toSession = some s) : RoundTrip outS inS l s ↔ l.Plain := by
  constructor
  · rintro ⟨message, s', -, haccept, his⟩
    exact Login.plain_of_is (accept_plain haccept) his
  · intro hl
    obtain ⟨addr, haddr⟩ := hl.addr
    obtain ⟨hbpp, rfl⟩ := toSession_eq h hl haddr
    obtain ⟨s', haccept, his⟩ := accept_connect inS hl hbpp haddr
    exact ⟨_, s', connect_session outS hl addr, haccept, his⟩

/-- A login with resource sharing or without. -/
def loginWith (rsr : UInt8) : Login where
  type := SCP_SESSION_TYPE_XVNC
  height := 600
  width := 800
  bpp := 16
  rsr
  locale := ⟨[0x69, 0x74], by decide⟩
  addr := .ipv4 0x7f000001
  hostname := ⟨[0x6f, 0x64, 0x69, 0x6e], by decide⟩
  username := ⟨[0x70], by decide⟩
  password := ⟨[0x71], by decide⟩

/-- Streams of zeros. -/
def zeroStream (size : Nat) : Stream size := ⟨List.replicate size 0, List.length_replicate⟩

theorem scp_login_plain : RoundTrip (zeroStream 8196) (zeroStream 8192) (loginWith 0)
    ((loginWith 0).session 0x7f000001) := by
  refine (scp_login_iff _ _ rfl).2 ⟨.inl rfl, rfl, by decide, ⟨_, rfl⟩, ?_, ?_, ?_⟩ <;> decide

/-- Resource sharing is asked for, and the setter does not look. -/
theorem scp_login_rsr : ¬ ∀ (outS : Stream 8196) (inS : Stream 8192) (l : Login) (s : ScpSession),
    l.toSession = some s → RoundTrip outS inS l s := by
  intro h
  obtain ⟨message, s', -, haccept, his⟩ :=
    h (zeroStream 8196) (zeroStream 8192) (loginWith 1) ((loginWith 1).session 0x7f000001) rfl
  exact his.rsr.2 (by decide) (accept_plain haccept).rsr

end Xrdp.Scp
