import Xrdp.Recv.LogonInfo
import Xrdp.Recv.ProcessDataEnds

/-!
# The stream behind the security layer

`xrdp_sec_recv` and `xrdp_sec_recv_fastpath` with everything they read, and the sizes that the layers
above compute as `end - p`.  The padding of a FIPS packet is taken off the end as the packet says.

* `secRecv`, `rdpRecvSizes` — the layers.
* `secRecv_env` — with the logon packet, `secRecv` is `xrdpSecRecv`.
* `RecvRight` — what is promised of a packet.
* `recv_right_iff` — the packets for which it holds.
-/

namespace Xrdp.Recv

open Liberal

/-! ## The layers -/

/-- What the security layer knows: `client_info`, and the rest of the program. -/
structure SecLayer where
  env : Env
  clientInfo : ClientInfo
  wcstombs : Wcstombs

/-- `xrdp_sec_recv`, behind the decryption. -/
def secRecvFlags (sec : SecLayer) (chan flags : Nat) : In SecRecv :=
  if flags &&& SEC_CLIENT_RANDOM = 0 ∧ flags &&& SEC_LOGON_INFO ≠ 0 then do
    let info ← xrdpSecProcessLogonInfo sec.wcstombs sec.clientInfo
    if sec.env.licSent then return if info.isMce then .demandActive else .channel 1 else fail
  else xrdpSecRecvFlags sec.env chan flags

/-- `xrdp_sec_recv`, behind the header of MCS. -/
def secRecvHeader (sec : SecLayer) (chan : Nat) : In SecRecv := do
  checkRem 4
  if (← get).isSecurityHeaderPresent = false then return .channel chan
  else do
    let flags ← inUint32Le
    secDecrypt sec.env flags
    secRecvFlags sec chan flags

/-- `xrdp_sec_recv`. -/
def secRecv (sec : SecLayer) : In SecRecv := do
  let chan ← xrdpMcsRecv
  secRecvHeader sec chan

/-- What a size is computed for. -/
inductive Size where
  /-- `xrdp_channel_call_callback`. -/
  | callback (channelId : Int) (flags totalDataLen : Nat) (size : Int)
  /-- A piece for the stream of the dynamic channels. -/
  | drdynvc (size : Int)
  | dataFirst (chanId totalBytes : Nat) (bytes : Int)
  | data (chanId : Nat) (bytes : Int)
  /-- "bad RDP packet, length". -/
  | badPacket (len : Int)
  deriving DecidableEq, Repr

def Size.val : Size → Int
  | .callback _ _ _ size => size
  | .drdynvc size => size
  | .dataFirst _ _ bytes => bytes
  | .data _ bytes => bytes
  | .badPacket len => len

/-- `struct xrdp_channel`: whether each channel is disabled, the first byte that `self->s` is read
from, and whether the session has a callback. -/
structure ChannelLayer where
  disabled : List Bool
  drdynvcChannelId : Int
  cmd : Nat
  callback : Bool

/-- `end - p`. -/
def Session.rem (s : Session) : Int := s.end_ - s.p

/-- A field of a length code. -/
def inUint124 (code : Nat) : In Nat :=
  if code = 0 then do
    checkRem 1
    inUint8
  else if code = 1 then do
    checkRem 2
    inUint16Le
  else do
    checkRem 4
    inUint32Le

/-- `drdynvc_get_chan_id`. -/
def drdynvcGetChanId (cmd : Nat) : In Nat := inUint124 (cmd &&& 0x03)

/-- `drdynvc_process_data_first`. -/
def drdynvcProcessDataFirst (cmd : Nat) (s : Session) : List Size :=
  match (drdynvcGetChanId cmd >>= fun chanId =>
    inUint124 ((cmd / 4) &&& 0x03) >>= fun totalBytes => pure (chanId, totalBytes) : In _) s with
  | none => []
  | some ((chanId, totalBytes), s) => [.dataFirst chanId totalBytes s.rem]

/-- `drdynvc_process_data`. -/
def drdynvcProcessData (cmd : Nat) (s : Session) : List Size :=
  match drdynvcGetChanId cmd s with
  | none => []
  | some (chanId, s) => [.data chanId s.rem]

/-- The command of a PDU; the other commands need no size. -/
def drdynvcProcess (cmd : Nat) (s : Session) : List Size :=
  if cmd &&& 0xF0 = 0x20 then drdynvcProcessDataFirst cmd s
  else if cmd &&& 0xF0 = 0x30 then drdynvcProcessData cmd s
  else []

/-- `xrdp_channel_process_drdynvc`. -/
def xrdpChannelProcessDrdynvc (c : ChannelLayer) (s : Session) : List Size :=
  match (do checkRem 8; inUint8s 4; inUint32Le : In Nat) s with
  | none => []
  | some (flags, s) =>
    if flags &&& 3 = 3 then drdynvcProcess (s.byte 0) { s with p := s.p + 1 }
    -- the last piece: the command is read from what has been put together, the rest from `s`
    else if flags &&& 3 = 2 then
      .drdynvc s.rem :: drdynvcProcess c.cmd { s with p := s.p + s.rem.toNat }
    else [.drdynvc s.rem]

/-- `xrdp_channel_process` of a channel that is not disabled. -/
def xrdpChannelProcessEnabled (c : ChannelLayer) (channelId : Int) (s : Session) : List Size :=
  if channelId = c.drdynvcChannelId then xrdpChannelProcessDrdynvc c s
  else if c.callback then
    match (do let length ← inUint32Le; let flags ← inUint32Le; return (length, flags) : In _) s with
    | none => []
    | some ((length, flags), s) => [.callback channelId flags length s.rem]
  else []

/-- `xrdp_channel_get_item`. -/
def xrdpChannelGetItem (c : ChannelLayer) (channelId : Int) : Option Bool :=
  if channelId < 0 then none else c.disabled[channelId.toNat]?

/-- `xrdp_channel_process`. -/
def xrdpChannelProcess (c : ChannelLayer) (chanid : Nat) (s : Session) : List Size :=
  let channelId : Int := chanid - MCS_GLOBAL_CHANNEL - 1
  if xrdpChannelGetItem c channelId = some false then xrdpChannelProcessEnabled c channelId s else []

/-- The share-control header in `xrdp_rdp_recv`. -/
def shareControlSizes (s : Session) : List Size :=
  if (s.p + 6 : Int) ≤ s.end_ then [] else [.badPacket s.rem]

/-- `xrdp_rdp_recv`; with a fast-path packet it computes no size, and neither does
`xrdp_fastpath_process_input_event`. -/
def rdpRecvSizes (sec : SecLayer) (c : ChannelLayer) (s : Session) : List Size :=
  match s.inPacket with
  | some np => shareControlSizes { s with p := np }
  | none =>
    if s.byte 0 ≠ 3 then []
    else match secRecv sec s with
    | none => []
    | some (.demandActive, _) => []
    | some (.channel chan, s) =>
      if chan ≠ MCS_GLOBAL_CHANNEL ∧ chan > 0 then
        if chan > MCS_GLOBAL_CHANNEL then xrdpChannelProcess c chan s else []
      else shareControlSizes s

/-! ## What is promised -/

/-- Behind the security layer the position is inside the packet, and no size is negative. -/
structure RecvRight (sec : SecLayer) (c : ChannelLayer) (s : Session) : Prop where
  recv : ∀ r s', secRecv sec s = some (r, s') → s'.Inside
  recvFastpath : ∀ s', xrdpSecRecvFastpath sec.env s = some ((), s') → s'.Inside
  sizes : ∀ size ∈ rdpRecvSizes sec c s, 0 ≤ size.val

/-! ## When it holds -/

/-- The flags of a security header. -/
def Session.secHeaderFlags (s : Session) : Nat :=
  s.byte 0 + 256 * s.byte 1 + 65536 * s.byte 2 + 16777216 * s.byte 3

/-- The bytes of a packet that are left behind its security header, less the padding; `none` if the
header is refused. -/
def secRest (level : Fastpath.CryptLevel) (s : Session) : Option Int :=
  if s.isSecurityHeaderPresent = false then some s.rem
  else if s.secHeaderFlags &&& SEC_ENCRYPT = 0 then some (s.rem - 4)
  else match level with
  | .CRYPT_LEVEL_FIPS =>
    if 16 ≤ s.rem ∧ s.byte 4 + 256 * s.byte 5 = 16 ∧ s.byte 6 = 1 then some (s.rem - 16 - s.byte 7)
    else none
  | .CRYPT_LEVEL_NONE => some (s.rem - 4)
  | _ => if 12 ≤ s.rem then some (s.rem - 12) else none

/-- A channel whose data is given to the callback. -/
def ChannelLayer.Static (c : ChannelLayer) (chan : Nat) : Prop :=
  c.callback ∧ c.disabled[chan - 1004]? = some false ∧ 1003 < chan ∧ (chan : Int) - 1004 ≠ c.drdynvcChannelId

/-- Without a security header, or with one that is accepted and that leads on to the channel, or to the
licence if there is one. -/
def Session.LeadsOn (s : Session) : Prop :=
  4 ≤ s.rem ∧ (s.isSecurityHeaderPresent = true →
    s.secHeaderFlags &&& SEC_CLIENT_RANDOM = 0 ∧ s.secHeaderFlags &&& SEC_LOGON_INFO = 0)

/-- A packet with a licence message. -/
def Session.Licence (s : Session) : Prop :=
  s.isSecurityHeaderPresent = true ∧ s.secHeaderFlags &&& SEC_LICENCE_NEG ≠ 0

/-- The padding is not more than what is left behind the security header, unless the packet is refused
for another reason; `s` is the stream behind the header of MCS. -/
def PaddingFits (sec : SecLayer) (s : Session) : Prop :=
  ∀ rest, secRest sec.env.cryptLevel s = some rest → s.LeadsOn → (s.Licence → sec.env.licSent) →
    0 ≤ rest

/-- The data of a static channel has room for its own header. -/
def ChannelFits (sec : SecLayer) (c : ChannelLayer) (chan : Nat) (s : Session) : Prop :=
  ∀ rest, secRest sec.env.cryptLevel s = some rest → s.LeadsOn → ¬ s.Licence → c.Static chan →
    8 ≤ rest

/-- The length of a fast-path header. -/
def Session.fastpathHeader (s : Session) : Nat := if s.byte 1 &&& 0x80 ≠ 0 then 3 else 2

/-- The padding of a fast-path packet is not more than what is left, unless it does not tell the number
of events in its header. -/
def FastpathFits (level : Fastpath.CryptLevel) (s : Session) : Prop :=
  level = .CRYPT_LEVEL_FIPS → ((s.byte 0 &&& 0xC0) / 64) &&& FASTPATH_INPUT_ENCRYPTED ≠ 0 →
    (s.byte 0 &&& 0x3C) / 4 ≠ 0 → s.fastpathHeader + 12 ≤ s.rem →
      s.byte s.fastpathHeader + 256 * s.byte (s.fastpathHeader + 1) = 16 →
        (s.fastpathHeader + 12 + s.byte (s.fastpathHeader + 3) : Int) ≤ s.rem

/-- The condition on a packet. -/
structure PacketFits (sec : SecLayer) (c : ChannelLayer) (s : Session) : Prop where
  padding : ∀ chan s₁, xrdpMcsRecv s = some (chan, s₁) → PaddingFits sec s₁
  fastpath : FastpathFits sec.env.cryptLevel s
  channel : s.inPacket = none → ∀ chan s₁, xrdpMcsRecv s = some (chan, s₁) → ChannelFits sec c chan s₁

/-! ## Decryption -/

/-- What is left behind the security header. -/
theorem secDecrypt_rest (env : Env) (s : Session) (hheader : s.isSecurityHeaderPresent = true) :
    match secRest env.cryptLevel s with
    | none => secDecrypt env s.secHeaderFlags { s with p := s.p + 4 } = none
    | some rest => ∃ s', secDecrypt env s.secHeaderFlags { s with p := s.p + 4 } = some ((), s') ∧
        s'.rem = rest := by
  have hbyte : ∀ i, ({ s with p := s.p + 4 } : Session).byte i = s.byte (4 + i) := fun i => by
    simp only [Session.byte, Nat.add_assoc]
  unfold secRest secDecrypt
  rw [if_neg (by simp [hheader])]
  by_cases hplain : s.secHeaderFlags &&& SEC_ENCRYPT = 0
  · rw [if_pos hplain, if_pos hplain]
    exact ⟨_, rfl, by simp only [Session.rem]; omega⟩
  rw [if_neg hplain, if_neg hplain]
  have hrc4 : match (if 12 ≤ s.rem then some (s.rem - 12) else none : Option Int) with
      | none => (do checkRem 8; inUint8s 8; decryptRest env.decrypt : In Unit)
          { s with p := s.p + 4 } = none
      | some rest => ∃ s', (do checkRem 8; inUint8s 8; decryptRest env.decrypt : In Unit)
          { s with p := s.p + 4 } = some ((), s') ∧ s'.rem = rest := by
    by_cases hrem : 12 ≤ s.rem
    · rw [if_pos hrem]
      simp only [Session.rem] at hrem
      rw [bind_of_some (checkRem_of_le (by simp only; omega))]
      exact ⟨_, rfl, by simp only [Session.rem]; omega⟩
    · rw [if_neg hrem]
      simp only [Session.rem] at hrem
      exact bind_of_none (checkRem_of_not_le (by simp only; omega))
  cases env.cryptLevel with
  | CRYPT_LEVEL_NONE => exact ⟨_, rfl, by simp only [Session.rem]; omega⟩
  | CRYPT_LEVEL_LOW => exact hrc4
  | CRYPT_LEVEL_CLIENT_COMPATIBLE => exact hrc4
  | CRYPT_LEVEL_HIGH => exact hrc4
  | CRYPT_LEVEL_FIPS =>
    dsimp only
    by_cases hrem : 16 ≤ s.rem
    · have hle : (s.p + 4 + 12 : Int) ≤ s.end_ := by
        simp only [Session.rem] at hrem
        omega
      rw [bind_of_some (checkRem_of_le (by simpa using hle)), bind_of_some rfl, bind_of_some rfl]
      have hver : ({ s with p := s.p + 4 + 2 } : Session).byte 0 = s.byte 6 := rfl
      have hpad : ({ s with p := s.p + 4 + 2 + 1 } : Session).byte 0 = s.byte 7 := rfl
      simp only [hbyte, hver]
      by_cases hok : s.byte 4 + 256 * s.byte 5 = 16 ∧ s.byte 6 = 1
      · rw [if_pos ⟨hrem, hok⟩, if_neg (by simpa using hok)]
        refine ⟨_, bind_of_some rfl, ?_⟩
        simp only [Session.rem, hpad]
        omega
      · rw [if_neg (fun h => hok h.2), if_pos (by simpa [imp_iff_not_or] using hok)]
        rfl
    · rw [if_neg (by tauto)]
      simp only [Session.rem] at hrem
      exact bind_of_none (checkRem_of_not_le (by simp only; omega))

/-! ## Behind the decryption -/

theorem dropSecurityHeader_wlp {env : Env} {Q : Unit → Session → Prop} {s : Session} :
    Wlp (dropSecurityHeader env) Q s ↔
      Q () (if env.cryptLevel = .CRYPT_LEVEL_NONE ∧ env.cryptMethodNone then
        { s with isSecurityHeaderPresent := false } else s) := wlp_modify

/-- The packets of the security layer itself leave the position in the packet, but for a licence
message, which is not read. -/
theorem secRecvFlags_inside (sec : SecLayer) (chan flags : Nat) (s : Session) :
    Wlp (secRecvFlags sec chan flags) (fun _ s' => s'.Inside) s ↔
      (flags &&& SEC_CLIENT_RANDOM = 0 → flags &&& SEC_LOGON_INFO = 0 →
        (flags &&& SEC_LICENCE_NEG ≠ 0 → sec.env.licSent) → s.Inside) := by
  unfold secRecvFlags xrdpSecRecvFlags
  by_cases hrandom : flags &&& SEC_CLIENT_RANDOM = 0
  · by_cases hlogon : flags &&& SEC_LOGON_INFO = 0
    · rw [if_neg (by simp [hlogon]), if_neg (by simpa using hrandom), if_neg (by simpa using hlogon)]
      by_cases hlicence : flags &&& SEC_LICENCE_NEG = 0
      · rw [if_neg (by simpa using hlicence)]
        simp [hrandom, hlogon, hlicence]
      · rw [if_pos hlicence]
        cases hsent : sec.env.licSent with
        | false => simp [hrandom, hlogon, hlicence]
        | true =>
          rw [if_pos rfl, wlp_bind, dropSecurityHeader_wlp]
          simp only [wlp_pure, hrandom, hlogon, forall_const, implies_true]
          split <;> exact Iff.rfl
    · rw [if_pos ⟨hrandom, hlogon⟩]
      refine iff_of_true ?_ fun _ h => absurd h hlogon
      refine wlp_bind.2 ((logonInfo_reads sec.wcstombs sec.clientInfo s).mono fun info s₁ hs₁ => ?_)
      rw [wlp_ite]
      split
      · exact wlp_pure.2 hs₁.inside
      · exact wlp_fail.2 trivial
  · rw [if_neg (fun h => hrandom h.1), if_pos hrandom]
    refine iff_of_true ?_ fun h => absurd h hrandom
    simp only [wlp_bind, wlp_checkRem, wlp_inUint32Le]
    intro _
    rw [wlp_ite]
    split
    · exact wlp_fail.2 trivial
    · simp only [wlp_bind, wlp_checkRem, wlp_inUint8s, wlp_pure, Session.Inside]
      intro hrem
      omega

/-- The channel is that of the packet only if the security layer has no use for it. -/
theorem secRecvFlags_channel {sec : SecLayer} {chan flags chan' : Nat} {s s' : Session} :
    secRecvFlags sec chan flags s = some (.channel chan', s') ∧ chan' ≠ 1 ↔
      flags &&& SEC_CLIENT_RANDOM = 0 ∧ flags &&& SEC_LOGON_INFO = 0 ∧ flags &&& SEC_LICENCE_NEG = 0 ∧
        chan' = chan ∧ s' = s ∧ chan ≠ 1 := by
  have hother : ∀ m : In SecRecv, (Wlp m (fun r _ => r = .demandActive ∨ r = .channel 1) s) →
      ¬ (m s = some (.channel chan', s') ∧ chan' ≠ 1) := by
    rintro m hm ⟨hrun, hne⟩
    rcases hm _ _ hrun with h | h
    · cases h
    · cases h
      exact hne rfl
  unfold secRecvFlags xrdpSecRecvFlags
  by_cases hrandom : flags &&& SEC_CLIENT_RANDOM = 0
  · by_cases hlogon : flags &&& SEC_LOGON_INFO = 0
    · rw [if_neg (by simp [hlogon]), if_neg (by simpa using hrandom), if_neg (by simpa using hlogon)]
      by_cases hlicence : flags &&& SEC_LICENCE_NEG = 0
      · rw [if_neg (by simpa using hlicence)]
        constructor
        · rintro ⟨hrun, hne⟩
          cases hrun
          exact ⟨hrandom, hlogon, hlicence, rfl, rfl, hne⟩
        · rintro ⟨-, -, -, rfl, rfl, hne⟩
          exact ⟨rfl, hne⟩
      · rw [if_pos hlicence]
        refine iff_of_false (hother _ ?_) fun h => hlicence h.2.2.1
        rw [wlp_ite]
        split
        · exact .bind_any fun _ _ => wlp_pure.2 (.inl rfl)
        · exact wlp_fail.2 trivial
    · rw [if_pos ⟨hrandom, hlogon⟩]
      refine iff_of_false (hother _ ?_) fun h => hlogon h.2.1
      refine .bind_any fun info _ => ?_
      rw [wlp_ite]
      split
      · cases info.isMce with
        | true => exact wlp_pure.2 (.inl rfl)
        | false => exact wlp_pure.2 (.inr rfl)
      · exact wlp_fail.2 trivial
  · rw [if_neg (fun h => hrandom h.1), if_pos hrandom]
    refine iff_of_false (hother _ ?_) fun h => hrandom h.1
    refine .bind_any fun _ _ => .bind_any fun len _ => ?_
    rw [wlp_ite]
    split
    · exact wlp_fail.2 trivial
    · exact .bind_any fun _ _ => .bind_any fun _ _ => wlp_pure.2 (.inr rfl)

theorem inside_iff {s : Session} : s.Inside ↔ 0 ≤ s.rem := by
  simp only [Session.Inside, Session.rem]
  omega

theorem le_rem_iff {s : Session} {n : Nat} : (s.p + n : Int) ≤ s.end_ ↔ n ≤ s.rem := by
  simp only [Session.rem]
  omega

/-- With a security header, what is left behind it goes on. -/
theorem secRecvHeader_run {sec : SecLayer} {chan : Nat} {s : Session}
    (hheader : s.isSecurityHeaderPresent = true) (hrem : 4 ≤ s.rem) :
    match secRest sec.env.cryptLevel s with
    | none => secRecvHeader sec chan s = none
    | some rest => ∃ s', secRecvHeader sec chan s = secRecvFlags sec chan s.secHeaderFlags s' ∧
        s'.rem = rest := by
  have hdecrypt := secDecrypt_rest sec.env s hheader
  have hrun : secRecvHeader sec chan s =
      (secDecrypt sec.env s.secHeaderFlags >>= fun _ => secRecvFlags sec chan s.secHeaderFlags)
        { s with p := s.p + 4 } := by
    unfold secRecvHeader
    rw [bind_of_some (checkRem_of_le (le_rem_iff.2 hrem)), bind_of_some rfl,
      if_neg (by simp [hheader])]
    rfl
  cases hrest : secRest sec.env.cryptLevel s with
  | none =>
    rw [hrest] at hdecrypt
    rw [hrun]
    exact bind_of_none hdecrypt
  | some rest =>
    rw [hrest] at hdecrypt
    obtain ⟨s', hs', hrem'⟩ := hdecrypt
    exact ⟨s', by rw [hrun, bind_of_some hs'], hrem'⟩

theorem secRecvHeader_short {sec : SecLayer} {chan : Nat} {s : Session} (hrem : ¬ 4 ≤ s.rem) :
    secRecvHeader sec chan s = none :=
  bind_of_none (checkRem_of_not_le fun h => hrem (le_rem_iff.1 h))

theorem secRecvHeader_absent {sec : SecLayer} {chan : Nat} {s : Session}
    (hheader : s.isSecurityHeaderPresent = false) (hrem : 4 ≤ s.rem) :
    secRecvHeader sec chan s = some (.channel chan, s) := by
  unfold secRecvHeader
  rw [bind_of_some (checkRem_of_le (le_rem_iff.2 hrem)), bind_of_some rfl, if_pos hheader]
  rfl

theorem secRest_absent {level : Fastpath.CryptLevel} {s : Session}
    (hheader : s.isSecurityHeaderPresent = false) : secRest level s = some s.rem := if_pos hheader

/-- Behind the security layer the position is in the packet, if its padding fits. -/
theorem secRecvHeader_inside (sec : SecLayer) (chan : Nat) (s : Session) :
    Wlp (secRecvHeader sec chan) (fun _ s' => s'.Inside) s ↔ PaddingFits sec s := by
  unfold PaddingFits Session.LeadsOn Session.Licence
  by_cases hrem : 4 ≤ s.rem
  · cases hheader : s.isSecurityHeaderPresent with
    | false =>
      rw [wlp_of_eq (secRecvHeader_absent hheader hrem), secRest_absent hheader]
      refine iff_of_true (inside_iff.2 (by omega)) ?_
      rintro rest hrest - -
      cases hrest
      omega
    | true =>
      have hrun := @secRecvHeader_run sec chan s hheader hrem
      cases hrest : secRest sec.env.cryptLevel s with
      | none =>
        rw [hrest] at hrun
        exact iff_of_true (wlp_of_none hrun) fun _ h => (nomatch h)
      | some rest =>
        rw [hrest] at hrun
        obtain ⟨s', hs', rfl⟩ := hrun
        have hwlp : Wlp (secRecvHeader sec chan) (fun _ s' => s'.Inside) s ↔
            Wlp (secRecvFlags sec chan s.secHeaderFlags) (fun _ s' => s'.Inside) s' := by
          simp only [Wlp, hs']
        rw [hwlp, secRecvFlags_inside, inside_iff]
        simp [hrem]
  · rw [iff_true_intro (wlp_of_none (secRecvHeader_short hrem)), true_iff]
    exact fun _ _ h => absurd h.1 hrem

/-- The channel of the packet comes through if the headers are accepted, with what is left. -/
theorem secRecvHeader_channel {sec : SecLayer} {chan chan' : Nat} {s : Session} {rest : Int}
    (hne : chan' ≠ 1) :
    (∃ s', secRecvHeader sec chan s = some (.channel chan', s') ∧ s'.rem = rest) ↔
      chan' = chan ∧ s.LeadsOn ∧ ¬ s.Licence ∧ secRest sec.env.cryptLevel s = some rest := by
  unfold Session.LeadsOn Session.Licence
  by_cases hrem : 4 ≤ s.rem
  · cases hheader : s.isSecurityHeaderPresent with
    | false =>
      rw [secRecvHeader_absent hheader hrem, secRest_absent hheader]
      constructor
      · rintro ⟨s', hs', rfl⟩
        cases hs'
        simp [hrem]
      · rintro ⟨rfl, -, -, hrest⟩
        exact ⟨s, rfl, Option.some.inj hrest⟩
    | true =>
      have hrun := @secRecvHeader_run sec chan s hheader hrem
      cases hrest : secRest sec.env.cryptLevel s with
      | none =>
        rw [hrest] at hrun
        rw [hrun]
        exact iff_of_false (fun ⟨_, h, _⟩ => nomatch h) fun h => nomatch h.2.2.2
      | some rest' =>
        rw [hrest] at hrun
        obtain ⟨s₁, hs₁, rfl⟩ := hrun
        rw [hs₁]
        constructor
        · rintro ⟨s', hs', rfl⟩
          obtain ⟨hrandom, hlogon, hlicence, rfl, rfl, -⟩ := secRecvFlags_channel.1 ⟨hs', hne⟩
          exact ⟨rfl, ⟨hrem, fun _ => ⟨hrandom, hlogon⟩⟩, fun h => h.2 hlicence, rfl⟩
        · rintro ⟨rfl, ⟨-, hflags⟩, hlicence, heq⟩
          obtain ⟨hrandom, hlogon⟩ := hflags rfl
          have hlicence' : s.secHeaderFlags &&& SEC_LICENCE_NEG = 0 :=
            by_contra fun h => hlicence ⟨rfl, h⟩
          refine ⟨s₁, ?_, Option.some.inj heq⟩
          exact (secRecvFlags_channel.2 ⟨hrandom, hlogon, hlicence', rfl, rfl, hne⟩).1
  · rw [secRecvHeader_short hrem]
    exact iff_of_false (fun ⟨_, h, _⟩ => nomatch h) fun h => hrem h.2.1.1

/-! ## Sizes -/

theorem inUint124_inside (code : Nat) (s : Session) :
    Wlp (inUint124 code) (fun _ s' => s'.Inside) s := by
  unfold inUint124
  simp only [wlp_ite, wlp_bind, wlp_checkRem, wlp_inUint8, wlp_inUint16Le, wlp_inUint32Le,
    Session.Inside]
  split
  · intro h
    omega
  split
  · intro h
    omega
  · intro h
    omega

/-- The sizes of a PDU of a dynamic channel come behind a field that has been checked. -/
theorem drdynvcProcess_sizes (cmd : Nat) (s : Session) : ∀ size ∈ drdynvcProcess cmd s, 0 ≤ size.val := by
  unfold drdynvcProcess drdynvcProcessDataFirst drdynvcProcessData
  split_ifs
  · split
    · exact fun _ h => nomatch h
    · rename_i chanId totalBytes s' hrun
      have hinside : Wlp (drdynvcGetChanId cmd >>= fun chanId => inUint124 ((cmd / 4) &&& 0x03) >>=
          fun totalBytes => pure (chanId, totalBytes) : In _) (fun _ s' => s'.Inside) s :=
        .bind_any fun _ s₁ => wlp_bind.2 ((inUint124_inside _ s₁).mono fun _ _ h => wlp_pure.2 h)
      exact List.forall_mem_singleton.2 (inside_iff.1 (hinside _ _ hrun))
  · split
    · exact fun _ h => nomatch h
    · rename_i chanId s' hrun
      exact List.forall_mem_singleton.2 (inside_iff.1 (inUint124_inside _ _ _ _ hrun))
  · exact fun _ h => nomatch h

theorem xrdpChannelProcessDrdynvc_sizes (c : ChannelLayer) (s : Session) :
    ∀ size ∈ xrdpChannelProcessDrdynvc c s, 0 ≤ size.val := by
  unfold xrdpChannelProcessDrdynvc
  split
  · exact fun _ h => nomatch h
  · rename_i flags s' hrun
    have hinside : Wlp (do checkRem 8; inUint8s 4; inUint32Le : In Nat) (fun _ s' => s'.Inside) s := by
      simp only [wlp_bind, wlp_checkRem, wlp_inUint8s, wlp_inUint32Le, Session.Inside]
      intro h
      omega
    have hsize : 0 ≤ s'.rem := inside_iff.1 (hinside _ _ hrun)
    split_ifs
    · exact drdynvcProcess_sizes _ _
    · exact List.forall_mem_cons.2 ⟨hsize, drdynvcProcess_sizes _ _⟩
    · exact List.forall_mem_singleton.2 hsize

/-- The header of a channel is read without a look at the end. -/
theorem xrdpChannelProcess_sizes (c : ChannelLayer) {chan : Nat} (hchan : 1003 < chan) (s : Session) :
    (∀ size ∈ xrdpChannelProcess c chan s, 0 ≤ size.val) ↔ (c.Static chan → 8 ≤ s.rem) := by
  have hid : (chan : Int) - MCS_GLOBAL_CHANNEL - 1 = chan - 1004 := by
    simp only [MCS_GLOBAL_CHANNEL]
    omega
  have hget : xrdpChannelGetItem c ((chan : Int) - 1004) = c.disabled[chan - 1004]? := by
    have hindex : ((chan : Int) - 1004).toNat = chan - 1004 := by omega
    rw [xrdpChannelGetItem, if_neg (by omega), hindex]
  unfold xrdpChannelProcess
  dsimp only
  rw [hid, hget]
  by_cases hitem : c.disabled[chan - 1004]? = some false
  · rw [if_pos hitem]
    unfold xrdpChannelProcessEnabled
    by_cases hdynamic : (chan : Int) - 1004 = c.drdynvcChannelId
    · rw [if_pos hdynamic]
      exact iff_of_true (xrdpChannelProcessDrdynvc_sizes c s) fun h => absurd hdynamic h.2.2.2
    · rw [if_neg hdynamic]
      by_cases hcallback : c.callback = true
      · rw [if_pos hcallback, imp_iff_right ⟨hcallback, hitem, hchan, hdynamic⟩]
        refine List.forall_mem_singleton.trans ?_
        simp only [Size.val, Session.rem]
        omega
      · rw [if_neg hcallback]
        exact iff_of_true (fun _ h => nomatch h) fun h => absurd h.1 hcallback
  · rw [if_neg hitem]
    exact iff_of_true (fun _ h => nomatch h) fun h => absurd h.2.1 hitem

/-! ## Fast-path packets -/

/-- The header leaves what is behind it, and says what its fields are. -/
theorem xrdpFastpathRecv_wlp {Q : Session → Prop} {s : Session} :
    Wlp xrdpFastpathRecv (fun _ => Q) s ↔
      (s.fastpathHeader ≤ s.rem → Q { s with
        p := s.p + s.fastpathHeader, numEvents := (s.byte 0 &&& 0x3C) / 4
        secFlags := (s.byte 0 &&& 0xC0) / 64, nextPacket := some (s.p + s.fastpathLength) }) := by
  unfold xrdpFastpathRecv Session.fastpathHeader Session.fastpathLength
  simp only [wlp_bind, wlp_get, wlp_checkRem, wlp_inUint8, wlp_modify, wlp_ite, Session.rem]
  have hbyte₁ : ({ s with p := s.p + 1 } : Session).byte 0 = s.byte 1 := rfl
  have hbyte₂ : ({ s with p := s.p + 1 + 1, numEvents := (s.byte 0 &&& 0x3C) / 4
                          secFlags := (s.byte 0 &&& 0xC0) / 64 } : Session).byte 0 = s.byte 2 := rfl
  rw [hbyte₁, hbyte₂]
  by_cases hlong : s.byte 1 &&& 0x80 ≠ 0
  · simp only [if_pos hlong]
    constructor
    · exact fun h hrem => h (by omega) (by push_cast; omega)
    · exact fun h _ hrem => h (by push_cast at hrem ⊢; omega)
  · simp only [if_neg hlong]
    constructor
    · exact fun h hrem => h (by push_cast at hrem; omega)
    · exact fun h hrem => h (by push_cast; omega)

theorem readNumEvents_inside {s : Session} :
    Wlp (readNumEvents s.numEvents) (fun _ s' => s'.Inside) s ↔ (s.numEvents ≠ 0 → s.Inside) := by
  unfold readNumEvents
  rw [wlp_ite]
  split
  · rename_i hnone
    simp only [wlp_bind, wlp_checkRem, wlp_inUint8, wlp_modify, Session.Inside]
    exact iff_of_true (fun h => by omega) fun h => absurd hnone h
  · rename_i hsome
    rw [wlp_pure]
    exact (imp_iff_right hsome).symm

@[simp] theorem wlp_decryptRest {decrypt : List UInt8 → List UInt8} {Q : Unit → Session → Prop}
    {s : Session} : Wlp (decryptRest decrypt) Q s ↔
      Q () { s with
        cells := writeAt s.cells s.p (decrypt (bytesAt s.cells s.p (s.end_ - s.p).toNat)) } :=
  wlp_of_eq rfl

@[simp] theorem wlp_dropPad {pad : Nat} {Q : Unit → Session → Prop} {s : Session} :
    Wlp (dropPad pad) Q s ↔ Q () { s with end_ := s.end_ - pad } := wlp_of_eq rfl

/-- Behind a fast-path header the padding must fit, but for a packet whose number of events is read
behind it. -/
theorem fastpathDecrypt_inside (env : Env) {s : Session} (hs : s.Inside) :
    Wlp (fastpathDecrypt env s.secFlags) (fun _ s' => s'.numEvents ≠ 0 → s'.Inside) s ↔
      (env.cryptLevel = .CRYPT_LEVEL_FIPS → s.secFlags &&& FASTPATH_INPUT_ENCRYPTED ≠ 0 →
        s.numEvents ≠ 0 → 12 ≤ s.rem → s.byte 0 + 256 * s.byte 1 = 16 → 12 + s.byte 3 ≤ s.rem) := by
  unfold fastpathDecrypt
  by_cases hplain : s.secFlags &&& FASTPATH_INPUT_ENCRYPTED = 0
  · rw [if_pos hplain, wlp_pure]
    exact iff_of_true (fun _ => hs) fun _ h => absurd hplain h
  rw [if_neg hplain]
  have hrc4 : Wlp (do checkRem 8; inUint8s 8; decryptRest env.decrypt : In Unit)
      (fun _ s' => s'.numEvents ≠ 0 → s'.Inside) s := by
    simp only [wlp_bind, wlp_checkRem, wlp_inUint8s, wlp_decryptRest, Session.Inside]
    exact fun h _ => h
  cases env.cryptLevel with
  | CRYPT_LEVEL_NONE => exact iff_of_true hrc4 fun h => by cases h
  | CRYPT_LEVEL_LOW => exact iff_of_true hrc4 fun h => by cases h
  | CRYPT_LEVEL_CLIENT_COMPATIBLE => exact iff_of_true hrc4 fun h => by cases h
  | CRYPT_LEVEL_HIGH => exact iff_of_true hrc4 fun h => by cases h
  | CRYPT_LEVEL_FIPS =>
    have hpad : ({ s with p := s.p + 2 + 1 } : Session).byte 0 = s.byte 3 := rfl
    simp only [wlp_bind, wlp_checkRem, wlp_inUint16Le, wlp_inUint8s, wlp_ite, wlp_fail, wlp_inUint8,
      wlp_decryptRest, wlp_dropPad, hpad, Session.rem, Session.Inside]
    constructor
    · intro h _ _ hevents hrem hlen
      have hend := h (by push_cast; omega)
      rw [if_neg (not_not_intro hlen)] at hend
      have hend := hend hevents
      push_cast at hend
      omega
    · intro h hrem
      split
      · trivial
      · rename_i hlen
        intro hevents
        have hend := h trivial hplain hevents (by push_cast at hrem; omega) (not_not.1 hlen)
        push_cast
        omega

/-- Behind the fast-path header the position is in the packet, if its padding fits. -/
theorem recvFastpath_inside (env : Env) (s : Session) :
    Wlp (xrdpSecRecvFastpath env) (fun _ s' => s'.Inside) s ↔ FastpathFits env.cryptLevel s := by
  have hlater : ∀ s₁ : Session, Wlp (do
      fastpathDecrypt env (← get).secFlags
      readNumEvents (← get).numEvents : In Unit) (fun _ s' => s'.Inside) s₁ ↔
      Wlp (fastpathDecrypt env s₁.secFlags) (fun _ s' => s'.numEvents ≠ 0 → s'.Inside) s₁ := by
    intro s₁
    rw [wlp_bind, wlp_get, wlp_bind]
    refine wlp_congr fun _ s₂ _ => ?_
    rw [wlp_bind, wlp_get, readNumEvents_inside]
  unfold xrdpSecRecvFastpath FastpathFits
  refine (wlp_bind.trans xrdpFastpathRecv_wlp).trans ?_
  rw [hlater]
  have hbyte : ∀ i, ({ s with
      p := s.p + s.fastpathHeader, numEvents := (s.byte 0 &&& 0x3C) / 4
      secFlags := (s.byte 0 &&& 0xC0) / 64, nextPacket := some (s.p + s.fastpathLength) } : Session).byte i =
        s.byte (s.fastpathHeader + i) := fun i => by
    simp only [Session.byte, Nat.add_assoc]
  constructor
  · intro h hlevel hencrypted hevents hrem hlen
    have hfits := h (by omega)
    rw [fastpathDecrypt_inside] at hfits
    · have hpad := hfits hlevel hencrypted hevents (by simp only [Session.rem] at hrem ⊢; push_cast; omega)
        (by rw [hbyte, hbyte]; exact hlen)
      rw [hbyte] at hpad
      simp only [Session.rem] at hpad ⊢
      push_cast at hpad
      omega
    · simp only [Session.Inside, Session.rem] at hrem ⊢
      push_cast
      omega
  · intro h hheader
    rw [fastpathDecrypt_inside]
    · intro hlevel hencrypted hevents hrem hlen
      rw [hbyte, hbyte] at hlen
      have hpad := h hlevel hencrypted hevents
        (by simp only [Session.rem] at hrem ⊢; push_cast at hrem; omega) hlen
      rw [hbyte]
      simp only [Session.rem] at hpad ⊢
      push_cast
      omega
    · simp only [Session.Inside, Session.rem] at hheader ⊢
      push_cast
      omega

/-! ## Packets -/

theorem shareControlSizes_nonneg {s : Session} (h : s.Inside) : ∀ size ∈ shareControlSizes s, 0 ≤ size.val := by
  unfold shareControlSizes
  split
  · exact fun _ h => nomatch h
  · exact List.forall_mem_singleton.2 (inside_iff.1 h)

/-- A packet of the MCS layer has the version of TPKT. -/
theorem byte_of_mcsRecv {s s₁ : Session} {chan : Nat} (h : xrdpMcsRecv s = some (chan, s₁)) :
    s.byte 0 = 3 := by
  unfold xrdpMcsRecv xrdpMcsRecvLoop xrdpIsoRecv xrdpIsoRecvMsg at h
  obtain ⟨_, _, hiso, -⟩ := In.bind_eq_some.1 h
  obtain ⟨_, _, hmsg, -⟩ := In.bind_eq_some.1 hiso
  obtain ⟨ver, _, hver, hrest⟩ := In.bind_eq_some.1 hmsg
  cases hver
  by_contra hne
  rw [if_pos hne] at hrest
  cases hrest

theorem secRecv_eq_some {sec : SecLayer} {s s' : Session} {r : SecRecv} :
    secRecv sec s = some (r, s') ↔
      ∃ chan s₁, xrdpMcsRecv s = some (chan, s₁) ∧ secRecvHeader sec chan s₁ = some (r, s') :=
  In.bind_eq_some

/-- The sizes are those of the channel; the length of a bad packet is not negative, if the position is
in the packet. -/
theorem rdpRecvSizes_iff (sec : SecLayer) (c : ChannelLayer) {s : Session}
    (hrecv : ∀ r s', secRecv sec s = some (r, s') → s'.Inside) :
    (∀ size ∈ rdpRecvSizes sec c s, 0 ≤ size.val) ↔
      (s.inPacket = none → ∀ chan s₁, xrdpMcsRecv s = some (chan, s₁) → ChannelFits sec c chan s₁) := by
  unfold rdpRecvSizes
  cases hin : s.inPacket with
  | some np =>
    refine iff_of_true (shareControlSizes_nonneg ?_) fun h => nomatch h
    exact (inPacket_eq_some.1 hin).2.le
  | none =>
    rw [imp_iff_right rfl]
    dsimp only
    by_cases htpkt : s.byte 0 = 3
    · rw [if_neg (not_not_intro htpkt)]
      constructor
      · intro h chan s₁ hmcs rest hrest hleads hlicence hstatic
        have hne : chan ≠ 1 := by
          have := hstatic.2.2.1
          omega
        obtain ⟨s', hs', rfl⟩ := (secRecvHeader_channel hne).2 ⟨rfl, hleads, hlicence, hrest⟩
        rw [secRecv_eq_some.2 ⟨chan, s₁, hmcs, hs'⟩] at h
        have hlt : 1003 < chan := hstatic.2.2.1
        have hchan : chan > MCS_GLOBAL_CHANNEL := hlt
        have hnot : chan ≠ MCS_GLOBAL_CHANNEL ∧ chan > 0 := ⟨by simp only [MCS_GLOBAL_CHANNEL]; omega, by omega⟩
        dsimp only at h
        rw [if_pos hnot, if_pos hchan] at h
        exact (xrdpChannelProcess_sizes c hchan s').1 h hstatic
      · intro h
        split
        · exact fun _ h => nomatch h
        · exact fun _ h => nomatch h
        · rename_i chan s' hsec
          split_ifs with hother hchan
          · obtain ⟨chan₁, s₁, hmcs, hheader⟩ := secRecv_eq_some.1 hsec
            have hne : chan ≠ 1 := by
              simp only [MCS_GLOBAL_CHANNEL] at hchan
              omega
            obtain ⟨rfl, hleads, hlicence, hrest⟩ :=
              (secRecvHeader_channel hne).1 ⟨s', hheader, rfl⟩
            exact (xrdpChannelProcess_sizes c hchan s').2 (h chan s₁ hmcs _ hrest hleads hlicence)
          · exact fun _ h => nomatch h
          · exact shareControlSizes_nonneg (hrecv _ _ hsec)
    · rw [if_pos htpkt]
      exact iff_of_true (fun _ h => nomatch h) fun chan s₁ hmcs => absurd (byte_of_mcsRecv hmcs) htpkt

/-- **The stream behind the security layer**: for every packet, at every level, the position is in the
packet and no size that is computed is negative, just if its padding fits and a static channel has
its header. -/
theorem recv_right_iff (sec : SecLayer) (c : ChannelLayer) (s : Session) :
    RecvRight sec c s ↔ PacketFits sec c s := by
  have hrecv : (∀ r s', secRecv sec s = some (r, s') → s'.Inside) ↔
      ∀ chan s₁, xrdpMcsRecv s = some (chan, s₁) → PaddingFits sec s₁ := by
    refine wlp_bind.trans (forall₃_congr fun chan s₁ _ => ?_)
    exact secRecvHeader_inside sec chan s₁
  have hfastpath : (∀ s', xrdpSecRecvFastpath sec.env s = some ((), s') → s'.Inside) ↔
      FastpathFits sec.env.cryptLevel s := by
    rw [← recvFastpath_inside]
    exact ⟨fun h _ s' hs' => h s' hs', fun h s' hs' => h () s' hs'⟩
  constructor
  · rintro ⟨h₁, h₂, h₃⟩
    exact ⟨hrecv.1 h₁, hfastpath.1 h₂, (rdpRecvSizes_iff sec c h₁).1 h₃⟩
  · rintro ⟨h₁, h₂, h₃⟩
    exact ⟨hrecv.2 h₁, hfastpath.2 h₂, (rdpRecvSizes_iff sec c (hrecv.2 h₁)).2 h₃⟩

/-- A fast-path packet of FIPS with one event and 8 bytes of data, whose padding is said to be 255
bytes. -/
def paddedPacket : List UInt8 :=
  [0x84, 22, 0x10, 0, 1, 255, 0, 0, 0, 0, 0, 0, 0, 0, 0, 0x1E, 0, 0, 0, 0, 0, 0]

/-- Its end is moved to 233 bytes before the stream. -/
theorem padding_before_position :
    ¬ RecvRight
      ⟨{ quietEnv with cryptLevel := .CRYPT_LEVEL_FIPS },
        ⟨false, false, false, false, false, false, false, [], [], [], [], [], 0⟩, fun _ _ => none⟩
      ⟨[], -1, 0, false⟩ (sessionOf paddedPacket) := by
  intro h
  have hinside := h.recvFastpath _ rfl
  have hend : (14 : Int) ≤ 22 - 255 := hinside
  omega

/-! ## The loop of the receiver -/

/-- The rest of the program, with what a logon packet takes. -/
def SecLayer.envWith (sec : SecLayer) (logonInfo : Option Nat) : Env :=
  { sec.env with logonInfo := logonInfo, isMce := sec.clientInfo.isMce }

/-- What reading a logon packet takes from the packet. -/
def logonBytes (sec : SecLayer) (s : Session) : Option Nat :=
  (xrdpSecProcessLogonInfo sec.wcstombs sec.clientInfo s).map fun r => r.2.p - s.p

theorem secRecvFlags_env (sec : SecLayer) (chan flags : Nat) (s : Session) :
    secRecvFlags sec chan flags s = xrdpSecRecvFlags (sec.envWith (logonBytes sec s)) chan flags s := by
  unfold secRecvFlags xrdpSecRecvFlags
  by_cases hrandom : flags &&& SEC_CLIENT_RANDOM = 0
  · by_cases hlogon : flags &&& SEC_LOGON_INFO = 0
    · rw [if_neg (by simp [hlogon]), if_neg (not_not_intro hrandom), if_neg (not_not_intro hlogon),
        if_neg (not_not_intro hrandom), if_neg (not_not_intro hlogon)]
      rfl
    · rw [if_pos ⟨hrandom, hlogon⟩, if_neg (not_not_intro hrandom), if_pos hlogon]
      have hreads := logonInfo_reads sec.wcstombs sec.clientInfo s
      have hmce := logonInfo_isMce sec.wcstombs sec.clientInfo s
      simp only [SecLayer.envWith, logonBytes]
      cases hrun : xrdpSecProcessLogonInfo sec.wcstombs sec.clientInfo s with
      | none => exact bind_of_none hrun
      | some r =>
        obtain ⟨info, s'⟩ := r
        obtain ⟨heq, hle, -⟩ := hreads _ _ hrun
        have hskip : inUint8s (s'.p - s.p) s = some ((), s') := by
          rw [inUint8s, Nat.add_sub_cancel' hle, ← heq]
        rw [bind_of_some hrun, hmce _ _ hrun]
        exact Eq.symm (bind_of_some hskip)
  · rw [if_neg (fun h => hrandom h.1), if_pos hrandom, if_pos hrandom]

/-- With the bytes that a logon packet takes, the security layer is that of the loop. -/
theorem secRecv_env (sec : SecLayer) (s : Session) :
    ∃ logonInfo, secRecv sec s = xrdpSecRecv (sec.envWith logonInfo) s := by
  unfold secRecv secRecvHeader xrdpSecRecv
  cases hmcs : xrdpMcsRecv s with
  | none => exact ⟨none, by rw [bind_of_none hmcs, bind_of_none hmcs]⟩
  | some r =>
    obtain ⟨chan, s₁⟩ := r
    simp only [bind_of_some hmcs]
    by_cases hrem : (s₁.p + 4 : Int) ≤ s₁.end_
    · have hcheck : checkRem 4 s₁ = some ((), s₁) := checkRem_of_le hrem
      simp only [bind_of_some hcheck, bind_of_some (rfl : (get : In Session) s₁ = some (s₁, s₁))]
      split
      · exact ⟨none, rfl⟩
      · have hflags : inUint32Le s₁ = some (s₁.secHeaderFlags, { s₁ with p := s₁.p + 4 }) := rfl
        simp only [bind_of_some hflags]
        cases hdecrypt : secDecrypt sec.env s₁.secHeaderFlags { s₁ with p := s₁.p + 4 } with
        | none => exact ⟨none, (bind_of_none hdecrypt).trans (Eq.symm (bind_of_none hdecrypt))⟩
        | some r =>
          refine ⟨logonBytes sec r.2, ?_⟩
          rw [bind_of_some hdecrypt, secRecvFlags_env]
          exact Eq.symm (bind_of_some hdecrypt)
    · exact ⟨none, by rw [bind_of_none (checkRem_of_not_le hrem), bind_of_none (checkRem_of_not_le hrem)]⟩

end Xrdp.Recv
