import Xrdp.Transport.Framing
import Xrdp.Transport.InFrames

/-!
# The frames of the transports

* `chan_follows` — the messages of the channel server.
* `mod_follows` — the messages for `xup`.
* `client_follows` — the PDUs of a client.
-/

namespace Xrdp.Transport

open Wire Frames

/-! ## Numbers in headers -/

theorem int_bounds (v : Int) : -2 ^ 31 ≤ int v ∧ int v < 2 ^ 31 := by
  have hlow := @Int.le_bmod v (2 ^ 32) (by decide)
  have hhigh := @Int.bmod_lt v (2 ^ 32) (by decide)
  unfold int
  constructor <;> omega

theorem int32At_bounds (s : List UInt8) (i : Nat) :
    -2 ^ 31 ≤ int32At s i ∧ int32At s i < 2 ^ 31 := int_bounds _

theorem int32At_append {b : List UInt8} {i : Nat} (h : i + 4 ≤ b.length) (c : List UInt8) :
    int32At (b ++ c) i = int32At b i := by
  unfold int32At
  rw [List.drop_append_of_le_length (by omega), List.take_append_of_le_length]
  rw [List.length_drop]
  omega

/-! ## The channel server -/

/-- A header is wanted, or all of a message. -/
inductive ChanMode : Nat → Nat → List UInt8 → Prop
  | header (b : List UInt8) : ChanMode 0 8 b
  | whole {b : List UInt8} {size : Nat} (h : 8 ≤ b.length) (hsize : int32At b 4 = size)
      (hlt : 8 < size) : ChanMode 1 size b

theorem chanFrame_append {b : List UInt8} (h : 8 ≤ b.length) (c : List UInt8) :
    chanFrame (b ++ c) = some (max 8 (int32At b 4).toNat) := by
  have hlen : ¬ (b ++ c).length < 8 := by
    rw [List.length_append]
    omega
  rw [chanFrame, if_neg hlen, int32At_append (by omega)]

theorem chanFrame_ge {s : List UInt8} {n : Nat} (h : chanFrame s = some n) : 8 ≤ n := by
  unfold chanFrame at h
  split at h
  · cases h
  · rw [← Option.some.inj h]
    exact Nat.le_max_left _ _

theorem chan_follows (h : Handlers) : Follows (chanTrans h) (chanFormat h) ChanMode where
  room := rfl
  keeps := rfl
  append c hmode := by
    cases hmode with
    | header b => exact .header _
    | whole hlen hsize hlt =>
      exact .whole (by rw [List.length_append]; omega) (by rwa [int32At_append (by omega)]) hlt
  small {flags size b} hmode := by
    cases hmode with
    | header b => decide
    | whole hlen hsize hlt =>
      have := (int32At_bounds b 4).2
      omega
  wanted {flags size b c n} hmode hframe := by
    have hframe : chanFrame (b ++ c) = some n := hframe
    cases hmode with
    | header b => exact chanFrame_ge hframe
    | whole hlen hsize hlt =>
      rw [chanFrame_append hlen, hsize] at hframe
      rw [← Option.some.inj hframe]
      exact Nat.le_max_right _ _
  large {flags size b} c hmode hlarge := by
    have hlarge : 8192 < size := hlarge
    change chanFrame (b ++ c) = some size
    cases hmode with
    | header b => omega
    | whole hlen hsize hlt =>
      rw [chanFrame_append hlen, hsize, Int.toNat_natCast, max_eq_right hlt.le]
  dataIn {recv t} hroom _ hmode := by
    change DataIn _ _ t (.ok (xrdpMmChanDataIn h.chanProcessMsg t))
    -- what is there is a header, or all of a message
    have hthere : t.extraFlags = 0 ∧ t.inS.length = 8 ∨
        t.extraFlags ≠ 0 ∧ 8 ≤ t.inS.length ∧ int32At t.inS 4 = t.inS.length := by
      generalize t.extraFlags = flags at hmode
      generalize hn : t.inS.length = n at hmode
      cases hmode with
      | header => exact .inl ⟨rfl, rfl⟩
      | whole hlen hsize _ => exact .inr ⟨by decide, hn ▸ hlen, hsize⟩
    unfold xrdpMmChanDataIn
    dsimp only
    by_cases hmore : t.extraFlags = 0 ∧ int32At t.inS 4 > 8
    · rw [if_pos hmore]
      obtain ⟨size, hsize⟩ := Int.eq_ofNat_of_zero_le (by omega : 0 ≤ int32At t.inS 4)
      rw [hsize]
      exact .more (by omega) (.whole (by omega) hsize (by omega))
    · rw [if_neg hmore]
      have hframe : chanFrame (t.inS ++ t.sck) = some t.inS.length := by
        have hmax : max 8 (int32At t.inS 4).toNat = t.inS.length := by omega
        rw [chanFrame_append (by omega), hmax]
      exact DataIn.handled hframe Iff.rfl hroom (by decide) (ChanMode.header []) fun _ => rfl

/-! ## The module -/

/-- A header is wanted, or all of a message. -/
inductive XupMode : Nat → Nat → List UInt8 → Prop
  | header (b : List UInt8) : XupMode 1 8 b
  | whole {b : List UInt8} {len : Nat} (h : 8 ≤ b.length) (hlen : int32At b 4 = len)
      (hpos : 0 < len) (hmax : len ≤ 128 * 1024) : XupMode 2 (len + 8) b

theorem xupFrame_append {b : List UInt8} (h : 8 ≤ b.length) (c : List UInt8) :
    xupFrame (b ++ c) = if int32At b 4 < 0 ∨ int32At b 4 > 128 * 1024 then none
      else some ((int32At b 4).toNat + 8) := by
  have hlen : ¬ (b ++ c).length < 8 := by
    rw [List.length_append]
    omega
  unfold xupFrame
  simp only [hlen, false_or, int32At_append (by omega : 4 + 4 ≤ b.length)]

theorem xupFrame_ge {s : List UInt8} {n : Nat} (h : xupFrame s = some n) : 8 ≤ n := by
  unfold xupFrame at h
  split at h
  · cases h
  · rw [← Option.some.inj h]
    exact Nat.le_add_left 8 _

theorem libWholeMessage_dataIn (h : Handlers) {t : InTrans}
    (hframe : xupFrame (t.inS ++ t.sck) = some t.inS.length)
    (hroom : t.inS.length ≤ (xupFormat h).capacity) :
    DataIn (xupFormat h) XupMode t (.ok (libWholeMessage h.libModProcessMessage t)) := by
  unfold libWholeMessage
  dsimp only
  by_cases hrv : h.libModProcessMessage t.handed t.inS = 0
  · rw [if_neg (not_not.2 hrv)]
    exact DataIn.handled hframe (iff_of_true hrv rfl) hroom (by decide) (XupMode.header []) fun _ => rfl
  · rw [if_pos hrv]
    exact DataIn.handled hframe (iff_of_false hrv one_ne_zero) hroom (by decide)
      (XupMode.header []) fun h => absurd h one_ne_zero

theorem mod_follows (h : Handlers) : Follows (modTrans h) (xupFormat h) XupMode where
  room := rfl
  keeps := rfl
  append c hmode := by
    cases hmode with
    | header b => exact .header _
    | whole hb hlen hpos hmax =>
      exact .whole (by rw [List.length_append]; omega) (by rwa [int32At_append (by omega)]) hpos hmax
  small {flags size b} hmode := by
    cases hmode with
    | header b => decide
    | whole hb hlen hpos hmax => omega
  wanted {flags size b c n} hmode hframe := by
    have hframe : xupFrame (b ++ c) = some n := hframe
    cases hmode with
    | header b => exact xupFrame_ge hframe
    | whole hb hlen hpos hmax =>
      rw [xupFrame_append hb, hlen, if_neg (by omega)] at hframe
      exact (Option.some.inj hframe).le
  large {flags size b} c hmode hlarge := by
    have hlarge : 8 * 8192 < size := hlarge
    change xupFrame (b ++ c) = some size
    cases hmode with
    | header b => omega
    | whole hb hlen hpos hmax => rw [xupFrame_append hb, hlen, if_neg (by omega), Int.toNat_natCast]
  dataIn {recv t} hroom _ hmode := by
    change DataIn _ _ t (.ok (libDataIn h.libModProcessMessage t))
    generalize hflags : t.extraFlags = flags at hmode
    generalize hn : t.inS.length = n at hmode
    unfold libDataIn
    rw [hflags]
    cases hmode with
    | header =>
      have hframe := xupFrame_append hn.ge t.sck
      dsimp only
      by_cases hbad : int32At t.inS 4 < 0 ∨ int32At t.inS 4 > 128 * 1024
      · rw [if_pos hbad] at hframe ⊢
        refine .ended one_ne_zero ?_
        rintro ⟨n, hsome, -⟩
        have hnone : xupFrame (t.inS ++ t.sck) = some n := hsome
        rw [hframe] at hnone
        cases hnone
      rw [if_neg hbad] at hframe ⊢
      by_cases hmore : int32At t.inS 4 > 0
      · rw [if_pos hmore]
        obtain ⟨len, hlen⟩ := Int.eq_ofNat_of_zero_le hmore.le
        rw [hlen] at hbad hmore ⊢
        have hlt : t.inS.length < len + 8 := by omega
        exact .more hlt (.whole hn.ge hlen (by omega) (by omega))
      · rw [if_neg hmore]
        have hwhole : (int32At t.inS 4).toNat + 8 = t.inS.length := by omega
        rw [hwhole] at hframe
        exact libWholeMessage_dataIn h hframe hroom
    | whole hb hlen hpos hmax =>
      have hframe := xupFrame_append hb t.sck
      rw [hlen, if_neg (by omega), Int.toNat_natCast, ← hn] at hframe
      exact libWholeMessage_dataIn h hframe hroom

/-! ## The client -/

theorem pduHeader_cons (h0 h1 : UInt8) (s : List UInt8) : pduHeader (h0 :: h1 :: s) =
    if h0 = 3 then 4 else if h1.toNat &&& 0x80 ≠ 0 then 3 else 2 := by
  simp [pduHeader]

theorem pduHeader_bounds (s : List UInt8) : 2 ≤ pduHeader s ∧ pduHeader s ≤ 4 := by
  unfold pduHeader
  split
  · decide
  · split <;> decide

theorem pduHeader_append {b : List UInt8} (h : 2 ≤ b.length) (c : List UInt8) :
    pduHeader (b ++ c) = pduHeader b := by
  match b, h with
  | h0 :: h1 :: b, _ => rw [List.cons_append, List.cons_append, pduHeader_cons, pduHeader_cons]

/-- With its header, a PDU says how long it is. -/
theorem pduBytes_of_header {b : List UInt8} (h2 : 2 ≤ b.length) (h : pduHeader b ≤ b.length) :
    ∃ len, len < 65536 ∧ ∀ c, libxrdpGetPduBytes (b ++ c) = .ok len := by
  match b, h2 with
  | h0 :: h1 :: b, _ =>
    rw [pduHeader_cons] at h
    by_cases hfast : h0 = 3
    · rw [if_pos hfast] at h
      match b, h with
      | b2 :: b3 :: b, _ =>
        have hb2 := b2.toNat_lt
        have hb3 := b3.toNat_lt
        exact ⟨256 * b2.toNat + b3.toNat, by omega, fun c => by
          rw [hfast]
          exact pduBytes_tpkt h1 b2 b3 (b ++ c)⟩
    rw [if_neg hfast] at h
    by_cases hbit : h1.toNat &&& 0x80 ≠ 0
    · rw [if_pos hbit] at h
      match b, h with
      | b2 :: b, _ =>
        have hb1 := h1.toNat_lt
        have hb2 := b2.toNat_lt
        exact ⟨256 * (h1.toNat - 128) + b2.toNat, by omega, fun c =>
          pduBytes_long b2 (b ++ c) hfast ((highBit_iff h1).1 hbit)⟩
    · have hb1 := h1.toNat_lt
      exact ⟨h1.toNat, by omega, fun c => pduBytes_short (b ++ c) hfast (by
        rw [highBit_iff] at hbit
        omega)⟩

theorem header_of_pduBytes {s : List UInt8} {len : Nat} (h : libxrdpGetPduBytes s = .ok len) :
    2 ≤ s.length ∧ pduHeader s ≤ s.length := by
  unfold libxrdpGetPduBytes at h
  split at h
  · rename_i h0 h1 b
    refine ⟨Nat.le_add_left 2 _, ?_⟩
    rw [pduHeader_cons]
    split at h
    · rw [if_pos ‹_›]
      split at h
      · exact Nat.le_add_left 4 _
      · cases h
    · rw [if_neg ‹_›]
      split at h
      · rw [if_pos ‹_›]
        split at h
        · exact Nat.le_add_left 3 _
        · cases h
      · rw [if_neg ‹_›]
        exact Nat.le_add_left 2 _
  · cases h

/-- What a part of a PDU says stays as it is. -/
theorem pduBytes_append {b : List UInt8} {len : Nat} (h : libxrdpGetPduBytes b = .ok len)
    (c : List UInt8) : libxrdpGetPduBytes (b ++ c) = .ok len ∧ len < 65536 := by
  obtain ⟨h2, hheader⟩ := header_of_pduBytes h
  obtain ⟨len', hlt, hall⟩ := pduBytes_of_header h2 hheader
  have hsame := hall []
  rw [List.append_nil, h] at hsame
  cases hsame
  exact ⟨hall c, hlt⟩

theorem pduFrame_append {b : List UInt8} {len : Nat} (h : libxrdpGetPduBytes b = .ok len)
    (c : List UInt8) : pduFrame (b ++ c) = some (max len (pduHeader b)) := by
  unfold pduFrame
  rw [(pduBytes_append h c).1, pduHeader_append (header_of_pduBytes h).1]

theorem pduFrame_ge {s : List UInt8} {n : Nat} (h : pduFrame s = some n) : pduHeader s ≤ n := by
  unfold pduFrame at h
  split at h
  · rw [← Option.some.inj h]
    exact Nat.le_max_right _ _
  · cases h

/-- Two bytes are wanted, or the header, or all of a PDU. -/
inductive ClientMode : Nat → Nat → List UInt8 → Prop
  | two (b : List UInt8) : ClientMode 1 2 b
  | header {b : List UInt8} (h : 2 ≤ b.length) : ClientMode 2 (pduHeader b) b
  | whole {b : List UInt8} {len : Nat} (h : libxrdpGetPduBytes b = .ok len)
      (hlt : pduHeader b < len) : ClientMode 3 len b

/-- A transport of `xrdp_process`, seen as one of the others. -/
def ServerTrans.toIn (t : ServerTrans) : InTrans :=
  ⟨t.status, t.inS, t.headerSize, t.extraFlags, t.sck, t.handed⟩

def InTrans.toServer (t : InTrans) : ServerTrans :=
  ⟨t.status, t.inS, t.headerSize.toNat, t.extraFlags, t.sck, t.handed⟩

/-- `server_trans`, once the session is up. -/
def clientTrans (env : Handler) : Setup where
  inSize := IN_SIZE
  noStreamInitOnDataIn := true
  transDataIn _ t := (xrdpProcessDataIn env t.toServer).map fun r => (r.1, r.2.toIn)

theorem wholePdu_dataIn (h : Handlers) {t : InTrans} {t' : ServerTrans}
    (hinS : t'.inS = t.inS) (hsck : t'.sck = t.sck) (hhanded : t'.handed = t.handed)
    (hup : t'.status = t.status) (hframe : pduFrame (t.inS ++ t.sck) = some t.inS.length)
    (hroom : t.inS.length ≤ IN_SIZE) :
    DataIn (clientFormat h) ClientMode t (.ok ((t'.wholePdu h.client).1,
      (t'.wholePdu h.client).2.toIn)) := by
  unfold ServerTrans.wholePdu
  dsimp only
  rw [hinS, hhanded, hsck]
  by_cases hrv : (h.client.processData t.handed t.inS t.sck).1 = 0
  · rw [if_neg (not_not.2 hrv)]
    refine DataIn.handled hframe (iff_of_true hrv rfl) hroom (by decide) (ClientMode.two []) fun _ => ?_
    unfold ServerTrans.toIn
    dsimp only
    rw [hup]
    rfl
  · rw [if_pos hrv]
    exact DataIn.handled hframe (iff_of_false hrv one_ne_zero) hroom (by decide)
      (ClientMode.two []) fun h => absurd h one_ne_zero

/-- The header is there. -/
theorem pduBytes_dataIn (h : Handlers) {t : InTrans} {t' : ServerTrans}
    (hinS : t'.inS = t.inS) (hsck : t'.sck = t.sck) (hhanded : t'.handed = t.handed)
    (hup : t'.status = t.status) (hall : t.inS.length = pduHeader t.inS) :
    ∃ r, t'.pduBytes h.client = .ok r ∧
      DataIn (clientFormat h) ClientMode t (.ok (r.1, r.2.toIn)) := by
  have hbounds := pduHeader_bounds t.inS
  obtain ⟨len, -, hlen⟩ := @pduBytes_of_header t.inS (by omega) hall.ge
  have hhere := hlen []
  rw [List.append_nil] at hhere
  unfold ServerTrans.pduBytes
  rw [hinS, hhere, Run.ok_bind]
  dsimp only
  by_cases hmore : len > t.inS.length
  · rw [if_pos hmore]
    refine ⟨_, rfl, ?_⟩
    unfold ServerTrans.toIn
    dsimp only
    rw [hsck, hhanded, hup]
    exact .more hmore (.whole hhere (by omega))
  · rw [if_neg hmore]
    have hframe := pduFrame_append hhere t.sck
    have hwhole : max len (pduHeader t.inS) = t.inS.length := by omega
    rw [hwhole] at hframe
    exact ⟨_, rfl, wholePdu_dataIn h rfl hsck hhanded hup hframe (by unfold IN_SIZE; omega)⟩

/-- The first two bytes are there. -/
theorem twoBytes_dataIn (h : Handlers) {t : InTrans} (hlen : t.inS.length = 2) :
    ∃ r, t.toServer.twoBytes h.client = .ok r ∧
      DataIn (clientFormat h) ClientMode t (.ok (r.1, r.2.toIn)) := by
  obtain ⟨status, inS, headerSize, extraFlags, sck, handed⟩ := t
  match inS, hlen with
  | [p0, p1], _ =>
    have hheader := pduHeader_cons p0 p1 []
    unfold ServerTrans.twoBytes InTrans.toServer
    dsimp only
    by_cases htpkt : p0 = 3
    · rw [if_pos htpkt] at hheader ⊢
      refine ⟨_, rfl, ?_⟩
      have hmode := @ClientMode.header [p0, p1] (Nat.le_refl 2)
      rw [hheader] at hmode
      exact .more (show 2 < 4 by decide) hmode
    rw [if_neg htpkt] at hheader ⊢
    by_cases hbit : p1.toNat &&& 0x80 ≠ 0
    · rw [if_pos hbit] at hheader ⊢
      refine ⟨_, rfl, ?_⟩
      have hmode := @ClientMode.header [p0, p1] (Nat.le_refl 2)
      rw [hheader] at hmode
      exact .more (show 2 < 3 by decide) hmode
    · rw [if_neg hbit] at hheader ⊢
      have hhere : libxrdpGetPduBytes [p0, p1] = .ok p1.toNat := by
        unfold libxrdpGetPduBytes
        dsimp only
        rw [if_neg htpkt, if_neg hbit]
      dsimp only
      by_cases hmore : p1.toNat > [p0, p1].length
      · rw [if_pos hmore]
        exact ⟨_, rfl, .more hmore (.whole hhere (by rw [hheader]; exact hmore))⟩
      · rw [if_neg hmore]
        exact pduBytes_dataIn h rfl rfl rfl rfl hheader.symm

theorem client_follows (h : Handlers) :
    Follows (clientTrans h.client) (clientFormat h) ClientMode where
  room := rfl
  keeps := rfl
  append {flags size b} c hmode := by
    cases hmode with
    | two b => exact .two _
    | header h2 =>
      rw [← pduHeader_append h2 c]
      exact .header (by rw [List.length_append]; omega)
    | whole hlen hlt =>
      refine .whole (pduBytes_append hlen c).1 ?_
      rwa [pduHeader_append (header_of_pduBytes hlen).1]
  small {flags size b} hmode := by
    cases hmode with
    | two b => decide
    | header h2 =>
      have := (pduHeader_bounds b).2
      omega
    | whole hlen hlt =>
      have := (pduBytes_append hlen []).2
      omega
  wanted {flags size b c n} hmode hframe := by
    have hframe : pduFrame (b ++ c) = some n := hframe
    cases hmode with
    | two b => exact (pduHeader_bounds _).1.trans (pduFrame_ge hframe)
    | header h2 =>
      rw [← pduHeader_append h2 c]
      exact pduFrame_ge hframe
    | whole hlen hlt =>
      rw [pduFrame_append hlen] at hframe
      rw [← Option.some.inj hframe]
      exact Nat.le_max_left _ _
  large {flags size b} c hmode hlarge := by
    have hlarge : IN_SIZE < size := hlarge
    unfold IN_SIZE at hlarge
    change pduFrame (b ++ c) = some size
    cases hmode with
    | two b => omega
    | header h2 =>
      have := (pduHeader_bounds b).2
      omega
    | whole hlen hlt => rw [pduFrame_append hlen, max_eq_left hlt.le]
  dataIn {recv t} hroom _ hmode := by
    have hdata : ∃ r, xrdpProcessDataIn h.client t.toServer = .ok r ∧
        DataIn (clientFormat h) ClientMode t (.ok (r.1, r.2.toIn)) := by
      have hsame : t.toServer.extraFlags = t.extraFlags := rfl
      generalize hflags : t.extraFlags = flags at hmode hsame
      generalize hn : t.inS.length = n at hmode
      unfold xrdpProcessDataIn
      rw [hsame]
      cases hmode with
      | two => exact twoBytes_dataIn h hn
      | header h2 => exact pduBytes_dataIn h rfl rfl rfl rfl hn
      | whole hlen hlt =>
        have hframe := pduFrame_append hlen t.sck
        rw [max_eq_left hlt.le, ← hn] at hframe
        exact ⟨_, rfl, wholePdu_dataIn h rfl rfl rfl rfl hframe hroom⟩
    obtain ⟨r, hrun, hout⟩ := hdata
    change DataIn _ _ _ ((xrdpProcessDataIn h.client t.toServer).map _)
    rw [hrun]
    exact hout

end Xrdp.Transport
