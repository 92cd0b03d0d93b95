import Xrdp.Lib.Chunks
import Xrdp.Scp.SessionList

/-!
# What is sent of a list of sessions

* `sessionBytes`, `packetBytes`, `wire` — a list as its packets should be.
* `Carried` — what has become of a session: its address is what was in the stream.
* `outPackets_spec` — the packets are those of the list as it is then.
* `AddressesThere` — the addresses are in the stream already.
* `carriedPackets_iff` — the list stays as it is just if they are.
-/

namespace Xrdp.Scp

open Wire Overlay StateTRules Chunks Sesman

/-! ## Packets as they should be -/

/-- The address of a session. -/
def addrBytes (cds : ScpDisconnectedSession) : List UInt8 :=
  if cds.addrType = SCP_ADDRESS_TYPE_IPV4 then beBytes 4 cds.ipv4addr.toNat
  else if cds.addrType = SCP_ADDRESS_TYPE_IPV6 then cds.ipv6addr.bytes
  else []

def sessionBytes (cds : ScpDisconnectedSession) : List UInt8 := sessionFields cds ++ addrBytes cds

/-- A packet with sessions of a list of `sescnt`. -/
def packetBytes (cmdset cmd sescnt : Nat) (continued : Bool) (sessions : List ScpDisconnectedSession) :
    List UInt8 :=
  messageHead (18 + (sessions.flatMap sessionBytes).length) cmdset cmd ++ (beBytes 4 sescnt ++
    ([if continued then 1 else 0, UInt8.ofNat sessions.length] ++ sessions.flatMap sessionBytes))

/-- A list in packets; all but the last say that another one follows. -/
def wire (cmdset cmd sescnt : Nat) : List (List ScpDisconnectedSession) → List UInt8
  | [] => []
  | c :: cs => packetBytes cmdset cmd sescnt (!cs.isEmpty) c ++ wire cmdset cmd sescnt cs

@[simp] theorem sessionFields_length (cds : ScpDisconnectedSession) :
    (sessionFields cds).length = 20 := by
  simp [sessionFields]

theorem addrBytes_length_le (cds : ScpDisconnectedSession) : (addrBytes cds).length ≤ 16 := by
  rw [addrBytes]
  split
  · rw [beBytes_length]
    decide
  · split
    · rw [cds.ipv6addr.bytes_length]
    · exact Nat.zero_le _

theorem sessionBytes_length (cds : ScpDisconnectedSession) :
    (sessionBytes cds).length = 20 + (addrBytes cds).length := by
  rw [sessionBytes, List.length_append, sessionFields_length]

theorem sessionBytes_length_le (cds : ScpDisconnectedSession) : (sessionBytes cds).length ≤ 36 := by
  have h := addrBytes_length_le cds
  rw [sessionBytes_length]
  omega

theorem flatMap_sessionBytes_length_le (sessions : List ScpDisconnectedSession) :
    (sessions.flatMap sessionBytes).length ≤ 36 * sessions.length := by
  induction sessions with
  | nil => exact Nat.le_refl _
  | cons cds sessions ih =>
    have h := sessionBytes_length_le cds
    rw [List.flatMap_cons, List.length_append, List.length_cons]
    omega

theorem packetBytes_length (cmdset cmd sescnt : Nat) (continued : Bool)
    (sessions : List ScpDisconnectedSession) :
    (packetBytes cmdset cmd sescnt continued sessions).length =
      18 + (sessions.flatMap sessionBytes).length := by
  simp only [packetBytes, List.length_append, messageHead_length, beBytes_length, List.length_cons,
    List.length_nil]
  omega

/-! ## A session goes out -/

theorem leBytes_leVal (bytes : List UInt8) : leBytes bytes.length (leVal bytes) = bytes := by
  induction bytes with
  | nil => rfl
  | cons b bytes ih =>
    have hb := b.toNat_lt
    have hdiv : (b.toNat + 256 * leVal bytes) / 256 = leVal bytes := by omega
    rw [List.length_cons, leVal, leBytes, hdiv, ih]
    congr 1
    apply UInt8.toNat_inj.1
    rw [UInt8.toNat_ofNat']
    omega

/-- A number of four bytes that has been read is these bytes. -/
theorem beBytes_leVal {bytes : List UInt8} (h : bytes.length = 4) :
    beBytes 4 (UInt32.ofNat (leVal bytes.reverse)).toNat = bytes := by
  have hlen : bytes.reverse.length = 4 := by rw [List.length_reverse, h]
  have hlt := leVal_lt bytes.reverse
  rw [hlen] at hlt
  rw [UInt32.toNat_ofNat_of_lt' hlt, beBytes, ← hlen, leBytes_leVal, List.reverse_reverse]

/-- What a session is after it went out of a stream with this data, at `p`. -/
structure Carried (data : List UInt8) (p : Nat) (cds cds' : ScpDisconnectedSession) : Prop where
  fields : sessionFields cds' = sessionFields cds
  addr : addrBytes cds' = (data.drop (p + 20)).take (addrBytes cds).length
  length : (addrBytes cds').length = (addrBytes cds).length
  /-- Nothing else has changed. -/
  same : addrBytes cds' = addrBytes cds → cds' = cds

theorem Carried.sessionBytes_length {data : List UInt8} {p : Nat}
    {cds cds' : ScpDisconnectedSession} (h : Carried data p cds cds') :
    (sessionBytes cds').length = (sessionBytes cds).length := by
  rw [Scp.sessionBytes_length, Scp.sessionBytes_length, h.length]

theorem outBytes_ok {data bytes : List UInt8} {p : Nat} (h : p + bytes.length ≤ data.length) :
    outBytes bytes ⟨data, p⟩ = .ok ((), ⟨overlay data p bytes, p + bytes.length⟩) := if_pos h

/-- Bytes behind what has been written are read, as if they had been written, too. -/
theorem inBytes_overlay {data bytes : List UInt8} {p n : Nat}
    (h : p + bytes.length + n ≤ data.length) :
    ∃ addr : { addr : List UInt8 // addr.length = n },
      addr.1 = (data.drop (p + bytes.length)).take n ∧
        inBytes n ⟨overlay data p bytes, p + bytes.length⟩ =
          .ok (addr, ⟨overlay data p (bytes ++ addr.1), p + bytes.length + n⟩) := by
  have hp : p + bytes.length ≤ data.length := by omega
  have hle : p ≤ data.length := by omega
  have hroom : p + bytes.length + n ≤ (overlay data p bytes).length := by rwa [length_overlay hp]
  have hdrop := drop_overlay hle (Nat.le_refl (p + bytes.length))
  refine ⟨⟨(data.drop (p + bytes.length)).take n, ?_⟩, rfl, ?_⟩
  · rw [List.length_take, List.length_drop]
    omega
  · have hself : overlay data p (bytes ++ (data.drop (p + bytes.length)).take n) =
        overlay data p bytes := by
      rw [← overlay_append hle, ← hdrop, overlay_self]
    rw [inBytes]
    dsimp only
    rw [dif_pos hroom, hself]
    simp only [hdrop]

theorem beBytes_toNat_inj {v w : UInt32} (h : beBytes 4 v.toNat = beBytes 4 w.toNat) : v = w := by
  have hval : ∀ u : UInt32, leVal (beBytes 4 u.toNat).reverse = u.toNat := by
    intro u
    rw [beBytes, List.reverse_reverse, leVal_leBytes]
    exact Nat.mod_eq_of_lt u.toNat_lt
  apply UInt32.toNat_inj.1
  rw [← hval v, h, hval]

/-- **A session goes out** with what the stream has in the place of its address. -/
theorem outSession_spec (cds : ScpDisconnectedSession) {data : List UInt8} {p : Nat}
    (h : p + 36 ≤ data.length) : ∃ cds', outSession cds ⟨data, p⟩ =
      .ok ((cds', (sessionBytes cds).length),
        ⟨overlay data p (sessionBytes cds'), p + (sessionBytes cds).length⟩) ∧
      Carried data p cds cds' := by
  have hfields := sessionFields_length cds
  have hout := @outBytes_ok data (sessionFields cds) p (by omega)
  rw [outSession, bind_ok hout]
  by_cases h4 : cds.addrType = SCP_ADDRESS_TYPE_IPV4
  · obtain ⟨addr, haddr, hin⟩ := @inBytes_overlay data (sessionFields cds) p 4 (by omega)
    obtain ⟨v, hv⟩ : ∃ v, v = UInt32.ofNat (leVal addr.1.reverse) := ⟨_, rfl⟩
    have hbytes : beBytes 4 v.toNat = addr.1 := by rw [hv, beBytes_leVal addr.2]
    have hnew : addrBytes { cds with ipv4addr := v } = addr.1 := by rw [addrBytes, if_pos h4, hbytes]
    have hold : addrBytes cds = beBytes 4 cds.ipv4addr.toNat := by rw [addrBytes, if_pos h4]
    have hlen : (addrBytes cds).length = 4 := by rw [hold, beBytes_length]
    rw [if_pos h4, bind_ok hin, ← hv]
    refine ⟨{ cds with ipv4addr := v }, ?_, rfl, ?_, ?_, fun hsame => ?_⟩
    · rw [sessionBytes_length, hlen, sessionBytes, hnew, hfields]
      rfl
    · rw [hnew, hlen, haddr, hfields]
    · rw [hnew, hlen, addr.2]
    · rw [hnew, ← hbytes, hold] at hsame
      rw [beBytes_toNat_inj hsame]
  · rw [if_neg h4]
    by_cases h6 : cds.addrType = SCP_ADDRESS_TYPE_IPV6
    · obtain ⟨addr, haddr, hin⟩ := @inBytes_overlay data (sessionFields cds) p 16 (by omega)
      have hold : addrBytes cds = cds.ipv6addr.bytes := by rw [addrBytes, if_neg h4, if_pos h6]
      have hnew : addrBytes { cds with ipv6addr := ⟨addr.1, addr.2⟩ } = addr.1 := by
        rw [addrBytes, if_neg h4, if_pos h6]
      have hlen : (addrBytes cds).length = 16 := by rw [hold, cds.ipv6addr.bytes_length]
      rw [if_pos h6, bind_ok hin]
      refine ⟨{ cds with ipv6addr := ⟨addr.1, addr.2⟩ }, ?_, rfl, ?_, ?_, fun hsame => ?_⟩
      · rw [sessionBytes_length, hlen, sessionBytes, hnew, hfields]
        rfl
      · rw [hnew, hlen, haddr, hfields]
      · rw [hnew, hlen, addr.2]
      · rw [hnew, hold] at hsame
        simp only [hsame]
    · have hold : addrBytes cds = [] := by rw [addrBytes, if_neg h4, if_neg h6]
      rw [if_neg h6]
      refine ⟨cds, ?_, rfl, ?_, rfl, fun _ => rfl⟩
      · rw [sessionBytes, hold, List.append_nil, hfields]
        rfl
      · rw [hold, List.length_nil, List.take_zero]

/-! ## Sessions of a packet -/

/-- What sessions are after they went out one behind the other. -/
def CarriedAll (data : List UInt8) : Nat → List ScpDisconnectedSession →
    List ScpDisconnectedSession → Prop
  | _, [], [] => True
  | p, cds :: rest, cds' :: rest' =>
    Carried data p cds cds' ∧ CarriedAll data (p + (sessionBytes cds).length) rest rest'
  | _, _, _ => False

variable {data : List UInt8} {p : Nat} {c c' : List ScpDisconnectedSession}

theorem CarriedAll.lengths (h : CarriedAll data p c c') :
    c'.length = c.length ∧ (c'.flatMap sessionBytes).length = (c.flatMap sessionBytes).length := by
  induction c generalizing p c' with
  | nil =>
    cases c' with
    | nil => exact ⟨rfl, rfl⟩
    | cons _ _ => exact h.elim
  | cons cds rest ih =>
    cases c' with
    | nil => exact h.elim
    | cons cds' rest' =>
      obtain ⟨h1, h2⟩ := ih h.2
      simp only [List.length_cons, List.flatMap_cons, List.length_append, h1, h2,
        h.1.sessionBytes_length, and_self]

/-- What is before has been written. -/
theorem CarriedAll.of_overlay {bytes : List UInt8} {q : Nat} (hp : p ≤ data.length)
    (hq : p + bytes.length ≤ q) (h : CarriedAll (overlay data p bytes) q c c') :
    CarriedAll data q c c' := by
  induction c generalizing q c' with
  | nil =>
    cases c' with
    | nil => trivial
    | cons _ _ => exact h.elim
  | cons cds rest ih =>
    cases c' with
    | nil => exact h.elim
    | cons cds' rest' =>
      refine ⟨⟨h.1.fields, ?_, h.1.length, h.1.same⟩, ih (by omega) h.2⟩
      rw [h.1.addr, drop_overlay hp (by omega)]

theorem outSessions_spec (pre post : List ScpDisconnectedSession)
    (h : p + 36 * c.length ≤ data.length) : ∃ c',
      outSessions c.length pre.length (pre ++ (c ++ post)) ⟨data, p⟩ =
        .ok ((pre ++ (c' ++ post), (c.flatMap sessionBytes).length),
          ⟨overlay data p (c'.flatMap sessionBytes), p + (c.flatMap sessionBytes).length⟩) ∧
      CarriedAll data p c c' := by
  induction c generalizing pre data p with
  | nil =>
    refine ⟨[], ?_, trivial⟩
    rw [List.flatMap_nil, overlay_nil]
    rfl
  | cons cds rest ih =>
    rw [List.length_cons] at h
    have hfirst : p + 36 ≤ data.length := by omega
    obtain ⟨cds', hout, hcarried⟩ := outSession_spec cds hfirst
    have hle := sessionBytes_length_le cds
    have hlen := hcarried.sessionBytes_length
    have hroom : p + (sessionBytes cds').length ≤ data.length := by omega
    have hbehind : p + (sessionBytes cds).length + 36 * rest.length ≤
        (overlay data p (sessionBytes cds')).length := by
      rw [length_overlay hroom]
      omega
    obtain ⟨rest', hrest, hcarrieds⟩ := ih (pre ++ [cds']) hbehind
    have hget : (pre ++ (cds :: rest ++ post))[pre.length]? = some cds := by simp
    have hset : (pre ++ (cds :: rest ++ post)).set pre.length cds' =
        pre ++ [cds'] ++ (rest ++ post) := by simp
    refine ⟨cds' :: rest', ?_, hcarried, hcarrieds.of_overlay (by omega) (by omega)⟩
    rw [List.length_append, List.length_singleton] at hrest
    rw [List.length_cons, outSessions, hget]
    dsimp only
    rw [bind_ok hout, hset, bind_ok hrest, ← hlen, overlay_append (by omega)]
    simp only [List.flatMap_cons, List.length_append, List.append_assoc, List.cons_append,
      Nat.add_assoc, hlen]
    rfl

/-! ## Packets -/

variable {cmdset cmd sescnt idx : Nat}

/-- A stream that begins with what is sent. -/
theorem sendStream_ok {bytes : List UInt8} (h : bytes.length ≤ data.length)
    (hint : bytes.length < 2 ^ 31) (p : Nat) : sendStream (int bytes.length)
      ⟨overlay data 0 bytes, p⟩ = .ok (bytes, ⟨overlay data 0 bytes, p⟩) := by
  have hlen : (overlay data 0 bytes).length = data.length := length_overlay (by omega)
  rw [sendStream, int_of_small hint]
  dsimp only
  rw [scpTcpForceSend, if_pos (by rw [hlen]; omega), Int.toNat_natCast, overlay_zero, List.take_left]
  rfl

/-- The sessions `c` are those of the packet `idx`: `pre` is before them, and `post` behind. -/
structure PacketSessions (sescnt idx : Nat) (pre c post : List ScpDisconnectedSession) : Prop where
  before : pre.length = idx * SCP_SERVER_MAX_LIST_SIZE
  sescnt : pre.length + c.length + post.length = sescnt
  full : c.length = SCP_SERVER_MAX_LIST_SIZE ∨ c.length < SCP_SERVER_MAX_LIST_SIZE ∧ post = []

variable {pre post : List ScpDisconnectedSession}

theorem PacketSessions.length_le (h : PacketSessions sescnt idx pre c post) : c.length ≤ 100 := by
  have hfull := h.full
  rw [SCP_SERVER_MAX_LIST_SIZE] at hfull
  omega

/-- The packet is the last just if there is nothing behind. -/
theorem PacketSessions.last (h : PacketSessions sescnt idx pre c post)
    (hint : (idx + 1) * SCP_SERVER_MAX_LIST_SIZE < 2 ^ 31) :
    decide (int ((idx + 1) * SCP_SERVER_MAX_LIST_SIZE : Nat) ≥ sescnt) = post.isEmpty := by
  obtain ⟨hbefore, hsescnt, hfull⟩ := h
  rw [SCP_SERVER_MAX_LIST_SIZE] at *
  rw [int_of_small hint]
  cases post with
  | nil =>
    rw [List.length_nil] at hsescnt
    exact decide_eq_true (by omega)
  | cons x xs =>
    rw [List.length_cons] at hsescnt
    refine decide_eq_false ?_
    rcases hfull with hfull | ⟨-, hnil⟩
    · omega
    · cases hnil

theorem PacketSessions.pidx (h : PacketSessions sescnt idx pre c post) :
    (if post.isEmpty = true then sescnt - idx * SCP_SERVER_MAX_LIST_SIZE
      else SCP_SERVER_MAX_LIST_SIZE) = c.length := by
  obtain ⟨hbefore, hsescnt, hfull⟩ := h
  cases post with
  | nil =>
    rw [List.length_nil] at hsescnt
    rw [List.isEmpty_nil, if_pos rfl]
    omega
  | cons x xs =>
    rw [List.isEmpty_cons, if_neg (by decide)]
    rcases hfull with hfull | ⟨-, hnil⟩
    · exact hfull.symm
    · cases hnil

/-- **A packet goes out.** -/
theorem outPacket_spec (hdata : 3618 ≤ data.length) (h : PacketSessions sescnt idx pre c post)
    (hint : (idx + 1) * SCP_SERVER_MAX_LIST_SIZE < 2 ^ 31) (cmdset cmd p : Nat) : ∃ c',
      outPacket cmdset cmd sescnt idx (pre ++ (c ++ post)) ⟨data, p⟩ =
        .ok ((pre ++ (c' ++ post), packetBytes cmdset cmd sescnt (!post.isEmpty) c'),
          ⟨overlay data 0 (packetBytes cmdset cmd sescnt (!post.isEmpty) c'), 8⟩) ∧
      CarriedAll data 18 c c' := by
  have hcle := h.length_le
  have hflag : (if post.isEmpty = true then (0 : UInt8) else 1) =
      if (!post.isEmpty) = true then 1 else 0 := by cases post <;> rfl
  -- the numbers behind the place for the header, the sessions, and the header
  obtain ⟨numbers, hnumbers⟩ : ∃ numbers, numbers = beBytes 2 cmdset ++ beBytes 2 cmd ++
      beBytes 4 sescnt ++ [if (!post.isEmpty) = true then 1 else 0, UInt8.ofNat c.length] := ⟨_, rfl⟩
  have hnumbersLen : numbers.length = 10 := by
    rw [hnumbers]
    simp
  have hroom : 8 + numbers.length ≤ data.length := by omega
  have hdata₁ := length_overlay hroom
  obtain ⟨c', hsessions, hcarried⟩ := @outSessions_spec (overlay data 8 numbers) 18 c pre post
    (by omega)
  have hcarried' := hcarried.of_overlay (by omega) (by omega)
  obtain ⟨hclen, hbytes⟩ := hcarried'.lengths
  have hbody := flatMap_sessionBytes_length_le c
  obtain ⟨head, hhead⟩ : ∃ head, head =
    beBytes 4 1 ++ beBytes 4 (18 + (c.flatMap sessionBytes).length) := ⟨_, rfl⟩
  have hheadLen : head.length = 8 := by
    rw [hhead]
    simp
  obtain ⟨packet, hpacket⟩ : ∃ packet, packet =
    packetBytes cmdset cmd sescnt (!post.isEmpty) c' := ⟨_, rfl⟩
  have hwhole : head ++ (numbers ++ c'.flatMap sessionBytes) = packet := by
    rw [hpacket, packetBytes, messageHead, hbytes, hclen, hnumbers, hhead]
    simp only [List.append_assoc]
  have hpacketLen : packet.length = 18 + (c.flatMap sessionBytes).length := by
    rw [hpacket, packetBytes_length, hbytes]
  have hbodyLen : 8 + (numbers ++ c'.flatMap sessionBytes).length ≤ data.length := by
    rw [List.length_append]
    omega
  have hdata₂ := length_overlay hbodyLen
  have hjoin : overlay (overlay data 8 numbers) 18 (c'.flatMap sessionBytes) =
      overlay data 8 (numbers ++ c'.flatMap sessionBytes) := by
    rw [← overlay_append (by omega), hnumbersLen]
  have hjoin' : overlay (overlay data 8 (numbers ++ c'.flatMap sessionBytes)) 0 head =
      overlay data 0 packet := by
    have hbefore := @overlay_before _ data head (numbers ++ c'.flatMap sessionBytes) 0 (by omega)
    rwa [Nat.zero_add, hheadLen, hwhole] at hbefore
  have hpointer : ∀ q s, setPointer q s = .ok ((), { s with p := q }) := fun _ _ => rfl
  have hsend := @sendStream_ok data packet (by omega) (by omega) 8
  refine ⟨c', ?_, hcarried'⟩
  rw [outPacket, h.last hint]
  dsimp only
  rw [h.pidx, hflag, ← hnumbers, ← h.before, bind_ok (hpointer 8 _), bind_ok (outBytes_ok hroom),
    hnumbersLen, bind_ok hsessions]
  dsimp only
  rw [hjoin, bind_ok (hpointer 0 _)]
  dsimp only
  rw [← hhead, bind_ok (outBytes_ok (by omega)), hheadLen, hjoin', ← hpacketLen, bind_ok hsend,
    hpacket]
  rfl

/-! ## All packets -/

/-- What the sessions of packets are after they went out, one packet over the other. -/
def CarriedPackets (cmdset cmd sescnt : Nat) : List UInt8 → List (List ScpDisconnectedSession) →
    List (List ScpDisconnectedSession) → Prop
  | _, [], [] => True
  | data, c :: cs, c' :: cs' => CarriedAll data 18 c c' ∧ CarriedPackets cmdset cmd sescnt
      (overlay data 0 (packetBytes cmdset cmd sescnt (!cs'.isEmpty) c')) cs cs'
  | _, _, _ => False

theorem pktcnt_drop {rest : List ScpDisconnectedSession} (h : rest ≠ []) :
    pktcnt rest.length = pktcnt (rest.drop SCP_SERVER_MAX_LIST_SIZE).length + 1 := by
  have hpos := List.length_pos_of_ne_nil h
  rw [List.length_drop, pktcnt, pktcnt, SCP_SERVER_MAX_LIST_SIZE]
  split <;> split <;> omega

/-- **The packets go out**, by induction on the packets. -/
theorem outPackets_spec (hsescnt : sescnt ≤ 2147483600) (rest : List ScpDisconnectedSession)
    (hdata : 3618 ≤ data.length) (hpre : rest ≠ [] → pre.length = idx * SCP_SERVER_MAX_LIST_SIZE)
    (hlen : pre.length + rest.length = sescnt) : ∃ rest' s',
      outPackets cmdset cmd sescnt (pktcnt rest.length) idx (pre ++ rest) ⟨data, p⟩ =
        .ok ((pre ++ rest', wire cmdset cmd sescnt (chunks SCP_SERVER_MAX_LIST_SIZE rest')), s') ∧
      rest'.length = rest.length ∧ CarriedPackets cmdset cmd sescnt data
        (chunks SCP_SERVER_MAX_LIST_SIZE rest) (chunks SCP_SERVER_MAX_LIST_SIZE rest') := by
  have hsize : 0 < SCP_SERVER_MAX_LIST_SIZE := by decide
  induction rest using chunks_induction hsize generalizing idx pre data p with
  | nil =>
    refine ⟨[], ⟨data, p⟩, ?_, rfl, ?_⟩
    · rw [chunks_nil]
      rfl
    · rw [chunks_nil]
      trivial
  | step rest hrest ih =>
    obtain ⟨c, hc⟩ : ∃ c, c = rest.take SCP_SERVER_MAX_LIST_SIZE := ⟨_, rfl⟩
    obtain ⟨post, hpost⟩ : ∃ post, post = rest.drop SCP_SERVER_MAX_LIST_SIZE := ⟨_, rfl⟩
    have hsplit : rest = c ++ post := by rw [hc, hpost, List.take_append_drop]
    have hfull : c.length = SCP_SERVER_MAX_LIST_SIZE ∨
        c.length < SCP_SERVER_MAX_LIST_SIZE ∧ post = [] := by
      rw [hc, hpost, List.length_take]
      rcases Nat.lt_or_ge rest.length SCP_SERVER_MAX_LIST_SIZE with hlt | hge
      · exact .inr ⟨by omega, List.drop_eq_nil_of_le (Nat.le_of_lt hlt)⟩
      · exact .inl (Nat.min_eq_left hge)
    have hcne : c ≠ [] := by
      rintro rfl
      rcases hfull with hfull | ⟨-, hnil⟩
      · exact absurd hfull (by decide)
      · exact hrest (by rw [hsplit, hnil, List.append_nil])
    have hposts : pre.length + c.length + post.length = sescnt := by
      rw [hsplit, List.length_append] at hlen
      omega
    have hpackets : PacketSessions sescnt idx pre c post := ⟨hpre hrest, hposts, hfull⟩
    have hbefore := hpre hrest
    have hcpos := List.length_pos_of_ne_nil hcne
    have hint : (idx + 1) * SCP_SERVER_MAX_LIST_SIZE < 2 ^ 31 := by
      rw [SCP_SERVER_MAX_LIST_SIZE] at hbefore ⊢
      omega
    obtain ⟨c', hpacket, hcarried⟩ := outPacket_spec hdata hpackets hint cmdset cmd p
    obtain ⟨hclen, hbytes⟩ := hcarried.lengths
    have hbody := flatMap_sessionBytes_length_le c
    have hcle := hpackets.length_le
    obtain ⟨packet, hpacketEq⟩ : ∃ packet, packet =
      packetBytes cmdset cmd sescnt (!post.isEmpty) c' := ⟨_, rfl⟩
    have hpacketLen : packet.length ≤ data.length := by
      rw [hpacketEq, packetBytes_length, hbytes]
      omega
    have hdata' : (overlay data 0 packet).length = data.length := length_overlay (by omega)
    have hpre' : post ≠ [] → (pre ++ c').length = (idx + 1) * SCP_SERVER_MAX_LIST_SIZE := by
      intro hpostne
      rcases hfull with hfull | ⟨-, hnil⟩
      · rw [List.length_append, hclen, hbefore, hfull, Nat.add_mul, Nat.one_mul]
      · exact absurd hnil hpostne
    have hlen' : (pre ++ c').length + post.length = sescnt := by
      rw [List.length_append, hclen]
      exact hposts
    rw [← hpost] at ih
    obtain ⟨post', s', hrun, hpostLen, hcarrieds⟩ := @ih (overlay data 0 packet) 8 (idx + 1) (pre ++ c')
      (hdata' ▸ hdata) hpre' hlen'
    have hcne' : c' ≠ [] := List.ne_nil_of_length_pos (hclen ▸ hcpos)
    have hfull' : c'.length = SCP_SERVER_MAX_LIST_SIZE ∨
        c'.length < SCP_SERVER_MAX_LIST_SIZE ∧ post' = [] := by
      rw [hclen, ← List.length_eq_zero_iff, hpostLen, List.length_eq_zero_iff]
      exact hfull
    have hflag : (!post.isEmpty) = !(chunks SCP_SERVER_MAX_LIST_SIZE post').isEmpty := by
      rw [isEmpty_chunks hsize, Bool.not_inj_iff, Bool.eq_iff_iff, List.isEmpty_iff_length_eq_zero,
        List.isEmpty_iff_length_eq_zero, hpostLen]
    refine ⟨c' ++ post', s', ?_, ?_, ?_⟩
    · rw [pktcnt_drop hrest, ← hpost, hsplit, outPackets, bind_ok hpacket, ← hpacketEq,
        ← List.append_assoc]
      dsimp only
      rw [bind_ok hrun, chunks_append hsize hcne' hfull', wire, ← hflag, ← hpacketEq,
        List.append_assoc]
      rfl
    · rw [hsplit, List.length_append, List.length_append, hclen, hpostLen]
    · rw [hsplit, chunks_append hsize hcne hfull, chunks_append hsize hcne' hfull']
      refine ⟨hcarried, ?_⟩
      rw [← hflag, ← hpacketEq]
      exact hcarrieds

/-! ## Lists that stay as they are -/

/-- The addresses of sessions are in the stream, where the sessions will be. -/
def AddressesIn (data : List UInt8) : Nat → List ScpDisconnectedSession → Prop
  | _, [] => True
  | p, cds :: rest => (data.drop (p + 20)).take (addrBytes cds).length = addrBytes cds ∧
    AddressesIn data (p + (sessionBytes cds).length) rest

/-- So they are whenever a packet is made, over the packets before. -/
def AddressesThere (cmdset cmd sescnt : Nat) : List UInt8 → List (List ScpDisconnectedSession) → Prop
  | _, [] => True
  | data, c :: cs => AddressesIn data 18 c ∧ AddressesThere cmdset cmd sescnt
      (overlay data 0 (packetBytes cmdset cmd sescnt (!cs.isEmpty) c)) cs

theorem carried_iff_one {cds cds' : ScpDisconnectedSession} (h : Carried data p cds cds') :
    (data.drop (p + 20)).take (addrBytes cds).length = addrBytes cds ↔ cds' = cds := by
  rw [← h.addr]
  constructor
  · exact h.same
  · rintro rfl
    rfl

theorem carriedAll_iff (h : CarriedAll data p c c') : AddressesIn data p c ↔ c' = c := by
  induction c generalizing p c' with
  | nil =>
    cases c' with
    | nil => exact iff_of_true trivial rfl
    | cons _ _ => exact h.elim
  | cons cds rest ih =>
    cases c' with
    | nil => exact h.elim
    | cons cds' rest' => rw [AddressesIn, carried_iff_one h.1, ih h.2, List.cons.injEq]

/-- **Packets stay as they are** just if their addresses are in the stream already. -/
theorem carriedPackets_iff {cs cs' : List (List ScpDisconnectedSession)}
    (h : CarriedPackets cmdset cmd sescnt data cs cs') :
    AddressesThere cmdset cmd sescnt data cs ↔ cs' = cs := by
  induction cs generalizing data cs' with
  | nil =>
    cases cs' with
    | nil => exact iff_of_true trivial rfl
    | cons _ _ => exact h.elim
  | cons c cs ih =>
    cases cs' with
    | nil => exact h.elim
    | cons c' cs' =>
      obtain ⟨hc, hcs⟩ := h
      have hempty : cs'.isEmpty = cs.isEmpty := by
        cases cs with
        | nil =>
          cases cs' with
          | nil => rfl
          | cons _ _ => exact hcs.elim
        | cons _ _ =>
          cases cs' with
          | nil => exact hcs.elim
          | cons _ _ => rfl
      rw [AddressesThere, carriedAll_iff hc, List.cons.injEq]
      refine and_congr_right fun heq => ?_
      rw [hempty, heq] at hcs
      exact ih hcs

/-! ## Lists that are too long -/

/-- Sessions that go out are sessions of the list, which keeps its length. -/
theorem outSessions_inList {n i : Nat} {ds ds' : List ScpDisconnectedSession} {size : Nat}
    {s s' : OutStream} (h : outSessions n i ds s = .ok ((ds', size), s')) :
    ds'.length = ds.length ∧ (n = 0 ∨ i + n ≤ ds.length) := by
  induction n generalizing i ds size s with
  | zero =>
    cases h
    exact ⟨rfl, .inl rfl⟩
  | succ n ih =>
    rw [outSessions] at h
    cases hget : ds[i]? with
    | none =>
      rw [hget] at h
      cases h
    | some cds =>
      rw [hget] at h
      have hlt := (List.getElem?_eq_some_iff.1 hget).1
      obtain ⟨⟨cds', size'⟩, s₁, -, h⟩ := bind_eq_ok.1 h
      obtain ⟨⟨ds₁, sizes⟩, s₂, hrest, h⟩ := bind_eq_ok.1 h
      cases h
      obtain ⟨hlen, hle⟩ := ih hrest
      rw [List.length_set] at hlen hle
      exact ⟨hlen, .inr (by omega)⟩

theorem outPacket_inList {ds ds' : List ScpDisconnectedSession} {sent : List UInt8}
    {s s' : OutStream} (h : outPacket cmdset cmd sescnt idx ds s = .ok ((ds', sent), s')) :
    ds'.length = ds.length ∧ (int ((idx + 1) * SCP_SERVER_MAX_LIST_SIZE : Nat) < sescnt →
      (idx + 1) * SCP_SERVER_MAX_LIST_SIZE ≤ ds.length) := by
  rw [outPacket] at h
  obtain ⟨_, s₁, -, h⟩ := bind_eq_ok.1 h
  obtain ⟨_, s₂, -, h⟩ := bind_eq_ok.1 h
  obtain ⟨⟨ds₁, sizes⟩, s₃, hsessions, h⟩ := bind_eq_ok.1 h
  obtain ⟨_, s₄, -, h⟩ := bind_eq_ok.1 h
  obtain ⟨_, s₅, -, h⟩ := bind_eq_ok.1 h
  obtain ⟨_, s₆, -, h⟩ := bind_eq_ok.1 h
  cases h
  obtain ⟨hlen, hle⟩ := outSessions_inList hsessions
  refine ⟨hlen, fun hlt => ?_⟩
  rw [decide_eq_false (Int.not_le.2 hlt), if_neg Bool.false_ne_true, SCP_SERVER_MAX_LIST_SIZE] at hle
  rw [SCP_SERVER_MAX_LIST_SIZE]
  omega

/-- The product of the loop is no `int` any more when the last packet is reached. -/
theorem outPackets_overflow {n : Nat} (hsescnt : sescnt < 2 ^ 31)
    (hlast : 2 ^ 31 ≤ (idx + n) * SCP_SERVER_MAX_LIST_SIZE)
    (hnear : (idx + n) * SCP_SERVER_MAX_LIST_SIZE < 2 ^ 31 + SCP_SERVER_MAX_LIST_SIZE) (hn : 0 < n)
    {ds ds' : List ScpDisconnectedSession} (hlen : ds.length = sescnt) {sent : List UInt8}
    {s s' : OutStream} : outPackets cmdset cmd sescnt n idx ds s ≠ .ok ((ds', sent), s') := by
  intro h
  induction n generalizing idx ds sent s with
  | zero => exact absurd hn (Nat.lt_irrefl 0)
  | succ n ih =>
    rw [outPackets] at h
    obtain ⟨⟨ds₁, packet⟩, s₁, hpacket, h⟩ := bind_eq_ok.1 h
    obtain ⟨⟨ds₂, packets⟩, s₂, hpackets, h⟩ := bind_eq_ok.1 h
    cases h
    obtain ⟨hlen₁, hle⟩ := outPacket_inList hpacket
    cases n with
    | zero =>
      have hwrap := int_of_wrapped hlast (by rw [SCP_SERVER_MAX_LIST_SIZE] at *; omega)
      rw [Nat.zero_add] at hlast hwrap
      have hroom := hle (by rw [hwrap]; rw [SCP_SERVER_MAX_LIST_SIZE] at *; omega)
      omega
    | succ n =>
      have hassoc : idx + 1 + (n + 1) = idx + (n + 1 + 1) := by omega
      exact @ih (idx + 1) (hassoc ▸ hlast) (hassoc ▸ hnear) (Nat.succ_pos n) _ (hlen₁.trans hlen) _ _
        hpackets

end Xrdp.Scp
