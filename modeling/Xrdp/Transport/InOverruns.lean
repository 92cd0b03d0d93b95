import Xrdp.Transport.InFollows

/-!
# When the receive buffers are overrun

* `client_fails_iff` — a client, from when it connects.
* `Forced.mainLoop` — the transports that read a message at once, with a check, never fail.
* `api_mainLoop` — so it is with the clients of the channel server, if they fit.
* `never_overrun_iff` — for every transport, whatever comes in and however it is read.
* `announced_large` — a message of the channel server with a size of 65536.
-/

namespace Xrdp.Transport

open Frames

/-! ## The client -/

section

variable {env : Handler}

/-- A result of the client's transport as one of the others. -/
abbrev resultIn (r : Int × ServerTrans) : Int × InTrans := (r.1, r.2.toIn)

theorem recv_toIn (t : ServerTrans) (n toRead : Nat) :
    (clientTrans env).transRecv n toRead t.toIn = (t.recv n toRead).map ServerTrans.toIn := by
  unfold Setup.transRecv ServerTrans.recv
  dsimp only
  split
  · rw [if_pos ‹_›]
    rfl
  · rw [if_neg ‹_›]
    rfl

theorem dataIn_toIn (recv : Recv) (t : ServerTrans) :
    (clientTrans env).dataIn recv t.toIn = (t.dataIn env).map resultIn := by
  unfold Setup.dataIn ServerTrans.dataIn
  by_cases hall : t.inS.length = t.headerSize
  · have hall' : (t.toIn.inS.length : Int) = t.toIn.headerSize := congrArg Nat.cast hall
    rw [if_pos hall, if_pos hall']
    change ((xrdpProcessDataIn env t).map resultIn >>= _) = _
    cases xrdpProcessDataIn env t with
    | error e => rfl
    | ok r => rfl
  · have hall' : ¬ (t.toIn.inS.length : Int) = t.toIn.headerSize := fun h => hall (Int.ofNat.inj h)
    rw [if_neg hall, if_neg hall']
    rfl

theorem sendWaiting_toIn (turn : Turn) (rv : Int) (t : ServerTrans) :
    t.toIn.sendWaiting turn rv = resultIn (t.sendWaiting turn rv) := by
  unfold InTrans.sendWaiting ServerTrans.sendWaiting
  split <;> rfl

/-- `trans_check_wait_objs` of the client is the one of the others. -/
theorem client_turn (turn : Turn) (t : ServerTrans) (hup : t.status = .UP)
    (hlt : t.inS.length < t.headerSize) (hsmall : t.headerSize < 2 ^ 31) :
    (clientTrans env).transCheckWaitObjs turn t.toIn =
      (transCheckWaitObjs env turn t).map resultIn := by
  have hread : int (t.toIn.headerSize - t.toIn.inS.length) =
      (t.headerSize - t.inS.length : Nat) := by
    change int ((t.headerSize : Int) - (t.inS.length : Int)) = _
    rw [int_eq (by omega) (by omega)]
    omega
  have hup' : t.toIn.status = .UP := hup
  obtain ⟨recv, sendFails⟩ := turn
  unfold Setup.transCheckWaitObjs transCheckWaitObjs
  rw [if_neg (not_not.2 hup), if_neg (not_not.2 hup'), hread]
  cases recv with
  | none =>
    simp only [sendWaiting_toIn]
    rfl
  | wouldBlock =>
    simp only [and_false, if_false, Run.ok_bind, dataIn_toIn, Bool.false_eq_true]
    cases t.dataIn env with
    | error e => rfl
    | ok r => exact congrArg _ (sendWaiting_toIn _ r.1 r.2)
  | closed =>
    have hmore : t.headerSize - t.inS.length > 0 := by omega
    have hmore' : ((t.headerSize - t.inS.length : Nat) : Int) > 0 := by omega
    simp only [hmore, hmore', and_true, if_true]
    rfl
  | bytes n =>
    simp only [and_false, if_false, Int.toNat_natCast, recv_toIn, Bool.false_eq_true]
    cases t.recv n (t.headerSize - t.inS.length) with
    | error e => rfl
    | ok t₁ =>
      change ((clientTrans env).dataIn _ t₁.toIn >>= _) = _
      rw [dataIn_toIn, Run.ok_bind]
      cases t₁.dataIn env with
      | error e => rfl
      | ok r => exact congrArg _ (sendWaiting_toIn _ r.1 r.2)

theorem client_reads (h : Handlers) : Reads (clientFormat h) (transCheckWaitObjs h.client)
    greedyTurn fun t => Stands (clientFormat h) ClientMode t.toIn := by
  refine (client_follows h).reads.comap fun turn t done part rest hstand => ?_
  obtain ⟨size, hsize, hlt, hmode⟩ := hstand.wants
  have hsmall := (client_follows h).small hmode
  have hheader : t.headerSize = size := Int.ofNat.inj hsize
  have hinS : t.inS = part := hstand.inS
  exact client_turn turn t hstand.up (by rw [hinS, hheader]; exact hlt) (by rw [hheader]; exact hsmall)

theorem mainLoop_eq (turns : List Turn) (t : ServerTrans) :
    mainLoop env turns t = loop (transCheckWaitObjs env) turns t := by
  induction turns generalizing t with
  | nil => rfl
  | cons turn turns ih =>
    rw [mainLoop, loop]
    cases transCheckWaitObjs env turn t with
    | error e => rfl
    | ok r =>
      rw [Run.ok_bind]
      dsimp only
      rw [ih]

/-- What a turn while a client connects leads to, if it does not fail. -/
inductive Connecting (env : Handler) (sck : List UInt8) : Int × ServerTrans → Prop
  | failed {rv : Int} {t : ServerTrans} (hrv : rv ≠ 0) : Connecting env sck (rv, t)
  | same : Connecting env sck (0, .connect sck)
  | up {read : Nat} (h : env.connect sck = (0, true, read)) :
      Connecting env sck (0, .start (sck.drop read))
  | again {read : Nat} (h : env.connect sck = (0, false, read)) :
      Connecting env sck (0, .connect (sck.drop read))

theorem connecting_cases (sck : List UInt8) :
    Connecting env sck ((ServerTrans.connect sck).connecting env) := by
  unfold ServerTrans.connecting
  rcases hconnect : env.connect (ServerTrans.connect sck).sck with ⟨rv, up, read⟩
  dsimp only
  by_cases hrv : rv = 0
  · subst hrv
    rw [if_neg (not_not.2 rfl)]
    cases up with
    | true => exact .up hconnect
    | false => exact .again hconnect
  · rw [if_pos hrv]
    exact .failed one_ne_zero

theorem Connecting.sendWaiting {sck : List UInt8} {turn : Turn} {rv : Int} {t : ServerTrans}
    (h : Connecting env sck (rv, t)) : Connecting env sck (t.sendWaiting turn rv) := by
  unfold ServerTrans.sendWaiting
  split
  · exact .failed one_ne_zero
  · exact h

/-- Nothing is read before the session is up, other than by what connects. -/
theorem connect_turn (turn : Turn) (sck : List UInt8) :
    ∃ r, transCheckWaitObjs env turn (.connect sck) = .ok r ∧ Connecting env sck r ∧
      (turn = greedyTurn → r = (ServerTrans.connect sck).connecting env) := by
  have hdata : (ServerTrans.connect sck).dataIn env =
      .ok ((ServerTrans.connect sck).connecting env) := rfl
  have hcases := @connecting_cases env sck
  have hrecv : ∀ n, (ServerTrans.connect sck).recv n 0 = .ok (ServerTrans.connect sck) := by
    intro n
    unfold ServerTrans.recv ServerTrans.connect
    simp
  have hclosed : ¬ ((ServerTrans.connect sck).headerSize - (ServerTrans.connect sck).inS.length > 0) :=
    Nat.lt_irrefl 0
  have hup : (ServerTrans.connect sck).status = .UP := rfl
  obtain ⟨recv, sendFails⟩ := turn
  unfold transCheckWaitObjs
  rw [if_neg (not_not.2 hup)]
  cases recv with
  | none => exact ⟨_, rfl, Connecting.same.sendWaiting, fun h => by cases h⟩
  | wouldBlock =>
    simp only [and_false, if_false, Run.ok_bind, hdata, Bool.false_eq_true]
    exact ⟨_, rfl, hcases.sendWaiting, fun h => by cases h⟩
  | closed =>
    simp only [hclosed, false_and, if_false, Run.ok_bind, hdata]
    exact ⟨_, rfl, hcases.sendWaiting, fun h => by cases h⟩
  | bytes n =>
    have hzero : (ServerTrans.connect sck).headerSize - (ServerTrans.connect sck).inS.length = 0 := rfl
    simp only [and_false, if_false, hzero, hrecv, Run.ok_bind, hdata, Bool.false_eq_true]
    refine ⟨_, rfl, hcases.sendWaiting, fun h => ?_⟩
    cases h
    rfl

theorem start_stands (h : Handlers) (s : List UInt8) :
    Stands (clientFormat h) ClientMode (ServerTrans.start s).toIn [] [] s :=
  ⟨rfl, rfl, rfl, rfl, Nat.zero_le _, 2, rfl, Nat.zero_lt_two, .two []⟩

theorem client_fails_iff (h : Handlers) (sck : List UInt8) :
    (∃ turns e, mainLoop h.client turns (.connect sck) = .error e) ↔
      ∃ s, Connects h.client sck s ∧ Overruns (clientFormat h) [] s := by
  have hstart : ∀ s, (∃ turns e, loop (transCheckWaitObjs h.client) turns (.start s) = .error e) ↔
      Overruns (clientFormat h) [] s := fun s => (client_reads h).fails_iff (start_stands h s)
  simp only [mainLoop_eq]
  constructor
  · rintro ⟨turns, e, hfail⟩
    induction turns generalizing sck with
    | nil => cases hfail
    | cons turn turns ih =>
      obtain ⟨r, hturn, hcases, -⟩ := @connect_turn h.client turn sck
      cases hcases with
      | failed hrv =>
        rw [loop, hturn] at hfail
        dsimp only at hfail
        rw [if_pos hrv] at hfail
        cases hfail
      | same =>
        rw [loop_cons_zero hturn] at hfail
        exact ih sck hfail
      | up hconnect =>
        rw [loop_cons_zero hturn] at hfail
        exact ⟨_, .up hconnect, (hstart _).1 ⟨turns, e, hfail⟩⟩
      | again hconnect =>
        rw [loop_cons_zero hturn] at hfail
        obtain ⟨s, hs, hover⟩ := ih _ hfail
        exact ⟨s, .again hconnect hs, hover⟩
  · rintro ⟨s, hconnects, hover⟩
    induction hconnects with
    | @up sck read hconnect =>
      obtain ⟨turns, e, hloop⟩ := (hstart _).2 hover
      obtain ⟨r, hturn, -, hgreedy⟩ := @connect_turn h.client greedyTurn sck
      have hr : r = (0, ServerTrans.start (sck.drop read)) := by
        rw [hgreedy rfl]
        unfold ServerTrans.connecting
        rw [show (ServerTrans.connect sck).sck = sck from rfl, hconnect]
        rfl
      rw [hr] at hturn
      exact ⟨greedyTurn :: turns, e, by rw [loop_cons_zero hturn, hloop]⟩
    | @again sck s read hconnect _ ih =>
      obtain ⟨turns, e, hloop⟩ := ih hover
      obtain ⟨r, hturn, -, hgreedy⟩ := @connect_turn h.client greedyTurn sck
      have hr : r = (0, ServerTrans.connect (sck.drop read)) := by
        rw [hgreedy rfl]
        unfold ServerTrans.connecting
        rw [show (ServerTrans.connect sck).sck = sck from rfl, hconnect]
        rfl
      rw [hr] at hturn
      exact ⟨greedyTurn :: turns, e, by rw [loop_cons_zero hturn, hloop]⟩

end

/-! ## Messages that are read at once -/

section

variable {setup : Setup} {t : InTrans}

/-- Such a transport waits for a header. -/
structure Forced (t : InTrans) : Prop where
  header : t.headerSize = 8
  room : t.inS.length ≤ 8

theorem Forced.sendWaiting (ht : Forced t) (turn : Turn) (rv : Int) :
    Forced (t.sendWaiting turn rv).2 := by
  unfold InTrans.sendWaiting
  split
  · exact ⟨ht.header, ht.room⟩
  · exact ht

theorem forceRead_header (inSize : Nat) (size : Int) :
    (t.forceRead inSize size).2.headerSize = t.headerSize := by
  unfold InTrans.forceRead
  split
  · rfl
  split
  · rfl
  split
  · rfl
  split <;> rfl

/-- What is read at once is checked, and `in_s` is reset after it. -/
theorem Forced.dataIn {process : List (List UInt8) → List UInt8 → Int} {size : Int} (recv : Recv)
    (hdata : setup.transDataIn recv t = .ok (forcedDataIn process t setup.inSize size))
    (hinit : setup.noStreamInitOnDataIn = false) (ht : Forced t) :
    ∃ rv t', setup.dataIn recv t = .ok (rv, t') ∧ Forced t' := by
  unfold Setup.dataIn
  split
  · rw [hdata, hinit]
    refine ⟨_, _, rfl, ?_, Nat.zero_le 8⟩
    change (forcedDataIn process t setup.inSize size).2.headerSize = 8
    unfold forcedDataIn
    dsimp only
    split
    · exact (forceRead_header _ _).trans ht.header
    · exact (forceRead_header _ _).trans ht.header
  · exact ⟨0, t, rfl, ht⟩

/-- No more than a header is read. -/
theorem Forced.transRecv (ht : Forced t) (hsize : 8 ≤ setup.inSize) (n : Nat) :
    ∃ t', setup.transRecv n (8 - t.inS.length) t = .ok t' ∧ Forced t' := by
  have hroom := ht.room
  have hlen : (t.sck.take (min n (8 - t.inS.length))).length ≤ 8 - t.inS.length := by
    rw [List.length_take]
    omega
  unfold Setup.transRecv
  dsimp only
  rw [if_pos (by omega)]
  refine ⟨_, rfl, ht.header, ?_⟩
  rw [List.length_append]
  omega

/-- The turns of a transport that is set up with `forcedDataIn`. -/
theorem Forced.turn {process : List (List UInt8) → List UInt8 → Int} {size : InTrans → Int}
    (hdata : ∀ recv t, setup.transDataIn recv t = .ok (forcedDataIn process t setup.inSize (size t)))
    (hinit : setup.noStreamInitOnDataIn = false) (hsize : 8 ≤ setup.inSize) (turn : Turn)
    (ht : Forced t) : ∃ rv t', setup.transCheckWaitObjs turn t = .ok (rv, t') ∧ Forced t' := by
  have hroom := ht.room
  have hread : int (t.headerSize - t.inS.length) = (8 - t.inS.length : Nat) := by
    rw [ht.header, int_eq (by omega) (by omega)]
    omega
  have hin : ∀ recv t, Forced t → ∃ rv t', setup.dataIn recv t = .ok (rv, t') ∧ Forced t' :=
    fun recv t ht => Forced.dataIn recv (hdata recv t) hinit ht
  obtain ⟨recv, sendFails⟩ := turn
  unfold Setup.transCheckWaitObjs
  split
  · exact ⟨1, t, rfl, ht⟩
  rw [hread]
  cases recv with
  | none => exact ⟨_, _, rfl, ht.sendWaiting _ _⟩
  | wouldBlock =>
    obtain ⟨rv, t', hrun, ht'⟩ := hin .wouldBlock t ht
    simp only [and_false, if_false, Run.ok_bind, hrun, Bool.false_eq_true]
    exact ⟨_, _, rfl, ht'.sendWaiting _ _⟩
  | closed =>
    obtain ⟨rv, t', hrun, ht'⟩ := hin .closed t ht
    simp only [and_true, Run.ok_bind, hrun]
    split
    · exact ⟨1, _, rfl, ht.header, ht.room⟩
    · exact ⟨_, _, rfl, ht'.sendWaiting _ _⟩
  | bytes n =>
    obtain ⟨t₁, hrecv, ht₁⟩ := Forced.transRecv ht hsize n
    obtain ⟨rv, t', hrun, ht'⟩ := hin (.bytes n) t₁ ht₁
    simp only [and_false, if_false, Int.toNat_natCast, hrecv, Run.ok_bind, hrun, Bool.false_eq_true]
    exact ⟨_, _, rfl, ht'.sendWaiting _ _⟩

theorem Forced.mainLoop {process : List (List UInt8) → List UInt8 → Int} {size : InTrans → Int}
    (hdata : ∀ recv t, setup.transDataIn recv t = .ok (forcedDataIn process t setup.inSize (size t)))
    (hinit : setup.noStreamInitOnDataIn = false) (hsize : 8 ≤ setup.inSize) (turns : List Turn)
    (ht : Forced t) : ∃ r, setup.mainLoop turns t = .ok r := by
  unfold Setup.mainLoop
  induction turns generalizing t with
  | nil => exact ⟨_, rfl⟩
  | cons turn turns ih =>
    obtain ⟨rv, t', hturn, ht'⟩ := ht.turn hdata hinit hsize turn
    rw [loop, hturn]
    dsimp only
    split
    · exact ⟨_, rfl⟩
    · exact ih ht'

end

/-! ## The clients of the channel server -/

section

variable {h : Handlers} {t : InTrans} {inSize : Nat}

theorem int_sub {v : Int} {k : Nat} (hk : k ≤ (int v).toNat) : int (v - k) = int v - k := by
  have hbounds := int_bounds v
  have hsub : int (int v - k) = int (v - k) := Int.bmod_sub_bmod
  rw [← hsub]
  generalize int v = w at hk hbounds
  unfold int
  rw [Int.bmod_eq_of_le] <;> omega

/-- A transport that will not be overrun: it waits for its header, for no more of the channel than
there is room for, or for data. -/
inductive ApiFits (t : InTrans) : Prop
  | header (hflags : t.extraFlags = 0) (hsize : t.headerSize = 8) (hle : t.inS.length ≤ 8)
      (hfits : ¬ ApiOverruns (t.inS ++ t.sck))
  | channel (hflags : t.extraFlags = 1)
      (hroom : t.inS.length + min (int (t.headerSize - t.inS.length)).toNat t.sck.length ≤ 8192 * 4)
  | data (hflags : t.extraFlags = 2) (hsize : t.headerSize = 0) (hnil : t.inS = [])

theorem api_header_eq (recv : Recv) (hflags : t.extraFlags = 0) :
    myApiTransDataIn h inSize recv t = if int32At t.inS 4 ≠ 0 then (1, t)
      else (0, { t with headerSize := int32At t.inS 0, extraFlags := 1 }) := by
  simp only [myApiTransDataIn, hflags]

/-- There is room for what is announced, or for what comes in of it. -/
theorem channel_fits {bytes : Int} (hlen : t.inS.length = 8)
    (hsum : ¬ 8192 * 4 < min (8 + (int (bytes - 8)).toNat) (8 + t.sck.length)) :
    ApiFits { t with headerSize := bytes, extraFlags := 1 } := by
  refine .channel rfl ?_
  dsimp only
  rw [hlen, Nat.cast_ofNat]
  omega

/-- The header is there. -/
theorem api_header (recv : Recv) (hflags : t.extraFlags = 0) (hlen : t.inS.length = 8)
    (hfits : ¬ ApiOverruns (t.inS ++ t.sck)) {r : Int × InTrans}
    (hr : myApiTransDataIn h inSize recv t = r) : r.1 = 0 → ApiFits r.2 := by
  rw [api_header_eq recv hflags] at hr
  split at hr
  · cases hr
    exact fun h => absurd h one_ne_zero
  · rename_i hver
    intro _
    have hbytes : int32At (t.inS ++ t.sck) 0 = int32At t.inS 0 := int32At_append (by omega) _
    have hver' : int32At (t.inS ++ t.sck) 4 = int32At t.inS 4 := int32At_append (by omega) _
    unfold ApiOverruns at hfits
    rw [List.length_append, hbytes, hver', hlen] at hfits
    have hsum : ¬ 8192 * 4 < min (8 + (int (int32At t.inS 0 - 8)).toNat) (8 + t.sck.length) :=
      fun hlt => hfits ⟨Nat.le_add_right 8 _, not_not.1 hver, hlt⟩
    cases hr
    exact channel_fits hlen hsum

/-- The channel that is asked for is there. -/
theorem api_channel (recv : Recv) (hflags : t.extraFlags = 1) {r : Int × InTrans}
    (hr : myApiTransDataIn h inSize recv t = r) : ApiFits r.2 := by
  simp only [myApiTransDataIn, hflags] at hr
  subst hr
  exact .data rfl rfl rfl

/-- Data is read by what is called. -/
theorem api_data (recv : Recv) (ht : ApiFits t) (hflags : t.extraFlags = 2)
    (hsize : t.headerSize = 0) {r : Int × InTrans}
    (hr : myApiTransDataIn h inSize recv t = r) : r.1 = 0 → ApiFits r.2 := by
  obtain ⟨status, inS, headerSize, flags, sck, handed⟩ := t
  cases hflags
  cases recv with
  | bytes n =>
    change (if (sck.take (min n inSize)).length < 1 then _ else _) = r at hr
    split at hr
    · cases hr
      exact fun h => absurd h one_ne_zero
    · cases hr
      exact fun _ => .data rfl hsize rfl
  | _ =>
    cases hr
    exact fun h => absurd h one_ne_zero

/-- A call of `trans_data_in`. -/
theorem api_dataIn (recv : Recv) (ht : ApiFits t) :
    ∃ rv t', (apiTrans h).dataIn recv t = .ok (rv, t') ∧ (rv = 0 → ApiFits t') := by
  unfold Setup.dataIn
  by_cases hall : (t.inS.length : Int) = t.headerSize
  · rw [if_pos hall]
    refine ⟨_, _, rfl, ?_⟩
    change (myApiTransDataIn h (8192 * 4) recv t).1 = 0 →
      ApiFits (myApiTransDataIn h (8192 * 4) recv t).2
    cases ht with
    | header hflags hsize hle hfits =>
      rw [hsize] at hall
      exact api_header recv hflags (Int.ofNat.inj hall) hfits rfl
    | channel hflags hroom => exact fun _ => api_channel recv hflags rfl
    | data hflags hsize hnil => exact api_data recv (.data hflags hsize hnil) hflags hsize rfl
  · rw [if_neg hall]
    exact ⟨0, t, rfl, fun _ => ht⟩

theorem room_after {inS sck k cap : Nat} {toRead : Int} (hroom : inS + min toRead.toNat sck ≤ cap)
    (hk : k ≤ toRead.toNat) (hsck : k ≤ sck) :
    inS + k + min (toRead - k).toNat (sck - k) ≤ cap := by
  omega

/-- Some of what is wanted comes in. -/
theorem ApiFits.recv {k : Nat} (ht : ApiFits t) (hsck : k ≤ t.sck.length)
    (hk : k ≤ (int (t.headerSize - t.inS.length)).toNat) : t.inS.length + k ≤ 8192 * 4 ∧
      ApiFits { t with inS := t.inS ++ t.sck.take k, sck := t.sck.drop k } := by
  have hlen : (t.inS ++ t.sck.take k).length = t.inS.length + k := by
    rw [List.length_append, List.length_take, min_eq_left hsck]
  cases ht with
  | header hflags hsize hle hfits =>
    rw [hsize, int_eq (by omega) (by omega)] at hk
    refine ⟨by omega, .header hflags hsize ?_ ?_⟩
    · rw [hlen]
      omega
    · rwa [List.append_assoc, List.take_append_drop]
  | channel hflags hroom =>
    refine ⟨by omega, .channel hflags ?_⟩
    have hsub : int (t.headerSize - ((t.inS.length + k : Nat) : Int)) =
        int (t.headerSize - t.inS.length) - k := by
      rw [Nat.cast_add, ← sub_sub]
      exact int_sub hk
    dsimp only
    rw [hlen, List.length_drop, hsub]
    exact room_after hroom hk hsck
  | data hflags hsize hnil =>
    rw [hsize, hnil, int_eq (by decide) (by decide)] at hk
    have hzero : k = 0 := Nat.le_zero.1 hk
    subst hzero
    refine ⟨by simp [hnil], .data hflags hsize ?_⟩
    simp [hnil]

theorem api_recv (n : Nat) (ht : ApiFits t) :
    ∃ t', (apiTrans h).transRecv n (int (t.headerSize - t.inS.length)).toNat t = .ok t' ∧
      ApiFits t' := by
  generalize hwants : (int (t.headerSize - t.inS.length)).toNat = toRead
  obtain ⟨k, hk⟩ : ∃ k, k = min (min n toRead) t.sck.length := ⟨_, rfl⟩
  have htake : t.sck.take (min n toRead) = t.sck.take k := by
    rw [hk, List.take_eq_take_min]
  have hdrop : t.sck.drop (min n toRead) = t.sck.drop k := by
    rw [hk, List.drop_eq_drop_min]
  have hlen : (t.sck.take k).length = k := by
    rw [List.length_take]
    omega
  obtain ⟨hroom, hfits⟩ := @ApiFits.recv t k ht (by omega) (by omega)
  have hsize : (apiTrans h).inSize = 8192 * 4 := rfl
  unfold Setup.transRecv
  rw [htake, hdrop, hsize]
  dsimp only
  rw [hlen, if_pos hroom]
  exact ⟨_, rfl, hfits⟩

/-- What waits to be sent may end the run. -/
theorem api_sendWaiting {turn : Turn} {rv : Int} (ht : rv = 0 → ApiFits t) :
    (t.sendWaiting turn rv).1 = 0 → ApiFits (t.sendWaiting turn rv).2 := by
  unfold InTrans.sendWaiting
  split
  · exact fun h => absurd h one_ne_zero
  · exact ht

theorem api_turn (turn : Turn) (ht : ApiFits t) :
    ∃ r, (apiTrans h).transCheckWaitObjs turn t = .ok r ∧ (r.1 = 0 → ApiFits r.2) := by
  obtain ⟨recv, sendFails⟩ := turn
  unfold Setup.transCheckWaitObjs
  split
  · exact ⟨_, rfl, fun h => absurd h one_ne_zero⟩
  cases recv with
  | none => exact ⟨_, rfl, api_sendWaiting fun _ => ht⟩
  | wouldBlock =>
    obtain ⟨rv, t', hrun, ht'⟩ := @api_dataIn h t .wouldBlock ht
    simp only [and_false, if_false, Run.ok_bind, hrun, Bool.false_eq_true]
    exact ⟨_, rfl, api_sendWaiting ht'⟩
  | closed =>
    obtain ⟨rv, t', hrun, ht'⟩ := @api_dataIn h t .closed ht
    simp only [and_true, Run.ok_bind, hrun]
    split
    · exact ⟨_, rfl, fun h => absurd h one_ne_zero⟩
    · exact ⟨_, rfl, api_sendWaiting ht'⟩
  | bytes n =>
    obtain ⟨t₁, hrecv, ht₁⟩ := @api_recv h t n ht
    obtain ⟨rv, t', hrun, ht'⟩ := @api_dataIn h t₁ (.bytes n) ht₁
    simp only [and_false, if_false, hrecv, Run.ok_bind, hrun, Bool.false_eq_true]
    exact ⟨_, rfl, api_sendWaiting ht'⟩

theorem api_mainLoop (turns : List Turn) (ht : ApiFits t) :
    ∃ r, (apiTrans h).mainLoop turns t = .ok r := by
  unfold Setup.mainLoop
  induction turns generalizing t with
  | nil => exact ⟨_, rfl⟩
  | cons turn turns ih =>
    obtain ⟨r, hturn, ht'⟩ := @api_turn h t turn ht
    rw [loop, hturn]
    dsimp only
    split
    · exact ⟨_, rfl⟩
    · rename_i hrv
      exact ih (ht' (not_not.1 hrv))

theorem turn_overrun {setup : Setup} {n : Nat} {e : Stuck} (hup : t.status = .UP)
    (hrecv : setup.transRecv n (int (t.headerSize - t.inS.length)).toNat t = .error e) :
    setup.transCheckWaitObjs ⟨.bytes n, false⟩ t = .error e := by
  unfold Setup.transCheckWaitObjs
  rw [if_neg (not_not.2 hup)]
  simp only [and_false, if_false, hrecv, Bool.false_eq_true]
  rfl

theorem turn_reads {setup : Setup} {n : Nat} {t₁ : InTrans} {r : Int × InTrans}
    (hup : t.status = .UP)
    (hrecv : setup.transRecv n (int (t.headerSize - t.inS.length)).toNat t = .ok t₁)
    (hdata : setup.dataIn (.bytes n) t₁ = .ok r) :
    setup.transCheckWaitObjs ⟨.bytes n, false⟩ t = .ok r := by
  unfold Setup.transCheckWaitObjs
  rw [if_neg (not_not.2 hup)]
  simp only [and_false, if_false, hrecv, Run.ok_bind, hdata, Bool.false_eq_true]
  rfl

/-- The transport after its header. -/
def afterHeader (sck : List UInt8) (bytes : Int) : InTrans :=
  ⟨.UP, sck.take 8, bytes, 1, sck.drop 8, []⟩

theorem header_turn {sck : List UInt8} (hlen : 8 ≤ sck.length) (hver : int32At sck 4 = 0) :
    (apiTrans h).transCheckWaitObjs ⟨.bytes 8, false⟩ (.start 8 0 sck) =
      .ok (0, afterHeader sck (int32At sck 0)) := by
  have htake : (sck.take 8).length = 8 := by
    rw [List.length_take]
    omega
  have hat : ∀ i, i + 4 ≤ 8 → int32At (sck.take 8) i = int32At sck i := by
    intro i hi
    have happ := @int32At_append (sck.take 8) i (by omega) (sck.drop 8)
    rw [List.take_append_drop] at happ
    exact happ.symm
  have hdata := @api_header_eq h (InTrans.mk .UP (sck.take 8) 8 0 (sck.drop 8) []) (8192 * 4)
    (.bytes 8) rfl
  rw [if_neg (not_not.2 ((hat 4 (by omega)).trans hver))] at hdata
  have hbytes : int32At (InTrans.mk .UP (sck.take 8) 8 0 (sck.drop 8) []).inS 0 = int32At sck 0 :=
    hat 0 (by omega)
  rw [hbytes] at hdata
  refine @turn_reads (.start 8 0 sck) (apiTrans h) 8 ⟨.UP, sck.take 8, 8, 0, sck.drop 8, []⟩ _ rfl ?_ ?_
  · have hwants : (int ((InTrans.start 8 0 sck).headerSize - (InTrans.start 8 0 sck).inS.length)).toNat
        = 8 := rfl
    have hroom : (InTrans.start 8 0 sck).inS.length +
        ((InTrans.start 8 0 sck).sck.take (min 8 8)).length ≤ (apiTrans h).inSize := by
      change 0 + (sck.take 8).length ≤ 8192 * 4
      omega
    rw [hwants]
    exact (if_pos hroom).trans rfl
  · have hall : ((sck.take 8).length : Int) = 8 := by omega
    unfold Setup.dataIn
    rw [if_pos hall]
    change (Except.ok (myApiTransDataIn h (8192 * 4) (.bytes 8) _) >>= _) = _
    rw [hdata]
    rfl

theorem channel_turn {sck : List UInt8} {bytes : Int} (hlen : 8 ≤ sck.length)
    (hlarge : 8192 * 4 < min (8 + (int (bytes - 8)).toNat) sck.length) :
    (apiTrans h).transCheckWaitObjs ⟨.bytes (2 ^ 31), false⟩ (afterHeader sck bytes) =
      .error .outOfBounds := by
  have htake : (afterHeader sck bytes).inS.length = 8 := by
    change (sck.take 8).length = 8
    rw [List.length_take]
    omega
  have hbounds := (int_bounds (bytes - 8)).2
  refine turn_overrun rfl ?_
  have hheader : (afterHeader sck bytes).headerSize = bytes := rfl
  have hsck : (afterHeader sck bytes).sck = sck.drop 8 := rfl
  have hsize : (apiTrans h).inSize = 8192 * 4 := rfl
  rw [htake, hheader, Setup.transRecv, hsck, hsize, htake, Nat.cast_ofNat]
  generalize int (bytes - 8) = toRead at hlarge hbounds ⊢
  refine if_neg ?_
  rw [List.length_take, List.length_drop]
  omega

/-- Too much is announced, and read: the header first. -/
theorem api_overrun {sck : List UInt8} (hover : ApiOverruns sck) :
    ∃ turns e, (apiTrans h).mainLoop turns (.start 8 0 sck) = .error e := by
  obtain ⟨hlen, hver, hlarge⟩ := hover
  refine ⟨[⟨.bytes 8, false⟩, ⟨.bytes (2 ^ 31), false⟩], .outOfBounds, ?_⟩
  rw [Setup.mainLoop, loop_cons_zero (header_turn hlen hver),
    loop_cons_error (channel_turn hlen hlarge)]

end

/-! ## All of them -/

theorem run_fails {α : Type} {x : Run (Int × α)} :
    (∃ rv, x.map (·.1) = .ok rv) ↔ ¬ ∃ e, x = .error e := by
  cases x with
  | error e =>
    constructor
    · rintro ⟨rv, h⟩
      cases h
    · exact fun h => absurd ⟨e, rfl⟩ h
  | ok r =>
    constructor
    · rintro _ ⟨e, h⟩
      cases h
    · exact fun _ => ⟨_, rfl⟩

/-- A transport that reads frames, from its first one. -/
theorem Follows.run_iff {setup : Setup} {F : Format UInt8} {Mode : Nat → Nat → List UInt8 → Prop}
    (hF : Follows setup F Mode) {flags : Nat} (hmode : Mode flags 8 []) (sck : List UInt8) :
    (∀ turns, ∃ rv, (setup.mainLoop turns (.start 8 flags sck)).map (·.1) = .ok rv) ↔
      ¬ Overruns F [] sck := by
  have hstart : Stands F Mode (.start 8 flags sck) [] [] sck :=
    ⟨rfl, rfl, rfl, rfl, Nat.zero_le _, 8, rfl, by decide, hmode⟩
  rw [← List.nil_append sck, ← hF.reads.fails_iff hstart, List.nil_append]
  simp only [run_fails, not_exists]
  rfl

/-- **No byte is stored behind `in_s`**, whatever a peer sends and however it is read, just if what
it announces has room, as far as it sends it. -/
theorem never_overrun_iff (h : Handlers) (peer : Peer) (sck : List UInt8) :
    (∀ turns, ∃ rv, peer.run h sck turns = .ok rv) ↔ ¬ peer.Overruns h sck := by
  cases peer with
  | client =>
    change (∀ turns, ∃ rv, (mainLoop h.client turns (.connect sck)).map (·.1) = .ok rv) ↔ ¬ ∃ s, _
    rw [← client_fails_iff]
    simp only [run_fails, not_exists]
  | chansrv => exact (chan_follows h).run_iff (.header []) sck
  | xup => exact (mod_follows h).run_iff (.header []) sck
  | sesman =>
    refine iff_of_true (fun turns => ?_) id
    obtain ⟨r, hrun⟩ := @Forced.mainLoop (sesmanTrans h) (.start 8 0 sck) h.sesmanReply
      (fun t => int32BeAt t.inS 4) (fun _ _ => rfl) rfl (show 8 ≤ 8192 by decide) turns ⟨rfl, Nat.zero_le 8⟩
    exact run_fails.2 fun ⟨e, he⟩ => by rw [hrun] at he; cases he
  | xrdp =>
    refine iff_of_true (fun turns => ?_) id
    obtain ⟨r, hrun⟩ := @Forced.mainLoop (conTrans h) (.start 8 0 sck) h.processMessage
      (fun t => int32At t.inS 4) (fun _ _ => rfl) rfl (show 8 ≤ 8192 by decide) turns ⟨rfl, Nat.zero_le 8⟩
    exact run_fails.2 fun ⟨e, he⟩ => by rw [hrun] at he; cases he
  | chansrvApi =>
    change (∀ turns, ∃ rv, ((apiTrans h).mainLoop turns (.start 8 0 sck)).map (·.1) = .ok rv) ↔
      ¬ ApiOverruns sck
    simp only [run_fails]
    constructor
    · intro hall hover
      obtain ⟨turns, e, hloop⟩ := @api_overrun h sck hover
      exact hall turns ⟨e, hloop⟩
    · rintro hfits turns ⟨e, he⟩
      obtain ⟨r, hrun⟩ := @api_mainLoop h (.start 8 0 sck) turns
        (.header rfl rfl (Nat.zero_le 8) hfits)
      rw [hrun] at he
      cases he

/-- Nothing is made of messages. -/
def idleHandlers : Handlers :=
  ⟨⟨fun _ => (0, true, 0), fun _ _ _ => (0, 0)⟩, fun _ _ => 0, fun _ _ => 0, fun _ _ => 0, fun _ _ => 0,
    fun _ => 0, fun _ _ => 0⟩

/-- A message of 65536 bytes is announced, and 8193 of them are sent. -/
def largeMessage : List UInt8 := [0, 0, 0, 0, 0, 0, 1, 0] ++ List.replicate 8185 0

/-- **A byte of it is stored behind `in_s`.** -/
theorem announced_large : ¬ ∀ (h : Handlers) (peer : Peer) (sck : List UInt8) (turns : List Turn),
    ∃ rv, peer.run h sck turns = .ok rv := by
  intro hall
  have hsize : max 8 (int32At [0, 0, 0, 0, 0, 0, 1, 0] 4).toNat = 65536 := by decide
  have hformat : (chanFormat idleHandlers).frame = chanFrame := rfl
  have hframe : (chanFormat idleHandlers).frame largeMessage = some 65536 := by
    rw [hformat, largeMessage, chanFrame_append (by decide), hsize]
  have hlen : largeMessage.length = 8193 := by
    rw [largeMessage, List.length_append, List.length_replicate]
    rfl
  have hcapacity : (chanFormat idleHandlers).capacity = 8192 := rfl
  have hlarge : (chanFormat idleHandlers).capacity < min 65536 largeMessage.length := by
    rw [hlen, hcapacity]
    omega
  exact ((chan_follows idleHandlers).run_iff (.header []) largeMessage).1
    (hall idleHandlers .chansrv largeMessage) (.here hframe hlarge)

end Xrdp.Transport
