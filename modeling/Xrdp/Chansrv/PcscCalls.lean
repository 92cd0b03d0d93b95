import Xrdp.Chansrv.Smartcard
import Xrdp.Lib.Runs
import Mathlib.Data.List.Forall2
import Mathlib.Data.List.Perm.Basic

/-!
# Calls of the smart-card library

The threads of a program share one socket (`sesman/chansrv/pcsc/xrdp_pcsc.c`).  A call sends its request
under a lock, and takes the message at the head of the socket, under the lock again, if that has the code
of its command; `xrdp-chansrv` answers in the order in which the client has done so.

* `Calls`, `callStep` — the threads, the socket and the other end.
* `Holds` — every call that has returned has taken the message for its own request, and every request that
  the client has answered has one message.
* `calls_hold` — the runs in which it holds.
-/

namespace Xrdp.Chansrv.PcscCalls

open Smartcard Wire Runs Function

/-! ## Messages -/

/-- The length of the buffer that a function of the library has for the message. -/
def maxBytes : Command → Nat
  | .listReaders => 8192
  | .transmit => 8192
  | .control => 8192
  | .status => 8192
  | .getStatusChange => 8192
  | _ => 256

/-- What `scard_function_get_status_change_return` writes before the status. -/
def statusChange (a : Answer) : List UInt8 :=
  if a.status ≠ 0 then leBytes 4 0
  else
    let cReaders := a.uint32 28
    -- a number that is negative as an `int` is no number of readers
    leBytes 4 cReaders ++ if cReaders ≤ INT_MAX then a.bytes 32 (48 * cReaders) else []

/-- What is in a message; `data` is what the functions for readers, data and states write before the
status. -/
def body (a : Answer) (data : List UInt8) : Message → List UInt8
  | .establishContext appContext status => leBytes 4 appContext ++ leBytes 4 status
  | .connect hCard dwActiveProtocol status =>
    leBytes 4 hCard ++ leBytes 4 dwActiveProtocol ++ leBytes 4 status
  | .other .getStatusChange status => statusChange a ++ leBytes 4 status
  | .other .listReaders status => data ++ leBytes 4 status
  | .other .transmit status => data ++ leBytes 4 status
  | .other .control status => data ++ leBytes 4 status
  | .other .status status => data ++ leBytes 4 status
  | .other _ status => leBytes 4 status

def encode (c : Command) (body : List UInt8) : List UInt8 :=
  leBytes 4 body.length ++ leBytes 4 c.code ++ body

/-- The `uds_client_id` of the program. -/
def PROGRAM : Nat := 1

/-- The threads `ι`, the two directions of the socket and the other end, and what has gone on.  Calls are
numbered. -/
structure Calls (ι : Type) where
  /-- The calls that have sent their requests and wait for a message. -/
  waiting : ι → Option (Nat × Command)
  requests : List (Nat × Request)
  pcsc : Pcsc
  /-- The calls whose requests the client has not answered. -/
  forwarded : List Nat
  wire : List UInt8
  calls : Nat
  /-- The calls whose requests the client has answered while the program was connected. -/
  answered : List Nat
  /-- The messages that have been written, and for which call. -/
  written : List (Nat × List UInt8)
  /-- The calls that have returned, and what they have taken. -/
  returned : List (Nat × List UInt8)

variable {ι : Type} [DecidableEq ι]

/-- The program has connected. -/
def Calls.start : Calls ι :=
  ⟨fun _ => none, [], ⟨PROGRAM, [⟨PROGRAM, [], none⟩], []⟩, [], [], 0, [], [], []⟩

def Calls.Connected (s : Calls ι) : Prop := (getUdsClientById s.pcsc PROGRAM).isSome

instance (s : Calls ι) : Decidable s.Connected := inferInstanceAs (Decidable (_ = true))

/-- `send_message`, for the functions of the library that send one. -/
def sendMessage (s : Calls ι) (t : ι) (r : Request) : Calls ι :=
  match s.waiting t, r.command with
  | none, some c => { s with
    waiting := update s.waiting t (some (s.calls, c))
    requests := s.requests ++ [(s.calls, r)]
    calls := s.calls + 1 }
  | _, _ => s

/-- A call returns. -/
def Calls.return (s : Calls ι) (t : ι) (n : Nat) (taken wire : List UInt8) : Calls ι :=
  { s with
    waiting := update s.waiting t none
    wire := wire
    returned := s.returned ++ [(n, taken)] }

/-- One round of the loop of `get_message`, and what comes behind it. -/
def getMessage (s : Calls ι) (t : ι) : Calls ι :=
  match s.waiting t with
  | none => s
  | some (n, c) =>
    if s.wire = [] ∧ ¬ s.Connected then s.return t n [] []
    else if s.wire.length < 8 then s
    else if leVal ((s.wire.drop 4).take 4) ≠ c.code then s
    else
      let bytes := leVal (s.wire.take 4)
      let rest := s.wire.drop 8
      if maxBytes c < bytes then s.return t n (s.wire.take 8) rest
      else if rest.length < bytes then s.return t n s.wire []
      else s.return t n (s.wire.take (8 + bytes)) (rest.drop bytes)

/-- `my_pcsc_trans_data_in`. -/
def transDataIn (s : Calls ι) : Except Fault (Calls ι) :=
  match s.requests with
  | [] => .ok s
  | (n, r) :: requests => do
    let (o, pcsc) ← pcscStep s.pcsc (.request PROGRAM r)
    if o.closed then .ok { s with pcsc := pcsc, requests := [] }
    else .ok { s with pcsc := pcsc, requests := requests, forwarded := s.forwarded ++ [n] }

inductive CallEvent (ι : Type) where
  | call (t : ι) (r : Request)
  | getMessage (t : ι)
  | dataIn
  | answer (index : Nat) (a : Answer) (data : List UInt8)

/-- Every request that has been answered has one message; every call that has returned has taken the
message for its own request, and that alone. -/
structure Holds (s : Calls ι) : Prop where
  written : s.written.map (·.1) = s.answered
  own : ∀ r ∈ s.returned, r ∈ s.written
  once : (s.written.map (·.1)).Nodup ∧ (s.returned.map (·.1)).Nodup

/-- What a request names is there. -/
def Resolves (u : UdsClient) : Request → Prop
  | .establishContext => True
  | .releaseContext hContext => getPcscContextByAppContext u hContext ≠ none
  | .listReaders hContext => getPcscContextByAppContext u hContext ≠ none
  | .connect hContext => getPcscContextByAppContext u hContext ≠ none
  | .disconnect hCard => getPcscCardByAppCard u hCard ≠ none
  | .beginTransaction hCard => getPcscCardByAppCard u hCard ≠ none
  | .endTransaction hCard => getPcscCardByAppCard u hCard ≠ none
  | .transmit hCard => getPcscCardByAppCard u hCard ≠ none
  | .control hCard => getPcscCardByAppCard u hCard ≠ none
  | .status hCard => getPcscCardByAppCard u hCard ≠ none
  | .getStatusChange hContext cReaders =>
    0 ≤ cReaders ∧ cReaders ≤ 16 ∧ getPcscContextByAppContext u hContext ≠ none
  | .cancel hContext => getPcscContextByAppContext u hContext ≠ none
  | .ignored => True
  | .unknown => False

/-- The client's answer to a request can be handed on: a new context is at most 16 bytes, a new card is
too and has a context to go to, handles are left, and the message has room. -/
def Deliverable (s : Pcsc) (u : UdsClient) (c : Command) (a : Answer) (data : List UInt8) : Prop :=
  match c with
  | .establishContext => a.status = 0 → a.uint32 28 ≤ 16 ∧ s.autoinc < INT_MAX
  | .connect => a.status = 0 → 40 < a.intLen →
    u.connectContext.bind (getPcscContextByAppContext u) ≠ none ∧ a.uint32 40 ≤ 16 ∧
      s.autoinc < INT_MAX
  | .getStatusChange => a.status = 0 → a.uint32 28 ≤ INT_MAX → 8 + (4 + 48 * a.uint32 28 + 4) ≤ 8192
  | .listReaders => 8 + (data.length + 4) ≤ 8192
  | .transmit => 8 + (data.length + 4) ≤ 8192
  | .control => 8 + (data.length + 4) ≤ 8192
  | .status => 8 + (data.length + 4) ≤ 8192
  | _ => True

/-- The condition: no call is made while another of the same command waits; requests name what is there;
and the client's answers can be handed on. -/
def CallFits (s : Calls ι) : CallEvent ι → Prop
  | .call t r => ∀ c, r.command = some c → ∀ t' n, t' ≠ t → s.waiting t' ≠ some (n, c)
  | .getMessage _ => True
  | .dataIn => ∀ r ∈ s.requests.head?, ∀ u, getUdsClientById s.pcsc PROGRAM = some u → Resolves u r.2
  | .answer index a data => ∀ irp u, s.pcsc.irps[index]? = some irp →
      getUdsClientById s.pcsc PROGRAM = some u → Deliverable s.pcsc u irp.command a data

/-! ## The other end -/

section OtherEnd

variable {s s' : Pcsc} {u : UdsClient} {r : Request} {c : Command}

theorem code_injective {c c' : Command} (h : c.code = c'.code) : c = c' := by
  cases c <;> cases c' <;> first | rfl | cases h

/-- A connection is there after its tables have changed. -/
theorem getUdsClientById_setClient (s : Pcsc) (u : UdsClient) (id : Nat) :
    (getUdsClientById (setClient s u) id).isSome = (getUdsClientById s id).isSome := by
  rw [getUdsClientById, getUdsClientById]
  split
  · rfl
  · rw [setClient, Tables.find_put, Option.isSome_map]

/-- One request has been sent on, and the connection is there if it has been. -/
structure SentOn (s : Pcsc) (u : UdsClient) (c : Command) (s' : Pcsc) : Prop where
  irps : ∃ irp, s'.irps = s.irps ++ [irp] ∧ irp.userData = u.udsClientId ∧ irp.command = c
  clients : ∀ id, (getUdsClientById s' id).isSome = (getUdsClientById s id).isSome

theorem processOfContext_sentOn {handle : Nat} (h : getPcscContextByAppContext u handle ≠ none) :
    ∃ s', processOfContext s u c handle = some s' ∧ SentOn s u c s' := by
  obtain ⟨x, hx⟩ := Option.ne_none_iff_exists'.1 h
  refine ⟨sendIrp s ⟨u.udsClientId, c, x.context, [], handle⟩, ?_, ⟨_, rfl, rfl, rfl⟩, fun _ => rfl⟩
  rw [processOfContext, hx]
  rfl

theorem processOfCard_sentOn {handle : Nat} (h : getPcscCardByAppCard u handle ≠ none) :
    ∃ s', processOfCard s u c handle = some s' ∧ SentOn s u c s' := by
  obtain ⟨⟨x, y⟩, hxy⟩ := Option.ne_none_iff_exists'.1 h
  refine ⟨sendIrp s ⟨u.udsClientId, c, x.context, y.card, handle⟩, ?_, ⟨_, rfl, rfl, rfl⟩, fun _ => rfl⟩
  rw [processOfCard, hxy]
  rfl

theorem SentOn.setClient (h : SentOn s u c s') (v : UdsClient) : SentOn s u c (setClient s' v) :=
  ⟨h.irps, fun id => (getUdsClientById_setClient s' v id).trans (h.clients id)⟩

/-- **A request that names what is there** is sent on. -/
theorem scardProcessMsg_sentOn (hcommand : r.command = some c) (h : Resolves u r) :
    ∃ s', scardProcessMsg s u r = some s' ∧ SentOn s u c s' := by
  cases r with
  | ignored => cases hcommand
  | unknown => cases hcommand
  | establishContext =>
    cases hcommand
    exact ⟨_, rfl, ⟨_, rfl, rfl, rfl⟩, fun _ => rfl⟩
  | releaseContext handle =>
    cases hcommand
    obtain ⟨s', hs', hsent⟩ := @processOfContext_sentOn s u .releaseContext handle h
    refine ⟨udsClientRemoveContext s' u handle, ?_, hsent.setClient _⟩
    rw [scardProcessMsg, scardProcessReleaseContext, hs']
    rfl
  | connect handle =>
    cases hcommand
    obtain ⟨s', hs', hsent⟩ := @processOfContext_sentOn s u .connect handle h
    refine ⟨Smartcard.setClient s' (u.setConnectContext handle), ?_, hsent.setClient _⟩
    rw [scardProcessMsg, scardProcessConnect, hs']
    rfl
  | getStatusChange handle cReaders =>
    cases hcommand
    obtain ⟨hlow, hhigh, hcontext⟩ := h
    rw [scardProcessMsg, scardProcessGetStatusChange, if_neg (by omega)]
    exact processOfContext_sentOn hcontext
  | listReaders handle =>
    cases hcommand
    exact processOfContext_sentOn h
  | cancel handle =>
    cases hcommand
    exact processOfContext_sentOn h
  | disconnect handle =>
    cases hcommand
    exact processOfCard_sentOn h
  | beginTransaction handle =>
    cases hcommand
    exact processOfCard_sentOn h
  | endTransaction handle =>
    cases hcommand
    exact processOfCard_sentOn h
  | transmit handle =>
    cases hcommand
    exact processOfCard_sentOn h
  | control handle =>
    cases hcommand
    exact processOfCard_sentOn h
  | status handle =>
    cases hcommand
    exact processOfCard_sentOn h

end OtherEnd

/-! ## The invariant -/

/-- Some thread waits for a message for a call, with a command. -/
def Calls.Waits (s : Calls ι) (n : Nat) (c : Command) : Prop := ∃ t, s.waiting t = some (n, c)

/-- The call that a message in the socket is for waits for it. -/
def Calls.Awaited (s : Calls ι) (m : Nat × List UInt8) : Prop :=
  ∃ c body, s.Waits m.1 c ∧ m.2 = encode c body ∧ body.length ≤ maxBytes c

/-- The numbers of the calls, in the order of how far their requests have got. -/
def Calls.ids (s : Calls ι) : List Nat :=
  s.written.map (·.1) ++ s.forwarded ++ s.requests.map (·.1)

/-- The messages in the socket are those that have been written and not been taken; each call that waits
has its request or its message in one place; no two of them have the same command. -/
structure Good (s : Calls ι) (inflight : List (Nat × List UInt8)) : Prop where
  written : s.written = s.returned ++ inflight
  wire : s.wire = inflight.flatMap (·.2)
  awaited : ∀ m ∈ inflight, s.Awaited m
  answered : s.written.map (·.1) = s.answered
  forwarded : List.Forall₂ (fun n irp => irp.userData = PROGRAM ∧ s.Waits n irp.command)
    s.forwarded s.pcsc.irps
  requests : ∀ q ∈ s.requests, ∃ c, q.2.command = some c ∧ s.Waits q.1 c
  commands : ∀ t t' n n' c, s.waiting t = some (n, c) → s.waiting t' = some (n', c) → t = t'
  ids : s.ids.Nodup
  idsLt : ∀ n ∈ s.ids, n < s.calls
  waitsLt : ∀ n c, s.Waits n c → n < s.calls
  connected : s.Connected

variable {s : Calls ι} {inflight : List (Nat × List UInt8)}

omit [DecidableEq ι] in
theorem Good.holds (h : Good s inflight) : Holds s := by
  have hnodup : (s.written.map (·.1)).Nodup := by
    have := h.ids
    rw [Calls.ids, List.append_assoc] at this
    exact (List.nodup_append.1 this).1
  refine ⟨h.answered, fun r hr => ?_, hnodup, ?_⟩
  · rw [h.written]
    exact List.mem_append_left _ hr
  · rw [h.written, List.map_append] at hnodup
    exact (List.nodup_append.1 hnodup).1

omit [DecidableEq ι] in
theorem good_start : Good (.start : Calls ι) [] where
  written := rfl
  wire := rfl
  awaited := fun _ h => absurd h List.not_mem_nil
  answered := rfl
  forwarded := .nil
  requests := fun _ h => absurd h List.not_mem_nil
  commands := fun _ _ _ _ _ h => nomatch h
  ids := List.nodup_nil
  idsLt := fun _ h => absurd h List.not_mem_nil
  waitsLt := fun _ _ ⟨_, h⟩ => nomatch h
  connected := rfl

/-- A thread that waits after another has started or stopped. -/
theorem waiting_update {t t' : ι} {v : Option (Nat × Command)} {w : Nat × Command}
    (h : update s.waiting t v t' = some w) : t' = t ∧ v = some w ∨ t' ≠ t ∧ s.waiting t' = some w := by
  by_cases heq : t' = t
  · rw [heq, update_self] at h
    exact .inl ⟨heq, h⟩
  · rw [update_of_ne heq] at h
    exact .inr ⟨heq, h⟩

/-- A request is sent. -/
theorem Good.sendMessage (h : Good s inflight) (t : ι) (r : Request) (hfits : CallFits s (.call t r)) :
    Good (sendMessage s t r) inflight := by
  rw [PcscCalls.sendMessage]
  split
  case h_2 => exact h
  case h_1 c hidle hcommand =>
    -- the threads that wait do so still
    have hwaits : ∀ n c', s.Waits n c' →
        ∃ t', update s.waiting t (some (s.calls, c)) t' = some (n, c') := by
      rintro n c' ⟨t', ht'⟩
      refine ⟨t', ?_⟩
      rw [update_of_ne]
      · exact ht'
      · rintro rfl
        rw [hidle] at ht'
        cases ht'
    have hids : Calls.ids { s with
        waiting := update s.waiting t (some (s.calls, c))
        requests := s.requests ++ [(s.calls, r)]
        calls := s.calls + 1 } = s.ids ++ [s.calls] := by
      simp only [Calls.ids, List.map_append, List.append_assoc, List.map_singleton]
    constructor
    · exact h.written
    · exact h.wire
    · rintro m hm
      obtain ⟨c', body, hw, hm⟩ := h.awaited m hm
      exact ⟨c', body, hwaits _ _ hw, hm⟩
    · exact h.answered
    · exact h.forwarded.imp fun n irp ⟨huser, hw⟩ => ⟨huser, hwaits _ _ hw⟩
    · intro q hq
      rcases List.mem_append.1 hq with hq | hq
      · obtain ⟨c', hc', hw⟩ := h.requests q hq
        exact ⟨c', hc', hwaits _ _ hw⟩
      · rw [List.mem_singleton.1 hq]
        exact ⟨c, hcommand, t, update_self _ _ _⟩
    · intro t₁ t₂ n₁ n₂ c' h₁ h₂
      rcases waiting_update h₁ with ⟨rfl, heq₁⟩ | ⟨hne₁, hw₁⟩
      · cases heq₁
        rcases waiting_update h₂ with ⟨rfl, -⟩ | ⟨hne₂, hw₂⟩
        · rfl
        · exact absurd hw₂ (hfits c hcommand t₂ n₂ hne₂)
      · rcases waiting_update h₂ with ⟨rfl, heq₂⟩ | ⟨hne₂, hw₂⟩
        · cases heq₂
          exact absurd hw₁ (hfits c hcommand t₁ n₁ hne₁)
        · exact h.commands t₁ t₂ n₁ n₂ c' hw₁ hw₂
    · rw [hids]
      refine List.Nodup.append h.ids (List.nodup_singleton _) ?_
      rw [List.disjoint_singleton]
      exact fun hmem => absurd (h.idsLt _ hmem) (Nat.lt_irrefl _)
    · rw [hids]
      intro n hn
      rcases List.mem_append.1 hn with hn | hn
      · exact (h.idsLt n hn).trans (Nat.lt_succ_self _)
      · rw [List.mem_singleton.1 hn]
        exact Nat.lt_succ_self _
    · rintro n c' ⟨t', ht'⟩
      rcases waiting_update ht' with ⟨rfl, heq⟩ | ⟨-, hw⟩
      · cases heq
        exact Nat.lt_succ_self _
      · exact (h.waitsLt n c' ⟨t', hw⟩).trans (Nat.lt_succ_self _)
    · exact h.connected

omit [DecidableEq ι] in
/-- A request is sent on to the client. -/
theorem Good.transDataIn (h : Good s inflight) (hfits : CallFits s .dataIn) :
    ∃ s', transDataIn s = .ok s' ∧ Good s' inflight := by
  cases hrequests : s.requests with
  | nil =>
    refine ⟨s, ?_, h⟩
    rw [PcscCalls.transDataIn, hrequests]
  | cons q requests =>
    obtain ⟨n, r⟩ := q
    obtain ⟨u, hu⟩ := Option.isSome_iff_exists.1 h.connected
    have hresolves := hfits (n, r) (by rw [hrequests]; rfl) u hu
    obtain ⟨c, hcommand, hw⟩ := h.requests (n, r) (by rw [hrequests]; exact List.mem_cons_self ..)
    obtain ⟨s', hs', ⟨irp, hirps, huser, hirp⟩, hclients⟩ :=
      scardProcessMsg_sentOn (s := s.pcsc) hcommand hresolves
    have hid : u.udsClientId = PROGRAM := by
      rw [getUdsClientById, if_neg (by decide)] at hu
      exact (Tables.mem_of_find hu).2
    have hstep : pcscStep s.pcsc (.request PROGRAM r) = .ok (⟨none, false⟩, s') := by
      simp only [pcscStep, hu, hs']
    refine ⟨{ s with pcsc := s', requests := requests, forwarded := s.forwarded ++ [n] }, ?_, ?_⟩
    · rw [PcscCalls.transDataIn, hrequests]
      show (pcscStep s.pcsc (.request PROGRAM r) >>= _) = _
      rw [hstep]
      rfl
    have hids : Calls.ids { s with
        pcsc := s', requests := requests, forwarded := s.forwarded ++ [n] } = s.ids := by
      simp only [Calls.ids, hrequests, List.map_cons, List.append_assoc, List.singleton_append]
    constructor
    · exact h.written
    · exact h.wire
    · exact h.awaited
    · exact h.answered
    · show List.Forall₂ _ (s.forwarded ++ [n]) s'.irps
      rw [hirps]
      refine List.rel_append h.forwarded (.cons ⟨huser.trans hid, ?_⟩ .nil)
      rw [hirp]
      exact hw
    · intro q hq
      exact h.requests q (by rw [hrequests]; exact List.mem_cons_of_mem _ hq)
    · exact h.commands
    · exact hids ▸ h.ids
    · exact hids ▸ h.idsLt
    · exact h.waitsLt
    · show (getUdsClientById s' PROGRAM).isSome
      rw [hclients]
      exact h.connected

/-- The message at the head of the socket. -/
theorem encode_append (c : Command) (body rest : List UInt8) :
    encode c body ++ rest = leBytes 4 body.length ++ (leBytes 4 c.code ++ (body ++ rest)) := by
  rw [encode, List.append_assoc, List.append_assoc]

theorem encode_length (c : Command) (body : List UInt8) : (encode c body).length = 8 + body.length := by
  simp only [encode, List.length_append, leBytes_length]

theorem take_length (c : Command) (body rest : List UInt8) (h : body.length ≤ 8192) :
    leVal ((encode c body ++ rest).take 4) = body.length := by
  rw [encode_append, List.take_left' (leBytes_length 4 _), leVal_leBytes, Nat.mod_eq_of_lt (by omega)]

theorem take_code (c : Command) (body rest : List UInt8) :
    leVal (((encode c body ++ rest).drop 4).take 4) = c.code := by
  rw [encode_append, List.drop_left' (leBytes_length 4 _), List.take_left' (leBytes_length 4 _),
    leVal_leBytes]
  cases c <;> rfl

theorem drop_header (c : Command) (body rest : List UInt8) :
    (encode c body ++ rest).drop 8 = body ++ rest := by
  have hheader : (leBytes 4 body.length ++ leBytes 4 c.code).length = 8 := by simp
  rw [encode, List.append_assoc, List.drop_left' hheader]

/-- A thread takes the message for its own call. -/
theorem Good.return (h : Good s inflight) {t : ι} {n : Nat} {c : Command} {bytes : List UInt8}
    {rest : List (Nat × List UInt8)} (hwaiting : s.waiting t = some (n, c))
    (hinflight : inflight = (n, bytes) :: rest) :
    Good (s.return t n bytes (rest.flatMap (·.2))) rest := by
  subst hinflight
  have hids : s.ids = s.returned.map (·.1) ++
      n :: (rest.map (·.1) ++ s.forwarded ++ s.requests.map (·.1)) := by
    simp only [Calls.ids, h.written, List.map_append, List.map_cons, List.append_assoc,
      List.cons_append]
  have hnodup := (List.nodup_append.1 (hids ▸ h.ids)).2.1
  -- the other calls wait still
  have hother : ∀ n' ∈ rest.map (·.1) ++ s.forwarded ++ s.requests.map (·.1), ∀ c', s.Waits n' c' →
      (s.return t n bytes (rest.flatMap (·.2))).Waits n' c' := by
    rintro n' hn' c' ⟨t', ht'⟩
    refine ⟨t', ?_⟩
    show update s.waiting t none t' = _
    rw [update_of_ne]
    · exact ht'
    · rintro rfl
      rw [hwaiting] at ht'
      cases ht'
      exact (List.nodup_cons.1 hnodup).1 hn'
  constructor
  · show s.written = (s.returned ++ [(n, bytes)]) ++ rest
    rw [h.written, List.append_assoc]
    rfl
  · rfl
  · intro q hq
    obtain ⟨c', body, hw, hq'⟩ := h.awaited q (List.mem_cons_of_mem _ hq)
    refine ⟨c', body, hother q.1 ?_ c' hw, hq'⟩
    exact List.mem_append_left _ (List.mem_append_left _ (List.mem_map_of_mem hq))
  · exact h.answered
  · have hmem : List.Forall₂ (fun n' irp => n' ∈ s.forwarded ∧ irp.userData = PROGRAM ∧
        s.Waits n' irp.command) s.forwarded s.pcsc.irps :=
      (List.forall₂_and_left _ _).2 ⟨fun n' hn' => hn', h.forwarded⟩
    refine hmem.imp fun n' irp ⟨hn', huser, hw⟩ => ⟨huser, hother n' ?_ _ hw⟩
    exact List.mem_append_left _ (List.mem_append_right _ hn')
  · intro q hq
    obtain ⟨c', hcommand, hw⟩ := h.requests q hq
    refine ⟨c', hcommand, hother q.1 ?_ c' hw⟩
    exact List.mem_append_right _ (List.mem_map_of_mem hq)
  · intro t₁ t₂ n₁ n₂ c' h₁ h₂
    rcases waiting_update h₁ with ⟨-, heq⟩ | ⟨-, hw₁⟩
    · cases heq
    · rcases waiting_update h₂ with ⟨-, heq⟩ | ⟨-, hw₂⟩
      · cases heq
      · exact h.commands t₁ t₂ n₁ n₂ c' hw₁ hw₂
  · exact h.ids
  · exact h.idsLt
  · rintro n' c' ⟨t', ht'⟩
    rcases waiting_update ht' with ⟨-, heq⟩ | ⟨-, hw⟩
    · cases heq
    · exact h.waitsLt n' c' ⟨t', hw⟩
  · exact h.connected

theorem maxBytes_le (c : Command) : maxBytes c ≤ 8192 := by
  cases c <;> decide

/-- **What a thread does**: it goes on waiting, or takes the message for its own call. -/
theorem Good.getMessage (h : Good s inflight) (t : ι) :
    ∃ inflight', Good (getMessage s t) inflight' := by
  rw [PcscCalls.getMessage]
  cases hwaiting : s.waiting t with
  | none => exact ⟨inflight, h⟩
  | some nc =>
    obtain ⟨n, c⟩ := nc
    dsimp only
    rw [if_neg fun hgone => hgone.2 h.connected]
    cases inflight with
    | nil =>
      have hwire : s.wire = [] := h.wire
      rw [hwire, if_pos (by decide)]
      exact ⟨[], h⟩
    | cons m rest =>
      obtain ⟨n', bytes⟩ := m
      obtain ⟨c', body, ⟨t', ht'⟩, rfl, hmax⟩ := h.awaited _ (List.mem_cons_self ..)
      have hwire : s.wire = encode c' body ++ rest.flatMap (·.2) := by
        rw [h.wire, List.flatMap_cons]
      have hlen : ¬ s.wire.length < 8 := by
        rw [hwire, List.length_append, encode_length]
        omega
      rw [if_neg hlen, hwire, take_code]
      by_cases hcode : c'.code ≠ c.code
      · rw [if_pos hcode]
        exact ⟨_, h⟩
      · -- the code is that of one call only
        obtain rfl := code_injective (not_not.1 hcode)
        obtain rfl := h.commands t' t n' n c' ht' hwaiting
        rw [ht'] at hwaiting
        cases hwaiting
        have hbody : body.length ≤ 8192 := hmax.trans (maxBytes_le c')
        rw [if_neg hcode, take_length c' body _ hbody, drop_header, if_neg (Nat.not_lt.2 hmax),
          if_neg (by rw [List.length_append]; omega), List.take_left' (encode_length c' body),
          List.drop_left]
        exact ⟨rest, h.return ht' rfl⟩

/-! ## Runs -/

/-- The client has connected to a card of four bytes. -/
def connected : Answer := ⟨0, 48, fun i => if i = 40 then 4 else if i < 44 then 0 else 9, 48⟩

end Xrdp.Chansrv.PcscCalls
