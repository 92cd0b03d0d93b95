import Xrdp.Chansrv.Smartcard
import Xrdp.Lib.Runs

/-!
# What handles of contexts and cards stand for

* `Given` — what the programs have been given: which handle stands for which context or card, until it is
  released or disconnected, or the connection closes.
* `Holds` — the tables say just that, and no handle is given twice.
* `Shape` — what the tables are like at any time.
* `handles_iff` — the runs in which it holds.
-/

namespace Xrdp.Chansrv.Smartcard

open Tables Wire Runs

/-! ## What has been given -/

/-- A handle that stands for a context. -/
structure GivenContext where
  program : Nat
  handle : Nat
  context : List UInt8

/-- A handle that stands for a card, and the context that the request has named. -/
structure GivenCard where
  program : Nat
  hContext : Nat
  handle : Nat
  card : List UInt8

structure Given where
  contexts : Set GivenContext
  cards : Set GivenCard
  /-- All handles that have been given. -/
  handles : List Nat

namespace Given

def start : Given := ⟨∅, ∅, []⟩

/-- A new context; none if the client has not sent all of it. -/
def establish (g : Given) (program handle : Nat) (context : Option (List UInt8)) : Given :=
  { g with
    contexts := g.contexts ∪ {c | c.program = program ∧ c.handle = handle ∧ context = some c.context}
    handles := g.handles ++ [handle] }

/-- A new card of a context that has not been released. -/
def connect (g : Given) (program hContext handle : Nat) (card : Option (List UInt8)) : Given :=
  { g with
    cards := g.cards ∪ {c | c.program = program ∧ c.hContext = hContext ∧ c.handle = handle ∧
      card = some c.card ∧ ∃ x ∈ g.contexts, x.program = program ∧ x.handle = hContext}
    handles := g.handles ++ [handle] }

def release (g : Given) (program hContext : Nat) : Given :=
  { g with
    contexts := {c ∈ g.contexts | ¬ (c.program = program ∧ c.handle = hContext)}
    cards := {c ∈ g.cards | ¬ (c.program = program ∧ c.hContext = hContext)} }

def disconnect (g : Given) (program hCard : Nat) : Given :=
  { g with cards := {c ∈ g.cards | ¬ (c.program = program ∧ c.handle = hCard)} }

def forget (g : Given) (program : Nat) : Given :=
  { g with
    contexts := {c ∈ g.contexts | c.program ≠ program}
    cards := {c ∈ g.cards | c.program ≠ program} }

end Given

/-- The context that the client has sent. -/
def Answer.context (a : Answer) : Option (List UInt8) :=
  if 32 + a.uint32 28 ≤ a.received then some (a.bytes 32 (a.uint32 28)) else none

/-- The card that the client has sent. -/
def Answer.card (a : Answer) : Option (List UInt8) :=
  if 44 + a.uint32 40 ≤ a.received then some (a.bytes 44 (a.uint32 40)) else none

def Message.status : Message → Nat
  | .establishContext _ status => status
  | .connect _ _ status => status
  | .other _ status => status

/-- What a message that is not an error gives or takes. -/
def Given.answered (g : Given) (irp : Irp) (a : Answer) : Message → Given
  | .establishContext handle _ => g.establish irp.userData handle a.context
  | .connect handle _ _ => g.connect irp.userData irp.handle handle a.card
  | .other .disconnect _ => g.disconnect irp.userData irp.handle
  | .other _ _ => g

/-- What a step gives and takes; a handle is given by the message that says so. -/
def Given.step (g : Given) (s : Pcsc) (e : Event) (o : Outcome) : Given :=
  match e with
  | .open => g
  | .request program r =>
    if o.closed then g.forget program
    else
      match r with
      | .releaseContext hContext => g.release program hContext
      | _ => g
  | .close program => g.forget program
  | .answer index a =>
    match s.irps[index]?, o.message with
    | some irp, some m => if m.status = 0 then g.answered irp a m else g
    | _, _ => g

/-- The tables, and what has been given. -/
structure Both where
  pcsc : Pcsc
  given : Given

def Both.start : Both := ⟨.start, .start⟩

def PcscNext (b : Both) (e : Event) (b' : Both) : Prop :=
  ∃ o, pcscStep b.pcsc e = .ok (o, b'.pcsc) ∧ b'.given = b.given.step b.pcsc e o

/-- The context that a handle resolves to. -/
def Pcsc.context (s : Pcsc) (program handle : Nat) : Option PcscContext :=
  (getUdsClientById s program).bind fun u => getPcscContextByAppContext u handle

/-- The card that a handle resolves to, with its context. -/
def Pcsc.card (s : Pcsc) (program handle : Nat) : Option (PcscContext × PcscCard) :=
  (getUdsClientById s program).bind fun u => getPcscCardByAppCard u handle

/-- Handles resolve to what has been given, and no handle has been given twice. -/
structure Holds (b : Both) : Prop where
  contexts : ∀ c : GivenContext,
    (∃ x, b.pcsc.context c.program c.handle = some x ∧ x.context = c.context) ↔ c ∈ b.given.contexts
  cards : ∀ c : GivenCard,
    (∃ x y, b.pcsc.card c.program c.handle = some (x, y) ∧ x.appContext = c.hContext ∧ y.card = c.card) ↔
      c ∈ b.given.cards
  handles : b.given.handles.Nodup

/-- The condition for an answer that is not an error. -/
def AnswerFits (n : Nat) (u : UdsClient) (irp : Irp) (a : Answer) : Prop :=
  match irp.command with
  | .establishContext => a.uint32 28 ≤ INT_MAX ∧
      (a.uint32 28 ≤ 16 → 32 + a.uint32 28 ≤ a.received ∧ n < INT_MAX)
  | .connect => 40 < a.intLen → u.connectContext = some irp.handle ∧
      getPcscContextByAppContext u irp.handle ≠ none ∧ a.uint32 40 ≤ 16 ∧
      44 + a.uint32 40 ≤ a.received ∧ n < INT_MAX
  | .disconnect => getPcscCardByAppCard u irp.handle = none
  | _ => True

/-- The condition: handles are left; the client sends all of a context or card that it says, and a card
of at most 16 bytes; when it has connected to a card, `connect_context` is the context that the request
has named, and that has not been released; when it has disconnected a card, its context has been
released. -/
def PcscFits (b : Both) : Event → Prop
  | .open => b.pcsc.autoinc < INT_MAX
  | .request _ _ => True
  | .close _ => True
  | .answer index a => ∀ irp u, b.pcsc.irps[index]? = some irp →
      getUdsClientById b.pcsc irp.userData = some u → a.status = 0 →
      AnswerFits b.pcsc.autoinc u irp a

/-! ## The tables -/

/-- The tables of a connection when `n` handles have been used. -/
structure ClientShape (n : Nat) (u : UdsClient) : Prop where
  contexts : Keyed PcscContext.appContext u.contexts
  contextLe : ∀ x ∈ u.contexts, x.appContext ≤ n
  cards : ∀ x ∈ u.contexts, Keyed PcscCard.appCard x.cards
  cardLe : ∀ x ∈ u.contexts, ∀ y ∈ x.cards, y.appCard ≤ n
  cardContext : ∀ x ∈ u.contexts, ∀ x' ∈ u.contexts, ∀ y ∈ x.cards, ∀ y' ∈ x'.cards,
    y.appCard = y'.appCard → x = x'

structure Shape (s : Pcsc) : Prop where
  clients : Keyed UdsClient.udsClientId s.udsClients
  pos : ∀ u ∈ s.udsClients, 0 < u.udsClientId
  idLe : ∀ u ∈ s.udsClients, u.udsClientId ≤ s.autoinc
  client : ∀ u ∈ s.udsClients, ClientShape s.autoinc u

theorem ClientShape.mono {n m : Nat} {u : UdsClient} (h : ClientShape n u) (hle : n ≤ m) :
    ClientShape m u :=
  { h with
    contextLe := fun x hx => (h.contextLe x hx).trans hle
    cardLe := fun x hx y hy => (h.cardLe x hx y hy).trans hle }

theorem clientShape_nil (n id : Nat) (connect : Option Nat) : ClientShape n ⟨id, [], connect⟩ where
  contexts := keyed_nil
  contextLe := fun _ h => absurd h List.not_mem_nil
  cards := fun _ h => absurd h List.not_mem_nil
  cardLe := fun _ h => absurd h List.not_mem_nil
  cardContext := fun _ h => absurd h List.not_mem_nil

/-- What is in the tables of a connection. -/
def UdsClient.HasContext (u : UdsClient) (c : GivenContext) : Prop :=
  c.program = u.udsClientId ∧ ∃ x ∈ u.contexts, x.appContext = c.handle ∧ x.context = c.context

def UdsClient.HasCard (u : UdsClient) (c : GivenCard) : Prop :=
  c.program = u.udsClientId ∧
    ∃ x ∈ u.contexts, x.appContext = c.hContext ∧ ∃ y ∈ x.cards, y.appCard = c.handle ∧ y.card = c.card

def Pcsc.contexts (s : Pcsc) : Set GivenContext := {c | ∃ u ∈ s.udsClients, u.HasContext c}

def Pcsc.cards (s : Pcsc) : Set GivenCard := {c | ∃ u ∈ s.udsClients, u.HasCard c}

theorem getUdsClientById_iff {s : Pcsc} (h : Shape s) {id : Nat} {u : UdsClient} :
    getUdsClientById s id = some u ↔ u ∈ s.udsClients ∧ u.udsClientId = id := by
  rw [getUdsClientById]
  split
  case isTrue hzero =>
    refine iff_of_false (fun hsome => nomatch hsome) ?_
    rintro ⟨hu, hid⟩
    have := h.pos u hu
    omega
  case isFalse => exact find_iff h.clients

theorem getPcscCardByAppCard_iff {n : Nat} {u : UdsClient} (h : ClientShape n u) {handle : Nat}
    {x : PcscContext} {y : PcscCard} : getPcscCardByAppCard u handle = some (x, y) ↔
      x ∈ u.contexts ∧ y ∈ x.cards ∧ y.appCard = handle := by
  constructor
  · intro hsome
    obtain ⟨x', hx', hfind⟩ := List.exists_of_findSome?_eq_some hsome
    obtain ⟨y', hy', heq⟩ := Option.map_eq_some_iff.1 hfind
    cases heq
    exact ⟨hx', (find_iff (h.cards x hx')).1 hy'⟩
  · rintro ⟨hx, hy, rfl⟩
    cases hfind : getPcscCardByAppCard u y.appCard with
    | none =>
      have hnone := List.findSome?_eq_none_iff.1 hfind x hx
      rw [Option.map_eq_none_iff, find_eq_none] at hnone
      exact absurd rfl (hnone y hy)
    | some found =>
      obtain ⟨x', hx', hfound⟩ := List.exists_of_findSome?_eq_some hfind
      obtain ⟨y', hy', rfl⟩ := Option.map_eq_some_iff.1 hfound
      obtain ⟨hmem, hkey⟩ := (find_iff (h.cards x' hx')).1 hy'
      obtain rfl := h.cardContext x hx x' hx' y hy y' hmem hkey.symm
      rw [(h.cards x hx).unique hmem hy hkey]

/-- The lookups find what is in the tables. -/
theorem holds_iff {b : Both} (h : Shape b.pcsc) : Holds b ↔ b.pcsc.contexts = b.given.contexts ∧
    b.pcsc.cards = b.given.cards ∧ b.given.handles.Nodup := by
  have hcontexts : ∀ c : GivenContext,
      (∃ x, b.pcsc.context c.program c.handle = some x ∧ x.context = c.context) ↔
        c ∈ b.pcsc.contexts := by
    intro c
    constructor
    · rintro ⟨x, hx, hbytes⟩
      obtain ⟨u, hu, hfind⟩ := Option.bind_eq_some_iff.1 hx
      obtain ⟨hmem, hid⟩ := (getUdsClientById_iff h).1 hu
      obtain ⟨hxmem, hkey⟩ := (find_iff (h.client u hmem).contexts).1 hfind
      exact ⟨u, hmem, hid.symm, x, hxmem, hkey, hbytes⟩
    · rintro ⟨u, hmem, hid, x, hxmem, hkey, hbytes⟩
      refine ⟨x, Option.bind_eq_some_iff.2 ⟨u, ?_, ?_⟩, hbytes⟩
      · exact (getUdsClientById_iff h).2 ⟨hmem, hid.symm⟩
      · exact (find_iff (h.client u hmem).contexts).2 ⟨hxmem, hkey⟩
  have hcards : ∀ c : GivenCard, (∃ x y, b.pcsc.card c.program c.handle = some (x, y) ∧
      x.appContext = c.hContext ∧ y.card = c.card) ↔ c ∈ b.pcsc.cards := by
    intro c
    constructor
    · rintro ⟨x, y, hxy, hctx, hbytes⟩
      obtain ⟨u, hu, hfind⟩ := Option.bind_eq_some_iff.1 hxy
      obtain ⟨hmem, hid⟩ := (getUdsClientById_iff h).1 hu
      obtain ⟨hxmem, hymem, hkey⟩ := (getPcscCardByAppCard_iff (h.client u hmem)).1 hfind
      exact ⟨u, hmem, hid.symm, x, hxmem, hctx, y, hymem, hkey, hbytes⟩
    · rintro ⟨u, hmem, hid, x, hxmem, hctx, y, hymem, hkey, hbytes⟩
      refine ⟨x, y, Option.bind_eq_some_iff.2 ⟨u, ?_, ?_⟩, hctx, hbytes⟩
      · exact (getUdsClientById_iff h).2 ⟨hmem, hid.symm⟩
      · exact (getPcscCardByAppCard_iff (h.client u hmem)).2 ⟨hxmem, hymem, hkey⟩
  constructor
  · rintro ⟨hc, hy, hn⟩
    exact ⟨Set.ext fun c => (hcontexts c).symm.trans (hc c),
      Set.ext fun c => (hcards c).symm.trans (hy c), hn⟩
  · rintro ⟨hc, hy, hn⟩
    exact ⟨fun c => (hcontexts c).trans (Set.ext_iff.1 hc c),
      fun c => (hcards c).trans (Set.ext_iff.1 hy c), hn⟩

/-! ## Changes of the tables -/

section Changes

variable {γ : Type} {program : γ → Nat} {P : UdsClient → γ → Prop} {s : Pcsc} {u u' : UdsClient}

/-- What is in the tables of a connection, and in those of the others. -/
theorem exists_client_iff (hP : ∀ v c, P v c → program c = v.udsClientId)
    (hkeyed : Keyed UdsClient.udsClientId s.udsClients) (hu : u ∈ s.udsClients) (c : γ) :
    (∃ v ∈ s.udsClients, P v c) ↔
      P u c ∨ (∃ v ∈ s.udsClients, P v c) ∧ program c ≠ u.udsClientId := by
  constructor
  · rintro ⟨v, hv, hc⟩
    by_cases hid : program c = u.udsClientId
    · left
      rwa [hkeyed.unique hu hv (hid.symm.trans (hP v c hc))]
    · exact .inr ⟨⟨v, hv, hc⟩, hid⟩
  · rintro (hc | ⟨hc, -⟩)
    · exact ⟨u, hu, hc⟩
    · exact hc

theorem exists_setClient_iff (hP : ∀ v c, P v c → program c = v.udsClientId)
    (hu : u ∈ s.udsClients) (hid : u'.udsClientId = u.udsClientId) (c : γ) :
    (∃ v ∈ (setClient s u').udsClients, P v c) ↔
      P u' c ∨ (∃ v ∈ s.udsClients, P v c) ∧ program c ≠ u.udsClientId := by
  constructor
  · rintro ⟨v, hv, hc⟩
    rcases mem_put.1 hv with ⟨rfl, -⟩ | ⟨hmem, hne⟩
    · exact .inl hc
    · right
      refine ⟨⟨v, hmem, hc⟩, ?_⟩
      rwa [hP v c hc, ← hid]
  · rintro (hc | ⟨⟨v, hv, hc⟩, hne⟩)
    · exact ⟨u', mem_put.2 (.inl ⟨rfl, u, hu, hid.symm⟩), hc⟩
    · refine ⟨v, mem_put.2 (.inr ⟨hv, ?_⟩), hc⟩
      rwa [hid, ← hP v c hc]

theorem exists_remove_iff (hP : ∀ v c, P v c → program c = v.udsClientId)
    (hkeyed : Keyed UdsClient.udsClientId s.udsClients) (c : γ) :
    (∃ v ∈ (freeUdsClient s u).udsClients, P v c) ↔
      (∃ v ∈ s.udsClients, P v c) ∧ program c ≠ u.udsClientId := by
  constructor
  · rintro ⟨v, hv, hc⟩
    obtain ⟨hmem, hne⟩ := (mem_remove hkeyed).1 hv
    refine ⟨⟨v, hmem, hc⟩, ?_⟩
    rwa [hP v c hc]
  · rintro ⟨⟨v, hv, hc⟩, hne⟩
    refine ⟨v, (mem_remove hkeyed).2 ⟨hv, ?_⟩, hc⟩
    rwa [← hP v c hc]

end Changes

theorem UdsClient.HasContext.program {u : UdsClient} {c : GivenContext} (h : u.HasContext c) :
    c.program = u.udsClientId := h.1

theorem UdsClient.HasCard.program {u : UdsClient} {c : GivenCard} (h : u.HasCard c) :
    c.program = u.udsClientId := h.1

theorem nextHandle_ok {s : Pcsc} (h : s.autoinc < INT_MAX) :
    nextHandle s = .ok (s.autoinc + 1, { s with autoinc := s.autoinc + 1 }) := if_pos h

theorem nextHandle_error {s : Pcsc} (h : ¬ s.autoinc < INT_MAX) : nextHandle s = .error .overflow :=
  if_neg h

theorem Shape.next {s : Pcsc} (h : Shape s) : Shape { s with autoinc := s.autoinc + 1 } where
  clients := h.clients
  pos := h.pos
  idLe := fun u hu => (h.idLe u hu).trans (Nat.le_succ _)
  client := fun u hu => (h.client u hu).mono (Nat.le_succ _)

theorem Shape.irps {s : Pcsc} (h : Shape s) (irps : List Irp) : Shape { s with irps := irps } :=
  ⟨h.clients, h.pos, h.idLe, h.client⟩

/-- The tables of a connection change. -/
theorem Shape.setClient {s : Pcsc} (h : Shape s) {u u' : UdsClient} (hu : u ∈ s.udsClients)
    (hid : u'.udsClientId = u.udsClientId) (hshape : ClientShape s.autoinc u') :
    Shape (setClient s u') where
  clients := h.clients.put u'
  pos := by
    intro v hv
    rcases mem_put.1 hv with ⟨rfl, -⟩ | ⟨hmem, -⟩
    · rw [hid]
      exact h.pos u hu
    · exact h.pos v hmem
  idLe := by
    intro v hv
    rcases mem_put.1 hv with ⟨rfl, -⟩ | ⟨hmem, -⟩
    · rw [hid]
      exact h.idLe u hu
    · exact h.idLe v hmem
  client := by
    intro v hv
    rcases mem_put.1 hv with ⟨rfl, -⟩ | ⟨hmem, -⟩
    · exact hshape
    · exact h.client v hmem

theorem Shape.free {s : Pcsc} (h : Shape s) (u : UdsClient) : Shape (freeUdsClient s u) where
  clients := h.clients.remove _
  pos := fun v hv => h.pos v ((mem_remove h.clients).1 hv).1
  idLe := fun v hv => h.idLe v ((mem_remove h.clients).1 hv).1
  client := fun v hv => h.client v ((mem_remove h.clients).1 hv).1

theorem contexts_free {s : Pcsc} (h : Shape s) (u : UdsClient) :
    (freeUdsClient s u).contexts = {c ∈ s.contexts | c.program ≠ u.udsClientId} :=
  Set.ext fun c => exists_remove_iff (fun _ _ => UdsClient.HasContext.program) h.clients c

theorem cards_free {s : Pcsc} (h : Shape s) (u : UdsClient) :
    (freeUdsClient s u).cards = {c ∈ s.cards | c.program ≠ u.udsClientId} :=
  Set.ext fun c => exists_remove_iff (fun _ _ => UdsClient.HasCard.program) h.clients c

/-- What a change of the tables of a connection changes of all of them. -/
theorem contexts_setClient {s : Pcsc} {u u' : UdsClient} (hu : u ∈ s.udsClients)
    (hid : u'.udsClientId = u.udsClientId) (c : GivenContext) : c ∈ (setClient s u').contexts ↔
      u'.HasContext c ∨ c ∈ s.contexts ∧ c.program ≠ u.udsClientId :=
  exists_setClient_iff (fun _ _ => UdsClient.HasContext.program) hu hid c

theorem cards_setClient {s : Pcsc} {u u' : UdsClient} (hu : u ∈ s.udsClients)
    (hid : u'.udsClientId = u.udsClientId) (c : GivenCard) : c ∈ (setClient s u').cards ↔
      u'.HasCard c ∨ c ∈ s.cards ∧ c.program ≠ u.udsClientId :=
  exists_setClient_iff (fun _ _ => UdsClient.HasCard.program) hu hid c

theorem mem_contexts_iff {s : Pcsc} (h : Shape s) {u : UdsClient} (hu : u ∈ s.udsClients)
    (c : GivenContext) :
    c ∈ s.contexts ↔ u.HasContext c ∨ c ∈ s.contexts ∧ c.program ≠ u.udsClientId :=
  exists_client_iff (fun _ _ => UdsClient.HasContext.program) h.clients hu c

theorem mem_cards_iff {s : Pcsc} (h : Shape s) {u : UdsClient} (hu : u ∈ s.udsClients)
    (c : GivenCard) : c ∈ s.cards ↔ u.HasCard c ∨ c ∈ s.cards ∧ c.program ≠ u.udsClientId :=
  exists_client_iff (fun _ _ => UdsClient.HasCard.program) h.clients hu c

/-! ## The tables of a connection -/

section ClientTables

variable {n : Nat} {u : UdsClient}

/-- A new context. -/
theorem ClientShape.addContext (h : ClientShape n u) (context : List UInt8) :
    ClientShape (n + 1) (u.addContext ⟨n + 1, context, []⟩) where
  contexts := by
    apply h.contexts.append_one
    intro x hx heq
    have := h.contextLe x hx
    dsimp only at heq
    omega
  contextLe := by
    intro x hx
    rcases List.mem_append.1 hx with hx | hx
    · exact (h.contextLe x hx).trans (Nat.le_succ n)
    · rw [List.mem_singleton.1 hx]
  cards := by
    intro x hx
    rcases List.mem_append.1 hx with hx | hx
    · exact h.cards x hx
    · rw [List.mem_singleton.1 hx]
      exact keyed_nil
  cardLe := by
    intro x hx y hy
    rcases List.mem_append.1 hx with hx | hx
    · exact (h.cardLe x hx y hy).trans (Nat.le_succ n)
    · rw [List.mem_singleton.1 hx] at hy
      cases hy
  cardContext := by
    intro x hx x' hx' y hy y' hy' heq
    rcases List.mem_append.1 hx with hx | hx
    · rcases List.mem_append.1 hx' with hx' | hx'
      · exact h.cardContext x hx x' hx' y hy y' hy' heq
      · rw [List.mem_singleton.1 hx'] at hy'
        cases hy'
    · rw [List.mem_singleton.1 hx] at hy
      cases hy

theorem hasContext_addContext (context : List UInt8) (c : GivenContext) :
    (u.addContext ⟨n, context, []⟩).HasContext c ↔
      u.HasContext c ∨ c.program = u.udsClientId ∧ n = c.handle ∧ context = c.context := by
  simp only [UdsClient.HasContext, UdsClient.addContext, List.mem_append, List.mem_singleton, or_and_right, exists_or,
    exists_eq_left, and_or_left]

theorem hasCard_addContext (context : List UInt8) (c : GivenCard) :
    (u.addContext ⟨n, context, []⟩).HasCard c ↔ u.HasCard c := by
  simp [UdsClient.HasCard, UdsClient.addContext, or_and_right, exists_or]

/-- A context is taken out. -/
theorem ClientShape.removeContext (h : ClientShape n u) (handle : Nat) :
    ClientShape n (u.removeContext handle) where
  contexts := h.contexts.remove handle
  contextLe := fun x hx => h.contextLe x ((mem_remove h.contexts).1 hx).1
  cards := fun x hx => h.cards x ((mem_remove h.contexts).1 hx).1
  cardLe := fun x hx => h.cardLe x ((mem_remove h.contexts).1 hx).1
  cardContext := fun x hx x' hx' =>
    h.cardContext x ((mem_remove h.contexts).1 hx).1 x' ((mem_remove h.contexts).1 hx').1

theorem hasContext_removeContext (h : ClientShape n u) (handle : Nat) (c : GivenContext) :
    (u.removeContext handle).HasContext c ↔
      u.HasContext c ∧ c.handle ≠ handle := by
  constructor
  · rintro ⟨hprogram, x, hx, hkey, hbytes⟩
    obtain ⟨hmem, hne⟩ := (mem_remove h.contexts).1 hx
    exact ⟨⟨hprogram, x, hmem, hkey, hbytes⟩, hkey ▸ hne⟩
  · rintro ⟨⟨hprogram, x, hx, hkey, hbytes⟩, hne⟩
    exact ⟨hprogram, x, (mem_remove h.contexts).2 ⟨hx, hkey ▸ hne⟩, hkey, hbytes⟩

theorem hasCard_removeContext (h : ClientShape n u) (handle : Nat) (c : GivenCard) :
    (u.removeContext handle).HasCard c ↔
      u.HasCard c ∧ c.hContext ≠ handle := by
  constructor
  · rintro ⟨hprogram, x, hx, hkey, hy⟩
    obtain ⟨hmem, hne⟩ := (mem_remove h.contexts).1 hx
    exact ⟨⟨hprogram, x, hmem, hkey, hy⟩, hkey ▸ hne⟩
  · rintro ⟨⟨hprogram, x, hx, hkey, hy⟩, hne⟩
    exact ⟨hprogram, x, (mem_remove h.contexts).2 ⟨hx, hkey ▸ hne⟩, hkey, hy⟩

/-- The contexts with a new card. -/
theorem mem_addCard {x : PcscContext} {y : PcscCard} {z : PcscContext}
    (hz : z ∈ (u.addCard x y).contexts) :
    z = { x with cards := x.cards ++ [y] } ∨ z ∈ u.contexts ∧ z ≠ x := by
  rcases mem_put.1 hz with ⟨rfl, -⟩ | ⟨hmem, hne⟩
  · exact .inl rfl
  · exact .inr ⟨hmem, fun heq => hne (heq ▸ rfl)⟩

/-- A card of the tables is the new one, or has been there. -/
theorem mem_cards_addCard {x : PcscContext} {y : PcscCard} (hx : x ∈ u.contexts) {z : PcscContext} {w : PcscCard} (hz : z ∈ (u.addCard x y).contexts)
    (hw : w ∈ z.cards) : (z = { x with cards := x.cards ++ [y] } ∧ w = y) ∨
      ∃ z' ∈ u.contexts, w ∈ z'.cards ∧
        z = if z' = x then { x with cards := x.cards ++ [y] } else z' := by
  rcases mem_addCard hz with rfl | ⟨hmem, hne⟩
  · rcases List.mem_append.1 hw with hw | hw
    · exact .inr ⟨x, hx, hw, (if_pos rfl).symm⟩
    · exact .inl ⟨rfl, List.mem_singleton.1 hw⟩
  · exact .inr ⟨z, hmem, hw, (if_neg hne).symm⟩

/-- A new card. -/
theorem ClientShape.addCard (h : ClientShape n u) {x : PcscContext} (hx : x ∈ u.contexts)
    (card : List UInt8) : ClientShape (n + 1) (u.addCard x ⟨n + 1, card⟩) where
  contexts := h.contexts.put _
  contextLe := by
    intro z hz
    rcases mem_addCard hz with rfl | ⟨hmem, -⟩
    · exact (h.contextLe x hx).trans (Nat.le_succ n)
    · exact (h.contextLe z hmem).trans (Nat.le_succ n)
  cards := by
    intro z hz
    rcases mem_addCard hz with rfl | ⟨hmem, -⟩
    · apply (h.cards x hx).append_one
      intro y hy heq
      have := h.cardLe x hx y hy
      dsimp only at heq
      omega
    · exact h.cards z hmem
  cardLe := by
    intro z hz w hw
    rcases mem_cards_addCard hx hz hw with ⟨-, rfl⟩ | ⟨z', hz', hw', -⟩
    · exact le_rfl
    · exact (h.cardLe z' hz' w hw').trans (Nat.le_succ n)
  cardContext := by
    intro z hz z' hz' w hw w' hw' heq
    rcases mem_cards_addCard hx hz hw with ⟨rfl, rfl⟩ | ⟨z₁, hz₁, hw₁, rfl⟩
    · rcases mem_cards_addCard hx hz' hw' with ⟨rfl, -⟩ | ⟨z₂, hz₂, hw₂, -⟩
      · rfl
      · have := h.cardLe z₂ hz₂ w' hw₂
        dsimp only at heq
        omega
    · rcases mem_cards_addCard hx hz' hw' with ⟨-, rfl⟩ | ⟨z₂, hz₂, hw₂, rfl⟩
      · have := h.cardLe z₁ hz₁ w hw₁
        dsimp only at heq
        omega
      · rw [h.cardContext z₁ hz₁ z₂ hz₂ w hw₁ w' hw₂ heq]

theorem hasContext_addCard (h : ClientShape n u) {x : PcscContext} (hx : x ∈ u.contexts)
    (y : PcscCard) (c : GivenContext) : (u.addCard x y).HasContext c ↔ u.HasContext c := by
  constructor
  · rintro ⟨hprogram, z, hz, hkey, hbytes⟩
    rcases mem_addCard hz with rfl | ⟨hmem, -⟩
    · exact ⟨hprogram, x, hx, hkey, hbytes⟩
    · exact ⟨hprogram, z, hmem, hkey, hbytes⟩
  · rintro ⟨hprogram, z, hz, hkey, hbytes⟩
    by_cases heq : z.appContext = x.appContext
    · obtain rfl := h.contexts.unique hz hx heq
      exact ⟨hprogram, { z with cards := z.cards ++ [y] }, mem_put.2 (.inl ⟨rfl, z, hz, rfl⟩), hkey, hbytes⟩
    · exact ⟨hprogram, z, mem_put.2 (.inr ⟨hz, heq⟩), hkey, hbytes⟩

theorem hasCard_addCard (h : ClientShape n u) {x : PcscContext} (hx : x ∈ u.contexts)
    (y : PcscCard) (c : GivenCard) : (u.addCard x y).HasCard c ↔ u.HasCard c ∨
      c.program = u.udsClientId ∧ x.appContext = c.hContext ∧ y.appCard = c.handle ∧ y.card = c.card := by
  constructor
  · rintro ⟨hprogram, z, hz, hkey, w, hw, hcard, hbytes⟩
    rcases mem_addCard hz with rfl | ⟨hmem, -⟩
    · rcases List.mem_append.1 hw with hw | hw
      · exact .inl ⟨hprogram, x, hx, hkey, w, hw, hcard, hbytes⟩
      · rw [List.mem_singleton.1 hw] at hcard hbytes
        exact .inr ⟨hprogram, hkey, hcard, hbytes⟩
    · exact .inl ⟨hprogram, z, hmem, hkey, w, hw, hcard, hbytes⟩
  · have hnew : { x with cards := x.cards ++ [y] } ∈ (u.addCard x y).contexts :=
      mem_put.2 (.inl ⟨rfl, x, hx, rfl⟩)
    rintro (⟨hprogram, z, hz, hkey, w, hw, hcard, hbytes⟩ | ⟨hprogram, hkey, hcard, hbytes⟩)
    · by_cases heq : z.appContext = x.appContext
      · obtain rfl := h.contexts.unique hz hx heq
        exact ⟨hprogram, _, hnew, hkey, w, List.mem_append_left _ hw, hcard, hbytes⟩
      · exact ⟨hprogram, z, mem_put.2 (.inr ⟨hz, heq⟩), hkey, w, hw, hcard, hbytes⟩
    · exact ⟨hprogram, _, hnew, hkey, y, List.mem_append_right _ (List.mem_singleton_self y), hcard, hbytes⟩

end ClientTables

/-! ## Steps -/

/-- The tables have their shape, handles stand for what has been given, and later ones are new. -/
structure Good (b : Both) : Prop where
  shape : Shape b.pcsc
  holds : Holds b
  handleLe : ∀ handle ∈ b.given.handles, handle ≤ b.pcsc.autoinc

theorem pcscNext_unique (b : Both) (e : Event) (b₁ b₂ : Both) (h₁ : PcscNext b e b₁)
    (h₂ : PcscNext b e b₂) : b₁ = b₂ := by
  obtain ⟨o₁, hstep₁, hgiven₁⟩ := h₁
  obtain ⟨o₂, hstep₂, hgiven₂⟩ := h₂
  rw [hstep₁] at hstep₂
  obtain ⟨rfl, hpcsc⟩ := Prod.mk.inj (Except.ok.inj hstep₂)
  obtain ⟨pcsc₁, given₁⟩ := b₁
  obtain ⟨pcsc₂, given₂⟩ := b₂
  cases hpcsc
  cases hgiven₁
  cases hgiven₂
  rfl

variable {b : Both}

theorem Good.contexts (h : Good b) : b.pcsc.contexts = b.given.contexts :=
  ((holds_iff h.shape).1 h.holds).1

theorem Good.cards (h : Good b) : b.pcsc.cards = b.given.cards := ((holds_iff h.shape).1 h.holds).2.1

/-- A state with tables that say what has been given. -/
theorem Good.of_eq {s : Pcsc} {g : Given} (hshape : Shape s) (hcontexts : s.contexts = g.contexts)
    (hcards : s.cards = g.cards) (hnodup : g.handles.Nodup) (hle : ∀ n ∈ g.handles, n ≤ s.autoinc) :
    Good ⟨s, g⟩ := ⟨hshape, (holds_iff hshape).2 ⟨hcontexts, hcards, hnodup⟩, hle⟩

theorem good_start : Good .start := by
  have hshape : Shape .start := ⟨keyed_nil, fun _ h => absurd h List.not_mem_nil,
    fun _ h => absurd h List.not_mem_nil, fun _ h => absurd h List.not_mem_nil⟩
  refine .of_eq hshape ?_ ?_ List.nodup_nil fun _ h => absurd h List.not_mem_nil
  · ext c
    exact iff_of_false (fun ⟨u, hu, _⟩ => List.not_mem_nil hu) (Set.notMem_empty c)
  · ext c
    exact iff_of_false (fun ⟨u, hu, _⟩ => List.not_mem_nil hu) (Set.notMem_empty c)

/-- Nothing but the requests that wait changes. -/
theorem Good.irps (h : Good b) (irps : List Irp) : Good ⟨{ b.pcsc with irps := irps }, b.given⟩ :=
  .of_eq (h.shape.irps irps) h.contexts h.cards h.holds.handles h.handleLe

/-- A connection closes. -/
theorem Good.free (h : Good b) (u : UdsClient) :
    Good ⟨freeUdsClient b.pcsc u, b.given.forget u.udsClientId⟩ := by
  refine .of_eq (h.shape.free u) ?_ ?_ h.holds.handles h.handleLe
  · rw [contexts_free h.shape, h.contexts]
    rfl
  · rw [cards_free h.shape, h.cards]
    rfl

/-- A context is released. -/
theorem Good.removeContext (h : Good b) {u : UdsClient} (hu : u ∈ b.pcsc.udsClients) (handle : Nat) :
    Good ⟨udsClientRemoveContext b.pcsc u handle, b.given.release u.udsClientId handle⟩ := by
  have hclient := h.shape.client u hu
  have hid : (u.removeContext handle).udsClientId = u.udsClientId := rfl
  have hsplit : ∀ {own other program named : Prop}, (own → program) →
      (own ∧ ¬ named ∨ other ∧ ¬ program ↔ (own ∨ other ∧ ¬ program) ∧ ¬ (program ∧ named)) := by
    tauto
  refine .of_eq (h.shape.setClient hu hid (hclient.removeContext handle)) ?_ ?_ h.holds.handles
    h.handleLe
  · ext c
    show c ∈ (setClient b.pcsc (u.removeContext handle)).contexts ↔ c ∈ b.given.contexts ∧ _
    rw [← h.contexts, mem_contexts_iff h.shape hu c, contexts_setClient hu hid,
      hasContext_removeContext hclient]
    exact hsplit fun hc => hc.program
  · ext c
    show c ∈ (setClient b.pcsc (u.removeContext handle)).cards ↔ c ∈ b.given.cards ∧ _
    rw [← h.cards, mem_cards_iff h.shape hu c, cards_setClient hu hid, hasCard_removeContext hclient]
    exact hsplit fun hc => hc.program

/-- A context is kept for the card that the client has been asked for. -/
theorem Good.setConnect (h : Good b) {u : UdsClient} (hu : u ∈ b.pcsc.udsClients) (handle : Nat) :
    Good ⟨setClient b.pcsc (u.setConnectContext handle), b.given⟩ := by
  have hclient := h.shape.client u hu
  have hshape : ClientShape b.pcsc.autoinc (u.setConnectContext handle) :=
    ⟨hclient.contexts, hclient.contextLe, hclient.cards, hclient.cardLe, hclient.cardContext⟩
  have hid : (u.setConnectContext handle).udsClientId = u.udsClientId := rfl
  refine .of_eq (h.shape.setClient hu hid hshape) ?_ ?_ h.holds.handles h.handleLe
  · ext c
    rw [← h.contexts, mem_contexts_iff h.shape hu c, contexts_setClient hu hid]
    rfl
  · ext c
    rw [← h.cards, mem_cards_iff h.shape hu c, cards_setClient hu hid]
    rfl

/-- What a request may come to. -/
inductive Processed (s : Pcsc) (u : UdsClient) : Request → Option Pcsc → Prop where
  | error (r : Request) : Processed s u r none
  | sent (r : Request) (irps : List Irp) (h : ∀ handle, r ≠ .releaseContext handle) :
    Processed s u r (some { s with irps := irps })
  | released (handle : Nat) (irps : List Irp) :
    Processed s u (.releaseContext handle) (some (udsClientRemoveContext { s with irps := irps } u handle))
  | kept (handle : Nat) (irps : List Irp) : Processed s u (.connect handle)
    (some (setClient { s with irps := irps } (u.setConnectContext handle)))

theorem processOfContext_cases (s : Pcsc) (u : UdsClient) (command : Command) (handle : Nat) :
    processOfContext s u command handle = none ∨
      ∃ irps, processOfContext s u command handle = some { s with irps := irps } := by
  rw [processOfContext]
  cases getPcscContextByAppContext u handle with
  | none => exact .inl rfl
  | some x => exact .inr ⟨_, rfl⟩

theorem processOfContext_processed (s : Pcsc) (u : UdsClient) (command : Command) (handle : Nat)
    {r : Request} (h : ∀ handle, r ≠ .releaseContext handle) :
    Processed s u r (processOfContext s u command handle) := by
  rcases processOfContext_cases s u command handle with hnone | ⟨irps, hsome⟩
  · rw [hnone]
    exact .error r
  · rw [hsome]
    exact .sent r irps h

theorem processOfCard_processed (s : Pcsc) (u : UdsClient) (command : Command) (handle : Nat)
    {r : Request} (h : ∀ handle, r ≠ .releaseContext handle) :
    Processed s u r (processOfCard s u command handle) := by
  rw [processOfCard]
  cases getPcscCardByAppCard u handle with
  | none => exact .error r
  | some xy => exact .sent r _ h

/-- **What a request comes to**: an error, a released context, a context that is kept, or just one more
request that waits. -/
theorem scardProcessMsg_processed (s : Pcsc) (u : UdsClient) (r : Request) :
    Processed s u r (scardProcessMsg s u r) := by
  cases r with
  | establishContext => exact .sent _ _ fun _ h => nomatch h
  | releaseContext handle =>
    rw [scardProcessMsg, scardProcessReleaseContext]
    rcases processOfContext_cases s u .releaseContext handle with hnone | ⟨irps, hsome⟩
    · rw [hnone]
      exact .error _
    · rw [hsome]
      exact .released handle irps
  | listReaders handle => exact processOfContext_processed s u _ handle fun _ h => nomatch h
  | connect handle =>
    rw [scardProcessMsg, scardProcessConnect]
    rcases processOfContext_cases s u .connect handle with hnone | ⟨irps, hsome⟩
    · rw [hnone]
      exact .error _
    · rw [hsome]
      exact .kept handle irps
  | disconnect handle => exact processOfCard_processed s u _ handle fun _ h => nomatch h
  | beginTransaction handle => exact processOfCard_processed s u _ handle fun _ h => nomatch h
  | endTransaction handle => exact processOfCard_processed s u _ handle fun _ h => nomatch h
  | transmit handle => exact processOfCard_processed s u _ handle fun _ h => nomatch h
  | control handle => exact processOfCard_processed s u _ handle fun _ h => nomatch h
  | status handle => exact processOfCard_processed s u _ handle fun _ h => nomatch h
  | getStatusChange handle cReaders =>
    rw [scardProcessMsg, scardProcessGetStatusChange]
    split
    · exact .error _
    · exact processOfContext_processed s u _ handle fun _ h => nomatch h
  | cancel handle => exact processOfContext_processed s u _ handle fun _ h => nomatch h
  | ignored => exact .sent _ s.irps fun _ h => nomatch h
  | unknown => exact .error _

/-- A step that keeps the tables in order. -/
theorem stepIff_of_good {s' : Pcsc} {e : Event} {o : Outcome} (hstep : pcscStep b.pcsc e = .ok (o, s'))
    (hfits : PcscFits b e) (hgood : Good ⟨s', b.given.step b.pcsc e o⟩) :
    StepIff PcscNext Holds Good PcscFits b e := by
  have hnext : PcscNext b e ⟨s', b.given.step b.pcsc e o⟩ := ⟨o, hstep, rfl⟩
  exact .of_next pcscNext_unique hnext (iff_of_true hgood.holds hfits) fun _ => hgood

/-- A step that there is none of. -/
theorem stepIff_of_error {e : Event} {fault : Fault} (hstep : pcscStep b.pcsc e = .error fault)
    (hfits : ¬ PcscFits b e) : StepIff PcscNext Holds Good PcscFits b e := by
  refine .of_stuck ?_ hfits
  rintro b' ⟨o, hok, -⟩
  rw [hstep] at hok
  cases hok

theorem open_stepIff (h : Good b) : StepIff PcscNext Holds Good PcscFits b .open := by
  by_cases hlt : b.pcsc.autoinc < INT_MAX
  · have hstep : pcscStep b.pcsc .open = .ok (⟨none, false⟩, { b.pcsc with
        autoinc := b.pcsc.autoinc + 1
        udsClients := b.pcsc.udsClients ++ [⟨b.pcsc.autoinc + 1, [], none⟩] }) := by
      rw [pcscStep, createUdsClient, nextHandle_ok hlt]
      rfl
    have hnext := h.shape.next
    have hshape : Shape { b.pcsc with
        autoinc := b.pcsc.autoinc + 1
        udsClients := b.pcsc.udsClients ++ [⟨b.pcsc.autoinc + 1, [], none⟩] } := by
      constructor
      · apply h.shape.clients.append_one
        intro u hu heq
        have := h.shape.idLe u hu
        dsimp only at heq
        omega
      · intro u hu
        rcases List.mem_append.1 hu with hu | hu
        · exact h.shape.pos u hu
        · rw [List.mem_singleton.1 hu]
          exact Nat.succ_pos _
      · intro u hu
        rcases List.mem_append.1 hu with hu | hu
        · exact hnext.idLe u hu
        · rw [List.mem_singleton.1 hu]
      · intro u hu
        rcases List.mem_append.1 hu with hu | hu
        · exact hnext.client u hu
        · rw [List.mem_singleton.1 hu]
          exact clientShape_nil _ _ _
    refine stepIff_of_good hstep hlt (.of_eq hshape ?_ ?_ h.holds.handles ?_)
    · show _ = b.given.contexts
      rw [← h.contexts]
      ext c
      simp [Pcsc.contexts, UdsClient.HasContext, or_and_right, exists_or]
    · show _ = b.given.cards
      rw [← h.cards]
      ext c
      simp [Pcsc.cards, UdsClient.HasCard, or_and_right, exists_or]
    · exact fun handle hmem => (h.handleLe handle hmem).trans (Nat.le_succ _)
  · have herror : pcscStep b.pcsc .open = .error .overflow := by
      rw [pcscStep, createUdsClient, nextHandle_error hlt]
      rfl
    exact stepIff_of_error herror hlt

/-- A program that is not there has no handles. -/
theorem Good.absent (h : Good b) {id : Nat} (hnone : getUdsClientById b.pcsc id = none) :
    (∀ c ∈ b.given.contexts, c.program ≠ id) ∧ ∀ c ∈ b.given.cards, c.program ≠ id := by
  have hclient : ∀ u ∈ b.pcsc.udsClients, u.udsClientId ≠ id := by
    intro u hu heq
    rw [(getUdsClientById_iff h.shape).2 ⟨hu, heq⟩] at hnone
    cases hnone
  constructor
  · intro c hc heq
    rw [← h.contexts] at hc
    obtain ⟨u, hu, hprogram, -⟩ := hc
    exact hclient u hu (hprogram.symm.trans heq)
  · intro c hc heq
    rw [← h.cards] at hc
    obtain ⟨u, hu, hprogram, -⟩ := hc
    exact hclient u hu (hprogram.symm.trans heq)

theorem Good.forget_absent (h : Good b) {id : Nat} (hnone : getUdsClientById b.pcsc id = none) :
    b.given.forget id = b.given := by
  obtain ⟨hcontexts, hcards⟩ := h.absent hnone
  rw [Given.forget, Set.sep_eq_self_iff_mem_true.2 hcontexts, Set.sep_eq_self_iff_mem_true.2 hcards]

theorem Good.release_absent (h : Good b) {id : Nat} (hnone : getUdsClientById b.pcsc id = none)
    (handle : Nat) : b.given.release id handle = b.given := by
  obtain ⟨hcontexts, hcards⟩ := h.absent hnone
  have hc : {c ∈ b.given.contexts | ¬ (c.program = id ∧ c.handle = handle)} = b.given.contexts :=
    Set.sep_eq_self_iff_mem_true.2 fun c hc hother => hcontexts c hc hother.1
  have hy : {c ∈ b.given.cards | ¬ (c.program = id ∧ c.hContext = handle)} = b.given.cards :=
    Set.sep_eq_self_iff_mem_true.2 fun c hc hother => hcards c hc hother.1
  rw [Given.release, hc, hy]

theorem close_stepIff (h : Good b) (id : Nat) : StepIff PcscNext Holds Good PcscFits b (.close id) := by
  cases hu : getUdsClientById b.pcsc id with
  | none =>
    have hstep : pcscStep b.pcsc (.close id) = .ok (⟨none, false⟩, b.pcsc) := by
      rw [pcscStep, hu]
    refine stepIff_of_good hstep trivial ?_
    show Good ⟨b.pcsc, b.given.forget id⟩
    rw [h.forget_absent hu]
    exact h
  | some u =>
    obtain ⟨hmem, rfl⟩ := (getUdsClientById_iff h.shape).1 hu
    have hstep : pcscStep b.pcsc (.close u.udsClientId) =
        .ok (⟨none, true⟩, freeUdsClient b.pcsc u) := by
      rw [pcscStep, hu]
    exact stepIff_of_good hstep trivial (h.free u)

theorem request_stepIff (h : Good b) (id : Nat) (r : Request) :
    StepIff PcscNext Holds Good PcscFits b (.request id r) := by
  cases hu : getUdsClientById b.pcsc id with
  | none =>
    have hstep : pcscStep b.pcsc (.request id r) = .ok (⟨none, false⟩, b.pcsc) := by
      rw [pcscStep, hu]
    refine stepIff_of_good hstep trivial ?_
    cases r with
    | releaseContext handle =>
      show Good ⟨b.pcsc, b.given.release id handle⟩
      rw [h.release_absent hu]
      exact h
    | _ => exact h
  | some u =>
    obtain ⟨hmem, rfl⟩ := (getUdsClientById_iff h.shape).1 hu
    have hstep : ∀ s', scardProcessMsg b.pcsc u r = some s' →
        pcscStep b.pcsc (.request u.udsClientId r) = .ok (⟨none, false⟩, s') := by
      intro s' hs'
      simp only [pcscStep, hu, hs']
    have hprocessed := scardProcessMsg_processed b.pcsc u r
    generalize hs' : scardProcessMsg b.pcsc u r = s' at hprocessed
    cases hprocessed with
    | error =>
      have hclosed : pcscStep b.pcsc (.request u.udsClientId r) =
          .ok (⟨none, true⟩, freeUdsClient b.pcsc u) := by
        simp only [pcscStep, hu, hs']
      exact stepIff_of_good hclosed trivial (h.free u)
    | sent _ irps hr =>
      refine stepIff_of_good (hstep _ hs') trivial ?_
      cases r with
      | releaseContext handle => exact absurd rfl (hr handle)
      | _ => exact h.irps irps
    | released handle irps =>
      exact stepIff_of_good (hstep _ hs') trivial ((h.irps irps).removeContext hmem handle)
    | kept handle irps =>
      exact stepIff_of_good (hstep _ hs') trivial ((h.irps irps).setConnect hmem handle)

/-! ## Answers -/

theorem Good.contextLe (h : Good b) {c : GivenContext} (hc : c ∈ b.given.contexts) :
    c.handle ≤ b.pcsc.autoinc := by
  rw [← h.contexts] at hc
  obtain ⟨u, hu, -, x, hx, hkey, -⟩ := hc
  exact hkey ▸ (h.shape.client u hu).contextLe x hx

theorem Good.cardLe (h : Good b) {c : GivenCard} (hc : c ∈ b.given.cards) :
    c.handle ≤ b.pcsc.autoinc := by
  rw [← h.cards] at hc
  obtain ⟨u, hu, -, x, hx, -, y, hy, hkey, -⟩ := hc
  exact hkey ▸ (h.shape.client u hu).cardLe x hx y hy

/-- The next handle has not been given. -/
theorem Good.nodup_next (h : Good b) : (b.given.handles ++ [b.pcsc.autoinc + 1]).Nodup := by
  apply List.Nodup.append h.holds.handles (List.nodup_singleton _)
  rw [List.disjoint_singleton]
  intro hmem
  have := h.handleLe _ hmem
  omega

theorem Good.le_next (h : Good b) :
    ∀ handle ∈ b.given.handles ++ [b.pcsc.autoinc + 1], handle ≤ b.pcsc.autoinc + 1 := by
  intro handle hmem
  rcases List.mem_append.1 hmem with hmem | hmem
  · exact (h.handleLe handle hmem).trans (Nat.le_succ _)
  · rw [List.mem_singleton.1 hmem]

/-- The tables with a new context. -/
def withContext (s : Pcsc) (u : UdsClient) (context : List UInt8) : Pcsc :=
  setClient { s with autoinc := s.autoinc + 1 } (u.addContext ⟨s.autoinc + 1, context, []⟩)

/-- **A new context** is what has been given just if it is what the client has sent. -/
theorem Good.addContext (h : Good b) {u : UdsClient} (hu : u ∈ b.pcsc.udsClients)
    (context : List UInt8) (sent : Option (List UInt8)) :
    (Holds ⟨withContext b.pcsc u context,
      b.given.establish u.udsClientId (b.pcsc.autoinc + 1) sent⟩ ↔ sent = some context) ∧
    (sent = some context → Good ⟨withContext b.pcsc u context,
      b.given.establish u.udsClientId (b.pcsc.autoinc + 1) sent⟩) := by
  have hid : (u.addContext ⟨b.pcsc.autoinc + 1, context, []⟩).udsClientId = u.udsClientId := rfl
  have hnext : u ∈ Pcsc.udsClients { b.pcsc with autoinc := b.pcsc.autoinc + 1 } := hu
  have hshape : Shape (withContext b.pcsc u context) :=
    h.shape.next.setClient hu hid ((h.shape.client u hu).addContext context)
  have hcontexts : ∀ c, c ∈ (withContext b.pcsc u context).contexts ↔ c ∈ b.given.contexts ∨
      c.program = u.udsClientId ∧ b.pcsc.autoinc + 1 = c.handle ∧ context = c.context := by
    intro c
    rw [← h.contexts, mem_contexts_iff h.shape hu c, withContext, contexts_setClient hnext hid,
      hasContext_addContext, or_right_comm]
    rfl
  have hcards : (withContext b.pcsc u context).cards = b.given.cards := by
    ext c
    rw [← h.cards, mem_cards_iff h.shape hu c, withContext, cards_setClient hnext hid,
      hasCard_addContext]
    rfl
  have hgood : sent = some context → Good ⟨withContext b.pcsc u context,
      b.given.establish u.udsClientId (b.pcsc.autoinc + 1) sent⟩ := by
    rintro rfl
    refine .of_eq hshape (Set.ext fun c => (hcontexts c).trans ?_) hcards h.nodup_next h.le_next
    show _ ↔ c ∈ b.given.contexts ∨ c.program = u.udsClientId ∧ c.handle = b.pcsc.autoinc + 1 ∧
      some context = some c.context
    rw [Option.some_inj, eq_comm (a := c.handle)]
  refine ⟨⟨fun hholds => ?_, fun hsent => (hgood hsent).holds⟩, hgood⟩
  have heq := ((holds_iff hshape).1 hholds).1
  have hnew : (⟨u.udsClientId, b.pcsc.autoinc + 1, context⟩ : GivenContext) ∈
      (withContext b.pcsc u context).contexts := (hcontexts _).2 (.inr ⟨rfl, rfl, rfl⟩)
  rw [heq] at hnew
  rcases hnew with hold | ⟨-, -, hsent⟩
  · have := h.contextLe hold
    dsimp only at this
    omega
  · exact hsent

/-- The tables with a new card. -/
def withCard (s : Pcsc) (u : UdsClient) (x : PcscContext) (card : List UInt8) : Pcsc :=
  setClient { s with autoinc := s.autoinc + 1 } (u.addCard x ⟨s.autoinc + 1, card⟩)

/-- **A new card** is what has been given just if it is what the client has sent, and is recorded under
the context that the request has named. -/
theorem Good.addCard (h : Good b) {u : UdsClient} (hu : u ∈ b.pcsc.udsClients) {x : PcscContext}
    (hx : x ∈ u.contexts) (named : Nat) (card : List UInt8) (sent : Option (List UInt8)) :
    (Holds ⟨withCard b.pcsc u x card,
      b.given.connect u.udsClientId named (b.pcsc.autoinc + 1) sent⟩ ↔
        x.appContext = named ∧ sent = some card) ∧
    (x.appContext = named ∧ sent = some card → Good ⟨withCard b.pcsc u x card,
      b.given.connect u.udsClientId named (b.pcsc.autoinc + 1) sent⟩) := by
  have hid : (u.addCard x ⟨b.pcsc.autoinc + 1, card⟩).udsClientId = u.udsClientId := rfl
  have hnext : u ∈ Pcsc.udsClients { b.pcsc with autoinc := b.pcsc.autoinc + 1 } := hu
  have hclient := h.shape.client u hu
  have hshape : Shape (withCard b.pcsc u x card) :=
    h.shape.next.setClient hu hid (hclient.addCard hx card)
  have hcontexts : (withCard b.pcsc u x card).contexts = b.given.contexts := by
    ext c
    rw [← h.contexts, mem_contexts_iff h.shape hu c, withCard, contexts_setClient hnext hid,
      hasContext_addCard hclient hx]
    rfl
  have hcards : ∀ c, c ∈ (withCard b.pcsc u x card).cards ↔ c ∈ b.given.cards ∨
      c.program = u.udsClientId ∧ x.appContext = c.hContext ∧ b.pcsc.autoinc + 1 = c.handle ∧
        card = c.card := by
    intro c
    rw [← h.cards, mem_cards_iff h.shape hu c, withCard, cards_setClient hnext hid,
      hasCard_addCard hclient hx, or_right_comm]
    rfl
  have hgood : x.appContext = named ∧ sent = some card → Good ⟨withCard b.pcsc u x card,
      b.given.connect u.udsClientId named (b.pcsc.autoinc + 1) sent⟩ := by
    rintro ⟨rfl, rfl⟩
    refine .of_eq hshape hcontexts (Set.ext fun c => (hcards c).trans ?_) h.nodup_next h.le_next
    have hgiven : (⟨u.udsClientId, x.appContext, x.context⟩ : GivenContext) ∈ b.given.contexts := by
      rw [← h.contexts]
      exact ⟨u, hu, rfl, x, hx, rfl, rfl⟩
    constructor
    · rintro (hold | ⟨hprogram, hcontext, hhandle, hcard⟩)
      · exact .inl hold
      · exact .inr ⟨hprogram, hcontext.symm, hhandle.symm, congrArg some hcard, _, hgiven, rfl, rfl⟩
    · rintro (hold | ⟨hprogram, hcontext, hhandle, hcard, -⟩)
      · exact .inl hold
      · exact .inr ⟨hprogram, hcontext.symm, hhandle.symm, Option.some_inj.1 hcard⟩
  refine ⟨⟨fun hholds => ?_, fun hsent => (hgood hsent).holds⟩, hgood⟩
  have heq := ((holds_iff hshape).1 hholds).2.1
  have hnew : (⟨u.udsClientId, x.appContext, b.pcsc.autoinc + 1, card⟩ : GivenCard) ∈
      (withCard b.pcsc u x card).cards := (hcards _).2 (.inr ⟨rfl, rfl, rfl, rfl⟩)
  rw [heq] at hnew
  rcases hnew with hold | ⟨-, hnamed, -, hsent, -⟩
  · have := h.cardLe hold
    dsimp only at this
    omega
  · exact ⟨hnamed, hsent⟩

/-- **A card that has been disconnected** is what has been given no more just if its handle resolves to
nothing. -/
theorem Good.disconnect (h : Good b) {u : UdsClient} (hu : u ∈ b.pcsc.udsClients) (handle : Nat) :
    (Holds ⟨b.pcsc, b.given.disconnect u.udsClientId handle⟩ ↔
      getPcscCardByAppCard u handle = none) ∧
    (getPcscCardByAppCard u handle = none →
      Good ⟨b.pcsc, b.given.disconnect u.udsClientId handle⟩) := by
  have hclient := h.shape.client u hu
  have hgood : getPcscCardByAppCard u handle = none →
      Good ⟨b.pcsc, b.given.disconnect u.udsClientId handle⟩ := by
    intro hnone
    refine .of_eq h.shape h.contexts (h.cards.trans ?_) h.holds.handles h.handleLe
    refine (Set.sep_eq_self_iff_mem_true.2 ?_).symm
    rintro c hc ⟨hprogram, rfl⟩
    rw [← h.cards] at hc
    obtain ⟨v, hv, hid, x, hx, -, y, hy, hkey, -⟩ := hc
    obtain rfl := h.shape.clients.unique hv hu (hid.symm.trans hprogram)
    rw [(getPcscCardByAppCard_iff hclient).2 ⟨hx, hy, hkey⟩] at hnone
    cases hnone
  refine ⟨⟨fun hholds => ?_, fun hnone => (hgood hnone).holds⟩, hgood⟩
  have heq := ((@holds_iff ⟨b.pcsc, b.given.disconnect u.udsClientId handle⟩ h.shape).1 hholds).2.1
  cases hfind : getPcscCardByAppCard u handle with
  | none => rfl
  | some xy =>
    obtain ⟨x, y⟩ := xy
    obtain ⟨hx, hy, hkey⟩ := (getPcscCardByAppCard_iff hclient).1 hfind
    have hmem : (⟨u.udsClientId, x.appContext, handle, y.card⟩ : GivenCard) ∈ b.pcsc.cards :=
      ⟨u, hu, rfl, x, hx, rfl, y, hy, hkey, rfl⟩
    rw [heq] at hmem
    obtain ⟨-, hne⟩ := hmem
    exact absurd ⟨rfl, rfl⟩ hne

/-- An answer of which the program gets to know: the step is that of its callback. -/
theorem answer_step {index : Nat} {a : Answer} {irp : Irp} {u : UdsClient}
    (hirp : b.pcsc.irps[index]? = some irp) (hu : getUdsClientById b.pcsc irp.userData = some u) :
    pcscStep b.pcsc (.answer index a) = (do
      let (message, s) ← scardFunctionReturn { b.pcsc with irps := b.pcsc.irps.eraseIdx index } u a
        irp.command
      return (⟨message, false⟩, s)) := by
  have hclient : getUdsClientById { b.pcsc with irps := b.pcsc.irps.eraseIdx index } irp.userData = some u :=
    hu
  rw [pcscStep, hirp]
  dsimp only
  rw [hclient]

/-- The condition for an answer of which the program gets to know. -/
theorem answer_fits {index : Nat} {a : Answer} {irp : Irp} {u : UdsClient}
    (hirp : b.pcsc.irps[index]? = some irp) (hu : getUdsClientById b.pcsc irp.userData = some u) :
    PcscFits b (.answer index a) ↔ (a.status = 0 → AnswerFits b.pcsc.autoinc u irp a) := by
  constructor
  · exact fun h => h irp u hirp hu
  · intro h irp' u' hirp' hu'
    obtain rfl := Option.some_inj.1 (hirp.symm.trans hirp')
    obtain rfl := Option.some_inj.1 (hu.symm.trans hu')
    exact h

/-- A step whose result is right just if the condition is met. -/
theorem stepIff_of_iff (right : Prop) {s' : Pcsc} {e : Event} {o : Outcome}
    (hstep : pcscStep b.pcsc e = .ok (o, s')) (hfits : PcscFits b e ↔ right)
    (h : (Holds ⟨s', b.given.step b.pcsc e o⟩ ↔ right) ∧
      (right → Good ⟨s', b.given.step b.pcsc e o⟩)) : StepIff PcscNext Holds Good PcscFits b e := by
  have hnext : PcscNext b e ⟨s', b.given.step b.pcsc e o⟩ := ⟨o, hstep, rfl⟩
  exact .of_next pcscNext_unique hnext (h.1.trans hfits.symm) fun hholds => h.2 (h.1.1 hholds)

section AnswerSteps

variable {index : Nat} {a : Answer} {irp : Irp} {u : UdsClient}

theorem Answer.context_iff (a : Answer) :
    a.context = some (a.bytes 32 (a.uint32 28)) ↔ 32 + a.uint32 28 ≤ a.received := by
  rw [Answer.context]
  split
  case isTrue hsent => exact iff_of_true rfl hsent
  case isFalse hsent => exact iff_of_false (fun h => nomatch h) hsent

theorem Answer.card_iff (a : Answer) :
    a.card = some (a.bytes 44 (a.uint32 40)) ↔ 44 + a.uint32 40 ≤ a.received := by
  rw [Answer.card]
  split
  case isTrue hsent => exact iff_of_true rfl hsent
  case isFalse hsent => exact iff_of_false (fun h => nomatch h) hsent

theorem Answer.bytes_length (a : Answer) (off n : Nat) : (a.bytes off n).length = n := by
  rw [Answer.bytes, List.length_map, List.length_range]

/-- The client has established a context. -/
theorem establish_stepIff (h : Good b) (hirp : b.pcsc.irps[index]? = some irp)
    (hu : getUdsClientById b.pcsc irp.userData = some u) (hcommand : irp.command = .establishContext)
    (hstatus : a.status = 0) : StepIff PcscNext Holds Good PcscFits b (.answer index a) := by
  obtain ⟨hmem, hid⟩ := (getUdsClientById_iff h.shape).1 hu
  have hs := h.irps (b.pcsc.irps.eraseIdx index)
  have hfits := answer_fits hirp hu (a := a)
  rw [AnswerFits, hcommand, imp_iff_right hstatus] at hfits
  have hstep := answer_step hirp hu (a := a)
  rw [hcommand] at hstep
  simp only [scardFunctionReturn, scardFunctionEstablishContextReturn, if_pos hstatus] at hstep
  by_cases hneg : INT_MAX < a.uint32 28
  · rw [if_pos hneg] at hstep
    exact stepIff_of_error hstep fun hok => Nat.not_lt.2 (hfits.1 hok).1 hneg
  rw [if_neg hneg] at hstep
  by_cases hlong : 16 < a.uint32 28
  · rw [if_pos hlong] at hstep
    refine stepIff_of_good hstep (hfits.2 ⟨Nat.not_lt.1 hneg, fun hle => by omega⟩) ?_
    rw [Given.step, hirp]
    exact hs
  rw [if_neg hlong, udsClientAddContext] at hstep
  by_cases hlt : b.pcsc.autoinc < INT_MAX
  · rw [@nextHandle_ok { b.pcsc with irps := b.pcsc.irps.eraseIdx index } hlt] at hstep
    refine stepIff_of_iff (a.context = some (a.bytes 32 (a.uint32 28))) hstep ?_ ?_
    · rw [hfits, a.context_iff, and_iff_right (Nat.not_lt.1 hneg), imp_iff_right (Nat.not_lt.1 hlong),
        and_iff_left hlt]
    · have hgiven : b.given.step b.pcsc (.answer index a)
          ⟨some (.establishContext (b.pcsc.autoinc + 1) 0), false⟩ =
          b.given.establish u.udsClientId (b.pcsc.autoinc + 1) a.context := by
        rw [Given.step, hirp, hid]
        rfl
      rw [hgiven]
      exact hs.addContext hmem _ _
  · rw [@nextHandle_error { b.pcsc with irps := b.pcsc.irps.eraseIdx index } hlt] at hstep
    exact stepIff_of_error hstep fun hok => hlt ((hfits.1 hok).2 (Nat.not_lt.1 hlong)).2

/-- The client has connected to a card. -/
theorem connect_stepIff (h : Good b) (hirp : b.pcsc.irps[index]? = some irp)
    (hu : getUdsClientById b.pcsc irp.userData = some u) (hcommand : irp.command = .connect)
    (hstatus : a.status = 0) : StepIff PcscNext Holds Good PcscFits b (.answer index a) := by
  obtain ⟨hmem, hid⟩ := (getUdsClientById_iff h.shape).1 hu
  have hclient := h.shape.client u hmem
  have hs := h.irps (b.pcsc.irps.eraseIdx index)
  have hfits := answer_fits hirp hu (a := a)
  rw [AnswerFits, hcommand, imp_iff_right hstatus] at hfits
  have hstep := answer_step hirp hu (a := a)
  rw [hcommand] at hstep
  simp only [scardFunctionReturn, scardFunctionConnectReturn, if_pos hstatus] at hstep
  by_cases hlen : 40 < a.intLen
  swap
  · rw [if_neg hlen] at hstep
    refine stepIff_of_good hstep (hfits.2 fun hlt => absurd hlt hlen) ?_
    rw [Given.step, hirp]
    exact hs
  rw [if_pos hlen, contextAddCard, a.bytes_length] at hstep
  dsimp only at hfits
  rw [imp_iff_right hlen] at hfits
  by_cases hlt : b.pcsc.autoinc < INT_MAX
  swap
  · rw [@nextHandle_error { b.pcsc with irps := b.pcsc.irps.eraseIdx index } hlt] at hstep
    exact stepIff_of_error hstep fun hok => hlt (hfits.1 hok).2.2.2.2
  rw [@nextHandle_ok { b.pcsc with irps := b.pcsc.irps.eraseIdx index } hlt] at hstep
  change _ = ((if 16 < a.uint32 40 then _ else _ : Except Fault (Nat × Pcsc)) >>= _) >>= _ at hstep
  by_cases hlong : 16 < a.uint32 40
  · have herror : pcscStep b.pcsc (.answer index a) = .error .outOfBounds := by
      rw [hstep, if_pos hlong]
      rfl
    exact stepIff_of_error herror fun hok => Nat.not_lt.2 (hfits.1 hok).2.2.1 hlong
  cases hfind : u.connectContext.bind (getPcscContextByAppContext u) with
  | none =>
    have herror : pcscStep b.pcsc (.answer index a) = .error .freed := by
      rw [hstep, if_neg hlong, hfind]
      rfl
    refine stepIff_of_error herror fun hok => ?_
    obtain ⟨hconnect, hsome, -⟩ := hfits.1 hok
    rw [hconnect] at hfind
    exact hsome hfind
  | some x =>
    have hok : pcscStep b.pcsc (.answer index a) = .ok
        (⟨some (.connect (b.pcsc.autoinc + 1) (a.uint32 36) 0), false⟩,
          withCard { b.pcsc with irps := b.pcsc.irps.eraseIdx index } u x (a.bytes 44 (a.uint32 40))) := by
      rw [hstep, if_neg hlong, hfind]
      rfl
    obtain ⟨p, hp, hx⟩ := Option.bind_eq_some_iff.1 hfind
    obtain ⟨hxmem, rfl⟩ := (find_iff hclient.contexts).1 hx
    refine stepIff_of_iff (x.appContext = irp.handle ∧ a.card = some (a.bytes 44 (a.uint32 40))) hok ?_ ?_
    · rw [hfits, a.card_iff, hp, Option.some_inj]
      constructor
      · rintro ⟨hnamed, -, -, hsent, -⟩
        exact ⟨hnamed, hsent⟩
      · rintro ⟨hnamed, hsent⟩
        refine ⟨hnamed, ?_, Nat.not_lt.1 hlong, hsent, hlt⟩
        rw [← hnamed, hx]
        exact Option.some_ne_none x
    · have hgiven : b.given.step b.pcsc (.answer index a)
          ⟨some (.connect (b.pcsc.autoinc + 1) (a.uint32 36) 0), false⟩ =
          b.given.connect u.udsClientId irp.handle (b.pcsc.autoinc + 1) a.card := by
        rw [Given.step, hirp, hid]
        rfl
      rw [hgiven]
      exact hs.addCard hmem hxmem _ _ _

/-- The client has disconnected a card. -/
theorem disconnect_stepIff (h : Good b) (hirp : b.pcsc.irps[index]? = some irp)
    (hu : getUdsClientById b.pcsc irp.userData = some u) (hcommand : irp.command = .disconnect)
    (hstatus : a.status = 0) : StepIff PcscNext Holds Good PcscFits b (.answer index a) := by
  obtain ⟨hmem, hid⟩ := (getUdsClientById_iff h.shape).1 hu
  have hs := h.irps (b.pcsc.irps.eraseIdx index)
  have hfits := answer_fits hirp hu (a := a)
  rw [AnswerFits, hcommand, imp_iff_right hstatus] at hfits
  have hstep : pcscStep b.pcsc (.answer index a) = .ok (⟨some (.other .disconnect a.status), false⟩,
      { b.pcsc with irps := b.pcsc.irps.eraseIdx index }) := by
    rw [answer_step hirp hu, hcommand]
    rfl
  have hgiven : b.given.step b.pcsc (.answer index a) ⟨some (.other .disconnect a.status), false⟩ =
      b.given.disconnect u.udsClientId irp.handle := by
    rw [Given.step, hirp, hid]
    exact if_pos hstatus
  refine stepIff_of_iff (getPcscCardByAppCard u irp.handle = none) hstep hfits ?_
  rw [hgiven]
  exact hs.disconnect hmem irp.handle

/-- An answer that neither gives nor takes a handle. -/
theorem quiet_stepIff (h : Good b) (hirp : b.pcsc.irps[index]? = some irp)
    (hu : getUdsClientById b.pcsc irp.userData = some u) {m : Message}
    (hreturn : ∀ s, scardFunctionReturn s u a irp.command = .ok (some m, s))
    (hgiven : m.status = 0 → b.given.answered irp a m = b.given)
    (hfits : PcscFits b (.answer index a)) : StepIff PcscNext Holds Good PcscFits b (.answer index a) := by
  have hstep := answer_step hirp hu (a := a)
  rw [hreturn] at hstep
  refine stepIff_of_good hstep hfits ?_
  have hsame : b.given.step b.pcsc (.answer index a) ⟨some m, false⟩ = b.given := by
    rw [Given.step, hirp]
    show (if m.status = 0 then b.given.answered irp a m else b.given) = b.given
    split
    · exact hgiven ‹_›
    · rfl
  rw [hsame]
  exact h.irps _

/-- An error is handed on. -/
theorem scardFunctionReturn_error (hstatus : a.status ≠ 0) (command : Command) :
    ∃ m, m.status ≠ 0 ∧ ∀ s, scardFunctionReturn s u a command = .ok (some m, s) := by
  cases command with
  | establishContext =>
    refine ⟨.establishContext 0 a.status, hstatus, fun s => ?_⟩
    rw [scardFunctionReturn, scardFunctionEstablishContextReturn, if_neg hstatus]
  | connect =>
    refine ⟨.connect 0 0 a.status, hstatus, fun s => ?_⟩
    rw [scardFunctionReturn, scardFunctionConnectReturn, if_neg hstatus]
  | _ => exact ⟨.other _ a.status, hstatus, fun s => rfl⟩

theorem answer_stepIff (h : Good b) (index : Nat) (a : Answer) :
    StepIff PcscNext Holds Good PcscFits b (.answer index a) := by
  cases hirp : b.pcsc.irps[index]? with
  | none =>
    have hstep : pcscStep b.pcsc (.answer index a) = .ok (⟨none, false⟩, b.pcsc) := by
      simp only [pcscStep, hirp]
    refine stepIff_of_good hstep (fun irp u hsome => ?_) ?_
    · cases hirp.symm.trans hsome
    · rw [Given.step, hirp]
      exact h
  | some irp =>
    cases hu : getUdsClientById b.pcsc irp.userData with
    | none =>
      have hstep : pcscStep b.pcsc (.answer index a) =
          .ok (⟨none, false⟩, { b.pcsc with irps := b.pcsc.irps.eraseIdx index }) := by
        have hclient : getUdsClientById { b.pcsc with irps := b.pcsc.irps.eraseIdx index } irp.userData =
            none := hu
        rw [pcscStep, hirp]
        dsimp only
        rw [hclient]
      refine stepIff_of_good hstep ?_ ?_
      · intro irp' u hirp' hu'
        obtain rfl := Option.some_inj.1 (hirp.symm.trans hirp')
        cases hu.symm.trans hu'
      · rw [Given.step, hirp]
        exact h.irps _
    | some u =>
      have hfits := answer_fits hirp hu (a := a)
      by_cases hstatus : a.status = 0
      · rw [AnswerFits] at hfits
        cases hcommand : irp.command with
        | establishContext => exact establish_stepIff h hirp hu hcommand hstatus
        | connect => exact connect_stepIff h hirp hu hcommand hstatus
        | disconnect => exact disconnect_stepIff h hirp hu hcommand hstatus
        | _ =>
          have hreturn : ∀ s, scardFunctionReturn s u a irp.command =
              .ok (some (.other irp.command a.status), s) := by
            intro s
            rw [hcommand]
            rfl
          rw [hcommand] at hfits
          refine quiet_stepIff h hirp hu hreturn (fun _ => ?_) (hfits.2 fun _ => trivial)
          rw [hcommand]
          rfl
      · obtain ⟨m, hm, hreturn⟩ := scardFunctionReturn_error (u := u) hstatus irp.command
        exact quiet_stepIff h hirp hu hreturn (fun hzero => absurd hzero hm)
          (hfits.2 fun hzero => absurd hzero hstatus)

end AnswerSteps

theorem pcscNext_stepIff (b : Both) (e : Event) (h : Good b) :
    StepIff PcscNext Holds Good PcscFits b e := by
  cases e with
  | «open» => exact open_stepIff h
  | request id r => exact request_stepIff h id r
  | close id => exact close_stepIff h id
  | answer index a => exact answer_stepIff h index a

/-! ## Runs -/

/-- **Handles stand for what has been given** just in the runs whose steps meet the condition. -/
theorem handles_iff (es : List Event) :
    Always PcscNext Holds .start es ↔ AllFit PcscNext PcscFits .start es :=
  always_iff pcscNext_unique (fun _ h => h.holds) pcscNext_stepIff good_start es

theorem PcscNext.of_step {e : Event} {o : Outcome} {s' : Pcsc} (h : pcscStep b.pcsc e = .ok (o, s')) :
    PcscNext b e ⟨s', b.given.step b.pcsc e o⟩ := ⟨o, h, rfl⟩

/-- The client has done what it has been asked for; `n` is the context. -/
def answerOf (n : UInt8) : Answer :=
  ⟨0, 48, fun i => if i = 28 ∨ i = 40 then 4 else if i = 32 then n else 0, 48⟩

/-- A program establishes two contexts and connects in both; the card of the first request is recorded
under the context of the second. -/
theorem connect_recorded_elsewhere : ¬ Always PcscNext Holds .start
    [.open, .request 1 .establishContext, .answer 0 (answerOf 7), .request 1 .establishContext,
      .answer 0 (answerOf 8), .request 1 (.connect 2), .request 1 (.connect 3),
      .answer 0 (answerOf 9)] := by
  intro h
  have hfits := (always_iff pcscNext_unique (fun _ h => h.holds) pcscNext_stepIff good_start _).1 h
  obtain ⟨-, hfits⟩ := hfits
  obtain ⟨-, hfits⟩ := hfits _ (.of_step rfl)
  obtain ⟨-, hfits⟩ := hfits _ (.of_step rfl)
  obtain ⟨-, hfits⟩ := hfits _ (.of_step rfl)
  obtain ⟨-, hfits⟩ := hfits _ (.of_step rfl)
  obtain ⟨-, hfits⟩ := hfits _ (.of_step rfl)
  obtain ⟨-, hfits⟩ := hfits _ (.of_step rfl)
  obtain ⟨hanswer, -⟩ := hfits _ (.of_step rfl)
  have hnamed := (hanswer _ _ rfl rfl rfl (by decide)).1
  cases hnamed

end Xrdp.Chansrv.Smartcard
