import Mathlib
import Xrdp.Lib.Chains
import Xrdp.Lib.Runs

/-!
# Timers

`sesman/chansrv/chansrv.c` keeps its timers in a list: `add_timeout` puts one at the end, `get_timeout` says
how long the main loop may wait, and `check_timeout` runs those that are due.

* `Timers.step` — the calls; a check takes one step for each timer, and the callback may add some.
* `Kept` — the list is right at its ends, and each timer is pending or has run once.
* `Right` — a timer runs just if it is due, and the main loop does not wait for longer than the first.
* `timers_right_iff` — the clock must not wrap in between, no timer may be due while the main loop
  waits, and of the pending ones the last has to be the first that is due.
-/

namespace Xrdp.Chansrv.Timeouts

open Chains Runs Function

/-- `int msoffset`. -/
abbrev MsOffset := { ms : Int // -2 ^ 31 ≤ ms ∧ ms < 2 ^ 31 }

/-- A place in `check_timeout`. -/
structure Loop where
  tobj : Option Nat
  lastTobj : Option Nat
  deriving DecidableEq, Repr

/-- The list of timers; what follows `none` is `g_timeout_head`. -/
structure Timers where
  /-- The time in milliseconds, of which `g_time3` shows 32 bits. -/
  clock : Int
  links : Option Nat → Option Nat
  tail : Option Nat
  mstime : Nat → Int
  fresh : Nat
  loop : Option Loop
  /-- When a timer is due, those that are pending and that have run, and when, and those that the check
  has come by. -/
  due : Nat → Int
  pending : List Nat
  ran : List (Nat × Int)
  seen : List Nat

/-- No timers, at some time. -/
def Timers.start (clock : Int) : Timers where
  clock := clock
  links := fun _ => none
  tail := none
  mstime := fun _ => 0
  fresh := 0
  loop := none
  due := fun _ => 0
  pending := []
  ran := []
  seen := []

namespace Timers

/-- `g_time3`. -/
def now (s : Timers) : Int := s.clock % 2 ^ 32

/-- `add_timeout`. -/
def addTimeout (s : Timers) (msoffset : MsOffset) : Timers :=
  let tobj := s.fresh
  let links := Function.update s.links (some tobj) none
  { s with
    fresh := s.fresh + 1
    mstime := Function.update s.mstime tobj ((s.now + msoffset) % 2 ^ 32)
    links := match s.tail with
      | none => Function.update links none (some tobj)
      | some tail => Function.update links (some tail) (some tobj)
    tail := some tobj
    due := Function.update s.due tobj (s.clock + msoffset)
    pending := s.pending ++ [tobj] }

/-- The loop of `get_timeout`. -/
def getLoop (s : Timers) : Nat → Option Nat → Int → Option Int
  | _, none, ltimeout => some ltimeout
  | 0, some _, _ => none
  | n + 1, some tobj, ltimeout =>
    getLoop s n (s.links (some tobj))
      (if s.now < s.mstime tobj then (s.mstime tobj - s.now).bmod (2 ^ 32) else ltimeout)

/-- `get_timeout`, with as many steps as there can be timers. -/
def getTimeout (s : Timers) (timeout : Int) : Option Int := do
  let ltimeout ← s.getLoop s.fresh (s.links none) (if timeout < 1 then 0 else timeout)
  return if ltimeout > 0 then
      if timeout < 1 then ltimeout else if timeout > ltimeout then ltimeout else timeout
    else timeout

/-- The callback of a timer adds others, each some time later. -/
def callback (s : Timers) (adds : List (Nat × MsOffset)) : Timers :=
  adds.foldl (fun s add => ({ s with clock := s.clock + add.1 } : Timers).addTimeout add.2) s

/-- A timer is taken out of the list. -/
def unlink (s : Timers) (tobj : Nat) (lastTobj : Option Nat) : Timers :=
  let next := s.links (some tobj)
  match lastTobj with
  | none =>
    { s with
      links := Function.update s.links none next
      tail := if next = none then none else s.tail
      pending := s.pending.erase tobj }
  | some last =>
    { s with
      links := Function.update s.links (some last) next
      tail := if s.tail = some tobj then some last else s.tail
      pending := s.pending.erase tobj }

/-- A pass of the loop of `check_timeout`. -/
def checkStep (s : Timers) (tobj : Nat) (lastTobj : Option Nat) (adds : List (Nat × MsOffset)) : Timers :=
  let s := { s with seen := s.seen ++ [tobj] }
  if s.now ≥ s.mstime tobj then
    let s := ({ s with ran := s.ran ++ [(tobj, s.clock)] } : Timers).callback adds
    { s.unlink tobj lastTobj with loop := some ⟨s.links (some tobj), lastTobj⟩ }
  else { s with loop := some ⟨s.links (some tobj), some tobj⟩ }

end Timers

/-- Time goes by, a call of one of the functions, or a step of a check, with what a callback adds. -/
inductive Event where
  | wait (ms : Nat)
  | add (msoffset : MsOffset)
  | get (timeout : Int)
  | beginCheck
  | checkNext (adds : List (Nat × MsOffset))
  | endCheck

/-- What comes of an event; nothing but the check goes on while it does. -/
def Timers.step (s : Timers) : Event → Option Timers
  | .wait ms => some { s with clock := s.clock + ms }
  | .add msoffset => if s.loop = none then some (s.addTimeout msoffset) else none
  | .get _ => if s.loop = none then some s else none
  | .beginCheck =>
    if s.loop = none then some { s with loop := some ⟨s.links none, none⟩, seen := [] } else none
  | .checkNext adds => match s.loop with
    | some ⟨some tobj, lastTobj⟩ => some (s.checkStep tobj lastTobj adds)
    | _ => none
  | .endCheck => match s.loop with
    | some ⟨none, _⟩ => some { s with loop := none }
    | _ => none

def Next (s : Timers) (e : Event) (s' : Timers) : Prop := s.step e = some s'

/-! ## What is promised -/

/-- The list goes from its head to its tail through what is pending, and each timer is pending or has
run once.  A check that is through has come by all that are left. -/
structure Kept (s : Timers) : Prop where
  chain : Chain s.links s.pending
  tail : s.tail = s.pending.getLast?
  once : (s.ran.map Prod.fst).Nodup
  apart : ∀ i ∈ s.pending, i ∉ s.ran.map Prod.fst
  all : ∀ i < s.fresh, i ∈ s.pending ∨ i ∈ s.ran.map Prod.fst
  through : ∀ lastTobj, s.loop = some ⟨none, lastTobj⟩ → ∀ i ∈ s.pending, i ∈ s.seen

/-- A timer that a check comes by runs just if it is due; and the main loop waits, and no longer than for
the first timer, if there is one. -/
def Right (s : Timers) : Event → Prop
  | .checkNext adds => ∀ tobj lastTobj, s.loop = some ⟨some tobj, lastTobj⟩ →
    (tobj ∈ (s.checkStep tobj lastTobj adds).ran.map Prod.fst ↔ s.due tobj ≤ s.clock)
  | .get timeout => ∃ v, s.getTimeout timeout = some v ∧
    (s.pending ≠ [] → 1 ≤ v ∧ ∀ i ∈ s.pending, s.clock + v ≤ s.due i)
  | _ => True

/-- All states of a run are kept, and all its steps are right. -/
def RunRight (clock : Int) (es : List Event) : Prop :=
  (∀ before, before <+: es → ∀ s, Leads Next (.start clock) before s → Kept s) ∧
    AllFit Next Right (.start clock) es

/-! ## When it holds -/

/-- Two times with the same upper bits. -/
def SameEpoch (a b : Int) : Prop := a / 2 ^ 32 = b / 2 ^ 32

instance (a b : Int) : Decidable (SameEpoch a b) := by
  unfold SameEpoch
  infer_instance

/-- What the main loop may wait for: it comes with a time that is short enough, or the last timer that is due
in the same epoch is the first of all. -/
def WaitFits (s : Timers) (timeout : Int) : Prop :=
  (∀ i ∈ s.pending, s.clock < s.due i) ∧
    ((1 ≤ timeout ∧ ∀ i ∈ s.pending, s.clock + timeout ≤ s.due i) ∨
      ∃ before j behind, s.pending = before ++ j :: behind ∧ SameEpoch s.clock (s.due j) ∧
        (∀ k ∈ behind, ¬ SameEpoch s.clock (s.due k)) ∧ ∀ i ∈ s.pending, s.due j ≤ s.due i)

/-- The lower bits of the time compare like the times; and a wait fits, if there is a timer. -/
def Fits (s : Timers) : Event → Prop
  | .checkNext _ => ∀ tobj lastTobj, s.loop = some ⟨some tobj, lastTobj⟩ →
    (s.due tobj % 2 ^ 32 ≤ s.clock % 2 ^ 32 ↔ s.due tobj ≤ s.clock)
  | .get timeout => s.pending ≠ [] → WaitFits s timeout
  | _ => True

/-! ## At any time -/

/-- The list of what is pending, with a check in a place of it; a timer is due in less than the greatest offset. -/
structure Inv (s : Timers) : Prop where
  chain : Chain s.links s.pending
  tail : s.tail = s.pending.getLast?
  nodup : s.pending.Nodup
  once : (s.ran.map Prod.fst).Nodup
  apart : ∀ i ∈ s.pending, i ∉ s.ran.map Prod.fst
  all : ∀ i < s.fresh, i ∈ s.pending ∨ i ∈ s.ran.map Prod.fst
  low : ∀ i ∈ s.pending, i < s.fresh
  ranLow : ∀ i ∈ s.ran.map Prod.fst, i < s.fresh
  mstime : ∀ i ∈ s.pending, s.mstime i = s.due i % 2 ^ 32
  near : ∀ i ∈ s.pending, s.due i < s.clock + 2 ^ 31
  loop : ∀ tobj lastTobj, s.loop = some ⟨tobj, lastTobj⟩ → ∃ before behind, s.pending = before ++ behind ∧
    tobj = behind.head? ∧ lastTobj = before.getLast? ∧ ∀ i ∈ before, i ∈ s.seen

theorem inv_start (clock : Int) : Inv (.start clock) where
  chain := chain_nil.2 rfl
  tail := rfl
  nodup := List.nodup_nil
  once := List.nodup_nil
  apart _ h := nomatch h
  all _ h := nomatch h
  low _ h := nomatch h
  ranLow _ h := nomatch h
  mstime _ h := nomatch h
  near _ h := nomatch h
  loop _ _ h := nomatch h

theorem Inv.kept {s : Timers} (h : Inv s) : Kept s where
  chain := h.chain
  tail := h.tail
  once := h.once
  apart := h.apart
  all := h.all
  through lastTobj hloop := by
    obtain ⟨before, behind, hpending, hnone, -, hseen⟩ := h.loop none lastTobj hloop
    rw [List.head?_eq_none_iff.1 hnone.symm, List.append_nil] at hpending
    rwa [hpending]

/-- Time goes by. -/
theorem Inv.wait {s : Timers} (h : Inv s) (ms : Nat) : Inv { s with clock := s.clock + ms } where
  chain := h.chain
  tail := h.tail
  nodup := h.nodup
  once := h.once
  apart := h.apart
  all := h.all
  low := h.low
  ranLow := h.ranLow
  mstime := h.mstime
  near i hi := by
    have hnear := h.near i hi
    show s.due i < s.clock + ms + 2 ^ 31
    omega
  loop := h.loop

/-- A timer is put in, while there is no check or one that is not through. -/
theorem Inv.addTimeout {s : Timers} (h : Inv s) (hplace : ∀ lastTobj, s.loop ≠ some ⟨none, lastTobj⟩)
    (msoffset : MsOffset) : Inv (s.addTimeout msoffset) := by
  have hnew : s.fresh ∉ s.pending := fun hmem => Nat.lt_irrefl _ (h.low _ hmem)
  have hlinks : (s.addTimeout msoffset).links =
      update (update s.links (some s.fresh) none) s.pending.getLast? (some s.fresh) := by
    rw [← h.tail]
    unfold Timers.addTimeout
    cases s.tail <;> rfl
  have hmem : ∀ i, i ∈ (s.addTimeout msoffset).pending → i ∈ s.pending ∨ i = s.fresh := by
    intro i hi
    simpa [Timers.addTimeout] using hi
  constructor
  case chain =>
    rw [hlinks]
    exact h.chain.append h.nodup hnew
  case tail => exact List.getLast?_concat.symm
  case nodup => exact h.nodup.append (List.nodup_singleton _) (List.disjoint_singleton.2 hnew)
  case once => exact h.once
  case apart =>
    intro i hi hran
    rcases hmem i hi with hold | rfl
    · exact h.apart i hold hran
    · exact Nat.lt_irrefl _ (h.ranLow _ hran)
  case all =>
    intro i hi
    rcases Nat.lt_succ_iff_lt_or_eq.1 hi with hlt | rfl
    · exact (h.all i hlt).imp_left (List.mem_append_left _)
    · exact Or.inl (List.mem_append_right _ (List.mem_singleton_self _))
  case low =>
    intro i hi
    rcases hmem i hi with hold | rfl
    · exact Nat.lt_succ_of_lt (h.low i hold)
    · exact Nat.lt_succ_self _
  case ranLow => exact fun i hi => Nat.lt_succ_of_lt (h.ranLow i hi)
  case mstime =>
    intro i hi
    rcases hmem i hi with hold | rfl
    · have hne : i ≠ s.fresh := fun heq => hnew (heq ▸ hold)
      simpa [Timers.addTimeout, hne] using h.mstime i hold
    · simp [Timers.addTimeout, Timers.now]
  case near =>
    intro i hi
    rcases hmem i hi with hold | rfl
    · have hne : i ≠ s.fresh := fun heq => hnew (heq ▸ hold)
      simpa [Timers.addTimeout, hne] using h.near i hold
    · have hoffset := msoffset.2.2
      simpa [Timers.addTimeout] using hoffset
  case loop =>
    intro tobj lastTobj hloop
    obtain ⟨before, behind, hpending, htobj, hlast, hseen⟩ := h.loop tobj lastTobj hloop
    refine ⟨before, behind ++ [s.fresh], ?_, ?_, hlast, hseen⟩
    · rw [← List.append_assoc, ← hpending]
      rfl
    · have hbehind : behind ≠ [] := by
        rintro rfl
        rw [htobj] at hloop
        exact hplace lastTobj hloop
      rw [htobj, List.head?_append_of_ne_nil _ hbehind]

/-- A callback adds timers, and does not come by others. -/
structure Callback (s s' : Timers) : Prop where
  inv : Inv s → (∀ lastTobj, s.loop ≠ some ⟨none, lastTobj⟩) → Inv s'
  ran : s'.ran = s.ran
  seen : s'.seen = s.seen
  loop : s'.loop = s.loop

theorem callback_spec (s : Timers) (adds : List (Nat × MsOffset)) : Callback s (s.callback adds) := by
  induction adds generalizing s with
  | nil => exact ⟨fun h _ => h, rfl, rfl, rfl⟩
  | cons add adds ih =>
    have hrest := ih (({ s with clock := s.clock + add.1 } : Timers).addTimeout add.2)
    exact ⟨fun h hplace => hrest.inv ((h.wait add.1).addTimeout hplace add.2) hplace,
      hrest.ran, hrest.seen, hrest.loop⟩

/-- A callback does not look at what has run. -/
theorem callback_ghost (s : Timers) (adds : List (Nat × MsOffset)) (ran : List (Nat × Int))
    (seen : List Nat) : ({ s with ran := ran, seen := seen } : Timers).callback adds =
      { s.callback adds with ran := ran, seen := seen } := by
  induction adds generalizing s with
  | nil => rfl
  | cons add adds ih => exact ih (({ s with clock := s.clock + add.1 } : Timers).addTimeout add.2)

theorem unlink_links (s : Timers) (tobj : Nat) (lastTobj : Option Nat) :
    (s.unlink tobj lastTobj).links = update s.links lastTobj (s.links (some tobj)) := by
  cases lastTobj <;> rfl

theorem unlink_tail {s : Timers} {before rest : List Nat} {tobj : Nat}
    (hchain : Chain s.links (before ++ tobj :: rest)) (hnodup : (before ++ tobj :: rest).Nodup)
    (htail : s.tail = (before ++ tobj :: rest).getLast?) :
    (s.unlink tobj before.getLast?).tail = (before ++ rest).getLast? := by
  have hnext := hchain.next
  rw [List.nodup_append, List.nodup_cons] at hnodup
  have htobj : tobj ∉ rest := hnodup.2.1.1
  rcases List.eq_nil_or_concat before with rfl | ⟨before, last, rfl⟩
  · cases rest <;> simp_all [Timers.unlink]
  · rcases List.eq_nil_or_concat rest with rfl | ⟨rest, end', rfl⟩
    · simp [Timers.unlink, htail]
    · have hne : end' ≠ tobj := by
        rintro rfl
        exact htobj (by simp)
      have hend : (tobj :: (rest ++ [end'])).getLast? = some end' := by
        rw [← List.cons_append, List.getLast?_concat]
      have hlast : (last :: (rest ++ [end'])).getLast? = some end' := by
        rw [← List.cons_append, List.getLast?_concat]
      simp [Timers.unlink, htail, hend, hlast, hne]

/-- A timer that runs is taken out, behind those that the check has come by. -/
theorem Inv.ran {s : Timers} (h : Inv s) {tobj : Nat} {lastTobj : Option Nat} {seen : List Nat}
    (hloop : s.loop = some ⟨some tobj, lastTobj⟩) (hseen : ∀ i ∈ s.seen, i ∈ seen) (time : Int) :
    Inv { s.unlink tobj lastTobj with
      ran := s.ran ++ [(tobj, time)], seen := seen, loop := some ⟨s.links (some tobj), lastTobj⟩ } := by
  obtain ⟨before, behind, hpending, htobj, hlast, hbefore⟩ := h.loop _ _ hloop
  obtain ⟨rest, rfl⟩ := List.head?_eq_some_iff.1 htobj.symm
  have hchain := h.chain
  have hnodup := h.nodup
  have htail := h.tail
  rw [hpending] at hchain hnodup htail
  have hrest : (s.unlink tobj lastTobj).pending = before ++ rest := by
    have hfront : tobj ∉ before := fun hmem => (List.nodup_append.1 hnodup).2.2 tobj hmem tobj (by simp) rfl
    have herase : s.pending.erase tobj = before ++ rest := by
      rw [hpending, List.erase_append_right _ hfront, List.erase_cons_head]
    rw [← herase]
    cases lastTobj <;> rfl
  have hsub : ∀ i ∈ before ++ rest, i ∈ s.pending ∧ i ≠ tobj := by
    intro i hi
    have hcons := List.nodup_middle.1 hnodup
    rw [List.nodup_cons] at hcons
    refine ⟨?_, fun heq => hcons.1 (heq ▸ hi)⟩
    rw [hpending]
    simp only [List.mem_append, List.mem_cons] at hi ⊢
    tauto
  have hmem : tobj ∈ s.pending := by simp [hpending]
  have hfields : (s.unlink tobj lastTobj).fresh = s.fresh ∧ (s.unlink tobj lastTobj).mstime = s.mstime ∧
      (s.unlink tobj lastTobj).due = s.due ∧ (s.unlink tobj lastTobj).clock = s.clock := by
    cases lastTobj <;> exact ⟨rfl, rfl, rfl, rfl⟩
  obtain ⟨hfresh, hmstime, hdue, hclock⟩ := hfields
  constructor <;> dsimp only
  case chain =>
    rw [unlink_links, hrest, hchain.next, hlast]
    exact hchain.remove hnodup
  case tail =>
    rw [hrest, hlast]
    exact unlink_tail hchain hnodup htail
  case nodup =>
    rw [hrest]
    exact (List.nodup_cons.1 (List.nodup_middle.1 hnodup)).2
  case once =>
    rw [List.map_append]
    exact h.once.append (List.nodup_singleton _) (List.disjoint_singleton.2 (h.apart tobj hmem))
  case apart =>
    intro i hi hran
    rw [hrest] at hi
    obtain ⟨hold, hne⟩ := hsub i hi
    rw [List.map_append, List.mem_append] at hran
    exact hran.elim (h.apart i hold) fun hlast => hne (by simpa using hlast)
  case all =>
    intro i hi
    rw [hfresh] at hi
    rw [hrest, List.map_append, List.mem_append, List.mem_append]
    rcases h.all i hi with hold | hold
    · rw [hpending, List.mem_append, List.mem_cons] at hold
      simp only [List.map_cons, List.map_nil, List.mem_singleton]
      tauto
    · exact Or.inr (Or.inl hold)
  case low =>
    intro i hi
    rw [hrest] at hi
    rw [hfresh]
    exact h.low i (hsub i hi).1
  case ranLow =>
    intro i hi
    rw [List.map_append, List.mem_append] at hi
    rw [hfresh]
    rcases hi with hold | hnew
    · exact h.ranLow i hold
    · obtain rfl : i = tobj := by simpa using hnew
      exact h.low i hmem
  case mstime =>
    intro i hi
    rw [hrest] at hi
    rw [hmstime, hdue]
    exact h.mstime i (hsub i hi).1
  case near =>
    intro i hi
    rw [hrest] at hi
    rw [hdue, hclock]
    exact h.near i (hsub i hi).1
  case loop =>
    intro next last heq
    cases heq
    exact ⟨before, rest, hrest, hchain.next, hlast, fun i hi => hseen i (hbefore i hi)⟩

/-- A timer that does not run is left behind. -/
theorem Inv.passed {s : Timers} (h : Inv s) {tobj : Nat} {lastTobj : Option Nat}
    (hloop : s.loop = some ⟨some tobj, lastTobj⟩) :
    Inv { s with seen := s.seen ++ [tobj], loop := some ⟨s.links (some tobj), some tobj⟩ } := by
  obtain ⟨before, behind, hpending, htobj, hlast, hbefore⟩ := h.loop _ _ hloop
  obtain ⟨rest, rfl⟩ := List.head?_eq_some_iff.1 htobj.symm
  have hchain := h.chain
  rw [hpending] at hchain
  refine ⟨h.chain, h.tail, h.nodup, h.once, h.apart, h.all, h.low, h.ranLow, h.mstime, h.near, ?_⟩
  intro next last heq
  cases heq
  refine ⟨before ++ [tobj], rest, ?_, hchain.next, List.getLast?_concat.symm, ?_⟩
  · rw [List.append_assoc]
    exact hpending
  · intro i hi
    rw [List.mem_append] at hi ⊢
    exact hi.imp_left (hbefore i)

theorem Inv.checkStep {s : Timers} (h : Inv s) {tobj : Nat} {lastTobj : Option Nat}
    (hloop : s.loop = some ⟨some tobj, lastTobj⟩) (adds : List (Nat × MsOffset)) :
    Inv (s.checkStep tobj lastTobj adds) := by
  unfold Timers.checkStep
  dsimp only
  split
  · have hcallback := callback_spec s adds
    have hplace : ∀ lastTobj, s.loop ≠ some ⟨none, lastTobj⟩ := by simp [hloop]
    have hafter := (hcallback.inv h hplace).ran (hcallback.loop.trans hloop)
      (fun i hi => List.mem_append_left [tobj] (hcallback.seen ▸ hi)) s.clock
    rw [hcallback.ran] at hafter
    rw [callback_ghost]
    cases lastTobj <;> exact hafter
  · exact h.passed hloop

/-- **At any time the list is in order.** -/
theorem inv_next {s s' : Timers} {e : Event} (h : Inv s) (hnext : Next s e s') : Inv s' := by
  cases e with
  | wait ms =>
    cases hnext
    exact h.wait ms
  | add msoffset =>
    obtain ⟨hloop, ⟨⟩⟩ := Option.ite_none_right_eq_some.1 hnext
    exact h.addTimeout (by simp [hloop]) msoffset
  | get timeout =>
    obtain ⟨-, ⟨⟩⟩ := Option.ite_none_right_eq_some.1 hnext
    exact h
  | beginCheck =>
    obtain ⟨-, ⟨⟩⟩ := Option.ite_none_right_eq_some.1 hnext
    refine ⟨h.chain, h.tail, h.nodup, h.once, h.apart, h.all, h.low, h.ranLow, h.mstime, h.near, ?_⟩
    intro next last heq
    cases heq
    exact ⟨[], s.pending, rfl, h.chain.head, rfl, fun _ hi => (nomatch hi)⟩
  | checkNext adds =>
    dsimp only [Next, Timers.step] at hnext
    split at hnext
    case h_1 tobj lastTobj hloop =>
      cases hnext
      exact h.checkStep hloop adds
    case h_2 => cases hnext
  | endCheck =>
    dsimp only [Next, Timers.step] at hnext
    split at hnext
    case h_1 lastTobj hloop =>
      cases hnext
      exact ⟨h.chain, h.tail, h.nodup, h.once, h.apart, h.all, h.low, h.ranLow, h.mstime, h.near,
        fun _ _ heq => (nomatch heq)⟩
    case h_2 => cases hnext

/-! ## A timer that runs -/

theorem ran_iff {s : Timers} (h : Inv s) {tobj : Nat} {lastTobj : Option Nat}
    (hloop : s.loop = some ⟨some tobj, lastTobj⟩) (adds : List (Nat × MsOffset)) :
    tobj ∈ (s.checkStep tobj lastTobj adds).ran.map Prod.fst ↔ s.due tobj % 2 ^ 32 ≤ s.clock % 2 ^ 32 := by
  have hmem : tobj ∈ s.pending := by
    obtain ⟨before, behind, hpending, htobj, -⟩ := h.loop _ _ hloop
    rw [hpending]
    exact List.mem_append_right _ (List.mem_of_mem_head? htobj.symm)
  unfold Timers.checkStep
  dsimp only
  rw [← h.mstime tobj hmem]
  split_ifs with hdue
  · have hran : ((s.callback adds).unlink tobj lastTobj).ran = s.ran := by
      rw [← (callback_spec s adds).ran]
      cases lastTobj <;> rfl
    have hafter : (({ s.callback adds with ran := s.ran ++ [(tobj, s.clock)], seen := s.seen ++ [tobj] } :
        Timers).unlink tobj lastTobj).ran = s.ran ++ [(tobj, s.clock)] := by
      cases lastTobj <;> rfl
    rw [callback_ghost, hafter]
    simpa [Timers.now] using hdue
  · exact iff_of_false (h.apart tobj hmem) hdue

/-! ## The time that the main loop waits for -/

/-- What `getLoop` makes of a timer. -/
def Timers.look (s : Timers) (ltimeout : Int) (tobj : Nat) : Int :=
  if s.now < s.mstime tobj then (s.mstime tobj - s.now).bmod (2 ^ 32) else ltimeout

theorem getLoop_eq {s : Timers} {before rest : List Nat} (hchain : Chain s.links (before ++ rest)) {n : Nat}
    (hn : rest.length ≤ n) (ltimeout : Int) :
    s.getLoop n rest.head? ltimeout = some (rest.foldl s.look ltimeout) := by
  induction rest generalizing before n ltimeout with
  | nil => cases n <;> rfl
  | cons tobj rest ih =>
    obtain ⟨n, rfl⟩ : ∃ m, n = m + 1 := ⟨n - 1, by rw [List.length_cons] at hn; omega⟩
    have hrest := @ih (before ++ [tobj]) (by simpa using hchain) n
      (by simpa using hn) (s.look ltimeout tobj)
    rw [← hchain.next] at hrest
    exact hrest

/-- The loop comes to an end. -/
theorem getLoop_of_inv {s : Timers} (h : Inv s) (ltimeout : Int) :
    s.getLoop s.fresh (s.links none) ltimeout = some (s.pending.foldl s.look ltimeout) := by
  have hlength : s.pending.length ≤ s.fresh := by
    have hsub : s.pending ⊆ List.range s.fresh := fun i hi => List.mem_range.2 (h.low i hi)
    simpa using (h.nodup.subperm hsub).length_le
  rw [h.chain.head]
  exact @getLoop_eq s [] s.pending h.chain _ hlength ltimeout

/-- A timer that is not due yet, in the same epoch. -/
theorem look_eq {s : Timers} (h : Inv s) {i : Nat} (hi : i ∈ s.pending) (hdue : s.clock < s.due i)
    (ltimeout : Int) :
    s.look ltimeout i = if SameEpoch s.clock (s.due i) then s.due i - s.clock else ltimeout := by
  have hnear := h.near i hi
  unfold Timers.look Timers.now SameEpoch
  rw [h.mstime i hi, Int.bmod_eq_emod]
  split_ifs <;> omega

/-- The last timer in the same epoch is looked at last. -/
theorem foldl_look {s : Timers} (h : Inv s) (hdue : ∀ i ∈ s.pending, s.clock < s.due i) (ltimeout : Int) :
    (∀ i ∈ s.pending, ¬ SameEpoch s.clock (s.due i)) ∧ s.pending.foldl s.look ltimeout = ltimeout ∨
      ∃ before j behind, s.pending = before ++ j :: behind ∧ SameEpoch s.clock (s.due j) ∧
        (∀ k ∈ behind, ¬ SameEpoch s.clock (s.due k)) ∧
        s.pending.foldl s.look ltimeout = s.due j - s.clock := by
  have hlook : s.pending.foldl s.look ltimeout =
      s.pending.foldl (fun ltimeout i => if SameEpoch s.clock (s.due i) then s.due i - s.clock else ltimeout)
        ltimeout :=
    List.foldl_ext _ _ _ fun ltimeout i hi => look_eq h hi (hdue i hi) ltimeout
  rw [hlook]
  exact foldl_last _ _ _ _

theorem wait_right_iff {s : Timers} (h : Inv s) (timeout : Int) :
    (∃ v, s.getTimeout timeout = some v ∧ 1 ≤ v ∧ ∀ i ∈ s.pending, s.clock + v ≤ s.due i) ↔
      WaitFits s timeout := by
  have hvalue : ∀ v, s.getTimeout timeout = some v ↔
      (if s.pending.foldl s.look (if timeout < 1 then 0 else timeout) > 0 then
        if timeout < 1 then s.pending.foldl s.look (if timeout < 1 then 0 else timeout)
        else if timeout > s.pending.foldl s.look (if timeout < 1 then 0 else timeout) then
          s.pending.foldl s.look (if timeout < 1 then 0 else timeout)
        else timeout
      else timeout) = v := by
    intro v
    unfold Timers.getTimeout
    rw [getLoop_of_inv h]
    exact Option.some_inj
  simp only [hvalue, exists_eq_left']
  by_cases hdue : ∀ i ∈ s.pending, s.clock < s.due i
  · rcases foldl_look h hdue (if timeout < 1 then 0 else timeout) with
      ⟨hnone, hlook⟩ | ⟨before, j, behind, hpending, hsame, hbehind, hlook⟩
    · -- no timer is seen, and the time that was given is kept
      have hkept : (if (if timeout < 1 then 0 else timeout) > 0 then
          if timeout < 1 then (if timeout < 1 then 0 else timeout)
          else if timeout > (if timeout < 1 then 0 else timeout) then (if timeout < 1 then 0 else timeout)
          else timeout
        else timeout) = timeout := by
        split_ifs <;> omega
      rw [hlook, hkept]
      constructor
      · exact fun hright => ⟨hdue, Or.inl hright⟩
      · rintro ⟨-, hright | ⟨before, j, behind, hpending, hsame, -⟩⟩
        · exact hright
        · exact absurd hsame (hnone j (by simp [hpending]))
    · -- the last timer that is seen bounds the time
      have hj : s.clock < s.due j := hdue j (by simp [hpending])
      rw [hlook]
      constructor
      · rintro ⟨hone, hall⟩
        refine ⟨hdue, ?_⟩
        by_cases hgiven : timeout < 1 ∨ timeout > s.due j - s.clock
        · refine Or.inr ⟨before, j, behind, hpending, hsame, hbehind, fun i hi => ?_⟩
          have hi := hall i hi
          split_ifs at hi <;> omega
        · refine Or.inl ⟨by omega, fun i hi => ?_⟩
          have hi := hall i hi
          split_ifs at hi <;> omega
      · rintro ⟨-, ⟨hone, hall⟩ | ⟨before', j', behind', hpending', hsame', hbehind', hall⟩⟩
        · refine ⟨by split_ifs <;> omega, fun i hi => ?_⟩
          have hi := hall i hi
          split_ifs <;> omega
        · obtain rfl : j = j' := @last_unique _ (fun i => SameEpoch s.clock (s.due i)) _ _ _ _ _ _
            (hpending.symm.trans hpending') hsame hbehind hsame' hbehind'
          refine ⟨by split_ifs <;> omega, fun i hi => ?_⟩
          have hi := hall i hi
          split_ifs <;> omega
  · refine iff_of_false (fun hright => hdue fun i hi => ?_) fun hfits => hdue hfits.1
    have hi := hright.2 i hi
    omega

/-! ## Runs -/

theorem right_iff {s : Timers} (h : Inv s) (e : Event) : Right s e ↔ Fits s e := by
  cases e with
  | get timeout =>
    by_cases hpending : s.pending = []
    · refine iff_of_true ?_ (fun hne => absurd hpending hne)
      have hsome : ∃ v, s.getTimeout timeout = some v := by
        unfold Timers.getTimeout
        rw [getLoop_of_inv h]
        exact ⟨_, rfl⟩
      obtain ⟨v, hv⟩ := hsome
      exact ⟨v, hv, fun hne => absurd hpending hne⟩
    · simp only [Right, Fits, hpending, ne_eq, not_false_eq_true, forall_const]
      exact wait_right_iff h timeout
  | checkNext adds =>
    refine forall_congr' fun tobj => forall_congr' fun lastTobj => forall_congr' fun hloop => ?_
    rw [ran_iff h hloop]
  | _ => exact Iff.rfl

/-- **The timers are right just if the clock does not wrap in between, no timer is due when the main loop
waits, and the last timer is the first that is due.** -/
theorem timers_right_iff (clock : Int) (es : List Event) :
    RunRight clock es ↔ AllFit Next Fits (.start clock) es := by
  have hall : ∀ s, Inv s → ∀ es, AllFit Next Right s es ↔ AllFit Next Fits s es := by
    intro s h es
    induction es generalizing s with
    | nil => exact Iff.rfl
    | cons e es ih =>
      refine and_congr (right_iff h e) (forall_congr' fun s' => forall_congr' fun hnext => ?_)
      exact ih s' (inv_next h hnext)
  constructor
  · exact fun h => (hall _ (inv_start clock) es).1 h.2
  · refine fun h => ⟨fun before _ s hleads => ?_, (hall _ (inv_start clock) es).2 h⟩
    have hinv : Inv s := @leads_inv _ _ Next Inv (fun _ _ _ h hnext => inv_next h hnext) _ _ _ (inv_start clock) hleads
    exact hinv.kept

/-- Of two timers the second is due later; the main loop waits for it. -/
theorem wait_for_last :
    ¬ RunRight 0 [.add ⟨100, by decide⟩, .add ⟨200, by decide⟩, .get (-1)] := by
  rintro ⟨-, -, hrest⟩
  obtain ⟨-, hrest⟩ := hrest _ rfl
  obtain ⟨⟨v, hv, hwait⟩, -⟩ := hrest _ rfl
  cases (show some 200 = some v from hv)
  exact absurd ((hwait (by decide)).2 0 (by decide)) (by decide)

end Xrdp.Chansrv.Timeouts
