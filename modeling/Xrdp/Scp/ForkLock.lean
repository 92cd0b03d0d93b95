import Xrdp.Lib.Places
import Xrdp.Lib.Runs

/-!
# The fork lock

`sesman/libscp/libscp_lock.c`: threads that send or receive must not be in the middle of it when
another thread forks.  Sections under the mutex are one step, and so is a wait for a semaphore.

* `ForkLock.step` — the four functions, for any number of threads.
* `ForkLock.Safe` — no two threads have the lock, and none has it while another is blocking it.
* `ForkLock.Inv` — the tokens of `lock_fork_req` and the threads that have the lock are one if a
  thread wants to fork and none is blocking, and none otherwise; `inv_step`.
* `fork_lock_iff` — the runs that are safe whatever grants come next: those in which no thread
  requests the lock while nobody is blocking and another thread has requested it.
-/

namespace Xrdp.Scp

open Places

/-- Where a thread is. -/
inductive LockPc where
  | idle
  /-- Behind `scp_lock_fork_critical_section_start`. -/
  | inside
  /-- In `tc_sem_dec(lock_fork_wait)`. -/
  | waiting
  /-- At the head of the loop, once it has been woken. -/
  | woken
  /-- In `tc_sem_dec(lock_fork_req)`. -/
  | requesting
  /-- Behind `scp_lock_fork_request`. -/
  | forking
  deriving DecidableEq

/-- The lock and the threads that use it. -/
structure ForkLock (ι : Type) where
  lockForkReq : Nat
  lockForkWait : Nat
  forkersCount : Int
  blockersCount : Int
  waitingCount : Int
  pc : ι → LockPc

inductive LockAction (ι : Type) where
  /-- `scp_lock_fork_critical_section_start`, one turn of its loop. -/
  | start (t : ι)
  /-- `tc_sem_dec(lock_fork_wait)` returns. -/
  | wake (t : ι)
  /-- `scp_lock_fork_critical_section_end(LIBSCP_LOCK_FORK_BLOCKER)`. -/
  | finish (t : ι)
  /-- `scp_lock_fork_request`, up to the semaphore. -/
  | request (t : ι)
  /-- `tc_sem_dec(lock_fork_req)` returns. -/
  | granted (t : ι)
  /-- `scp_lock_fork_release`. -/
  | release (t : ι)

namespace ForkLock

variable {ι : Type} [DecidableEq ι]

/-- `scp_lock_init`. -/
def init : ForkLock ι where
  lockForkReq := 0
  lockForkWait := 0
  forkersCount := 0
  blockersCount := 0
  waitingCount := 0
  pc := fun _ => .idle

def goto (s : ForkLock ι) (t : ι) (pc : LockPc) : ForkLock ι :=
  { s with pc := Function.update s.pc t pc }

/-- `tc_sem_inc(lock_fork_req)`, if the condition holds. -/
def incReq (s : ForkLock ι) (c : Prop) [Decidable c] : ForkLock ι :=
  if c then { s with lockForkReq := s.lockForkReq + 1 } else s

section

variable (s : ForkLock ι) (c : Prop) [Decidable c]

omit [DecidableEq ι] in
theorem incReq_pc : (s.incReq c).pc = s.pc := by
  unfold incReq
  split <;> rfl

omit [DecidableEq ι] in
theorem incReq_forkersCount : (s.incReq c).forkersCount = s.forkersCount := by
  unfold incReq
  split <;> rfl

omit [DecidableEq ι] in
theorem incReq_blockersCount : (s.incReq c).blockersCount = s.blockersCount := by
  unfold incReq
  split <;> rfl

omit [DecidableEq ι] in
theorem incReq_lockForkReq :
    (s.incReq c).lockForkReq = s.lockForkReq + if c then 1 else 0 := by
  unfold incReq
  split <;> rfl

end

def start (s : ForkLock ι) (t : ι) : ForkLock ι :=
  if s.forkersCount > 0 then { s.goto t .waiting with waitingCount := s.waitingCount + 1 }
  else { s.goto t .inside with blockersCount := s.blockersCount + 1 }

def finish (s : ForkLock ι) (t : ι) : ForkLock ι :=
  let s := { s.goto t .idle with blockersCount := s.blockersCount - 1 }
  s.incReq (s.blockersCount = 0 ∧ s.forkersCount > 0)

def request (s : ForkLock ι) (t : ι) : ForkLock ι :=
  { (s.goto t .requesting).incReq (s.blockersCount = 0) with forkersCount := s.forkersCount + 1 }

def release (s : ForkLock ι) (t : ι) : ForkLock ι :=
  let s := { s.goto t .idle with forkersCount := s.forkersCount - 1 }
  { s.incReq (s.forkersCount > 0) with
    -- one token each until nobody waits
    lockForkWait := s.lockForkWait + s.waitingCount.toNat
    waitingCount := min s.waitingCount 0 }

/-- What a thread does next, if it can. -/
def step (s : ForkLock ι) : LockAction ι → Option (ForkLock ι)
  | .start t => if s.pc t = .idle ∨ s.pc t = .woken then some (s.start t) else none
  | .wake t =>
    if s.pc t = .waiting ∧ s.lockForkWait > 0 then
      some { s.goto t .woken with lockForkWait := s.lockForkWait - 1 }
    else none
  | .finish t => if s.pc t = .inside then some (s.finish t) else none
  | .request t => if s.pc t = .idle then some (s.request t) else none
  | .granted t =>
    if s.pc t = .requesting ∧ s.lockForkReq > 0 then
      some { s.goto t .forking with lockForkReq := s.lockForkReq - 1 }
    else none
  | .release t => if s.pc t = .forking then some (s.release t) else none

/-- A step, as a relation. -/
def Next (s : ForkLock ι) (a : LockAction ι) (s' : ForkLock ι) : Prop := s.step a = some s'

/-! ## What the lock is for -/

/-- No two threads have the lock, and none has it while another is blocking it. -/
structure Safe (s : ForkLock ι) : Prop where
  one : ∀ t u, s.pc t = .forking → s.pc u = .forking → t = u
  unblocked : ∀ t u, s.pc t = .forking → s.pc u ≠ .inside

/-- Safe, also if requests that wait are granted next. -/
def Secure (s : ForkLock ι) : Prop :=
  ∀ (ts : List ι) s', Runs.Leads Next s (ts.map .granted) s' → s'.Safe

/-- The step is possible, and a request comes while another thread is blocking or nobody else has
requested the lock. -/
def Fits (s : ForkLock ι) (a : LockAction ι) : Prop :=
  (∃ s', Next s a s') ∧
    ∀ t, a = .request t → s.blockersCount = 0 → s.forkersCount = 0

/-! ## The tokens -/

variable [Fintype ι]

/-- The counters count, and there is a token or a thread that has the lock just if a thread wants
to fork and none is blocking. -/
structure Inv (s : ForkLock ι) : Prop where
  blockers : s.blockersCount = count s.pc .inside
  forkers : s.forkersCount = count s.pc .requesting + count s.pc .forking
  tokens : s.lockForkReq + count s.pc .forking =
    if s.forkersCount > 0 ∧ s.blockersCount = 0 then 1 else 0

omit [DecidableEq ι] in
theorem inv_init : Inv (init : ForkLock ι) := by
  constructor
  · exact congrArg _ (count_const _ _ (by decide)).symm
  · simp [init, count_const]
  · simp [init, count_const]

omit [DecidableEq ι] in
theorem Inv.safe {s : ForkLock ι} (h : s.Inv) : s.Safe := by
  have htokens := h.tokens
  constructor
  · intro t u ht hu
    by_contra htu
    have hcount := one_lt_count htu ht hu
    split at htokens <;> omega
  · intro t u ht hu
    have hforking := count_pos ht
    have hinside := count_pos hu
    have hblockers := h.blockers
    split at htokens <;> omega

section

variable {s : ForkLock ι} {t : ι}

theorem inv_start (h : s.Inv) (ht : s.pc t = .idle ∨ s.pc t = .woken) : (s.start t).Inv := by
  obtain ⟨hb, hf, hk⟩ := h
  have hmove : ∀ q : LockPc, q = .waiting ∨ q = .inside → ∀ p : LockPc, p ≠ .idle → p ≠ .woken →
      count (Function.update s.pc t q) p = count s.pc p + if p = q then 1 else 0 := by
    intro q hq p hidle hwoken
    rcases ht with ht | ht
    · have hcount := count_update (q := q) ht (by rcases hq with rfl | rfl <;> decide) p
      rwa [if_neg hidle] at hcount
    · have hcount := count_update (q := q) ht (by rcases hq with rfl | rfl <;> decide) p
      rwa [if_neg hwoken] at hcount
  unfold start
  split
  · have hcount := hmove .waiting (.inl rfl)
    constructor
    · simp [goto, hcount, hb]
    · simp [goto, hcount, hf]
    · simpa [goto, hcount] using hk
  · rename_i hpos
    have hcount := hmove .inside (.inr rfl)
    constructor
    · simp [goto, hcount, hb]
    · simp [goto, hcount, hf]
    · simpa [goto, hcount, hpos] using hk

theorem inv_wake (h : s.Inv) (ht : s.pc t = .waiting) (n : Nat) :
    ({ s.goto t .woken with lockForkWait := n } : ForkLock ι).Inv := by
  have hcount : ∀ p : LockPc, p ≠ .waiting → p ≠ .woken →
      count (Function.update s.pc t .woken) p = count s.pc p := by
    intro p hp hq
    have hcount := count_update (q := .woken) ht (by decide) p
    rwa [if_neg hp, if_neg hq] at hcount
  constructor
  · simpa [goto, hcount] using h.blockers
  · simpa [goto, hcount] using h.forkers
  · simpa [goto, hcount] using h.tokens

/-- A thread goes from one place to another, and the counters and the token follow. -/
theorem inv_move {s' : ForkLock ι} {p q : LockPc} (h : s.Inv) (ht : s.pc t = p) (hqp : q ≠ p)
    (hpc : s'.pc = Function.update s.pc t q)
    (hb : s'.blockersCount + (if .inside = p then 1 else 0 : Nat) =
      s.blockersCount + (if .inside = q then 1 else 0 : Nat))
    (hf : s'.forkersCount + ((if .requesting = p then 1 else 0) +
        if .forking = p then 1 else 0 : Nat) =
      s.forkersCount + ((if .requesting = q then 1 else 0) + if .forking = q then 1 else 0 : Nat))
    (hk : s'.lockForkReq + (if .forking = q then 1 else 0) +
        (if s.forkersCount > 0 ∧ s.blockersCount = 0 then 1 else 0) =
      s.lockForkReq + (if .forking = p then 1 else 0) +
        if s'.forkersCount > 0 ∧ s'.blockersCount = 0 then 1 else 0) : s'.Inv := by
  obtain ⟨hblockers, hforkers, htokens⟩ := h
  have hinside := count_update (q := q) ht hqp .inside
  have hrequesting := count_update (q := q) ht hqp .requesting
  have hforking := count_update (q := q) ht hqp .forking
  rw [← hpc] at hinside hrequesting hforking
  constructor <;> omega

theorem inv_finish (h : s.Inv) (ht : s.pc t = .inside) : (s.finish t).Inv := by
  have hinside := count_pos ht
  have hb := h.blockers
  have hfc : (s.finish t).forkersCount = s.forkersCount := incReq_forkersCount _ _
  have hbc : (s.finish t).blockersCount = s.blockersCount - 1 := incReq_blockersCount _ _
  have hreq : (s.finish t).lockForkReq =
      s.lockForkReq + if s.blockersCount - 1 = 0 ∧ s.forkersCount > 0 then 1 else 0 :=
    incReq_lockForkReq _ _
  apply inv_move h ht (q := .idle) (by decide) (incReq_pc _ _)
  · simp [hbc]
  · simp [hfc]
  · simp only [reduceCtorEq, if_false]
    rw [hfc, hbc, hreq]
    split_ifs <;> omega

theorem inv_request (h : s.Inv) (ht : s.pc t = .idle)
    (hfits : s.blockersCount = 0 → s.forkersCount = 0) : (s.request t).Inv := by
  have hf := h.forkers
  have hfc : (s.request t).forkersCount = s.forkersCount + 1 := rfl
  have hbc : (s.request t).blockersCount = s.blockersCount := incReq_blockersCount _ _
  have hreq : (s.request t).lockForkReq =
      s.lockForkReq + if s.blockersCount = 0 then 1 else 0 := incReq_lockForkReq _ _
  apply inv_move h ht (q := .requesting) (by decide) (incReq_pc _ _)
  · simp [hbc]
  · simp [hfc]
  · simp only [reduceCtorEq, if_false]
    rw [hfc, hbc, hreq]
    split_ifs <;> omega

theorem inv_granted (h : s.Inv) (ht : s.pc t = .requesting) (hreq : s.lockForkReq > 0) :
    ({ s.goto t .forking with lockForkReq := s.lockForkReq - 1 } : ForkLock ι).Inv := by
  apply inv_move h ht (q := .forking) (by decide) rfl
  · simp [goto]
  · simp [goto]
  · exact congrArg (· + _) (Nat.sub_add_cancel hreq)

theorem inv_release (h : s.Inv) (ht : s.pc t = .forking) : (s.release t).Inv := by
  have hforking := count_pos ht
  have hf := h.forkers
  have hk := h.tokens
  have hfc : (s.release t).forkersCount = s.forkersCount - 1 := incReq_forkersCount _ _
  have hbc : (s.release t).blockersCount = s.blockersCount := incReq_blockersCount _ _
  have hreq : (s.release t).lockForkReq =
      s.lockForkReq + if s.forkersCount - 1 > 0 then 1 else 0 := incReq_lockForkReq _ _
  apply inv_move h ht (q := .idle) (by decide) (incReq_pc _ _)
  · simp [hbc]
  · simp [hfc]
  · simp only [reduceCtorEq, if_false, if_true]
    rw [hfc, hbc, hreq]
    split_ifs at hk ⊢ <;> omega

end

/-- **One step**, of any thread. -/
theorem inv_step {s s' : ForkLock ι} {a : LockAction ι} (h : s.Inv) (hfits : s.Fits a)
    (hnext : Next s a s') : s'.Inv := by
  unfold Next at hnext
  cases a with
  | start t =>
    obtain ⟨ht, hs'⟩ := Option.ite_none_right_eq_some.1 hnext
    cases hs'
    exact inv_start h ht
  | wake t =>
    obtain ⟨⟨ht, -⟩, hs'⟩ := Option.ite_none_right_eq_some.1 hnext
    cases hs'
    exact inv_wake h ht _
  | finish t =>
    obtain ⟨ht, hs'⟩ := Option.ite_none_right_eq_some.1 hnext
    cases hs'
    exact inv_finish h ht
  | request t =>
    obtain ⟨ht, hs'⟩ := Option.ite_none_right_eq_some.1 hnext
    cases hs'
    exact inv_request h ht (hfits.2 t rfl)
  | granted t =>
    obtain ⟨⟨ht, hreq⟩, hs'⟩ := Option.ite_none_right_eq_some.1 hnext
    cases hs'
    exact inv_granted h ht hreq
  | release t =>
    obtain ⟨ht, hs'⟩ := Option.ite_none_right_eq_some.1 hnext
    cases hs'
    exact inv_release h ht

/-! ## Where it ends -/

theorem Inv.secure {s : ForkLock ι} (h : s.Inv) : s.Secure := by
  intro ts s' hleads
  induction ts generalizing s with
  | nil =>
    cases hleads
    exact h.safe
  | cons t ts ih =>
    obtain ⟨s₁, hnext, hrest⟩ := hleads
    have hfits : s.Fits (.granted t) := ⟨⟨s₁, hnext⟩, fun _ h => by cases h⟩
    exact ih (inv_step h hfits hnext) hrest

/-- A request while nobody is blocking gets a token of its own: two threads will have the lock. -/
theorem not_secure_request {s : ForkLock ι} {t : ι} (h : s.Inv) (ht : s.pc t = .idle)
    (hb : s.blockersCount = 0) (hf : s.forkersCount ≠ 0) : ¬ (s.request t).Secure := by
  obtain ⟨hblockers, hforkers, htokens⟩ := h
  intro hsecure
  have hreq : (s.request t).lockForkReq =
      s.lockForkReq + if s.blockersCount = 0 then 1 else 0 := incReq_lockForkReq _ _
  rw [if_pos hb] at hreq
  have hpc : (s.request t).pc = Function.update s.pc t .requesting := incReq_pc _ _
  rw [if_pos ⟨by omega, hb⟩] at htokens
  by_cases hforking : 0 < count s.pc .forking
  · -- another thread has the lock
    obtain ⟨u, hu⟩ := exists_of_count_pos hforking
    have hut : u ≠ t := by
      rintro rfl
      rw [ht] at hu
      cases hu
    have hnext : Next (s.request t) (.granted t)
        { (s.request t).goto t .forking with lockForkReq := (s.request t).lockForkReq - 1 } := by
      refine if_pos ⟨?_, by omega⟩
      rw [hpc, Function.update_self]
    have hsafe := hsecure [t] _ ⟨_, hnext, rfl⟩
    refine hut (hsafe.one u t ?_ (Function.update_self ..))
    simp [goto, hpc, hut, hu]
  · -- another thread waits for it
    obtain ⟨u, hu⟩ : ∃ u, s.pc u = .requesting := exists_of_count_pos (by omega)
    have hut : u ≠ t := by
      rintro rfl
      rw [ht] at hu
      cases hu
    let s₁ : ForkLock ι :=
      { (s.request t).goto t .forking with lockForkReq := (s.request t).lockForkReq - 1 }
    let s₂ : ForkLock ι := { s₁.goto u .forking with lockForkReq := s₁.lockForkReq - 1 }
    have hnext₁ : Next (s.request t) (.granted t) s₁ := by
      refine if_pos ⟨?_, by omega⟩
      rw [hpc, Function.update_self]
    have hnext₂ : Next s₁ (.granted u) s₂ := by
      refine if_pos ⟨by simp [s₁, goto, hpc, hut, hu], ?_⟩
      change (s.request t).lockForkReq - 1 > 0
      omega
    have hsafe := hsecure [t, u] s₂ ⟨s₁, hnext₁, s₂, hnext₂, rfl⟩
    refine hut (hsafe.one u t (Function.update_self ..) ?_)
    simp [s₂, s₁, goto, hut.symm]

theorem step_iff {s : ForkLock ι} (h : s.Inv) (a : LockAction ι) :
    Runs.StepIff Next Secure Inv Fits s a := by
  have hfits : ∀ s', Next s a s' → s'.Secure → s.Fits a := by
    intro s' hnext hsecure
    refine ⟨⟨s', hnext⟩, ?_⟩
    rintro t rfl hb
    by_contra hf
    obtain ⟨ht, hs'⟩ := Option.ite_none_right_eq_some.1 hnext
    cases hs'
    exact not_secure_request h ht hb hf hsecure
  constructor
  · constructor
    · rintro ⟨s', hnext, hsecure⟩
      exact hfits s' hnext hsecure
    · intro hf
      obtain ⟨s', hnext⟩ := hf.1
      exact ⟨s', hnext, (inv_step h hf hnext).secure⟩
  · intro s' hnext hsecure
    exact inv_step h (hfits s' hnext hsecure) hnext

/-- The runs that are safe, also if requests that wait are granted next, are those in which no
thread requests the lock while nobody is blocking and another thread has requested it. -/
theorem fork_lock_iff (ι : Type) [DecidableEq ι] [Fintype ι] (as : List (LockAction ι)) :
    Runs.Always Next (fun s => s.Safe ∧ s.Secure) (init : ForkLock ι) as ↔
      Runs.AllFit Next Fits (init : ForkLock ι) as := by
  have hsafe : ∀ s : ForkLock ι, s.Safe ∧ s.Secure ↔ s.Secure := fun s =>
    and_iff_right_of_imp fun h => h [] s rfl
  simp only [Runs.Always, hsafe]
  refine Runs.always_iff ?_ (fun s => Inv.secure) (fun s a h => step_iff h a) inv_init as
  intro s a s₁ s₂ h₁ h₂
  exact Option.some_inj.1 (h₁.symm.trans h₂)

/-- Two threads request the lock, and both are granted it. -/
theorem fork_lock_shared :
    ∃ s, Runs.Leads Next (init : ForkLock (Fin 2)) [.request 0, .request 1, .granted 0, .granted 1]
      s ∧ ¬ s.Safe := by
  refine ⟨_, ⟨_, rfl, _, rfl, _, rfl, _, rfl, rfl⟩, fun h => ?_⟩
  exact absurd (h.one 0 1 (by decide) (by decide)) (by decide)

end ForkLock

end Xrdp.Scp
