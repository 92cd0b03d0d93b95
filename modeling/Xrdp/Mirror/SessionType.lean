import Xrdp.Mirror.PacketInfo
import Xrdp.Lib.Runs

/-!
# Who is the master

The processes for one session name find out their roles from a file: whoever does not find it
creates it and is the master, whoever finds it empty writes a line into it and is the slave.

* `World.call` — the calls to the file system in `myxrdp_get_session_type`, one at a time.
* `World.Elected` — since the last removal of the file at most one process has become the master
  and at most one the slave, and none that could not create or read it.
* `elected_of_fits` — the runs in which the calls do not get into each other's way.
-/

namespace Xrdp.Mirror

/-- How a call to the file system ends. -/
inductive FsAnswer where
  | ok
  | enoent
  | error
  deriving DecidableEq

/-- Where a process is in `myxrdp_get_session_type`. -/
inductive Pc where
  /-- `gl_file_existed`. -/
  | existed
  /-- `gl_file_existed` in `gl_create_file`. -/
  | createExisted
  /-- `creat` in `gl_create_file`. -/
  | creat
  /-- `fopen` in `gl_file_null`. -/
  | nullOpen
  /-- `fgetc` in `gl_file_null`. -/
  | nullGetc (file : Nat)
  /-- `fopen` in `gl_file_append_line`. -/
  | appendOpen
  /-- `fclose` in `gl_file_append_line`, which writes. -/
  | appendClose (file : Nat)
  | done (type : SessionType)
  deriving DecidableEq

structure Proc where
  pc : Pc
  /-- It could not create the file, or not read it. -/
  failed : Bool

/-- The processes and the files they see. -/
structure World where
  /-- The file under the name of the session. -/
  named : Option Nat
  contents : Nat → List UInt8
  /-- The number of files there have been. -/
  files : Nat
  procs : Nat → Proc
  /-- The roles that processes have taken since the last removal. -/
  concluded : List (Nat × SessionType)

namespace World

def goto (w : World) (p : Nat) (pc : Pc) : World :=
  { w with procs := Function.update w.procs p { w.procs p with pc } }

/-- `myxrdp_get_session_type` returns. -/
def conclude (w : World) (p : Nat) (type : SessionType) : World :=
  { w.goto p (.done type) with concluded := (p, type) :: w.concluded }

def fail (w : World) (p : Nat) : World :=
  { w with procs := Function.update w.procs p { w.procs p with failed := true } }

def setContents (w : World) (file : Nat) (bytes : List UInt8) : World :=
  { w with contents := Function.update w.contents file bytes }

/-- A new file under the name. -/
def create (w : World) : World :=
  { w.setContents w.files [] with named := some w.files, files := w.files + 1 }

/-- `gl_file_existed`. -/
def existed (w : World) (a : FsAnswer) : Bool := a = .ok ∧ w.named.isSome

/-- `creat`, if it succeeds. -/
def creat (w : World) : World :=
  match w.named with
  | none => w.create
  | some file => w.setContents file []

/-- What `gl_file_null` finds in a file: `ch == EOF` also for a byte 255. -/
def fileNull : List UInt8 → Bool
  | [] => true
  | b :: _ => b = 0xFF

/-- `"000000"` and the end of the line. -/
def line : List UInt8 := [0x30, 0x30, 0x30, 0x30, 0x30, 0x30, 0x0A]

/-- The next call of a process to the file system. -/
def call (w : World) (p : Nat) (a : FsAnswer) : World :=
  match (w.procs p).pc with
  | .existed => if w.existed a then w.goto p .nullOpen else w.goto p .createExisted
  | .createExisted => if w.existed a then w.conclude p .MASTER else w.goto p .creat
  | .creat =>
    match a with
    | .ok => w.creat.conclude p .MASTER
    -- after `gl_create_path`
    | .enoent => w.goto p .createExisted
    | .error => (w.fail p).conclude p .MASTER
  | .nullOpen =>
    match a, w.named with
    | .ok, some file => w.goto p (.nullGetc file)
    | _, _ => (w.fail p).goto p .appendOpen
  | .nullGetc file =>
    if a ≠ .ok then (w.fail p).goto p .appendOpen
    else if fileNull (w.contents file) then w.goto p .appendOpen
    else w.conclude p .OTHER
  | .appendOpen =>
    match a, w.named with
    | .ok, some file => w.goto p (.appendClose file)
    | .ok, none => w.create.goto p (.appendClose w.files)
    | _, _ => w.conclude p .SLAVE
  | .appendClose file =>
    if a = .ok then (w.setContents file (w.contents file ++ line)).conclude p .SLAVE
    else w.conclude p .SLAVE
  | .done _ => w

/-- What happens. -/
inductive Event where
  | call (p : Nat) (a : FsAnswer)
  /-- The file is to be removed. -/
  | unlink (a : FsAnswer)

def step (w : World) : Event → World
  | .call p a => w.call p a
  | .unlink a =>
    if a = .ok ∧ w.named ≠ none then { w with named := none, concluded := [] } else w

def run (w : World) (events : List Event) : World := events.foldl step w

/-- There is no file, and no process has begun. -/
def start (filename : List UInt8) : World where
  named := none
  contents := fun _ => []
  files := 0
  procs := fun _ => ⟨if filename.length = 0 then .done .ERROR else .existed, false⟩
  concluded := []

/-- Since the last removal at most one process has become the master and at most one the slave,
and none that could not create or read the file. -/
structure Elected (w : World) : Prop where
  master : ∀ p q, (p, .MASTER) ∈ w.concluded → (q, .MASTER) ∈ w.concluded → p = q
  slave : ∀ p q, (p, .SLAVE) ∈ w.concluded → (q, .SLAVE) ∈ w.concluded → p = q
  failed : ∀ p, (w.procs p).failed = true →
    (w.procs p).pc ≠ .done .MASTER ∧ (w.procs p).pc ≠ .done .SLAVE

/-- The condition on a call, for where the process is. -/
def CallFits (w : World) (a : FsAnswer) : Pc → Prop
  | .existed => True
  -- nobody creates the file between the two checks
  | .createExisted => a = .ok → w.named = none
  -- nobody has created it since, and it can be created
  | .creat => a = .enoent ∨ a = .ok ∧ w.named = none
  -- nobody has removed the file since the check, and it can be read
  | .nullOpen => a = .ok ∧ w.named ≠ none
  | .nullGetc _ => a = .ok
  | .appendOpen => a = .ok
  -- nobody has removed the file or written to it, and it can be written to
  | .appendClose file => a = .ok ∧ w.named = some file ∧ w.contents file = []
  | .done _ => True

instance (w : World) (a : FsAnswer) : (pc : Pc) → Decidable (w.CallFits a pc)
  | .existed => inferInstanceAs (Decidable True)
  | .createExisted => inferInstanceAs (Decidable (a = .ok → w.named = none))
  | .creat => inferInstanceAs (Decidable (a = .enoent ∨ a = .ok ∧ w.named = none))
  | .nullOpen => inferInstanceAs (Decidable (a = .ok ∧ w.named ≠ none))
  | .nullGetc _ => inferInstanceAs (Decidable (a = .ok))
  | .appendOpen => inferInstanceAs (Decidable (a = .ok))
  | .appendClose file =>
    inferInstanceAs (Decidable (a = .ok ∧ w.named = some file ∧ w.contents file = []))
  | .done _ => inferInstanceAs (Decidable True)

/-- The condition on an event. -/
def StepFits (w : World) : Event → Prop
  | .call p a => w.CallFits a (w.procs p).pc
  | .unlink _ => True

instance (w : World) : (e : Event) → Decidable (w.StepFits e)
  | .call p a => inferInstanceAs (Decidable (w.CallFits a (w.procs p).pc))
  | .unlink _ => inferInstanceAs (Decidable True)

/-- All events meet the condition, each in the state before it. -/
def Fits : World → List Event → Prop :=
  Runs.AllFit (fun w e w' => w.step e = w') StepFits

/-! ## One event -/

/-- A world in which the roles are right and the file agrees with them. -/
structure Good (w : World) : Prop where
  elected : w.Elected
  /-- If there is a master, there is the file. -/
  master : ∀ p, (p, .MASTER) ∈ w.concluded → w.named ≠ none
  /-- If there is a slave, there is something in the file. -/
  slave : ∀ p, (p, .SLAVE) ∈ w.concluded → ∃ file, w.named = some file ∧ w.contents file ≠ []
  failed : ∀ p, (w.procs p).failed = false

theorem Good.of_failed {w : World} (hfailed : ∀ p, (w.procs p).failed = false)
    (hmaster : ∀ p q, (p, .MASTER) ∈ w.concluded → (q, .MASTER) ∈ w.concluded → p = q)
    (hslave : ∀ p q, (p, .SLAVE) ∈ w.concluded → (q, .SLAVE) ∈ w.concluded → p = q)
    (hnamed : ∀ p, (p, .MASTER) ∈ w.concluded → w.named ≠ none)
    (hcontents : ∀ p, (p, .SLAVE) ∈ w.concluded →
      ∃ file, w.named = some file ∧ w.contents file ≠ []) : w.Good := by
  refine ⟨⟨hmaster, hslave, fun p hp => ?_⟩, hnamed, hcontents, hfailed⟩
  rw [hfailed p] at hp
  cases hp

theorem good_start (filename : List UInt8) : (start filename).Good := by
  apply Good.of_failed
  · exact fun _ => rfl
  · exact fun p _ hp => absurd hp List.not_mem_nil
  · exact fun p _ hp => absurd hp List.not_mem_nil
  · exact fun p hp => absurd hp List.not_mem_nil
  · exact fun p hp => absurd hp List.not_mem_nil

section

variable {w : World} {p : Nat}

theorem goto_failed (pc : Pc) (q : Nat) :
    ((w.goto p pc).procs q).failed = (w.procs q).failed := by
  unfold goto
  dsimp only
  by_cases h : q = p
  · subst h
    rw [Function.update_self]
  · rw [Function.update_of_ne h]

theorem Good.goto (h : w.Good) (p : Nat) (pc : Pc) : (w.goto p pc).Good := by
  apply Good.of_failed
  · exact fun q => (goto_failed pc q).trans (h.failed q)
  · exact h.elected.master
  · exact h.elected.slave
  · exact h.master
  · exact h.slave

theorem Good.concludeOther (h : w.Good) (p : Nat) : (w.conclude p .OTHER).Good := by
  have hmem : ∀ {q type}, type ≠ .OTHER → (q, type) ∈ (w.conclude p .OTHER).concluded →
      (q, type) ∈ w.concluded := by
    intro q type htype hq
    rcases List.mem_cons.1 hq with hq | hq
    · cases hq
      exact absurd rfl htype
    · exact hq
  apply Good.of_failed
  · exact fun q => (goto_failed _ q).trans (h.failed q)
  · exact fun q r hq hr => h.elected.master q r (hmem (by decide) hq) (hmem (by decide) hr)
  · exact fun q r hq hr => h.elected.slave q r (hmem (by decide) hq) (hmem (by decide) hr)
  · exact fun q hq => h.master q (hmem (by decide) hq)
  · exact fun q hq => h.slave q (hmem (by decide) hq)

/-- There is nobody yet in a role if there is no file. -/
theorem Good.nobody (h : w.Good) (hnamed : w.named = none) (q : Nat) :
    (q, .MASTER) ∉ w.concluded ∧ (q, .SLAVE) ∉ w.concluded := by
  constructor
  · exact fun hq => h.master q hq hnamed
  · intro hq
    obtain ⟨file, hfile, -⟩ := h.slave q hq
    rw [hnamed] at hfile
    cases hfile

/-- A file is created where there is none. -/
theorem Good.create (h : w.Good) (hnamed : w.named = none) : w.create.Good := by
  apply Good.of_failed
  · exact h.failed
  · exact h.elected.master
  · exact h.elected.slave
  · exact fun q hq => absurd hq (h.nobody hnamed q).1
  · exact fun q hq => absurd hq (h.nobody hnamed q).2

/-- Whoever creates the file is the master. -/
theorem Good.concludeMaster (h : w.Good) (hnamed : w.named = none) (p : Nat) :
    (w.create.conclude p .MASTER).Good := by
  have hmaster : ∀ q, (q, .MASTER) ∈ (w.create.conclude p .MASTER).concluded → q = p := by
    intro q hq
    rcases List.mem_cons.1 hq with hq | hq
    · cases hq
      rfl
    · exact absurd hq (h.nobody hnamed q).1
  have hslave : ∀ q, (q, .SLAVE) ∉ (w.create.conclude p .MASTER).concluded := by
    intro q hq
    rcases List.mem_cons.1 hq with hq | hq
    · cases hq
    · exact (h.nobody hnamed q).2 hq
  apply Good.of_failed
  · exact fun q => (goto_failed _ q).trans (h.failed q)
  · exact fun q r hq hr => (hmaster q hq).trans (hmaster r hr).symm
  · exact fun q _ hq => absurd hq (hslave q)
  · exact fun q hq hnone => Option.some_ne_none _ hnone
  · exact fun q hq => absurd hq (hslave q)

/-- Whoever writes into the empty file is the slave. -/
theorem Good.concludeSlave (h : w.Good) {file : Nat} (hnamed : w.named = some file)
    (hempty : w.contents file = []) (p : Nat) {bytes : List UInt8} (hbytes : bytes ≠ []) :
    ((w.setContents file bytes).conclude p .SLAVE).Good := by
  have hnobody : ∀ q, (q, .SLAVE) ∉ w.concluded := by
    intro q hq
    obtain ⟨file', hfile', hne⟩ := h.slave q hq
    rw [hnamed] at hfile'
    cases hfile'
    exact hne hempty
  have hmaster : ∀ q, (q, .MASTER) ∈ ((w.setContents file bytes).conclude p .SLAVE).concluded →
      (q, .MASTER) ∈ w.concluded := by
    intro q hq
    rcases List.mem_cons.1 hq with hq | hq
    · cases hq
    · exact hq
  have hslave : ∀ q, (q, .SLAVE) ∈ ((w.setContents file bytes).conclude p .SLAVE).concluded →
      q = p := by
    intro q hq
    rcases List.mem_cons.1 hq with hq | hq
    · cases hq
      rfl
    · exact absurd hq (hnobody q)
  apply Good.of_failed
  · exact fun q => (goto_failed _ q).trans (h.failed q)
  · exact fun q r hq hr => h.elected.master q r (hmaster q hq) (hmaster r hr)
  · exact fun q r hq hr => (hslave q hq).trans (hslave r hr).symm
  · exact fun q hq => h.master q (hmaster q hq)
  · refine fun q hq => ⟨file, hnamed, ?_⟩
    have hcontents : (w.setContents file bytes).contents file = bytes := Function.update_self ..
    exact fun hnil => hbytes (hcontents.symm.trans hnil)

/-- **A call of a process** -/
theorem Good.call (h : w.Good) {a : FsAnswer} (hfits : w.CallFits a (w.procs p).pc) :
    (w.call p a).Good := by
  unfold World.call
  cases hpc : (w.procs p).pc with
  | existed =>
    dsimp only
    split
    · exact h.goto p _
    · exact h.goto p _
  | createExisted =>
    rw [hpc] at hfits
    have hexisted : ¬ w.existed a = true := by
      unfold existed
      rw [decide_eq_true_iff]
      rintro ⟨rfl, hsome⟩
      rw [hfits rfl] at hsome
      cases hsome
    dsimp only
    rw [if_neg hexisted]
    exact h.goto p _
  | creat =>
    rw [hpc] at hfits
    obtain rfl | ⟨rfl, hnamed⟩ := hfits
    · exact h.goto p _
    · have hcreat : w.creat = w.create := by rw [World.creat, hnamed]
      dsimp only
      rw [hcreat]
      exact h.concludeMaster hnamed p
  | nullOpen =>
    rw [hpc] at hfits
    obtain ⟨rfl, hnamed⟩ := hfits
    obtain ⟨file, hfile⟩ := Option.ne_none_iff_exists'.1 hnamed
    rw [hfile]
    exact h.goto p _
  | nullGetc file =>
    rw [hpc] at hfits
    have hok : a = .ok := hfits
    dsimp only
    rw [if_neg (not_not.2 hok)]
    split
    · exact h.goto p _
    · exact h.concludeOther p
  | appendOpen =>
    rw [hpc] at hfits
    subst hfits
    cases hnamed : w.named with
    | none => exact (h.create hnamed).goto p _
    | some file => exact h.goto p _
  | appendClose file =>
    rw [hpc] at hfits
    obtain ⟨rfl, hnamed, hempty⟩ := hfits
    dsimp only
    rw [if_pos rfl, hempty]
    exact h.concludeSlave hnamed hempty p (List.cons_ne_nil _ _)
  | done type => exact h

/-- **An event** -/
theorem Good.step (h : w.Good) {e : Event} (hfits : w.StepFits e) : (w.step e).Good := by
  cases e with
  | call p a => exact h.call hfits
  | unlink a =>
    unfold World.step
    dsimp only
    split
    · apply Good.of_failed
      · exact h.failed
      · exact fun q _ hq => absurd hq List.not_mem_nil
      · exact fun q _ hq => absurd hq List.not_mem_nil
      · exact fun q hq => absurd hq List.not_mem_nil
      · exact fun q hq => absurd hq List.not_mem_nil
    · exact h

end

/-- **Who is the master**: for any number of processes and every order of their calls to the file
system, each of which may fail, if all calls meet the condition then at all times, since the last
removal of the file, at most one process has become the master and at most one the slave, and none
that could not create or read it. The condition: nobody creates the file between a process's checks
and its `creat`, nobody removes it or writes to it between a process's check and its write, and
creating, reading and writing succeed. -/
theorem elected_of_fits (filename : List UInt8) (events : List Event)
    (hfits : (start filename).Fits events) {before : List Event} (hbefore : before <+: events) :
    ((start filename).run before).Elected := by
  obtain ⟨w, hrun, hgood⟩ := Runs.always_of_fits
    (fun (w : World) e (h : w.Good) hf => ⟨w.step e, rfl, h.step hf⟩) (good_start filename) hfits before hbefore
  rw [Runs.leads_fun] at hrun
  rw [run, hrun]
  exact hgood.elected

/-- A master, then a slave, then neither. -/
theorem elected_of_fits_three :
    let events : List Event := [.call 0 .ok, .call 0 .ok, .call 0 .ok, .call 1 .ok, .call 1 .ok,
      .call 1 .ok, .call 1 .ok, .call 1 .ok, .call 2 .ok, .call 2 .ok, .call 2 .ok]
    ((start [0x61]).run events).concluded = [(2, .OTHER), (1, .SLAVE), (0, .MASTER)] ∧
      ((start [0x61]).run events).Elected := by
  refine ⟨by decide, elected_of_fits [0x61] _ ?_ (List.prefix_refl _)⟩
  unfold Fits
  simp only [Runs.AllFit, forall_eq']
  decide

/-- **Processes in each other's way**: two that both do not find the file both become the master,
two that both find it empty both become the slave, and one that cannot read it becomes the
slave. -/
theorem elected_races :
    ¬ ((start [0x61]).run [.call 0 .ok, .call 1 .ok, .call 0 .ok, .call 0 .ok,
        .call 1 .ok]).Elected ∧
      ¬ ((start [0x61]).run [.call 0 .ok, .call 0 .ok, .call 0 .ok, .call 1 .ok, .call 1 .ok,
        .call 1 .ok, .call 2 .ok, .call 2 .ok, .call 2 .ok, .call 1 .ok, .call 1 .ok, .call 2 .ok,
        .call 2 .ok]).Elected ∧
      ¬ ((start [0x61]).run [.call 0 .ok, .call 0 .ok, .call 0 .ok, .call 1 .ok, .call 1 .error,
        .call 1 .error]).Elected := by
  refine ⟨fun h => ?_, fun h => ?_, fun h => ?_⟩
  · exact absurd (h.master 0 1 (by decide) (by decide)) (by decide)
  · exact absurd (h.slave 1 2 (by decide) (by decide)) (by decide)
  · exact absurd rfl (h.failed 1 (by decide)).2

end World

end Xrdp.Mirror
