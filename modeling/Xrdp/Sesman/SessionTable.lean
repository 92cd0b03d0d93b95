import Xrdp.Lib.Runs
import Xrdp.Sesman.Session

/-!
# The session table

* `TableOk` — the count is the length of the chain and within the limit, the displays in the chain
  are different from each other and in the configured range.
* `tableOk_start`, `tableOk_kill` — what each call keeps.
* `startRight_iff` — a start returns a display just if there is a new item with it, unless a fork
  fails.
* `session_table_iff` — every run.
-/

namespace Xrdp.Sesman

inductive SessionEvent where
  /-- `session_start`. -/
  | start (env : StartEnv) (r : StartRequest)
  /-- `session_kill`. -/
  | kill (pid : Int)

/-- A call that returns. -/
def Next (cfg : SessConfig) (s : Sessions) (event : SessionEvent) (s' : Sessions) : Prop :=
  match event with
  | .start env r => ∃ display, sessionStartFork cfg env r s = some (display, s')
  | .kill pid => (sessionKill pid s).2 = s'

/-- The table before the first session. -/
def Sessions.empty : Sessions := ⟨[], 0⟩

/-- What holds of the table. -/
structure TableOk (cfg : SessConfig) (s : Sessions) : Prop where
  count : s.count = s.chain.length
  limit : s.count ≤ cfg.maxSessions
  different : (s.chain.map (·.display)).Nodup
  range : ∀ item ∈ s.chain, cfg.x11DisplayOffset ≤ item.display ∧
    item.display ≤ cfg.x11DisplayOffset + cfg.maxSessions

/-- Exactly one item has been added, with this display. -/
def Added (display : Int) (s s' : Sessions) : Prop :=
  ∃ item, item.display = display ∧ s' = ⟨item :: s.chain, s.count + 1⟩

/-- A start that returns does so with a display just if an item with it has been added, and changes
nothing otherwise. -/
def StartRight (cfg : SessConfig) (s : Sessions) : SessionEvent → Prop
  | .start env r => ∀ display s', sessionStartFork cfg env r s = some (display, s') →
      (display ≠ 0 ↔ Added display s s') ∧ (Added display s s' ∨ s' = s)
  | .kill _ => True

/-- None of the forks that are tried fails. -/
def ForksOk (env : StartEnv) : Prop :=
  match env.fork with
  | .failed => False
  | .parent _ => True
  | .child =>
    match env.wmFork with
    | .failed => False
    | .child => True
    | .parent _ => env.displayFork ≠ .failed

/-- If a start gets as far as the first fork, no fork fails. -/
def Fits (cfg : SessConfig) (s : Sessions) : SessionEvent → Prop
  | .start env _ => s.count < cfg.maxSessions → env.chainMemory = true → env.itemMemory = true →
      sessionGetAvailDisplayFromChain cfg env.x s.chain ≠ 0 → ForksOk env
  | .kill _ => True

/-! ## What a call does -/

section

variable {cfg : SessConfig} {env : StartEnv} {r : StartRequest} {s s' : Sessions} {display : Int}

/-- The display that is found is free and in the range, or there is none. -/
theorem availDisplayLoop_spec (x : XEnv) (chain : List SessionItem) (n : Nat) (d : Int) :
    availDisplayLoop x chain n d = 0 ∨
      sessionIsDisplayInChain chain (availDisplayLoop x chain n d) = false ∧
        d ≤ availDisplayLoop x chain n d ∧ availDisplayLoop x chain n d < d + n := by
  induction n generalizing d with
  | zero => exact .inl rfl
  | succ n ih =>
    rw [availDisplayLoop]
    split
    · rename_i hfree
      rw [Bool.and_eq_true, Bool.not_eq_true', Bool.not_eq_true'] at hfree
      exact .inr ⟨hfree.1, by omega, by omega⟩
    · rcases ih (d + 1) with h | ⟨hchain, hle, hlt⟩
      · exact .inl h
      · exact .inr ⟨hchain, by omega, by omega⟩

/-- What a start does: nothing, or it adds an item; it returns a display and adds nothing when a
fork fails. -/
theorem sessionStartFork_cases (h : sessionStartFork cfg env r s = some (display, s')) :
    (display = 0 ∧ s' = s) ∨
    (s.count < cfg.maxSessions ∧ env.chainMemory = true ∧ env.itemMemory = true ∧
      display = sessionGetAvailDisplayFromChain cfg env.x s.chain ∧ display ≠ 0 ∧
      ((¬ ForksOk env ∧ s' = s) ∨
        (ForksOk env ∧ ∃ pid, s' = ⟨r.newItem pid display env.time :: s.chain, s.count + 1⟩))) := by
  unfold sessionStartFork at h
  split at h
  · cases h
    exact .inl ⟨rfl, rfl⟩
  rename_i hcount
  split at h
  · cases h
    exact .inl ⟨rfl, rfl⟩
  rename_i hchain
  split at h
  · cases h
    exact .inl ⟨rfl, rfl⟩
  rename_i hitem
  dsimp only at h
  split at h
  · cases h
    exact .inl ⟨rfl, rfl⟩
  rename_i hdisplay
  refine .inr ⟨by omega, by simpa using hchain, by simpa using hitem, ?_⟩
  unfold ForksOk
  cases hfork : env.fork with
  | failed =>
    rw [hfork] at h
    cases h
    exact ⟨rfl, hdisplay, .inl ⟨id, rfl⟩⟩
  | parent pid =>
    rw [hfork] at h
    cases h
    exact ⟨rfl, hdisplay, .inr ⟨trivial, pid, rfl⟩⟩
  | child =>
    rw [hfork] at h
    cases hwm : env.wmFork with
    | failed =>
      rw [hwm] at h
      cases h
      exact ⟨rfl, hdisplay, .inl ⟨id, rfl⟩⟩
    | child =>
      rw [hwm] at h
      cases h
    | parent pid =>
      rw [hwm] at h
      cases hdf : env.displayFork with
      | failed =>
        rw [hdf] at h
        cases h
        exact ⟨rfl, hdisplay, .inl ⟨fun hne => hne rfl, rfl⟩⟩
      | child =>
        rw [hdf] at h
        cases h
      | parent _ =>
        rw [hdf] at h
        cases h

theorem tableOk_start (h : TableOk cfg s)
    (hstart : sessionStartFork cfg env r s = some (display, s')) : TableOk cfg s' := by
  rcases sessionStartFork_cases hstart with ⟨-, rfl⟩ | ⟨hcount, -, -, hdisplay, hne, hs'⟩
  · exact h
  rcases hs' with ⟨-, rfl⟩ | ⟨-, pid, rfl⟩
  · exact h
  have hloop := availDisplayLoop_spec env.x s.chain (cfg.maxSessions + 1).toNat cfg.x11DisplayOffset
  rcases hloop with hzero | ⟨hfree, hle, hlt⟩
  · exact absurd (hdisplay.trans hzero) hne
  rw [← sessionGetAvailDisplayFromChain, ← hdisplay] at hfree hle hlt
  constructor
  · simp [h.count]
  · change s.count + 1 ≤ cfg.maxSessions
    omega
  · change (display :: s.chain.map (·.display)).Nodup
    refine List.nodup_cons.2 ⟨fun hmem => ?_, h.different⟩
    obtain ⟨item, hitem, heq⟩ := List.mem_map.1 hmem
    have hin : sessionIsDisplayInChain s.chain display = true :=
      List.any_eq_true.2 ⟨item, hitem, by simpa using heq⟩
    rw [hfree] at hin
    cases hin
  · intro item hitem
    rcases List.mem_cons.1 hitem with rfl | hitem
    · change cfg.x11DisplayOffset ≤ display ∧ display ≤ cfg.x11DisplayOffset + cfg.maxSessions
      omega
    · exact h.range item hitem

theorem tableOk_kill (h : TableOk cfg s) (pid : Int) : TableOk cfg (sessionKill pid s).2 := by
  unfold sessionKill
  split
  · rename_i hany
    obtain ⟨item, hitem, hpid⟩ := List.any_eq_true.1 hany
    have hlen := List.length_eraseP_of_mem (p := (·.pid == pid)) hitem hpid
    have hpos := List.length_pos_of_mem hitem
    have hsub : (s.chain.eraseP (·.pid == pid)).Sublist s.chain := List.eraseP_sublist
    constructor
    · change s.count - 1 = _
      rw [h.count, hlen]
      omega
    · change s.count - 1 ≤ cfg.maxSessions
      have hlimit := h.limit
      omega
    · exact h.different.sublist (hsub.map _)
    · intro item hitem
      exact h.range item (hsub.mem hitem)
  · exact h

/-- Nothing has been added. -/
theorem not_added_self : ¬ Added display s s := by
  rintro ⟨item, -, heq⟩
  have hlen := congrArg (·.chain.length) heq
  simp at hlen

/-- A start is right just if no fork fails that is tried. -/
theorem startRight_iff (cfg : SessConfig) (s : Sessions) (event : SessionEvent) :
    StartRight cfg s event ↔ Fits cfg s event := by
  cases event with
  | kill pid => exact Iff.rfl
  | start env r =>
    constructor
    · intro hright hcount hchain hitem hdisplay
      by_contra hforks
      have hstart : sessionStartFork cfg env r s =
          some (sessionGetAvailDisplayFromChain cfg env.x s.chain, s) := by
        unfold sessionStartFork
        rw [if_neg (by omega), if_neg (by simp [hchain]), if_neg (by simp [hitem])]
        dsimp only
        rw [if_neg hdisplay]
        unfold ForksOk at hforks
        cases hfork : env.fork with
        | failed => rfl
        | parent pid =>
          rw [hfork] at hforks
          exact absurd trivial hforks
        | child =>
          rw [hfork] at hforks
          cases hwm : env.wmFork with
          | failed => rfl
          | child =>
            rw [hwm] at hforks
            exact absurd trivial hforks
          | parent pid =>
            rw [hwm] at hforks
            have hdf : env.displayFork = .failed := not_not.1 hforks
            rw [hdf]
      exact not_added_self ((hright _ _ hstart).1.1 hdisplay)
    · intro hfits display s' hstart
      rcases sessionStartFork_cases hstart with ⟨rfl, rfl⟩ | ⟨hcount, hchain, hitem, hd, hne, hs'⟩
      · exact ⟨iff_of_false (fun h => h rfl) not_added_self, .inr rfl⟩
      · have hforks := hfits hcount hchain hitem (hd ▸ hne)
        rcases hs' with ⟨hno, -⟩ | ⟨-, pid, rfl⟩
        · exact absurd hforks hno
        · have hadded : Added display s
              ⟨r.newItem pid display env.time :: s.chain, s.count + 1⟩ := ⟨_, rfl, rfl⟩
          exact ⟨iff_of_true hne hadded, .inl hadded⟩

end

/-! ## Runs -/

theorem tableOk_next {cfg : SessConfig} {s s' : Sessions} {event : SessionEvent}
    (h : TableOk cfg s) (hnext : Next cfg s event s') : TableOk cfg s' := by
  cases event with
  | start env r =>
    obtain ⟨display, hstart⟩ := hnext
    exact tableOk_start h hstart
  | kill pid =>
    cases hnext
    exact tableOk_kill h pid

/-- The table is as it should be in every state of a run, and every start is right, just if the
limit is not negative and no fork fails. -/
theorem session_table_iff (cfg : SessConfig) (events : List SessionEvent) :
    ((∀ before, before <+: events → ∀ s, Runs.Leads (Next cfg) .empty before s → TableOk cfg s) ∧
        Runs.AllFit (Next cfg) (StartRight cfg) .empty events) ↔
      0 ≤ cfg.maxSessions ∧ Runs.AllFit (Next cfg) (Fits cfg) .empty events := by
  have hright : StartRight cfg = Fits cfg := by
    funext s event
    exact propext (startRight_iff cfg s event)
  rw [hright]
  refine and_congr_left fun _ => ?_
  constructor
  · intro h
    exact (h [] List.nil_prefix .empty rfl).limit
  · intro hmax before _ s hleads
    have hempty : TableOk cfg .empty := ⟨rfl, hmax, List.nodup_nil, fun _ h => by cases h⟩
    have hkeep : ∀ s event s', TableOk cfg s → Next cfg s event s' → TableOk cfg s' :=
      fun _ _ _ => tableOk_next
    exact Runs.leads_inv hkeep hempty hleads

/-- The fork fails, and the display 10 is returned that nobody has. -/
theorem start_without_session :
    ¬ StartRight { x11DisplayOffset := 10, maxSessions := 50, policy := ⟨false, false, false⟩ }
      .empty (.start
        { x := { socketPath := "/tmp/.xrdp", fileExists := fun _ => false,
                 portTaken := fun _ => false }
          chainMemory := true, itemMemory := true, fork := .failed, wmFork := .failed
          displayFork := .failed, time := .zero }
        { data := 1, type := SESMAN_SESSION_TYPE_XRDP, width := 800, height := 600, bpp := 24
          clientIp := none, username := some ⟨[0x70], by decide⟩, guid := List.replicate 16 0 }) := by
  intro h
  exact not_added_self ((h 10 .empty rfl).1.1 (by decide))

end Xrdp.Sesman
