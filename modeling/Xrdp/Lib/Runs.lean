import Mathlib.Data.List.Infix

/-!
# Runs that keep a promise

A system takes one action after another; a step may be impossible, and has one result otherwise.

* `Leads` — a run from one state to another.
* `Always` — a promise that holds in all states of a run.
* `AllFit` — all actions of a run meet a condition, each in the state before it.
* `always_iff`, `always_of_fits` — from one step to all runs.
* `always_iff_last` — from the last state of a run to all.
-/

namespace Runs

variable {σ α ε : Type} (next : σ → α → σ → Prop)

/-- The actions lead from one state to another. -/
def Leads : σ → List α → σ → Prop
  | s, [], s' => s = s'
  | s, a :: as, s' => ∃ s₁, next s a s₁ ∧ Leads s₁ as s'

/-- The actions are possible, and the promise holds in all states of the run. -/
def Always (ok : σ → Prop) (s : σ) (as : List α) : Prop :=
  ∀ before, before <+: as → ∃ s', Leads next s before s' ∧ ok s'

/-- Every action meets its condition. -/
def AllFit (fits : σ → α → Prop) : σ → List α → Prop
  | _, [] => True
  | s, a :: as => fits s a ∧ ∀ s', next s a s' → AllFit fits s' as

variable {next}

theorem always_cons {ok : σ → Prop} (hdet : ∀ s a s₁ s₂, next s a s₁ → next s a s₂ → s₁ = s₂)
    {s : σ} {a : α} {as : List α} : Always next ok s (a :: as) ↔
      ok s ∧ ∃ s', next s a s' ∧ Always next ok s' as := by
  constructor
  · intro h
    obtain ⟨s₀, rfl, hok⟩ := h [] List.nil_prefix
    obtain ⟨s₁, ⟨s', hnext, -⟩, -⟩ := h [a] ⟨as, rfl⟩
    refine ⟨hok, s', hnext, fun before hbefore => ?_⟩
    obtain ⟨s'', ⟨s₂, hnext₂, hleads⟩, hok'⟩ := h (a :: before) (List.cons_prefix_cons.2 ⟨rfl, hbefore⟩)
    rw [hdet s a s₂ s' hnext₂ hnext] at hleads
    exact ⟨s'', hleads, hok'⟩
  · rintro ⟨hok, s', hnext, hrun⟩ before hbefore
    cases before with
    | nil => exact ⟨s, rfl, hok⟩
    | cons b before =>
      obtain ⟨rfl, hrest⟩ := List.cons_prefix_cons.1 hbefore
      obtain ⟨s'', hleads, hok'⟩ := hrun before hrest
      exact ⟨s'', ⟨s', hnext, hleads⟩, hok'⟩

/-- What one step comes to: it is possible, and the promise holds afterwards, just if the action
meets its condition; and then the state is a good one again. -/
structure StepIff (next : σ → α → σ → Prop) (ok good : σ → Prop) (fits : σ → α → Prop) (s : σ)
    (a : α) : Prop where
  iff : (∃ s', next s a s' ∧ ok s') ↔ fits s a
  good : ∀ s', next s a s' → ok s' → good s'

/-- A step that is possible. -/
theorem StepIff.of_next {ok good : σ → Prop} {fits : σ → α → Prop}
    (hdet : ∀ s a s₁ s₂, next s a s₁ → next s a s₂ → s₁ = s₂) {s s' : σ} {a : α}
    (hnext : next s a s') (hiff : ok s' ↔ fits s a) (hgood : ok s' → good s') :
    StepIff next ok good fits s a := by
  constructor
  · rw [← hiff]
    constructor
    · rintro ⟨s'', hnext', hok⟩
      rwa [hdet s a s' s'' hnext hnext']
    · exact fun hok => ⟨s', hnext, hok⟩
  · intro s'' hnext' hok
    rw [← hdet s a s' s'' hnext hnext'] at hok ⊢
    exact hgood hok

/-- A step that is not possible. -/
theorem StepIff.of_stuck {ok good : σ → Prop} {fits : σ → α → Prop} {s : σ} {a : α}
    (hstuck : ∀ s', ¬ next s a s') (hfits : ¬ fits s a) : StepIff next ok good fits s a :=
  ⟨iff_of_false (fun ⟨s', hnext, _⟩ => hstuck s' hnext) hfits,
    fun s' hnext => absurd hnext (hstuck s')⟩

/-- **From steps to runs**: if in every good state a step keeps the promise just if it meets its
condition, a run from a good state keeps it just if all its actions meet their conditions. -/
theorem always_iff {ok good : σ → Prop} {fits : σ → α → Prop}
    (hdet : ∀ s a s₁ s₂, next s a s₁ → next s a s₂ → s₁ = s₂) (hok : ∀ s, good s → ok s)
    (hstep : ∀ s a, good s → StepIff next ok good fits s a) {s : σ} (hs : good s) (as : List α) :
    Always next ok s as ↔ AllFit next fits s as := by
  induction as generalizing s with
  | nil =>
    refine iff_of_true (fun before hbefore => ?_) trivial
    rw [List.prefix_nil.1 hbefore]
    exact ⟨s, rfl, hok s hs⟩
  | cons a as ih =>
    obtain ⟨hiff, hgood⟩ := hstep s a hs
    rw [always_cons hdet, and_iff_right (hok s hs), AllFit, ← hiff]
    constructor
    · rintro ⟨s', hnext, hrun⟩
      have hok' : ok s' := by
        obtain ⟨s₀, rfl, hok'⟩ := hrun [] List.nil_prefix
        exact hok'
      refine ⟨⟨s', hnext, hok'⟩, fun s'' hnext' => ?_⟩
      rw [← hdet s a s' s'' hnext hnext']
      exact (ih (hgood s' hnext hok')).1 hrun
    · rintro ⟨⟨s', hnext, hok'⟩, hfits⟩
      exact ⟨s', hnext, (ih (hgood s' hnext hok')).2 (hfits s' hnext)⟩

/-- If in every good state an action that meets its condition leads to a good state, the promise
holds in all states of a run whose actions all meet theirs. -/
theorem always_of_fits {good : σ → Prop} {fits : σ → α → Prop}
    (hstep : ∀ s a, good s → fits s a → ∃ s', next s a s' ∧ good s') {s : σ} (hs : good s)
    {as : List α} (h : AllFit next fits s as) : Always next good s as := by
  induction as generalizing s with
  | nil =>
    intro before hbefore
    rw [List.prefix_nil.1 hbefore]
    exact ⟨s, rfl, hs⟩
  | cons a as ih =>
    obtain ⟨hfits, hrest⟩ := h
    obtain ⟨s', hnext, hgood⟩ := hstep s a hs hfits
    intro before hbefore
    cases before with
    | nil => exact ⟨s, rfl, hs⟩
    | cons b before =>
      obtain ⟨rfl, hprefix⟩ := List.cons_prefix_cons.1 hbefore
      obtain ⟨s'', hleads, hgood'⟩ := ih hgood (hrest s' hnext) before hprefix
      exact ⟨s'', ⟨s', hnext, hleads⟩, hgood'⟩

/-- What is not put right again holds in all states if it holds in the last one. -/
theorem always_iff_last {ok : σ → Prop} (hdet : ∀ s a s₁ s₂, next s a s₁ → next s a s₂ → s₁ = s₂)
    (hback : ∀ s a s', next s a s' → ok s' → ok s) {s : σ} {as : List α} :
    Always next ok s as ↔ ∃ s', Leads next s as s' ∧ ok s' := by
  constructor
  · exact fun h => h as (List.prefix_refl as)
  · induction as generalizing s with
    | nil =>
      rintro ⟨s', rfl, hok⟩ before hbefore
      rw [List.prefix_nil.1 hbefore]
      exact ⟨s, rfl, hok⟩
    | cons a as ih =>
      rintro ⟨s', ⟨s₁, hnext, hleads⟩, hok⟩
      have hrest := ih ⟨s', hleads, hok⟩
      obtain ⟨s₀, rfl, hok₁⟩ := hrest [] List.nil_prefix
      exact (always_cons hdet).2 ⟨hback s a s₁ hnext hok₁, s₁, hnext, hrest⟩

/-- A run is the run of its beginning and that of its rest. -/
theorem leads_append {s s' : σ} {as bs : List α} :
    Leads next s (as ++ bs) s' ↔ ∃ s₁, Leads next s as s₁ ∧ Leads next s₁ bs s' := by
  induction as generalizing s with
  | nil => exact ⟨fun h => ⟨s, rfl, h⟩, fun ⟨s₁, heq, h⟩ => heq ▸ h⟩
  | cons a as ih =>
    rw [List.cons_append, Leads]
    constructor
    · rintro ⟨s₁, hnext, hrest⟩
      obtain ⟨s₂, has, hbs⟩ := ih.1 hrest
      exact ⟨s₂, ⟨s₁, hnext, has⟩, hbs⟩
    · rintro ⟨s₂, ⟨s₁, hnext, has⟩, hbs⟩
      exact ⟨s₁, hnext, ih.2 ⟨s₂, has, hbs⟩⟩

/-- Actions that meet a condition meet what follows from it. -/
theorem AllFit.mono {fits fits' : σ → α → Prop} (h : ∀ s a, fits s a → fits' s a) {s : σ} {as : List α}
    (hfits : AllFit next fits s as) : AllFit next fits' s as := by
  induction as generalizing s with
  | nil => trivial
  | cons a as ih =>
    obtain ⟨hfirst, hrest⟩ := hfits
    exact ⟨h s a hfirst, fun s' hnext => ih (hrest s' hnext)⟩

/-- The actions of a run meet their conditions if those of its beginning do, and those of its rest. -/
theorem allFit_append {fits : σ → α → Prop} {s : σ} {as bs : List α} :
    AllFit next fits s (as ++ bs) ↔
      AllFit next fits s as ∧ ∀ s₁, Leads next s as s₁ → AllFit next fits s₁ bs := by
  induction as generalizing s with
  | nil =>
    constructor
    · intro h
      refine ⟨trivial, fun s₁ heq => ?_⟩
      cases heq
      exact h
    · exact fun h => h.2 s rfl
  | cons a as ih =>
    rw [List.cons_append, AllFit, AllFit]
    constructor
    · rintro ⟨hfits, hrest⟩
      refine ⟨⟨hfits, fun s' hnext => (ih.1 (hrest s' hnext)).1⟩, ?_⟩
      rintro s₁ ⟨s', hnext, has⟩
      exact (ih.1 (hrest s' hnext)).2 s₁ has
    · rintro ⟨⟨hfits, hrest⟩, hbs⟩
      exact ⟨hfits, fun s' hnext => ih.2 ⟨hrest s' hnext, fun s₁ has => hbs s₁ ⟨s', hnext, has⟩⟩⟩

/-- The rest of a run whose actions all meet their conditions. -/
theorem allFit_of_append {fits : σ → α → Prop} {s s₁ : σ} {as bs : List α}
    (h : AllFit next fits s (as ++ bs)) (has : Leads next s as s₁) : AllFit next fits s₁ bs :=
  (allFit_append.1 h).2 s₁ has

/-- A run has one result. -/
theorem leads_unique (hdet : ∀ s a s₁ s₂, next s a s₁ → next s a s₂ → s₁ = s₂) {s s₁ s₂ : σ}
    {as : List α} (h₁ : Leads next s as s₁) (h₂ : Leads next s as s₂) : s₁ = s₂ := by
  induction as generalizing s with
  | nil => exact Eq.trans (Eq.symm h₁) h₂
  | cons a as ih =>
    obtain ⟨t₁, hnext₁, hrest₁⟩ := h₁
    obtain ⟨t₂, hnext₂, hrest₂⟩ := h₂
    rw [hdet s a t₂ t₁ hnext₂ hnext₁] at hrest₂
    exact ih hrest₁ hrest₂

/-- An invariant that every step keeps. -/
theorem leads_inv {inv : σ → Prop} (hstep : ∀ s a s', inv s → next s a s' → inv s') {s s' : σ}
    {as : List α} (hs : inv s) (h : Leads next s as s') : inv s' := by
  induction as generalizing s with
  | nil =>
    cases h
    exact hs
  | cons a as ih =>
    obtain ⟨s₁, hnext, hrest⟩ := h
    exact ih (hstep s a s₁ hs hnext) hrest

/-! ## Steps of functions -/

/-- Runs of a function. -/
theorem leads_fun {step : σ → α → σ} {s s' : σ} {as : List α} :
    Leads (fun s a s' => step s a = s') s as s' ↔ as.foldl step s = s' := by
  induction as generalizing s with
  | nil => exact Iff.rfl
  | cons a as ih =>
    rw [List.foldl_cons, Leads, ← ih]
    simp only [exists_eq_left']

/-- A step of a function that may have an error. -/
theorem allFit_cons {step : σ → α → Except ε σ} {fits : σ → α → Prop} {s s' : σ} {a : α}
    {as : List α} (hfits : fits s a) (hstep : step s a = .ok s')
    (h : AllFit (fun s a s' => step s a = .ok s') fits s' as) :
    AllFit (fun s a s' => step s a = .ok s') fits s (a :: as) := by
  refine ⟨hfits, fun s'' (hs'' : step s a = .ok s'') => ?_⟩
  rw [hstep] at hs''
  cases hs''
  exact h

/-- Runs of a function that may fail. -/
theorem leads_option {step : σ → α → Option σ} {s s' : σ} {as : List α} :
    Leads (fun s a s' => step s a = some s') s as s' ↔ as.foldlM step s = some s' := by
  induction as generalizing s with
  | nil => exact Option.some_inj.symm
  | cons a as ih =>
    rw [List.foldlM_cons, Option.bind_eq_bind, Option.bind_eq_some_iff, Leads]
    simp only [ih]

/-- Runs of a function that may have an error. -/
theorem leads_except {step : σ → α → Except ε σ} {s s' : σ} {as : List α} :
    Leads (fun s a s' => step s a = .ok s') s as s' ↔ as.foldlM step s = .ok s' := by
  induction as generalizing s with
  | nil =>
    constructor
    · rintro rfl
      rfl
    · intro h
      cases h
      rfl
  | cons a as ih =>
    rw [List.foldlM_cons, Leads]
    cases hstep : step s a with
    | error e =>
      constructor
      · rintro ⟨s₁, h, -⟩
        cases h
      · intro h
        cases h
    | ok s₁ =>
      simp only [Except.ok.injEq, exists_eq_left', ih]
      rfl

end Runs
