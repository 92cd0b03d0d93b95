import Mathlib.Data.List.Basic

/-!
# Frames of a stream, read piecewise into a buffer

A stream is cut into frames that say how long they are.  A reader gathers a frame in a buffer,
however it comes in, handles it and starts afresh; what handles a frame may take something of what
follows it.

* `Overruns` — the streams with a frame that is handled in its turn and is larger than the buffer,
  as far as it comes in.
* `Outcome` — what a step of a reader may come to.
* `Reads` — a reader of frames: every step has such an outcome.
* `fails_iff` — some way to come in makes the reader fail exactly if the stream overruns.
-/

namespace Frames

variable {α τ ι ε : Type}

/-- Steps, up to one that ends the run. -/
def loop (step : ι → τ → Except ε (Int × τ)) : List ι → τ → Except ε (Int × τ)
  | [], t => .ok (0, t)
  | i :: is, t =>
    match step i t with
    | .error e => .error e
    | .ok (rv, t) => if rv ≠ 0 then .ok (rv, t) else loop step is t

/-- A format of frames. -/
structure Format (α : Type) where
  /-- The size of the buffer. -/
  capacity : Nat
  /-- How long the frame at the front of a stream is, if there is enough of it to say so. -/
  frame : List α → Option Nat
  /-- After some frames and with something behind it, this one does not end the run. -/
  ok : List (List α) → List α → List α → Prop
  /-- How much of what is behind it is taken when it is handled. -/
  skip : List (List α) → List α → List α → Nat

variable (F : Format α)

/-- After some frames, what comes in is too much for the buffer. -/
inductive Overruns : List (List α) → List α → Prop
  | here {done : List (List α)} {s : List α} {n : Nat} (hframe : F.frame s = some n)
      (hlarge : F.capacity < min n s.length) : Overruns done s
  | later {done : List (List α)} {s : List α} {n : Nat} (hframe : F.frame s = some n)
      (hwhole : n ≤ s.length) (hok : F.ok done (s.take n) (s.drop n))
      (h : Overruns (done ++ [s.take n])
        ((s.drop n).drop (F.skip done (s.take n) (s.drop n)))) : Overruns done s

/-- What a step comes to if `part` is in the buffer and `rest` is still to come: an overrun, the
end of the run, more of the same frame, or the next frame.  An `eager` step reads something. -/
inductive Outcome (Stand : τ → List (List α) → List α → List α → Prop) (eager : Prop)
    (done : List (List α)) (part rest : List α) : Except ε (Int × τ) → Prop
  | overrun {e : ε} {n : Nat} (hframe : F.frame (part ++ rest) = some n)
      (hlarge : F.capacity < min n (part ++ rest).length) :
      Outcome Stand eager done part rest (.error e)
  | ended {rv : Int} {t : τ} (hrv : rv ≠ 0) (heager : ¬ eager) :
      Outcome Stand eager done part rest (.ok (rv, t))
  | more {t : τ} {part' rest' : List α} (hsame : part' ++ rest' = part ++ rest)
      (hless : eager → rest'.length < rest.length) (hstand : Stand t done part' rest') :
      Outcome Stand eager done part rest (.ok (0, t))
  | next {t : τ} {n : Nat} (hframe : F.frame (part ++ rest) = some n)
      (hwhole : n ≤ (part ++ rest).length) (hfits : n ≤ F.capacity)
      (hok : F.ok done ((part ++ rest).take n) ((part ++ rest).drop n))
      (hstand : Stand t (done ++ [(part ++ rest).take n]) [] (((part ++ rest).drop n).drop
        (F.skip done ((part ++ rest).take n) ((part ++ rest).drop n)))) :
      Outcome Stand eager done part rest (.ok (0, t))

/-- The frame at the front is not one that ends the run. -/
def Willing (done : List (List α)) (s : List α) : Prop :=
  ∃ n, F.frame s = some n ∧
    (n ≤ F.capacity → n ≤ s.length → F.ok done (s.take n) (s.drop n))

/-- A reader of frames; its state stands for the frames that it has handled, what is in its buffer
and what is still to come. -/
structure Reads (step : ι → τ → Except ε (Int × τ)) (greedy : ι)
    (Stand : τ → List (List α) → List α → List α → Prop) : Prop where
  /-- The buffer holds a part of a frame. -/
  part : ∀ {t done part rest}, Stand t done part rest → part.length ≤ F.capacity ∧
    ∀ n, F.frame (part ++ rest) = some n → part.length < n
  outcome : ∀ {t done part rest} (i : ι), Stand t done part rest →
    Outcome F Stand (i = greedy ∧ rest ≠ [] ∧ Willing F done (part ++ rest)) done part rest
      (step i t)

variable {F} {step : ι → τ → Except ε (Int × τ)} {greedy : ι}
  {Stand : τ → List (List α) → List α → List α → Prop} {t : τ} {done : List (List α)}
  {part rest : List α}

theorem loop_cons_error {i : ι} {is : List ι} {e : ε} (h : step i t = .error e) :
    loop step (i :: is) t = .error e := by
  rw [loop, h]

theorem loop_cons_zero {i : ι} {is : List ι} {t' : τ} (h : step i t = .ok (0, t')) :
    loop step (i :: is) t = loop step is t' := by
  rw [loop, h]
  exact if_neg (not_not.2 rfl)

/-- Where the reader fails, the stream overruns. -/
theorem Reads.overruns (hR : Reads F step greedy Stand) {is : List ι} {e : ε}
    (h : Stand t done part rest) (hfail : loop step is t = .error e) :
    Overruns F done (part ++ rest) := by
  induction is generalizing t done part rest with
  | nil => cases hfail
  | cons i is ih =>
    have hout := hR.outcome i h
    cases hstep : step i t with
    | error e' =>
      rw [hstep] at hout
      cases hout with
      | overrun hframe hlarge => exact .here hframe hlarge
    | ok r =>
      rw [hstep] at hout
      cases hout with
      | ended hrv _ =>
        rw [loop, hstep] at hfail
        dsimp only at hfail
        rw [if_pos hrv] at hfail
        cases hfail
      | more hsame _ hstand =>
        rw [loop_cons_zero hstep] at hfail
        rw [← hsame]
        exact ih hstand hfail
      | next hframe hwhole _ hok hstand =>
        rw [loop_cons_zero hstep] at hfail
        exact .later hframe hwhole hok (ih hstand hfail)

/-- Fed greedily, a reader fails at the frame at the front, or it comes to the next one. -/
theorem Reads.fails (hR : Reads F step greedy Stand) {n : Nat} (h : Stand t done part rest)
    (hframe : F.frame (part ++ rest) = some n) (hwilling : Willing F done (part ++ rest))
    (hcomes : F.capacity < (part ++ rest).length ∨ n ≤ (part ++ rest).length)
    (hnext : n ≤ F.capacity → ∀ t', Stand t' (done ++ [(part ++ rest).take n]) []
        (((part ++ rest).drop n).drop
          (F.skip done ((part ++ rest).take n) ((part ++ rest).drop n))) →
      ∃ is e, loop step is t' = .error e) :
    ∃ is e, loop step is t = .error e := by
  induction hm : rest.length using Nat.strongRecOn generalizing t part rest with
  | ind m ih =>
    have hrest : rest ≠ [] := by
      rintro rfl
      have hfits := (hR.part h).1
      have hpart := (hR.part h).2 n hframe
      rw [List.append_nil] at hcomes
      omega
    have hout := hR.outcome greedy h
    cases hstep : step greedy t with
    | error e => exact ⟨[greedy], e, loop_cons_error hstep⟩
    | ok r =>
      rw [hstep] at hout
      cases hout with
      | ended _ heager => exact absurd ⟨rfl, hrest, hwilling⟩ heager
      | more hsame hless hstand =>
        have hlt := hless ⟨rfl, hrest, hwilling⟩
        rw [← hsame] at hframe hwilling hcomes hnext
        obtain ⟨is, e, hloop⟩ := ih _ (hm ▸ hlt) hstand hframe hwilling hcomes hnext rfl
        exact ⟨greedy :: is, e, by rw [loop_cons_zero hstep, hloop]⟩
      | next hframe' _ hfits _ hstand =>
        rw [hframe] at hframe'
        cases hframe'
        obtain ⟨is, e, hloop⟩ := hnext hfits _ hstand
        exact ⟨greedy :: is, e, by rw [loop_cons_zero hstep, hloop]⟩

/-- **Some way to come in makes the reader fail** just if the stream overruns. -/
theorem Reads.fails_iff (hR : Reads F step greedy Stand) (h : Stand t done part rest) :
    (∃ is e, loop step is t = .error e) ↔ Overruns F done (part ++ rest) := by
  constructor
  · rintro ⟨is, e, hfail⟩
    exact hR.overruns h hfail
  · intro hover
    generalize hs : part ++ rest = s at hover
    induction hover generalizing t part rest with
    | here hframe hlarge =>
      subst hs
      exact hR.fails h hframe ⟨_, hframe, fun hle => by omega⟩ (.inl (by omega))
        fun hle => by omega
    | later hframe hwhole hok _ ih =>
      subst hs
      exact hR.fails h hframe ⟨_, hframe, fun _ _ => hok⟩ (.inr hwhole)
        fun _ t' ht' => ih ht' rfl

/-- A reader whose states are seen as those of another. -/
theorem Reads.comap {τ' : Type} (hR : Reads F step greedy Stand) {f : τ' → τ}
    {step' : ι → τ' → Except ε (Int × τ')}
    (hstep : ∀ i t done part rest, Stand (f t) done part rest →
      step i (f t) = (step' i t).map fun r => (r.1, f r.2)) :
    Reads F step' greedy fun t => Stand (f t) where
  part h := hR.part h
  outcome {t done part rest} i h := by
    have hout := hR.outcome i h
    rw [hstep i t done part rest h] at hout
    cases hr : step' i t with
    | error e =>
      rw [hr] at hout
      cases hout with
      | overrun hframe hlarge => exact .overrun hframe hlarge
    | ok r =>
      rw [hr] at hout
      obtain ⟨rv, t'⟩ := r
      cases hout with
      | ended hrv heager => exact .ended hrv heager
      | more hsame hless hstand => exact .more hsame hless hstand
      | next hframe hwhole hfits hok hstand => exact .next hframe hwhole hfits hok hstand

end Frames
