import Xrdp.Transport.InBuffers

/-!
# Transports that read frames

* `Follows` — a transport whose `header_size` and `extra_flags` follow the frames of a format.
* `Follows.reads` — it is a reader of these frames.
-/

namespace Xrdp.Transport

open Frames

theorem int_eq {v : Int} (hlow : 0 ≤ v) (hhigh : v < 2 ^ 31) : int v = v := by
  unfold int
  rw [Int.bmod_eq_of_le] <;> omega

/-- What a call of `trans_data_in` comes to: the end, more of the same frame, or the next one. -/
inductive DataIn (F : Format UInt8) (Mode : Nat → Nat → List UInt8 → Prop) (t : InTrans) :
    Run (Int × InTrans) → Prop
  | ended {rv : Int} {t' : InTrans} (hrv : rv ≠ 0) (hbad : ¬ Willing F t.handed (t.inS ++ t.sck)) :
      DataIn F Mode t (.ok (rv, t'))
  | more {flags size : Nat} (hlt : t.inS.length < size) (hmode : Mode flags size t.inS) :
      DataIn F Mode t (.ok (0, { t with headerSize := size, extraFlags := flags }))
  | next {flags size : Nat} (hframe : F.frame (t.inS ++ t.sck) = some t.inS.length)
      (hok : F.ok t.handed t.inS t.sck) (hpos : 0 < size) (hmode : Mode flags size []) :
      DataIn F Mode t (.ok (0, { t with
        inS := []
        headerSize := size
        extraFlags := flags
        sck := t.sck.drop (F.skip t.handed t.inS t.sck)
        handed := t.handed ++ [t.inS] }))

/-- A frame that is there is handled. -/
theorem DataIn.handled {F : Format UInt8} {Mode : Nat → Nat → List UInt8 → Prop} {t t' : InTrans}
    {rv : Int} {flags size : Nat} (hframe : F.frame (t.inS ++ t.sck) = some t.inS.length)
    (hok : F.ok t.handed t.inS t.sck ↔ rv = 0) (hroom : t.inS.length ≤ F.capacity) (hpos : 0 < size)
    (hmode : Mode flags size [])
    (ht' : rv = 0 → t' = { t with
      inS := []
      headerSize := size
      extraFlags := flags
      sck := t.sck.drop (F.skip t.handed t.inS t.sck)
      handed := t.handed ++ [t.inS] }) : DataIn F Mode t (.ok (rv, t')) := by
  by_cases hrv : rv = 0
  · rw [ht' hrv, hrv]
    exact .next hframe (hok.2 hrv) hpos hmode
  · refine .ended hrv ?_
    rintro ⟨n, hn, hwilling⟩
    rw [hframe] at hn
    cases hn
    have hwhole : t.inS.length ≤ (t.inS ++ t.sck).length := by
      rw [List.length_append]
      exact Nat.le_add_right _ _
    have h := hwilling hroom hwhole
    rw [List.take_left, List.drop_left] at h
    exact hrv (hok.1 h)

/-- The `extra_flags` and `header_size` of a transport follow the frames: `Mode` is what they are
while some bytes of a frame are in `in_s`. -/
structure Follows (setup : Setup) (F : Format UInt8) (Mode : Nat → Nat → List UInt8 → Prop) :
    Prop where
  room : setup.inSize = F.capacity
  keeps : setup.noStreamInitOnDataIn = true
  append : ∀ {flags size b} (c : List UInt8), Mode flags size b → Mode flags size (b ++ c)
  small : ∀ {flags size b}, Mode flags size b → size < 2 ^ 31
  /-- Not more than a frame is asked for. -/
  wanted : ∀ {flags size b c n}, Mode flags size b → F.frame (b ++ c) = some n → size ≤ n
  /-- What there is no room for is a frame. -/
  large : ∀ {flags size b} (c : List UInt8), Mode flags size b → F.capacity < size →
    F.frame (b ++ c) = some size
  dataIn : ∀ {recv : Recv} {t : InTrans}, t.inS.length ≤ F.capacity →
    t.headerSize = t.inS.length → Mode t.extraFlags t.inS.length t.inS →
    DataIn F Mode t (setup.transDataIn recv t)

/-- A transport waits for more of a frame. -/
structure Stands (F : Format UInt8) (Mode : Nat → Nat → List UInt8 → Prop) (t : InTrans)
    (done : List (List UInt8)) (part rest : List UInt8) : Prop where
  up : t.status = .UP
  inS : t.inS = part
  sck : t.sck = rest
  handed : t.handed = done
  room : part.length ≤ F.capacity
  wants : ∃ size : Nat, t.headerSize = size ∧ part.length < size ∧ Mode t.extraFlags size part

/-- The turns that read byte by byte. -/
def greedyTurn : Turn := ⟨.bytes 1, false⟩

section

variable {setup : Setup} {F : Format UInt8} {Mode : Nat → Nat → List UInt8 → Prop} {t : InTrans}
  {done : List (List UInt8)} {part rest : List UInt8} {eager : Prop}

/-- What a step of such a transport comes to. -/
abbrev StepOutcome (F : Format UInt8) (Mode : Nat → Nat → List UInt8 → Prop) (eager : Prop)
    (done : List (List UInt8)) (part rest : List UInt8) (r : Run (Int × InTrans)) : Prop :=
  Frames.Outcome F (Stands F Mode) eager done part rest r

/-- What waits to be sent may end the run. -/
theorem sendWaiting_outcome {turn : Turn} {rv : Int} {t' : InTrans}
    (h : StepOutcome F Mode eager done part rest (.ok (rv, t')))
    (heager : eager → turn.sendFails = false) :
    StepOutcome F Mode eager done part rest (.ok (t'.sendWaiting turn rv)) := by
  unfold InTrans.sendWaiting
  split
  · rename_i hfails
    refine .ended one_ne_zero fun h => ?_
    rw [heager h] at hfails
    cases hfails
  · exact h

/-- A call of `trans_data_in`, if all is there. -/
theorem Follows.dataIn_outcome (hF : Follows setup F Mode) (recv : Recv) {size : Nat}
    (hup : t.status = .UP) (hsize : t.headerSize = size) (hle : t.inS.length ≤ size)
    (hroom : t.inS.length ≤ F.capacity) (hmode : Mode t.extraFlags size t.inS)
    (hsame : t.inS ++ t.sck = part ++ rest)
    (heager : eager → t.sck.length < rest.length ∧ Willing F t.handed (part ++ rest)) :
    ∃ rv t', setup.dataIn recv t = .ok (rv, t') ∧
      StepOutcome F Mode eager t.handed part rest (.ok (rv, t')) := by
  unfold Setup.dataIn
  by_cases hall : t.inS.length = size
  · subst hall
    rw [if_pos hsize.symm]
    have hdata := @Follows.dataIn _ _ _ hF recv t hroom hsize hmode
    generalize setup.transDataIn recv t = r at hdata ⊢
    cases hdata with
    | ended hrv hbad =>
      rw [hsame] at hbad
      exact ⟨_, _, rfl, .ended hrv fun h => hbad (heager h).2⟩
    | more hlt hmode' =>
      refine ⟨_, _, rfl, ?_⟩
      rw [hF.keeps]
      exact .more hsame (fun h => (heager h).1) ⟨hup, rfl, rfl, rfl, hroom, _, rfl, hlt, hmode'⟩
    | next hframe hok hpos hmode' =>
      have htake : (part ++ rest).take t.inS.length = t.inS := by rw [← hsame, List.take_left]
      have hdrop : (part ++ rest).drop t.inS.length = t.sck := by rw [← hsame, List.drop_left]
      have hwhole : t.inS.length ≤ (part ++ rest).length := by
        rw [← hsame, List.length_append]
        exact Nat.le_add_right _ _
      rw [hsame] at hframe
      refine ⟨_, _, rfl, ?_⟩
      rw [hF.keeps]
      refine .next hframe hwhole hroom ?_ ?_
      · rwa [htake, hdrop]
      · rw [htake, hdrop]
        exact ⟨hup, rfl, rfl, rfl, Nat.zero_le _, _, rfl, hpos, hmode'⟩
  · have hne : ¬ (t.inS.length : Int) = t.headerSize := by
      rw [hsize]
      omega
    rw [if_neg hne]
    exact ⟨0, t, rfl, .more hsame (fun h => (heager h).1)
      ⟨hup, rfl, rfl, rfl, hroom, size, hsize, by omega, hmode⟩⟩

/-- Some bytes come in. -/
theorem Follows.recv_outcome (hF : Follows setup F Mode) (h : Stands F Mode t done part rest)
    (recv : Recv) (n : Nat)
    (heager : eager → n = 1 ∧ rest ≠ [] ∧ Willing F done (part ++ rest)) {size : Nat}
    (hsize : t.headerSize = size) (hlt : part.length < size) (hmode : Mode t.extraFlags size part) :
    (∃ e, setup.transRecv n (size - part.length) t = .error e ∧
      StepOutcome F Mode eager done part rest (.error e)) ∨
    ∃ t₁ rv t', setup.transRecv n (size - part.length) t = .ok t₁ ∧
      setup.dataIn recv t₁ = .ok (rv, t') ∧
      StepOutcome F Mode eager done part rest (.ok (rv, t')) := by
  obtain ⟨hup, rfl, rfl, rfl, hroom, -⟩ := h
  have htake : t.inS ++ t.sck.take (min n (size - t.inS.length)) ++
      t.sck.drop (min n (size - t.inS.length)) = t.inS ++ t.sck := by
    rw [List.append_assoc, List.take_append_drop]
  have hlen : (t.sck.take (min n (size - t.inS.length))).length =
      min (min n (size - t.inS.length)) t.sck.length := List.length_take
  generalize hk : min n (size - t.inS.length) = k at htake hlen
  unfold Setup.transRecv
  rw [hk]
  dsimp only
  by_cases hcap : t.inS.length + (t.sck.take k).length ≤ setup.inSize
  · rw [if_pos hcap]
    rw [hF.room] at hcap
    have hdata := @Follows.dataIn_outcome _ _ _
      { t with inS := t.inS ++ t.sck.take k, sck := t.sck.drop k } t.inS t.sck eager hF recv size
      hup hsize (by simp only [List.length_append]; omega)
      (by simpa only [List.length_append] using hcap) (hF.append _ hmode) htake
    obtain ⟨rv, t', hrun, hout⟩ := hdata fun h => by
      obtain ⟨hn, hne, hwilling⟩ := heager h
      have hpos := List.length_pos_of_ne_nil hne
      refine ⟨?_, hwilling⟩
      simp only [List.length_drop]
      omega
    exact .inr ⟨_, rv, t', rfl, hrun, hout⟩
  · rw [if_neg hcap]
    rw [hF.room] at hcap
    have hlarge := hF.large t.sck hmode (by omega)
    refine .inl ⟨_, rfl, .overrun hlarge ?_⟩
    rw [List.length_append]
    omega

/-- **A turn of a transport that reads frames** -/
theorem Follows.outcome (hF : Follows setup F Mode) (turn : Turn)
    (h : Stands F Mode t done part rest) :
    StepOutcome F Mode (turn = greedyTurn ∧ rest ≠ [] ∧ Willing F done (part ++ rest)) done part
      rest (setup.transCheckWaitObjs turn t) := by
  obtain ⟨size, hsize, hlt, hmode⟩ := h.wants
  have hsmall := hF.small hmode
  have hread : int (t.headerSize - t.inS.length) = (size - part.length : Nat) := by
    rw [hsize, h.inS, int_eq (by omega) (by omega)]
    omega
  have hwait : (t.inS.length : Int) ≠ t.headerSize := by
    rw [hsize, h.inS]
    omega
  have hin : ∀ recv, setup.dataIn recv t = .ok (0, t) := fun recv => if_neg hwait
  have hsame : ∀ {eager}, ¬ eager → StepOutcome F Mode eager done part rest (.ok (0, t)) :=
    fun hnot => .more rfl (fun h => absurd h hnot) h
  obtain ⟨recv, sendFails⟩ := turn
  unfold Setup.transCheckWaitObjs
  rw [if_neg (not_not.2 h.up)]
  cases recv with
  | none => exact sendWaiting_outcome (hsame (by rintro ⟨⟨⟩, -⟩)) (by rintro ⟨⟨⟩, -⟩)
  | wouldBlock =>
    simp only [and_false, if_false, Run.ok_bind, hin, Bool.false_eq_true]
    exact sendWaiting_outcome (hsame (by rintro ⟨⟨⟩, -⟩)) (by rintro ⟨⟨⟩, -⟩)
  | closed =>
    have hmore : int (t.headerSize - t.inS.length) > 0 := by
      rw [hread]
      omega
    simp only [hmore, and_true, if_true]
    exact .ended one_ne_zero (by rintro ⟨⟨⟩, -⟩)
  | bytes n =>
    simp only [and_false, if_false, hread, Int.toNat_natCast, Bool.false_eq_true]
    have heager : (⟨.bytes n, sendFails⟩ : Turn) = greedyTurn ∧ rest ≠ [] ∧
        Willing F done (part ++ rest) → n = 1 ∧ rest ≠ [] ∧ Willing F done (part ++ rest) := by
      rintro ⟨⟨⟩, hrest⟩
      exact ⟨rfl, hrest⟩
    obtain ⟨e, hrecv, hout⟩ | ⟨t₁, rv, t', hrecv, hdata, hout⟩ :=
      hF.recv_outcome h (.bytes n) n heager hsize hlt hmode
    · rw [hrecv]
      exact hout
    · rw [hrecv, Run.ok_bind, hdata, Run.ok_bind]
      exact sendWaiting_outcome hout (by rintro ⟨⟨⟩, -⟩; rfl)

/-- **It reads frames.** -/
theorem Follows.reads (hF : Follows setup F Mode) :
    Reads F setup.transCheckWaitObjs greedyTurn (Stands F Mode) where
  part h := by
    obtain ⟨size, -, hlt, hmode⟩ := h.wants
    exact ⟨h.room, fun n hn => hlt.trans_le (hF.wanted hmode hn)⟩
  outcome turn h := hF.outcome turn h

end

end Xrdp.Transport
