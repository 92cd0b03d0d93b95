import Xrdp.Encoder.ProcessEnc

/-!
# Every job is acknowledged once, or never

* `AckedOnce` — the results of a job, of which the last one and only that is marked so.
* `ackedOnce_iff` — for which jobs the codecs keep to it.
* `World.Inv` — the results of the jobs go through the queues in order; `inv_step` for each
  action.
* `encoder_acks` — every run.
-/

namespace Xrdp.Encoder

/-! ## The results of a job -/

/-- Of the results of a job the last one, and only that, is marked as the last. -/
def AckedOnce (enc : Nat) (dones : List EncDone) : Prop :=
  ∃ first d, dones = first ++ [d] ∧ d.last = true ∧ (∀ e ∈ first, e.last = false) ∧
    ∀ e ∈ dones, e.enc = enc

/-- A rectangle makes it through the compressor. -/
def Compressed (env : Env) (index : Nat) (r : Rect) : Prop :=
  ¬ (r.outDataBytes < 1 ∨ r.outDataBytes > 16 * 1024 * 1024) ∧ env.malloc index = true ∧
    0 ≤ (env.jpegCompress index r r.outDataBytes).1

/-- The jobs that are answered. -/
def Answers (codec : Codec) (env : Env) (data : EncData) : Prop :=
  match codec with
  | .jpg => (∃ r, data.crects.getLast? = some r ∧ ¬ r.Degenerate) ∧
      ∀ index r, data.crects[index]? = some r → ¬ r.Degenerate → Compressed env index r
  | .rfx => env.newDone = true
  | .h264 => False

/-- The results of a job, with nothing after one that is marked as the last. -/
def Shaped (enc : Nat) (dones : List EncDone) : Prop :=
  (∀ d ∈ dones, d.enc = enc) ∧ dones.Pairwise fun d _ => d.last = false

theorem not_ackedOnce_nil (enc : Nat) : ¬ AckedOnce enc [] := by
  rintro ⟨first, d, h, -⟩
  simp at h

theorem ackedOnce_cons {enc : Nat} {d : EncDone} {dones : List EncDone} :
    AckedOnce enc (d :: dones) ↔
      d.enc = enc ∧ (d.last = true ∧ dones = [] ∨ d.last = false ∧ AckedOnce enc dones) := by
  constructor
  · rintro ⟨first, l, h, hl, hfirst, henc⟩
    refine ⟨henc d List.mem_cons_self, ?_⟩
    cases first with
    | nil =>
      obtain ⟨rfl, rfl⟩ := List.cons.inj h
      exact .inl ⟨hl, rfl⟩
    | cons f first =>
      obtain ⟨rfl, rfl⟩ := List.cons.inj h
      refine .inr ⟨hfirst d List.mem_cons_self, first, l, rfl, hl, ?_, ?_⟩
      · exact fun e he => hfirst e (List.mem_cons_of_mem _ he)
      · exact fun e he => henc e (List.mem_cons_of_mem _ he)
  · rintro ⟨hd, ⟨hl, rfl⟩ | ⟨hl, first, l, rfl, hlast, hfirst, henc⟩⟩
    · exact ⟨[], d, rfl, hl, by simp, by simpa using hd⟩
    · refine ⟨d :: first, l, rfl, hlast, ?_, ?_⟩
      · intro e he
        rcases List.mem_cons.1 he with rfl | he
        · exact hl
        · exact hfirst e he
      · intro e he
        rcases List.mem_cons.1 he with rfl | he
        · exact hd
        · exact henc e he

/-- Results in shape are acknowledged once just if one of them is marked. -/
theorem Shaped.ackedOnce_iff {enc : Nat} {dones : List EncDone} (h : Shaped enc dones) :
    AckedOnce enc dones ↔ ∃ d ∈ dones, d.last = true := by
  induction dones with
  | nil => simp [not_ackedOnce_nil]
  | cons d dones ih =>
    obtain ⟨henc, hpair⟩ := h
    have hcons := List.pairwise_cons.1 hpair
    have ih' := ih ⟨fun e he => henc e (List.mem_cons_of_mem _ he), hcons.2⟩
    rw [ackedOnce_cons, and_iff_right (henc d List.mem_cons_self), ih']
    cases hl : d.last with
    | false => simp [hl]
    | true =>
      have hnil : dones = [] := by
        refine List.eq_nil_iff_forall_not_mem.2 fun e he => ?_
        have hlast := hcons.1 e he
        rw [hl] at hlast
        cases hlast
      simp [hl, hnil]

section

variable {env : Env} {enc numCrects : Nat}

theorem jpgLoop_shaped (index : Nat) (crects : List Rect) (h : index + crects.length = numCrects) :
    Shaped enc (jpgLoop env enc numCrects index crects).2 ∧
      (crects = [] → (jpgLoop env enc numCrects index crects).2 = []) := by
  induction crects generalizing index with
  | nil => exact ⟨⟨by simp [jpgLoop], by simp [jpgLoop]⟩, fun _ => rfl⟩
  | cons r crects ih =>
    have ih' := ih (index + 1) (by rw [List.length_cons] at h; omega)
    have hnil : Shaped enc [] := ⟨by simp, .nil⟩
    refine ⟨?_, nofun⟩
    unfold jpgLoop
    split
    · exact ih'.1
    · split
      · exact hnil
      · split
        · exact hnil
        · dsimp only
          split
          · exact hnil
          · obtain ⟨⟨henc, hpair⟩, hempty⟩ := ih'
            constructor
            · intro d hd
              rcases List.mem_cons.1 hd with rfl | hd
              · rfl
              · exact henc d hd
            · refine List.pairwise_cons.2 ⟨fun e he => ?_, hpair⟩
              have hmore : crects ≠ [] := by
                intro hc
                rw [hempty hc] at he
                cases he
              have hpos := List.length_pos_of_ne_nil hmore
              simp only [List.length_cons] at h
              simp
              omega

/-- **The loop of `process_enc_jpg`** -/
theorem jpgLoop_ackedOnce_iff (index : Nat) (crects : List Rect)
    (h : index + crects.length = numCrects) :
    AckedOnce enc (jpgLoop env enc numCrects index crects).2 ↔
      (∃ r, crects.getLast? = some r ∧ ¬ r.Degenerate) ∧
        ∀ i r, crects[i]? = some r → ¬ r.Degenerate → Compressed env (index + i) r := by
  induction crects generalizing index with
  | nil =>
    refine iff_of_false (not_ackedOnce_nil enc) ?_
    rintro ⟨⟨r, hr, -⟩, -⟩
    cases hr
  | cons r crects ih =>
    rw [List.length_cons] at h
    have ih' := ih (index + 1) (by omega)
    have hall : (∀ i r', (r :: crects)[i]? = some r' → ¬ r'.Degenerate →
        Compressed env (index + i) r') ↔ (¬ r.Degenerate → Compressed env index r) ∧
        ∀ i r', crects[i]? = some r' → ¬ r'.Degenerate → Compressed env (index + 1 + i) r' := by
      constructor
      · intro hc
        refine ⟨fun hr => hc 0 r rfl hr, fun i r' hi hr' => ?_⟩
        have := hc (i + 1) r' (by simpa using hi) hr'
        rwa [show index + 1 + i = index + (i + 1) by omega]
      · rintro ⟨h0, hc⟩ i r' hi hr'
        cases i with
        | zero =>
          obtain rfl : r = r' := by simpa using hi
          exact h0 hr'
        | succ i =>
          have := hc i r' (by simpa using hi) hr'
          rwa [show index + 1 + i = index + (i + 1) by omega] at this
    have hlast : crects ≠ [] → (r :: crects).getLast? = crects.getLast? := by
      intro hmore
      cases crects with
      | nil => exact absurd rfl hmore
      | cons r' crects => exact List.getLast?_cons_cons
    rw [hall]
    unfold jpgLoop
    by_cases hdeg : r.Degenerate
    · rw [if_pos hdeg, ih', and_iff_right fun hr => absurd hdeg hr]
      by_cases hmore : crects = []
      · rw [hmore]
        simp [hdeg]
      · rw [hlast hmore]
    · rw [if_neg hdeg]
      have hfail : ¬ Compressed env index r → ¬ ((∃ r', (r :: crects).getLast? = some r' ∧
          ¬ r'.Degenerate) ∧ (¬ r.Degenerate → Compressed env index r) ∧
          ∀ i r', crects[i]? = some r' → ¬ r'.Degenerate →
            Compressed env (index + 1 + i) r') :=
        fun hc hr => hc (hr.2.1 hdeg)
      split
      · rename_i hsize
        exact iff_of_false (not_ackedOnce_nil enc) (hfail fun hc => hc.1 hsize)
      · rename_i hsize
        split
        · rename_i hmalloc
          refine iff_of_false (not_ackedOnce_nil enc) (hfail fun hc => ?_)
          rw [hc.2.1] at hmalloc
          cases hmalloc
        · rename_i hmalloc
          dsimp only
          split
          · rename_i herror
            exact iff_of_false (not_ackedOnce_nil enc) (hfail fun hc => absurd hc.2.2 (Int.not_le.2 herror))
          · rename_i herror
            have hc : Compressed env index r := ⟨hsize, by simpa using hmalloc, Int.not_lt.1 herror⟩
            rw [ackedOnce_cons, and_iff_right rfl, and_iff_right (fun _ => hc)]
            by_cases hmore : crects = []
            · have hend : index + 1 = numCrects := by simpa [hmore] using h
              have hdones := (@jpgLoop_shaped env enc numCrects (index + 1) crects
                (by omega)).2 hmore
              simp [hmore, hend, hdeg, jpgLoop]
            · have hpos := List.length_pos_of_ne_nil hmore
              have hend : index + 1 ≠ numCrects := by omega
              rw [hlast hmore, ← ih']
              simp [hend]

theorem processEnc_shaped (codec : Codec) (env : Env) (enc : Nat) (data : EncData) :
    Shaped enc (processEnc codec env enc data).2 := by
  cases codec with
  | jpg => exact (jpgLoop_shaped 0 data.crects (Nat.zero_add _)).1
  | rfx =>
    unfold processEnc processEncRfx
    dsimp only
    split
    · exact ⟨by simp, .nil⟩
    · exact ⟨by simp, by simp⟩
  | h264 => exact ⟨by simp [processEnc, processEncH264], .nil⟩

/-- **The results of a job** are as they should be just for the jobs that are answered. -/
theorem ackedOnce_iff (codec : Codec) (env : Env) (enc : Nat) (data : EncData) :
    AckedOnce enc (processEnc codec env enc data).2 ↔ Answers codec env data := by
  cases codec with
  | jpg =>
    have h := @jpgLoop_ackedOnce_iff env enc data.crects.length 0 data.crects (Nat.zero_add _)
    simp only [Nat.zero_add] at h
    exact h
  | rfx =>
    unfold processEnc processEncRfx Answers
    dsimp only
    split
    · rename_i hnew
      refine iff_of_false (not_ackedOnce_nil enc) ?_
      rw [hnew]
      exact nofun
    · rename_i hnew
      refine iff_of_true ?_ (by simpa using hnew)
      exact ackedOnce_cons.2 ⟨rfl, .inl ⟨rfl, rfl⟩⟩
  | h264 => exact iff_of_false (not_ackedOnce_nil enc) id

end

/-! ## Runs -/

section

variable {s : Setup}

/-- The results of the `i`-th job. -/
def Setup.dones (s : Setup) (i : Nat) : List EncDone := (processEnc s.codec (s.env i) i (s.job i)).2

/-- The results of all jobs that have been taken by the encoder thread. -/
def Setup.allDones (s : Setup) (taken : Nat) : List EncDone := (List.range taken).flatMap s.dones

theorem mem_allDones {taken : Nat} {d : EncDone} :
    d ∈ s.allDones taken ↔ d.enc < taken ∧ d ∈ s.dones d.enc := by
  have henc : ∀ {i : Nat}, d ∈ s.dones i → d.enc = i :=
    fun h => (processEnc_shaped _ _ _ _).1 d h
  simp only [Setup.allDones, List.mem_flatMap, List.mem_range]
  constructor
  · rintro ⟨i, hi, hd⟩
    rw [henc hd]
    exact ⟨hi, hd⟩
  · exact fun h => ⟨d.enc, h⟩

/-- After the last result of a job there is none about it. -/
theorem allDones_pairwise (s : Setup) (taken : Nat) :
    (s.allDones taken).Pairwise fun d e => d.last = true → d.enc ≠ e.enc := by
  rw [Setup.allDones, List.pairwise_flatMap]
  constructor
  · intro i _
    refine (processEnc_shaped s.codec (s.env i) i (s.job i)).2.imp fun hd hl => ?_
    rw [hd] at hl
    cases hl
  · refine List.Pairwise.imp_of_mem (fun {i j} _ _ hij d hd e he _ => ?_) List.pairwise_lt_range
    have hdi := (processEnc_shaped s.codec (s.env i) i (s.job i)).1 d hd
    have hej := (processEnc_shaped s.codec (s.env j) j (s.job j)).1 e he
    omega

/-- The results of the jobs go through the queues in order: `gone` is what the main thread has
taken. -/
structure World.Inv (s : Setup) (taken : Nat) (gone : List EncDone) (w : World) : Prop where
  inTurn : taken ≤ w.serial
  waiting : w.fifoToProc = List.range' taken (w.serial - taken)
  results : gone ++ (w.fifoProcessed ++ w.encoding) = s.allDones taken
  acked : w.acked.reverse = (gone.filter (·.last)).map (·.enc)
  freed : ∀ i, w.freed i = true ↔ i ∈ w.acked
  plainAcks : s.useFrameAcks = false →
    w.modFrameAcks = w.acked.map fun i => ((s.job i).flags, (s.job i).frameId)
  sent : s.useFrameAcks = true → ∀ a ∈ w.modFrameAcks, a.2 ≤ w.frameIdServerSent
  rising : s.useFrameAcks = true → w.modFrameAcks.Pairwise fun a b => b.2 < a.2

theorem inv_start (s : Setup) : World.Inv s 0 [] .start where
  inTurn := Nat.le_refl 0
  waiting := rfl
  results := rfl
  acked := rfl
  freed := by simp [World.start]
  plainAcks := fun _ => rfl
  sent := by simp [World.start]
  rising := fun _ => .nil

section

variable {taken : Nat} {gone : List EncDone} {w : World}

theorem mem_acked (h : w.Inv s taken gone) {i : Nat} :
    i ∈ w.acked ↔ ∃ d ∈ gone, d.last = true ∧ d.enc = i := by
  rw [← List.mem_reverse, h.acked]
  simp [and_assoc]

/-- A job with a result that has not been taken yet has not been freed. -/
theorem not_freed (h : w.Inv s taken gone) {d : EncDone}
    (hd : d ∈ w.fifoProcessed ++ w.encoding) : w.freed d.enc = false := by
  rw [Bool.eq_false_iff, ne_eq, h.freed, mem_acked h]
  rintro ⟨e, he, hl, henc⟩
  have hpair := allDones_pairwise s taken
  rw [← h.results, List.pairwise_append] at hpair
  exact hpair.2.2 e he d hd hl henc

/-- What the frame acknowledgements leave alone. -/
theorem updateModuleFrameAck_inv (h : w.Inv s taken gone) (hacks : s.useFrameAcks = true)
    (frameIdClient frameIdServer : Int) :
    World.Inv s taken gone ({ w with frameIdClient, frameIdServer }.updateModuleFrameAck s) := by
  unfold World.updateModuleFrameAck
  split
  · rename_i hcond
    refine ⟨h.inTurn, h.waiting, h.results, h.acked, h.freed, ?_, ?_, ?_⟩
    · intro hno
      rw [hacks] at hno
      cases hno
    · intro _ a ha
      rcases List.mem_cons.1 ha with rfl | ha
      · exact Int.le_refl _
      · exact Int.le_trans (h.sent hacks a ha) (Int.le_of_lt hcond.2)
    · intro _
      exact List.pairwise_cons.2 ⟨fun a ha => Int.lt_of_le_of_lt (h.sent hacks a ha) hcond.2,
        h.rising hacks⟩
  · exact ⟨h.inTurn, h.waiting, h.results, h.acked, h.freed, fun hno => h.plainAcks hno,
      h.sent, h.rising⟩

/-- The last result of a job has been taken. -/
theorem last_inv (h : w.Inv s taken gone) {d : EncDone} {dones : List EncDone}
    (hd : w.fifoProcessed = d :: dones) (hl : d.last = true) {modFrameAcks : List (Int × Int)}
    (hplain : s.useFrameAcks = false →
      modFrameAcks = ((s.job d.enc).flags, (s.job d.enc).frameId) :: w.modFrameAcks)
    (hframe : s.useFrameAcks = true → modFrameAcks = w.modFrameAcks) :
    World.Inv s taken (gone ++ [d]) { w with
      fifoProcessed := dones, acked := d.enc :: w.acked,
      freed := fun i => if i = d.enc then true else w.freed i, modFrameAcks } where
  inTurn := h.inTurn
  waiting := h.waiting
  results := by
    rw [← h.results, hd]
    simp
  acked := by
    rw [List.reverse_cons, h.acked]
    simp [hl]
  freed := by
    intro i
    by_cases hi : i = d.enc
    · simp [hi]
    · simpa [hi] using h.freed i
  plainAcks := by
    intro hno
    rw [hplain hno, h.plainAcks hno, List.map_cons]
  sent := by
    intro hyes
    rw [hframe hyes]
    exact h.sent hyes
  rising := by
    intro hyes
    rw [hframe hyes]
    exact h.rising hyes

/-- Another result has been taken. -/
theorem more_inv (h : w.Inv s taken gone) {d : EncDone} {dones : List EncDone}
    (hd : w.fifoProcessed = d :: dones) (hl : d.last = false) :
    World.Inv s taken (gone ++ [d]) { w with fifoProcessed := dones } where
  inTurn := h.inTurn
  waiting := h.waiting
  results := by
    rw [← h.results, hd]
    simp
  acked := by
    rw [h.acked]
    simp [hl]
  freed := h.freed
  plainAcks := h.plainAcks
  sent := h.sent
  rising := h.rising

/-- **A result is processed**: the job it is about has not been freed. -/
theorem inv_processDone (h : w.Inv s taken gone) {d : EncDone} {dones : List EncDone}
    (hd : w.fifoProcessed = d :: dones) :
    ∃ w', World.processDone s { w with fifoProcessed := dones } d = some w' ∧
      w'.Inv s taken (gone ++ [d]) := by
  have hfree : w.freed d.enc = false := not_freed h (by simp [hd])
  unfold World.processDone
  dsimp only
  rw [if_neg (by simp [hfree])]
  cases hl : d.last with
  | false => exact ⟨_, rfl, more_inv h hd hl⟩
  | true =>
    refine ⟨_, rfl, ?_⟩
    unfold World.ack
    dsimp only
    cases hacks : s.useFrameAcks with
    | false => exact last_inv h hd hl (fun _ => rfl) fun hyes => absurd (hacks.symm.trans hyes) nofun
    | true =>
      have hlast := @last_inv s taken gone w h d dones hd hl w.modFrameAcks
        (fun hno => absurd (hacks.symm.trans hno) nofun) fun _ => rfl
      have hack := updateModuleFrameAck_inv hlast hacks w.frameIdClient (s.job d.enc).frameId
      rw [if_pos rfl]
      unfold World.updateModuleFrameAck at hack ⊢
      dsimp only at hack ⊢
      split
      · rename_i hcond
        rw [if_pos hcond] at hack
        exact hack
      · rename_i hcond
        rw [if_neg hcond] at hack
        exact hack

/-- **The encoder thread takes a job.** -/
theorem inv_encode (h : w.Inv s taken gone) (hidle : w.encoding = []) {enc : Nat}
    {fifoToProc : List Nat} (hq : w.fifoToProc = enc :: fifoToProc) :
    w.freed enc = false ∧
      World.Inv s (taken + 1) gone { w with fifoToProc, encoding := s.dones enc } := by
  have hwait := h.waiting
  have hpos : w.serial - taken ≠ 0 := by
    intro hzero
    rw [hzero, hq] at hwait
    cases hwait
  obtain ⟨n, hn⟩ := Nat.exists_eq_succ_of_ne_zero hpos
  rw [hq, hn, List.range'_succ] at hwait
  obtain ⟨rfl, hrest⟩ := List.cons.inj hwait
  constructor
  · rw [Bool.eq_false_iff, ne_eq, h.freed, mem_acked h]
    rintro ⟨e, he, -, henc⟩
    have hmem : e ∈ s.allDones enc := by
      rw [← h.results]
      exact List.mem_append_left _ he
    have := (mem_allDones.1 hmem).1
    omega
  · have hrange : enc + 1 ≤ w.serial ∧ n = w.serial - (enc + 1) := by omega
    refine ⟨hrange.1, ?_, ?_, h.acked, h.freed, h.plainAcks, h.sent, h.rising⟩
    · rw [hrest, hrange.2]
    · have hres := h.results
      rw [hidle, List.append_nil] at hres
      rw [← List.append_assoc, hres, Setup.allDones, Setup.allDones, List.range_succ,
        List.flatMap_append, List.flatMap_singleton]

/-- **Every action** is possible, and keeps the results in order. -/
theorem inv_step (h : w.Inv s taken gone) (a : Action) :
    ∃ w' taken' gone', w.step s a = some w' ∧ w'.Inv s taken' gone' := by
  cases a with
  | paintRects =>
    refine ⟨_, taken, gone, rfl, ?_, ?_, h.results, h.acked, h.freed, h.plainAcks, h.sent,
      h.rising⟩
    · exact Nat.le_succ_of_le h.inTurn
    · have hlen : w.serial + 1 - taken = w.serial - taken + 1 := by
        have := h.inTurn
        omega
      have hlast : taken + (w.serial - taken) = w.serial := Nat.add_sub_cancel' h.inTurn
      dsimp only
      rw [hlen, List.range'_1_concat, h.waiting, hlast]
  | encode =>
    unfold World.step
    dsimp only
    split
    · rename_i enc fifoToProc hidle hq
      obtain ⟨hfree, hinv⟩ := inv_encode h hidle hq
      rw [if_neg (by simp [hfree])]
      exact ⟨_, _, _, rfl, hinv⟩
    · exact ⟨w, taken, gone, rfl, h⟩
  | queueDone =>
    unfold World.step
    dsimp only
    split
    · exact ⟨w, taken, gone, rfl, h⟩
    · rename_i d encoding henc
      have hfree : w.freed d.enc = false := not_freed h (by simp [henc])
      rw [if_neg (by simp [hfree])]
      refine ⟨_, taken, gone, rfl, h.inTurn, h.waiting, ?_, h.acked, h.freed, h.plainAcks, h.sent,
        h.rising⟩
      rw [← h.results, henc]
      simp
  | processDone =>
    unfold World.step
    dsimp only
    split
    · exact ⟨w, taken, gone, rfl, h⟩
    · rename_i d dones hd
      obtain ⟨w', hw', hinv⟩ := inv_processDone h hd
      exact ⟨w', taken, gone ++ [d], hw', hinv⟩
  | frameAck frameId =>
    refine ⟨_, taken, gone, rfl, ?_⟩
    unfold World.frameAck
    split
    · exact h
    · rename_i hacks
      have hacks : s.useFrameAcks = true := by simpa using hacks
      split
      · exact updateModuleFrameAck_inv h hacks _ _
      · exact updateModuleFrameAck_inv h hacks _ _

theorem inv_run (h : w.Inv s taken gone) (as : List Action) :
    ∃ w' taken' gone', w.run s as = some w' ∧ w'.Inv s taken' gone' := by
  induction as generalizing w taken gone with
  | nil => exact ⟨w, taken, gone, rfl, h⟩
  | cons a as ih =>
    obtain ⟨w₁, taken₁, gone₁, hstep, hinv⟩ := inv_step h a
    obtain ⟨w', taken', gone', hrun, hinv'⟩ := ih hinv
    refine ⟨w', taken', gone', ?_, hinv'⟩
    rw [World.run, List.foldlM_cons, hstep]
    exact hrun

/-- No job is acknowledged twice. -/
theorem acked_nodup (h : w.Inv s taken gone) : w.acked.Nodup := by
  have hpair := allDones_pairwise s taken
  rw [← h.results, List.pairwise_append] at hpair
  rw [← List.nodup_reverse, h.acked, List.nodup_iff_pairwise_ne, List.pairwise_map,
    List.pairwise_filter]
  exact hpair.1.imp fun hde hd _ => hde hd

/-- Neither thread has anything left to do. -/
def World.Quiet (w : World) : Prop :=
  w.fifoToProc = [] ∧ w.encoding = [] ∧ w.fifoProcessed = []

/-- In the end the jobs that are answered have been acknowledged. -/
theorem acked_iff (h : w.Inv s taken gone) (hq : w.Quiet) {i : Nat} (hi : i < w.serial) :
    i ∈ w.acked ↔ Answers s.codec (s.env i) (s.job i) := by
  obtain ⟨hto, henc, hdone⟩ := hq
  have hall : taken = w.serial := by
    have hwait := h.waiting
    rw [hto] at hwait
    have hlen := congrArg List.length hwait
    have := h.inTurn
    simp only [List.length_nil, List.length_range'] at hlen
    omega
  have hgone := h.results
  rw [henc, hdone, List.append_nil, List.append_nil] at hgone
  rw [mem_acked h, hgone, ← ackedOnce_iff s.codec (s.env i) i (s.job i),
    (processEnc_shaped s.codec (s.env i) i (s.job i)).ackedOnce_iff]
  constructor
  · rintro ⟨d, hd, hl, rfl⟩
    exact ⟨d, (mem_allDones.1 hd).2, hl⟩
  · rintro ⟨d, hd, hl⟩
    have hdi := (processEnc_shaped s.codec (s.env i) i (s.job i)).1 d hd
    refine ⟨d, mem_allDones.2 ?_, hl, hdi⟩
    rw [hdi]
    exact ⟨by omega, hd⟩

end

end

/-- **Encoder jobs**: for every job and whatever the compressor does, of the results that are
queued for it exactly one, the final one, is marked as the last just if the job is answered.  In
every run no thread refers to a job that has been freed; no job is acknowledged or freed twice, nor
one without the other, and no frame id is acknowledged twice; and when there is nothing left to do,
the jobs that have been acknowledged are those that are answered. -/
theorem encoder_acks (s : Setup) :
    (∀ i, AckedOnce i (s.dones i) ↔ Answers s.codec (s.env i) (s.job i)) ∧
      ∀ as : List Action, ∃ w, World.start.run s as = some w ∧ w.acked.Nodup ∧
        (∀ i, w.freed i = true ↔ i ∈ w.acked) ∧
        (s.useFrameAcks = false →
          w.modFrameAcks = w.acked.map fun i => ((s.job i).flags, (s.job i).frameId)) ∧
        (s.useFrameAcks = true → w.modFrameAcks.Pairwise fun a b => b.2 < a.2) ∧
        (w.Quiet → ∀ i < w.serial, i ∈ w.acked ↔ Answers s.codec (s.env i) (s.job i)) := by
  refine ⟨fun i => ackedOnce_iff s.codec (s.env i) i (s.job i), fun as => ?_⟩
  obtain ⟨w, taken, gone, hrun, hinv⟩ := inv_run (inv_start s) as
  exact ⟨w, hrun, acked_nodup hinv, hinv.freed, hinv.plainAcks, hinv.rising,
    fun hq i hi => acked_iff hinv hq hi⟩

/-- A compressor that compresses everything. -/
def workingEnv : Env where
  malloc _ := true
  jpegCompress _ _ _ := (64, 100)
  rfxcodecEncode _ _ := (0, 100)
  newDone := true
  width := 64
  height := 64

/-- **A JPEG job whose last rectangle is empty is never acknowledged**: its one result is not
marked as the last.  Nor is a job without rectangles, or any job for H.264. -/
theorem encoder_acks_not_once :
    (processEnc .jpg workingEnv 0 ⟨[], [⟨0, 0, 64, 64⟩, ⟨0, 0, 0, 0⟩], 0, 1⟩).2 =
        [⟨102, 256, 0, false, 0, 0, 64, 64⟩] ∧
      ¬ AckedOnce 0 (processEnc .jpg workingEnv 0 ⟨[], [⟨0, 0, 64, 64⟩, ⟨0, 0, 0, 0⟩], 0, 1⟩).2 ∧
      ¬ AckedOnce 0 (processEnc .jpg workingEnv 0 ⟨[], [], 0, 1⟩).2 ∧
      ¬ AckedOnce 0 (processEnc .h264 workingEnv 0 ⟨[], [⟨0, 0, 64, 64⟩], 0, 1⟩).2 := by
  have hone : (processEnc .jpg workingEnv 0 ⟨[], [⟨0, 0, 64, 64⟩, ⟨0, 0, 0, 0⟩], 0, 1⟩).2 =
      [⟨102, 256, 0, false, 0, 0, 64, 64⟩] := by decide
  refine ⟨hone, ?_, not_ackedOnce_nil 0, not_ackedOnce_nil 0⟩
  rw [hone, ackedOnce_cons]
  simp [not_ackedOnce_nil]

end Xrdp.Encoder
