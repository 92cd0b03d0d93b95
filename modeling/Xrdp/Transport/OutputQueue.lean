import Xrdp.Transport.Trans

/-!
# Nothing is lost on the way out

* `Moved` — what a call does to a transport and to the counters; `moved_sendWaiting` and
  `moved_writeCopyS` for the two functions.
* `World.Inv` — what has been written is what the socket has accepted and what waits, and the
  counters are right; `inv_step` for every event.
* `output_queue` — every run.
-/

namespace Xrdp.Transport

/-! ## One call -/

/-- The bytes that wait and are accounted to `k`. -/
def owed (waitS : List Waiting) (k : Source) : Nat :=
  ((waitS.filter (·.source = some k)).map (·.bytes.length)).sum

/-- No stream that waits is empty, and each is accounted to the source it was written for. -/
structure Trans.Tidy (t : Trans) : Prop where
  nonempty : ∀ v ∈ t.waitS, v.bytes ≠ []
  accounted : ∀ v ∈ t.waitS,
    v.source = if t.Counts v.writtenFor then some v.writtenFor else none

/-- A call has added `bytes` to what is on its way. -/
structure Moved (t : Trans) (si : SourceInfo) (r : Outcome) (bytes : List UInt8) : Prop where
  bytes : r.self.sck ++ r.self.queued = t.sck ++ t.queued ++ bytes
  sameSi : r.self.si = t.si
  sameSource : r.self.mySource = t.mySource
  curSource : r.si.curSource = si.curSource
  source : ∀ k, r.si.source k + Int32.ofNat (owed t.waitS k) =
    si.source k + Int32.ofNat (owed r.self.waitS k)
  tidy : t.Tidy → r.self.Tidy

section

variable {t : Trans} {si : SourceInfo} {r r' : Outcome} {bytes bytes' : List UInt8}

theorem Moved.trans (h : Moved t si r bytes) (h' : Moved r.self r.si r' bytes') :
    Moved t si r' (bytes ++ bytes') where
  bytes := by rw [h'.bytes, h.bytes, List.append_assoc]
  sameSi := h'.sameSi.trans h.sameSi
  sameSource := h'.sameSource.trans h.sameSource
  curSource := h'.curSource.trans h.curSource
  source := by
    intro k
    have h₁ := h.source k
    have h₂ := h'.source k
    grind
  tidy := fun ht => h'.tidy (h.tidy ht)

/-- Nothing happens but a change of the status. -/
theorem Moved.still (rv : Option Int) (status : Status) :
    Moved t si ⟨rv, { t with status }, si⟩ [] where
  bytes := (List.append_nil _).symm
  sameSi := rfl
  sameSource := rfl
  curSource := rfl
  source := fun _ => rfl
  tidy := fun h => ⟨h.nonempty, h.accounted⟩

@[simp] theorem owed_nil (k : Source) : owed [] k = 0 := rfl

@[simp] theorem owed_cons (v : Waiting) (vs : List Waiting) (k : Source) :
    owed (v :: vs) k = (if v.source = some k then v.bytes.length else 0) + owed vs k := by
  by_cases h : v.source = some k
  · simp [owed, h]
  · simp [owed, h]

@[simp] theorem owed_append (vs ws : List Waiting) (k : Source) :
    owed (vs ++ ws) k = owed vs k + owed ws k := by
  simp [owed]

theorem SourceInfo.sub_source (si : SourceInfo) (source : Option Source) (n : Nat) (k : Source) :
    (si.sub source n).source k + Int32.ofNat (if source = some k then n else 0) =
      si.source k := by
  unfold SourceInfo.sub
  cases source with
  | none => simp
  | some j =>
    by_cases h : k = j
    · simp [h]
    · have h' : j ≠ k := fun e => h e.symm
      simp [h, h']

theorem SourceInfo.add_source (si : SourceInfo) (source : Option Source) (n : Nat) (k : Source) :
    (si.add source n).source k =
      si.source k + Int32.ofNat (if source = some k then n else 0) := by
  unfold SourceInfo.add
  cases source with
  | none => simp
  | some j =>
    by_cases h : k = j
    · simp [h]
    · have h' : j ≠ k := fun e => h e.symm
      simp [h, h']

theorem SourceInfo.sub_curSource (si : SourceInfo) (source : Option Source) (n : Nat) :
    (si.sub source n).curSource = si.curSource := by
  cases source with
  | none => rfl
  | some k => rfl

theorem SourceInfo.add_curSource (si : SourceInfo) (source : Option Source) (n : Nat) :
    (si.add source n).curSource = si.curSource := by
  cases source with
  | none => rfl
  | some k => rfl

/-- The socket accepts bytes of the first stream that waits. -/
theorem moved_advance {tempS : Waiting} {next : List Waiting} (hw : t.waitS = tempS :: next)
    {sent : Nat} (hsent : sent ≤ tempS.bytes.length) (rv : Option Int) :
    Moved t si ⟨rv, { t with
      sck := t.sck ++ tempS.bytes.take sent, waitS := advance tempS sent next },
      si.sub tempS.source sent⟩ [] where
  bytes := by
    unfold advance
    split
    · rename_i hall
      have htake : tempS.bytes.take sent = tempS.bytes := List.take_of_length_le hall
      simp [Trans.queued, hw, htake]
    · simp only [Trans.queued, hw, List.flatMap_cons, List.append_nil, List.append_assoc]
      rw [← List.append_assoc (tempS.bytes.take sent), List.take_append_drop]
  sameSi := rfl
  sameSource := rfl
  curSource := si.sub_curSource _ _
  source := by
    intro k
    have hsub := si.sub_source tempS.source sent k
    have howed : owed (advance tempS sent next) k + (if tempS.source = some k then sent else 0) =
        owed t.waitS k := by
      rw [hw, owed_cons]
      unfold advance
      split
      · split
        · omega
        · omega
      · rw [owed_cons, List.length_drop]
        dsimp only
        split
        · omega
        · omega
    rw [← hsub, ← howed, Int32.ofNat_add]
    grind
  tidy := by
    intro ht
    have hmem : ∀ v ∈ advance tempS sent next, v.bytes ≠ [] ∧
        ∃ v' ∈ t.waitS, v'.source = v.source ∧ v'.writtenFor = v.writtenFor := by
      intro v hv
      rw [hw]
      unfold advance at hv
      split at hv
      · exact ⟨ht.nonempty v (by rw [hw]; exact List.mem_cons_of_mem _ hv), v,
          List.mem_cons_of_mem _ hv, rfl, rfl⟩
      · rename_i hmore
        rcases List.mem_cons.1 hv with rfl | hv
        · refine ⟨?_, tempS, List.mem_cons_self, rfl, rfl⟩
          simpa using hmore
        · exact ⟨ht.nonempty v (by rw [hw]; exact List.mem_cons_of_mem _ hv), v,
            List.mem_cons_of_mem _ hv, rfl, rfl⟩
    constructor
    · exact fun v hv => (hmem v hv).1
    · intro v hv
      obtain ⟨-, v', hv', hsource, hfor⟩ := hmem v hv
      rw [← hsource, ← hfor]
      exact ht.accounted v' hv'

/-- **`trans_send_waiting`** adds nothing, and loses nothing. -/
theorem moved_sendWaiting (block : Bool) (answers : List Answer) (t : Trans)
    (si : SourceInfo) : Moved t si (transSendWaiting block answers t si) [] := by
  induction answers generalizing t si with
  | nil =>
    unfold transSendWaiting
    split
    · exact .still _ _
    · exact .still _ _
  | cons answer answers ih =>
    unfold transSendWaiting
    split
    · exact .still _ _
    · rename_i tempS next hw
      cases answer with
      | room n =>
        dsimp only
        split
        · have hadv := @moved_advance t si tempS next hw _ (Nat.min_le_right n _)
          split
          · exact (hadv none).trans (ih _ _)
          · exact hadv (some 0)
        · exact .still _ _
      | wouldBlock =>
        dsimp only
        split
        · exact ih _ _
        · exact .still _ _
      | fails => exact .still _ _
      | cannotSend term =>
        dsimp only
        split
        · split
          · exact .still _ _
          · exact ih _ _
        · exact .still _ _

/-- A copy of what is left waits behind the others. -/
theorem moved_enqueue (outData : List UInt8) :
    Moved t si (t.enqueue si outData) outData := by
  unfold Trans.enqueue
  split
  · rename_i hempty
    obtain rfl : outData = [] := List.length_eq_zero_iff.1 (by omega)
    exact .still _ _
  · rename_i hmore
    refine ⟨?_, rfl, rfl, si.add_curSource _ _, ?_, ?_⟩
    · simp [Trans.queued]
    · intro k
      rw [si.add_source]
      dsimp only
      rw [owed_append, owed_cons, owed_nil, Int32.ofNat_add]
      dsimp only
      grind
    · intro ht
      constructor
      · intro v hv
        rcases List.mem_append.1 hv with hv | hv
        · exact ht.nonempty v hv
        · obtain rfl := List.mem_singleton.1 hv
          exact List.ne_nil_of_length_pos (by dsimp only; omega)
      · intro v hv
        rcases List.mem_append.1 hv with hv | hv
        · exact ht.accounted v hv
        · obtain rfl := List.mem_singleton.1 hv
          rfl

/-- The socket accepts new bytes, as nothing waits. -/
theorem moved_direct (hw : t.waitS = []) (rv : Option Int) (bytes : List UInt8) :
    Moved t si ⟨rv, { t with sck := t.sck ++ bytes }, si⟩ bytes where
  bytes := by simp [Trans.queued, hw]
  sameSi := rfl
  sameSource := rfl
  curSource := rfl
  source := fun _ => rfl
  tidy := fun h => ⟨h.nonempty, h.accounted⟩

theorem enqueue_rv (outData : List UInt8) : (t.enqueue si outData).rv = some 0 := by
  unfold Trans.enqueue
  split
  · rfl
  · rfl

/-- **`trans_write_copy_s`** adds its message if it returns 0, and nothing else. -/
theorem moved_writeCopyS (t : Trans) (si : SourceInfo) (outS : List UInt8)
    (waiting fresh : Answer) :
    Moved t si (transWriteCopyS t si outS waiting fresh)
      (if (transWriteCopyS t si outS waiting fresh).rv = some 0 then outS else []) := by
  have hsend := moved_sendWaiting false [waiting] t si
  unfold transWriteCopyS
  split
  · exact .still _ _
  · dsimp only
    split
    · exact hsend.trans (.still _ _)
    · have hcopy : Moved t si ((transSendWaiting false [waiting] t si).self.enqueue
          (transSendWaiting false [waiting] t si).si outS) outS :=
        hsend.trans (moved_enqueue outS)
      split
      · rename_i hempty
        have hw := List.isEmpty_iff.1 hempty
        cases fresh with
        | cannotSend term =>
          dsimp only
          rw [if_pos (enqueue_rv _)]
          exact hcopy
        | wouldBlock =>
          dsimp only
          rw [if_pos (enqueue_rv _)]
          exact hcopy
        | fails => exact hsend.trans (.still _ _)
        | room n =>
          dsimp only
          split
          · rw [if_pos (enqueue_rv _)]
            have hdirect := hsend.trans
              (@moved_direct _ (transSendWaiting false [waiting] t si).si hw none
                (outS.take (min n outS.length)))
            have hrest := hdirect.trans (moved_enqueue (outS.drop (min n outS.length)))
            rw [List.nil_append, List.take_append_drop] at hrest
            exact hrest
          · exact hsend.trans (.still _ _)
      · rw [if_pos (enqueue_rv _)]
        exact hcopy

end

/-! ## Nothing but partial sends -/

section

variable {t : Trans} {si : SourceInfo}

/-- No call but a failing one changes the status. -/
theorem sendWaiting_status (block : Bool) (answers : List Answer) (t : Trans) (si : SourceInfo) :
    (transSendWaiting block answers t si).self.status = t.status := by
  induction answers generalizing t si with
  | nil =>
    unfold transSendWaiting
    split
    · rfl
    · rfl
  | cons answer answers ih =>
    unfold transSendWaiting
    split
    · rfl
    · cases answer with
      | room n =>
        dsimp only
        split
        · split
          · exact ih _ _
          · rfl
        · rfl
      | wouldBlock =>
        dsimp only
        split
        · exact ih _ _
        · rfl
      | fails => rfl
      | cannotSend term =>
        dsimp only
        split
        · split
          · rfl
          · exact ih _ _
        · rfl

/-- Trying once fails only if the socket does. -/
theorem sendWaiting_live (ht : t.Tidy) {answer : Answer} (ha : answer.Live) :
    (transSendWaiting false [answer] t si).rv = some 0 := by
  unfold transSendWaiting
  split
  · rfl
  · rename_i tempS next hw
    cases answer with
    | room n =>
      have hpos := List.length_pos_of_ne_nil (ht.nonempty tempS (by simp [hw]))
      have hn : 0 < n := ha
      dsimp only
      rw [if_pos (by omega)]
      rfl
    | wouldBlock => rfl
    | fails => cases ha
    | cannotSend term => rfl

theorem enqueue_status (outData : List UInt8) :
    (t.enqueue si outData).self.status = t.status := by
  unfold Trans.enqueue
  split
  · rfl
  · rfl

/-- A message is written, unless there is nothing in it. -/
theorem writeCopyS_live (ht : t.Tidy) (hup : t.status = .UP) {outS : List UInt8}
    {waiting fresh : Answer} (hw : waiting.Live) (hf : fresh.Live) :
    (transWriteCopyS t si outS waiting fresh).self.status = .UP ∧
      ((transWriteCopyS t si outS waiting fresh).rv = some 0 ∨ outS = []) := by
  have hstatus := sendWaiting_status false [waiting] t si
  unfold transWriteCopyS
  rw [if_neg (not_not.2 hup)]
  dsimp only
  rw [if_neg (not_not.2 (sendWaiting_live ht hw))]
  rw [hup] at hstatus
  have hcopy : ∀ {t' : Trans} {si' : SourceInfo} {outData : List UInt8}, t'.status = .UP →
      (t'.enqueue si' outData).self.status = .UP ∧
        ((t'.enqueue si' outData).rv = some 0 ∨ outS = []) := by
    intro t' si' outData h
    exact ⟨(enqueue_status outData).trans h, .inl (enqueue_rv outData)⟩
  split
  · cases fresh with
    | cannotSend term => exact hcopy hstatus
    | wouldBlock => exact hcopy hstatus
    | fails => cases hf
    | room n =>
      have hn : 0 < n := hf
      dsimp only
      split
      · exact hcopy hstatus
      · rename_i hnone
        refine ⟨hstatus, .inr (List.length_eq_zero_iff.1 ?_)⟩
        omega
  · exact hcopy hstatus

end

/-! ## Runs -/

section

variable {ι : Type} [DecidableEq ι] [Fintype ι]

/-- What is on its way, and what is counted. -/
structure World.Inv (w : World ι) : Prop where
  bytes : ∀ i, (w.trans i).sck ++ (w.trans i).queued = w.written i
  tidy : ∀ i, (w.trans i).Tidy
  source : ∀ k, w.si.source k = Int32.ofNat (∑ i, owed (w.trans i).waitS k)

theorem sum_update (f : ι → Nat) (i : ι) (v : Nat) :
    ∑ j, Function.update f i v j + f i = ∑ j, f j + v := by
  have hf := Finset.sum_erase_add Finset.univ f (Finset.mem_univ i)
  rw [Finset.sum_update_of_mem (Finset.mem_univ i), Finset.sdiff_singleton_eq_erase]
  omega

/-- A call keeps the counters right. -/
theorem source_put {w : World ι} (hw : w.Inv) {i : ι} {r : Outcome} {bytes : List UInt8}
    (h : Moved (w.trans i) w.si r bytes) (k : Source) :
    (w.put i r).si.source k = Int32.ofNat (∑ j, owed ((w.put i r).trans j).waitS k) := by
  have hsum := sum_update (fun j => owed (w.trans j).waitS k) i (owed r.self.waitS k)
  have hput : (fun j => owed ((w.put i r).trans j).waitS k) =
      Function.update (fun j => owed (w.trans j).waitS k) i (owed r.self.waitS k) := by
    funext j
    by_cases hj : j = i
    · simp [World.put, hj]
    · simp [World.put, hj]
  have hsource := h.source k
  rw [hw.source k, ← Int32.ofNat_add, ← hsum, Int32.ofNat_add] at hsource
  rw [hput]
  exact (Int32.add_left_inj _).1 hsource

theorem tidy_put {w : World ι} (hw : w.Inv) {i : ι} {r : Outcome} {bytes : List UInt8}
    (h : Moved (w.trans i) w.si r bytes) (j : ι) : ((w.put i r).trans j).Tidy := by
  by_cases hj : j = i
  · rw [hj]
    simpa [World.put] using h.tidy (hw.tidy i)
  · simpa [World.put, hj] using hw.tidy j

/-- **A call** that adds what it has been asked to if it returns 0. -/
theorem inv_wrote {w : World ι} (hw : w.Inv) {i : ι} {outS : List UInt8} {r : Outcome}
    (h : Moved (w.trans i) w.si r (if r.rv = some 0 then outS else [])) :
    (w.wrote i outS r).Inv where
  bytes := by
    intro j
    by_cases hj : j = i
    · have hb := h.bytes
      rw [hw.bytes i] at hb
      rw [hj]
      simp only [World.wrote, World.put, Function.update_self, hb]
      split
      · simp
      · simp
    · have hb := hw.bytes j
      simp only [World.wrote, World.put, Function.update_of_ne hj, hb]
      split
      · simp [hj]
      · rfl
  tidy := tidy_put hw h
  source := source_put hw h

/-- **Every event** keeps the bytes and the counters right. -/
theorem inv_step {w : World ι} (hw : w.Inv) (e : Event ι) : (w.step e).Inv := by
  cases e with
  | curSource k => exact ⟨hw.bytes, hw.tidy, hw.source⟩
  | outStream i data =>
    have h : ∀ j, ∃ outS, (w.step (.outStream i data)).trans j = { w.trans j with outS } := by
      intro j
      by_cases hj : j = i
      · exact ⟨data, by simp [World.step, hj]⟩
      · exact ⟨(w.trans j).outS, by simp [World.step, hj]⟩
    refine ⟨fun j => ?_, fun j => ?_, fun k => ?_⟩
    · obtain ⟨outS, hj⟩ := h j
      rw [hj]
      exact hw.bytes j
    · obtain ⟨outS, hj⟩ := h j
      rw [hj]
      exact ⟨(hw.tidy j).nonempty, (hw.tidy j).accounted⟩
    · have hsame : ∀ j, owed ((w.step (.outStream i data)).trans j).waitS k =
          owed (w.trans j).waitS k := by
        intro j
        obtain ⟨outS, hj⟩ := h j
        rw [hj]
      simp only [hsame]
      exact hw.source k
  | sendWaiting i block answers =>
    have h := moved_sendWaiting block answers (w.trans i) w.si
    refine ⟨fun j => ?_, tidy_put hw h, source_put hw h⟩
    by_cases hj : j = i
    · have hb := h.bytes
      rw [hw.bytes i, List.append_nil] at hb
      rw [hj]
      simpa [World.step, World.put] using hb
    · simpa [World.step, World.put, hj] using hw.bytes j
  | writeCopyS i outS waiting fresh => exact inv_wrote hw (moved_writeCopyS _ _ _ _ _)
  | writeCopy i waiting fresh => exact inv_wrote hw (moved_writeCopyS _ _ _ _ _)

theorem inv_run {w : World ι} (hw : w.Inv) (es : List (Event ι)) : (w.run es).Inv := by
  induction es generalizing w with
  | nil => exact hw
  | cons e es ih => exact ih (inv_step hw e)

omit [DecidableEq ι] in
theorem inv_start (curSource : Source) (si : ι → Bool) (mySource : ι → Source) :
    (World.start curSource si mySource).Inv where
  bytes := fun i => rfl
  tidy := fun i => ⟨by simp [World.start], by simp [World.start]⟩
  source := fun k => by simp [World.start]

/-- Whatever has been asked for has been written. -/
structure World.Up (w : World ι) : Prop where
  status : ∀ i, (w.trans i).status = .UP
  all : w.written = w.asked

theorem up_step {w : World ι} (hw : w.Inv) (hup : w.Up) {e : Event ι} (he : e.Live) :
    (w.step e).Up := by
  have hput : ∀ {i : ι} {r : Outcome}, r.self.status = .UP →
      ∀ j, ((w.put i r).trans j).status = .UP := by
    intro i r hr j
    by_cases hj : j = i
    · simpa [World.put, hj] using hr
    · simpa [World.put, hj] using hup.status j
  have hwrote : ∀ {i : ι} {outS : List UInt8} {r : Outcome},
      r.self.status = .UP ∧ (r.rv = some 0 ∨ outS = []) → (w.wrote i outS r).Up := by
    rintro i outS r ⟨hr, h | h⟩
    · refine ⟨hput hr, ?_⟩
      simp [World.wrote, h, hup.all]
    · refine ⟨hput hr, ?_⟩
      simp [World.wrote, h, hup.all]
  cases e with
  | curSource k => exact ⟨hup.status, hup.all⟩
  | outStream i data =>
    refine ⟨fun j => ?_, hup.all⟩
    by_cases hj : j = i
    · simpa [World.step, hj] using hup.status i
    · simpa [World.step, hj] using hup.status j
  | sendWaiting i block answers =>
    exact ⟨hput ((sendWaiting_status _ _ _ _).trans (hup.status i)), hup.all⟩
  | writeCopyS i outS waiting fresh =>
    exact hwrote (writeCopyS_live (hw.tidy i) (hup.status i) he.1 he.2)
  | writeCopy i waiting fresh =>
    exact hwrote (writeCopyS_live (hw.tidy i) (hup.status i) he.1 he.2)

theorem up_run {w : World ι} (hw : w.Inv) (hup : w.Up) {es : List (Event ι)}
    (hes : ∀ e ∈ es, e.Live) : (w.run es).Up := by
  induction es generalizing w with
  | nil => exact hup
  | cons e es ih =>
    exact ih (inv_step hw e) (up_step hw hup (hes e List.mem_cons_self))
      fun e' he' => hes e' (List.mem_cons_of_mem _ he')

/-- What is accounted to `k` is what `k` has written elsewhere. -/
theorem owed_eq_unsent {t : Trans} (ht : t.Tidy) (k : Source) :
    owed t.waitS k = if t.Counts k then t.unsent k else 0 := by
  have hfor : ∀ v ∈ t.waitS, v.source = some k ↔ v.writtenFor = k ∧ t.Counts k := by
    intro v hv
    rw [ht.accounted v hv]
    split
    · rename_i hc
      rw [Option.some.injEq]
      constructor
      · rintro rfl
        exact ⟨rfl, hc⟩
      · exact fun h => h.1
    · rename_i hc
      constructor
      · exact nofun
      · rintro ⟨rfl, h⟩
        exact absurd h hc
  unfold owed Trans.unsent
  split
  · rename_i hc
    congr 2
    exact List.filter_congr fun v hv => by simp [hfor v hv, hc]
  · rename_i hc
    rw [List.filter_eq_nil_iff.2 fun v hv => by simp [hfor v hv, hc]]
    rfl

end

/-- **The output queue** of the transports of a session, whatever their sockets do: what has been
written is what the socket has accepted and then what waits, in this order; each counter is the
number of bytes, in 32 bits, that wait on behalf of the source in the transports of others; and
all messages have been written if the sockets do nothing worse than accept part of what they are
given, or nothing for now. -/
theorem output_queue {ι : Type} [DecidableEq ι] [Fintype ι] (curSource : Source) (si : ι → Bool)
    (mySource : ι → Source) (es : List (Event ι)) :
    let w := (World.start curSource si mySource).run es
    (∀ i, (w.trans i).sck ++ (w.trans i).queued = w.written i) ∧
      (∀ k, (w.si.source k).toInt = (w.unsentElsewhere k : Int).bmod (2 ^ 32)) ∧
      ((∀ e ∈ es, e.Live) → w.written = w.asked) := by
  dsimp only
  have hinv := inv_run (inv_start curSource si mySource) es
  refine ⟨hinv.bytes, fun k => ?_, fun hes => ?_⟩
  · have howed : ∑ i, owed (((World.start curSource si mySource).run es).trans i).waitS k =
        ((World.start curSource si mySource).run es).unsentElsewhere k :=
      Finset.sum_congr rfl fun i _ => owed_eq_unsent (hinv.tidy i) k
    rw [hinv.source k, howed, Int32.toInt_ofNat']
    rfl
  · exact (up_run (inv_start curSource si mySource) ⟨fun i => rfl, rfl⟩ hes).all

/-- **What a source writes to its own transport is not counted**: one byte waits. -/
theorem output_queue_own_source :
    let es : List (Event Unit) := [.writeCopyS () [0x61] .wouldBlock .wouldBlock]
    let w := (World.start XRDP_SOURCE_CLIENT (fun _ => true) fun _ => XRDP_SOURCE_CLIENT).run es
    (∀ e ∈ es, e.Live) ∧ w.unsent XRDP_SOURCE_CLIENT = 1 ∧
      (w.si.source XRDP_SOURCE_CLIENT).toInt = 0 := by
  refine ⟨?_, rfl, rfl⟩
  intro e he
  obtain rfl := List.mem_singleton.1 he
  exact ⟨trivial, trivial⟩

end Xrdp.Transport
