import Xrdp.Lib.RingQueue
import Xrdp.Lib.Runs
import Xrdp.Lib.Wire

/-!
# The microphone

The client sends what it records in packets, which `sesman/chansrv/sound.c` keeps in a FIFO
(`sesman/chansrv/fifo.c`) until the sound server asks for some bytes.  One packet of which only a part has been asked
for is kept aside.

* `Fifo.insert`, `Fifo.remove` — the FIFO, which grows when it is full; `Fifo.Holds` — as a queue.
* `Mic.sendData` — the answer to the sound server.
* `Mic.step` — packets, commands, and what becomes of the channel.
* `microphone_right` — every answer is well formed, and the answers since a start are the beginning of
  what has been sent since, if at the start no packet is aside and the FIFO is cleared.
-/

namespace Xrdp.Chansrv.Microphone

open Function Runs Wire

/-! ## The FIFO -/

/-- `FIFO`. -/
structure Fifo (α : Type) where
  rdPtr : Nat
  wrPtr : Nat
  entries : Nat
  userData : Nat → Option α

namespace Fifo

variable {α : Type}

/-- `fifo_init`. -/
def init (numEntries : Nat) : Fifo α where
  rdPtr := 0
  wrPtr := 0
  entries := if numEntries < 1 then 10 else numEntries
  userData := fun _ => none

/-- The loop of `fifo_insert` that copies so many entries, the first to the place `i`. -/
def copy (userData : Nat → Option α) (entries : Nat) : Nat → Nat → Nat → (Nat → Option α) → Nat → Option α
  | 0, _, _, lp => lp
  | n + 1, i, rdPtr, lp =>
    copy userData entries n (i + 1) (if rdPtr + 1 ≥ entries then 0 else rdPtr + 1)
      (update lp i (userData rdPtr))

/-- `fifo_insert`. -/
def insert (fp : Fifo α) (data : α) : Fifo α :=
  let nextVal := if fp.wrPtr + 1 ≥ fp.entries then 0 else fp.wrPtr + 1
  if nextVal = fp.rdPtr then
    { rdPtr := 0
      wrPtr := fp.entries
      entries := fp.entries + 10
      userData :=
        update (copy fp.userData fp.entries (fp.entries - 1) 0 fp.rdPtr fun _ => none) (fp.entries - 1)
          (some data) }
  else { fp with wrPtr := nextVal, userData := update fp.userData fp.wrPtr (some data) }

/-- `fifo_remove`. -/
def remove (fp : Fifo α) : Option α × Fifo α :=
  if fp.rdPtr = fp.wrPtr then (none, fp)
  else (fp.userData fp.rdPtr, { fp with rdPtr := if fp.rdPtr + 1 ≥ fp.entries then 0 else fp.rdPtr + 1 })

/-- The loop that discards what is in the FIFO, with so many steps at most. -/
def discard : Nat → Fifo α → Option (Fifo α)
  | n, fp => match fp.remove.1, n with
    | none, _ => some fp.remove.2
    | some _, 0 => none
    | some _, n + 1 => discard n fp.remove.2

/-- The FIFO holds a queue. -/
structure Holds (fp : Fifo α) (L : List α) : Prop where
  ring : RingQueue.Holds fp.userData fp.entries fp.rdPtr L
  wr : fp.wrPtr = RingQueue.slot fp.rdPtr L.length fp.entries

theorem copy_eq (userData : Nat → Option α) {entries rd : Nat} (hrd : rd < entries) (n i : Nat) (hn : i + n ≤ entries)
    (lp : Nat → Option α) :
    ∀ k, copy userData entries n i (RingQueue.slot rd i entries) lp k =
      if i ≤ k ∧ k < i + n then userData (RingQueue.slot rd k entries) else lp k := by
  induction n generalizing i lp with
  | zero =>
    intro k
    rw [if_neg (by omega)]
    rfl
  | succ n ih =>
    intro k
    rw [copy, RingQueue.slot_next hrd (by omega), ih (i + 1) (by omega)]
    by_cases hk : k = i
    · subst hk
      rw [if_neg (by omega), if_pos (by omega), update_self]
    · rw [update_of_ne hk]
      exact ite_congr (propext (by omega)) (fun _ => rfl) fun _ => rfl

/-- `fifo_insert` puts an element in at the end. -/
theorem Holds.insert {fp : Fifo α} {L : List α} (h : fp.Holds L) (data : α) :
    (fp.insert data).Holds (L ++ [data]) := by
  have hrd := h.ring.rd_lt
  have hroom := h.ring.room
  have hnext := RingQueue.slot_next hrd hroom
  unfold Fifo.insert
  dsimp only
  rw [h.wr, hnext]
  by_cases hfull : RingQueue.slot fp.rdPtr (L.length + 1) fp.entries = fp.rdPtr
  · -- all places are used but one
    have hlength : L.length = fp.entries - 1 := by
      unfold RingQueue.slot at hfull
      split_ifs at hfull <;> omega
    have hcopied := h.ring.copied
      (copy fp.userData fp.entries (fp.entries - 1) 0 fp.rdPtr fun _ => none) 10 fun k hk => by
        have hcopy := copy_eq fp.userData hrd (fp.entries - 1) 0 (by omega) (fun _ => none) k
        rw [RingQueue.slot_zero hrd, if_pos (by omega)] at hcopy
        exact hcopy
    have hpush := hcopied.push (by omega) data
    have hslot : RingQueue.slot 0 L.length (fp.entries + 10) = fp.entries - 1 := by
      unfold RingQueue.slot
      split_ifs <;> omega
    rw [if_pos hfull]
    rw [hslot] at hpush
    refine ⟨hpush, ?_⟩
    simp only [RingQueue.slot, List.length_append, List.length_cons, List.length_nil]
    split_ifs <;> omega
  · have hlength : L.length + 1 < fp.entries := by
      unfold RingQueue.slot at hfull
      split_ifs at hfull <;> omega
    rw [if_neg hfull]
    exact ⟨h.ring.push hlength data, by rw [List.length_append]; rfl⟩

/-- `fifo_remove` of an empty FIFO. -/
theorem Holds.remove_nil {fp : Fifo α} (h : fp.Holds []) : fp.remove = (none, fp) := by
  have hwr : fp.rdPtr = fp.wrPtr := by
    rw [h.wr]
    exact (RingQueue.slot_zero h.ring.rd_lt).symm
  exact if_pos hwr

/-- `fifo_remove` takes out the first element. -/
theorem Holds.remove_cons {fp : Fifo α} {x : α} {L : List α} (h : fp.Holds (x :: L)) :
    fp.remove.1 = some x ∧ fp.remove.2.Holds L := by
  have hrd := h.ring.rd_lt
  have hroom := h.ring.room
  rw [List.length_cons] at hroom
  have hwr : fp.rdPtr ≠ fp.wrPtr := by
    have hne := @RingQueue.slot_ne fp.entries fp.rdPtr 0 (L.length + 1) (Nat.succ_pos _) hroom
    rw [RingQueue.slot_zero hrd] at hne
    rwa [h.wr]
  unfold Fifo.remove
  rw [if_neg hwr]
  refine ⟨h.ring.head, h.ring.pop, ?_⟩
  rw [RingQueue.slot_tail hrd hroom]
  exact h.wr

theorem discard_of_holds {fp : Fifo α} {L : List α} (h : fp.Holds L) {n : Nat} (hn : L.length ≤ n) :
    ∃ fp', fp.discard n = some fp' ∧ fp'.Holds [] := by
  induction L generalizing fp n with
  | nil =>
    unfold discard
    rw [h.remove_nil]
    exact ⟨fp, by cases n <;> rfl, h⟩
  | cons x L ih =>
    obtain ⟨n, rfl⟩ : ∃ m, n = m + 1 := ⟨n - 1, by rw [List.length_cons] at hn; omega⟩
    obtain ⟨hx, hrest⟩ := h.remove_cons
    unfold discard
    rw [hx]
    exact ih hrest (by simpa using hn)

end Fifo

/-! ## The data -/

/-- The state of the microphone. -/
structure Mic where
  /-- `g_in_fifo`. -/
  inFifo : Fifo (List UInt8)
  /-- `g_stream_inp` and `g_bytes_in_stream`. -/
  streamInp : Option (List UInt8)
  bytesInStream : Nat
  /-- `g_rdpsnd_can_rec`. -/
  canRec : Bool
  /-- `g_audin_chanid`. -/
  audinChanid : Nat
  /-- What the client has sent since the last start, and what the sound server has got. -/
  sent : List UInt8
  got : List UInt8

namespace Mic

/-- After `sound_init` and `audin_init`. -/
def init : Mic where
  inFifo := .init 100
  streamInp := none
  bytesInStream := 0
  canRec := false
  audinChanid := 0
  sent := []
  got := []

/-- `sound_process_input_data` and `audin_process_data`. -/
def processInputData (s : Mic) (bytes : List UInt8) : Mic :=
  { s with inFifo := s.inFifo.insert bytes, sent := s.sent ++ bytes }

/-- The loop of `sound_sndsrvr_source_data_in`, with so many steps at most. -/
def sendLoop : Nat → Mic → Nat → Nat → List UInt8 → Option (Mic × Nat × List UInt8)
  | n, s, bytesReq, bytesRead, out =>
    if bytesRead < bytesReq then
      let s := if s.streamInp = none then
        { s with streamInp := s.inFifo.remove.1, inFifo := s.inFifo.remove.2 } else s
      match s.streamInp, n with
      | none, _ => some (s, bytesRead, out)
      | some _, 0 => none
      | some inp, n + 1 =>
        let bytesInStream := if s.bytesInStream = 0 then inp.length else s.bytesInStream
        let i := bytesReq - bytesRead
        if i < bytesInStream then
          sendLoop n { s with bytesInStream := bytesInStream - i } bytesReq (bytesRead + i)
            (out ++ (inp.drop (inp.length - bytesInStream)).take i)
        else
          sendLoop n { s with bytesInStream := 0, streamInp := none } bytesReq (bytesRead + bytesInStream)
            (out ++ (inp.drop (inp.length - bytesInStream)).take bytesInStream)
    else some (s, bytesRead, out)

/-- The answer to `PA_CMD_SEND_DATA`. -/
def sendData (s : Mic) (bytesReq : UInt16) : Option (Mic × List UInt8) :=
  (sendLoop (s.inFifo.entries + 1) s bytesReq.toNat 0 (leBytes 2 0)).map fun (s, bytesRead, out) =>
    ({ s with got := s.got ++ out.drop 2 },
      if bytesRead ≠ 0 then (out.set 0 (UInt8.ofNat (bytesRead % 256))).set 1 (UInt8.ofNat (bytesRead / 256 % 256))
      else out)

/-- `sound_input_start_recording`. -/
def startRecording (s : Mic) : Option Mic :=
  (s.inFifo.discard s.inFifo.entries).map fun inFifo => { s with inFifo := inFifo }

/-- `audin_start`; `opened` is what is found in `g_audin_chanid` after `chansrv_drdynvc_open`. -/
def audinStart (s : Mic) (opened : Nat) : Option Mic :=
  if s.audinChanid ≠ 0 then some s
  else (s.inFifo.discard s.inFifo.entries).map fun inFifo => { s with inFifo := inFifo, audinChanid := opened }

/-- `sound_sndsrvr_source_data_in`: `PA_CMD_START_REC`, `PA_CMD_STOP_REC` and `PA_CMD_SEND_DATA`. -/
def sourceDataIn (s : Mic) (cmd : UInt8) (bytesReq : UInt16) (opened : Nat) : Option Mic :=
  if cmd = 3 then (s.sendData bytesReq).map Prod.fst
  else if cmd = 1 then
    (if s.canRec then s.startRecording else s.audinStart opened).map fun s => { s with sent := [], got := [] }
  else some s

end Mic

/-- A packet of the client, a command of the sound server, the input formats, and the end of the
dynamic channel. -/
inductive Event where
  | recorded (bytes : List UInt8)
  | command (cmd : UInt8) (bytesReq : UInt16) (opened : Nat)
  | formats
  | closed

def Mic.step (s : Mic) : Event → Option Mic
  | .recorded bytes => some (s.processInputData bytes)
  | .command cmd bytesReq opened => s.sourceDataIn cmd bytesReq opened
  | .formats => some { s with canRec := true }
  | .closed => some { s with audinChanid := 0 }

def Next (s : Mic) (e : Event) (s' : Mic) : Prop := s.step e = some s'

/-! ## What is promised -/

/-- An answer is a length, which is not above the request, and as many bytes. -/
def Right (s : Mic) : Event → Prop
  | .command cmd bytesReq _ => cmd = 3 → ∃ s' bytes, s.sendData bytesReq = some (s', leBytes 2 bytes.length ++ bytes) ∧
      bytes.length ≤ bytesReq.toNat ∧ s'.got = s.got ++ bytes
  | _ => True

/-- All steps are possible, all answers are right, and the answers since the last start are the
beginning of what has been sent since. -/
def RunRight (es : List Event) : Prop :=
  Always Next (fun s => s.got <+: s.sent) .init es ∧ AllFit Next Right .init es

/-- At a start no packet is kept aside, and the FIFO is cleared or empty. -/
def Fits (s : Mic) : Event → Prop
  | .command cmd _ _ => cmd = 1 →
      s.streamInp = none ∧ (s.canRec = true ∨ s.audinChanid = 0 ∨ s.inFifo.rdPtr = s.inFifo.wrPtr)
  | _ => True

/-! ## The loop -/

/-- The bytes of a packet that have not been asked for. -/
def Mic.unread (s : Mic) (inp : List UInt8) : List UInt8 :=
  inp.drop (inp.length - if s.bytesInStream = 0 then inp.length else s.bytesInStream)

/-- What is kept aside. -/
def Mic.aside (s : Mic) : List UInt8 := match s.streamInp with
  | none => []
  | some inp => s.unread inp

/-- The FIFO holds the packets `L`, and of the one aside there are as many bytes left as is noted. -/
structure Held (s : Mic) (L : List (List UInt8)) : Prop where
  fifo : s.inFifo.Holds L
  none : s.streamInp = none → s.bytesInStream = 0
  some : ∀ inp, s.streamInp = some inp → s.bytesInStream ≤ inp.length

/-- What the loop comes to: `bytes` are moved to the answer. -/
structure Moved (s : Mic) (L : List (List UInt8)) (bytesReq bytesRead : Nat) (bytes : List UInt8) (s' : Mic)
    (L' : List (List UInt8)) : Prop where
  held : Held s' L'
  order : s.aside ++ L.flatten = bytes ++ (s'.aside ++ L'.flatten)
  most : bytesRead + bytes.length ≤ bytesReq
  sent : s'.sent = s.sent
  got : s'.got = s.got

theorem Moved.nothing {s : Mic} {L : List (List UInt8)} (h : Held s L) {bytesReq bytesRead : Nat}
    (hread : bytesRead ≤ bytesReq) : Moved s L bytesReq bytesRead [] s L :=
  ⟨h, rfl, hread, rfl, rfl⟩

theorem sendLoop_done (n : Nat) (s : Mic) (bytesReq : Nat) (out : List UInt8) :
    Mic.sendLoop n s bytesReq bytesReq out = some (s, bytesReq, out) := by
  cases n <;> simp [Mic.sendLoop]

/-- The next packet is taken out of the FIFO. -/
theorem sendLoop_remove {s : Mic} (hnone : s.streamInp = none) {inp : List UInt8}
    (hinp : s.inFifo.remove.1 = some inp) {bytesReq bytesRead : Nat} (hread : bytesRead < bytesReq) (n : Nat)
    (out : List UInt8) :
    Mic.sendLoop n s bytesReq bytesRead out =
      Mic.sendLoop n { s with streamInp := some inp, inFifo := s.inFifo.remove.2 } bytesReq bytesRead out := by
  unfold Mic.sendLoop
  simp only [if_pos hread, hnone, hinp, if_true, reduceCtorEq, if_false]

/-- There is no packet. -/
theorem sendLoop_empty {s : Mic} (h : Held s []) (hnone : s.streamInp = none) (n bytesReq bytesRead : Nat)
    (out : List UInt8) : Mic.sendLoop n s bytesReq bytesRead out = some (s, bytesRead, out) := by
  unfold Mic.sendLoop
  split_ifs
  · rw [h.fifo.remove_nil]
    dsimp only
    rw [← hnone]
  · rfl

theorem unread_length {s : Mic} {inp : List UInt8} (hleft : s.bytesInStream ≤ inp.length) :
    (s.unread inp).length = if s.bytesInStream = 0 then inp.length else s.bytesInStream := by
  unfold Mic.unread
  rw [List.length_drop]
  split_ifs <;> omega

/-- A pass of the loop, with a packet aside. -/
theorem sendLoop_packet {s : Mic} {inp : List UInt8} (hinp : s.streamInp = some inp) {bytesReq bytesRead : Nat}
    (hread : bytesRead < bytesReq) (hleft : s.bytesInStream ≤ inp.length) (n : Nat) (out : List UInt8) :
    Mic.sendLoop (n + 1) s bytesReq bytesRead out =
      if bytesReq - bytesRead < (s.unread inp).length then
        some ({ s with bytesInStream := (s.unread inp).length - (bytesReq - bytesRead) }, bytesReq,
          out ++ (s.unread inp).take (bytesReq - bytesRead))
      else
        Mic.sendLoop n { s with bytesInStream := 0, streamInp := none } bytesReq
          (bytesRead + (s.unread inp).length) (out ++ s.unread inp) := by
  have hlength := unread_length hleft
  have hsum : bytesRead + (bytesReq - bytesRead) = bytesReq := by omega
  rw [Mic.sendLoop, if_pos hread]
  simp only [hinp, reduceCtorEq, if_false]
  rw [← hlength]
  have hdrop : inp.drop (inp.length - (s.unread inp).length) = s.unread inp := by
    rw [hlength]
    rfl
  rw [hdrop, hsum, sendLoop_done, List.take_length]

/-- What is left aside of a packet. -/
theorem aside_of_part {s : Mic} {inp : List UInt8} (hinp : s.streamInp = some inp)
    (hleft : s.bytesInStream ≤ inp.length) {i : Nat} (hi : i < (s.unread inp).length) :
    (s.unread inp).take i ++ Mic.aside { s with bytesInStream := (s.unread inp).length - i } = s.unread inp := by
  have hlength := unread_length hleft
  have hrest : Mic.aside { s with bytesInStream := (s.unread inp).length - i } = (s.unread inp).drop i := by
    generalize (s.unread inp).length = k at hi hlength ⊢
    unfold Mic.aside
    rw [hinp]
    unfold Mic.unread
    dsimp only
    rw [if_neg (by omega), List.drop_drop, ← hlength]
    congr 1
    split_ifs at hlength <;> omega
  rw [hrest, List.take_append_drop]

/-- **The loop ends, and moves bytes from what is aside and from the FIFO to the answer.** -/
theorem sendLoop_spec {s : Mic} {L : List (List UInt8)} (h : Held s L) {n : Nat}
    (hn : L.length + s.streamInp.toList.length ≤ n) {bytesReq bytesRead : Nat} (hread : bytesRead ≤ bytesReq)
    (out : List UInt8) : ∃ s' L' bytes,
      Mic.sendLoop n s bytesReq bytesRead out = some (s', bytesRead + bytes.length, out ++ bytes) ∧
        Moved s L bytesReq bytesRead bytes s' L' := by
  induction n generalizing s L bytesRead out with
  | zero =>
    obtain ⟨hL, hinp⟩ := Nat.add_eq_zero_iff.1 (Nat.le_zero.1 hn)
    rw [List.length_eq_zero_iff] at hL
    rw [List.length_eq_zero_iff, Option.toList_eq_nil_iff] at hinp
    subst hL
    exact ⟨s, [], [], by simpa using sendLoop_empty h hinp 0 bytesReq bytesRead out, .nothing h hread⟩
  | succ n ih =>
    rcases Nat.eq_or_lt_of_le hread with rfl | hlt
    · exact ⟨s, L, [], by simpa using sendLoop_done _ s bytesRead out, .nothing h hread⟩
    -- with a packet aside
    have hpacket : ∀ (s : Mic) L inp, Held s L → s.streamInp = some inp → L.length ≤ n → ∃ s' L' bytes,
        Mic.sendLoop (n + 1) s bytesReq bytesRead out = some (s', bytesRead + bytes.length, out ++ bytes) ∧
          Moved s L bytesReq bytesRead bytes s' L' := by
      intro s L inp h hinp hL
      have haside : s.aside = s.unread inp := by
        unfold Mic.aside
        rw [hinp]
      rw [sendLoop_packet hinp hlt (h.some inp hinp)]
      split_ifs with hpart
      · have htake : ((s.unread inp).take (bytesReq - bytesRead)).length = bytesReq - bytesRead := by
          rw [List.length_take, min_eq_left (Nat.le_of_lt hpart)]
        have hunread : (s.unread inp).length ≤ inp.length := by
          unfold Mic.unread
          rw [List.length_drop]
          omega
        refine ⟨{ s with bytesInStream := (s.unread inp).length - (bytesReq - bytesRead) }, L,
          (s.unread inp).take (bytesReq - bytesRead), ?_, ⟨h.fifo, ?_, ?_⟩, ?_, ?_, rfl, rfl⟩
        · rw [htake, Nat.add_sub_cancel' hread]
        · simp [hinp]
        · intro inp' hinp'
          obtain rfl : inp = inp' := Option.some.inj (hinp.symm.trans hinp')
          exact Nat.le_trans (Nat.sub_le _ _) hunread
        · rw [haside, ← List.append_assoc]
          congr 1
          exact (aside_of_part hinp (h.some inp hinp) hpart).symm
        · rw [htake]
          omega
      · obtain ⟨s', L', bytes, heq, hmoved⟩ := @ih { s with bytesInStream := 0, streamInp := none } L
          ⟨h.fifo, fun _ => rfl, fun _ hnone => (nomatch hnone)⟩ (by simpa using hL)
          (bytesRead + (s.unread inp).length) (by omega) (out ++ s.unread inp)
        refine ⟨s', L', s.unread inp ++ bytes, ?_, hmoved.held, ?_, ?_, hmoved.sent, hmoved.got⟩
        · rw [heq, List.length_append, Nat.add_assoc, List.append_assoc]
        · rw [haside, List.append_assoc, ← hmoved.order]
          rfl
        · rw [List.length_append, ← Nat.add_assoc]
          exact hmoved.most
    cases hinp : s.streamInp with
    | some inp => 
      exact hpacket s L inp h hinp (by simpa [hinp] using hn)
    | none =>
      cases L with
      | nil =>
        exact ⟨s, [], [], by simpa using sendLoop_empty h hinp _ bytesReq bytesRead out, .nothing h hread⟩
      | cons inp L =>
        obtain ⟨hremove, hrest⟩ := h.fifo.remove_cons
        rw [sendLoop_remove hinp hremove hlt]
        obtain ⟨s', L', bytes, heq, hmoved⟩ := hpacket
          { s with streamInp := some inp, inFifo := s.inFifo.remove.2 } L inp
          ⟨hrest, fun hnone => (nomatch hnone), fun _ _ => by simp [h.none hinp]⟩ rfl (by simpa [hinp] using hn)
        refine ⟨s', L', bytes, heq, hmoved.held, ?_, hmoved.most, hmoved.sent, hmoved.got⟩
        rw [← hmoved.order]
        simp [Mic.aside, Mic.unread, hinp, h.none hinp]

/-! ## Steps -/

/-- The packet aside and the FIFO are in order, and hold what has been sent but not been got. -/
def Good (s : Mic) : Prop := ∃ L, Held s L ∧ s.got ++ (s.aside ++ L.flatten) = s.sent

/-- **The answer is a length and as many bytes.** -/
theorem sendData_spec {s : Mic} {L : List (List UInt8)} (h : Held s L) (bytesReq : UInt16) : ∃ s' L' bytes,
    s.sendData bytesReq = some ({ s' with got := s.got ++ bytes }, leBytes 2 bytes.length ++ bytes) ∧
      Moved s L bytesReq.toNat 0 bytes s' L' := by
  have hfuel : L.length + s.streamInp.toList.length ≤ s.inFifo.entries + 1 := by
    have hroom := h.fifo.ring.room
    have haside : s.streamInp.toList.length ≤ 1 := by cases s.streamInp <;> simp
    omega
  obtain ⟨s', L', bytes, heq, hmoved⟩ := sendLoop_spec h hfuel (Nat.zero_le bytesReq.toNat) (leBytes 2 0)
  refine ⟨s', L', bytes, ?_, hmoved⟩
  have hlength : leBytes 2 bytes.length ++ bytes = if bytes.length ≠ 0 then
      ((leBytes 2 0 ++ bytes).set 0 (UInt8.ofNat (bytes.length % 256))).set 1
        (UInt8.ofNat (bytes.length / 256 % 256)) else leBytes 2 0 ++ bytes := by
    have hmod : ∀ n : Nat, UInt8.ofNat (n % 256) = UInt8.ofNat n := fun n => UInt8.toNat_inj.1 (by simp)
    by_cases hempty : bytes.length = 0
    · rw [hempty, if_neg (by simp)]
    · rw [if_pos hempty, hmod, hmod]
      rfl
  unfold Mic.sendData
  rw [heq, hlength, ← hmoved.got, Nat.zero_add]
  rfl

/-- At a start nothing is left of what was sent before. -/
theorem good_start {s : Mic} (h : Good s) (hnone : s.streamInp = none)
    (hclear : s.canRec = true ∨ s.audinChanid = 0 ∨ s.inFifo.rdPtr = s.inFifo.wrPtr) (opened : Nat) :
    ∃ s', ((if s.canRec then s.startRecording else s.audinStart opened).map fun s : Mic =>
      { s with sent := [], got := [] }) = some s' ∧ Good s' := by
  obtain ⟨L, hheld, -⟩ := h
  have hgood : ∀ s' : Mic, s'.inFifo.Holds [] → s'.streamInp = none → s'.bytesInStream = 0 →
      Good { s' with sent := [], got := [] } := by
    intro s' hfifo hinp hleft
    refine ⟨[], ⟨hfifo, fun _ => hleft, fun inp hsome => ?_⟩, ?_⟩
    · exact absurd (hinp.symm.trans hsome) (by simp)
    · simp [Mic.aside, hinp]
  obtain ⟨fp, hdiscard, hempty⟩ := Fifo.discard_of_holds hheld.fifo (Nat.le_of_lt hheld.fifo.ring.room)
  by_cases hrec : s.canRec
  · rw [if_pos hrec, Mic.startRecording, hdiscard]
    exact ⟨_, rfl, hgood _ hempty hnone (hheld.none hnone)⟩
  · rw [if_neg hrec, Mic.audinStart]
    split_ifs with hopen
    · -- the channel is open, and the FIFO is empty
      have hL : L = [] := by
        rcases hclear with hrec' | hclosed | hptr
        · exact absurd hrec' hrec
        · exact absurd hclosed hopen
        · cases L with
          | nil => rfl
          | cons inp L =>
            have hremove := hheld.fifo.remove_cons.1
            rw [Fifo.remove, if_pos hptr] at hremove
            cases hremove
      subst hL
      exact ⟨_, rfl, hgood s hheld.fifo hnone (hheld.none hnone)⟩
    · rw [hdiscard]
      exact ⟨_, rfl, hgood _ hempty hnone (hheld.none hnone)⟩

/-- What a step does, if nothing is left at a start. -/
theorem good_next {s : Mic} {e : Event} (h : Good s) (hfits : Fits s e) : ∃ s', Next s e s' ∧ Good s' := by
  cases e with
  | recorded bytes =>
    obtain ⟨L, hheld, horder⟩ := h
    refine ⟨_, rfl, L ++ [bytes], ⟨hheld.fifo.insert bytes, hheld.none, hheld.some⟩, ?_⟩
    show s.got ++ (s.aside ++ (L ++ [bytes]).flatten) = s.sent ++ bytes
    rw [← horder]
    simp
  | command cmd bytesReq opened =>
    show ∃ s', s.sourceDataIn cmd bytesReq opened = some s' ∧ Good s'
    unfold Mic.sourceDataIn
    by_cases hsend : cmd = 3
    · obtain ⟨L, hheld, horder⟩ := h
      obtain ⟨s', L', bytes, heq, hmoved⟩ := sendData_spec hheld bytesReq
      refine ⟨{ s' with got := s.got ++ bytes }, by rw [if_pos hsend, heq]; rfl, L',
        ⟨hmoved.held.fifo, hmoved.held.none, hmoved.held.some⟩, ?_⟩
      show s.got ++ bytes ++ (s'.aside ++ L'.flatten) = s'.sent
      rw [hmoved.sent, ← horder, hmoved.order, List.append_assoc]
    · rw [if_neg hsend]
      by_cases hstart : cmd = 1
      · obtain ⟨hnone, hclear⟩ := hfits hstart
        rw [if_pos hstart]
        exact good_start h hnone hclear opened
      · rw [if_neg hstart]
        exact ⟨s, rfl, h⟩
  | formats =>
    obtain ⟨L, hheld, horder⟩ := h
    exact ⟨_, rfl, L, ⟨hheld.fifo, hheld.none, hheld.some⟩, horder⟩
  | closed =>
    obtain ⟨L, hheld, horder⟩ := h
    exact ⟨_, rfl, L, ⟨hheld.fifo, hheld.none, hheld.some⟩, horder⟩

end Xrdp.Chansrv.Microphone
