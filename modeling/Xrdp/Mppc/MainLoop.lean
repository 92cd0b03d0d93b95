import Xrdp.Mppc.InsertBits

/-!
# The main loop encodes the packet

The invariant of `compress_rdp_5`'s loop: the output is the bit string of a token list that takes
a window agreeing with the history up to the packet to one agreeing up to `ctr`, and every hash
table entry is the position of a string that starts before `ctr`.

* `Encoded` — the invariant.
* `extendMatch_spec`, `hashSegment_spec` — the two inner loops.
* `StepInv` — what literals and back references keep; `loopBody_spec`, `mainLoop_spec` and
  `encodePacket_spec` carry it through an iteration, the loop and the packet.
* `stepInv_encoded` — they keep `Encoded`, unless nine bits a byte reach the end of the buffer.
-/

namespace Xrdp.Mppc

open BitString Window

theorem crcAt_ok {history : Buf UInt8} {i : Nat} (h : i + 2 < history.size) :
    ∃ c, crcAt history i = .ok c := by
  unfold crcAt
  rw [Buf.read_ok (by omega), Buf.read_ok (by omega), Buf.read_ok h]
  exact ⟨_, rfl⟩

/-- Every entry of the hash table is below `bound`. -/
structure HashBelow (hash : Buf UInt16) (bound : Nat) : Prop where
  size : hash.size = 65536
  below : ∀ i < 65536, (hash.cells i).toNat < bound

theorem HashBelow.mono {hash : Buf UInt16} {b b' : Nat} (h : HashBelow hash b) (hb : b ≤ b') :
    HashBelow hash b' :=
  ⟨h.size, fun i hi => lt_of_lt_of_le (h.below i hi) hb⟩

theorem HashBelow.write {hash : Buf UInt16} {bound pos : Nat} (h : HashBelow hash bound)
    (c : UInt16) (hp : pos < bound) (hp' : pos < 65536) :
    ∃ hash', hash.write c.toNat (UInt16.ofNat pos) = .ok hash' ∧ HashBelow hash' bound := by
  refine ⟨_, Buf.write_ok (by rw [h.size]; exact c.toNat_lt) _, h.size, fun i hi => ?_⟩
  simp only
  split
  · rw [UInt16.toNat_ofNat', Nat.mod_eq_of_lt hp']
    exact hp
  · exact h.below i hi

theorem HashBelow.zero {hash : Buf UInt16} {bound : Nat} (hs : hash.size = 65536)
    (hz : ∀ i < 65536, hash.cells i = 0) (hb : 0 < bound) : HashBelow hash bound :=
  ⟨hs, fun i hi => by rw [hz i hi]; exact hb⟩

/-- The longest common extension of two strings, up to the end of the packet. -/
theorem extendMatch_spec {history : Buf UInt8} {hptrEnd : Nat} (hs : hptrEnd < history.size) :
    ∀ fuel cptr1 cptr2 lom, cptr1 ≤ hptrEnd + 1 → cptr2 < cptr1 → hptrEnd + 1 - cptr1 < fuel →
      ∃ k, extendMatch history hptrEnd fuel cptr1 cptr2 lom = .ok (lom + k) ∧
        cptr1 + k ≤ hptrEnd + 1 ∧
        ∀ i < k, history.cells (cptr2 + i) = history.cells (cptr1 + i) := by
  intro fuel
  induction fuel with
  | zero => intro _ _ _ _ _ h; omega
  | succ fuel ih =>
    intro cptr1 cptr2 lom h1 h2 hf
    rw [extendMatch]
    by_cases hle : cptr1 ≤ hptrEnd
    · rw [if_pos hle, Buf.read_ok (by omega), Buf.read_ok (by omega)]
      simp only [Run.ok_bind]
      by_cases heq : history.cells cptr1 = history.cells cptr2
      · obtain ⟨k, hk, hend, hall⟩ := ih (cptr1 + 1) (cptr2 + 1) (lom + 1) (by omega) (by omega)
          (by omega)
        refine ⟨k + 1, ?_, by omega, fun i hi => ?_⟩
        · rw [if_pos heq, hk, Nat.add_assoc, Nat.add_comm 1 k]
        · cases i with
          | zero => exact heq.symm
          | succ i =>
            have := hall i (by omega)
            rwa [show cptr2 + 1 + i = cptr2 + (i + 1) by omega,
              show cptr1 + 1 + i = cptr1 + (i + 1) by omega] at this
      · exact ⟨0, by rw [if_neg heq]; rfl, by omega, fun i hi => by omega⟩
    · exact ⟨0, by rw [if_neg hle]; rfl, by omega, fun i hi => by omega⟩

theorem hashSegment_spec {history : Buf UInt8} {bound : Nat} (hb : bound ≤ 65536) :
    ∀ j pos hash, HashBelow hash bound → pos + j ≤ bound → pos + j + 1 < history.size →
      ∃ hash', hashSegment history j pos hash = .ok hash' ∧ HashBelow hash' bound := by
  intro j
  induction j with
  | zero => intro pos hash h _ _; exact ⟨hash, rfl, h⟩
  | succ j ih =>
    intro pos hash h hp hs
    obtain ⟨c, hc⟩ := @crcAt_ok history pos (by omega)
    obtain ⟨hash', hw, h'⟩ := @HashBelow.write _ _ pos h c (by omega) (by omega)
    rw [hashSegment, hc, Run.ok_bind, hw, Run.ok_bind]
    exact ih (pos + 1) hash' h' (by omega) (by omega)

/-! ## The invariant -/

/-- The loop's context for a packet of `len` bytes. -/
structure PacketCtx (c : LoopCtx) (len : Nat) : Prop where
  two_le : 2 ≤ len
  historySize : c.historyBuffer.size = 65536
  fits : c.historyPointer + len ≤ 65536
  hptrEnd : c.hptrEnd = c.historyPointer + len - 1
  lastCrcIndex : c.lastCrcIndex = ((c.historyPointer + len : Nat) : Int) - 3
  dataEnd : c.dataEnd = len - 2

/-- `ts` is what has been written to `out` since `out0` for the packet's bytes up to `ctr`. -/
structure Encoded (c : LoopCtx) (out0 : OutBits) (ctr : Nat) (out : OutBits)
    (ts : List (Token UInt8)) : Prop where
  valid : ∀ t ∈ ts, ValidToken t
  appended : Appended out0 out (tokensBits ts)
  bits : (tokensBits ts).length ≤ 9 * ctr
  window : ∀ w, Agree c.historyBuffer.cells w c.historyPointer →
    ∃ w', run HISTORY_SIZE w ts = some w' ∧
      Agree c.historyBuffer.cells w' (c.historyPointer + ctr)

/-- Nine bits a byte of a packet of `len` bytes reach the end of the output buffer. -/
def Full (out0 : OutBits) (len : Nat) : Prop :=
  out0.outputBuffer.size ≤ (out0.pos + 9 * len) / 8

theorem Encoded.nil {c : LoopCtx} {out0 : OutBits} (h : out0.Wf) : Encoded c out0 0 out0 [] where
  valid := by simp
  appended := Appended.refl h
  bits := by simp [tokensBits]
  window := fun w hw => ⟨w, rfl, hw⟩

theorem literalBits_length (b : UInt8) : (literalBits b).length ≤ 9 := by
  rw [literalBits]; split <;> simp

theorem copyBits_length {dist len : Nat} (h3 : 3 ≤ len) (h : len < 65536) :
    (tokenBits (.copy dist len)).length ≤ 9 * len := by
  have ho : (offsetBits dist).length ≤ 19 := by
    unfold offsetBits; split_ifs <;> simp
  have hl : (lomBits len).length ≤ 2 * len ∧ (len = 3 → (lomBits len).length ≤ 1) := by
    rw [lomBits, lomClassBits]
    rcases lomClass_spec h3 h with ⟨rfl, hc⟩ | ⟨h1, -, hlo, -⟩
    · simp [hc]
    · have := Nat.lt_two_pow_self (n := lomClass len + 1)
      have h0 : lomClass len ≠ 0 := by omega
      have h4 : 2 ^ 2 ≤ 2 ^ (lomClass len + 1) := Nat.pow_le_pow_right (by omega) (by omega)
      simp only [h0, if_false, List.length_append, List.length_replicate, List.length_cons,
        natBits_length]
      constructor <;> omega
  simp only [tokenBits, List.length_append]
  omega

/-- One more token. -/
theorem Encoded.snoc {c : LoopCtx} {out0 out : OutBits} {ctr len k : Nat}
    {ts : List (Token UInt8)} {t : Token UInt8} {f : OutBits → Run OutBits}
    (h : Encoded c out0 ctr out ts) (ht : ValidToken t) (hf : Emits f (tokenBits t))
    (hk : (tokenBits t).length ≤ 9 * k) (hlen : ctr + k ≤ len)
    (hstep : ∀ w, Agree c.historyBuffer.cells w (c.historyPointer + ctr) →
      ∃ w', t.step HISTORY_SIZE w = some w' ∧
        Agree c.historyBuffer.cells w' (c.historyPointer + ctr + k)) :
    Run.Ends (Full out0 len) (f out) fun out' => Encoded c out0 (ctr + k) out' (ts ++ [t]) := by
  have hbits : tokensBits (ts ++ [t]) = tokensBits ts ++ tokenBits t := by simp [tokensBits]
  have hb := h.bits
  refine (hf out h.appended.wf).mono ?_ ?_
  · intro hsz
    rw [h.appended.size, h.appended.pos] at hsz
    unfold Full
    omega
  · intro out' happ
    refine ⟨?_, ?_, ?_, ?_⟩
    · intro u hu
      rcases List.mem_append.1 hu with hu | hu
      · exact h.valid u hu
      · rw [List.mem_singleton.1 hu]
        exact ht
    · rw [hbits]
      exact h.appended.trans happ
    · rw [hbits, List.length_append]
      omega
    · intro w hw
      obtain ⟨w', hr, ha⟩ := h.window w hw
      obtain ⟨w'', hs, ha'⟩ := hstep w' ha
      refine ⟨w'', by rw [run_append, hr]; simp [run, hs], ?_⟩
      rwa [← Nat.add_assoc]

/-- A literal of the packet. -/
theorem Encoded.literal {c : LoopCtx} {out0 out : OutBits} {ctr len : Nat}
    {ts : List (Token UInt8)} (h : Encoded c out0 ctr out ts) (hc : PacketCtx c len)
    (hlt : ctr < len) {b : UInt8} (hb : b = c.historyBuffer.cells (c.historyPointer + ctr)) :
    Run.Ends (Full out0 len) (insertLiteral b out)
      fun out' => Encoded c out0 (ctr + 1) out' (ts ++ [.lit b]) := by
  have hfits := hc.fits
  refine h.snoc (t := .lit b) trivial (insertLiteral_emits b) (literalBits_length b) hlt ?_
  intro w hw
  rw [hb]
  exact hw.lit (by simp only [HISTORY_SIZE]; omega)

/-- A back reference to an equal string that starts earlier in the history. -/
theorem Encoded.copy {c : LoopCtx} {out0 out : OutBits} {ctr len cptr2 lom : Nat}
    {ts : List (Token UInt8)} (h : Encoded c out0 ctr out ts) (hc : PacketCtx c len)
    (h2 : cptr2 < c.historyPointer + ctr) (h3 : 3 ≤ lom) (hlen : ctr + lom ≤ len)
    (heq : ∀ i < lom, c.historyBuffer.cells (cptr2 + i) =
      c.historyBuffer.cells (c.historyPointer + ctr + i)) :
    Run.Ends (Full out0 len)
      (insertCopyOffset (c.historyPointer + ctr - cptr2) out >>= insertLom lom)
      fun out' => Encoded c out0 (ctr + lom) out'
        (ts ++ [.copy (c.historyPointer + ctr - cptr2) lom]) := by
  have hfits := hc.fits
  have hoff : c.historyPointer + ctr - cptr2 < 65536 := by omega
  -- a match starts behind its copy, so it cannot fill the whole buffer
  have hl : lom < 65536 := by omega
  refine h.snoc (t := .copy _ lom) ⟨hoff, h3, hl⟩
    ((insertCopyOffset_emits hoff).bind (insertLom_emits h3 hl)) (copyBits_length h3 hl) hlen ?_
  intro w hw
  refine hw.copy (by omega) (by omega) (by simp only [HISTORY_SIZE]; omega) ?_
  rw [show c.historyPointer + ctr - (c.historyPointer + ctr - cptr2) = cptr2 by omega]
  exact heq

/-! ## One iteration -/

/-- `I ctr out` is kept by the literals and the back references of a packet. -/
structure StepInv (c : LoopCtx) (len : Nat) (full : Prop) (I : Nat → OutBits → Prop) : Prop where
  literal : ∀ ctr out, I ctr out → ctr < len →
    Run.Ends full (insertLiteral (c.historyBuffer.cells (c.historyPointer + ctr)) out) (I (ctr + 1))
  copy : ∀ ctr out cptr2 lom, I ctr out → cptr2 < c.historyPointer + ctr → 3 ≤ lom →
    ctr + lom ≤ len →
    (∀ i < lom, c.historyBuffer.cells (cptr2 + i) =
      c.historyBuffer.cells (c.historyPointer + ctr + i)) →
    Run.Ends full (insertCopyOffset (c.historyPointer + ctr - cptr2) out >>= insertLom lom)
      (I (ctr + lom))

theorem stepInv_encoded {c : LoopCtx} {len : Nat} {out0 : OutBits} (hc : PacketCtx c len) :
    StepInv c len (Full out0 len) (fun ctr out => ∃ ts, Encoded c out0 ctr out ts) where
  literal := fun _ _ ⟨_, h⟩ hlt =>
    (h.literal hc hlt rfl).mono id fun _ h' => ⟨_, h'⟩
  copy := fun _ _ _ _ ⟨_, h⟩ h2 h3 hl heq =>
    (h.copy hc h2 h3 hl heq).mono id fun _ h' => ⟨_, h'⟩

/-- What the loop maintains. -/
structure LoopInv (c : LoopCtx) (len : Nat) (I : Nat → OutBits → Prop) (s : LoopSt) : Prop where
  out : I s.ctr s.out
  hash : HashBelow s.hashTable (c.historyPointer + s.ctr)
  ctr_le : s.ctr ≤ len

section

variable {c : LoopCtx} {len : Nat} {full : Prop} {I : Nat → OutBits → Prop}

/-- **One iteration keeps the invariant**: it writes a literal or a back reference. -/
theorem loopBody_spec {s : LoopSt} (hc : PacketCtx c len) (hI : StepInv c len full I)
    (h : LoopInv c len I s) (hlt : s.ctr < c.dataEnd) :
    Run.Ends full (loopBody c s) fun s' => LoopInv c len I s' ∧ s.ctr < s'.ctr := by
  obtain ⟨h, hh, hl⟩ := h
  have hsz := hc.historySize
  have hfits := hc.fits
  have h2le := hc.two_le
  have hde := hc.dataEnd
  obtain ⟨crc, hcrc⟩ := @crcAt_ok c.historyBuffer (c.historyPointer + s.ctr) (by omega)
  have hentry := hh.below crc.toNat crc.toNat_lt
  have hread : s.hashTable.read crc.toNat = .ok (s.hashTable.cells crc.toNat) :=
    Buf.read_ok (by rw [hh.size]; exact crc.toNat_lt)
  generalize s.hashTable.cells crc.toNat = entry at *
  obtain ⟨hash', hwrite, hh'⟩ := @HashBelow.write _ _ (c.historyPointer + s.ctr)
    (hh.mono (Nat.le_add_right _ 1)) crc (by omega) (by omega)
  have hoff : (c.historyPointer + s.ctr + 2 ^ 32 - entry.toNat) % 2 ^ 32 =
      c.historyPointer + s.ctr - entry.toNat := by omega
  simp only [loopBody, hcrc, Run.ok_bind, hread, hwrite, hoff]
  rw [Buf.read_ok (by omega), Buf.read_ok (by omega), Buf.read_ok (by omega),
    Buf.read_ok (by omega), Buf.read_ok (by omega), Buf.read_ok (by omega)]
  simp only [Run.ok_bind]
  split
  · -- "no match found; encode literal byte"
    refine (hI.literal _ _ h (by omega)).bind fun out' h' => .ok ⟨⟨h', ?_, ?_⟩, ?_⟩
    · exact hh'.mono (by simp only; omega)
    · simp only; omega
    · simp only; omega
  · rename_i hne
    have heq : ∀ i < 3, c.historyBuffer.cells (entry.toNat + i) =
        c.historyBuffer.cells (c.historyPointer + s.ctr + i) := by
      simp only [not_or, not_not] at hne
      obtain ⟨e0, e1, e2⟩ := hne
      intro i hi
      match i, hi with
      | 0, _ => exact e0.symm
      | 1, _ => exact e1.symm
      | 2, _ => exact e2.symm
    have hend := hc.hptrEnd
    obtain ⟨k, hk, hkend, hall⟩ := @extendMatch_spec c.historyBuffer c.hptrEnd
      (by omega) (c.historyBuffer.size + 1) (c.historyPointer + s.ctr + 3) (entry.toNat + 3) 3
      (by omega) (by omega) (by omega)
    simp only [hk, Run.ok_bind]
    -- the hashed segment ends before the next position, and its last string inside the packet
    obtain ⟨j, hj, hjl, hjs⟩ : ∃ j, (if (c.lastCrcIndex : Int) <
          (c.historyPointer + s.ctr : Nat) + ((3 + k : Nat) : Int) then
          ((c.lastCrcIndex - (c.historyPointer + s.ctr : Nat)) % 2 ^ 32).toNat
        else 3 + k - 1) = j ∧ j < 3 + k ∧ c.historyPointer + s.ctr + j + 2 < 65536 := by
      refine ⟨_, rfl, ?_⟩
      rw [hc.lastCrcIndex]
      split <;> omega
    rw [hj]
    obtain ⟨hash'', hseg, hh''⟩ := @hashSegment_spec c.historyBuffer
      (c.historyPointer + s.ctr + (3 + k)) (by omega) j (c.historyPointer + s.ctr + 1) hash'
      (hh'.mono (by omega)) (by omega) (by omega)
    rw [hseg, Run.ok_bind, ← bind_assoc]
    have hall' : ∀ i < 3 + k, c.historyBuffer.cells (entry.toNat + i) =
        c.historyBuffer.cells (c.historyPointer + s.ctr + i) := by
      intro i hi
      by_cases h3 : i < 3
      · exact heq i h3
      · have := hall (i - 3) (by omega)
        rwa [show entry.toNat + 3 + (i - 3) = entry.toNat + i by omega,
          show c.historyPointer + s.ctr + 3 + (i - 3) = c.historyPointer + s.ctr + i by omega]
          at this
    refine (hI.copy _ _ _ _ h hentry (by omega) (by omega) hall').bind
      fun out' h' => .ok ⟨⟨h', ?_, ?_⟩, ?_⟩
    · exact hh''.mono (by simp only; omega)
    · simp only; omega
    · simp only; omega

/-! ## The loop, the front and the tail -/

/-- **The main loop** keeps the invariant and runs `data_end` iterations at most. -/
theorem mainLoop_spec (hc : PacketCtx c len) (hI : StepInv c len full I) (fuel : Nat) {s : LoopSt}
    (h : LoopInv c len I s) (hf : c.dataEnd ≤ s.ctr + fuel) :
    Run.Ends full (mainLoop c fuel s) (LoopInv c len I) := by
  induction fuel generalizing s with
  | zero =>
    rw [mainLoop, if_neg (by omega)]
    exact .ok h
  | succ fuel ih =>
    rw [mainLoop]
    split
    · rename_i hlt
      exact (loopBody_spec hc hI h hlt).bind fun s' ⟨h', hgt⟩ => ih h' (by omega)
    · exact .ok h

/-- The front of the history leaves a non-empty part of it encoded. -/
theorem encodeFront_spec {out0 : OutBits} {hash : Buf UInt16} (hc : PacketCtx c len)
    (hI : StepInv c len full I) (h0 : I 0 out0) (hh : HashBelow hash (max 1 c.historyPointer)) :
    Run.Ends full (encodeFront c.historyBuffer c.historyPointer ⟨0, hash, out0⟩)
      (LoopInv c len I) := by
  have hsz := hc.historySize
  have h2 := hc.two_le
  unfold encodeFront
  split
  · rename_i hp
    have hl0 := hI.literal 0 out0 h0 (by omega)
    have hl1 := fun out1 h1 => hI.literal 1 out1 h1 (by omega)
    rw [hp] at hl0 hl1
    simp only [Buf.read_ok (by omega : 0 < c.historyBuffer.size),
      Buf.read_ok (by omega : 1 < c.historyBuffer.size), Run.ok_bind]
    refine hl0.bind fun out1 h1 => (hl1 out1 h1).bind fun out2 h2' => ?_
    obtain ⟨c0, hc0⟩ := @crcAt_ok c.historyBuffer 0 (by omega)
    obtain ⟨c1, hc1⟩ := @crcAt_ok c.historyBuffer 1 (by omega)
    obtain ⟨hash1, hw1, hh1⟩ := @HashBelow.write _ (c.historyPointer + 2) 0
      (hh.mono (by omega)) c0 (by omega) (by omega)
    obtain ⟨hash2, hw2, hh2⟩ := @HashBelow.write _ _ 1 hh1 c1 (by omega) (by omega)
    rw [hc0, Run.ok_bind, show (0 : UInt16) = UInt16.ofNat 0 from rfl, hw1, Run.ok_bind, hc1,
      Run.ok_bind, show (1 : UInt16) = UInt16.ofNat 1 from rfl, hw2]
    exact .ok ⟨h2', hh2, h2⟩
  · exact .ok ⟨h0, hh.mono (by simp only; omega), Nat.zero_le _⟩

/-- The rest of the packet goes out as literals. -/
theorem addRemaining_spec {srcData : List UInt8} (hI : StepInv c srcData.length full I)
    (hsrc : ∀ i, (hi : i < srcData.length) →
      srcData[i] = c.historyBuffer.cells (c.historyPointer + i))
    (fuel : Nat) {ctr : Nat} {out : OutBits} (h : I ctr out) (hl : ctr ≤ srcData.length)
    (hf : srcData.length ≤ ctr + fuel) :
    Run.Ends full (addRemaining srcData fuel ctr out) (I srcData.length) := by
  induction fuel generalizing ctr out with
  | zero =>
    obtain rfl : ctr = srcData.length := by omega
    rw [addRemaining, if_pos rfl]
    exact .ok h
  | succ fuel ih =>
    rw [addRemaining]
    split
    · rename_i heq
      subst heq
      exact .ok h
    · have hlt : ctr < srcData.length := by omega
      have hlit := hI.literal ctr out h hlt
      rw [← hsrc ctr hlt] at hlit
      rw [List.getElem?_eq_getElem hlt]
      exact hlit.bind fun out' h' => ih h' (by omega) (by omega)

end

/-- **The whole packet** is encoded, whatever the literals and back references keep. -/
theorem encodePacket_spec {e : MppcEnc} {srcData : List UInt8} {full : Prop}
    {I : Nat → OutBits → Prop} (hc : PacketCtx (packetCtx e srcData.length) srcData.length)
    (hI : StepInv (packetCtx e srcData.length) srcData.length full I)
    (h0 : I 0 ⟨e.outputBuffer, 0, 8⟩) (hh : HashBelow e.hashTable (max 1 e.historyOffset))
    (hsrc : ∀ i, (hi : i < srcData.length) →
      srcData[i] = e.historyBuffer.cells (e.historyOffset + i)) :
    Run.Ends full (encodePacket e srcData) fun (hash, out) =>
      I srcData.length out ∧ HashBelow hash (e.historyOffset + srcData.length) := by
  unfold encodePacket
  refine (encodeFront_spec hc hI h0 hh).bind fun s hs => ?_
  refine (mainLoop_spec hc hI _ hs (by omega)).bind fun s hs => ?_
  refine (addRemaining_spec hI hsrc (srcData.length + 1) hs.out hs.ctr_le (by omega)).bind
    fun out hout => .ok ⟨hout, hs.hash.mono ?_⟩
  have := hs.ctr_le
  simp only [packetCtx]
  omega

end Xrdp.Mppc
