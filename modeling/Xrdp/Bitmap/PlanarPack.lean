import Xrdp.Bitmap.PlanarFormat

/-!
# Packed lines decode to themselves

`fout` cuts raw bytes and a run into segments whose control bytes the decoder tells apart; `fpack`
cuts a line into such pieces.

* `fout_reads` — raw bytes and a run of their last byte are read back.
* `packLine_reads`, `decodeRows_packRows` — so are a line and a plane.
-/

namespace Xrdp.Bitmap

/-! ## Control bytes -/

theorem controlByte_raw (n : Nat) : controlByte (n <<< 4) = (n, 0) := by
  rw [Nat.shiftLeft_eq]
  unfold controlByte
  rw [if_neg (by omega), if_neg (by omega)]
  congr 1 <;> omega

theorem controlByte_both {n r : Nat} (hr : r ≤ 15) (hr12 : r ≠ 1 ∧ r ≠ 2) :
    controlByte (n <<< 4 ||| r) = (n, r) := by
  rw [← Nat.shiftLeft_add_eq_or_of_lt (by omega : r < 2 ^ 4), Nat.shiftLeft_eq]
  unfold controlByte
  rw [if_neg (by omega), if_neg (by omega)]
  congr 1 <;> omega

theorem controlByte_big {r : Nat} (h16 : 16 ≤ r) (h47 : r ≤ 47) :
    controlByte (((r &&& 0xF) <<< 4) ||| ((r &&& 0xF0) >>> 4)) = (0, r) ∧
      (((r &&& 0xF) <<< 4) ||| ((r &&& 0xF0) >>> 4)) < 256 := by
  have h : ∀ r : Fin 48, 16 ≤ r.val →
      controlByte (((r.val &&& 0xF) <<< 4) ||| ((r.val &&& 0xF0) >>> 4)) = (0, r.val) ∧
        (((r.val &&& 0xF) <<< 4) ||| ((r.val &&& 0xF0) >>> 4)) < 256 := by decide
  exact h ⟨r, by omega⟩ h16

/-! ## `fout` -/

theorem getLastD_append_replicate (raw : List UInt8) (r : Nat) (v last : UInt8)
    (hv : raw.getLastD last = v) : (raw ++ List.replicate r v).getLastD last = v := by
  cases r with
  | zero => simpa using hv
  | succ r => rw [List.replicate_succ', ← List.append_assoc]; simp

/-- Raw bytes in segments of at most fifteen, until at most thirteen are left. -/
theorem foutRaw_spec (fuel : Nat) {collen : Nat} {col : List UInt8} (hf : collen ≤ fuel)
    (hlen : collen ≤ col.length) (last : UInt8) :
    ∃ k out, k ≤ collen ∧ collen - k ≤ 13 ∧
      foutRaw fuel collen col = (out, collen - k, col.drop k) ∧
      RowReads last out (col.take k) ((col.take k).getLastD last) := by
  induction fuel generalizing collen col last with
  | zero => exact ⟨0, [], by omega, by omega, rfl, RowReads.nil last⟩
  | succ fuel ih =>
    rw [foutRaw]
    split
    · set l := min collen 15 with hl
      have hl15 : l ≤ 15 := min_le_right _ _
      have hlc : l ≤ collen := min_le_left _ _
      have hl1 : 1 ≤ l := by omega
      have htake : (col.take l).length = l := by simp; omega
      have hseg : RowReads last (UInt8.ofNat (l <<< 4) :: col.take l) (col.take l)
          ((col.take l).getLastD last) := by
        have := @RowReads.segment last _ _ _ _ _
          (by rw [Nat.shiftLeft_eq]; omega) (controlByte_raw l) htake (by omega) rfl
        simpa using this
      obtain ⟨k, out, hk, h13, heq, hreads⟩ := @ih (collen - l) (col.drop l)
        (by omega) (by simp; omega) ((col.take l).getLastD last)
      refine ⟨l + k, _, by omega, by omega, by
        simp only [heq, List.drop_drop]
        rw [show collen - l - k = collen - (l + k) by omega], ?_⟩
      have hsplit : col.take (l + k) = col.take l ++ (col.drop l).take k := List.take_add
      have hlast : ((col.drop l).take k).getLastD ((col.take l).getLastD last) =
          (col.take (l + k)).getLastD last := by
        rw [hsplit]
        cases hd : (col.drop l).take k with
        | nil => simp
        | cons b bs => simp [List.getLastD_eq_getLast?]
      have := hseg.append hreads
      rwa [← hsplit, hlast] at this
    · exact ⟨0, [], by omega, by omega, rfl, RowReads.nil last⟩

/-- What is left of the raw bytes, and the run. -/
theorem foutRun_reads (fuel : Nat) {raw rest : List UInt8} {replen : Nat} {v last : UInt8}
    (hf : replen + min 1 raw.length ≤ fuel) (h13 : raw.length ≤ 13) (hv : raw.getLastD last = v) :
    RowReads last (foutRun fuel raw.length replen (raw ++ (List.replicate replen v ++ rest)))
      (raw ++ List.replicate replen v) v := by
  induction fuel generalizing raw replen last with
  | zero =>
    obtain rfl : replen = 0 := by omega
    obtain rfl : raw = [] := List.length_eq_zero_iff.1 (by omega)
    obtain rfl : last = v := hv
    exact RowReads.nil last
  | succ fuel ih =>
    rw [foutRun]
    split
    · rename_i h
      obtain ⟨h0, rfl⟩ := h
      obtain rfl : raw = [] := List.length_eq_zero_iff.1 h0
      obtain rfl : last = v := hv
      exact RowReads.nil last
    split
    · rename_i h
      obtain ⟨h0, h15⟩ := h
      obtain rfl : raw = [] := List.length_eq_zero_iff.1 h0
      obtain rfl : last = v := hv
      set l := min replen 47 with hl
      have hl47 : l ≤ 47 := min_le_right _ _
      have hlr : l ≤ replen := min_le_left _ _
      have hl16 : 16 ≤ l := by omega
      obtain ⟨hcb, hc⟩ := controlByte_big hl16 hl47
      have hseg := @RowReads.segment last _ _ _ _ [] hc hcb rfl (by omega) rfl
      have hdrop : (List.replicate replen last ++ rest).drop l =
          [] ++ (List.replicate (replen - l) last ++ rest) := by
        rw [List.drop_append_of_le_length (by simpa using hlr), List.drop_replicate]
        rfl
      have hrec := @ih [] (replen - l) _ (by simp; omega) (by simp) rfl
      have hpart : [] ++ List.replicate l last ++ ([] ++ List.replicate (replen - l) last) =
          List.replicate replen last := by
        rw [List.nil_append, List.nil_append, ← List.replicate_add, Nat.add_sub_of_le hlr]
      have := hseg.append hrec
      rw [List.nil_append (List.replicate (replen - l) last ++ rest), List.getLastD_nil,
        hpart] at this
      simpa only [List.nil_append, hdrop, List.singleton_append, List.length_nil] using this
    · rename_i hne hbig
      set l := min replen 15 with hl
      have hl15 : l ≤ 15 := min_le_right _ _
      have hlr : l ≤ replen := min_le_left _ _
      have hpos : 0 < raw.length + l := by
        rcases Nat.eq_zero_or_pos raw.length with h0 | h0
        · have : replen ≠ 0 := fun h => hne ⟨h0, h⟩
          omega
        · omega
      have hrep : List.replicate replen v = List.replicate l v ++ List.replicate (replen - l) v := by
        rw [← List.replicate_add, Nat.add_sub_of_le hlr]
      have hrec := @ih [] (replen - l) _ (by simp; omega) (by simp) rfl
      simp only [List.nil_append, List.length_nil] at hrec
      by_cases h3 : l < 3
      · -- a run of one or two bytes goes out as raw bytes
        simp only [if_pos h3]
        have hblock : (raw ++ List.replicate l v).length = raw.length + l := by simp
        have htake : (raw ++ (List.replicate replen v ++ rest)).take (raw.length + l) =
            raw ++ List.replicate l v := by
          rw [hrep, List.append_assoc, ← List.append_assoc raw, List.take_left' hblock]
        have hdrop : (raw ++ (List.replicate replen v ++ rest)).drop (raw.length + l + 0) =
            List.replicate (replen - l) v ++ rest := by
          rw [hrep, List.append_assoc, ← List.append_assoc raw, Nat.add_zero,
            List.drop_left' hblock]
        have hseg := RowReads.segment (v := v)
         
         
          (by rw [Nat.or_zero, Nat.shiftLeft_eq]; omega) (controlByte_both (by omega) (by omega))
          hblock (by omega) (getLastD_append_replicate raw l v last hv)
        have := hseg.append hrec
        rw [List.replicate_zero, List.append_nil, List.append_assoc, ← hrep] at this
        rwa [htake, hdrop]
      · simp only [if_neg h3]
        have htake : (raw ++ (List.replicate replen v ++ rest)).take raw.length = raw :=
          List.take_left' rfl
        have hdrop : (raw ++ (List.replicate replen v ++ rest)).drop (raw.length + l) =
            List.replicate (replen - l) v ++ rest := by
          rw [hrep, List.append_assoc, ← List.append_assoc raw, List.drop_left' (by simp)]
        have hseg := RowReads.segment (v := v)
         
          (by
            rw [← Nat.shiftLeft_add_eq_or_of_lt (by omega : l < 2 ^ 4), Nat.shiftLeft_eq]
            omega)
          (controlByte_both (by omega) (by omega)) rfl (by omega) hv
        have := hseg.append hrec
        rw [List.append_assoc, ← hrep] at this
        rwa [htake, hdrop]

/-- **Raw bytes and a run of their last byte are read back.** -/
theorem fout_reads {raw rest : List UInt8} {replen : Nat} {v last : UInt8}
    (hv : raw.getLastD last = v) :
    RowReads last (fout raw.length replen (raw ++ (List.replicate replen v ++ rest)))
      (raw ++ List.replicate replen v) v := by
  obtain ⟨k, out, hk, h13, heq, hreads⟩ := @foutRaw_spec raw.length _
    (raw ++ (List.replicate replen v ++ rest)) le_rfl (by simp) last
  have htake : (raw ++ (List.replicate replen v ++ rest)).take k = raw.take k :=
    List.take_append_of_le_length hk
  have hdrop : (raw ++ (List.replicate replen v ++ rest)).drop k =
      raw.drop k ++ (List.replicate replen v ++ rest) := List.drop_append_of_le_length hk
  rw [htake] at hreads
  have hv' : (raw.drop k).getLastD ((raw.take k).getLastD last) = v := by
    rw [← hv]
    conv_rhs => rw [← List.take_append_drop k raw]
    cases hd : raw.drop k with
    | nil => simp
    | cons b bs => simp [List.getLastD_eq_getLast?]
  have hrun := @foutRun_reads (replen + 1) _ rest replen _ _ (by omega) (by simpa using h13) hv'
  have := hreads.append hrun
  rw [← List.append_assoc (raw.take k), List.take_append_drop, List.length_drop] at this
  simpa only [fout, heq, hdrop] using this

/-! ## Lines -/

/-- The scan of a line: `raw` and the run of `cur` are pending, `rest` is ahead. -/
theorem packLoop_reads (rest : List UInt8) {raw : List UInt8} {replen : Nat} {cur last : UInt8}
    (hv : raw.getLastD last = cur) :
    ∃ last', RowReads last
      (packLoop (raw ++ (List.replicate replen cur ++ rest)) raw.length replen cur rest)
      (raw ++ (List.replicate replen cur ++ rest)) last' := by
  induction rest generalizing raw replen cur last with
  | nil =>
    have := @fout_reads _ [] replen _ _ hv
    rw [List.append_nil] at this ⊢
    exact ⟨_, this⟩
  | cons next rest ih =>
    rw [packLoop]
    split
    · rename_i heq
      subst heq
      have := @ih _ (replen + 1) _ _ hv
      rwa [List.replicate_succ', List.append_assoc, List.singleton_append] at this
    split
    · split
      · have := @ih (raw ++ List.replicate replen cur ++ [next]) 0 next last (by simp)
        simpa [Nat.add_assoc] using this
      · have hf := @fout_reads _ (next :: rest) replen _ _ hv
        obtain ⟨last', hp⟩ := @ih [next] 0 _ _ rfl
        have := hf.append hp
        refine ⟨last', ?_⟩
        simpa using this
    · rename_i h0
      obtain rfl : replen = 0 := by omega
      have := @ih (raw ++ [next]) 0 next last (by simp)
      simpa using this

/-- **A packed line is read back.** -/
theorem packLine_reads (b : UInt8) (rest : List UInt8) :
    ∃ last', RowReads 0 (packLine b rest) (b :: rest) last' := by
  rw [packLine]
  split
  · rename_i h0
    subst h0
    have := @packLoop_reads rest [] 1 _ 0 rfl
    simpa using this
  · have := @packLoop_reads rest [b] 0 _ 0 rfl
    simpa using this

/-- The bytes `fpack` writes for rows that are not empty. -/
def packRows (rows : List (List UInt8)) : List UInt8 :=
  rows.flatMap fun row => packLine (row.headD 0) row.tail

/-- **Packed rows are read back.** -/
theorem decodeRows_packRows {cx : Nat} (hcx : 0 < cx) {rows : List (List UInt8)}
    (h : ∀ row ∈ rows, row.length = cx) (rest : List UInt8) :
    decodeRows cx rows.length (packRows rows ++ rest) = some (rows, rest) := by
  induction rows with
  | nil => rfl
  | cons row rows ih =>
    obtain ⟨hrow, hrows⟩ := List.forall_mem_cons.1 h
    cases row with
    | nil =>
      rw [List.length_nil] at hrow
      omega
    | cons b row =>
      obtain ⟨last', hr⟩ := packLine_reads b row
      have hread := hr 0 (packRows rows ++ rest)
      rw [Nat.add_zero, hrow, decodeRow.eq_def 0, if_pos rfl] at hread
      have hpack : packRows ((b :: row) :: rows) = packLine b row ++ packRows rows := rfl
      rw [hpack, List.append_assoc, List.length_cons, decodeRows, hread, Option.map_some,
        Option.bind_some]
      simp only [ih hrows, Option.map_some, List.append_nil]

/-! ## Sizes -/

/-- Lines of one or two bytes never get shorter. -/
theorem packLine_length {b : UInt8} {rest : List UInt8} (h : rest.length ≤ 1) :
    (packLine b rest).length = rest.length + 2 := by
  match rest with
  | [] => rw [packLine]; split <;> rfl
  | [c] =>
    rw [packLine]
    split
    · rw [packLoop]
      split
      · rfl
      · rfl
    · rw [packLoop]
      split
      · rfl
      · rfl

end Xrdp.Bitmap
