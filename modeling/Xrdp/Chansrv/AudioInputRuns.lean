import Xrdp.Chansrv.AudioInput
import Xrdp.Lib.Fields
import Xrdp.Lib.Runs

/-!
# What the client may do with the audio input channel

* `formatsOf` — the formats that are in a message.
* `Right` — what is promised of a step: it ends inside the memory, what is written stays inside the announced size,
  a fragment that is too large is refused, and the channel is opened with a format that the client has sent.
* `Fits` — the steps for which it holds; `audio_input_iff` — in all runs.
-/

namespace Xrdp.Chansrv.AudioInput

open Wire Runs

/-! ## What is promised -/

/-- The fields of a format, and what is behind them. -/
def getFields (s : List UInt8) : Option (WaveFormat × List UInt8) := do
  let (wFormatTag, s) ← getLe 2 s
  let (nChannels, s) ← getLe 2 s
  let (nSamplesPerSec, s) ← getLe 4 s
  let (nAvgBytesPerSec, s) ← getLe 4 s
  let (nBlockAlign, s) ← getLe 2 s
  let (wBitsPerSample, s) ← getLe 2 s
  let (cbSize, s) ← getLe 2 s
  return (⟨wFormatTag, nChannels, nSamplesPerSec, nAvgBytesPerSec, nBlockAlign, wBitsPerSample, cbSize, []⟩, s)

/-- A format with its data. -/
def getFormat (s : List UInt8) : Option (WaveFormat × List UInt8) := do
  let (wf, s) ← getFields s
  let (data, s) ← getBytes wf.cbSize s
  return ({ wf with data := data }, s)

def getFormats : Nat → List UInt8 → Option (List WaveFormat)
  | 0, _ => some []
  | n + 1, s => do
    let (wf, s) ← getFormat s
    let wfs ← getFormats n s
    return wf :: wfs

/-- The number of formats, which is in front of them. -/
def formatCount (s : List UInt8) : Int := int (leVal (s.take 4))

/-- The formats in a message, if all of them are there. -/
def formatsOf : List UInt8 → Option (List WaveFormat)
  | 2 :: s => if s.length < 8 ∨ formatCount s < 0 then none else getFormats (formatCount s).toNat (s.drop 8)
  | _ => none

/-- The bytes of a fragment. -/
def Event.bytes : Event → List UInt8
  | first d _ => d.1
  | data d => d.1
  | closeResponse => []

/-- The stream that a fragment is for. -/
def streamOf (a : Audin) : Event → Option InStream
  | .first _ totalBytes => some ⟨totalBytes.toInt, []⟩
  | .data _ => a.gInS
  | .closeResponse => none

/-- The message that is complete with this. -/
def completed (a : Audin) (e : Event) : Option (List UInt8) :=
  match streamOf a e with
  | some st => if ((st.got ++ e.bytes).length : Int) = st.total then some (st.got ++ e.bytes) else none
  | none =>
    match e with
    | .closeResponse => none
    | e => some e.bytes

/-- **What is promised** of a step. -/
structure Right (a : Audin) (e : Event) (out : Outcome) : Prop where
  inside : ∀ st ∈ out.audin.gInS, (st.got.length : Int) ≤ st.total
  refused : ∀ st ∈ streamOf a e, st.total < (st.got ++ e.bytes).length → out.rv = 1 ∧ out.audin.gInS = some st
  opens : ∀ m ∈ out.sent, m.head? = some 3 → ∃ msg ∈ completed a e, ∃ formats, formatsOf msg = some formats ∧
    ∃ i : Nat, a.gCurrentFormat = i ∧ ∃ wf ∈ formats[i]?, m = openMessage i wf

/-! ## The condition -/

/-- A message with formats has some; if all that it promises are there, the current number is that of one of them,
and its data fits into the answer; and the table of formats can be asked for. -/
def MessageFits (current : Int) : List UInt8 → Prop
  | 2 :: s => 8 ≤ s.length → 0 < formatCount s ∧ (formatCount s = 2 ^ 31 - 1 → s.length < 26) ∧
      ∀ formats, formatsOf (2 :: s) = some formats →
        ∃ i : Nat, current = i ∧ ∃ wf ∈ formats[i]?, wf.cbSize ≤ 8165
  | _ => True

/-- No negative size is announced, and the message that is complete, if one is, meets its condition. -/
structure Fits (a : Audin) (e : Event) : Prop where
  total : ∀ data totalBytes, e = .first data totalBytes → 0 ≤ totalBytes.toInt
  message : ∀ m ∈ completed a e, MessageFits a.gCurrentFormat m

/-! ## Reading formats -/

theorem inLe_eq_ok {n : Nat} {s : List UInt8} {r : Nat × List UInt8} : inLe n s = .ok r ↔ getLe n s = some r := by
  unfold inLe
  cases getLe n s with
  | none => simp
  | some r' => simp

theorem inLe_ok {n : Nat} {s : List UInt8} (h : n ≤ s.length) : inLe n s = .ok (leVal (s.take n), s.drop n) :=
  inLe_eq_ok.2 (getLe_of_le h)

theorem inBytes_ok {n : Nat} {s : List UInt8} (h : n ≤ s.length) : inBytes n s = .ok (s.take n, s.drop n) := by
  unfold inBytes
  rw [getBytes_of_le h]

/-- The fields are there if there are enough bytes. -/
theorem fields_ok {s : List UInt8} (h : 18 ≤ s.length) : ∃ wf, inFormat s = .ok (wf, s.drop 18) ∧
    getFields s = some (wf, s.drop 18) ∧ wf.data = [] := by
  unfold inFormat getFields
  simp (disch := first | omega | (simp only [List.length_drop]; omega)) only [inLe_ok, getLe_of_le, Run.ok_bind,
    Option.bind_eq_bind, Option.bind_some, List.drop_drop, Nat.reduceAdd]
  exact ⟨_, rfl, rfl, rfl⟩

theorem getFields_length {s : List UInt8} {r : WaveFormat × List UInt8} (h : getFields s = some r) : 18 ≤ s.length := by
  unfold getFields at h
  simp only [Option.bind_eq_bind, Option.bind_eq_some_iff] at h
  obtain ⟨⟨v₁, s₁⟩, h₁, ⟨v₂, s₂⟩, h₂, ⟨v₃, s₃⟩, h₃, ⟨v₄, s₄⟩, h₄, ⟨v₅, s₅⟩, h₅, ⟨v₆, s₆⟩, h₆, ⟨v₇, s₇⟩, h₇, -⟩ := h
  obtain ⟨hle₁, rfl⟩ := getLe_length h₁
  obtain ⟨hle₂, rfl⟩ := getLe_length h₂
  obtain ⟨hle₃, rfl⟩ := getLe_length h₃
  obtain ⟨hle₄, rfl⟩ := getLe_length h₄
  obtain ⟨hle₅, rfl⟩ := getLe_length h₅
  obtain ⟨hle₆, rfl⟩ := getLe_length h₆
  obtain ⟨hle₇, rfl⟩ := getLe_length h₇
  simp only [List.length_drop] at hle₂ hle₃ hle₄ hle₅ hle₆ hle₇
  omega

/-- What a pass of the loop writes. -/
theorem write_ok {t : FormatTable} {i : Nat} (hi : i < t.size) (wf : WaveFormat) :
    ∃ t', writeTable (some t) i wf = .ok (some t') ∧ t'.size = t.size ∧ t'.cells i = some wf ∧
      ∀ j, j ≠ i → t'.cells j = t.cells j := by
  exact ⟨_, congrArg (Except.map some) (Buf.write_ok hi (some wf)), rfl, if_pos rfl, fun j hj => if_neg hj⟩

/-- **The loop stays in the table**: it gets all formats, or one of them is not there. -/
theorem formatsLoop_table (n index : Nat) (t : FormatTable) (s : List UInt8) (hroom : index + n < t.size) :
    ∃ done t', formatsLoop n index (some t) s = .ok (done, some t') ∧ t'.size = t.size ∧
      (∀ j, j < index ∨ index + n ≤ j → t'.cells j = t.cells j) ∧
      (done = true → ∃ wfs, getFormats n s = some wfs ∧ wfs.length = n ∧ ∀ k < n, t'.cells (index + k) = wfs[k]?) ∧
      (done = false → getFormats n s = none) := by
  induction n generalizing index t s with
  | zero =>
    refine ⟨true, t, rfl, rfl, fun _ _ => rfl, fun _ => ⟨[], rfl, rfl, fun k hk => absurd hk (Nat.not_lt_zero k)⟩, ?_⟩
    exact fun h => nomatch h
  | succ n ih =>
    rw [formatsLoop, getFormats]
    by_cases hlen : 18 ≤ s.length
    · obtain ⟨wf, hin, hget, hnone⟩ := fields_ok hlen
      obtain ⟨t₁, hwrite₁, hsize₁, hcell₁, hother₁⟩ := write_ok (t := t) (i := index) (by omega) wf
      rw [if_neg (by simpa [checkRem] using hlen), hin, Run.ok_bind]
      dsimp only
      rw [hwrite₁, Run.ok_bind]
      -- the rest of the loop, with the format in the table
      have hrest : ∀ (t₂ : FormatTable) (wf' : WaveFormat) (s' : List UInt8), t₂.size = t.size →
          t₂.cells index = some wf' → (∀ j, j ≠ index → t₂.cells j = t.cells j) → getFormat s = some (wf', s') →
          ∃ done t', formatsLoop n (index + 1) (some t₂) s' = .ok (done, some t') ∧ t'.size = t.size ∧
            (∀ j, j < index ∨ index + (n + 1) ≤ j → t'.cells j = t.cells j) ∧
            (done = true → ∃ wfs, (do
              let (wf, s) ← getFormat s
              let wfs ← getFormats n s
              return wf :: wfs) = some wfs ∧ wfs.length = n + 1 ∧ ∀ k < n + 1, t'.cells (index + k) = wfs[k]?) ∧
            (done = false → (do
              let (wf, s) ← getFormat s
              let wfs ← getFormats n s
              return wf :: wfs) = none) := by
        intro t₂ wf' s' hsize₂ hcell₂ hother₂ hformat
        obtain ⟨done, t', hloop, hsize, hother, hall, hmissing⟩ := ih (index + 1) t₂ s' (by omega)
        refine ⟨done, t', hloop, hsize.trans hsize₂, fun j hj => ?_, fun hdone => ?_, fun hdone => ?_⟩
        · rw [hother j (by omega), hother₂ j (by omega)]
        · obtain ⟨wfs, hwfs, hlength, hcells⟩ := hall hdone
          refine ⟨wf' :: wfs, ?_, by rw [List.length_cons, hlength], fun k hk => ?_⟩
          · rw [hformat]
            simp only [Option.bind_eq_bind, Option.bind_some, hwfs]
            rfl
          · cases k with
            | zero =>
              rw [Nat.add_zero, hother index (.inl (Nat.lt_succ_self index)), hcell₂]
              rfl
            | succ k =>
              rw [List.getElem?_cons_succ, ← hcells k (by omega)]
              congr 1
              omega
        · rw [hformat]
          simp only [Option.bind_eq_bind, Option.bind_some, hmissing hdone]
          rfl
      have hformat : getFormat s =
          (getBytes wf.cbSize (s.drop 18)).bind fun r => some ({ wf with data := r.1 }, r.2) := by
        unfold getFormat
        rw [hget]
        rfl
      split_ifs with hdata hmissing
      · -- the data is not there
        have hlt : (s.drop 18).length < wf.cbSize := by simpa [checkRem] using hmissing
        refine ⟨false, t₁, rfl, hsize₁, fun j hj => hother₁ j (by omega), fun h => (nomatch h), fun _ => ?_⟩
        have hnone : getBytes wf.cbSize (s.drop 18) = none := if_neg (by omega)
        rw [hformat, hnone]
        rfl
      · have hle : wf.cbSize ≤ (s.drop 18).length := by simpa [checkRem] using hmissing
        obtain ⟨t₂, hwrite₂, hsize₂, hcell₂, hother₂⟩ := write_ok (t := t₁) (i := index) (by omega)
          { wf with data := (s.drop 18).take wf.cbSize }
        rw [inBytes_ok hle, Run.ok_bind]
        dsimp only
        rw [hwrite₂, Run.ok_bind]
        refine hrest t₂ _ _ (hsize₂.trans hsize₁) hcell₂ (fun j hj => (hother₂ j hj).trans (hother₁ j hj)) ?_
        rw [hformat, getBytes_of_le hle]
        rfl
      · refine hrest t₁ wf _ hsize₁ hcell₁ hother₁ ?_
        have hzero : wf.cbSize = 0 := by omega
        have hempty : getBytes wf.cbSize (s.drop 18) = some ([], s.drop 18) := by
          rw [hzero, getBytes_of_le (Nat.zero_le _)]
          rfl
        rw [hformat, hempty, ← hnone]
        rfl
    · refine ⟨false, t, if_pos (by simpa [checkRem] using hlen), rfl, fun _ _ => rfl, fun h => (nomatch h), fun _ => ?_⟩
      have hfields : getFields s = none := by
        cases hget : getFields s with
        | none => rfl
        | some r => exact absurd (getFields_length hget) hlen
      unfold getFormat
      rw [hfields]
      rfl

/-- The data of a format is as long as it says. -/
theorem data_length {n : Nat} {s : List UInt8} {wfs : List WaveFormat} (h : getFormats n s = some wfs) :
    ∀ wf ∈ wfs, wf.data.length = wf.cbSize := by
  induction n generalizing s wfs with
  | zero =>
    cases h
    exact fun _ hwf => nomatch hwf
  | succ n ih =>
    rw [getFormats] at h
    simp only [Option.bind_eq_bind, Option.bind_eq_some_iff] at h
    obtain ⟨⟨wf, s₁⟩, hformat, wfs', hrest, h⟩ := h
    cases h
    refine List.forall_mem_cons.2 ⟨?_, ih hrest⟩
    unfold getFormat at hformat
    simp only [Option.bind_eq_bind, Option.bind_eq_some_iff] at hformat
    obtain ⟨⟨wf', s₂⟩, -, ⟨data, s₃⟩, hdata, hwf⟩ := hformat
    cases hwf
    unfold getBytes at hdata
    split_ifs at hdata with hle
    cases hdata
    exact List.length_take_of_le hle

/-! ## Tables -/

/-- A table has an end. -/
def Ends (t : Option FormatTable) : Prop := ∀ t' ∈ t, ∃ i < t'.size, t'.cells i = none

theorem cleanupLoop_ok {t : FormatTable} {i : Nat} (hi : i < t.size) (hcell : t.cells i = none) (n index : Nat)
    (hle : index ≤ i) (hn : i < index + n) : cleanupLoop t n index = .ok () := by
  induction n generalizing index with
  | zero => omega
  | succ n ih =>
    rw [cleanupLoop, Buf.read_ok (by omega), Run.ok_bind]
    cases hat : t.cells index with
    | none => rfl
    | some wf =>
      have hne : index ≠ i := by
        rintro rfl
        rw [hcell] at hat
        cases hat
      exact ih (index + 1) (by omega) (by omega)

theorem cleanup_ok {a : Audin} (h : Ends a.gClientFormats) :
    cleanupClientFormats a = .ok { a with gClientFormats := none } := by
  unfold cleanupClientFormats
  cases htable : a.gClientFormats with
  | none =>
    cases a
    cases htable
    rfl
  | some t =>
    obtain ⟨i, hi, hcell⟩ := h t (by rw [htable]; rfl)
    dsimp only
    rw [cleanupLoop_ok hi hcell (t.size + 1) 0 (Nat.zero_le i) (by omega)]
    rfl

theorem int_eq {v : Int} (hlow : -2 ^ 31 ≤ v) (hhigh : v < 2 ^ 31) : int v = v := by
  unfold int
  rw [Int.bmod_def]
  split_ifs <;> omega

theorem int_range (v : Int) : -2 ^ 31 ≤ int v ∧ int v < 2 ^ 31 := by
  unfold int
  rw [Int.bmod_def]
  constructor <;> split_ifs <;> omega

theorem openMessage_length (i : Int) (wf : WaveFormat) (h : wf.data.length = wf.cbSize) :
    (openMessage i wf).length = 27 + wf.cbSize := by
  simp only [openMessage, formatBytes, List.length_cons, List.length_append, leBytes_length, List.length_take, h,
    Nat.min_self]
  omega

/-- A table in which there is nothing. -/
theorem readTable_empty {t : Option FormatTable} (h : ∀ t' ∈ t, ∀ i, t'.cells i = none) (i : Int) :
    readTable t i = .ok none ∨ readTable t i = .error .outOfBounds := by
  unfold readTable
  cases t with
  | none => exact .inr rfl
  | some t =>
    dsimp only
    split_ifs
    · exact .inr rfl
    · unfold Buf.read
      split_ifs
      · rw [h t rfl]
        exact .inl rfl
      · exact .inr rfl

/-- The formats are read into a new table. -/
theorem audinProcessFormats_eq {a : Audin} (h : Ends a.gClientFormats) (s : List UInt8) :
    audinProcessFormats a s =
    if s.length < 8 then .ok ⟨1, [], { a with gClientFormats := none }⟩
    else do
      let (done, t) ← formatsLoop (formatCount s).toNat 0 (newTable (int (formatCount s + 1))) (s.drop 8)
      if done then do
        let opened ← audinSendOpen { a with gClientFormats := t }
        return ⟨0, [opened], { a with gClientFormats := t }⟩
      else return ⟨1, [], { a with gClientFormats := t }⟩ := by
  unfold audinProcessFormats
  rw [cleanup_ok h, Run.ok_bind]
  by_cases hlen : s.length < 8
  · rw [if_pos (by simp [checkRem, hlen]), if_pos hlen]
    rfl
  · rw [if_neg (by simpa [checkRem] using hlen), if_neg hlen, inLe_ok (by omega), Run.ok_bind]
    dsimp only
    rw [inBytes_ok (by rw [List.length_drop]; omega), Run.ok_bind]
    dsimp only
    rw [List.drop_drop]
    rfl

/-- The channel is opened with what the table has at the current number. -/
theorem audinSendOpen_at {a : Audin} {i : Nat} (hcurrent : a.gCurrentFormat = i) {t : FormatTable} (hi : i < t.size)
    {wf : WaveFormat} (hcell : t.cells i = some wf) (hdata : wf.data.length = wf.cbSize) :
    audinSendOpen { a with gClientFormats := some t } =
      if wf.cbSize ≤ 8165 then .ok (openMessage i wf) else .error .outOfBounds := by
  have hread : readTable (some t) a.gCurrentFormat = .ok (some wf) := by
    rw [hcurrent]
    unfold readTable
    dsimp only
    rw [if_neg (by omega), Int.toNat_natCast, Buf.read_ok hi, hcell]
  unfold audinSendOpen
  dsimp only
  rw [hread, Run.ok_bind]
  dsimp only
  rw [hcurrent, openMessage_length i wf hdata]
  by_cases hle : wf.cbSize ≤ 8165
  · rw [if_neg (by omega), if_pos hle]
    rfl
  · rw [if_pos (by omega), if_neg hle]

/-- **A message with formats** is handled if it meets its condition, and otherwise something is read or written
that is not there. -/
theorem formats_spec {a : Audin} (h : Ends a.gClientFormats) (s : List UInt8) :
    (MessageFits a.gCurrentFormat (2 :: s) → ∃ rv sent t,
      audinProcessFormats a s = .ok ⟨rv, sent, { a with gClientFormats := t }⟩ ∧ Ends t ∧
        ∀ m ∈ sent, ∃ formats, formatsOf (2 :: s) = some formats ∧
          ∃ i : Nat, a.gCurrentFormat = i ∧ ∃ wf ∈ formats[i]?, m = openMessage i wf) ∧
    ∀ out, audinProcessFormats a s = .ok out → MessageFits a.gCurrentFormat (2 :: s) := by
  have hends : Ends none := fun _ ht => by cases ht
  rw [audinProcessFormats_eq h]
  by_cases hlen : s.length < 8
  · rw [if_pos hlen]
    refine ⟨fun _ => ⟨1, [], none, rfl, hends, fun _ hm => by cases hm⟩, fun _ _ hle => absurd hle (by omega)⟩
  rw [if_neg hlen]
  obtain ⟨hlow, hhigh⟩ := int_range (leVal (s.take 4))
  change -2 ^ 31 ≤ formatCount s at hlow
  change formatCount s < 2 ^ 31 at hhigh
  rcases lt_or_ge 0 (formatCount s) with hpos | hnone
  swap
  · -- there are no formats, and the one with the current number is looked for
    have hzero : (formatCount s).toNat = 0 := by omega
    have hempty : ∀ t' ∈ newTable (int (formatCount s + 1)), ∀ i, t'.cells i = none := by
      intro t' ht' i
      unfold newTable at ht'
      split_ifs at ht'
      · cases ht'
      · rw [← Option.mem_some_iff.1 ht']
    have hstuck : audinSendOpen { a with gClientFormats := newTable (int (formatCount s + 1)) } =
        .error .outOfBounds := by
      unfold audinSendOpen
      dsimp only
      rcases readTable_empty hempty a.gCurrentFormat with hread | hread
      · rw [hread]
        rfl
      · rw [hread]
        rfl
    rw [hzero, formatsLoop, Run.ok_bind]
    dsimp only
    rw [if_pos rfl, hstuck]
    refine ⟨fun hfits => ?_, fun out hout => by cases hout⟩
    have hcount := (hfits (by omega)).1
    omega
  have hformats : formatsOf (2 :: s) = getFormats (formatCount s).toNat (s.drop 8) := if_neg (by omega)
  by_cases hmax : formatCount s = 2 ^ 31 - 1
  · -- the table is too large to be asked for
    have htable : newTable (int (formatCount s + 1)) = none := by
      have hwrap : int (2 ^ 31 - 1 + 1) = -2 ^ 31 := by decide
      rw [hmax, hwrap]
      exact if_pos (by omega)
    obtain ⟨n, hn⟩ : ∃ n, (formatCount s).toNat = n + 1 := ⟨(formatCount s).toNat - 1, by omega⟩
    rw [htable, hn, formatsLoop]
    by_cases hshort : (s.drop 8).length < 18
    · rw [if_pos (by simpa [checkRem] using hshort), Run.ok_bind]
      refine ⟨fun _ => ⟨1, [], none, rfl, hends, fun _ hm => by cases hm⟩, fun _ _ _ => ?_⟩
      rw [List.length_drop] at hshort
      refine ⟨hpos, fun _ => by omega, fun wfs hwfs => ?_⟩
      rw [hformats, hn, getFormats] at hwfs
      simp only [Option.bind_eq_bind, Option.bind_eq_some_iff] at hwfs
      obtain ⟨⟨wf, s₁⟩, hformat, -⟩ := hwfs
      unfold getFormat at hformat
      simp only [Option.bind_eq_bind, Option.bind_eq_some_iff] at hformat
      obtain ⟨r, hfields, -⟩ := hformat
      have hlen' := getFields_length hfields
      rw [List.length_drop] at hlen'
      omega
    · obtain ⟨wf, hin, -, -⟩ := fields_ok (Nat.le_of_not_lt hshort)
      rw [if_neg (by simpa [checkRem] using hshort), hin]
      rw [List.length_drop] at hshort
      refine ⟨fun hfits => ?_, fun out hout => by cases hout⟩
      have hlt := (hfits (by omega)).2.1 hmax
      omega
  · have htable : newTable (int (formatCount s + 1)) = some ⟨(formatCount s + 1).toNat, fun _ => none⟩ := by
      rw [int_eq (by omega) (by omega)]
      exact if_neg (by omega)
    obtain ⟨done, t, hloop, hsize, hother, hall, hmissing⟩ := formatsLoop_table (formatCount s).toNat 0
      ⟨(formatCount s + 1).toNat, fun _ => none⟩ (s.drop 8) (by dsimp only; omega)
    have hend : Ends (some t) := by
      intro t' ht'
      cases ht'
      refine ⟨(formatCount s).toNat, by rw [hsize]; dsimp only; omega, ?_⟩
      rw [hother _ (.inr (by omega))]
    rw [htable, hloop, Run.ok_bind]
    dsimp only
    cases done with
    | false =>
      refine ⟨fun _ => ⟨1, [], some t, rfl, hend, fun _ hm => by cases hm⟩, fun _ _ _ => ?_⟩
      refine ⟨hpos, fun heq => absurd heq hmax, fun wfs hwfs => ?_⟩
      rw [hformats, hmissing rfl] at hwfs
      cases hwfs
    | true =>
      obtain ⟨wfs, hwfs, hlength, hcells⟩ := hall rfl
      rw [if_pos rfl]
      -- what the table has at the current number
      have hat : ∀ i : Nat, a.gCurrentFormat = i → ∀ wf ∈ wfs[i]?,
          audinSendOpen { a with gClientFormats := some t } =
            if wf.cbSize ≤ 8165 then .ok (openMessage i wf) else .error .outOfBounds := by
        intro i hi wf hwf
        have hlt : i < wfs.length := (List.getElem?_eq_some_iff.1 hwf).1
        have hcell := hcells i (by omega)
        rw [Nat.zero_add, hwf] at hcell
        exact audinSendOpen_at hi (by rw [hsize]; dsimp only; omega) hcell
          (data_length hwfs wf (List.mem_of_getElem? hwf))
      constructor
      · intro hfits
        obtain ⟨i, hi, wf, hwf, hle⟩ := (hfits (by omega)).2.2 wfs (hformats.trans hwfs)
        rw [hat i hi wf hwf, if_pos hle]
        refine ⟨0, [openMessage i wf], some t, rfl, hend, fun m hm => ?_⟩
        rw [List.mem_singleton.1 hm]
        exact ⟨wfs, hformats.trans hwfs, i, hi, wf, hwf, rfl⟩
      · intro out hout _
        refine ⟨hpos, fun heq => absurd heq hmax, fun wfs' hwfs' => ?_⟩
        cases (hformats.trans hwfs).symm.trans hwfs'
        obtain ⟨opened, hopened, -⟩ := Run.bind_eq_ok.1 hout
        have hopened' := hopened
        unfold audinSendOpen at hopened
        obtain ⟨wf?, hread, hwrite⟩ := Run.bind_eq_ok.1 hopened
        dsimp only at hread
        unfold readTable at hread
        dsimp only at hread
        split_ifs at hread with hneg
        obtain ⟨hlt, hcell⟩ := Buf.read_eq_ok hread
        cases wf? with
        | none => cases hwrite
        | some wf =>
          have hin : a.gCurrentFormat.toNat < (formatCount s).toNat := by
            by_contra hge
            rw [hother _ (.inr (by omega))] at hcell
            cases hcell
          have hcell' := hcells _ hin
          rw [Nat.zero_add, ← hcell] at hcell'
          refine ⟨a.gCurrentFormat.toNat, by omega, wf, hcell'.symm, ?_⟩
          by_contra hlarge
          rw [hat _ (by omega) wf hcell'.symm, if_neg hlarge] at hopened'
          cases hopened'

/-! ## Messages -/

/-- What a message does, if it is handled. -/
structure Handled (a : Audin) (m : List UInt8) (out : Outcome) : Prop where
  stream : out.audin.gInS = a.gInS
  ends : Ends out.audin.gClientFormats
  opens : ∀ sent ∈ out.sent, sent.head? = some 3 → ∃ formats, formatsOf m = some formats ∧
    ∃ i : Nat, a.gCurrentFormat = i ∧ ∃ wf ∈ formats[i]?, sent = openMessage i wf

/-- A message that changes no table and opens nothing. -/
theorem Handled.of_plain {a : Audin} (h : Ends a.gClientFormats) {m : List UInt8} {out : Outcome}
    (hstream : out.audin.gInS = a.gInS) (htable : out.audin.gClientFormats = a.gClientFormats)
    (hsent : out.sent = [] ∨ out.sent = [formatsMessage]) : Handled a m out where
  stream := hstream
  ends := by rwa [htable]
  opens sent hmem hopen := by
    rcases hsent with hnone | hformats
    · rw [hnone] at hmem
      cases hmem
    · rw [hformats, List.mem_singleton] at hmem
      rw [hmem] at hopen
      exact absurd hopen (by decide)

/-- A change of the format changes nothing else. -/
theorem formatChange_ok (a : Audin) (s : List UInt8) :
    ∃ rv current, audinProcessFormatChange a s = .ok ⟨rv, [], { a with gCurrentFormat := current }⟩ := by
  by_cases hshort : checkRem s 4 = true
  · have hread : inLe 4 s = .ok (leVal (s.take 4), s.drop 4) := inLe_ok (by simpa [checkRem] using hshort)
    refine ⟨0, int (leVal (s.take 4)), ?_⟩
    unfold audinProcessFormatChange
    simp [hshort, hread]
  · refine ⟨1, a.gCurrentFormat, ?_⟩
    unfold audinProcessFormatChange
    rw [if_pos (by simpa using hshort)]

/-- **A message is handled just if it meets its condition.** -/
theorem message_spec (env : Env) {a : Audin} (h : Ends a.gClientFormats) (m : List UInt8) :
    (MessageFits a.gCurrentFormat m → ∃ out, audinProcessMsg env a m = .ok out ∧ Handled a m out) ∧
    ∀ out, audinProcessMsg env a m = .ok out → MessageFits a.gCurrentFormat m := by
  cases m with
  | nil => exact ⟨fun _ => ⟨_, rfl, .of_plain h rfl rfl (.inl rfl)⟩, fun _ _ => trivial⟩
  | cons code s =>
    have hcode : audinProcessMsg env a (code :: s) = audinProcessCode env a s code.toNat := by
      have hvalue : leVal ((code :: s).take 1) = code.toNat := by simp [leVal]
      unfold audinProcessMsg
      rw [if_neg (by simp [checkRem]), inLe_ok (by simp), hvalue, Run.ok_bind]
      rfl
    rw [hcode]
    by_cases htwo : code = 2
    · subst htwo
      obtain ⟨hright, hwrong⟩ := formats_spec h s
      have hformats : audinProcessCode env a s (2 : UInt8).toNat = audinProcessFormats a s := by
        unfold audinProcessCode
        rw [if_neg (by decide), if_pos (by decide)]
      rw [hformats]
      refine ⟨fun hfits => ?_, hwrong⟩
      obtain ⟨rv, sent, t, hrun, hends, hopens⟩ := hright hfits
      exact ⟨_, hrun, rfl, hends, fun m hm _ => hopens m hm⟩
    · have hfits : MessageFits a.gCurrentFormat (code :: s) := by
        unfold MessageFits
        split
        · next heq =>
          cases heq
          exact absurd rfl htwo
        · trivial
      refine ⟨fun _ => ?_, fun _ _ => hfits⟩
      have hne : code.toNat ≠ 2 := fun heq => htwo (UInt8.toNat_inj.1 heq)
      unfold audinProcessCode
      rw [if_neg hne]
      split_ifs
      · unfold audinProcessVersion
        split_ifs with hshort
        · exact ⟨_, rfl, .of_plain h rfl rfl (.inl rfl)⟩
        · rw [inLe_ok (by simpa [checkRem] using hshort)]
          exact ⟨_, rfl, .of_plain h rfl rfl (.inr rfl)⟩
      · unfold audinProcessOpenReply
        split_ifs with hshort
        · exact ⟨_, rfl, .of_plain h rfl rfl (.inl rfl)⟩
        · rw [inLe_ok (by simpa [checkRem] using hshort)]
          exact ⟨_, rfl, .of_plain h rfl rfl (.inl rfl)⟩
      · exact ⟨_, rfl, .of_plain h rfl rfl (.inl rfl)⟩
      · exact ⟨_, rfl, .of_plain h rfl rfl (.inl rfl)⟩
      · obtain ⟨rv, current, hrun⟩ := formatChange_ok a s
        exact ⟨_, hrun, .of_plain h rfl rfl (.inl rfl)⟩
      · exact ⟨_, rfl, .of_plain h rfl rfl (.inl rfl)⟩

/-! ## Fragments -/

/-- What is written is inside the size, which is an `int`, and every table has an end. -/
structure Inv (a : Audin) : Prop where
  inside : ∀ st ∈ a.gInS, (st.got.length : Int) ≤ st.total ∧ st.total < 2 ^ 31
  ends : Ends a.gClientFormats

/-- What becomes of a fragment: it is refused, it completes a message, or neither. -/
theorem fragment_eq (env : Env) (a : Audin) {st : InStream} {data : List UInt8}
    (hin : (st.got.length : Int) ≤ st.total) (htotal : st.total < 2 ^ 31) (hdata : data.length < 2 ^ 31) :
    audinDataFragment env { a with gInS := some st } data =
      if st.total < (st.got ++ data).length then .ok ⟨1, [], { a with gInS := some st }⟩
      else if ((st.got ++ data).length : Int) = st.total then do
        let out ← audinProcessMsg env { a with gInS := some { st with got := st.got ++ data } } (st.got ++ data)
        return { out with audin := { out.audin with gInS := none } }
      else .ok ⟨0, [], { a with gInS := some { st with got := st.got ++ data } }⟩ := by
  have hlength : ((st.got ++ data).length : Int) = st.got.length + data.length := by
    rw [List.length_append]
    push_cast
    rfl
  have hfits : fragmentFits st data.length = decide (((st.got ++ data).length : Int) ≤ st.total) := by
    unfold fragmentFits
    rw [Int.emod_eq_of_lt (by omega) (by omega), Int.emod_eq_of_lt (by omega) (by omega), hlength]
  unfold audinDataFragment
  dsimp only
  rw [hfits]
  by_cases hlarge : st.total < (st.got ++ data).length
  · rw [if_pos (by simpa using hlarge), if_pos hlarge]
  · have hwrite : writeFragment st data = .ok { st with got := st.got ++ data } := if_neg fun hover => by
      have hlt := hover.2
      omega
    rw [if_neg (by simpa using hlarge), if_neg hlarge, hwrite]
    rfl

/-- A fragment that begins with a negative size is not refused. -/
theorem first_negative (env : Env) (a : Audin) {data : List UInt8} {total : Int} (hneg : total < 0)
    (hlow : -2 ^ 31 ≤ total) (hdata : data.length < 2 ^ 31) {out : Outcome}
    (h : audinDataFirst env a data total = .ok out) : out.rv = 0 := by
  have hfits : fragmentFits ⟨total, []⟩ data.length = true := by
    have hwrap : total % 2 ^ 64 = total + 2 ^ 64 := by omega
    unfold fragmentFits
    rw [hwrap]
    simp only [List.length_nil, decide_eq_true_eq]
    omega
  unfold audinDataFirst audinDataFragment at h
  dsimp only at h
  rw [if_neg (by rw [hfits]; decide)] at h
  obtain ⟨st, hwrite, h⟩ := Run.bind_eq_ok.1 h
  unfold writeFragment at hwrite
  split_ifs at hwrite
  cases hwrite
  split_ifs at h with hend
  · dsimp only at hend
    omega
  · cases h
    rfl

/-- A fragment for a stream keeps the promise just if the message that it completes meets its condition. -/
theorem fragment_spec (env : Env) {a : Audin} (h : Inv a) {e : Event} (st : InStream)
    (hin : (st.got.length : Int) ≤ st.total) (htotal : st.total < 2 ^ 31) (hstream : streamOf a e = some st)
    (hdata : e.bytes.length < 2 ^ 31) :
    ((∀ m ∈ completed a e, MessageFits a.gCurrentFormat m) →
      ∃ out, audinDataFragment env { a with gInS := some st } e.bytes = .ok out ∧ Right a e out ∧ Inv out.audin) ∧
    ∀ out, audinDataFragment env { a with gInS := some st } e.bytes = .ok out →
      ∀ m ∈ completed a e, MessageFits a.gCurrentFormat m := by
  have hcompleted : completed a e =
      if ((st.got ++ e.bytes).length : Int) = st.total then some (st.got ++ e.bytes) else none := by
    unfold completed
    rw [hstream]
  rw [fragment_eq env a hin htotal hdata]
  by_cases hlarge : st.total < (st.got ++ e.bytes).length
  · -- it is refused
    have hnone : completed a e = none := by rw [hcompleted, if_neg (by omega)]
    rw [if_pos hlarge, hnone]
    refine ⟨fun _ => ⟨_, rfl, ⟨?_, ?_, fun _ hm => (nomatch hm)⟩, ?_, h.ends⟩, fun _ _ _ hm => (nomatch hm)⟩
    · rintro _ ⟨⟩
      exact hin
    · intro st' hst' _
      cases hstream.symm.trans hst'
      exact ⟨rfl, rfl⟩
    · rintro _ ⟨⟩
      exact ⟨hin, htotal⟩
  have hnotrefused : ∀ st' ∈ streamOf a e, ¬ st'.total < (st'.got ++ e.bytes).length := by
    intro st' hst'
    cases hstream.symm.trans hst'
    exact hlarge
  rw [if_neg hlarge]
  by_cases hend : ((st.got ++ e.bytes).length : Int) = st.total
  · -- it completes a message
    have hsome : completed a e = some (st.got ++ e.bytes) := by rw [hcompleted, if_pos hend]
    obtain ⟨hfit, hright⟩ := message_spec env (a := { a with gInS := some { st with got := st.got ++ e.bytes } }) h.ends
      (st.got ++ e.bytes)
    rw [if_pos hend, hsome]
    constructor
    · intro hfits
      obtain ⟨out, hrun, hhandled⟩ := hfit (hfits _ rfl)
      rw [hrun]
      refine ⟨_, rfl, ⟨fun _ hst => (nomatch hst), fun st' hst' hover => ?_, fun m hm hopen => ?_⟩,
        fun _ hst => (nomatch hst), hhandled.ends⟩
      · exact absurd hover (hnotrefused st' hst')
      · exact ⟨_, hsome, hhandled.opens m hm hopen⟩
    · intro out hout m hm
      obtain ⟨out', hrun, -⟩ := Run.bind_eq_ok.1 hout
      cases hm
      exact hright out' hrun
  · have hnone : completed a e = none := by rw [hcompleted, if_neg hend]
    rw [if_neg hend, hnone]
    refine ⟨fun _ => ⟨_, rfl, ⟨?_, fun st' hst' hover => ?_, fun _ hm => (nomatch hm)⟩, ?_, h.ends⟩,
      fun _ _ _ hm => (nomatch hm)⟩
    · rintro _ ⟨⟩
      dsimp only
      omega
    · exact absurd hover (hnotrefused st' hst')
    · rintro _ ⟨⟩
      dsimp only
      omega

/-- **A step keeps the promise just if it meets its condition.** -/
theorem step_spec (env : Env) {a : Audin} (h : Inv a) (e : Event) :
    (Fits a e → ∃ out, step env a e = .ok out ∧ Right a e out ∧ Inv out.audin) ∧
    ∀ out, step env a e = .ok out → Right a e out → Fits a e := by
  cases e with
  | first d totalBytes =>
    rcases lt_or_ge totalBytes.toInt 0 with hneg | hpos
    · refine ⟨fun hfits => ?_, fun out hout hright => ?_⟩
      · have htotal := hfits.total _ _ rfl
        omega
      · have hrv := first_negative env a hneg (Int32.le_toInt _) d.2 hout
        have hone := (hright.refused _ rfl (by dsimp only; omega)).1
        omega
    · obtain ⟨hfit, hright⟩ := fragment_spec env h (e := .first d totalBytes) ⟨totalBytes.toInt, []⟩ hpos
        (Int32.toInt_lt _) rfl d.2
      refine ⟨fun hfits => hfit hfits.message, fun out hout _ => ⟨?_, hright out hout⟩⟩
      rintro _ _ ⟨⟩
      exact hpos
  | data d =>
    have hnofirst : ∀ data totalBytes, Event.data d = .first data totalBytes → 0 ≤ totalBytes.toInt :=
      fun _ _ heq => nomatch heq
    cases hst : a.gInS with
    | some st =>
      obtain ⟨hin, htotal⟩ := h.inside st hst
      obtain ⟨hfit, hright⟩ := fragment_spec env h (e := .data d) st hin htotal hst d.2
      have hstep : step env a (.data d) = audinDataFragment env { a with gInS := some st } d.1 := by
        have hsame : { a with gInS := some st } = a := by rw [← hst]
        rw [hsame]
        unfold step audinData
        rw [hst]
      rw [hstep]
      exact ⟨fun hfits => hfit hfits.message, fun out hout _ => ⟨hnofirst, hright out hout⟩⟩
    | none =>
      -- the data is a message
      have hstep : step env a (.data d) = audinProcessMsg env a d.1 := by
        unfold step audinData
        rw [hst]
      have hstream : streamOf a (.data d) = none := hst
      have hcompleted : completed a (.data d) = some d.1 := by
        unfold completed
        rw [hstream]
        rfl
      obtain ⟨hfit, hright⟩ := message_spec env h.ends d.1
      rw [hstep]
      constructor
      · intro hfits
        obtain ⟨out, hrun, hhandled⟩ := hfit (hfits.message _ hcompleted)
        have hnone : out.audin.gInS = none := hhandled.stream.trans hst
        refine ⟨out, hrun, ⟨?_, ?_, fun m hm hopen => ⟨_, hcompleted, hhandled.opens m hm hopen⟩⟩, ?_, hhandled.ends⟩
        · rw [hnone]
          exact fun _ hst' => (nomatch hst')
        · rw [hstream]
          exact fun _ hst' => (nomatch hst')
        · rw [hnone]
          exact fun _ hst' => (nomatch hst')
      · intro out hout _
        refine ⟨hnofirst, fun m hm => ?_⟩
        cases hcompleted.symm.trans hm
        exact hright out hout
  | closeResponse =>
    have hstep : step env a .closeResponse = .ok ⟨0, [], { a with gClientFormats := none, gInS := none }⟩ := by
      unfold step audinCloseResponse
      rw [cleanup_ok h.ends]
      rfl
    rw [hstep]
    refine ⟨fun _ => ⟨_, rfl, ⟨?_, ?_, fun _ hm => (nomatch hm)⟩, ?_, ?_⟩, fun _ _ _ => ⟨?_, ?_⟩⟩
    · exact fun _ hst => (nomatch hst)
    · exact fun _ hst => (nomatch hst)
    · exact fun _ hst => (nomatch hst)
    · exact fun _ ht => (nomatch ht)
    · exact fun _ _ heq => (nomatch heq)
    · exact fun _ hm => (nomatch hm)

/-! ## Runs -/

/-- A state of a run: the variables, and the step that has led to it. -/
structure Seen where
  now : Audin
  last : Option (Audin × Event × Outcome)

def Next (env : Env) (s : Seen) (e : Event) (s' : Seen) : Prop :=
  ∃ out, step env s.now e = .ok out ∧ s' = ⟨out.audin, some (s.now, e, out)⟩

/-- The step was as promised. -/
def Ok (s : Seen) : Prop := ∀ l ∈ s.last, Right l.1 l.2.1 l.2.2

/-- What a run keeps, if its steps meet their condition. -/
structure Good (s : Seen) : Prop where
  ok : Ok s
  inv : Inv s.now

/-- **The promise holds in all states of a run just if all its steps meet their condition.** -/
theorem audio_input_iff (env : Env) (es : List Event) :
    Always (Next env) Ok ⟨start, none⟩ es ↔ AllFit (Next env) (fun s e => Fits s.now e) ⟨start, none⟩ es := by
  have hdet : ∀ s e s₁ s₂, Next env s e s₁ → Next env s e s₂ → s₁ = s₂ := by
    rintro s e _ _ ⟨out₁, h₁, rfl⟩ ⟨out₂, h₂, rfl⟩
    cases h₁.symm.trans h₂
    rfl
  have hstart : Good ⟨start, none⟩ :=
    ⟨fun _ hl => (nomatch hl), ⟨fun _ hst => (nomatch hst), fun _ ht => (nomatch ht)⟩⟩
  refine always_iff hdet (fun _ hs => hs.ok) (fun s e hs => ?_) hstart es
  obtain ⟨hfit, hright⟩ := step_spec env hs.inv e
  constructor
  · constructor
    · rintro ⟨_, ⟨out, hstep, rfl⟩, hok⟩
      exact hright out hstep (hok _ rfl)
    · intro hfits
      obtain ⟨out, hstep, hr, -⟩ := hfit hfits
      refine ⟨_, ⟨out, hstep, rfl⟩, fun l hl => ?_⟩
      cases hl
      exact hr
  · rintro _ ⟨out, hstep, rfl⟩ hok
    obtain ⟨out', hstep', -, hinv⟩ := hfit (hright out hstep (hok _ rfl))
    cases hstep.symm.trans hstep'
    exact ⟨hok, hinv⟩

/-- The message has no formats, and one of them is looked for. -/
theorem no_formats :
    ¬ Always (Next fun _ => 0) Ok ⟨start, none⟩ [.data ⟨[2, 0, 0, 0, 0, 0, 0, 0, 0], by decide⟩] := by
  intro h
  obtain ⟨s', ⟨s₁, ⟨out, hstep, -⟩, -⟩, -⟩ := h _ (List.prefix_refl _)
  have hends : Ends start.gClientFormats := fun _ ht => nomatch ht
  have hfits := (message_spec (fun _ => 0) hends [2, 0, 0, 0, 0, 0, 0, 0, 0]).2 out hstep (by decide)
  exact absurd hfits.1 (by decide)

end Xrdp.Chansrv.AudioInput
