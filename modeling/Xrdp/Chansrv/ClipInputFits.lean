import Xrdp.Chansrv.ClipInput
import Xrdp.Lib.Runs

/-!
# Chunks that the clipboard reads and writes no further than it may for

Nothing that the client says of a length is checked against what has come, so that what the program
does depends on the client.  For each part there is a condition on what has come, and the part has a
result just if it is met.

* `FormatsFit`, `CapsFit`, `TextFits`, `FilesFit` — what loops need.
* `PartFits`, `StartFits` — what bytes need that go straight on.
* `ChunkFits` — what a chunk needs.
* `clipboard_input_iff` — the runs that never leave a buffer.
-/

namespace Xrdp.Chansrv.ClipIn

open Runs

namespace ClipStream

/-- Bytes that are read behind others that are skipped. -/
@[simp] theorem has_inUint8s_int {s : ClipStream} {n : Int} {m : Nat} (h : 0 ≤ n) :
    (s.inUint8s n).Has m ↔ s.Has (n.toNat + m) := by
  obtain ⟨k, rfl⟩ := Int.eq_ofNat_of_zero_le h
  exact has_inUint8s

/-- Bytes that are skipped one after the other. -/
@[simp] theorem inUint8s_inUint8s {s : ClipStream} {n m : Int} (h : 0 ≤ n) :
    (s.inUint8s n).inUint8s m = s.inUint8s (n + m) := by
  show ClipStream.mk s.bytes _ = ClipStream.mk s.bytes _
  congr 1
  show (((s.p + n).toNat : Int) + m).toNat = (s.p + (n + m)).toNat
  omega

/-- After bytes that have come. -/
theorem Has.p_le {s : ClipStream} {n : Nat} (h : s.Has n) : (s.inUint8s n).p ≤ s.bytes.length := by
  have hfits : s.p + n ≤ s.bytes.length := h
  show (s.p + (n : Int)).toNat ≤ s.bytes.length
  omega

theorem inLe_bind {α : Type} {n : Nat} {s : ClipStream} {f : Nat × ClipStream → Run α} :
    (inLe n s >>= f) = if s.Has n then f (s.num n, s.inUint8s n) else .error .outOfBounds := by
  unfold inLe
  split <;> rfl

end ClipStream

/-! ## Text -/

theorem units_of_has {s : ClipStream} (h : s.Has 2) :
    units s.rest = if s.num 2 = 0 then [0] else s.num 2 :: units (s.inUint8s 2).rest := by
  have hfits : s.p + 2 ≤ s.bytes.length := h
  have hrest : (s.inUint8s 2).rest = s.rest.drop 2 := by
    show s.bytes.drop (s.p + (2 : Int)).toNat = (s.bytes.drop s.p).drop 2
    rw [List.drop_drop]
    congr 1
  have hlen : 2 ≤ s.rest.length := by
    show 2 ≤ (s.bytes.drop s.p).length
    rw [List.length_drop]
    omega
  rw [hrest]
  show units s.rest = if Wire.leVal (s.rest.take 2) = 0 then _ else Wire.leVal (s.rest.take 2) :: _
  match s.rest, hlen with
  | lo :: hi :: rest, _ => rfl

theorem units_of_not_has {s : ClipStream} (h : ¬ s.Has 2) : units s.rest = [] := by
  have hlen : s.rest.length < 2 := by
    have hfits : ¬ s.p + 2 ≤ s.bytes.length := h
    show (s.bytes.drop s.p).length < 2
    rw [List.length_drop]
    omega
  match s.rest, hlen with
  | [], _ => rfl
  | [_], _ => rfl

theorem returns_textLoop {s : ClipStream} {wtext : List Nat} {cells : Nat}
    (hp : s.p ≤ s.bytes.length) : Run.Returns (textLoop s wtext cells) ↔
      0 ∈ units s.rest ∧ wtext.length + (units s.rest).length ≤ cells := by
  fun_induction textLoop s wtext cells with
  | case1 s wtext _ e he =>
    have hhas : ¬ s.Has 2 := by
      intro hhas
      rw [ClipStream.inUint16Le, ClipStream.inLe, if_pos hhas] at he
      cases he
    simp [units_of_not_has hhas]
  | case2 s wtext _ hroom s' hread =>
    obtain ⟨hhas, hnum, -⟩ := ClipStream.inUint16Le_ok hread
    rw [units_of_has hhas, if_pos hnum.symm]
    simp
    omega
  | case3 s wtext _ wchr s' hread hroom hzero ih =>
    obtain ⟨hhas, hnum, rfl⟩ := ClipStream.inUint16Le_ok hread
    have hfits : s.p + 2 ≤ s.bytes.length := hhas
    have hp' : (s.inUint8s 2).p ≤ (s.inUint8s 2).bytes.length := by
      show (s.p + (2 : Int)).toNat ≤ s.bytes.length
      omega
    rw [ih hp', units_of_has hhas, if_neg (hnum ▸ hzero), List.length_append, List.length_singleton,
      List.length_cons, List.mem_cons, or_iff_right (Ne.symm (hnum ▸ hzero))]
    constructor <;> rintro ⟨hmem, hle⟩ <;> exact ⟨hmem, by omega⟩
  | case4 s wtext _ wchr s' hread hroom =>
    obtain ⟨hhas, hnum, -⟩ := ClipStream.inUint16Le_ok hread
    rw [Run.returns_error, units_of_has hhas, false_iff]
    rintro ⟨-, hle⟩
    split at hle <;> simp at hle <;> omega
  | case5 s wtext hnot => exact absurd hp hnot
  | case6 s wtext hnot => exact absurd hp hnot

/-- Text ends among the bytes that have come, and there is room for it. -/
def TextFits (s : ClipStream) : Prop :=
  1 ≤ s.left → ∀ size, gMalloc (4 * (s.left.tdiv 2 + 1)) = some size →
    0 ∈ units s.rest ∧ (units s.rest).length ≤ size / 4

theorem returns_dataResponseForText {P : Setup} {target : Target} {c : ClipC2s} {s : ClipStream}
    (hp : s.p ≤ s.bytes.length) :
    Run.Returns (clipboardProcessDataResponseForText P target c s) ↔ TextFits s := by
  unfold clipboardProcessDataResponseForText TextFits
  split
  · rename_i hlen
    refine iff_of_true ⟨_, rfl⟩ fun hle => ?_
    omega
  · rename_i hlen
    rw [imp_iff_right (by omega)]
    cases hsize : gMalloc (4 * (s.left.tdiv 2 + 1)) with
    | none => simp
    | some size =>
      have hloop := @returns_textLoop s [] (size / 4) hp
      simp only [List.length_nil, Nat.zero_add] at hloop
      simp only [Option.some.injEq, forall_eq']
      rw [← hloop, Run.returns_bind]
      constructor
      · rintro ⟨a, ha, -⟩
        exact ⟨a, ha⟩
      · rintro ⟨a, ha⟩
        refine ⟨a, ha, ?_⟩
        obtain ⟨wtext, s'⟩ := a
        split
        · exact ⟨_, rfl⟩
        · exact ⟨_, rfl⟩

/-! ## Formats and capabilities -/

/-- How much of a message the name of a format takes. -/
def nameBytes (long : Bool) (s : ClipStream) : Nat := if long then s.textBytes else 32

/-- Each format of an announce has its four bytes, as long as the announce is said to go on. -/
def FormatsFit (long : Bool) (s : ClipStream) (clipMsgLen : Int) : Prop :=
  3 < clipMsgLen → s.Has 4 ∧
    FormatsFit long ((s.inUint8s 4).inUint8s (nameBytes long (s.inUint8s 4)))
      (clipMsgLen - 4 - nameBytes long (s.inUint8s 4))
termination_by clipMsgLen.toNat

theorem inFormatName_ok (P : Setup) (long : Bool) (s : ClipStream) {desc : List UInt8}
    (hdesc : desc.length = 256) : ∃ desc' : List UInt8, desc'.length = 256 ∧
      inFormatName P long s desc = .ok (desc', nameBytes long s, s.inUint8s (nameBytes long s)) := by
  cases long with
  | true =>
    have hlen := (@length_text_append P.encode s desc 255 (by omega)).trans hdesc
    refine ⟨_, hlen, ?_⟩
    show (clipboardInUnicode P.encode s desc 255 >>= _) = _
    rw [clipboardInUnicode_ok (by omega)]
    rfl
  | false =>
    have hlen := (@length_text_append P.encode s desc 15 (by omega)).trans hdesc
    refine ⟨_, (List.length_set (i := 15) (a := 0)).trans hlen, ?_⟩
    show (clipboardInUnicode P.encode s desc 15 >>= _) = _
    rw [clipboardInUnicode_ok (by omega), Run.ok_bind]
    dsimp only
    rw [if_pos (by omega)]
    rfl

/-- There is room for each format that is remembered. -/
theorem Formats.add_ok (f : Formats) (formatId : Nat) (desc : List UInt8) :
    ∃ f', f.add formatId desc = .ok f' := by
  unfold Formats.add
  by_cases hfull : f.numFormatIds ≤ 15
  · rw [if_pos hfull, Formats.push, dif_pos (by omega)]
    exact ⟨_, rfl⟩
  · rw [if_neg hfull]
    exact ⟨_, rfl⟩

theorem returns_formatsLoop {P : Setup} {long : Bool} {s : ClipStream} {desc : List UInt8}
    {f : Formats} {clipMsgLen : Int} (hdesc : desc.length = 256) :
    Run.Returns (formatsLoop P long s desc f clipMsgLen) ↔ FormatsFit long s clipMsgLen := by
  fun_induction FormatsFit long s clipMsgLen generalizing desc f with
  | case1 s clipMsgLen ih =>
    rw [formatsLoop]
    split
    · rename_i hlen
      obtain ⟨desc', hdesc', hname⟩ := inFormatName_ok P long (s.inUint8s 4) hdesc
      obtain ⟨f', hadd⟩ := f.add_ok (s.num 4) desc'
      rw [ClipStream.returns_inUint32Le_bind, imp_iff_right hlen, ← ih hlen hdesc' (f := f')]
      dsimp only
      rw [hname, Run.ok_bind]
      dsimp only
      rw [hadd, Run.ok_bind]
    · rename_i hlen
      exact iff_of_true ⟨_, rfl⟩ fun h => absurd h hlen

/-- Each capability set has its fields. -/
def CapsFit (s : ClipStream) : Nat → Prop
  | 0 => True
  | n + 1 => s.Has 4 ∧ (s.num 2 = 1 → s.Has 12) ∧ CapsFit (s.inUint8s ((s.inUint8s 2).num 2)) n

theorem returns_capsLoop {caps : Caps} {s : ClipStream} {n : Nat} :
    Run.Returns (capsLoop caps s n) ↔ CapsFit s n := by
  induction n generalizing caps s with
  | zero => exact iff_of_true ⟨_, rfl⟩ trivial
  | succ n ih =>
    rw [capsLoop, CapsFit, ClipStream.returns_inUint16Le_bind, ClipStream.returns_inUint16Le_bind]
    dsimp only
    rw [inCapability]
    by_cases htype : s.num 2 = 1
    · rw [if_pos htype]
      simp only [bind_assoc, ClipStream.returns_inUint32Le_bind, Run.pure_eq, Run.ok_bind, ih,
        htype, true_imp_iff]
      simp (disch := decide) only [ClipStream.has_inUint8s_int, Int.reduceToNat, Nat.reduceAdd]
      constructor
      · rintro ⟨-, -, -, htwelve, hrest⟩
        exact ⟨htwelve.le (by decide), htwelve, hrest⟩
      · rintro ⟨hfour, htwelve, hrest⟩
        exact ⟨hfour.le (by decide), hfour, htwelve.le (by decide), htwelve, hrest⟩
    · rw [if_neg htype, Run.ok_bind, ih]
      simp (disch := decide) only [ClipStream.has_inUint8s_int, Int.reduceToNat, Nat.reduceAdd]
      constructor
      · rintro ⟨-, hfour, hrest⟩
        exact ⟨hfour, fun h => absurd h htype, hrest⟩
      · rintro ⟨hfour, -, hrest⟩
        exact ⟨hfour.le (by decide), hfour, hrest⟩

/-! ## Files -/

/-- The name that a file has where `s` is. -/
def nameAt (P : Setup) (s : ClipStream) : List UInt8 :=
  let name := ((s.inUint8s 72).text P.encode 256).2
  name ++ (List.replicate 256 0).drop name.length

/-- It is a directory. -/
def directoryAt (s : ClipStream) : Bool := ((s.inUint8s 36).num 4).testBit 4

/-- Where the next file is. -/
def nextFile (P : Setup) (s : ClipStream) : ClipStream :=
  let numChars := (((s.inUint8s 72).text P.encode 256).1.map Int.ofNat).getD (-1)
  (((s.inUint8s 72).inUint8s (s.inUint8s 72).textBytes).inUint8s (512 - numChars * 2 - 2)).inUint8s 8

/-- A file is read if what has a fixed size of it has come. -/
theorem clipboardC2sInFileInfo_ok {P : Setup} {s : ClipStream} (h : s.Has 72) :
    ∃ cfd : ClipFileDesc, clipboardC2sInFileInfo P s = .ok (cfd, nextFile P s) ∧
      cfd.cFileName = nameAt P s ∧ cfd.directory = directoryAt s := by
  have hroom : 256 ≤ (List.replicate 256 (0 : UInt8)).length := by rw [List.length_replicate]
  unfold clipboardC2sInFileInfo
  have hhas : ∀ n ≤ 72, s.Has n := fun n hn => h.le hn
  have hname : (((((((s.inUint8s 4).inUint8s 32).inUint8s 4).inUint8s 16).inUint8s 4).inUint8s
      4).inUint8s 4).inUint8s 4 = s.inUint8s 72 := by
    simp (disch := decide) only [ClipStream.inUint8s_inUint8s, Int.reduceAdd]
  have hattributes : (s.inUint8s 4).inUint8s 32 = s.inUint8s 36 :=
    ClipStream.inUint8s_inUint8s (by decide)
  simp (disch := decide) only [ClipStream.inUint32Le, ClipStream.inLe_bind,
    ClipStream.has_inUint8s_int, Int.reduceToNat, Nat.reduceAdd, Nat.cast_ofNat, hhas, if_true,
    clipboardInUnicode_ok hroom, Run.ok_bind, Run.pure_eq, hname]
  refine ⟨_, rfl, rfl, ?_⟩
  show (((s.inUint8s 4).inUint8s 32).num 4).testBit 4 = ((s.inUint8s 36).num 4).testBit 4
  rw [hattributes]

theorem has_of_returns_fileInfo {P : Setup} {s : ClipStream}
    (h : Run.Returns (clipboardC2sInFileInfo P s)) : s.Has 72 := by
  unfold clipboardC2sInFileInfo at h
  simp (disch := decide) only [ClipStream.returns_inUint32Le_bind, ClipStream.has_inUint8s_int] at h
  exact h.2.2.2.2.2.1

/-- Where the list ends after a file. -/
def fileEnd (P : Setup) (ptr fileCount : Nat) (name : List UInt8) : Nat :=
  ptr + (if 0 < fileCount then 1 else 0) + 7 + P.fuseClipboardPath.length + 1 + name.length

/-- A file is put there if there is room behind it. -/
theorem returns_putFile {P : Setup} {list : Buf UInt8} {ptr fileCount : Nat} {name : List UInt8} :
    Run.Returns (putFile P list ptr fileCount name) ↔ fileEnd P ptr fileCount name < list.size := by
  have hscheme : fileScheme.length = 7 := rfl
  unfold putFile putNewline fileEnd gStrcpy
  by_cases hcount : 0 < fileCount
  · rw [if_pos hcount, if_pos hcount]
    simp only [bind_assoc, Buf.returns_write_bind, Buf.returns_memcpy_bind, Run.pure_eq, Run.ok_bind,
      Run.returns_ok, and_true, List.length_append, List.length_singleton, hscheme]
    omega
  · rw [if_neg hcount, if_neg hcount]
    simp only [Buf.returns_write_bind, Buf.returns_memcpy_bind, Run.pure_eq, Run.ok_bind,
      Run.returns_ok, and_true, List.length_append, List.length_singleton, hscheme]
    omega

theorem size_of_write {b b' : Buf UInt8} {i : Nat} {v : UInt8} (h : b.write i v = .ok b') :
    b'.size = b.size := by
  unfold Buf.write at h
  split at h
  · cases h
    rfl
  · cases h

theorem size_of_gStrcpy {b b' : Buf UInt8} {off : Nat} {str : List UInt8}
    (h : gStrcpy b off str = .ok b') : b'.size = b.size := by
  unfold gStrcpy Buf.memcpy at h
  split at h
  · cases h
    rfl
  · cases h

theorem putNewline_eq {list list' : Buf UInt8} {ptr ptr' fileCount : Nat}
    (h : putNewline list ptr fileCount = .ok (list', ptr')) :
    list'.size = list.size ∧ ptr' = ptr + if 0 < fileCount then 1 else 0 := by
  unfold putNewline at h
  split at h
  · obtain ⟨list₁, hwrite, heq⟩ := Run.bind_eq_ok.1 h
    cases heq
    exact ⟨size_of_write hwrite, by rw [if_pos ‹_›]⟩
  · cases h
    exact ⟨rfl, by rw [if_neg ‹_›]; rfl⟩

theorem putFile_eq {P : Setup} {list list' : Buf UInt8} {ptr ptr' fileCount : Nat}
    {name : List UInt8} (h : putFile P list ptr fileCount name = .ok (list', ptr')) :
    list'.size = list.size ∧ ptr' = fileEnd P ptr fileCount name := by
  obtain ⟨⟨list₁, ptr₁⟩, hnewline, h⟩ := Run.bind_eq_ok.1 h
  obtain ⟨list₂, hscheme, h⟩ := Run.bind_eq_ok.1 h
  obtain ⟨list₃, hpath, h⟩ := Run.bind_eq_ok.1 h
  obtain ⟨list₄, hslash, h⟩ := Run.bind_eq_ok.1 h
  obtain ⟨list₅, hname, h⟩ := Run.bind_eq_ok.1 h
  obtain ⟨hsize₁, rfl⟩ := putNewline_eq hnewline
  cases h
  refine ⟨?_, rfl⟩
  rw [size_of_gStrcpy hname, size_of_write hslash, size_of_gStrcpy hpath, size_of_gStrcpy hscheme,
    hsize₁]

/-- What files of a list need: each has come but for its name, which is one that ends or that shows
at once that it is no file of the directory; and there is room for all that are put on the list, which
is as far as `ptr`. -/
def FilesFit (P : Setup) (refused : Nat → Bool) (size lindex : Nat) (s : ClipStream)
    (ptr fileCount : Nat) : Nat → Prop
  | 0 => ptr < size
  | n + 1 =>
    let name := nameAt P s
    s.Has 72 ∧ (0 ∈ name ∨ 92 ∈ name) ∧
      if hasBackslash name = .ok true ∨ directoryAt s ∨ refused lindex then
        FilesFit P refused size (lindex + 1) (nextFile P s) ptr fileCount n
      else FilesFit P refused size (lindex + 1) (nextFile P s)
        (fileEnd P ptr fileCount (name.takeWhile (· ≠ 0))) (fileCount + 1) n

theorem FilesFit.lt {P : Setup} {refused : Nat → Bool} {size lindex : Nat} {s : ClipStream}
    {ptr fileCount n : Nat} (h : FilesFit P refused size lindex s ptr fileCount n) : ptr < size := by
  induction n generalizing lindex s ptr fileCount with
  | zero => exact h
  | succ n ih =>
    obtain ⟨-, -, hrest⟩ := h
    split at hrest
    · exact ih hrest
    · have hlt := ih hrest
      unfold fileEnd at hlt
      omega

/-- A file is put on the list, and others after it. -/
theorem returns_putFile_bind {P : Setup} {list : Buf UInt8} {ptr fileCount : Nat} {name : List UInt8}
    {α : Type} {f : Buf UInt8 × Nat → Run α} {p : Prop}
    (hp : p → fileEnd P ptr fileCount name < list.size)
    (hf : ∀ list' : Buf UInt8, list'.size = list.size →
      (Run.Returns (f (list', fileEnd P ptr fileCount name)) ↔ p)) :
    Run.Returns (putFile P list ptr fileCount name >>= f) ↔ p := by
  rw [Run.returns_bind]
  constructor
  · rintro ⟨⟨list', ptr'⟩, hput, hrest⟩
    obtain ⟨hsize, rfl⟩ := putFile_eq hput
    exact (hf list' hsize).1 hrest
  · intro h
    obtain ⟨⟨list', ptr'⟩, hput⟩ := returns_putFile.2 (hp h)
    obtain ⟨hsize, rfl⟩ := putFile_eq hput
    exact ⟨_, hput, (hf list' hsize).2 h⟩

theorem returns_filesLoop {P : Setup} {refused : Nat → Bool} {lindex : Nat} {s : ClipStream}
    {list : Buf UInt8} {ptr fileCount n : Nat} :
    Run.Returns (filesLoop P refused lindex s list ptr fileCount n >>= fun x =>
        x.1.write x.2.1 0) ↔
      FilesFit P refused list.size lindex s ptr fileCount n := by
  induction n generalizing lindex s list ptr fileCount with
  | zero =>
    show Run.Returns (list.write ptr 0) ↔ ptr < list.size
    unfold Buf.write
    split <;> simp_all
  | succ n ih =>
    rw [filesLoop, FilesFit]
    by_cases hhas : s.Has 72
    · obtain ⟨cfd, hread, hname, hdirectory⟩ := clipboardC2sInFileInfo_ok (P := P) hhas
      rw [hread, Run.ok_bind, and_iff_right hhas]
      dsimp only
      rw [hname, hdirectory]
      have hmem := @returns_hasBackslash (nameAt P s)
      cases hslash : hasBackslash (nameAt P s) with
      | error e =>
        rw [hslash, Run.returns_error, false_iff] at hmem
        exact iff_of_false (fun ⟨_, h⟩ => nomatch h) fun h => hmem h.1
      | ok slash =>
        rw [hslash, Run.returns_ok, true_iff] at hmem
        rw [Run.ok_bind, and_iff_right hmem]
        by_cases hskip : slash = true ∨ directoryAt s = true
        · have hskip' : (slash || directoryAt s) = true := by simpa using hskip
          rw [if_pos hskip', ih, if_pos]
          rcases hskip with rfl | hdir
          · exact .inl rfl
          · exact .inr (.inl hdir)
        · have hskip' : ¬ (slash || directoryAt s) = true := by simpa using hskip
          rw [if_neg hskip']
          obtain ⟨hnoslash, hfile⟩ := not_or.1 hskip
          have hslash' : slash = false := Bool.eq_false_iff.2 hnoslash
          subst hslash'
          by_cases hrefused : refused lindex = true
          · rw [if_pos hrefused, ih, if_pos (.inr (.inr hrefused))]
          · rw [if_neg hrefused, if_neg (by simp [hfile, hrefused]),
              cString_ok (mem_of_hasBackslash hslash), Run.ok_bind]
            rw [bind_assoc]
            refine returns_putFile_bind FilesFit.lt fun list' hsize => ?_
            rw [ih, hsize]
    · refine iff_of_false (fun h => hhas ?_) fun h => hhas h.1
      obtain ⟨x, hx, -⟩ := Run.returns_bind.1 h
      obtain ⟨y, hy, -⟩ := Run.bind_eq_ok.1 hx
      exact has_of_returns_fileInfo ⟨y, hy⟩

/-- What a list of files needs that begins at `start`. -/
def ItemsFit (P : Setup) (refused : Nat → Bool) (size : Nat) (s : ClipStream) (start : Nat) : Prop :=
  s.Has 4 → toInt (s.num 4) ≤ 64 * 1024 →
    FilesFit P refused size 0 (s.inUint8s 4) start 0 (toInt (s.num 4)).toNat

theorem returns_clipboardC2sInFiles {P : Setup} {refused : Nat → Bool} {s : ClipStream}
    {list : Buf UInt8} {start : Nat} :
    Run.Returns (clipboardC2sInFiles P refused s list start) ↔
      ItemsFit P refused list.size s start := by
  unfold clipboardC2sInFiles ItemsFit
  by_cases hhas : s.Has 4
  · rw [if_neg (not_not.2 hhas), ClipStream.returns_inUint32Le_bind, and_iff_right hhas,
      imp_iff_right hhas]
    dsimp only
    by_cases hcount : 64 * 1024 < toInt (s.num 4)
    · have hle : ¬ toInt (s.num 4) ≤ 64 * 1024 := not_le.2 hcount
      rw [if_pos hcount]
      simp only [hle, false_imp_iff, iff_true]
      exact ⟨_, rfl⟩
    · rw [if_neg hcount, imp_iff_right (not_lt.1 hcount), ← returns_filesLoop, Run.returns_bind,
        Run.returns_bind]
      refine exists_congr fun x => and_congr_right fun _ => ?_
      exact Run.returns_bind_iff fun list' => ⟨_, rfl⟩
  · rw [if_pos hhas]
    refine iff_of_true ⟨_, rfl⟩ fun h => ?_
    contradiction

/-- There is a zero in the buffer. -/
def HasZero (b : Buf UInt8) : Prop := ∃ i < b.size, b.cells i = 0

theorem HasZero.write {b b' : Buf UInt8} {i : Nat} (h : b.write i 0 = .ok b') : HasZero b' := by
  unfold Buf.write at h
  split at h
  · cases h
    exact ⟨i, ‹_›, if_pos rfl⟩
  · cases h

theorem HasZero.inFiles {P : Setup} {refused : Nat → Bool} {s : ClipStream} {list : Buf UInt8}
    {start : Nat} {x : Buf UInt8 × ClipStream} (hlist : HasZero list)
    (h : clipboardC2sInFiles P refused s list start = .ok x) : HasZero x.1 := by
  unfold clipboardC2sInFiles at h
  split at h
  · cases h
    exact hlist
  · obtain ⟨⟨cItems, s'⟩, -, h⟩ := Run.bind_eq_ok.1 h
    dsimp only at h
    split at h
    · cases h
      exact hlist
    · obtain ⟨⟨list', ptr, s''⟩, -, h⟩ := Run.bind_eq_ok.1 h
      obtain ⟨list'', hwrite, h⟩ := Run.bind_eq_ok.1 h
      cases h
      exact .write hwrite

theorem returns_strlenFrom {b : Buf UInt8} {i j n : Nat} (hij : i ≤ j) (hj : j < i + n)
    (hzero : b.cells j = 0) : Run.Returns (strlenFrom b i n) := by
  induction n generalizing i with
  | zero => omega
  | succ n ih =>
    rw [strlenFrom]
    split
    · exact ⟨_, rfl⟩
    · rename_i hne
      have hij' : i ≠ j := by
        rintro rfl
        exact hne hzero
      exact ih (by omega) (by omega)

theorem HasZero.returns {b : Buf UInt8} (h : HasZero b) : Run.Returns (gStrlen b) := by
  obtain ⟨j, hj, hzero⟩ := h
  exact returns_strlenFrom (Nat.zero_le j) (by omega) hzero

/-- What an answer needs that is a list of files. -/
def ListFits (P : Setup) (refused : Nat → Bool) (type : Target) (s : ClipStream) : Prop :=
  match type with
  | .file1 => ItemsFit P refused (1024 * 1024) s 0
  | .file2 => ItemsFit P refused (1024 * 1024) s 5
  | _ => True

theorem hasZero_alloc {n : Nat} (h : 0 < n) : HasZero (Buf.alloc n) := ⟨0, h, rfl⟩

/-- `"copy\n"` is there, and there is room for a list behind it. -/
theorem copy_ok : ∃ list : Buf UInt8, list.size = 1024 * 1024 ∧ HasZero list ∧
    gStrcpy (Buf.alloc (1024 * 1024)) 0 [99, 111, 112, 121, 10] = .ok list := by
  refine ⟨_, rfl, ⟨5, ?_, rfl⟩, Buf.memcpy_ok ?_⟩
  · show 5 < 1024 * 1024
    omega
  · show 6 ≤ 1024 * 1024
    omega

theorem returns_fileList {P : Setup} {refused : Nat → Bool} {type : Target} {s : ClipStream} :
    Run.Returns (fileList P refused type s) ↔ ListFits P refused type s := by
  cases type with
  | file1 => exact returns_clipboardC2sInFiles
  | file2 =>
    obtain ⟨list, hsize, -, hcopy⟩ := copy_ok
    show Run.Returns (gStrcpy _ _ _ >>= _) ↔ ItemsFit P refused (1024 * 1024) s 5
    rw [hcopy, Run.ok_bind, returns_clipboardC2sInFiles, hsize]
  | utf8 => exact iff_of_true ⟨_, rfl⟩ trivial
  | imageBmp => exact iff_of_true ⟨_, rfl⟩ trivial
  | other _ => exact iff_of_true ⟨_, rfl⟩ trivial

theorem hasZero_fileList {P : Setup} {refused : Nat → Bool} {type : Target} {s : ClipStream}
    {x : Buf UInt8 × ClipStream} (h : fileList P refused type s = .ok x) : HasZero x.1 := by
  have halloc : HasZero (Buf.alloc (1024 * 1024)) := hasZero_alloc (by decide)
  cases type with
  | file1 => exact halloc.inFiles h
  | file2 =>
    obtain ⟨list, -, hzero, hcopy⟩ := copy_ok
    obtain ⟨list', hlist', hrest⟩ := Run.bind_eq_ok.1 h
    rw [hcopy] at hlist'
    cases hlist'
    exact hzero.inFiles hrest
  | utf8 => cases h; exact halloc
  | imageBmp => cases h; exact halloc
  | other _ => cases h; exact halloc

theorem returns_dataResponseForFile {P : Setup} {refused : Nat → Bool} {target : Target}
    {c : ClipC2s} {s : ClipStream} :
    Run.Returns (clipboardProcessDataResponseForFile P refused target c s) ↔
      ListFits P refused c.type s := by
  unfold clipboardProcessDataResponseForFile
  rw [← returns_fileList, Run.returns_bind]
  constructor
  · rintro ⟨x, hx, -⟩
    exact ⟨x, hx⟩
  · rintro ⟨x, hx⟩
    refine ⟨x, hx, ?_⟩
    obtain ⟨len, hlen⟩ := (hasZero_fileList hx).returns
    dsimp only
    rw [hlen]
    exact ⟨_, rfl⟩

/-! ## Bytes that go straight on -/

theorem length_lowBytes (data : List UInt8) : (lowBytes data).length = data.length / 2 := by
  fun_induction lowBytes data with
  | case1 lo hi rest ih =>
    simp only [List.length_cons, ih]
    omega
  | case2 data hshort =>
    match data, hshort with
    | [], _ => rfl
    | [_], _ => simp
    | lo :: hi :: rest, hshort => exact absurd rfl (hshort lo hi rest)

/-- What `n` more bytes need: they fit behind those there are, and text is not empty. -/
def PartFits (c : ClipC2s) (n : Nat) : Prop :=
  if c.type = .utf8 then
    (∃ size, gMalloc n = some size ∧ n / 2 < size) ∧ c.readBytesDone + n / 2 ≤ c.data.size
  else c.readBytesDone + n ≤ c.data.size

theorem returns_ssPart {P : Setup} {c : ClipC2s} {data : List UInt8} :
    Run.Returns (ssPart P c data) ↔ PartFits c data.length := by
  unfold ssPart
  rw [Run.returns_bind_pure]
  unfold ssCopy PartFits
  by_cases htext : c.type = .utf8
  · rw [if_pos htext, if_pos htext]
    simp only [Buf.returns_memcpy_bind, Buf.returns_write_bind, Run.pure_eq, Run.returns_ok, and_true,
      length_lowBytes, gMallocBuf, Buf.alloc, Nat.zero_add]
    cases gMalloc data.length with
    | none => simp
    | some size =>
      simp only [Option.getD_some, Option.some.injEq, exists_eq_left']
      omega
  · rw [if_neg htext, if_neg htext]
    simp only [Buf.returns_memcpy_bind, Run.pure_eq, Run.returns_ok, and_true]

/-- What the first bytes of an answer need, behind the header of the message. -/
def StartFits (c : ClipC2s) (target : Target) (n : Nat) (totalBytes : Int) : Prop :=
  let c := ssStarted c target totalBytes
  if target = .imageBmp then 14 + n ≤ c.data.size else PartFits c n

theorem returns_ssStart {P : Setup} {c : ClipC2s} {target : Target} {data : List UInt8}
    {totalBytes : Int} :
    Run.Returns (ssStart P c target data totalBytes) ↔
      StartFits c target data.length totalBytes := by
  have htype : (ssStarted c target totalBytes).type = target := rfl
  unfold ssStart ssHeader StartFits
  rw [htype]
  by_cases himage : target = .imageBmp
  · rw [if_pos himage]
    simp only [bind_assoc, Buf.returns_memcpy_bind, Run.pure_eq, Run.ok_bind, returns_ssPart, PartFits,
      himage, if_true]
    have hheader : gBmpImageHeader.length = 14 := rfl
    rw [if_neg (by decide), hheader]
    omega
  · rw [if_neg himage, Run.ok_bind, returns_ssPart, if_neg himage]
    exact Iff.rfl

/-! ## Messages -/

/-- What an answer of the client needs. -/
def DataFits (P : Setup) (refused : Nat → Bool) (c : ClipC2s) (s : ClipStream) : Prop :=
  match c.xrdpClipType with
  | .bitmap => True
  | .file => ListFits P refused c.type s
  | _ => TextFits s

/-- There is room for as much as is asked for, if there is any. -/
theorem gMalloc_eq {n : Int} {size : Nat} (hn : 0 ≤ n) (hlt : n < 2 ^ 32)
    (h : gMalloc n = some size) : size = n.toNat := by
  have hmod : n % (2 ^ 32 : Nat) = n := Int.emod_eq_of_lt hn hlt
  have hbmod : n.bmod (2 ^ 32) = if n < ((2 ^ 32 : Nat) + 1) / 2 then n else n - (2 ^ 32 : Nat) := by
    rw [Int.bmod_def, hmod]
  unfold gMalloc at h
  by_cases hlow : n < ((2 ^ 32 : Nat) + 1) / 2
  · rw [if_pos hlow] at hbmod
    rw [hbmod, if_pos hn] at h
    exact (Option.some.inj h).symm
  · rw [if_neg hlow] at hbmod
    rw [hbmod, if_neg (by omega)] at h
    cases h

theorem left_lt (s : ClipStream) : s.left < 2 ^ 31 := by
  show toInt (s.bytes.length - s.p) < 2 ^ 31
  unfold toInt
  have := @Int.bmod_lt (s.bytes.length - s.p : Nat) (2 ^ 32) (by decide)
  omega

theorem returns_imageData {s : ClipStream} {size : Nat} (hlen : 1 ≤ s.left)
    (hsize : gMalloc (s.left + 14) = some size) : Run.Returns (imageData s size) := by
  have hheader : gBmpImageHeader.length = 14 := rfl
  have hlt := left_lt s
  have hroom := gMalloc_eq (by omega) (by omega) hsize
  unfold imageData
  rw [Buf.returns_memcpy_bind, hheader]
  refine ⟨?_, _, Buf.memcpy_ok ?_⟩
  · show 0 + 14 ≤ size
    omega
  · show 14 + (s.rest.take s.left.toNat).length ≤ size
    rw [List.length_take]
    omega

theorem returns_dataResponseForImage (P : Setup) (target : Target) (c : ClipC2s) (s : ClipStream) :
    Run.Returns (clipboardProcessDataResponseForImage P target c s) := by
  unfold clipboardProcessDataResponseForImage
  by_cases hlen : s.left < 1
  · rw [if_pos hlen]
    exact ⟨_, rfl⟩
  · rw [if_neg hlen]
    by_cases htype : c.type ≠ .imageBmp
    · rw [if_pos htype]
      exact ⟨_, rfl⟩
    · rw [if_neg htype]
      cases hsize : gMalloc (s.left + 14) with
      | none => exact ⟨_, rfl⟩
      | some size =>
        rw [Run.returns_bind_pure]
        exact returns_imageData (by omega) hsize

theorem returns_dataResponse {P : Setup} {refused : Nat → Bool} {m : Clipboard} {s : ClipStream}
    (hp : s.p ≤ s.bytes.length) :
    Run.Returns (clipboardProcessDataResponse P refused m s) ↔ DataFits P refused m.c2s s := by
  unfold clipboardProcessDataResponse DataFits
  dsimp only
  rw [Run.returns_bind_pure]
  cases m.c2s.xrdpClipType with
  | bitmap => exact iff_true_intro (returns_dataResponseForImage P m.savedTarget _ s)
  | file => exact returns_dataResponseForFile
  | text => exact returns_dataResponseForText hp
  | none => exact returns_dataResponseForText hp

/-- What the contents of a file need: they have come as far as they are said to, if a read waits for
them. -/
def FileResponseFits (m : Clipboard) (s : ClipStream) (clipMsgLen : Int) : Prop :=
  match m.sentType with
  | .size => s.Has 8
  | .range => s.Has 4 ∧
    (m.reqList ≠ 0 → 4 ≤ clipMsgLen ∧ (s.inUint8s 4).Has (clipMsgLen - 4).toNat)
  | .none => True

theorem returns_fileResponse {m : Clipboard} {s : ClipStream} {clipMsgLen : Int} :
    Run.Returns (clipboardProcessFileResponse m s clipMsgLen) ↔ FileResponseFits m s clipMsgLen := by
  unfold clipboardProcessFileResponse FileResponseFits
  cases m.sentType with
  | none => exact iff_true_intro ⟨_, rfl⟩
  | size =>
    simp (disch := decide) only [ClipStream.returns_inUint32Le_bind, Run.pure_eq, Run.returns_ok,
      and_true, ClipStream.has_inUint8s_int, Int.reduceToNat, Nat.reduceAdd]
    exact ⟨fun h => h.2, fun h => ⟨h.le (by decide), h⟩⟩
  | range =>
    rw [ClipStream.returns_inUint32Le_bind]
    refine and_congr_right fun _ => ?_
    dsimp only
    rw [Run.returns_bind_pure, xfuseFileContentsRange]
    dsimp only
    split
    · rename_i hnone
      exact iff_of_true ⟨_, rfl⟩ fun h => absurd hnone h
    · rename_i hwaits
      rw [imp_iff_right hwaits]
      split
      · rename_i hfits
        exact iff_of_true ⟨_, rfl⟩ ⟨by omega, hfits.2⟩
      · rename_i hfits
        rw [Run.returns_error, false_iff]
        exact fun h => hfits ⟨by omega, h.2⟩

theorem returns_formatAnnounce {P : Setup} {m : Clipboard} {s : ClipStream} {clipMsgLen : Int} :
    Run.Returns (clipboardProcessFormatAnnounce P m s clipMsgLen) ↔
      FormatsFit m.caps.longNames s clipMsgLen := by
  unfold clipboardProcessFormatAnnounce
  dsimp only
  rw [Run.returns_bind_pure]
  exact returns_formatsLoop (List.length_replicate ..)

theorem returns_dataRequest {m : Clipboard} {s : ClipStream} :
    Run.Returns (clipboardProcessDataRequest m s) ↔ s.Has 4 := by
  unfold clipboardProcessDataRequest
  rw [ClipStream.returns_inUint32Le_bind]
  exact and_iff_left ⟨_, rfl⟩

theorem returns_clipCaps {m : Clipboard} {s : ClipStream} :
    Run.Returns (clipboardProcessClipCaps m s) ↔
      s.Has 2 ∧ CapsFit (s.inUint8s 4) (s.num 2) := by
  unfold clipboardProcessClipCaps
  rw [ClipStream.returns_inUint16Le_bind]
  refine and_congr_right fun _ => ?_
  dsimp only
  rw [Run.returns_bind_pure, returns_capsLoop,
    ClipStream.inUint8s_inUint8s (by decide)]
  exact Iff.rfl

theorem returns_fileRequest {m : Clipboard} {s : ClipStream} :
    Run.Returns (clipboardProcessFileRequest m s) ↔ s.Has 24 := by
  unfold clipboardProcessFileRequest
  simp (disch := decide) only [ClipStream.returns_inUint32Le_bind, Run.pure_eq, Run.returns_ok,
    and_true, ClipStream.has_inUint8s_int, Int.reduceToNat, Nat.reduceAdd]
  constructor
  · exact fun h => h.2.2.2.2
  · exact fun h => ⟨h.le (by decide), h.le (by decide), h.le (by decide), h.le (by decide), h⟩

/-- What a kind of message needs behind its header. -/
def BodyFits (P : Setup) (refused : Nat → Bool) (m : Clipboard) (s : ClipStream) (clipMsgId : Nat)
    (clipMsgLen : Int) : Prop :=
  match clipMsgId with
  | 2 => FormatsFit m.caps.longNames s clipMsgLen
  | 4 => s.Has 4
  | 5 => DataFits P refused m.c2s s
  | 7 => s.Has 2 ∧ CapsFit (s.inUint8s 4) (s.num 2)
  | 8 => s.Has 24
  | 9 => FileResponseFits m s clipMsgLen
  | _ => True

theorem returns_handleMessage {P : Setup} {refused : Nat → Bool} {m : Clipboard} {s : ClipStream}
    {clipMsgId : Nat} {clipMsgLen : Int} (hp : s.p ≤ s.bytes.length) :
    Run.Returns (handleMessage P refused m s clipMsgId clipMsgLen) ↔
      BodyFits P refused m s clipMsgId clipMsgLen := by
  unfold handleMessage
  split
  · exact returns_formatAnnounce
  · exact returns_dataRequest
  · exact returns_dataResponse hp
  · exact returns_clipCaps
  · exact returns_fileRequest
  · exact returns_fileResponse
  · refine iff_of_true ⟨_, rfl⟩ ?_
    unfold BodyFits
    split <;> first | contradiction | trivial

/-- What a message needs: its header, and what its kind needs. -/
def MessageFits (P : Setup) (refused : Nat → Bool) (m : Clipboard) (ls : ClipStream) : Prop :=
  ls.Has 8 ∧
    BodyFits P refused m (ls.inUint8s 8) (ls.num 2) (toInt ((ls.inUint8s 4).num 4))

theorem returns_processMessage {P : Setup} {refused : Nat → Bool} {m : Clipboard}
    {ls : ClipStream} :
    Run.Returns (processMessage P refused m ls) ↔ MessageFits P refused m ls := by
  have hbody : (ls.inUint8s 4).inUint8s 4 = ls.inUint8s 8 :=
    ClipStream.inUint8s_inUint8s (by decide)
  have hlen : (ls.inUint8s 2).inUint8s 2 = ls.inUint8s 4 :=
    ClipStream.inUint8s_inUint8s (by decide)
  unfold processMessage MessageFits
  simp (disch := decide) only [ClipStream.returns_inUint16Le_bind,
    ClipStream.returns_inUint32Le_bind, ClipStream.has_inUint8s_int, Int.reduceToNat,
    Nat.reduceAdd, hlen, hbody]
  constructor
  · rintro ⟨-, -, hhas, h⟩
    have hp : (ls.inUint8s 8).p ≤ (ls.inUint8s 8).bytes.length := ClipStream.Has.p_le hhas
    exact ⟨hhas, (returns_handleMessage hp).1 h⟩
  · rintro ⟨hhas, h⟩
    have hp : (ls.inUint8s 8).p ≤ (ls.inUint8s 8).bytes.length := ClipStream.Has.p_le hhas
    exact ⟨hhas.le (by decide), hhas.le (by decide), hhas, (returns_handleMessage hp).2 h⟩

/-! ## Chunks -/

/-- `g_ins` before the bytes of a chunk are put there. -/
def Clipboard.insFor (m : Clipboard) (c : Chunk) : Ins :=
  if c.flags.testBit 0 then m.ins.init c.totalLength else m.ins

/-- What a chunk needs that is put together with others, or that is a message. -/
def ReassembleFits (P : Setup) (m : Clipboard) (c : Chunk) : Prop :=
  if c.flags &&& 3 = 3 then MessageFits P c.refused m ⟨c.data, 0⟩
  else
    let ins := m.insFor c
    ins.stream.bytes.length + c.data.length ≤ ins.size ∧
      (c.flags.testBit 1 → MessageFits P c.refused m ⟨ins.stream.bytes ++ c.data, ins.stream.p⟩)

theorem returns_clipboardReassemble {P : Setup} {m : Clipboard} {c : Chunk} :
    Run.Returns (clipboardReassemble P m c) ↔ ReassembleFits P m c := by
  unfold clipboardReassemble ReassembleFits
  split
  · rw [Run.returns_bind_pure]
    exact returns_processMessage
  · unfold Ins.append
    rw [Run.returns_guard_bind]
    refine and_congr_right fun _ => ?_
    split
    · rename_i hlast
      rw [Run.returns_bind_pure, imp_iff_right hlast]
      exact returns_processMessage
    · rename_i hlast
      exact iff_of_true ⟨_, rfl⟩ fun h => absurd h hlast

/-- What the first chunk of much needs. -/
def FirstFits (P : Setup) (m : Clipboard) (c : Chunk) : Prop :=
  8 ≤ c.data.length ∧
    if ClipStream.num ⟨c.data, 0⟩ 2 = 5 then
      StartFits m.c2s m.savedTarget (c.data.length - 8) (c.totalLength - 8)
    else ReassembleFits P m c

theorem returns_startOrReassemble {P : Setup} {m : Clipboard} {c : Chunk} :
    Run.Returns (startOrReassemble P m c) ↔ FirstFits P m c := by
  have hhas : ∀ n, ClipStream.Has ⟨c.data, 0⟩ n ↔ n ≤ c.data.length := fun n => by
    show 0 + n ≤ c.data.length ↔ n ≤ c.data.length
    rw [Nat.zero_add]
  unfold startOrReassemble FirstFits
  simp (disch := decide) only [ClipStream.returns_inUint16Le_bind,
    ClipStream.returns_inUint32Le_bind, ClipStream.has_inUint8s_int, Int.reduceToNat,
    Nat.reduceAdd, hhas]
  split
  · rw [Run.returns_bind_pure, returns_ssStart, List.length_drop]
    constructor
    · rintro ⟨-, -, hlen, h⟩
      exact ⟨hlen, h⟩
    · rintro ⟨hlen, h⟩
      exact ⟨by omega, by omega, hlen, h⟩
  · rw [returns_clipboardReassemble]
    constructor
    · rintro ⟨-, -, hlen, h⟩
      exact ⟨hlen, h⟩
    · rintro ⟨hlen, h⟩
      exact ⟨by omega, by omega, hlen, h⟩

/-- **What a chunk needs**, if the clipboard is up: room for its bytes where an answer goes straight
on; a header, and room for its bytes, where much may come; and else what messages need. -/
def ChunkFits (P : Setup) (m : Clipboard) (c : Chunk) : Prop :=
  m.clipUp = true →
    if m.c2s.doingResponseSs then PartFits m.c2s c.data.length
    else if m.MayStart c then FirstFits P m c
    else ReassembleFits P m c

theorem returns_clipboardDataIn {P : Setup} {m : Clipboard} {c : Chunk} :
    Run.Returns (clipboardDataIn P m c) ↔ ChunkFits P m c := by
  unfold clipboardDataIn ChunkFits
  by_cases hup : m.clipUp = false
  · rw [if_pos hup, hup]
    exact iff_of_true ⟨_, rfl⟩ fun h => nomatch h
  · rw [if_neg hup, imp_iff_right (Bool.eq_true_of_not_eq_false hup)]
    split
    · rw [Run.returns_bind_pure]
      exact returns_ssPart
    · split
      · exact returns_startOrReassemble
      · exact returns_clipboardReassemble

/-- What an event needs. -/
def EventFits (P : Setup) (m : Clipboard) : ClipEvent → Prop
  | .dataIn c => ChunkFits P m c
  | _ => True

theorem returns_clipStep {P : Setup} {m : Clipboard} {e : ClipEvent} :
    Run.Returns (clipStep P m e) ↔ EventFits P m e := by
  cases e with
  | dataIn c => exact returns_clipboardDataIn
  | between b => exact iff_of_true ⟨_, rfl⟩ trivial
  | init works => exact iff_of_true ⟨_, rfl⟩ trivial
  | deinit => exact iff_of_true ⟨_, rfl⟩ trivial

theorem clipNext_det {P : Setup} (m : Clipboard) (e : ClipEvent) (m₁ m₂ : Clipboard)
    (h₁ : ClipNext P m e m₁) (h₂ : ClipNext P m e m₂) : m₁ = m₂ :=
  Except.ok.inj (Eq.trans (Eq.symm h₁) h₂)

/-- **Clipboard input**: whatever the state, the clipboard neither leaves a buffer nor reads what has
not come, in all of a run, just if every chunk of it has what its handlers read and take to be there. -/
theorem clipboard_input_iff (P : Setup) (m : Clipboard) (es : List ClipEvent) :
    Always (ClipNext P) (fun _ => True) m es ↔ AllFit (ClipNext P) (EventFits P) m es := by
  have hstep : ∀ m e, True → StepIff (ClipNext P) (fun _ => True) (fun _ => True) (EventFits P) m e := by
    intro m e _
    constructor
    · rw [← returns_clipStep]
      exact ⟨fun ⟨m', hnext, _⟩ => ⟨m', hnext⟩, fun ⟨m', hnext⟩ => ⟨m', hnext, trivial⟩⟩
    · exact fun _ _ _ => trivial
  exact always_iff clipNext_det (fun _ _ => trivial) hstep trivial es

/-- A clipboard that has come up, for programs that are written to in ASCII. -/
def asciiSetup : Setup := ⟨fun chr => if chr < 128 then some [.ofNat chr] else none, 65512, []⟩

/-- The clipboard before it has come up. -/
def Clipboard.start : Clipboard :=
  { clipUp := false, ins := ⟨0, ⟨[], 0⟩⟩, c2s := .clear, s2c := .clear,
    formats := ⟨Vector.replicate 16 0, 0, 0⟩, caps := ⟨2, 14⟩, savedTarget := .other 0,
    sentType := .none, reqList := 0 }

/-- Capabilities of which only the header has come. -/
def emptyCaps : Chunk := ⟨3, [7, 0, 0, 0, 0, 0, 0, 0], 8, fun _ => false⟩

/-- Their number is read from behind them. -/
theorem clip_caps_read_beyond : ¬ ∀ (P : Setup) (m : Clipboard) (es : List ClipEvent),
    Always (ClipNext P) (fun _ => True) m es := by
  intro h
  obtain ⟨m, hleads, -⟩ := h asciiSetup .start [.init true, .dataIn emptyCaps] _ (List.prefix_refl _)
  obtain ⟨m₁, hinit, m₂, hcaps, -⟩ := hleads
  cases hinit
  cases hcaps

end Xrdp.Chansrv.ClipIn
