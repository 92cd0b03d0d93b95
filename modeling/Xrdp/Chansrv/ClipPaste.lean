import Xrdp.Chansrv.ClipInputFits
import Xrdp.Lib.CharArrays
import Xrdp.Lib.Lines

/-!
# Lists of files that are pasted

The client answers with a list of descriptors of 592 bytes, each with a name in UTF-16; the program that
has asked gets a list of URLs (`clipboard_c2s_in_files` in `sesman/chansrv/clipboard_file.c`, and the
part for files of `clipboard_process_data_response`).

* `SentFile`, `fileGroup` — descriptors as the client sends them.
* `PastedRight` — each is read where it is, as it has been sent, and the URLs are those of the files.
* `PasteFits` — when it is so; `pasted_right_iff`.
-/

namespace Xrdp.Chansrv.ClipIn

open Wire Lines

/-! ## What the client sends -/

/-- A unit that is half of a character. -/
def Surrogate (u : Nat) : Prop := 0xD800 ≤ u ∧ u < 0xE000

/-- The characters of a text in UTF-16; a half without the other stands for itself. -/
def characters : List Nat → List Nat
  | hi :: lo :: us =>
    if 0xD800 ≤ hi ∧ hi < 0xDC00 ∧ 0xDC00 ≤ lo ∧ lo < 0xE000 then
      (0x10000 + (hi - 0xD800) * 0x400 + (lo - 0xDC00)) :: characters us
    else hi :: characters (lo :: us)
  | us => us

/-- How characters are written, if they all can be. -/
def written (encode : Nat → Option (List UInt8)) : List Nat → Option (List UInt8)
  | [] => some []
  | c :: cs => (encode c).bind fun bs => (written encode cs).map (bs ++ ·)

/-- A locale in which the bytes below 128 are characters by themselves, and are in no other character;
halves of characters are none. -/
structure AsciiBased (encode : Nat → Option (List UInt8)) : Prop where
  ascii : ∀ b : UInt8, b < 128 → encode b.toNat = some [b]
  alone : ∀ {c bs} {b : UInt8}, encode c = some bs → b ∈ bs → b < 128 → c = b.toNat
  ne_nil : ∀ {c bs}, encode c = some bs → bs ≠ []
  surrogate : ∀ {u}, Surrogate u → encode u = none

/-- A descriptor: `CLIPRDR_FILEDESCRIPTOR`. -/
structure SentFile where
  flags : UInt32
  reserved1 : List.Vector UInt8 32
  fileAttributes : UInt32
  reserved2 : List.Vector UInt8 16
  lastWriteTimeLow : UInt32
  lastWriteTimeHigh : UInt32
  fileSizeHigh : UInt32
  fileSizeLow : UInt32
  name : List Nat
  /-- What is behind the end of the name. -/
  rest : List UInt8
  units : ∀ u ∈ name, 0 < u ∧ u < 65536
  short : 2 * name.length + 2 + rest.length = 520

namespace SentFile

/-- What is before the name. -/
def front (f : SentFile) : List UInt8 :=
  leBytes 4 f.flags.toNat ++ f.reserved1.toList ++ leBytes 4 f.fileAttributes.toNat ++
    f.reserved2.toList ++ leBytes 4 f.lastWriteTimeLow.toNat ++ leBytes 4 f.lastWriteTimeHigh.toNat ++
    leBytes 4 f.fileSizeHigh.toNat ++ leBytes 4 f.fileSizeLow.toNat

def bytes (f : SentFile) : List UInt8 :=
  f.front ++ (f.name.flatMap (leBytes 2) ++ 0 :: 0 :: f.rest)

@[simp] theorem front_length (f : SentFile) : f.front.length = 72 := by simp [front]

@[simp] theorem bytes_length (f : SentFile) : f.bytes.length = 592 := by
  have hshort := f.short
  simp [bytes]
  omega

/-- The name as the client means it. -/
def fileName (encode : Nat → Option (List UInt8)) (f : SentFile) : Option (List UInt8) :=
  written encode (characters f.name)

/-- It is a directory, or its name has a backslash. -/
def Skipped (f : SentFile) : Prop := f.fileAttributes.toNat.testBit 4 ∨ 92 ∈ f.name

instance (f : SentFile) : Decidable f.Skipped := by
  unfold Skipped
  infer_instance

end SentFile

/-- A file group descriptor. -/
def fileGroup (fs : List SentFile) : List UInt8 := leBytes 4 fs.length ++ fs.flatMap SentFile.bytes

/-! ## What should come of it -/

/-- The descriptors that the loop of `clipboard_c2s_in_files` reads, and where: whatever it does with one, it
goes on behind it. -/
def filesRead (P : Setup) (s : ClipStream) : Nat → Run (List (Nat × ClipFileDesc))
  | 0 => .ok []
  | n + 1 => do
    let (cfd, s') ← clipboardC2sInFileInfo P s
    let more ← filesRead P s' n
    return (s.p, cfd) :: more

/-- The descriptors that `clipboard_c2s_in_files` reads, and where. -/
def descriptorsRead (P : Setup) (s : ClipStream) : Run (List (Nat × ClipFileDesc)) :=
  if ¬s.Has 4 then .ok []
  else do
    let (cItems, s) ← s.inUint32Le
    if 64 * 1024 < toInt cItems then return [] else filesRead P s (toInt cItems).toNat

/-- A descriptor has been read at its place, as it has been sent. -/
structure ReadAs (P : Setup) (place : Nat) (f : SentFile) (r : Nat × ClipFileDesc) : Prop where
  place : r.1 = place
  flags : r.2.flags = f.flags.toNat
  fileAttributes : r.2.fileAttributes = f.fileAttributes.toNat
  lastWriteTimeLow : r.2.lastWriteTimeLow = f.lastWriteTimeLow.toNat
  lastWriteTimeHigh : r.2.lastWriteTimeHigh = f.lastWriteTimeHigh.toNat
  fileSizeHigh : r.2.fileSizeHigh = f.fileSizeHigh.toNat
  fileSizeLow : r.2.fileSizeLow = f.fileSizeLow.toNat
  name : ∃ name, f.fileName P.encode = some name ∧ cString r.2.cFileName = .ok name

/-- Every descriptor has been, one every 592 bytes. -/
def ReadAll (P : Setup) : Nat → List SentFile → List (Nat × ClipFileDesc) → Prop
  | _, [], [] => True
  | place, f :: fs, r :: rs => ReadAs P place f r ∧ ReadAll P (place + 592) fs rs
  | _, _, _ => False

def url (P : Setup) (name : List UInt8) : List UInt8 :=
  fileScheme ++ P.fuseClipboardPath ++ [47] ++ name

/-- The names of the files that are added: those that are not skipped, and are not refused. -/
def addedNames (P : Setup) (refused : Nat → Bool) : Nat → List SentFile → List (List UInt8)
  | _, [] => []
  | lindex, f :: fs =>
    if f.Skipped ∨ refused lindex then addedNames P refused (lindex + 1) fs
    else (f.fileName P.encode).getD [] :: addedNames P refused (lindex + 1) fs

/-- The URLs of the files. -/
def urls (P : Setup) (refused : Nat → Bool) (fs : List SentFile) : List (List UInt8) :=
  (addedNames P refused 0 fs).map (url P)

/-- `"copy\n"`. -/
def copyLine : List UInt8 := [99, 111, 112, 121, 10]

/-- What comes before the URLs. -/
def listHead (type : Target) : List UInt8 := if type = .file2 then copyLine else []

/-- The list that is made of an answer: every descriptor is read where it is and as it has been sent, and
behind the first line, if there is to be one, there are just the URLs of the files, a line for each. -/
structure PastedRight (P : Setup) (refused : Nat → Bool) (type : Target) (s : ClipStream)
    (fs : List SentFile) : Prop where
  read : ∃ rs, descriptorsRead P s = .ok rs ∧ ReadAll P (s.p + 4) fs rs
  list : ∃ list s' len text, fileList P refused type s = .ok (list, s') ∧ gStrlen list = .ok len ∧
    (List.range len).map list.cells = listHead type ++ text ∧ lines 10 text = urls P refused fs

/-! ## Conditions -/

/-- Every unit of the name is a character by itself, and they take at most 255 bytes together. -/
def NameFits (P : Setup) (f : SentFile) : Prop :=
  ∃ name, written P.encode f.name = some name ∧ name.length ≤ 255

/-- The name takes as many bytes as it has units. -/
def Aligned (P : Setup) (f : SentFile) : Prop :=
  ∀ name, written P.encode f.name = some name → name.length = f.name.length

/-- The list can be read and written. -/
structure PasteFits (P : Setup) (refused : Nat → Bool) (type : Target) (fs : List SentFile) : Prop where
  few : fs.length ≤ 64 * 1024
  names : ∀ f ∈ fs, NameFits P f
  aligned : ∀ f ∈ fs.dropLast, Aligned P f
  lines : ∀ u ∈ urls P refused fs, 10 ∉ u
  room : (listHead type).length + (unlines 10 (urls P refused fs)).length < 1024 * 1024

/-! ## Names -/

section

variable {encode : Nat → Option (List UInt8)} {us vs : List Nat} {bs : List UInt8} {k : Nat}

theorem written_append :
    written encode (us ++ vs) = (written encode us).bind fun a => (written encode vs).map (a ++ ·) := by
  induction us with
  | nil => simp [written]
  | cons u us ih =>
    simp only [List.cons_append, written, ih]
    cases encode u with
    | none => rfl
    | some a =>
      cases written encode us with
      | none => rfl
      | some b => simp [Function.comp_def]

/-- What is written has no zero but for a zero. -/
theorem zero_notMem_written (hlocale : AsciiBased encode) (hus : ∀ u ∈ us, 0 < u)
    (h : written encode us = some bs) : 0 ∉ bs := by
  induction us generalizing bs with
  | nil =>
    cases h
    simp
  | cons u us ih =>
    obtain ⟨a, ha, h⟩ := Option.bind_eq_some_iff.1 h
    obtain ⟨b, hb, rfl⟩ := Option.map_eq_some_iff.1 h
    rw [List.forall_mem_cons] at hus
    intro hmem
    rcases List.mem_append.1 hmem with hmem | hmem
    · have hzero := hlocale.alone ha hmem (by decide)
      exact absurd hzero (Nat.pos_iff_ne_zero.1 hus.1)
    · exact ih hus.2 hb hmem

/-- A backslash is written as one, and nothing else is. -/
theorem mem_written (hlocale : AsciiBased encode) {c : UInt8} (hc : c < 128)
    (h : written encode us = some bs) : c ∈ bs ↔ c.toNat ∈ us := by
  induction us generalizing bs with
  | nil =>
    cases h
    simp
  | cons u us ih =>
    obtain ⟨a, ha, h⟩ := Option.bind_eq_some_iff.1 h
    obtain ⟨b, hb, rfl⟩ := Option.map_eq_some_iff.1 h
    rw [List.mem_append, List.mem_cons, ih hb]
    refine or_congr ⟨fun hmem => (hlocale.alone ha hmem hc).symm, fun heq => ?_⟩ Iff.rfl
    subst heq
    rw [hlocale.ascii c hc] at ha
    cases ha
    exact List.mem_singleton_self c

/-- If all units are characters, none is half of one. -/
theorem not_surrogate_of_written (hlocale : AsciiBased encode) (h : (written encode us).isSome) :
    ∀ u ∈ us, ¬Surrogate u := by
  induction us with
  | nil => simp
  | cons u us ih =>
    obtain ⟨bs, hbs⟩ := Option.isSome_iff_exists.1 h
    obtain ⟨a, ha, hbs⟩ := Option.bind_eq_some_iff.1 hbs
    obtain ⟨b, hb, -⟩ := Option.map_eq_some_iff.1 hbs
    rw [List.forall_mem_cons]
    refine ⟨fun hsur => ?_, ih (by rw [hb]; rfl)⟩
    rw [hlocale.surrogate hsur] at ha
    cases ha

/-- Units that are no halves are characters. -/
theorem characters_append (h : ∀ u ∈ us, ¬Surrogate u) :
    characters (us ++ vs) = us ++ characters vs := by
  induction us with
  | nil => rfl
  | cons u us ih =>
    rw [List.forall_mem_cons] at h
    have hu : ¬(0xD800 ≤ u ∧ u < 0xDC00) := fun hsur => h.1 ⟨hsur.1, by omega⟩
    rw [List.cons_append, List.cons_append, ← ih h.2]
    cases hrest : us ++ vs with
    | nil => rfl
    | cons v rest =>
      rw [characters, if_neg fun hpair => hu ⟨hpair.1, hpair.2.1⟩]

theorem characters_ne_nil (h : us ≠ []) : characters us ≠ [] := by
  match us, h with
  | [u], _ => simp [characters]
  | u :: v :: us, _ =>
    rw [characters]
    split <;> simp

/-- A name of characters that are each a unit. -/
theorem fileName_eq {f : SentFile} (hlocale : AsciiBased encode) (h : written encode f.name = some bs) :
    f.fileName encode = some bs := by
  have hunits : ∀ u ∈ f.name, ¬Surrogate u := not_surrogate_of_written hlocale (by rw [h]; rfl)
  have hchars : characters f.name = f.name := by
    have hall : characters (f.name ++ []) = f.name ++ [] := characters_append hunits
    rwa [List.append_nil] at hall
  rw [SentFile.fileName, hchars, h]

/-- `wcstombs` writes the characters from the front on: all of them and a zero, or as many as there is room
for, or as many as there are before one that is none. -/
theorem wcstombs_spec (k : Nat) (hus : ∀ u ∈ us, 0 < u) :
    ∃ front back bs, us = front ++ back ∧ written encode front = some bs ∧
      ((back = [] ∧ bs.length < k ∧ wcstombs encode k (us ++ [0]) = (some bs.length, bs ++ [0])) ∨
        (¬(back = [] ∧ bs.length < k) ∧ (wcstombs encode k (us ++ [0])).2 = bs)) := by
  induction us generalizing k with
  | nil =>
    cases k with
    | zero => exact ⟨[], [], [], rfl, rfl, .inr ⟨fun h => absurd h.2 (Nat.lt_irrefl 0), rfl⟩⟩
    | succ k => exact ⟨[], [], [], rfl, rfl, .inl ⟨rfl, Nat.succ_pos k, rfl⟩⟩
  | cons u us ih =>
    rw [List.forall_mem_cons] at hus
    have hstop : ∀ {r : Option Nat × List UInt8}, r.2 = [] → ∃ front back bs,
        u :: us = front ++ back ∧ written encode front = some bs ∧
          ((back = [] ∧ bs.length < k ∧ r = (some bs.length, bs ++ [0])) ∨
            (¬(back = [] ∧ bs.length < k) ∧ r.2 = bs)) :=
      fun hr => ⟨[], u :: us, [], rfl, rfl, .inr ⟨fun h => (nomatch h.1), hr⟩⟩
    cases k with
    | zero => exact hstop rfl
    | succ k =>
      rw [List.cons_append, wcstombs, if_neg (Nat.pos_iff_ne_zero.1 hus.1)]
      cases ha : encode u with
      | none => exact hstop rfl
      | some a =>
        dsimp only
        by_cases hroom : a.length ≤ k + 1
        · rw [if_pos hroom]
          obtain ⟨front, back, bs, rfl, hfront, hends⟩ := ih (k + 1 - a.length) hus.2
          refine ⟨u :: front, back, a ++ bs, rfl, by rw [written, ha, Option.bind_some, hfront]; rfl, ?_⟩
          rw [List.length_append]
          rcases hends with ⟨hback, hlen, heq⟩ | ⟨hends, heq⟩
          · refine .inl ⟨hback, by omega, ?_⟩
            rw [heq]
            simp [Nat.add_comm]
          · refine .inr ⟨fun h => hends ⟨h.1, by omega⟩, ?_⟩
            rw [heq]
        · rw [if_neg hroom]
          exact hstop rfl

/-- If there is room for all characters and a zero, they are all written. -/
theorem wcstombs_all (hus : ∀ u ∈ us, 0 < u) (h : written encode us = some bs) (hlen : bs.length < k) :
    wcstombs encode k (us ++ [0]) = (some bs.length, bs ++ [0]) := by
  induction us generalizing bs k with
  | nil =>
    cases h
    cases k with
    | zero => cases hlen
    | succ k => rfl
  | cons u us ih =>
    obtain ⟨a, ha, h⟩ := Option.bind_eq_some_iff.1 h
    obtain ⟨b, hb, rfl⟩ := Option.map_eq_some_iff.1 h
    rw [List.forall_mem_cons] at hus
    rw [List.length_append] at hlen
    obtain ⟨n, rfl⟩ : ∃ n, k = n + 1 := ⟨k - 1, by omega⟩
    rw [List.cons_append, wcstombs, if_neg (Nat.pos_iff_ne_zero.1 hus.1), ha]
    dsimp only
    rw [if_pos (by omega), ih hus.2 hb (by omega)]
    simp [Nat.add_comm]

end

theorem cString_eq_ok {str name : List UInt8} (h : cString str = .ok name) :
    0 ∈ str ∧ name = CharArrays.text str := by
  have hmem : 0 ∈ str := by
    induction str generalizing name with
    | nil => cases h
    | cons chr str ih =>
      rw [cString] at h
      split at h
      · rename_i hchr
        rw [hchr]
        exact List.mem_cons_self
      · obtain ⟨rest, hrest, -⟩ := Run.bind_eq_ok.1 h
        exact List.mem_cons_of_mem _ (ih hrest)
  rw [cString_ok hmem] at h
  cases h
  exact ⟨hmem, rfl⟩

theorem cString_zeros {name : List UInt8} (hname : 0 ∉ name) (rest : List UInt8) :
    cString (name ++ 0 :: rest) = .ok name := by
  rw [cString_ok (by simp)]
  exact congrArg _ (CharArrays.text_append_zero hname rest)

/-! ## Reading a descriptor -/

variable {P : Setup} {s : ClipStream} {f : SentFile} {fs : List SentFile} {more : List UInt8}

namespace ClipStream

theorem rest_inUint8s (s : ClipStream) (n : Nat) : (s.inUint8s n).rest = s.rest.drop n := by
  show s.bytes.drop (s.p + (n : Int)).toNat = (s.bytes.drop s.p).drop n
  rw [List.drop_drop]
  congr 1

theorem has_of_rest {n : Nat} (hn : 0 < n) (h : n ≤ s.rest.length) : s.Has n := by
  have hrest : s.rest.length = s.bytes.length - s.p := List.length_drop
  show s.p + n ≤ s.bytes.length
  omega

theorem num_inUint8s (front : List UInt8) {back : List UInt8} {k n v : Nat} (h : s.rest = front ++ (leBytes n v ++ back))
    (hk : front.length = k) : (s.inUint8s k).num n = v % 256 ^ n := by
  rw [num, rest_inUint8s, h, List.drop_left' hk, List.take_left' (leBytes_length n v), leVal_leBytes]

end ClipStream

/-- All fields of a descriptor. -/
theorem fileInfo_eq (h : s.Has 72) :
    clipboardC2sInFileInfo P s = .ok (⟨s.num 4, (s.inUint8s 36).num 4, (s.inUint8s 56).num 4,
      (s.inUint8s 60).num 4, (s.inUint8s 64).num 4, (s.inUint8s 68).num 4, nameAt P s⟩, nextFile P s) := by
  have hroom : 256 ≤ (List.replicate 256 (0 : UInt8)).length := by rw [List.length_replicate]
  have hhas : ∀ n ≤ 72, s.Has n := fun n hn => h.le hn
  unfold clipboardC2sInFileInfo
  simp (disch := decide) only [ClipStream.inUint32Le, ClipStream.inLe_bind,
    ClipStream.has_inUint8s_int, ClipStream.inUint8s_inUint8s, Int.reduceToNat, Int.reduceAdd,
    Nat.reduceAdd, Nat.cast_ofNat, hhas, if_true, clipboardInUnicode_ok hroom, Run.ok_bind, Run.pure_eq]
  have hsum : (4 + (36 + (20 + (4 + (4 + (4 + ((s.inUint8s 72).textBytes : Int))))))) =
      72 + (s.inUint8s 72).textBytes := by omega
  rw [hsum, ← ClipStream.inUint8s_inUint8s (by decide)]
  rfl

theorem units_name {name : List Nat} (hunits : ∀ u ∈ name, 0 < u ∧ u < 65536) (back : List UInt8) :
    units (name.flatMap (leBytes 2) ++ 0 :: 0 :: back) = name ++ [0] := by
  induction name with
  | nil => rfl
  | cons u name ih =>
    rw [List.forall_mem_cons] at hunits
    have hval : leVal [UInt8.ofNat u, UInt8.ofNat (u / 256)] = u := by
      exact (leVal_leBytes 2 u).trans (Nat.mod_eq_of_lt hunits.1.2)
    show units (UInt8.ofNat u :: UInt8.ofNat (u / 256) :: (name.flatMap (leBytes 2) ++ 0 :: 0 :: back)) = _
    rw [units, hval, if_neg (Nat.pos_iff_ne_zero.1 hunits.1.1), ih hunits.2]
    rfl

section

variable (hrest : s.rest = f.bytes ++ more)

include hrest

theorem has_descriptor : s.Has 592 :=
  ClipStream.has_of_rest (by decide) (by rw [hrest]; simp)

theorem rest_name : (s.inUint8s 72).rest = f.name.flatMap (leBytes 2) ++ 0 :: 0 :: (f.rest ++ more) := by
  have h := ClipStream.rest_inUint8s s 72
  rw [hrest, SentFile.bytes, List.append_assoc, List.drop_left' f.front_length] at h
  simpa using h

theorem textBytes_name : (s.inUint8s 72).textBytes = 2 * (f.name.length + 1) := by
  rw [ClipStream.textBytes, rest_name hrest, units_name f.units]
  simp

theorem text_name : (s.inUint8s 72).text P.encode 256 = wcstombs P.encode 256 (f.name ++ [0]) := by
  have hshort := f.short
  rw [ClipStream.text, rest_name hrest, units_name f.units, List.take_of_length_le]
  rw [List.length_append, List.length_singleton]
  omega

/-- The fields of fixed width are read as they have been sent. -/
theorem fields_eq :
    s.num 4 = f.flags.toNat ∧ (s.inUint8s 36).num 4 = f.fileAttributes.toNat ∧
      (s.inUint8s 56).num 4 = f.lastWriteTimeLow.toNat ∧
      (s.inUint8s 60).num 4 = f.lastWriteTimeHigh.toNat ∧
      (s.inUint8s 64).num 4 = f.fileSizeHigh.toNat ∧ (s.inUint8s 68).num 4 = f.fileSizeLow.toNat := by
  have hmod : ∀ v : UInt32, v.toNat % 256 ^ 4 = v.toNat := fun v => Nat.mod_eq_of_lt v.toNat_lt
  have hall := hrest
  simp only [SentFile.bytes, SentFile.front, List.append_assoc] at hall
  refine ⟨(ClipStream.num_inUint8s [] hall rfl).trans (hmod _), ?_⟩
  rw [← List.append_assoc] at hall
  refine ⟨(ClipStream.num_inUint8s _ hall (by simp)).trans (hmod _), ?_⟩
  rw [← List.append_assoc, ← List.append_assoc] at hall
  refine ⟨(ClipStream.num_inUint8s _ hall (by simp)).trans (hmod _), ?_⟩
  rw [← List.append_assoc] at hall
  refine ⟨(ClipStream.num_inUint8s _ hall (by simp)).trans (hmod _), ?_⟩
  rw [← List.append_assoc] at hall
  refine ⟨(ClipStream.num_inUint8s _ hall (by simp)).trans (hmod _), ?_⟩
  rw [← List.append_assoc] at hall
  exact (ClipStream.num_inUint8s _ hall (by simp)).trans (hmod _)

/-- A name that fits is what is read, and so much of the message is taken for it. -/
theorem nameAt_of_fits {name : List UInt8} (hname : written P.encode f.name = some name)
    (hlen : name.length ≤ 255) :
    nameAt P s = name ++ 0 :: List.replicate (255 - name.length) 0 ∧
      (nextFile P s).p = s.p + 592 + 2 * f.name.length - 2 * name.length := by
  have htext : (s.inUint8s 72).text P.encode 256 = (some name.length, name ++ [0]) := by
    rw [text_name hrest]
    exact wcstombs_all (fun u hu => (f.units u hu).1) hname (by omega)
  constructor
  · simp only [nameAt, htext, List.length_append, List.length_singleton, List.drop_replicate,
      List.append_assoc, List.singleton_append]
    congr 3
    omega
  · have hbytes := textBytes_name hrest
    simp only [nextFile, htext, Option.map_some, Option.getD_some]
    rw [hbytes]
    simp only [ClipStream.inUint8s]
    have := Int.ofNat_eq_natCast name.length
    omega

/-- The name is read as it has been sent just if it fits. -/
theorem name_right_iff (hlocale : AsciiBased P.encode) :
    (∃ name, f.fileName P.encode = some name ∧ cString (nameAt P s) = .ok name) ↔ NameFits P f := by
  have hpos : ∀ u ∈ f.name, 0 < u := fun u hu => (f.units u hu).1
  constructor
  · rintro ⟨name, hname, hread⟩
    obtain ⟨front, back, bs, hsplit, hfront, ⟨hback, hlen, -⟩ | ⟨hends, htext⟩⟩ :=
      @wcstombs_spec P.encode f.name 256 hpos
    · rw [hback, List.append_nil] at hsplit
      exact ⟨bs, hsplit ▸ hfront, by omega⟩
    · have hzero : 0 ∉ bs := zero_notMem_written hlocale
        (fun u hu => hpos u (hsplit ▸ List.mem_append_left _ hu)) hfront
      have hat : nameAt P s = bs ++ List.replicate (256 - bs.length) 0 := by
        rw [nameAt, text_name hrest, htext, List.drop_replicate]
      rw [hat] at hread
      obtain ⟨hmem, hname'⟩ := cString_eq_ok hread
      have hlen : bs.length < 256 := by
        rcases List.mem_append.1 hmem with hmem | hmem
        · exact absurd hmem hzero
        · have := (List.mem_replicate.1 hmem).1
          omega
      have hbs : name = bs := by
        rw [hname']
        obtain ⟨n, hn⟩ : ∃ n, 256 - bs.length = n + 1 := ⟨255 - bs.length, by omega⟩
        rw [hn, List.replicate_succ]
        exact CharArrays.text_append_zero hzero _
      -- what comes behind would have to be written as nothing
      have hback : characters back ≠ [] := characters_ne_nil fun h => hends ⟨h, hlen⟩
      have hunits : ∀ u ∈ front, ¬Surrogate u := not_surrogate_of_written hlocale (by rw [hfront]; rfl)
      rw [SentFile.fileName, hsplit, characters_append hunits, written_append, hfront,
        Option.bind_some] at hname
      obtain ⟨tail, htail, heq⟩ := Option.map_eq_some_iff.1 hname
      have htail' : tail = [] := by simpa [hbs] using heq
      subst htail'
      obtain ⟨c, cs, hcs⟩ := List.exists_cons_of_ne_nil hback
      rw [hcs] at htail
      obtain ⟨a, ha, htail⟩ := Option.bind_eq_some_iff.1 htail
      obtain ⟨b, -, hnil⟩ := Option.map_eq_some_iff.1 htail
      exact absurd (List.append_eq_nil_iff.1 hnil).1 (hlocale.ne_nil ha)
  · rintro ⟨name, hname, hlen⟩
    refine ⟨name, fileName_eq hlocale hname, ?_⟩
    rw [(nameAt_of_fits hrest hname hlen).1]
    exact cString_zeros (zero_notMem_written hlocale hpos hname) _

end

/-! ## Reading all of them -/

theorem rest_nextFile (hrest : s.rest = f.bytes ++ more) (hp : (nextFile P s).p = s.p + 592) :
    (nextFile P s).rest = more := by
  have hbytes : (nextFile P s).bytes = s.bytes := rfl
  show (nextFile P s).bytes.drop (nextFile P s).p = more
  rw [hbytes, hp, ← List.drop_drop]
  show s.rest.drop 592 = more
  rw [hrest, List.drop_left' f.bytes_length]

/-- Where the next descriptor is read, behind a name that fits. -/
theorem aligned_iff (hrest : s.rest = f.bytes ++ more) (hfits : NameFits P f) :
    (nextFile P s).p = s.p + 592 ↔ Aligned P f := by
  obtain ⟨name, hname, hlen⟩ := hfits
  have hshort := f.short
  rw [(nameAt_of_fits hrest hname hlen).2]
  constructor
  · intro hp name' hname'
    rw [hname] at hname'
    cases hname'
    omega
  · intro h
    have := h name hname
    omega

/-- One descriptor, and what comes next. -/
theorem filesRead_cons {n : Nat} (hlocale : AsciiBased P.encode) (hrest : s.rest = f.bytes ++ more) :
    (∃ rs, filesRead P s (n + 1) = .ok rs ∧ ReadAll P s.p (f :: fs) rs) ↔
      NameFits P f ∧ ∃ rs, filesRead P (nextFile P s) n = .ok rs ∧ ReadAll P (s.p + 592) fs rs := by
  have hread := @fileInfo_eq P s ((has_descriptor hrest).le (by decide))
  obtain ⟨hflags, hattributes, hlow, hhigh, hsizeHigh, hsizeLow⟩ := fields_eq hrest
  rw [← name_right_iff hrest hlocale, filesRead, hread, Run.ok_bind]
  constructor
  · rintro ⟨rs, hrs, hall⟩
    obtain ⟨rs', hrs', heq⟩ := Run.bind_eq_ok.1 hrs
    cases heq
    exact ⟨hall.1.name, rs', hrs', hall.2⟩
  · rintro ⟨hname, rs, hrs, hall⟩
    dsimp only
    rw [hrs]
    exact ⟨_, rfl, ⟨rfl, hflags, hattributes, hlow, hhigh, hsizeHigh, hsizeLow, hname⟩, hall⟩

/-- The descriptors are read where they are and as they have been sent just if every name fits, and all but
the last take as many bytes as they have units. -/
theorem filesRead_iff (hlocale : AsciiBased P.encode) (hrest : s.rest = fs.flatMap SentFile.bytes ++ more) :
    (∃ rs, filesRead P s fs.length = .ok rs ∧ ReadAll P s.p fs rs) ↔
      (∀ f ∈ fs, NameFits P f) ∧ ∀ f ∈ fs.dropLast, Aligned P f := by
  induction fs generalizing s with
  | nil =>
    refine iff_of_true ⟨[], rfl, trivial⟩ ⟨?_, ?_⟩
    all_goals simp
  | cons f fs ih =>
    rw [List.flatMap_cons, List.append_assoc] at hrest
    rw [List.length_cons, filesRead_cons hlocale hrest, List.forall_mem_cons, and_assoc]
    refine and_congr_right fun hfits => ?_
    cases fs with
    | nil =>
      refine iff_of_true ⟨[], rfl, trivial⟩ ⟨?_, ?_⟩
      all_goals simp
    | cons g gs =>
      rw [List.dropLast_cons_cons, List.forall_mem_cons (a := f), ← aligned_iff hrest hfits]
      constructor
      · rintro ⟨rs, hrs, hall⟩
        -- the next descriptor has been read where it is
        have hp : (nextFile P s).p = s.p + 592 := by
          cases rs with
          | nil => exact hall.elim
          | cons r rs =>
            rw [List.length_cons, filesRead] at hrs
            obtain ⟨⟨cfd, s'⟩, -, hmore⟩ := Run.bind_eq_ok.1 hrs
            obtain ⟨rs', -, heq⟩ := Run.bind_eq_ok.1 hmore
            cases heq
            exact hall.1.place
        obtain ⟨hnames, haligned⟩ := (ih (rest_nextFile hrest hp)).1 ⟨rs, hrs, by rwa [hp]⟩
        exact ⟨hnames, hp, haligned⟩
      · rintro ⟨hnames, hp, haligned⟩
        rw [← hp]
        exact (ih (rest_nextFile hrest hp)).2 ⟨hnames, haligned⟩

/-! ## Writing the list -/

section

variable {list : Buf UInt8} {ptr fileCount lindex : Nat} {head name : List UInt8} {refused : Nat → Bool}

/-- Bytes are put behind those there are. -/
theorem holds_memcpy {bs : List UInt8} (h : list.Holds 0 head) (hptr : ptr = head.length)
    (hroom : ptr + bs.length ≤ list.size) :
    ∃ list', list.memcpy ptr bs = .ok list' ∧ list'.Holds 0 (head ++ bs) ∧ list'.size = list.size := by
  obtain ⟨list', hput, hholds, htouched⟩ := Buf.memcpy_spec hroom
  subst hptr
  have hhead := h.touched htouched (.inl (by omega))
  exact ⟨list', hput, hhead.append (by rwa [Nat.zero_add]), htouched.size⟩

theorem holds_gStrcpy {bs : List UInt8} (h : list.Holds 0 head) (hptr : ptr = head.length)
    (hroom : ptr + bs.length < list.size) :
    ∃ list', gStrcpy list ptr bs = .ok list' ∧ list'.Holds 0 (head ++ bs) ∧ list'.size = list.size := by
  obtain ⟨list', hput, hholds, hsize⟩ := @holds_memcpy list ptr head (bs ++ [0]) h hptr (by simp; omega)
  refine ⟨list', hput, ?_, hsize⟩
  have hfront := hholds.sub 0 (head ++ bs).length (Nat.zero_le _)
  rw [List.drop_zero, ← List.append_assoc, List.take_left' rfl] at hfront
  exact hfront

theorem holds_write {v : UInt8} (h : list.Holds 0 head) (hptr : ptr = head.length)
    (hroom : ptr < list.size) :
    ∃ list', list.write ptr v = .ok list' ∧ list'.Holds 0 (head ++ [v]) ∧ list'.size = list.size := by
  obtain ⟨list', hput, hholds, htouched⟩ := Buf.write_spec hroom v
  subst hptr
  have hhead := h.touched htouched (.inl (by omega))
  exact ⟨list', hput, hhead.append (by rwa [Nat.zero_add]), htouched.size⟩

/-- The lines of the list from some file on. -/
def linesFrom (fileCount : Nat) (ls : List (List UInt8)) : List UInt8 :=
  if 0 < fileCount then ls.flatMap (10 :: ·) else unlines 10 ls

/-- The end of the line before, if there is one, and a URL. -/
def lineOf (P : Setup) (fileCount : Nat) (name : List UInt8) : List UInt8 :=
  (if 0 < fileCount then [10] else []) ++ url P name

theorem linesFrom_cons (l : List UInt8) (ls : List (List UInt8)) :
    linesFrom fileCount (l :: ls) = (if 0 < fileCount then [10] else []) ++ l ++ linesFrom (fileCount + 1) ls := by
  unfold linesFrom
  rw [if_pos (Nat.succ_pos fileCount)]
  by_cases hcount : 0 < fileCount
  · rw [if_pos hcount, if_pos hcount, List.flatMap_cons]
    rfl
  · rw [if_neg hcount, if_neg hcount, unlines_cons, List.nil_append]

theorem lineOf_length : ptr + (lineOf P fileCount name).length = fileEnd P ptr fileCount name := by
  unfold lineOf url fileEnd
  by_cases hcount : 0 < fileCount
  · simp [hcount, fileScheme]
    omega
  · simp [hcount, fileScheme]
    omega

theorem holds_putNewline (h : list.Holds 0 head) (hptr : ptr = head.length)
    (hroom : ptr + (if 0 < fileCount then 1 else 0) ≤ list.size) :
    ∃ list', putNewline list ptr fileCount = .ok (list', ptr + if 0 < fileCount then 1 else 0) ∧
      list'.Holds 0 (head ++ if 0 < fileCount then [10] else []) ∧ list'.size = list.size := by
  unfold putNewline
  by_cases hcount : 0 < fileCount
  · simp only [if_pos hcount] at hroom ⊢
    obtain ⟨list', hput, hholds, hsize⟩ := holds_write (v := 10) h hptr (by omega)
    exact ⟨list', by rw [hput]; rfl, hholds, hsize⟩
  · simp only [if_neg hcount]
    exact ⟨list, rfl, by rwa [List.append_nil], rfl⟩

/-- A file is put behind those there are. -/
theorem holds_putFile (h : list.Holds 0 head) (hptr : ptr = head.length)
    (hroom : fileEnd P ptr fileCount name < list.size) :
    ∃ list', putFile P list ptr fileCount name = .ok (list', fileEnd P ptr fileCount name) ∧
      list'.Holds 0 (head ++ lineOf P fileCount name) ∧ list'.size = list.size := by
  have hscheme : fileScheme.length = 7 := rfl
  have hnewline : (if 0 < fileCount then [(10 : UInt8)] else []).length = if 0 < fileCount then 1 else 0 := by
    split <;> rfl
  unfold fileEnd at hroom ⊢
  obtain ⟨list₁, h₁, hholds₁, hsize₁⟩ := @holds_putNewline list ptr fileCount head h hptr (by omega)
  obtain ⟨list₂, h₂, hholds₂, hsize₂⟩ := @holds_gStrcpy list₁ (ptr + if 0 < fileCount then 1 else 0) _
    fileScheme hholds₁ (by rw [List.length_append, hnewline, hptr]) (by omega)
  obtain ⟨list₃, h₃, hholds₃, hsize₃⟩ := @holds_gStrcpy list₂ ((ptr + if 0 < fileCount then 1 else 0) + 7) _
    P.fuseClipboardPath hholds₂ (by simp only [List.length_append, hnewline, hptr, hscheme]) (by omega)
  obtain ⟨list₄, h₄, hholds₄, hsize₄⟩ := @holds_write list₃
    ((ptr + if 0 < fileCount then 1 else 0) + 7 + P.fuseClipboardPath.length) _ 47 hholds₃
    (by simp only [List.length_append, hnewline, hptr, hscheme]) (by omega)
  obtain ⟨list₅, h₅, hholds₅, hsize₅⟩ := @holds_gStrcpy list₄
    ((ptr + if 0 < fileCount then 1 else 0) + 7 + P.fuseClipboardPath.length + 1) _ name hholds₄
    (by simp only [List.length_append, List.length_singleton, hnewline, hptr, hscheme]) (by omega)
  refine ⟨list₅, ?_, ?_, by omega⟩
  · rw [putFile, h₁, Run.ok_bind]
    dsimp only
    rw [h₂, Run.ok_bind, h₃, Run.ok_bind, h₄, Run.ok_bind, h₅]
    rfl
  · rw [lineOf, url]
    simpa only [List.append_assoc] using hholds₅

end

theorem hasBackslash_zeros {name : List UInt8} (hname : 0 ∉ name) (rest : List UInt8) :
    hasBackslash (name ++ 0 :: rest) = .ok (decide (92 ∈ name)) := by
  induction name with
  | nil => rfl
  | cons chr name ih =>
    rw [List.mem_cons, not_or] at hname
    rw [List.cons_append, hasBackslash, if_neg (Ne.symm hname.1)]
    by_cases hchr : chr = 92
    · rw [if_pos hchr]
      simp [hchr]
    · rw [if_neg hchr, ih hname.2]
      simp [Ne.symm hchr]

/-- What the loop finds out of a file whose name fits. -/
structure SeenAs (P : Setup) (s : ClipStream) (f : SentFile) (name : List UInt8) : Prop where
  fileName : f.fileName P.encode = some name
  slash : hasBackslash (nameAt P s) = .ok (decide (92 ∈ f.name))
  name : (nameAt P s).takeWhile (· ≠ 0) = name
  directory : directoryAt s = f.fileAttributes.toNat.testBit 4

theorem seenAs_of_fits (hlocale : AsciiBased P.encode) (hrest : s.rest = f.bytes ++ more)
    (hfits : NameFits P f) : ∃ name, SeenAs P s f name := by
  obtain ⟨name, hname, hlen⟩ := hfits
  have hpos : ∀ u ∈ f.name, 0 < u := fun u hu => (f.units u hu).1
  have hzero := zero_notMem_written hlocale hpos hname
  have hat := (nameAt_of_fits hrest hname hlen).1
  refine ⟨name, fileName_eq hlocale hname, ?_, ?_, ?_⟩
  · rw [hat, hasBackslash_zeros hzero]
    congr 2
    exact propext (mem_written hlocale (c := 92) (by decide) hname)
  · rw [hat]
    exact CharArrays.text_append_zero hzero _
  · rw [directoryAt, (fields_eq hrest).2.1]

/-- The loop finds these files one after the other. -/
def Readable (P : Setup) : ClipStream → List SentFile → Prop
  | _, [] => True
  | s, f :: fs => (∃ more, s.rest = f.bytes ++ more) ∧ NameFits P f ∧ Readable P (nextFile P s) fs

theorem readable_of_rest (hrest : s.rest = fs.flatMap SentFile.bytes ++ more)
    (hnames : ∀ f ∈ fs, NameFits P f) (haligned : ∀ f ∈ fs.dropLast, Aligned P f) : Readable P s fs := by
  induction fs generalizing s with
  | nil => trivial
  | cons f fs ih =>
    rw [List.flatMap_cons, List.append_assoc] at hrest
    rw [List.forall_mem_cons] at hnames
    refine ⟨⟨_, hrest⟩, hnames.1, ?_⟩
    cases fs with
    | nil => trivial
    | cons g gs =>
      rw [List.dropLast_cons_cons, List.forall_mem_cons (a := f)] at haligned
      have hp := (aligned_iff hrest hnames.1).2 haligned.1
      exact ih (rest_nextFile hrest hp) hnames.2 haligned.2

section

variable {list : Buf UInt8} {ptr fileCount lindex size : Nat} {head : List UInt8} {refused : Nat → Bool}

/-- The text for the files from some on. -/
def filesText (P : Setup) (refused : Nat → Bool) (lindex fileCount : Nat) (fs : List SentFile) : List UInt8 :=
  linesFrom fileCount ((addedNames P refused lindex fs).map (url P))

theorem filesText_skip (h : f.Skipped ∨ refused lindex) :
    filesText P refused lindex fileCount (f :: fs) = filesText P refused (lindex + 1) fileCount fs := by
  rw [filesText, addedNames, if_pos h]
  rfl

theorem filesText_add {name : List UInt8} (h : ¬(f.Skipped ∨ refused lindex))
    (hname : f.fileName P.encode = some name) :
    filesText P refused lindex fileCount (f :: fs) =
      lineOf P fileCount name ++ filesText P refused (lindex + 1) (fileCount + 1) fs := by
  rw [filesText, addedNames, if_neg h, List.map_cons, linesFrom_cons, hname]
  rfl

/-- The loop writes just the lines of the files, if there is room for them. -/
theorem filesLoop_ok (hlocale : AsciiBased P.encode) (h : Readable P s fs) (hholds : list.Holds 0 head)
    (hptr : ptr = head.length)
    (hroom : ptr + (filesText P refused lindex fileCount fs).length < list.size) :
    ∃ list' s', filesLoop P refused lindex s list ptr fileCount fs.length =
        .ok (list', ptr + (filesText P refused lindex fileCount fs).length, s') ∧
      list'.Holds 0 (head ++ filesText P refused lindex fileCount fs) ∧ list'.size = list.size := by
  induction fs generalizing s list ptr fileCount lindex head with
  | nil =>
    have hnone : filesText P refused lindex fileCount [] = [] := by
      unfold filesText linesFrom addedNames
      split <;> rfl
    rw [hnone, List.append_nil]
    exact ⟨list, s, rfl, hholds, rfl⟩
  | cons f fs ih =>
    obtain ⟨⟨more, hrest⟩, hfits, hnext⟩ := h
    obtain ⟨name, hname, hslash, htake, hdirectory⟩ := seenAs_of_fits hlocale hrest hfits
    obtain ⟨cfd, hread, hcfd, hdir⟩ := clipboardC2sInFileInfo_ok (P := P) ((has_descriptor hrest).le (by decide))
    rw [List.length_cons, filesLoop, hread, Run.ok_bind]
    dsimp only
    rw [hcfd, hslash, Run.ok_bind, hdir, hdirectory]
    by_cases hskip : f.Skipped ∨ refused lindex
    · rw [filesText_skip hskip] at hroom ⊢
      have hrun := ih hnext hholds hptr hroom
      by_cases hseen : (decide (92 ∈ f.name) || f.fileAttributes.toNat.testBit 4) = true
      · rw [if_pos hseen]
        exact hrun
      · have hrefused : refused lindex = true := by
          refine hskip.resolve_left fun h => hseen ?_
          rw [Bool.or_eq_true, decide_eq_true_eq]
          exact h.symm
        rw [if_neg hseen, if_pos hrefused]
        exact hrun
    · have hseen : ¬(decide (92 ∈ f.name) || f.fileAttributes.toNat.testBit 4) = true := by
        rw [Bool.or_eq_true, decide_eq_true_eq]
        exact fun h => hskip (.inl h.symm)
      have hnoslash : hasBackslash (nameAt P s) = .ok false := by
        rw [hslash, decide_eq_false fun h => hskip (.inl (.inr h))]
      rw [filesText_add hskip hname, List.length_append] at hroom ⊢
      rw [if_neg hseen, if_neg fun h => hskip (.inr h), cString_ok (mem_of_hasBackslash hnoslash),
        Run.ok_bind, htake]
      have hline := @lineOf_length P ptr fileCount name
      obtain ⟨list', hput, hholds', hsize⟩ := @holds_putFile P list ptr fileCount head name hholds hptr (by omega)
      have hptr' : fileEnd P ptr fileCount name = (head ++ lineOf P fileCount name).length := by
        rw [List.length_append]
        omega
      have hroom' : fileEnd P ptr fileCount name +
          (filesText P refused (lindex + 1) (fileCount + 1) fs).length < list'.size := by omega
      obtain ⟨list'', s', hrun, hholds'', hsize'⟩ := ih hnext hholds' hptr' hroom'
      refine ⟨list'', s', ?_, ?_, by omega⟩
      · rw [hput, Run.ok_bind]
        dsimp only
        rw [hrun, ← Nat.add_assoc, hline]
      · rwa [← List.append_assoc]

/-- If the loop and what comes after it do not leave the buffer, there was room. -/
theorem room_of_filesFit (hlocale : AsciiBased P.encode) (h : Readable P s fs)
    (hfit : FilesFit P refused size lindex s ptr fileCount fs.length) :
    ptr + (filesText P refused lindex fileCount fs).length < size := by
  induction fs generalizing s ptr fileCount lindex with
  | nil =>
    have hnone : filesText P refused lindex fileCount [] = [] := by
      unfold filesText linesFrom addedNames
      split <;> rfl
    rw [hnone]
    exact hfit
  | cons f fs ih =>
    obtain ⟨⟨more, hrest⟩, hfits, hnext⟩ := h
    obtain ⟨name, hname, hslash, htake, hdirectory⟩ := seenAs_of_fits hlocale hrest hfits
    obtain ⟨-, -, hfit⟩ := hfit
    rw [hslash, hdirectory, htake] at hfit
    have hseen : (Except.ok (decide (92 ∈ f.name)) = (.ok true : Run Bool) ∨
        f.fileAttributes.toNat.testBit 4 = true ∨ refused lindex = true) ↔ (f.Skipped ∨ refused lindex) := by
      rw [SentFile.Skipped, ← or_assoc, or_comm (a := _ = true)]
      simp
    by_cases hskip : f.Skipped ∨ refused lindex
    · rw [filesText_skip hskip]
      rw [if_pos (hseen.2 hskip)] at hfit
      exact ih hnext hfit
    · rw [filesText_add hskip hname, List.length_append, ← Nat.add_assoc, lineOf_length]
      rw [if_neg fun h => hskip (hseen.1 h)] at hfit
      exact ih hnext hfit

end

/-! ## The whole list -/

theorem strlenFrom_holds {b : Buf UInt8} {bs : List UInt8} (h : b.Holds 0 (bs ++ [0])) (hbs : 0 ∉ bs)
    {i n : Nat} (hi : i ≤ bs.length) (hn : bs.length < i + n) : strlenFrom b i n = .ok bs.length := by
  induction n generalizing i with
  | zero => omega
  | succ n ih =>
    have hcell := h.cells i (by simp; omega)
    rw [Nat.zero_add] at hcell
    rw [strlenFrom, hcell]
    rcases Nat.lt_or_ge i bs.length with hlt | hge
    · have hne : bs[i] ≠ 0 := fun hzero => hbs (hzero ▸ List.getElem_mem hlt)
      rw [List.getElem_append_left hlt, if_neg hne]
      exact ih hlt (by omega)
    · have heq : i = bs.length := Nat.le_antisymm hi hge
      subst heq
      simp

/-- A text in a buffer is found there. -/
theorem gStrlen_holds {b : Buf UInt8} {bs : List UInt8} (h : b.Holds 0 (bs ++ [0])) (hbs : 0 ∉ bs) :
    gStrlen b = .ok bs.length ∧ (List.range bs.length).map b.cells = bs := by
  have hfits := h.fits
  rw [List.length_append, List.length_singleton] at hfits
  refine ⟨strlenFrom_holds h hbs (Nat.zero_le _) (by omega), ?_⟩
  refine List.ext_getElem (by simp) fun i hi _ => ?_
  have hlt : i < bs.length := by simpa using hi
  have hcell := h.cells i (by simp; omega)
  rw [Nat.zero_add, List.getElem_append_left hlt] at hcell
  rw [List.getElem_map, List.getElem_range, hcell]

/-- The list begins with its head. -/
theorem fileList_eq {refused : Nat → Bool} {type : Target} (htype : type = .file1 ∨ type = .file2) :
    ∃ list : Buf UInt8, list.size = 1024 * 1024 ∧ list.Holds 0 (listHead type) ∧
      fileList P refused type s = clipboardC2sInFiles P refused s list (listHead type).length := by
  rcases htype with rfl | rfl
  · exact ⟨Buf.alloc (1024 * 1024), rfl, .nil (Nat.zero_le _), rfl⟩
  · have hroom : 0 + copyLine.length < (Buf.alloc (1024 * 1024) : Buf UInt8).size := by
      show 5 < 1024 * 1024
      omega
    obtain ⟨list, hcopy, hholds, hsize⟩ := @holds_gStrcpy (Buf.alloc (1024 * 1024)) 0 [] copyLine
      (.nil (Nat.zero_le _)) rfl hroom
    refine ⟨list, hsize, hholds, ?_⟩
    show (gStrcpy (Buf.alloc (1024 * 1024)) 0 copyLine >>= _) = _
    rw [hcopy]
    rfl

/-! ## When the list is right -/

section

variable {refused : Nat → Bool} {type : Target} {tail : List UInt8}

theorem toInt_le_iff {n : Nat} (hn : n < 2 ^ 32) :
    (toInt n ≤ 64 * 1024 ∧ (toInt n).toNat = n) ↔ n ≤ 64 * 1024 := by
  have hmod : ((n : Int)) % (2 ^ 32 : Nat) = n := Int.emod_eq_of_lt (by omega) (by omega)
  unfold toInt
  rw [Int.bmod_def, hmod]
  split <;> omega

/-- What is read of the front: how many there are, and where they begin. -/
theorem count_eq (hs : s.rest = fileGroup fs ++ tail) (hn : fs.length < 2 ^ 32) :
    s.Has 4 ∧ s.num 4 = fs.length ∧
      (s.inUint8s 4).rest = fs.flatMap SentFile.bytes ++ tail ∧ (s.inUint8s 4).p = s.p + 4 := by
  rw [fileGroup, List.append_assoc] at hs
  have hrest := ClipStream.rest_inUint8s s 4
  rw [hs, List.drop_left' (leBytes_length 4 _)] at hrest
  refine ⟨ClipStream.has_of_rest (by decide) (by rw [hs]; simp), ?_, hrest, rfl⟩
  exact (ClipStream.num_inUint8s [] hs rfl).trans (Nat.mod_eq_of_lt hn)

/-- The descriptors are read as they should be just if there are not too many, every name fits, and all but
the last are as long as they seem. -/
theorem descriptorsRead_iff (hlocale : AsciiBased P.encode) (hs : s.rest = fileGroup fs ++ tail)
    (hn : fs.length < 2 ^ 32) :
    (∃ rs, descriptorsRead P s = .ok rs ∧ ReadAll P (s.p + 4) fs rs) ↔
      fs.length ≤ 64 * 1024 ∧ (∀ f ∈ fs, NameFits P f) ∧ ∀ f ∈ fs.dropLast, Aligned P f := by
  obtain ⟨hhas, hnum, hrest, hp⟩ := count_eq hs hn
  have hcount := toInt_le_iff hn
  rw [← hp, ← filesRead_iff hlocale hrest]
  unfold descriptorsRead
  rw [if_neg (not_not.2 hhas), ClipStream.inUint32Le, ClipStream.inLe_bind, if_pos hhas, hnum]
  dsimp only
  by_cases hfew : fs.length ≤ 64 * 1024
  · obtain ⟨hle, hnat⟩ := hcount.2 hfew
    rw [if_neg (Int.not_lt.2 hle), hnat]
    exact (and_iff_right hfew).symm
  · refine iff_of_false ?_ fun h => hfew h.1
    rintro ⟨rs, hrs, hall⟩
    have hnil : rs = [] := by
      by_cases hbig : 64 * 1024 < toInt fs.length
      · rw [if_pos hbig] at hrs
        cases hrs
        rfl
      · rw [if_neg hbig] at hrs
        have hzero : (toInt fs.length).toNat = 0 := by
          by_contra hne
          refine hfew (hcount.1 ⟨Int.not_lt.1 hbig, ?_⟩)
          have hbmod := Int.bmod_def (fs.length : Int) (2 ^ 32)
          have hmod : (fs.length : Int) % (2 ^ 32 : Nat) = fs.length := Int.emod_eq_of_lt (by omega) (by omega)
          unfold toInt at hne ⊢
          rw [hbmod, hmod] at hne ⊢
          split at hne <;> omega
        rw [hzero] at hrs
        cases hrs
        rfl
    subst hnil
    cases fs with
    | nil => exact hfew (Nat.zero_le _)
    | cons f fs => exact hall

theorem filesText_eq (fs : List SentFile) :
    filesText P refused 0 0 fs = unlines 10 (urls P refused fs) := by
  rw [filesText, linesFrom, if_neg (Nat.lt_irrefl 0)]
  rfl

/-- What comes of a list that can be read. -/
theorem fileList_run (hlocale : AsciiBased P.encode) (htype : type = .file1 ∨ type = .file2) (hs : s.rest = fileGroup fs ++ tail)
    (hfew : fs.length ≤ 64 * 1024) (hnames : ∀ f ∈ fs, NameFits P f)
    (haligned : ∀ f ∈ fs.dropLast, Aligned P f) :
    (Run.Returns (fileList P refused type s) →
      (listHead type).length + (unlines 10 (urls P refused fs)).length < 1024 * 1024) ∧
    ((listHead type).length + (unlines 10 (urls P refused fs)).length < 1024 * 1024 →
      ∃ list s', fileList P refused type s = .ok (list, s') ∧
        list.Holds 0 (listHead type ++ unlines 10 (urls P refused fs) ++ [0])) := by
  obtain ⟨hhas, hnum, hrest, -⟩ := count_eq hs (by omega)
  obtain ⟨hle, hnat⟩ := (toInt_le_iff (n := fs.length) (by omega)).2 hfew
  obtain ⟨list, hsize, hholds, hlist⟩ := @fileList_eq P s refused type htype
  have hreadable := readable_of_rest hrest hnames haligned
  rw [hlist]
  constructor
  · intro hreturns
    rw [returns_clipboardC2sInFiles, ItemsFit, hnum, hnat] at hreturns
    have hfit := hreturns hhas hle
    have hroom := room_of_filesFit hlocale hreadable hfit
    rwa [hsize, filesText_eq] at hroom
  · intro hroom
    rw [← filesText_eq] at hroom ⊢
    obtain ⟨list', s', hrun, hholds', hsize'⟩ := @filesLoop_ok P (s.inUint8s 4) fs list
      (listHead type).length 0 0 (listHead type) refused hlocale hreadable hholds rfl (by rw [hsize]; exact hroom)
    obtain ⟨list'', hwrite, hholds'', -⟩ := @holds_write list'
      ((listHead type).length + (filesText P refused 0 0 fs).length) _ 0 hholds'
      (by rw [List.length_append]) (by rw [hsize', hsize]; exact hroom)
    refine ⟨list'', s', ?_, hholds''⟩
    unfold clipboardC2sInFiles
    rw [if_neg (not_not.2 hhas), ClipStream.inUint32Le, ClipStream.inLe_bind, if_pos hhas, hnum]
    dsimp only
    rw [if_neg (Int.not_lt.2 hle), hnat, Nat.cast_ofNat, hrun, Run.ok_bind]
    dsimp only
    rw [hwrite]
    rfl

/-- There is no zero in the list. -/
theorem zero_notMem_list (hlocale : AsciiBased P.encode) (hpath : 0 ∉ P.fuseClipboardPath)
    (hnames : ∀ f ∈ fs, NameFits P f) : 0 ∉ listHead type ++ unlines 10 (urls P refused fs) := by
  have hadded : ∀ lindex, ∀ name ∈ addedNames P refused lindex fs, 0 ∉ name := by
    induction fs with
    | nil => simp [addedNames]
    | cons f fs ih =>
      intro lindex
      rw [List.forall_mem_cons] at hnames
      rw [addedNames]
      split
      · exact ih hnames.2 _
      · rw [List.forall_mem_cons]
        refine ⟨?_, ih hnames.2 _⟩
        obtain ⟨name, hname, -⟩ := hnames.1
        rw [fileName_eq hlocale hname]
        exact zero_notMem_written hlocale (fun u hu => (f.units u hu).1) hname
  have hurls : ∀ l ∈ urls P refused fs, 0 ∉ l := by
    intro l hl
    obtain ⟨name, hname, rfl⟩ := List.mem_map.1 hl
    have hzero := hadded 0 name hname
    simp [url, fileScheme, hpath, hzero]
  rw [List.mem_append, not_or]
  constructor
  · unfold listHead
    split <;> decide
  · cases hlist : urls P refused fs with
    | nil => exact List.not_mem_nil
    | cons l ls =>
      rw [hlist, List.forall_mem_cons] at hurls
      rw [unlines_cons, List.mem_append, not_or]
      refine ⟨hurls.1, fun hmem => ?_⟩
      obtain ⟨m, hm, hzero⟩ := List.mem_flatMap.1 hmem
      rcases List.mem_cons.1 hzero with hzero | hzero
      · cases hzero
      · exact hurls.2 m hm hzero

theorem pastedRight_iff (hlocale : AsciiBased P.encode) (hpath : 0 ∉ P.fuseClipboardPath)
    (htype : type = .file1 ∨ type = .file2) (hs : s.rest = fileGroup fs ++ tail)
    (hn : fs.length < 2 ^ 32) : PastedRight P refused type s fs ↔ PasteFits P refused type fs := by
  have hurls : ∀ u ∈ urls P refused fs, u ≠ [] := by
    intro u hu
    obtain ⟨name, -, rfl⟩ := List.mem_map.1 hu
    simp [url, fileScheme]
  constructor
  · rintro ⟨hread, list, s', len, text, hrun, hlen, htext, hlines⟩
    obtain ⟨hfew, hnames, haligned⟩ := (descriptorsRead_iff hlocale hs hn).1 hread
    obtain ⟨hroom, hwritten⟩ := @fileList_run P s fs refused type tail hlocale htype hs hfew hnames haligned
    have hroom := hroom ⟨_, hrun⟩
    obtain ⟨list', s'', hrun', hholds⟩ := hwritten hroom
    rw [hrun] at hrun'
    cases hrun'
    obtain ⟨hlen', htext'⟩ := gStrlen_holds hholds (zero_notMem_list hlocale hpath hnames)
    rw [hlen] at hlen'
    cases hlen'
    rw [htext] at htext'
    rw [List.append_cancel_left htext', lines_unlines_iff hurls] at hlines
    exact ⟨hfew, hnames, haligned, hlines, hroom⟩
  · rintro ⟨hfew, hnames, haligned, hlines, hroom⟩
    obtain ⟨-, hwritten⟩ := @fileList_run P s fs refused type tail hlocale htype hs hfew hnames haligned
    obtain ⟨list, s', hrun, hholds⟩ := hwritten hroom
    obtain ⟨hlen, htext⟩ := gStrlen_holds hholds (zero_notMem_list hlocale hpath hnames)
    exact ⟨(descriptorsRead_iff hlocale hs hn).2 ⟨hfew, hnames, haligned⟩,
      list, s', _, _, hrun, hlen, htext, (lines_unlines_iff hurls).2 hlines⟩

end

/-! ## Examples of locales and lists -/

/-- Seven bits, and one character of two bytes. -/
def latin (c : Nat) : Option (List UInt8) :=
  if c < 128 then some [UInt8.ofNat c] else if c = 0xE9 then some [0xC3, 0xA9] else none

theorem latin_asciiBased : AsciiBased latin where
  ascii b hb := by
    have hlt : b.toNat < 128 := UInt8.lt_iff_toNat_lt.1 hb
    rw [latin, if_pos hlt, UInt8.ofNat_toNat]
  alone := by
    intro c bs b hbs hmem hb
    unfold latin at hbs
    split at hbs
    · rename_i hc
      cases hbs
      rw [List.mem_singleton] at hmem
      rw [hmem, UInt8.toNat_ofNat', Nat.mod_eq_of_lt (by omega)]
    · split at hbs
      · cases hbs
        rcases List.mem_cons.1 hmem with rfl | hmem
        · exact absurd hb (by decide)
        · rw [List.mem_singleton] at hmem
          subst hmem
          exact absurd hb (by decide)
      · cases hbs
  ne_nil := by
    intro c bs hbs
    unfold latin at hbs
    split at hbs
    · cases hbs
      simp
    · split at hbs
      · cases hbs
        simp
      · cases hbs
  surrogate := by
    rintro u ⟨hlow, hhigh⟩
    rw [latin, if_neg (by omega), if_neg (by omega)]

/-- A file with nothing but a name. -/
def plainFile (name : List Nat) (hunits : ∀ u ∈ name, 0 < u ∧ u < 65536) (hshort : name.length ≤ 259) :
    SentFile where
  flags := 0
  reserved1 := .replicate 32 0
  fileAttributes := 0
  reserved2 := .replicate 16 0
  lastWriteTimeLow := 0
  lastWriteTimeHigh := 0
  fileSizeHigh := 0
  fileSizeLow := 0
  name := name
  rest := List.replicate (518 - 2 * name.length) 0
  units := hunits
  short := by simp; omega

/-- Two files, the first of which has a name with a character of two bytes: the second is read two bytes
before its place. -/
theorem second_file_misplaced :
    let P : Setup := ⟨latin, 1024, [47, 109]⟩
    let fs := [plainFile [0xE9] (by decide) (by decide), plainFile [97] (by decide) (by decide)]
    ¬PastedRight P (fun _ => false) .file1 ⟨fileGroup fs, 0⟩ fs := by
  intro P fs h
  have hfits := (@pastedRight_iff P _ fs _ _ [] latin_asciiBased (by decide) (.inl rfl)
    (List.append_nil _).symm (by decide)).1 h
  have haligned := hfits.aligned _ List.mem_cons_self [0xC3, 0xA9] rfl
  exact absurd haligned (by decide)

/-- **Lists of files are pasted right**: every descriptor is read where it is and as it has been sent, and the
list has just the URLs of the files, just if there are not too many, every name has no halves of characters
and at most 255 bytes, all but the last take a byte for a unit, no URL has a line end in it, and there is room. -/
theorem pasted_right_iff (P : Setup) (refused : Nat → Bool) (type : Target) (s : ClipStream)
    (fs : List SentFile) (tail : List UInt8) (hlocale : AsciiBased P.encode)
    (hpath : 0 ∉ P.fuseClipboardPath) (htype : type = .file1 ∨ type = .file2)
    (hs : s.rest = fileGroup fs ++ tail) (hn : fs.length < 2 ^ 32) :
    PastedRight P refused type s fs ↔ PasteFits P refused type fs :=
  pastedRight_iff hlocale hpath htype hs hn

/-- A file, a directory, and a file whose name has a character of two bytes. -/
theorem pasted_right_three :
    let P : Setup := ⟨latin, 1024, [47, 109]⟩
    let fs := [plainFile [97, 98] (by decide) (by decide),
      { plainFile [100] (by decide) (by decide) with fileAttributes := 0x10 },
      plainFile [0xE9] (by decide) (by decide)]
    PastedRight P (fun _ => false) .file2 ⟨fileGroup fs, 0⟩ fs := by
  intro P fs
  refine (pasted_right_iff P (fun _ => false) .file2 ⟨fileGroup fs, 0⟩ fs [] latin_asciiBased (by decide)
    (.inr rfl) (List.append_nil _).symm (by decide)).2 ⟨by decide, ?_, ?_, ?_, ?_⟩
  · intro f hf
    simp only [fs, List.mem_cons, List.not_mem_nil, or_false] at hf
    obtain rfl | rfl | rfl := hf
    · exact ⟨[97, 98], rfl, by decide⟩
    · exact ⟨[100], rfl, by decide⟩
    · exact ⟨[0xC3, 0xA9], rfl, by decide⟩
  · intro f hf name hname
    simp only [fs, List.dropLast_cons_cons, List.dropLast_singleton, List.mem_cons, List.not_mem_nil,
      or_false] at hf
    obtain rfl | rfl := hf
    · obtain rfl : [97, 98] = name := Option.some.inj hname
      rfl
    · obtain rfl : [100] = name := Option.some.inj hname
      rfl
  · decide
  · decide

end Xrdp.Chansrv.ClipIn
