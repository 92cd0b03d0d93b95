import Xrdp.Chansrv.ClipFiles
import Xrdp.Chansrv.ClipStream

/-!
# What the clipboard does with what the client sends

Chunks of the clipboard channel are put together to messages, or go straight to the buffer of an answer
to a program that has asked for much (`clipboard_data_in` and what it calls in
`sesman/chansrv/clipboard.c`, `clipboard_file.c`).  X events and reads of files come in between.

* `Clipboard`, `ClipEvent`, `clipStep` — the state, what may happen, and what comes of it.
* `ssPart`, `ssStart`, `ssEnd` — answers that go straight on.
* `clipboardProcessFormatAnnounce` … `clipboardProcessFileResponse` — messages.
-/

namespace Xrdp.Chansrv.ClipIn

/-! ## State -/

/-- The atoms that the clipboard knows, and all others. -/
inductive Target where
  | utf8
  | imageBmp
  | file1
  | file2
  | other (atom : Nat)
  deriving DecidableEq, Repr

/-- `xrdp_clip_type`. -/
inductive ClipType where
  | none
  | text
  | bitmap
  | file
  deriving DecidableEq, Repr

/-- What the clipboard is set up with: how characters are written, `g_incr_max_req_size`, and
`g_fuse_clipboard_path`. -/
structure Setup where
  encode : Nat → Option (List UInt8)
  incrMaxReqSize : Nat
  fuseClipboardPath : List UInt8

/-- `struct clip_c2s`.  Nothing can be written to `data` when there is none. -/
structure ClipC2s where
  incrInProgress : Bool
  incrBytesDone : Nat
  readBytesDone : Nat
  totalBytes : Int
  data : Buf UInt8
  type : Target
  xrdpClipType : ClipType
  converted : Bool
  inRequest : Bool
  doingResponseSs : Bool

/-- `struct clip_s2c`. -/
structure ClipS2c where
  incrInProgress : Bool
  xrdpClipType : ClipType
  converted : Bool

/-- The formats of an announce: `g_formatIds`, `g_num_formatIds`, `g_file_format_id`. -/
structure Formats where
  formatIds : Vector Nat 16
  numFormatIds : Nat
  fileFormatId : Nat

/-- `g_cliprdr_version`, `g_cliprdr_flags`. -/
structure Caps where
  version : Int
  flags : Nat

/-- `g_ins`: how much there is room for, and what has been put there. -/
structure Ins where
  size : Nat
  stream : ClipStream

/-- The globals.  Of the request that has been saved only the target matters here, of the reads that
wait only their number. -/
structure Clipboard where
  clipUp : Bool
  ins : Ins
  c2s : ClipC2s
  s2c : ClipS2c
  formats : Formats
  caps : Caps
  savedTarget : Target
  sentType : SentType
  reqList : Nat

/-- `g_malloc`: how much there is room for, if there is. -/
def gMalloc (n : Int) : Option Nat :=
  if 0 ≤ n.bmod (2 ^ 32) then some (n.bmod (2 ^ 32)).toNat else none

/-- What `g_malloc` gives as a buffer, which has no room if there is none. -/
def gMallocBuf (n : Int) : Buf UInt8 := Buf.alloc ((gMalloc n).getD 0)

/-! ## Answers that go straight on -/

/-- `g_bmp_image_header`. -/
def gBmpImageHeader : List UInt8 :=
  [0x42, 0x4d, 0x16, 0x01, 0x00, 0x00, 0x00, 0x00, 0x00, 0x00, 0x36, 0x00, 0x00, 0x00]

/-- The end of `ss_part` and `ss_end`: more goes to the program if it waits for it. -/
def ssMore (P : Setup) (c : ClipC2s) : ClipC2s :=
  if c.incrInProgress then c
  else if c.readBytesDone ≤ c.incrBytesDone then c
  else
    { c with
      incrBytesDone := c.incrBytesDone + min (c.readBytesDone - c.incrBytesDone) P.incrMaxReqSize
      incrInProgress := true }

/-- Every other byte. -/
def lowBytes : List UInt8 → List UInt8
  | lo :: _ :: rest => lo :: lowBytes rest
  | _ => []

/-- The bytes are put behind those there are; of text only the low bytes. -/
def ssCopy (c : ClipC2s) (data : List UInt8) : Run ClipC2s :=
  if c.type = .utf8 then do
    let text ← (gMallocBuf data.length).memcpy 0 (lowBytes data)
    let _ ← text.write (data.length / 2) 0
    let buf ← c.data.memcpy c.readBytesDone (lowBytes data)
    return { c with data := buf, readBytesDone := c.readBytesDone + data.length / 2 }
  else do
    let buf ← c.data.memcpy c.readBytesDone data
    return { c with data := buf, readBytesDone := c.readBytesDone + data.length }

/-- `ss_part`. -/
def ssPart (P : Setup) (c : ClipC2s) (data : List UInt8) : Run ClipC2s := do
  let c ← ssCopy c data
  return ssMore P c

/-- `ss_end`. -/
def ssEnd (P : Setup) (c : ClipC2s) : ClipC2s :=
  ssMore P { c with doingResponseSs := false, inRequest := false }

/-- How much a program is told to wait for. -/
def incrBytes (target : Target) (totalBytes : Int) : Int :=
  if target = .imageBmp then totalBytes + 14
  else if target = .utf8 then totalBytes.tdiv 2
  else totalBytes

/-- What `ss_start` sets. -/
def ssStarted (c : ClipC2s) (target : Target) (totalBytes : Int) : ClipC2s :=
  { c with
    doingResponseSs := true
    incrBytesDone := 0
    readBytesDone := 0
    type := target
    data := gMallocBuf (incrBytes target totalBytes + 64)
    totalBytes := incrBytes target totalBytes }

/-- The header of an image. -/
def ssHeader (c : ClipC2s) : Run ClipC2s :=
  if c.type = .imageBmp then do
    let buf ← c.data.memcpy 0 gBmpImageHeader
    return { c with data := buf, readBytesDone := 14 }
  else .ok c

/-- `ss_start`. -/
def ssStart (P : Setup) (c : ClipC2s) (target : Target) (data : List UInt8) (totalBytes : Int) :
    Run ClipC2s := do
  let c ← ssHeader (ssStarted c target totalBytes)
  ssPart P { c with incrInProgress := true } data

/-! ## Formats and capabilities -/

/-- `"FileGroupDescriptorW"`. -/
def fileGroupDescriptorW : List UInt8 :=
  [70, 105, 108, 101, 71, 114, 111, 117, 112, 68, 101, 115, 99, 114, 105, 112, 116, 111, 114, 87]

/-- `g_formatIds[g_num_formatIds] = formatId; g_num_formatIds++`. -/
def Formats.push (f : Formats) (formatId : Nat) : Run Formats :=
  if h : f.numFormatIds < 16 then
    .ok { f with
      formatIds := f.formatIds.set f.numFormatIds formatId
      numFormatIds := f.numFormatIds + 1 }
  else .error .outOfBounds

/-- A format is remembered as long as there is room, and known to be the files' by its name. -/
def Formats.add (f : Formats) (formatId : Nat) (desc : List UInt8) : Run Formats := do
  let f ← if f.numFormatIds ≤ 15 then f.push formatId else pure f
  return if (fileGroupDescriptorW ++ [0]).isPrefixOf desc then { f with fileFormatId := formatId }
    else f

/-- The name of a format: `desc`, and how much of the message it takes. -/
def inFormatName (P : Setup) (long : Bool) (s : ClipStream) (desc : List UInt8) :
    Run (List UInt8 × Nat × ClipStream) :=
  if long then do
    let (_, desc, bytes, s) ← clipboardInUnicode P.encode s desc 255
    return (desc, bytes, s)
  else do
    let (_, desc, _, _) ← clipboardInUnicode P.encode s desc 15
    if 15 < desc.length then return (desc.set 15 0, 32, s.inUint8s 32) else .error .outOfBounds

/-- The loop of `clipboard_process_format_announce`. -/
def formatsLoop (P : Setup) (long : Bool) (s : ClipStream) (desc : List UInt8) (f : Formats)
    (clipMsgLen : Int) : Run (Formats × ClipStream) :=
  if 3 < clipMsgLen then do
    let (formatId, s) ← s.inUint32Le
    let (desc, bytes, s) ← inFormatName P long s desc
    let f ← f.add formatId desc
    formatsLoop P long s desc f (clipMsgLen - 4 - (bytes : Nat))
  else .ok (f, s)
termination_by clipMsgLen.toNat

/-- `CB_USE_LONG_FORMAT_NAMES`. -/
def Caps.longNames (caps : Caps) : Bool := caps.flags.testBit 1

/-- `clipboard_process_format_announce`. -/
def clipboardProcessFormatAnnounce (P : Setup) (m : Clipboard) (s : ClipStream) (clipMsgLen : Int) :
    Run (Clipboard × ClipStream) := do
  let m := { m with c2s := { m.c2s with converted := false } }
  let f := { m.formats with numFormatIds := 0 }
  let (f, s) ← formatsLoop P m.caps.longNames s (List.replicate 256 0) f clipMsgLen
  return ({ m with formats := f }, s)

/-- A capability set. -/
def inCapability (caps : Caps) (s : ClipStream) (capabilitySetType : Nat) : Run Caps :=
  if capabilitySetType = 1 then do
    let (version, s) ← s.inUint32Le
    let (flags, _) ← s.inUint32Le
    return ⟨min caps.version (toInt version), caps.flags &&& flags⟩
  else .ok caps

/-- The loop of `clipboard_process_clip_caps`. -/
def capsLoop (caps : Caps) (s : ClipStream) : Nat → Run (Caps × ClipStream)
  | 0 => .ok (caps, s)
  | n + 1 => do
    let holdp := s
    let (capabilitySetType, s) ← s.inUint16Le
    let (lengthCapability, s) ← s.inUint16Le
    let caps ← inCapability caps s capabilitySetType
    capsLoop caps (holdp.inUint8s lengthCapability) n

/-- `clipboard_process_clip_caps`. -/
def clipboardProcessClipCaps (m : Clipboard) (s : ClipStream) : Run (Clipboard × ClipStream) := do
  let (cCapabilitiesSets, s) ← s.inUint16Le
  let (caps, s) ← capsLoop m.caps (s.inUint8s 2) cCapabilitiesSets
  return ({ m with caps := caps }, s)

/-! ## Data -/

/-- `clipboard_process_data_request`.  An answer that is there already is sent at once. -/
def clipboardProcessDataRequest (m : Clipboard) (s : ClipStream) : Run (Clipboard × ClipStream) := do
  let (requestedFormatId, s) ← s.inUint32Le
  let asked (type : ClipType) : Clipboard :=
    if m.s2c.xrdpClipType = type ∧ m.s2c.converted then m
    else { m with s2c := { m.s2c with xrdpClipType := type } }
  return (match requestedFormatId with
    | 0xC0BC => asked .file
    | 0x0008 => asked .bitmap
    | 0x000D => asked .text
    | _ => m, s)

/-- `clipboard_provide_selection_c2s` for the saved request. -/
def clipboardProvideSelectionC2s (P : Setup) (target : Target) (c : ClipC2s) : ClipC2s :=
  if c.totalBytes < P.incrMaxReqSize then c
  else { c with incrInProgress := true, incrBytesDone := 0, type := target }

/-- How many bytes of a stream are left: `(int)(s->end - s->p)`. -/
def ClipStream.left (s : ClipStream) : Int := toInt (s.bytes.length - s.p)

/-- The image of an answer goes behind a header; not all of it is told of. -/
def imageData (s : ClipStream) (size : Nat) : Run (Buf UInt8) := do
  let buf ← (Buf.alloc size).memcpy 0 gBmpImageHeader
  buf.memcpy 14 (s.rest.take s.left.toNat)

/-- `clipboard_process_data_response_for_image`. -/
def clipboardProcessDataResponseForImage (P : Setup) (target : Target) (c : ClipC2s)
    (s : ClipStream) : Run (ClipC2s × ClipStream) :=
  if s.left < 1 then .ok (c, s)
  else if c.type ≠ .imageBmp then .ok (c, s)
  else match gMalloc (s.left + 14) with
    | none => .ok ({ c with data := Buf.alloc 0, totalBytes := 0 }, s)
    | some size => do
      let buf ← imageData s size
      let c := { c with data := buf, totalBytes := s.left, readBytesDone := s.left.toNat }
      return (clipboardProvideSelectionC2s P target c, s.inUint8s s.left)

/-- The loop in which text is read, with the final zero; there is room for `cells` characters. -/
def textLoop (s : ClipStream) (wtext : List Nat) (cells : Nat) : Run (List Nat × ClipStream) :=
  if s.p ≤ s.bytes.length then
    match h : s.inUint16Le with
    | .error e => .error e
    | .ok (wchr, s') =>
      if wtext.length < cells then
        if wchr = 0 then .ok (wtext ++ [0], s') else textLoop s' (wtext ++ [wchr]) cells
      else .error .outOfBounds
  else if wtext.length < cells then .ok (wtext ++ [0], s)
  else .error .outOfBounds
termination_by s.bytes.length + 1 - s.p
decreasing_by
  obtain ⟨hhas, -, rfl⟩ := ClipStream.inUint16Le_ok h
  show s.bytes.length + 1 - (s.p + (2 : Int)).toNat < s.bytes.length + 1 - s.p
  have hfits : s.p + 2 ≤ s.bytes.length := hhas
  omega

/-- The text of an answer: `data`, if all characters can be written. -/
def textData (P : Setup) (wtext : List Nat) : Option (Buf UInt8 × Nat) := do
  let len ← textLength P.encode wtext
  if 0 ≤ toInt len then
    let size ← gMalloc (toInt len + 16)
    let dest := (wcstombs P.encode (toInt len + 1).toNat wtext).2
    return (⟨size, fun i => dest.getD i 0⟩, (dest.takeWhile (· ≠ 0)).length)
  else none

/-- The text part of `clipboard_process_data_response`. -/
def clipboardProcessDataResponseForText (P : Setup) (target : Target) (c : ClipC2s)
    (s : ClipStream) : Run (ClipC2s × ClipStream) :=
  if s.left < 1 then .ok (c, s)
  else match gMalloc (4 * (s.left.tdiv 2 + 1)) with
    | none => .ok (c, s)
    | some size => do
      let (wtext, s) ← textLoop s [] (size / 4)
      match textData P wtext with
      | none => return ({ c with data := Buf.alloc 0, totalBytes := 0 }, s)
      | some (buf, len) =>
        let c := { c with data := buf, totalBytes := len, readBytesDone := len }
        return (clipboardProvideSelectionC2s P target c, s)

/-! ## Files -/

/-- `struct clip_file_desc`. -/
structure ClipFileDesc where
  flags : Nat
  fileAttributes : Nat
  lastWriteTimeLow : Nat
  lastWriteTimeHigh : Nat
  fileSizeHigh : Nat
  fileSizeLow : Nat
  cFileName : List UInt8

/-- `clipboard_c2s_in_file_info` into a cleared `struct clip_file_desc`. -/
def clipboardC2sInFileInfo (P : Setup) (s : ClipStream) : Run (ClipFileDesc × ClipStream) := do
  let (flags, s) ← s.inUint32Le
  let s := s.inUint8s 32
  let (fileAttributes, s) ← s.inUint32Le
  let s := s.inUint8s 16
  let (lastWriteTimeLow, s) ← s.inUint32Le
  let (lastWriteTimeHigh, s) ← s.inUint32Le
  let (fileSizeHigh, s) ← s.inUint32Le
  let (fileSizeLow, s) ← s.inUint32Le
  let (numChars, cFileName, _, s) ← clipboardInUnicode P.encode s (List.replicate 256 0) 256
  let s := s.inUint8s (512 - numChars * 2 - 2)
  let s := s.inUint8s 8
  return (⟨flags, fileAttributes, lastWriteTimeLow, lastWriteTimeHigh, fileSizeHigh, fileSizeLow,
    cFileName⟩, s)

/-- `g_strcpy(b + off, str)`. -/
def gStrcpy (b : Buf UInt8) (off : Nat) (str : List UInt8) : Run (Buf UInt8) :=
  b.memcpy off (str ++ [0])

/-- `"file://"`. -/
def fileScheme : List UInt8 := [102, 105, 108, 101, 58, 47, 47]

/-- The end of the line before. -/
def putNewline (list : Buf UInt8) (ptr fileCount : Nat) : Run (Buf UInt8 × Nat) :=
  if 0 < fileCount then do
    let list ← list.write ptr 10
    return (list, ptr + 1)
  else .ok (list, ptr)

/-- A file of the list is put at `ptr`. -/
def putFile (P : Setup) (list : Buf UInt8) (ptr fileCount : Nat) (name : List UInt8) :
    Run (Buf UInt8 × Nat) := do
  let (list, ptr) ← putNewline list ptr fileCount
  let list ← gStrcpy list ptr fileScheme
  let ptr := ptr + 7
  let list ← gStrcpy list ptr P.fuseClipboardPath
  let ptr := ptr + P.fuseClipboardPath.length
  let list ← list.write ptr 47
  let ptr := ptr + 1
  let list ← gStrcpy list ptr name
  return (list, ptr + name.length)

/-- `CB_FILE_ATTRIBUTE_DIRECTORY`. -/
def ClipFileDesc.directory (cfd : ClipFileDesc) : Bool := cfd.fileAttributes.testBit 4

/-- The loop of `clipboard_c2s_in_files`; `refused` are the files that are not added to the
directory. -/
def filesLoop (P : Setup) (refused : Nat → Bool) (lindex : Nat) (s : ClipStream) (list : Buf UInt8)
    (ptr fileCount : Nat) : Nat → Run (Buf UInt8 × Nat × ClipStream)
  | 0 => .ok (list, ptr, s)
  | n + 1 => do
    let (cfd, s) ← clipboardC2sInFileInfo P s
    let slash ← hasBackslash cfd.cFileName
    if slash || cfd.directory then filesLoop P refused (lindex + 1) s list ptr fileCount n
    else if refused lindex then filesLoop P refused (lindex + 1) s list ptr fileCount n
    else
      let name ← cString cfd.cFileName
      let (list, ptr) ← putFile P list ptr fileCount name
      filesLoop P refused (lindex + 1) s list ptr (fileCount + 1) n

/-- `clipboard_c2s_in_files` with the list at `start` of a buffer. -/
def clipboardC2sInFiles (P : Setup) (refused : Nat → Bool) (s : ClipStream) (list : Buf UInt8)
    (start : Nat) : Run (Buf UInt8 × ClipStream) :=
  if ¬ s.Has 4 then .ok (list, s)
  else do
    let (cItems, s) ← s.inUint32Le
    if 64 * 1024 < toInt cItems then return (list, s)
    else
      let (list, ptr, s) ← filesLoop P refused 0 s list start 0 (toInt cItems).toNat
      let list ← list.write ptr 0
      return (list, s)

/-- `g_strlen` from a place on. -/
def strlenFrom (b : Buf UInt8) (i : Nat) : Nat → Run Nat
  | 0 => .error .outOfBounds
  | n + 1 => if b.cells i = 0 then .ok i else strlenFrom b (i + 1) n

/-- `g_strlen`. -/
def gStrlen (b : Buf UInt8) : Run Nat := strlenFrom b 0 b.size

/-- The list of files of an answer. -/
def fileList (P : Setup) (refused : Nat → Bool) (type : Target) (s : ClipStream) :
    Run (Buf UInt8 × ClipStream) :=
  let list := Buf.alloc (1024 * 1024)
  match type with
  | .file1 => clipboardC2sInFiles P refused s list 0
  | .file2 => do
    let list ← gStrcpy list 0 [99, 111, 112, 121, 10]
    clipboardC2sInFiles P refused s list 5
  | _ => .ok (list, s)

/-- The file part of `clipboard_process_data_response`. -/
def clipboardProcessDataResponseForFile (P : Setup) (refused : Nat → Bool) (target : Target)
    (c : ClipC2s) (s : ClipStream) : Run (ClipC2s × ClipStream) := do
  let (list, s) ← fileList P refused c.type s
  let len ← gStrlen list
  let c := { c with data := list, totalBytes := len, readBytesDone := len }
  return (clipboardProvideSelectionC2s P target c, s)

/-- `clipboard_process_data_response`. -/
def clipboardProcessDataResponse (P : Setup) (refused : Nat → Bool) (m : Clipboard) (s : ClipStream) :
    Run (Clipboard × ClipStream) := do
  let c := { m.c2s with inRequest := false }
  let (c, s) ← (match c.xrdpClipType with
    | .bitmap => clipboardProcessDataResponseForImage P m.savedTarget c s
    | .file => clipboardProcessDataResponseForFile P refused m.savedTarget c s
    | _ => clipboardProcessDataResponseForText P m.savedTarget c s)
  return ({ m with c2s := c }, s)

/-! ## Contents of files -/

/-- What `clipboard_process_file_request` reads; what it sends does not change the state. -/
def clipboardProcessFileRequest (m : Clipboard) (s : ClipStream) : Run (Clipboard × ClipStream) := do
  let (_, s) ← s.inUint32Le
  let (_, s) ← s.inUint32Le
  let (_, s) ← s.inUint32Le
  let (_, s) ← s.inUint32Le
  let s := s.inUint8s 4
  let (_, s) ← s.inUint32Le
  return (m, s)

/-- `xfuse_file_contents_range`: the read that waits first gets `n` bytes. -/
def xfuseFileContentsRange (m : Clipboard) (s : ClipStream) (n : Int) : Run Clipboard :=
  if m.reqList = 0 then .ok m
  else if 0 ≤ n ∧ s.Has n.toNat then
    .ok { m with
      reqList := m.reqList - 1
      sentType := if m.reqList = 1 then m.sentType else .range }
  else .error .outOfBounds

/-- `clipboard_process_file_response`. -/
def clipboardProcessFileResponse (m : Clipboard) (s : ClipStream) (clipMsgLen : Int) :
    Run (Clipboard × ClipStream) :=
  match m.sentType with
  | .size => do
    let (_, s) ← s.inUint32Le
    let (_, s) ← s.inUint32Le
    return ({ m with sentType := .none }, s)
  | .range => do
    let (_, s) ← s.inUint32Le
    let m ← xfuseFileContentsRange { m with sentType := .none } s (clipMsgLen - 4)
    return (m, s)
  | .none => .ok (m, s)

/-! ## Chunks -/

/-- A chunk of the channel: its flags, what is in it, the length said of the whole message, and which
files of a list are not added to the directory. -/
structure Chunk where
  flags : Nat
  data : List UInt8
  totalLength : Int
  refused : Nat → Bool

/-- The handler of a kind of message. -/
def handleMessage (P : Setup) (refused : Nat → Bool) (m : Clipboard) (ls : ClipStream)
    (clipMsgId : Nat) (clipMsgLen : Int) : Run (Clipboard × ClipStream) :=
  match clipMsgId with
  | 2 => clipboardProcessFormatAnnounce P m ls clipMsgLen
  | 4 => clipboardProcessDataRequest m ls
  | 5 => clipboardProcessDataResponse P refused m ls
  | 7 => clipboardProcessClipCaps m ls
  | 8 => clipboardProcessFileRequest m ls
  | 9 => clipboardProcessFileResponse m ls clipMsgLen
  | _ => .ok (m, ls)

/-- The message in `ls`. -/
def processMessage (P : Setup) (refused : Nat → Bool) (m : Clipboard) (ls : ClipStream) :
    Run (Clipboard × ClipStream) := do
  let (clipMsgId, ls) ← ls.inUint16Le
  let (_, ls) ← ls.inUint16Le
  let (clipMsgLen, ls) ← ls.inUint32Le
  handleMessage P refused m ls clipMsgId (toInt clipMsgLen)

/-- `init_stream`. -/
def Ins.init (ins : Ins) (v : Int) : Ins :=
  { size := if ins.size < v then v.toNat else ins.size, stream := ⟨[], 0⟩ }

/-- A chunk is put behind what there is. -/
def Ins.append (ins : Ins) (data : List UInt8) : Run Ins :=
  if ins.stream.bytes.length + data.length ≤ ins.size then
    .ok { ins with stream := { ins.stream with bytes := ins.stream.bytes ++ data } }
  else .error .outOfBounds

/-- The chunk is put together with others, or it is the whole message. -/
def clipboardReassemble (P : Setup) (m : Clipboard) (c : Chunk) : Run Clipboard :=
  if c.flags &&& 3 = 3 then do
    let (m, _) ← processMessage P c.refused m ⟨c.data, 0⟩
    return m
  else do
    let ins ← (if c.flags.testBit 0 then m.ins.init c.totalLength else m.ins).append c.data
    if c.flags.testBit 1 then do
      let (m, stream) ← processMessage P c.refused m ins.stream
      return { m with ins := { ins with stream := stream } }
    else return { m with ins := ins }

/-- The chunk is the first of much that may be an answer. -/
def Clipboard.MayStart (m : Clipboard) (c : Chunk) : Prop :=
  m.c2s.inRequest ∧ 32 * 1024 < c.totalLength ∧ c.flags &&& 3 = 1

instance (m : Clipboard) (c : Chunk) : Decidable (m.MayStart c) :=
  inferInstanceAs (Decidable (_ ∧ _))

/-- The header of the first chunk tells whether it is an answer, which goes straight on. -/
def startOrReassemble (P : Setup) (m : Clipboard) (c : Chunk) : Run Clipboard := do
  let (clipMsgId, s) ← ClipStream.inUint16Le ⟨c.data, 0⟩
  let (_, s) ← s.inUint16Le
  let (_, _) ← s.inUint32Le
  if clipMsgId = 5 then do
    let c2s ← ssStart P m.c2s m.savedTarget (c.data.drop 8) (c.totalLength - 8)
    return { m with c2s := c2s }
  else clipboardReassemble P m c

/-- `clipboard_data_in`. -/
def clipboardDataIn (P : Setup) (m : Clipboard) (c : Chunk) : Run Clipboard :=
  if m.clipUp = false then .ok m
  else if m.c2s.doingResponseSs then do
    let c2s ← ssPart P m.c2s c.data
    return { m with c2s := if c.flags &&& 3 = 2 then ssEnd P c2s else c2s }
  else if m.MayStart c then startOrReassemble P m c
  else clipboardReassemble P m c

/-! ## What happens -/

/-- What X events and reads of files set between two chunks. -/
structure Between where
  savedTarget : Target
  type : Target
  xrdpClipType : ClipType
  inRequest : Bool
  converted : Bool
  incrInProgress : Bool
  incrBytesDone : Nat
  s2c : ClipS2c
  sentType : SentType
  reqList : Nat

/-- What may happen; the clipboard may fail to come up. -/
inductive ClipEvent where
  | dataIn (c : Chunk)
  | between (b : Between)
  | init (works : Bool)
  | deinit

/-- After X events and reads. -/
def Clipboard.after (m : Clipboard) (b : Between) : Clipboard :=
  { m with
    c2s := { m.c2s with
      type := b.type
      xrdpClipType := b.xrdpClipType
      inRequest := b.inRequest
      converted := b.converted
      incrInProgress := b.incrInProgress
      incrBytesDone := b.incrBytesDone }
    s2c := b.s2c
    savedTarget := b.savedTarget
    sentType := b.sentType
    reqList := b.reqList }

/-- A cleared `struct clip_c2s`. -/
def ClipC2s.clear : ClipC2s := ⟨false, 0, 0, 0, Buf.alloc 0, .other 0, .none, false, false, false⟩

/-- A cleared `struct clip_s2c`. -/
def ClipS2c.clear : ClipS2c := ⟨false, .none, false⟩

/-- `clipboard_init`. -/
def clipboardInit (m : Clipboard) (works : Bool) : Clipboard :=
  if m.clipUp then m
  else
    let m := { m with c2s := .clear, s2c := .clear }
    if works then { m with clipUp := true, ins := ⟨8192, ⟨[], 0⟩⟩ } else m

/-- `clipboard_deinit`. -/
def clipboardDeinit (m : Clipboard) : Clipboard :=
  { m with clipUp := false, c2s := { m.c2s with data := Buf.alloc 0 }, ins := ⟨0, ⟨[], 0⟩⟩ }

/-- What comes of it. -/
def clipStep (P : Setup) (m : Clipboard) : ClipEvent → Run Clipboard
  | .dataIn c => clipboardDataIn P m c
  | .between b => .ok (m.after b)
  | .init works => .ok (clipboardInit m works)
  | .deinit => .ok (clipboardDeinit m)

/-- A step that does not leave a buffer. -/
def ClipNext (P : Setup) (m : Clipboard) (e : ClipEvent) (m' : Clipboard) : Prop :=
  clipStep P m e = .ok m'

end Xrdp.Chansrv.ClipIn
