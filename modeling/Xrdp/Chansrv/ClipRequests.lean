import Xrdp.Chansrv.ClipInput

/-!
# Requests for what is on the clipboard

Programs ask the clipboard for what the client has (X SelectionRequest), and the client for what
programs have (a format-data request); each asks the other side in turn
(`sesman/chansrv/clipboard.c`).  For either direction there is one set of globals.

* `ToProgram`, `ToClient` — the globals of a direction, with what has been asked and answered.
* `ProgramEvent`, `ClientEvent` — what may happen in a direction.
* `ClipEvent`, `clipStep` — the two together: X events, and chunks of the channel.
-/

namespace Xrdp.Chansrv.ClipRequests

open ClipIn (ClipType gBmpImageHeader lowBytes)

/-! ## Data of the client for programs -/

/-- The atoms that programs ask for, and all others. -/
inductive Target where
  | targets
  | timestamp
  | multiple
  | string
  | utf8
  | imageBmp
  | file1
  | file2
  | other (atom : Nat)
  deriving DecidableEq, Repr

/-- `XSelectionRequestEvent`; `None` is 0.  Requests are numbered from 1 as they come. -/
structure Request where
  serial : Nat
  requestor : Nat
  property : Nat
  target : Target
  time : Nat
  deriving DecidableEq, Repr

/-- A request that has been cleared. -/
def Request.zero : Request := ⟨0, 0, 0, .other 0, 0⟩

/-- What the kept data have been made of: the target of the request that the client has answered, its
answer so far, and the number of announces by then. -/
structure Source where
  target : Target
  failed : Bool
  content : List UInt8
  announce : Nat
  deriving DecidableEq, Repr

/-- More of the answer has come. -/
def Source.more (src : Source) (data : List UInt8) : Source :=
  { src with content := src.content ++ data }

/-- What a program finds: nothing; atoms; a time; data; or that data come piece by piece, which are
there or still to come. -/
inductive Content where
  | refused
  | atoms (atoms : List Target)
  | time (time : Nat)
  | data (type : Target) (bytes : List UInt8)
  | incr (type : Target) (bytes : Option (List UInt8))
  deriving DecidableEq, Repr

/-- A SelectionNotify, with the number of the request it is made from, what the kept data were made of,
and the number of announces. -/
structure Notify where
  requestor : Nat
  property : Nat
  target : Target
  time : Nat
  content : Content
  serial : Nat
  source : Option Source
  announce : Nat
  deriving DecidableEq, Repr

/-- What the clipboard is set up with: how characters are written and how a list of files is, if it can
be read; `g_incr_max_req_size`, for which X has a lower bound; `g_restrict_outbound_clipboard`; and
`g_wnd`. -/
structure Setup where
  encode : Nat → Option (List UInt8)
  fileList : List UInt8 → Option (List UInt8)
  incrMaxReqSize : Nat
  large : 4096 * 4 - 24 ≤ incrMaxReqSize
  restrictOutbound : Bool
  wnd : Nat

/-- `struct clip_c2s`. -/
structure ClipC2s where
  incrInProgress : Bool
  incrBytesDone : Int
  readBytesDone : Int
  totalBytes : Int
  data : List UInt8
  type : Target
  property : Nat
  window : Nat
  xrdpClipType : ClipType
  converted : Bool
  inRequest : Bool
  doingResponseSs : Bool

def ClipC2s.clear : ClipC2s :=
  ⟨false, 0, 0, 0, [], .other 0, 0, 0, .none, false, false, false⟩

/-- The globals of this direction, and what has gone on: `asked` are the requests that the client has
been asked for and has not answered, and `overread` tells if the bytes behind a response have been taken
for its text. -/
structure ToProgram where
  saved : Request
  c2s : ClipC2s
  formatIds : List Nat
  fileFormatId : Option Nat
  selectionTime : Nat
  requests : List Request
  notifies : List Notify
  asked : List Request
  source : Option Source
  announces : Nat
  overread : Bool

def ToProgram.start : ToProgram := ⟨.zero, .clear, [], none, 0, [], [], [], none, 0, false⟩

namespace ToProgram

/-- `XSendEvent` of a SelectionNotify to `req`. -/
def sendNotify (s : ToProgram) (req : Request) (property : Nat) (content : Content) : ToProgram :=
  { s with notifies := s.notifies ++
      [⟨req.requestor, property, req.target, req.time, content, req.serial, s.source, s.announces⟩] }

/-- `clipboard_refuse_selection`. -/
def refuseSelection (s : ToProgram) (req : Request) : ToProgram := s.sendNotify req 0 .refused

/-- `clipboard_provide_selection` of `length` items of 32 bits, which are longs. -/
def provideSelection (P : Setup) (s : ToProgram) (req : Request) (length : Nat) (content : Content) :
    ToProgram :=
  if 8 * length < P.incrMaxReqSize then s.sendNotify req req.property content else s

/-- `clipboard_provide_selection_c2s`. -/
def provideSelectionC2s (P : Setup) (s : ToProgram) (req : Request) (type : Target) : ToProgram :=
  let bytes := s.c2s.data.take s.c2s.totalBytes.toNat
  if s.c2s.totalBytes < P.incrMaxReqSize then s.sendNotify req req.property (.data type bytes)
  else
    { s with c2s := { s.c2s with
        incrInProgress := true
        incrBytesDone := 0
        type := type
        property := req.property
        window := req.requestor } }.sendNotify req req.property (.incr type (some bytes))

/-- `clipboard_send_data_request` for a request that is saved. -/
def sendDataRequest (s : ToProgram) (req : Request) (clipType : ClipType) : ToProgram :=
  { s with
    saved := req
    c2s := { s.c2s with type := req.target, xrdpClipType := clipType, inRequest := true }
    asked := s.asked ++ [req] }

/-- `clipboard_find_format_id(..) >= 0`. -/
def hasFormatId (s : ToProgram) (formatId : Nat) : Bool := s.formatIds.contains formatId

/-- The answer to a request for the targets. -/
def targets (s : ToProgram) : List Target :=
  [.targets, .timestamp, .multiple, .string, .utf8] ++
    (if s.hasFormatId 0x0008 then [.imageBmp] else []) ++
    (if s.fileFormatId.any s.hasFormatId then [.file1, .file2] else [])

/-- The data that are kept are given again, or the client is asked. -/
def cachedOrAsk (P : Setup) (s : ToProgram) (req : Request) (clipType : ClipType) : ToProgram :=
  if s.c2s.type = req.target ∧ s.c2s.converted then s.provideSelectionC2s P req req.target
  else s.sendDataRequest req clipType

/-- `clipboard_event_selection_request` for a request that has been counted. -/
def answerRequest (P : Setup) (s : ToProgram) (req : Request) : ToProgram :=
  if req.property = 0 then s.refuseSelection req
  else match req.target with
    | .targets => s.provideSelection P req s.targets.length (.atoms s.targets)
    | .timestamp => s.provideSelection P req 1 (.time s.selectionTime)
    | .multiple => s.refuseSelection req
    | .string => s.sendDataRequest req .text
    | .utf8 => s.sendDataRequest req .text
    | .imageBmp => s.cachedOrAsk P req .bitmap
    | .file1 => s.cachedOrAsk P req .file
    | .file2 => s.cachedOrAsk P req .file
    | .other _ => s.refuseSelection req

/-- `clipboard_event_selection_request`. -/
def selectionRequest (P : Setup) (s : ToProgram) (requestor property : Nat) (target : Target)
    (time : Nat) : ToProgram :=
  let req : Request := ⟨s.requests.length + 1, requestor, property, target, time⟩
  { s with requests := s.requests ++ [req] }.answerRequest P req

end ToProgram

/-- A format of an announce. -/
structure Format where
  formatId : Nat
  /-- Its name is `FileGroupDescriptorW`. -/
  files : Bool
  deriving DecidableEq, Repr

namespace ToProgram

/-- `clipboard_process_format_announce`; `owner` is the server's time if the selection becomes the
clipboard's. -/
def formatAnnounce (s : ToProgram) (formats : List Format) (owner : Option Nat) : ToProgram :=
  { s with
    c2s := { s.c2s with converted := false }
    formatIds := (formats.take 16).map (·.formatId)
    fileFormatId := formats.foldl (fun id f => if f.files then some f.formatId else id) s.fileFormatId
    selectionTime := owner.getD s.selectionTime
    announces := s.announces + 1 }

end ToProgram

/-- A format-data response of the client. -/
structure Response where
  failed : Bool
  content : List UInt8
  deriving DecidableEq, Repr

/-- The text of a response that ends with a zero, if there is a character that cannot be written none. -/
def decodeText (P : Setup) (content : List UInt8) : Option (List UInt8) :=
  (ClipIn.textLength P.encode (ClipIn.units content)).map fun len =>
    (ClipIn.wcstombs P.encode (len + 1) (ClipIn.units content)).2.takeWhile (· ≠ 0)

/-- What is before a list of files. -/
def filePrefix (type : Target) : List UInt8 :=
  if type = .file2 then [99, 111, 112, 121, 10] else []

/-- The list of files for a program. -/
def fileText (P : Setup) (type : Target) (content : List UInt8) : List UInt8 :=
  if type = .file1 ∨ type = .file2 then filePrefix type ++ (P.fileList content).getD [] else []

namespace ToProgram

/-- What the kept data are made of from now on, if the client has been asked. -/
def sourceOf (s : ToProgram) (r : Response) : Option Source :=
  s.asked.head?.map fun req => ⟨req.target, r.failed, r.content, s.announces⟩

/-- Data are kept, and given to the saved request. -/
def keepAndProvide (P : Setup) (s : ToProgram) (r : Response) (data : List UInt8) (len : Nat) :
    ToProgram :=
  { s with
    c2s := { s.c2s with data := data, totalBytes := len, readBytesDone := len }
    source := s.sourceOf r }.provideSelectionC2s P s.saved s.saved.target

/-- The text of a response is read up to a zero; without one, from behind the response too. -/
def readText (s : ToProgram) (content : List UInt8) : ToProgram :=
  if 0 ∈ ClipIn.units content then s else { s with overread := true }

/-- The text part of `clipboard_process_data_response`. -/
def handleText (P : Setup) (s : ToProgram) (r : Response) : ToProgram :=
  if r.content.length < 1 then s
  else
    let s := s.readText r.content
    match decodeText P r.content with
    | none => { s with c2s := { s.c2s with data := [], totalBytes := 0 }, source := none }
    | some text => s.keepAndProvide P r text text.length

/-- `clipboard_process_data_response_for_image`. -/
def handleImage (P : Setup) (s : ToProgram) (r : Response) : ToProgram :=
  if r.content.length < 1 then s
  else if s.c2s.type ≠ .imageBmp then s
  else s.keepAndProvide P r (gBmpImageHeader ++ r.content) r.content.length

/-- The file part of `clipboard_process_data_response`. -/
def handleFile (P : Setup) (s : ToProgram) (r : Response) : ToProgram :=
  let text := fileText P s.c2s.type r.content
  s.keepAndProvide P r text text.length

/-- The handlers of the kinds of data; the status is not looked at. -/
def handleResponse (P : Setup) (s : ToProgram) (r : Response) : ToProgram :=
  match s.c2s.xrdpClipType with
  | .bitmap => s.handleImage P r
  | .file => s.handleFile P r
  | _ => s.handleText P r

/-- A response is one to the request that the client has been asked for first. -/
def answered (s : ToProgram) : ToProgram := { s with asked := s.asked.tail }

/-- `clipboard_process_data_response`. -/
def dataResponse (P : Setup) (s : ToProgram) (r : Response) : ToProgram :=
  ({ s with c2s := { s.c2s with inRequest := false } }.handleResponse P r).answered

/-- The end of `ss_part` and `ss_end`. -/
def ssMore (P : Setup) (s : ToProgram) : ToProgram :=
  if s.c2s.incrInProgress then s
  else if s.c2s.readBytesDone ≤ s.c2s.incrBytesDone then s
  else
    { s with c2s := { s.c2s with
        incrBytesDone := s.c2s.incrBytesDone +
          min (s.c2s.readBytesDone - s.c2s.incrBytesDone) P.incrMaxReqSize
        incrInProgress := true } }

/-- `ss_part`. -/
def ssPart (P : Setup) (s : ToProgram) (data : List UInt8) : ToProgram :=
  let part := if s.c2s.type = .utf8 then lowBytes data else data
  { s with
    c2s := { s.c2s with
      data := s.c2s.data.take s.c2s.readBytesDone.toNat ++ part
      readBytesDone := s.c2s.readBytesDone + part.length }
    source := s.source.map fun src : Source => src.more data }.ssMore P

/-- `ss_end`. -/
def ssEnd (P : Setup) (s : ToProgram) : ToProgram :=
  { s with c2s := { s.c2s with doingResponseSs := false, inRequest := false } }.ssMore P

/-- `incr_bytes` of `ss_start`. -/
def incrBytes (target : Target) (totalBytes : Int) : Int :=
  if target = .imageBmp then totalBytes + 14
  else if target = .utf8 then totalBytes.tdiv 2
  else totalBytes

/-- `ss_start` up to the first part: the saved request is told that data come piece by piece. -/
def ssBegin (s : ToProgram) (failed : Bool) (totalBytes : Int) : ToProgram :=
  let req := s.saved
  let header := if req.target = .imageBmp then gBmpImageHeader else []
  { s with
    c2s := { s.c2s with
      doingResponseSs := true
      incrBytesDone := 0
      readBytesDone := header.length
      type := req.target
      property := req.property
      window := req.requestor
      data := header
      totalBytes := incrBytes req.target totalBytes
      incrInProgress := true }
    source := s.sourceOf ⟨failed, []⟩ }.sendNotify req req.property (.incr req.target none)

/-- `ss_start`. -/
def ssStart (P : Setup) (s : ToProgram) (failed : Bool) (data : List UInt8) (totalBytes : Int) :
    ToProgram :=
  ((s.ssBegin failed totalBytes).ssPart P data).answered

end ToProgram

/-- What happens in this direction. -/
inductive ProgramEvent where
  | selectionRequest (requestor property : Nat) (target : Target) (time : Nat)
  | formatAnnounce (formats : List Format) (owner : Option Nat)
  | dataResponse (r : Response)
  /-- The first chunk of a message of more than 32 KiB that is a response. -/
  | firstOfResponse (failed : Bool) (data : List UInt8) (totalBytes : Int)
  /-- A chunk of bytes that go straight on, or that are no whole message yet. -/
  | part (data : List UInt8) (last : Bool)
  /-- A chunk that is taken for bytes to go on although it is an announce or a response. -/
  | swallowed (data : List UInt8) (last response : Bool)
  /-- PropertyNotify with PropertyDelete. -/
  | propertyDelete (window atom : Nat)

namespace ToProgram

/-- `ss_part`, and `ss_end` with the last chunk, if bytes go straight on. -/
def partIn (P : Setup) (s : ToProgram) (data : List UInt8) (last : Bool) : ToProgram :=
  if s.c2s.doingResponseSs then
    let s := s.ssPart P data
    if last then s.ssEnd P else s
  else s

/-- `clipboard_event_property_notify` for an INCR transfer to a program. -/
def propertyDelete (P : Setup) (s : ToProgram) (window atom : Nat) : ToProgram :=
  if s.c2s.incrInProgress ∧ window = s.c2s.window ∧ atom = s.c2s.property then
    if s.c2s.totalBytes < 1 then s
    else
      let dataBytes := s.c2s.readBytesDone - s.c2s.incrBytesDone
      if dataBytes < 1 ∧ s.c2s.readBytesDone < s.c2s.totalBytes then
        { s with c2s := { s.c2s with incrInProgress := false } }
      else
        let dataBytes := min dataBytes P.incrMaxReqSize
        let c2s := { s.c2s with incrBytesDone := s.c2s.incrBytesDone + dataBytes }
        if dataBytes < 1 then
          { s with c2s := { c2s with incrInProgress := false, converted := true } }
        else { s with c2s := c2s }
  else s

/-- What comes of an event of this direction. -/
def step (P : Setup) (s : ToProgram) : ProgramEvent → ToProgram
  | .selectionRequest requestor property target time =>
    s.selectionRequest P requestor property target time
  | .formatAnnounce formats owner => s.formatAnnounce formats owner
  | .dataResponse r => s.dataResponse P r
  | .firstOfResponse failed data totalBytes =>
    if s.c2s.inRequest then s.ssStart P failed data totalBytes else s
  | .part data last => s.partIn P data last
  | .swallowed data last response =>
    let s := s.partIn P data last
    if response then s.answered else { s with announces := s.announces + 1 }
  | .propertyDelete window atom => s.propertyDelete P window atom

end ToProgram

/-! ## Data of programs for the client -/

/-- `XConvertSelection`, with the number of the client's request that it is for. -/
structure Conversion where
  target : Target
  request : Option Nat
  deriving DecidableEq, Repr

/-- A format-data response: it has failed, or has data of a kind and says a length. -/
inductive ResponseContent where
  | failed
  | ok (clipType : ClipType) (data : List UInt8) (size : Int)
  deriving DecidableEq, Repr

/-- A response, with the number of the client's request that the data are of. -/
structure DataResponse where
  content : ResponseContent
  request : Option Nat
  deriving DecidableEq, Repr

/-- `struct clip_s2c`. -/
structure ClipS2c where
  incrInProgress : Bool
  data : Option (List UInt8)
  totalBytes : Int
  type : Target
  property : Nat
  xrdpClipType : ClipType
  converted : Bool

def ClipS2c.clear : ClipS2c := ⟨false, none, 0, .other 0, 0, .none, false⟩

/-- The globals of this direction, and what has gone on: `conversions` are those that X has not
answered, `incrFor` is what the data that come piece by piece are for. -/
structure ToClient where
  s2c : ClipS2c
  dataRequests : List Nat
  responses : List DataResponse
  conversions : List Conversion
  incrFor : Option Nat

def ToClient.start : ToClient := ⟨.clear, [], [], [], none⟩

/-- What a property holds: it cannot be read, data come piece by piece, or there are data; of a list of
atoms those. -/
inductive Property where
  | failed
  | incr
  | value (data : List UInt8) (atoms : Option (List Target))

/-- The formats that the client may ask for. -/
def formatType : Nat → Option ClipType
  | 0xC0BC => some .file
  | 0x0008 => some .bitmap
  | 0x000D => some .text
  | _ => none

namespace ToClient

/-- A response is sent. -/
def sendResponse (s : ToClient) (request : Option Nat) (content : ResponseContent) : ToClient :=
  { s with responses := s.responses ++ [⟨content, request⟩] }

/-- `clipboard_send_data_response`: nothing is sent if there are no data. -/
def sendDataResponse (s : ToClient) (request : Option Nat) (clipType : ClipType)
    (data : Option (List UInt8)) (size : Int) : ToClient :=
  match data with
  | none => s
  | some data => if clipType = .none then s else s.sendResponse request (.ok clipType data size)

/-- The target that programs are asked for. -/
def convertTarget (s : ToClient) : ClipType → Target
  | .bitmap => .imageBmp
  | .file => s.s2c.type
  | _ => .utf8

/-- `clipboard_process_data_request` of a request that has been counted. -/
def answerDataRequest (s : ToClient) (request format : Nat) : ToClient :=
  match formatType format with
  | none => s.sendResponse (some request) .failed
  | some clipType =>
    if s.s2c.xrdpClipType = clipType ∧ s.s2c.converted then
      s.sendDataResponse (some request) clipType s.s2c.data s.s2c.totalBytes
    else
      { s with
        s2c := { s.s2c with xrdpClipType := clipType }
        conversions := s.conversions ++ [⟨s.convertTarget clipType, some request⟩] }

/-- `clipboard_process_data_request`. -/
def dataRequest (s : ToClient) (format : Nat) : ToClient :=
  { s with dataRequests := s.dataRequests ++ [format] }.answerDataRequest s.dataRequests.length format

/-- `clipboard_event_selection_owner_notify`. -/
def ownerNotify (P : Setup) (s : ToClient) (owner : Nat) : ToClient :=
  if owner = P.wnd ∨ owner = 0 then s
  else { s with conversions := s.conversions ++ [⟨.targets, none⟩] }

/-- The targets that a program offers: the formats that are announced to the client. -/
def offered (s : ToClient) (atoms : List Target) : ToClient :=
  let got (type : Target) (clipType : ClipType) : ToClient :=
    { s with s2c := { s.s2c with type := type, xrdpClipType := clipType, converted := false } }
  match (atoms.filter fun a => a = .file1 ∨ a = .file2).getLast? with
  | some atom => got atom .file
  | none =>
    if .utf8 ∈ atoms then got .utf8 .text
    else if .string ∈ atoms then got .string .text
    else if .imageBmp ∈ atoms then got .imageBmp .bitmap
    else s

/-- Data are kept, and a part of them sent. -/
def keepAndSend (s : ToClient) (request : Option Nat) (data : List UInt8) (clipType : ClipType)
    (skip : Nat) : ToClient :=
  if s.s2c.incrInProgress = false ∧ skip < data.length then
    { s with s2c := { s.s2c with data := some data, totalBytes := data.length } }.sendResponse request
      (.ok clipType (data.drop skip) (data.length - skip))
  else s

/-- What `clipboard_event_selection_notify` does with data that have come at once. -/
def handleValue (s : ToClient) (request : Option Nat) (target : Target) (data : List UInt8)
    (atoms : Option (List Target)) : ToClient :=
  match target with
  | .targets => match atoms with
    | some atoms => s.offered atoms
    | none => s
  | .utf8 => s.keepAndSend request data (if s.s2c.xrdpClipType = .file then .file else .text) 0
  | .string => s.keepAndSend request data .text 0
  | .imageBmp => s.keepAndSend request data .bitmap 14
  | .file1 => s.keepAndSend request data .file 0
  | .file2 => s.keepAndSend request data .file 0
  | _ => s

/-- Data come piece by piece. -/
def startIncr (s : ToClient) (request : Option Nat) (target : Target) (property : Nat) : ToClient :=
  { s with
    s2c := { s.s2c with
      incrInProgress := true
      property := property
      type := target
      totalBytes := 0
      data := none }
    incrFor := request }

/-- What the conversion is for that a SelectionNotify answers. -/
def convertedFor (s : ToClient) (target : Target) : Option Nat :=
  (s.conversions.find? (·.target = target)).bind (·.request)

/-- That conversion has been answered. -/
def notified (s : ToClient) (target : Target) : ToClient :=
  { s with conversions := s.conversions.eraseP (·.target = target) }

/-- `clipboard_event_selection_notify`; `clipboard` tells whether it is of that selection. -/
def selectionNotify (P : Setup) (s : ToClient) (clipboard : Bool) (target : Target) (property : Nat)
    (value : Property) : ToClient :=
  let request := s.convertedFor target
  let s := s.notified target
  if P.restrictOutbound then s
  else if property = 0 then s
  else match value with
    | .failed => s
    | .incr => s.startIncr request target property
    | .value data atoms => if clipboard then s.handleValue request target data atoms else s

/-- The end of data that come piece by piece. -/
def endIncr (s : ToClient) : ToClient :=
  let request := s.incrFor
  let s := { s with s2c := { s.s2c with incrInProgress := false }, incrFor := none }
  match s.s2c.type with
  | .imageBmp =>
    { s with s2c := { s.s2c with xrdpClipType := .bitmap } }.sendResponse request
      (.ok .bitmap ((s.s2c.data.getD []).drop 14) (s.s2c.totalBytes - 14))
  | .string =>
    { s with s2c := { s.s2c with xrdpClipType := .text } }.sendDataResponse request .text s.s2c.data
      s.s2c.totalBytes
  | .utf8 =>
    { s with s2c := { s.s2c with xrdpClipType := .text } }.sendDataResponse request .text s.s2c.data
      s.s2c.totalBytes
  | _ => s.sendResponse request .failed

/-- `clipboard_event_property_notify` for data that come piece by piece; `piece` is what the property
holds, if it can be read. -/
def propertyNew (P : Setup) (s : ToClient) (window atom : Nat) (piece : Option (List UInt8)) :
    ToClient :=
  if s.s2c.incrInProgress ∧ window = P.wnd ∧ atom = s.s2c.property then
    match piece with
    | none => s
    | some [] => s.endIncr
    | some piece =>
      { s with s2c := { s.s2c with
          data := some (s.s2c.data.getD [] ++ piece)
          totalBytes := s.s2c.totalBytes + piece.length } }
  else s

end ToClient

/-- What happens in this direction. -/
inductive ClientEvent where
  | dataRequest (format : Nat)
  /-- A request that is taken for bytes that go straight on. -/
  | swallowedRequest (format : Nat)
  | ownerNotify (owner : Nat)
  | selectionNotify (clipboard : Bool) (target : Target) (property : Nat) (value : Property)
  /-- PropertyNotify with PropertyNewValue. -/
  | propertyNew (window atom : Nat) (piece : Option (List UInt8))

/-- What comes of an event of this direction. -/
def ToClient.step (P : Setup) (s : ToClient) : ClientEvent → ToClient
  | .dataRequest format => s.dataRequest format
  | .swallowedRequest format => { s with dataRequests := s.dataRequests ++ [format] }
  | .ownerNotify owner => s.ownerNotify P owner
  | .selectionNotify clipboard target property value => s.selectionNotify P clipboard target property value
  | .propertyNew window atom piece => s.propertyNew P window atom piece

/-! ## Both directions -/

/-- The clipboard. -/
structure Clipboard where
  toProgram : ToProgram
  toClient : ToClient

/-- The clipboard when it has come up. -/
def Clipboard.start : Clipboard := ⟨.start, .start⟩

/-- What a chunk of the channel has: a part of a message, the first part of a response of more than 32
KiB, or a message. -/
inductive Carried where
  | nothing
  | firstOfResponse (failed : Bool) (data : List UInt8) (totalBytes : Int)
  | formatAnnounce (formats : List Format) (time : Nat)
  | dataResponse (r : Response)
  | dataRequest (format : Nat)

/-- What happens: an X event, or a chunk with its bytes. -/
inductive ClipEvent where
  | selectionRequest (requestor property : Nat) (target : Target) (time : Nat)
  | ownerNotify (owner : Nat)
  | selectionNotify (clipboard : Bool) (target : Target) (property : Nat) (value : Property)
  | propertyDelete (window atom : Nat)
  | propertyNew (window atom : Nat) (piece : Option (List UInt8))
  | chunk (bytes : List UInt8) (last : Bool) (carried : Carried)

namespace Clipboard

/-- The selection becomes the clipboard's with an announce, unless data come or go piece by piece. -/
def ownerTime (s : Clipboard) (formats : List Format) (time : Nat) : Option Nat :=
  if formats ≠ [] ∧ s.toProgram.c2s.incrInProgress = false ∧ s.toClient.s2c.incrInProgress = false then
    some time
  else none

/-- What an event is to programs.  While an answer goes straight on, every chunk is part of it. -/
def programEvent (s : Clipboard) : ClipEvent → Option ProgramEvent
  | .selectionRequest requestor property target time =>
    some (.selectionRequest requestor property target time)
  | .propertyDelete window atom => some (.propertyDelete window atom)
  | .chunk bytes last carried =>
    some (if s.toProgram.c2s.doingResponseSs then match carried with
      | .formatAnnounce _ _ => .swallowed bytes last false
      | .firstOfResponse _ _ _ => .swallowed bytes last true
      | .dataResponse _ => .swallowed bytes last true
      | _ => .part bytes last
    else match carried with
      | .formatAnnounce formats time => .formatAnnounce formats (s.ownerTime formats time)
      | .firstOfResponse failed data totalBytes => .firstOfResponse failed data totalBytes
      | .dataResponse r => .dataResponse r
      | _ => .part bytes last)
  | _ => none

/-- What an event is to the client. -/
def clientEvent (s : Clipboard) : ClipEvent → Option ClientEvent
  | .ownerNotify owner => some (.ownerNotify owner)
  | .selectionNotify clipboard target property value =>
    some (.selectionNotify clipboard target property value)
  | .propertyNew window atom piece => some (.propertyNew window atom piece)
  | .chunk _ _ (.dataRequest format) =>
    some (if s.toProgram.c2s.doingResponseSs then .swallowedRequest format else .dataRequest format)
  | _ => none

end Clipboard

/-- What comes of an event. -/
def clipStep (P : Setup) (s : Clipboard) (e : ClipEvent) : Clipboard where
  toProgram := (s.programEvent e).elim s.toProgram (s.toProgram.step P)
  toClient := (s.clientEvent e).elim s.toClient (s.toClient.step P)

def ClipNext (P : Setup) (s : Clipboard) (e : ClipEvent) (s' : Clipboard) : Prop := clipStep P s e = s'

end Xrdp.Chansrv.ClipRequests
