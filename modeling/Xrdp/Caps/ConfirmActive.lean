import Mathlib.Data.Nat.Bitwise
import Xrdp.Lib.Scans

/-!
# Capabilities of the client

`libxrdp/xrdp_caps.c` reads the capability sets of a confirm active PDU; each kind of set has a parser, which is told
the length of its set.

* `processGeneral` … `processFrameAck` — the parsers.
* `confirmActive` — the header, and the loop over the sets, with a note of each call of a parser.
* `Call.Right`, `Right` — what is promised of a PDU.
* `confirm_active_right_iff` — it holds just if the header is complete and the sets of four kinds are long enough.
-/

namespace Xrdp.Caps

open Scans

/-- `struct xrdp_client_info`, as far as the capability sets are concerned. -/
structure ClientInfo where
  bpp : Int
  cache1Entries : Int
  cache1Size : Int
  cache2Entries : Int
  cache2Size : Int
  cache3Entries : Int
  cache3Size : Int
  bitmapCachePersistEnable : Int
  bitmapCacheVersion : Nat
  pointerCacheEntries : Int
  op1 : Nat
  op2 : Nat
  useCompactPackets : Nat
  desktopCache : Int
  brushCacheCode : Int
  offscreenSupportLevel : Int
  offscreenCacheSize : Int
  offscreenCacheEntries : Int
  railSupportLevel : Int
  wndSupportLevel : Int
  wndNumIconCaches : Int
  wndNumIconCacheEntries : Int
  rfxCodecId : Nat
  rfxProp : List UInt8
  rfxPropLen : Nat
  nsCodecId : Nat
  nsProp : List UInt8
  nsPropLen : Nat
  jpegCodecId : Nat
  jpegProp : List UInt8
  jpegPropLen : Nat
  h264CodecId : Nat
  h264Prop : List UInt8
  h264PropLen : Nat
  v3CodecId : Nat
  orders : List UInt8
  orderFlagsEx : Nat
  pointerFlags : Nat
  useFastPath : Nat
  maxFastpathFragBytes : Int
  useFrameAcks : Nat
  maxUnacknowledgedFrameCount : Int
  clientOsMajor : Nat
  clientOsMinor : Nat
  noOrdersSupported : Nat
  useCacheGlyphV2 : Nat
  deriving DecidableEq, Repr

/-- The bitmap caches of `xrdp_rdp_create`; all else is zero. -/
def ClientInfo.initial : ClientInfo where
  bpp := 0
  cache1Entries := 600
  cache1Size := 256
  cache2Entries := 300
  cache2Size := 1024
  cache3Entries := 262
  cache3Size := 4096
  bitmapCachePersistEnable := 0
  bitmapCacheVersion := 0
  pointerCacheEntries := 0
  op1 := 0
  op2 := 0
  useCompactPackets := 0
  desktopCache := 0
  brushCacheCode := 0
  offscreenSupportLevel := 0
  offscreenCacheSize := 0
  offscreenCacheEntries := 0
  railSupportLevel := 0
  wndSupportLevel := 0
  wndNumIconCaches := 0
  wndNumIconCacheEntries := 0
  rfxCodecId := 0
  rfxProp := List.replicate 64 0
  rfxPropLen := 0
  nsCodecId := 0
  nsProp := List.replicate 64 0
  nsPropLen := 0
  jpegCodecId := 0
  jpegProp := List.replicate 64 0
  jpegPropLen := 0
  h264CodecId := 0
  h264Prop := List.replicate 64 0
  h264PropLen := 0
  v3CodecId := 0
  orders := List.replicate 32 0
  orderFlagsEx := 0
  pointerFlags := 0
  useFastPath := 0
  maxFastpathFragBytes := 0
  useFrameAcks := 0
  maxUnacknowledgedFrameCount := 0
  clientOsMajor := 0
  clientOsMinor := 0
  noOrdersSupported := 0
  useCacheGlyphV2 := 0

abbrev Parser := Parse ClientInfo

/-- `in_uint32_le` to an `int`. -/
def inInt32Le : Parser Int := do
  let v ← le 4
  return (v : Int).bmod (2 ^ 32)

/-- `XRDP_MAX_BITMAP_CACHE_IDX`. -/
def maxBitmapCacheIdx : Int := 2000

/-- The entries of a cache: not more than the program has room for, and not less than none. -/
def clampEntries (i : Int) : Int := max (min i maxBitmapCacheIdx) 0

/-- The bits of `x` but for those of `mask`. -/
def clearBits (x mask : Nat) : Nat := x ^^^ (x &&& mask)

/-! ## The parsers -/

/-- `xrdp_caps_process_general`. -/
def processGeneral (len : Nat) : Parser Nat :=
  if len < 10 + 2 then return 1
  else do
    let osMajor ← le 2
    let osMinor ← le 2
    skip 6
    let extraFlags ← le 2
    let compact := if extraFlags ≠ 0 then 1 else 0
    update fun ci => { ci with
      clientOsMajor := osMajor
      clientOsMinor := osMinor
      op1 := extraFlags &&& 0x0400
      useCompactPackets := compact
      op2 := compact
      useFastPath := if ci.useFastPath &&& 1 ≠ 0 ∧ extraFlags &&& 0x0001 = 0 then clearBits ci.useFastPath 1
        else ci.useFastPath }
    return 0

/-- `xrdp_caps_process_order`. -/
def processOrder (len : Nat) : Parser Nat :=
  if len < 20 + 2 + 2 + 2 + 2 + 2 + 2 + 32 + 2 + 2 + 4 + 4 + 4 + 4 then return 1
  else do
    skip 30
    let capFlags ← le 2
    let orderCaps ← bytes 32
    skip 2
    let exFlags ← le 2
    skip 4
    let desktopCache ← inInt32Le
    skip 8
    let drawn (i : Nat) := orderCaps.getD i 0 ≠ 0
    update fun ci => { ci with
      orders := orderCaps
      orderFlagsEx := if capFlags &&& 0x80 ≠ 0 then exFlags else ci.orderFlagsEx
      bitmapCacheVersion := if capFlags &&& 0x80 ≠ 0 ∧ exFlags &&& 0x0002 ≠ 0 then ci.bitmapCacheVersion ||| 4
        else ci.bitmapCacheVersion
      desktopCache := desktopCache
      noOrdersSupported := if ¬ (drawn 0 ∧ drawn 1 ∧ drawn 2 ∧ drawn 3) then 1 else ci.noOrdersSupported }
    return 0

/-- `xrdp_caps_process_bmpcache`. -/
def processBmpcache (len : Nat) : Parser Nat :=
  if len < 24 + 2 + 2 + 2 + 2 + 2 + 2 then return 1
  else do
    skip 24
    let entries1 ← le 2
    let size1 ← le 2
    let entries2 ← le 2
    let size2 ← le 2
    let entries3 ← le 2
    let size3 ← le 2
    update fun ci => { ci with
      bitmapCacheVersion := ci.bitmapCacheVersion ||| 1
      cache1Entries := clampEntries entries1
      cache1Size := size1
      cache2Entries := clampEntries entries2
      cache2Size := size2
      cache3Entries := clampEntries entries3
      cache3Size := size3 }
    return 0

/-- `xrdp_caps_process_bmpcache2`. -/
def processBmpcache2 (len : Nat) : Parser Nat :=
  if len < 2 + 2 + 4 + 4 + 4 then return 1
  else do
    let flags ← le 2
    skip 2
    let entries1 ← inInt32Le
    let entries2 ← inInt32Le
    let entries3 ← inInt32Le
    update fun ci =>
      let bytesPerPixel := (ci.bpp + 7).tdiv 8
      { ci with
        bitmapCacheVersion := ci.bitmapCacheVersion ||| 2
        bitmapCachePersistEnable := flags
        cache1Entries := clampEntries entries1
        cache1Size := 256 * bytesPerPixel
        cache2Entries := clampEntries entries2
        cache2Size := 1024 * bytesPerPixel
        cache3Entries := clampEntries (entries3 % 2 ^ 31)
        cache3Size := 4096 * bytesPerPixel }
    return 0

/-- `xrdp_caps_process_cache_v3_codec_id`. -/
def processCacheV3CodecId (len : Nat) : Parser Nat :=
  if len < 1 then return 1
  else do
    let codecId ← le 1
    update fun ci => { ci with v3CodecId := codecId }
    return 0

/-- The entries of a pointer cache. -/
def pointerEntries : Parser Unit := do
  let entries ← le 2
  update fun ci => { ci with pointerCacheEntries := min (entries : Int) 32 }

/-- `xrdp_caps_process_pointer`. -/
def processPointer (len : Nat) : Parser Nat :=
  if len < 2 + 2 + 2 then return 1
  else do
    let ci ← state
    let noNewCursor := ci.pointerFlags &&& 2
    let colorPointerFlag ← le 2
    update fun ci => { ci with pointerFlags := colorPointerFlag }
    pointerEntries
    -- the entries of the new cache are taken instead
    (if colorPointerFlag &&& 1 ≠ 0 then pointerEntries else return ())
    update fun ci => { ci with pointerFlags := if noNewCursor ≠ 0 then 0 else ci.pointerFlags }
    return 0

/-- `xrdp_caps_process_input`: the length is not looked at. -/
def processInput (_len : Nat) : Parser Nat := do
  let inputFlags ← le 2
  update fun ci => { ci with
    useFastPath := if ci.useFastPath &&& 2 ≠ 0 ∧ inputFlags &&& 0x0008 = 0 ∧ inputFlags &&& 0x0020 = 0 then
      clearBits ci.useFastPath 2 else ci.useFastPath }
  return 0

/-- `xrdp_caps_process_brushcache`. -/
def processBrushcache (len : Nat) : Parser Nat :=
  if len < 4 then return 1
  else do
    let code ← inInt32Le
    update fun ci => { ci with brushCacheCode := code }
    return 0

/-- `xrdp_caps_process_glyphcache`. -/
def processGlyphcache (len : Nat) : Parser Nat :=
  if len < 40 + 4 + 2 + 2 then return 1
  else do
    skip 44
    let glyphSupportLevel ← le 2
    skip 2
    update fun ci => { ci with useCacheGlyphV2 := if glyphSupportLevel = 3 then 1 else ci.useCacheGlyphV2 }
    return 0

/-- `xrdp_caps_process_offscreen_bmpcache`. -/
def processOffscreenBmpcache (len : Nat) : Parser Nat :=
  if len < 4 + 2 + 2 then return 1
  else do
    let level ← inInt32Le
    let size ← le 2
    let entries ← le 2
    update fun ci => { ci with
      offscreenSupportLevel := level
      offscreenCacheSize := (size : Int) * 1024
      offscreenCacheEntries := entries }
    return 0

/-- `xrdp_caps_process_rail`. -/
def processRail (len : Nat) : Parser Nat :=
  if len < 4 then return 1
  else do
    let level ← inInt32Le
    update fun ci => { ci with railSupportLevel := level }
    return 0

/-- `xrdp_caps_process_window`. -/
def processWindow (len : Nat) : Parser Nat :=
  if len < 4 + 1 + 2 then return 1
  else do
    let level ← inInt32Le
    let caches ← le 1
    let entries ← le 2
    update fun ci => { ci with
      wndSupportLevel := level
      wndNumIconCaches := caches
      wndNumIconCacheEntries := entries }
    return 0

/-- `xrdp_caps_process_multifragmentupdate`: the length is not looked at. -/
def processMultifragmentupdate (_len : Nat) : Parser Nat := do
  let maxRequestSize ← inInt32Le
  update fun ci => { ci with maxFastpathFragBytes := maxRequestSize }
  return 0

/-- `xrdp_caps_process_frame_ack`: nor here. -/
def processFrameAck (_len : Nat) : Parser Nat := do
  update fun ci => { ci with useFrameAcks := 1 }
  let count ← inInt32Le
  update fun ci => { ci with maxUnacknowledgedFrameCount := if count < 0 then 0 else count }
  return 0

/-- `xrdp_caps_process_surface_cmds`: nor here. -/
def processSurfaceCmds (_len : Nat) : Parser Nat := do
  let _cmdFlags ← inInt32Le
  skip 4
  return 0

/-- `XR_CODEC_GUID_NSCODEC`, `XR_CODEC_GUID_REMOTEFX`, `XR_CODEC_GUID_JPEG` and `XR_CODEC_GUID_H264`. -/
inductive CodecGuid where
  | nscodec
  | remotefx
  | jpeg
  | h264
  deriving DecidableEq, Repr

def CodecGuid.bytes : CodecGuid → List UInt8
  | .nscodec => [0xb9, 0x1b, 0x8d, 0xca, 0x0f, 0x00, 0x4f, 0x15, 0x58, 0x9f, 0xae, 0x2d, 0x1a, 0x87, 0xe2, 0xd6]
  | .remotefx => [0x12, 0x2f, 0x77, 0x76, 0x72, 0xbd, 0x63, 0x44, 0xaf, 0xb3, 0xb7, 0x3c, 0x9c, 0x6f, 0x78, 0x86]
  | .jpeg => [0xe6, 0x4c, 0xaf, 0x1b, 0xed, 0x9e, 0x0c, 0x43, 0x86, 0x9a, 0xcb, 0x8b, 0x37, 0xb6, 0x62, 0x37]
  | .h264 => [0x48, 0x32, 0x36, 0x34, 0x00, 0x00, 0x10, 0x00, 0x80, 0x00, 0x00, 0xaa, 0x00, 0x38, 0x9b, 0x71]

/-- The codec of a GUID, in the order of the comparisons. -/
def CodecGuid.find (guid : List UInt8) : Option CodecGuid :=
  [CodecGuid.nscodec, .remotefx, .jpeg, .h264].find? fun codec => guid == codec.bytes

/-- The requested quality, which is 75 if it is not between 0 and 100. -/
def jpegQuality (prop : List UInt8) : List UInt8 :=
  let quality := ((prop.getD 0 0).toNat : Int).bmod (2 ^ 8)
  if quality < 0 ∨ quality > 100 then prop.set 0 75 else prop

/-- The identifier and the properties of a codec, which are copied over the old ones. -/
def setCodec (codec : CodecGuid) (codecId : Nat) (prop : List UInt8) (ci : ClientInfo) : ClientInfo :=
  match codec with
  | .nscodec =>
    { ci with nsCodecId := codecId, nsProp := prop ++ ci.nsProp.drop prop.length, nsPropLen := prop.length }
  | .remotefx =>
    { ci with rfxCodecId := codecId, rfxProp := prop ++ ci.rfxProp.drop prop.length, rfxPropLen := prop.length }
  | .jpeg =>
    { ci with
      jpegCodecId := codecId
      jpegProp := jpegQuality (prop ++ ci.jpegProp.drop prop.length)
      jpegPropLen := prop.length }
  | .h264 =>
    { ci with h264CodecId := codecId, h264Prop := prop ++ ci.h264Prop.drop prop.length, h264PropLen := prop.length }

/-- What is done for a codec with properties from `here` on. -/
def processCodec (codecGuid codecId propertiesLength here : Nat) : Parser Unit := do
  let guid ← peek codecGuid 16
  match CodecGuid.find guid with
  | some codec =>
    let prop ← peek here (min 64 propertiesLength)
    update (setCodec codec codecId prop)
  | none => return ()

/-- The loop of `xrdp_caps_process_codecs`. -/
def codecsLoop : Nat → Nat → Parser Nat
  | 0, _ => return 0
  | count + 1, len => do
    let codecGuid ← place
    if len < 16 + 1 + 2 then return 1
    else
      skip 16
      let codecId ← le 1
      let propertiesLength ← le 2
      if len - (16 + 1 + 2) < propertiesLength then return 1
      else
        let here ← place
        processCodec codecGuid codecId propertiesLength here
        goto (here + propertiesLength)
        codecsLoop count (len - (16 + 1 + 2) - propertiesLength)

/-- `xrdp_caps_process_codecs`. -/
def processCodecs (len : Nat) : Parser Nat :=
  if len < 1 then return 1
  else do
    let codecCount ← le 1
    codecsLoop codecCount (len - 1)

/-- The `switch` of `xrdp_caps_process_confirm_active`. -/
def processSet (type len : Nat) : Parser Nat :=
  match type with
  | 0x01 => processGeneral len
  | 0x03 => processOrder len
  | 0x04 => processBmpcache len
  | 0x06 => processCacheV3CodecId len
  | 0x08 => processPointer len
  | 0x0d => processInput len
  | 0x0f => processBrushcache len
  | 0x10 => processGlyphcache len
  | 0x11 => processOffscreenBmpcache len
  | 0x13 => processBmpcache2 len
  | 0x17 => processRail len
  | 0x18 => processWindow len
  | 0x1a => processMultifragmentupdate len
  | 0x1c => processSurfaceCmds len
  | 0x1d => processCodecs len
  | 0x1e => processFrameAck len
  | _ => return 0

/-! ## The PDU -/

/-- A call of a parser: where its set begins behind the header, how long it is, what the parser returned and has
read, and `client_info` before and after. -/
structure Call where
  p : Nat
  len : Nat
  ret : Nat
  reads : List Nat
  before : ClientInfo
  after : ClientInfo

/-- `s_check_rem`, in a stream that ends at `end_`. -/
def checkRem (end_ p n : Nat) : Prop := p + n ≤ end_

instance (end_ p n : Nat) : Decidable (checkRem end_ p n) := by
  unfold checkRem
  infer_instance

/-- The loop of `xrdp_caps_process_confirm_active`. -/
def setLoop (end_ : Nat) : Nat → Scan ClientInfo → Nat × Scan ClientInfo × List Call
  | 0, s => (0, s, [])
  | n + 1, s =>
    if ¬ checkRem end_ s.p 4 then (1, s, [])
    else
      let type := le 2 s
      let len := le 2 type.2
      if len.1 < 4 ∨ ¬ checkRem end_ len.2.p (len.1 - 4) then (1, len.2, [])
      else
        let r := processSet type.1 (len.1 - 4) len.2
        let call : Call :=
          { p := len.2.p
            len := len.1 - 4
            ret := r.1
            reads := r.2.reads.drop len.2.reads.length
            before := len.2.st
            after := r.2.st }
        let rest := setLoop end_ n { r.2 with p := s.p + len.1 }
        (rest.1, rest.2.1, call :: rest.2.2)

/-- Where the client does not support enough orders there are no offscreen bitmaps. -/
def noOffscreen (ci : ClientInfo) : ClientInfo :=
  if ci.noOrdersSupported ≠ 0 ∧ ci.offscreenSupportLevel ≠ 0 then
    { ci with offscreenSupportLevel := 0, offscreenCacheSize := 0, offscreenCacheEntries := 0 }
  else ci

/-- The header of the PDU, up to the number of sets. -/
def header : Parser (Nat × Nat) := do
  skip 4
  skip 2
  let sourceLen ← le 2
  let capLen ← le 2
  skip sourceLen
  let numCaps ← le 2
  skip 2
  return (capLen, numCaps)

/-- What comes of a PDU. -/
structure Outcome where
  ret : Nat
  clientInfo : ClientInfo
  reads : List Nat
  calls : List Call

/-- `xrdp_caps_process_confirm_active` of the bytes of `mem` up to `end_`. -/
def confirmActive (mem : Nat → UInt8) (end_ : Nat) (ci : ClientInfo) : Outcome :=
  let r := header { st := ci, mem := mem, p := 0, reads := [] }
  if r.1.1 > 1024 * 1024 then { ret := 1, clientInfo := ci, reads := r.2.reads, calls := [] }
  else
    let l := setLoop end_ r.1.2 r.2
    { ret := l.1
      clientInfo := if l.1 = 0 then noOffscreen l.2.1.st else l.2.1.st
      reads := l.2.1.reads
      calls := l.2.2 }

/-! ## What is promised -/

/-- The fields that are used as bounds. -/
structure Bounded (ci : ClientInfo) : Prop where
  cache1 : 0 ≤ ci.cache1Entries ∧ ci.cache1Entries ≤ maxBitmapCacheIdx
  cache2 : 0 ≤ ci.cache2Entries ∧ ci.cache2Entries ≤ maxBitmapCacheIdx
  cache3 : 0 ≤ ci.cache3Entries ∧ ci.cache3Entries ≤ maxBitmapCacheIdx
  pointer : ci.pointerCacheEntries ≤ 32
  rfx : ci.rfxPropLen ≤ 64
  ns : ci.nsPropLen ≤ 64
  jpeg : ci.jpegPropLen ≤ 64
  h264 : ci.h264PropLen ≤ 64

/-- A parser reads only bytes of its set, or it reports an error and leaves `client_info` alone. -/
def Call.Right (c : Call) : Prop :=
  (∀ i ∈ c.reads, c.p ≤ i ∧ i < c.p + c.len) ∨ c.ret ≠ 0 ∧ c.after = c.before

/-- Nothing behind the end of the stream is read, all parsers are right, and after a success the bounds hold, if
they held before. -/
structure Right (mem : Nat → UInt8) (end_ : Nat) (ci : ClientInfo) : Prop where
  inside : ∀ i ∈ (confirmActive mem end_ ci).reads, i < end_
  calls : ∀ c ∈ (confirmActive mem end_ ci).calls, c.Right
  bounded : Bounded ci → (confirmActive mem end_ ci).ret = 0 → Bounded (confirmActive mem end_ ci).clientInfo

/-! ## When it holds -/

/-- The shortest set of a kind of which the parser does not look at the length. -/
def shortest (type : Nat) : Nat :=
  match type with
  | 0x0d => 2
  | 0x1a | 0x1c | 0x1e => 4
  | _ => 0

/-- The sets that a parser is called for, with what is behind their headers. -/
def sets (mem : Nat → UInt8) (end_ : Nat) : Nat → Nat → List (Nat × Nat)
  | 0, _ => []
  | n + 1, p =>
    let len := value mem (p + 2) 2
    if p + 4 ≤ end_ ∧ 4 ≤ len ∧ p + len ≤ end_ then (value mem p 2, len - 4) :: sets mem end_ n (p + len) else []

/-- The header is complete, and no set is too short for a parser that does not look at the length. -/
def Fits (mem : Nat → UInt8) (end_ : Nat) : Prop :=
  10 ≤ end_ ∧ 12 + value mem 6 2 ≤ end_ ∧
    ∀ set ∈ sets mem end_ (value mem (10 + value mem 6 2) 2) (14 + value mem 6 2), shortest set.1 ≤ set.2

/-! ## What the parsers read -/

theorem clampEntries_bounds (i : Int) : 0 ≤ clampEntries i ∧ clampEntries i ≤ maxBitmapCacheIdx := by
  unfold clampEntries maxBitmapCacheIdx
  omega

theorem uses_inInt32Le : Uses Bounded 4 inInt32Le := by
  unfold inInt32Le
  exact (uses_le.bind fun _ => .pure).mono (Nat.le_refl 4)

section

variable {len : Nat}

theorem uses_general : Uses Bounded len (processGeneral len) :=
  .guard fun hlen =>
    (uses_le.bind fun _ => uses_le.bind fun _ => uses_skip.bind fun _ => uses_le.bind fun _ =>
      (uses_update fun _ h => ⟨h.1, h.2, h.3, h.4, h.5, h.6, h.7, h.8⟩).bind fun _ => .pure).mono (by omega)

theorem uses_order : Uses Bounded len (processOrder len) :=
  .guard fun hlen =>
    (uses_skip.bind fun _ => uses_le.bind fun _ => uses_bytes.bind fun _ => uses_skip.bind fun _ =>
      uses_le.bind fun _ => uses_skip.bind fun _ => uses_inInt32Le.bind fun _ => uses_skip.bind fun _ =>
        (uses_update fun _ h => ⟨h.1, h.2, h.3, h.4, h.5, h.6, h.7, h.8⟩).bind fun _ => .pure).mono (by omega)

theorem uses_bmpcache : Uses Bounded len (processBmpcache len) :=
  .guard fun hlen =>
    (uses_skip.bind fun _ => uses_le.bind fun _ => uses_le.bind fun _ => uses_le.bind fun _ => uses_le.bind fun _ =>
      uses_le.bind fun _ => uses_le.bind fun _ => (uses_update fun _ h =>
        ⟨clampEntries_bounds _, clampEntries_bounds _, clampEntries_bounds _, h.4, h.5, h.6, h.7, h.8⟩).bind
          fun _ => .pure).mono (by omega)

theorem uses_bmpcache2 : Uses Bounded len (processBmpcache2 len) :=
  .guard fun hlen =>
    (uses_le.bind fun _ => uses_skip.bind fun _ => uses_inInt32Le.bind fun _ => uses_inInt32Le.bind fun _ =>
      uses_inInt32Le.bind fun _ => (uses_update fun _ h =>
        ⟨clampEntries_bounds _, clampEntries_bounds _, clampEntries_bounds _, h.4, h.5, h.6, h.7, h.8⟩).bind
          fun _ => .pure).mono (by omega)

theorem uses_cacheV3CodecId : Uses Bounded len (processCacheV3CodecId len) :=
  .guard fun hlen =>
    (uses_le.bind fun _ => (uses_update fun _ h => ⟨h.1, h.2, h.3, h.4, h.5, h.6, h.7, h.8⟩).bind
      fun _ => .pure).mono (by omega)

theorem uses_pointerEntries : Uses Bounded 2 pointerEntries := by
  have hentries : ∀ i : Int, Uses Bounded 0 (update fun ci : ClientInfo => { ci with pointerCacheEntries := min i 32 }) :=
    fun i => uses_update fun _ h => ⟨h.1, h.2, h.3, Int.min_le_right i 32, h.5, h.6, h.7, h.8⟩
  unfold pointerEntries
  exact uses_le.bind fun _ => hentries _

theorem uses_pointer : Uses Bounded len (processPointer len) := by
  have hcolor : ∀ flag : Nat, Uses Bounded 2 (if flag &&& 1 ≠ 0 then pointerEntries else return ()) :=
    fun _ => .ite (fun _ => uses_pointerEntries) fun _ => Uses.pure.mono (Nat.zero_le 2)
  refine .guard fun hlen => (Uses.mono (n := 0 + (2 + (0 + (2 + (2 + (0 + 0)))))) ?_ (by omega))
  refine uses_state.bind fun ci => uses_le.bind fun flag => ?_
  refine (uses_update fun _ h => ⟨h.1, h.2, h.3, h.4, h.5, h.6, h.7, h.8⟩).bind fun _ => ?_
  refine uses_pointerEntries.bind fun _ => (hcolor flag).bind fun _ => ?_
  exact (uses_update fun _ h => ⟨h.1, h.2, h.3, h.4, h.5, h.6, h.7, h.8⟩).bind fun _ => .pure

theorem uses_brushcache : Uses Bounded len (processBrushcache len) :=
  .guard fun hlen =>
    (uses_inInt32Le.bind fun _ => (uses_update fun _ h => ⟨h.1, h.2, h.3, h.4, h.5, h.6, h.7, h.8⟩).bind
      fun _ => .pure).mono (by omega)

theorem uses_glyphcache : Uses Bounded len (processGlyphcache len) :=
  .guard fun hlen =>
    (uses_skip.bind fun _ => uses_le.bind fun _ => uses_skip.bind fun _ =>
      (uses_update fun _ h => ⟨h.1, h.2, h.3, h.4, h.5, h.6, h.7, h.8⟩).bind fun _ => .pure).mono (by omega)

theorem uses_offscreenBmpcache : Uses Bounded len (processOffscreenBmpcache len) :=
  .guard fun hlen =>
    (uses_inInt32Le.bind fun _ => uses_le.bind fun _ => uses_le.bind fun _ =>
      (uses_update fun _ h => ⟨h.1, h.2, h.3, h.4, h.5, h.6, h.7, h.8⟩).bind fun _ => .pure).mono (by omega)

theorem uses_rail : Uses Bounded len (processRail len) :=
  .guard fun hlen =>
    (uses_inInt32Le.bind fun _ => (uses_update fun _ h => ⟨h.1, h.2, h.3, h.4, h.5, h.6, h.7, h.8⟩).bind
      fun _ => .pure).mono (by omega)

theorem uses_window : Uses Bounded len (processWindow len) :=
  .guard fun hlen =>
    (uses_inInt32Le.bind fun _ => uses_le.bind fun _ => uses_le.bind fun _ =>
      (uses_update fun _ h => ⟨h.1, h.2, h.3, h.4, h.5, h.6, h.7, h.8⟩).bind fun _ => .pure).mono (by omega)

/-! The parsers that do not look at the length. -/

theorem uses_input : Uses Bounded 2 (processInput len) :=
  uses_le.bind fun _ => (uses_update fun _ h => ⟨h.1, h.2, h.3, h.4, h.5, h.6, h.7, h.8⟩).bind fun _ => .pure

theorem uses_multifragmentupdate : Uses Bounded 4 (processMultifragmentupdate len) :=
  uses_inInt32Le.bind fun _ =>
    (uses_update fun _ h => ⟨h.1, h.2, h.3, h.4, h.5, h.6, h.7, h.8⟩).bind fun _ => .pure

theorem uses_frameAck : Uses Bounded 4 (processFrameAck len) := by
  unfold processFrameAck
  exact ((uses_update fun _ h => ⟨h.1, h.2, h.3, h.4, h.5, h.6, h.7, h.8⟩).bind fun _ => uses_inInt32Le.bind fun _ =>
    (uses_update fun _ h => ⟨h.1, h.2, h.3, h.4, h.5, h.6, h.7, h.8⟩).bind fun _ => .pure).mono (Nat.le_refl 4)

/-- The last four bytes are not read. -/
theorem used_surfaceCmds (s : Scan ClientInfo) : Used Bounded 4 s { (processSurfaceCmds len s).2 with p := s.p } := by
  have hread := uses_inInt32Le s
  exact hread.goto (Nat.le_refl _) (Nat.le_add_right _ _)

/-! The codecs, with the GUID that is read after what follows it. -/

theorem setCodec_bounded (codec : CodecGuid) (codecId : Nat) {prop : List UInt8} (hprop : prop.length ≤ 64)
    {ci : ClientInfo} (h : Bounded ci) : Bounded (setCodec codec codecId prop ci) := by
  cases codec with
  | nscodec => exact ⟨h.1, h.2, h.3, h.4, h.5, hprop, h.7, h.8⟩
  | remotefx => exact ⟨h.1, h.2, h.3, h.4, hprop, h.6, h.7, h.8⟩
  | jpeg => exact ⟨h.1, h.2, h.3, h.4, h.5, h.6, hprop, h.8⟩
  | h264 => exact ⟨h.1, h.2, h.3, h.4, h.5, h.6, h.7, hprop⟩

theorem used_codec {n codecGuid codecId propertiesLength here : Nat} {s s' : Scan ClientInfo}
    (h : Used Bounded n s s') (hguid : s.p ≤ codecGuid ∧ codecGuid + 16 ≤ s.p + n)
    (hprop : s.p ≤ here ∧ here + propertiesLength ≤ s.p + n) :
    Used Bounded n s (processCodec codecGuid codecId propertiesLength here s').2 := by
  have hpeek := h.peek hguid.1 hguid.2
  have hrun : ∀ r, CodecGuid.find ((List.range' codecGuid 16).map s'.mem) = r →
      processCodec codecGuid codecId propertiesLength here s' = (match r with
        | some codec => (do
            let prop ← peek here (min 64 propertiesLength)
            update (setCodec codec codecId prop) : Parser Unit)
        | none => (return () : Parser Unit)) (peek codecGuid 16 s').2 := by
    rintro _ rfl
    rfl
  cases hfind : CodecGuid.find ((List.range' codecGuid 16).map s'.mem) with
  | none =>
    rw [hrun none hfind]
    exact hpeek
  | some codec =>
    rw [hrun (some codec) hfind]
    exact (hpeek.peek hprop.1 (by omega)).update (setCodec_bounded codec codecId (by rw [List.length_map, List.length_range']; omega))

theorem uses_codecsLoop (count : Nat) : Uses Bounded len (codecsLoop count len) := by
  induction count generalizing len with
  | zero => exact Uses.pure.mono (Nat.zero_le len)
  | succ count ih =>
    intro s
    rw [codecsLoop, place_bind]
    by_cases hlen : len < 16 + 1 + 2
    · rw [if_pos hlen]
      exact .rfl
    · rw [if_neg hlen, skip_bind, le_bind, le_bind]
      -- behind the identifier and the length of the properties
      have hfields : Used Bounded 19 s (le 2 (le 1 (skip 16 s).2).2).2 :=
        ((uses_skip (n := 16) s).trans (uses_le (n := 1) _)).trans (uses_le (n := 2) _)
      have hplace : (le 2 (le 1 (skip 16 s).2).2).2.p = s.p + 19 := rfl
      generalize (le 2 (le 1 (skip 16 s).2).2).2 = s₁ at hfields hplace ⊢
      generalize value (le 1 (skip 16 s).2).2.mem (le 1 (skip 16 s).2).2.p 2 = propertiesLength
      generalize value (skip 16 s).2.mem (skip 16 s).2.p 1 = codecId
      by_cases hproperties : len - (16 + 1 + 2) < propertiesLength
      · rw [if_pos hproperties]
        exact hfields.mono (by omega)
      · rw [if_neg hproperties, place_bind, bind_unit, bind_unit, hplace]
        have hcodec := @used_codec _ s.p codecId propertiesLength (s.p + 19) _ _
          (hfields.mono (Nat.le_add_right 19 propertiesLength)) (by omega) (by omega)
        have hnext := hcodec.goto (p := s.p + 19 + propertiesLength) (by omega) (by omega)
        exact (hnext.trans (ih _)).mono (by omega)

theorem uses_codecs : Uses Bounded len (processCodecs len) :=
  .guard fun hlen => (uses_le.bind fun _ => uses_codecsLoop _).mono (by omega)

end

/-- **What a parser reads is in its set, or in the shortest set of its kind.** -/
theorem used_set (type len : Nat) (s : Scan ClientInfo) :
    Used Bounded (max len (shortest type)) s { (processSet type len s).2 with p := s.p } := by
  have hset : ∀ m : Parser Nat, Uses Bounded len m →
      Used Bounded (max len (shortest type)) s { (m s).2 with p := s.p } :=
    fun m hm => ((hm s).mono (Nat.le_max_left _ _)).goto (Nat.le_refl _) (Nat.le_add_right _ _)
  have hshort : ∀ (m : Parser Nat) n, Uses Bounded n m → n ≤ shortest type →
      Used Bounded (max len (shortest type)) s { (m s).2 with p := s.p } :=
    fun m n hm hn => ((hm s).mono (by omega)).goto (Nat.le_refl _) (Nat.le_add_right _ _)
  unfold processSet
  split
  · exact hset _ uses_general
  · exact hset _ uses_order
  · exact hset _ uses_bmpcache
  · exact hset _ uses_cacheV3CodecId
  · exact hset _ uses_pointer
  · exact hshort _ 2 uses_input (Nat.le_refl 2)
  · exact hset _ uses_brushcache
  · exact hset _ uses_glyphcache
  · exact hset _ uses_offscreenBmpcache
  · exact hset _ uses_bmpcache2
  · exact hset _ uses_rail
  · exact hset _ uses_window
  · exact hshort _ 4 uses_multifragmentupdate (Nat.le_refl 4)
  · exact (used_surfaceCmds s).mono (Nat.le_max_right _ _)
  · exact hset _ uses_codecs
  · exact hshort _ 4 uses_frameAck (Nat.le_refl 4)
  · exact .rfl

/-- A set that is too short for its parser: the byte behind it is read, and no error reported. -/
theorem read_behind {type len : Nat} (h : len < shortest type) (s : Scan ClientInfo) :
    (processSet type len s).1 = 0 ∧ (processSet type len s).2.reads = s.reads ++ List.range' s.p (shortest type) := by
  unfold processSet
  unfold shortest at h ⊢
  split at h
  all_goals first | exact ⟨rfl, rfl⟩ | exact absurd h (Nat.not_lt_zero len)

/-! ## The loop -/

/-- What comes of the loop from a place of the stream on. -/
structure Looped (end_ : Nat) (s : Scan ClientInfo) (ss : List (Nat × Nat))
    (r : Nat × Scan ClientInfo × List Call) : Prop where
  calls : (∀ c ∈ r.2.2, c.Right) ↔ ∀ set ∈ ss, shortest set.1 ≤ set.2
  inside : (∀ set ∈ ss, shortest set.1 ≤ set.2) → ∃ new, r.2.1.reads = s.reads ++ new ∧ ∀ i ∈ new, i < end_
  bounded : Bounded s.st → Bounded r.2.1.st

/-- A call of a parser is right just if its set is long enough. -/
theorem call_right_iff (type len : Nat) (s : Scan ClientInfo) :
    Call.Right
      { p := s.p, len := len, ret := (processSet type len s).1,
        reads := (processSet type len s).2.reads.drop s.reads.length, before := s.st,
        after := (processSet type len s).2.st } ↔ shortest type ≤ len := by
  constructor
  · intro h
    by_contra hshort
    obtain ⟨hret, hreads⟩ := read_behind (Nat.lt_of_not_le hshort) s
    rcases h with hin | ⟨hne, -⟩
    · dsimp only at hin
      rw [hreads, List.drop_left] at hin
      have hbehind := hin (s.p + len) (List.mem_range'_1.2 (by omega))
      omega
    · exact hne hret
  · intro hlong
    have hused := used_set type len s
    rw [Nat.max_eq_left hlong] at hused
    obtain ⟨new, hnew, hin⟩ := hused.reads
    left
    dsimp only at hnew ⊢
    rwa [hnew, List.drop_left]

theorem setLoop_spec (end_ n : Nat) (s : Scan ClientInfo) :
    Looped end_ s (sets s.mem end_ n s.p) (setLoop end_ n s) := by
  induction n generalizing s with
  | zero => exact ⟨by simp [setLoop, sets], fun _ => ⟨[], (List.append_nil _).symm, fun _ h => nomatch h⟩, id⟩
  | succ n ih =>
    rw [setLoop, sets]
    by_cases hhead : s.p + 4 ≤ end_
    · -- the header of the set
      have hfields : Used Bounded 4 s (le 2 (le 2 s).2).2 := (uses_le (n := 2) s).trans (uses_le (n := 2) _)
      have hplace : (le 2 (le 2 s).2).2.p = s.p + 4 := rfl
      have htype : (le 2 s).1 = value s.mem s.p 2 := rfl
      have hlen : (le 2 (le 2 s).2).1 = value s.mem (s.p + 2) 2 := rfl
      rw [if_neg (not_not.2 (show checkRem end_ s.p 4 from hhead))]
      dsimp only
      rw [hlen, htype, hplace]
      generalize (le 2 (le 2 s).2).2 = s₁ at hfields hplace ⊢
      generalize value s.mem (s.p + 2) 2 = len
      generalize value s.mem s.p 2 = type
      obtain ⟨new, hnew, hin⟩ := hfields.reads
      have hinside : ∀ i ∈ new, i < end_ := fun i hi => Nat.lt_of_lt_of_le (hin i hi).2 hhead
      by_cases hset : 4 ≤ len ∧ s.p + len ≤ end_
      · have hgood : ¬ (len < 4 ∨ ¬ checkRem end_ (s.p + 4) (len - 4)) := by
          unfold checkRem
          omega
        rw [if_neg hgood, if_pos ⟨hhead, hset⟩]
        have hused := used_set type (len - 4) s₁
        have hrest := ih { (processSet type (len - 4) s₁).2 with p := s.p + len }
        have hmem : (processSet type (len - 4) s₁).2.mem = s.mem := hused.mem.trans hfields.mem
        have hcall := call_right_iff type (len - 4) s₁
        rw [hplace] at hcall
        dsimp only at hrest
        rw [← hmem]
        constructor
        · rw [List.forall_mem_cons, List.forall_mem_cons, ← hrest.calls, ← hcall]
        · intro hfits
          rw [List.forall_mem_cons] at hfits
          obtain ⟨new', hnew', hin'⟩ := hused.reads
          obtain ⟨new'', hnew'', hin''⟩ := hrest.inside hfits.2
          dsimp only at hnew' hnew'' ⊢
          refine ⟨new ++ new' ++ new'', by rw [hnew'', hnew', hnew, List.append_assoc, List.append_assoc,
            List.append_assoc], fun i hi => ?_⟩
          rw [List.mem_append, List.mem_append] at hi
          rcases hi with (hi | hi) | hi
          · exact hinside i hi
          · have hi := (hin' i hi).2
            rw [Nat.max_eq_left hfits.1, hplace] at hi
            omega
          · exact hin'' i hi
        · exact fun h => hrest.bounded (hused.inv (hfields.inv h))
      · have hbad : len < 4 ∨ ¬ checkRem end_ (s.p + 4) (len - 4) := by
          unfold checkRem
          omega
        rw [if_pos hbad, if_neg (fun h => hset h.2)]
        exact ⟨by simp, fun _ => ⟨new, hnew, hinside⟩, hfields.inv⟩
    · rw [if_pos (show ¬ checkRem end_ s.p 4 from hhead), if_neg (fun h => hhead h.1)]
      exact ⟨by simp, fun _ => ⟨[], (List.append_nil _).symm, fun _ h => nomatch h⟩, id⟩

/-! ## The PDU -/

theorem bounded_noOffscreen {ci : ClientInfo} (h : Bounded ci) : Bounded (noOffscreen ci) := by
  unfold noOffscreen
  split_ifs
  · exact ⟨h.1, h.2, h.3, h.4, h.5, h.6, h.7, h.8⟩
  · exact h

theorem value_lt (mem : Nat → UInt8) (p n : Nat) : value mem p n < 256 ^ n := by
  induction n generalizing p with
  | zero => exact Nat.one_pos
  | succ n ih =>
    have hbyte := (mem p).toNat_lt
    have hrest := ih (p + 1)
    rw [value, Nat.pow_succ]
    omega

/-- The header, and what comes of the loop behind it. -/
theorem confirmActive_looped (mem : Nat → UInt8) (end_ : Nat) (ci : ClientInfo) : ∃ s l,
    s.reads = List.range' 6 2 ++ List.range' 8 2 ++ List.range' (10 + value mem 6 2) 2 ∧ s.st = ci ∧
      Looped end_ s (sets mem end_ (value mem (10 + value mem 6 2) 2) (14 + value mem 6 2)) l ∧
      confirmActive mem end_ ci =
        { ret := l.1
          clientInfo := if l.1 = 0 then noOffscreen l.2.1.st else l.2.1.st
          reads := l.2.1.reads
          calls := l.2.2 } := by
  have hsmall : ¬ (header { st := ci, mem := mem, p := 0, reads := [] }).1.1 > 1024 * 1024 := by
    have hlt := value_lt mem 8 2
    show ¬ value mem 8 2 > 1024 * 1024
    omega
  have hplace : (header { st := ci, mem := mem, p := 0, reads := [] }).2.p = 14 + value mem 6 2 := by
    show 0 + 4 + 2 + 2 + 2 + value mem 6 2 + 2 + 2 = _
    omega
  have hloop := setLoop_spec end_ (value mem (10 + value mem 6 2) 2)
    (header { st := ci, mem := mem, p := 0, reads := [] }).2
  rw [hplace] at hloop
  exact ⟨_, _, rfl, rfl, hloop, if_neg hsmall⟩

/-- **A confirm active PDU is read as it should be, just if its header is complete, and no set of input flags,
multifragment update, surface commands or frame acknowledgement is too short.** -/
theorem confirm_active_right_iff (mem : Nat → UInt8) (end_ : Nat) (ci : ClientInfo) :
    Right mem end_ ci ↔ Fits mem end_ := by
  obtain ⟨s, l, hreads, hst, hloop, hrun⟩ := confirmActive_looped mem end_ ci
  have hheader : ∀ i, i ∈ s.reads ↔ 6 ≤ i ∧ i < 10 ∨ 10 + value mem 6 2 ≤ i ∧ i < 12 + value mem 6 2 := by
    intro i
    rw [hreads, List.mem_append, List.mem_append, List.mem_range'_1, List.mem_range'_1, List.mem_range'_1]
    omega
  constructor
  · rintro ⟨hinside, hcalls, -⟩
    rw [hrun] at hinside hcalls
    have hsets := hloop.calls.1 hcalls
    obtain ⟨new, hnew, -⟩ := hloop.inside hsets
    dsimp only at hinside
    have hin : ∀ i ∈ s.reads, i < end_ := fun i hi => hinside i (by rw [hnew]; exact List.mem_append_left _ hi)
    have hfirst := hin 9 ((hheader 9).2 (by omega))
    have hsecond := hin (11 + value mem 6 2) ((hheader _).2 (by omega))
    exact ⟨hfirst, by omega, hsets⟩
  · rintro ⟨hfirst, hsecond, hsets⟩
    obtain ⟨new, hnew, hin⟩ := hloop.inside hsets
    refine ⟨fun i hi => ?_, ?_, fun hci hret => ?_⟩
    · rw [hrun] at hi
      dsimp only at hi
      rw [hnew, List.mem_append, hheader] at hi
      rcases hi with hi | hi
      · omega
      · exact hin i hi
    · rw [hrun]
      exact hloop.calls.2 hsets
    · have hbounded := hloop.bounded (hst ▸ hci)
      rw [hrun] at hret ⊢
      dsimp only at hret ⊢
      rw [if_pos hret]
      exact bounded_noOffscreen hbounded

/-- The bytes of a PDU. -/
def memory (bytes : List UInt8) : Nat → UInt8 := fun i => bytes.getD i 0

/-- A set of input flags without any, at the end of the stream. -/
theorem empty_input_not_right :
    ¬ Right (memory [0xea, 0x03, 1, 0, 0xea, 0x03, 0, 0, 8, 0, 1, 0, 0, 0, 0x0d, 0, 4, 0]) 18 .initial := by
  intro h
  have hinside := h.inside 18 (by decide +kernel)
  omega

end Xrdp.Caps
