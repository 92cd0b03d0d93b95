import Xrdp.Drdynvc.Channel

/-!
# The client's user data

`xrdp_sec_process_mcs_data` in `libxrdp/xrdp_sec.c` and the parsers of the blocks it meets.  A byte
that is read without a check at or beyond the end of the stream is `Stuck.outOfBounds`.

* `In` — readers, with a cursor in the stream.
* `xrdpSecProcessMcsDataCsCore`, `…CsSecurity`, `…Channels`, `…Monitors` — the parsers of blocks.
* `xrdpSecProcessMcsData` — the loop, with a record of the parsers it has called.
-/

namespace Xrdp.Gcc

open Wire
open Dvc (signed32)

/-! ## State -/

/-- `struct mcs_channel_item`. -/
structure McsChannelItem where
  name : List UInt8
  flags : Int
  chanid : Int

/-- `struct monitor_info`. -/
structure MonitorInfo where
  left : Int
  top : Int
  right : Int
  bottom : Int
  isPrimary : Int

/-- `struct xrdp_client_info`. -/
structure ClientInfo where
  width : Int
  height : Int
  bpp : Int
  maxBpp : Int
  mcsEarlyCapabilityFlags : Int
  mcsConnectionType : Int
  channelsAllowed : Int
  multimon : Int
  monitorCount : Int
  minfo : List MonitorInfo
  minfoWm : List MonitorInfo

/-- `struct xrdp_sec`, with the cursor of `client_mcs_data` and the list of channels. -/
structure Sec where
  p : Nat
  cryptMethod : Nat
  cryptLevel : Nat
  channelList : List McsChannelItem
  info : ClientInfo

/-- A reader of the stream. -/
abbrev In := StateT Sec Run

def modifyInfo (f : ClientInfo → ClientInfo) : In Unit :=
  fun self => .ok ((), { self with info := f self.info })

/-- `in_uint8s`. -/
def inUint8s (n : Nat) : In Unit := fun self => .ok ((), { self with p := self.p + n })

/-- The little-endian value of `n` bytes. -/
def leAt (data : List UInt8) (i n : Nat) : Nat := ((getLe n (data.drop i)).map (·.1)).getD 0

/-- An `int`. -/
def int (v : Int) : Int := v.bmod (2 ^ 32)

def INFO_CLIENT_NAME_BYTES : Nat := 32

section

variable (data : List UInt8)

/-- `in_uint8`, `in_uint16_le` and `in_uint32_le`. -/
def inUintLe (n : Nat) : In Nat := fun self =>
  if self.p + n ≤ data.length then .ok (leAt data self.p n, { self with p := self.p + n })
  else .error .outOfBounds

/-- `in_uint32_le` to an `int`. -/
def inSint32Le : In Int := do
  let v ← inUintLe data 4
  pure (signed32 v)

/-- `in_uint8a`. -/
def inUint8a (n : Nat) : In (List UInt8) := fun self =>
  if self.p + n ≤ data.length then
    .ok ((data.drop self.p).take n, { self with p := self.p + n })
  else .error .outOfBounds

/-- What follows if `s_check_rem`, and otherwise a return. -/
def ifRem (n : Nat) (rv : Int) (k : In Int) : In Int := fun self =>
  if self.p + n ≤ data.length then k self else .ok (rv, self)

/-- The characters in `unicode_utf16_in`, the conversion of which has no effect here. -/
def utf16Chars : Nat → In Int
  | 0 => pure 0
  | n + 1 => ifRem data 2 1 do
    let _ ← inUintLe data 2
    utf16Chars n

/-- `unicode_utf16_in`. -/
def unicodeUtf16In (srcBytes : Nat) : In Int :=
  if srcBytes = 0 then ifRem data 2 1 do
    inUint8s 2
    pure 0
  else utf16Chars data ((srcBytes + 2) / 2)

/-! ## Core data -/

/-- The `switch` on `colorDepth`. -/
def bppOfColorDepth (colorDepth : Nat) (bpp : Int) : Int :=
  if colorDepth = 0xCA00 then 4 else if colorDepth = 0xCA01 then 8 else bpp

/-- The `switch` on `postBeta2ColorDepth`. -/
def bppOfPostBeta2ColorDepth (postBeta2ColorDepth : Nat) (bpp : Int) : Int :=
  if postBeta2ColorDepth = 0xCA00 then 4
  else if postBeta2ColorDepth = 0xCA01 then 8
  else if postBeta2ColorDepth = 0xCA02 then 15
  else if postBeta2ColorDepth = 0xCA03 then 16
  else if postBeta2ColorDepth = 0xCA04 then 24
  else bpp

/-- The end of `xrdp_sec_process_mcs_data_CS_CORE`, of which nothing is kept. -/
def csCoreRest : In Int := do
  ifRem data 1 0 do
  inUint8s 1 -- pad1octet
  ifRem data 4 0 do
  inUint8s 4 -- serverSelectedProtocol
  ifRem data 4 0 do
  inUint8s 4 -- desktopPhysicalWidth
  ifRem data 4 0 do
  inUint8s 4 -- desktopPhysicalHeight
  ifRem data 2 0 do
  inUint8s 2 -- reserved
  pure 0

/-- The optional fields in `xrdp_sec_process_mcs_data_CS_CORE`. -/
def csCoreOptional : In Int := do
  ifRem data 2 0 do
  inUint8s 2 -- clientProductId
  ifRem data 4 0 do
  inUint8s 4 -- serialNumber
  ifRem data 2 0 do
  let highColorDepth ← inUintLe data 2
  modifyInfo fun info => { info with bpp := highColorDepth }
  ifRem data 2 0 do
  let supportedColorDepths ← inUintLe data 2
  ifRem data 2 0 do
  let earlyCapabilityFlags ← inUintLe data 2
  modifyInfo fun info => { info with
    mcsEarlyCapabilityFlags := earlyCapabilityFlags
    bpp := if earlyCapabilityFlags &&& 2 ≠ 0 ∧ supportedColorDepths &&& 8 ≠ 0 then 32
      else info.bpp }
  ifRem data 64 0 do
  inUint8s 64 -- clientDigProductId
  ifRem data 1 0 do
  let connectionType ← inUintLe data 1
  modifyInfo fun info => { info with mcsConnectionType := connectionType }
  csCoreRest data

/-- The fields in `xrdp_sec_process_mcs_data_CS_CORE` behind the client's name. -/
def csCoreBehindName : In Int := do
  inUint8s 4 -- keyboardType
  inUint8s 4 -- keyboardSubType
  inUint8s 4 -- keyboardFunctionKey
  inUint8s 64 -- imeFileName
  let postBeta2ColorDepth ← inUintLe data 2
  modifyInfo fun info => { info with
    bpp := bppOfPostBeta2ColorDepth postBeta2ColorDepth info.bpp }
  csCoreOptional data

/-- `xrdp_sec_process_mcs_data_CS_CORE`. -/
def xrdpSecProcessMcsDataCsCore : In Int := do
  inUint8s 4 -- version
  let width ← inUintLe data 2
  let height ← inUintLe data 2
  let colorDepth ← inUintLe data 2
  modifyInfo fun info => { info with
    width, height, bpp := bppOfColorDepth colorDepth info.bpp }
  inUint8s 2 -- SASSequence
  inUint8s 4 -- keyboardLayout
  inUint8s 4 -- clientBuild
  let _ ← unicodeUtf16In data (INFO_CLIENT_NAME_BYTES - 2)
  csCoreBehindName data

/-! ## Security data -/

def CRYPT_METHOD_NONE : Nat := 0x00
def CRYPT_METHOD_40BIT : Nat := 0x01
def CRYPT_METHOD_128BIT : Nat := 0x02
def CRYPT_METHOD_FIPS : Nat := 0x10
def CRYPT_LEVEL_NONE : Nat := 0
def CRYPT_LEVEL_LOW : Nat := 1
def CRYPT_LEVEL_CLIENT_COMPATIBLE : Nat := 2
def CRYPT_LEVEL_HIGH : Nat := 3
def CRYPT_LEVEL_FIPS : Nat := 4

/-- The method and the level agreed upon; they stay as they are if there is no agreement. -/
def negotiate (cryptMethod cryptLevel client : Nat) : Nat × Nat :=
  let both (method : Nat) : Prop := cryptMethod &&& method ≠ 0 ∧ client &&& method ≠ 0
  if both CRYPT_METHOD_FIPS ∧ cryptLevel = CRYPT_LEVEL_FIPS then
    (CRYPT_METHOD_FIPS, CRYPT_LEVEL_FIPS)
  else if both CRYPT_METHOD_128BIT ∧ cryptLevel = CRYPT_LEVEL_HIGH then
    (CRYPT_METHOD_128BIT, CRYPT_LEVEL_HIGH)
  else if both CRYPT_METHOD_40BIT ∧ cryptLevel = CRYPT_LEVEL_CLIENT_COMPATIBLE then
    (CRYPT_METHOD_40BIT, CRYPT_LEVEL_CLIENT_COMPATIBLE)
  else if both CRYPT_METHOD_40BIT ∧ cryptLevel = CRYPT_LEVEL_LOW then
    (CRYPT_METHOD_40BIT, CRYPT_LEVEL_LOW)
  else if cryptLevel = CRYPT_LEVEL_NONE ∧ client = CRYPT_METHOD_NONE then
    (CRYPT_METHOD_NONE, CRYPT_LEVEL_NONE)
  else (cryptMethod, cryptLevel)

/-- `xrdp_sec_process_mcs_data_CS_SECURITY`. -/
def xrdpSecProcessMcsDataCsSecurity : In Int := do
  let client ← inUintLe data 4
  modify fun self =>
    let (cryptMethod, cryptLevel) := negotiate self.cryptMethod self.cryptLevel client
    { self with cryptMethod, cryptLevel }
  pure 0

/-! ## Network data -/

def MCS_GLOBAL_CHANNEL : Int := 1003

/-- The C string in a name. -/
def cString (name : List UInt8) : List UInt8 := name.takeWhile (· ≠ 0)

/-- The `index`-th channel is added, if it has a name. -/
def addChannel (name : List UInt8) (flags : Int) (index : Nat) : In Unit :=
  modify fun self =>
    if 0 < (cString name).length then
      { self with channelList :=
          self.channelList ++ [⟨cString name, flags, MCS_GLOBAL_CHANNEL + (index + 1)⟩] }
    else self

/-- The loop of `xrdp_sec_process_mcs_data_channels`, from the `index`-th channel on. -/
def channelsLoop : Nat → Nat → In Int
  | 0, _ => pure 0
  | n + 1, index => ifRem data 12 1 do
    let name ← inUint8a data 8
    let flags ← inSint32Le data
    addChannel name flags index
    channelsLoop n (index + 1)

/-- `xrdp_sec_process_mcs_data_channels`. -/
def xrdpSecProcessMcsDataChannels : In Int := do
  let self ← get
  if self.info.channelsAllowed = 0 then pure 0
  else ifRem data 4 1 do
    let numChannels ← inSint32Le data
    if numChannels > 31 then pure 1 else channelsLoop data numChannels.toNat 0

/-! ## Monitor data -/

/-- The first loop of `xrdp_sec_process_mcs_data_monitors`: what it reads. -/
def readMonitors : Nat → In (List MonitorInfo)
  | 0 => pure []
  | n + 1 => do
    let left ← inSint32Le data
    let top ← inSint32Le data
    let right ← inSint32Le data
    let bottom ← inSint32Le data
    let isPrimary ← inSint32Le data
    let minfo ← readMonitors n
    pure (⟨left, top, right, bottom, isPrimary⟩ :: minfo)

end

/-- The smallest rectangle around the monitors: `x1`, `y1`, `x2` and `y2`. -/
def bounds : List MonitorInfo → Int × Int × Int × Int
  | [] => (0, 0, 0, 0)
  | m :: minfo => minfo.foldl
    (fun (x1, y1, x2, y2) m => (min x1 m.left, min y1 m.top, max x2 m.right, max y2 m.bottom))
    (m.left, m.top, m.right, m.bottom)

/-- The leftmost monitor is the primary one if there is no other. -/
def choosePrimary (x1 y1 : Int) : List MonitorInfo → List MonitorInfo
  | [] => []
  | m :: minfo =>
    if m.left = x1 ∧ m.top = y1 then { m with isPrimary := 1 } :: minfo
    else m :: choosePrimary x1 y1 minfo

/-- The size of the desktop. -/
def desktopSize (info : ClientInfo) (minfo : List MonitorInfo) : Int × Int :=
  let (x1, y1, x2, y2) := bounds minfo
  if x2 > x1 ∧ y2 > y1 then (int (x2 - x1 + 1), int (y2 - y1 + 1)) else (info.width, info.height)

/-- The size of the desktop is too large, or too small. -/
def badDesktop (info : ClientInfo) (minfo : List MonitorInfo) : Prop :=
  (desktopSize info minfo).1 > 0x7FFE ∨ (desktopSize info minfo).1 < 0xC8 ∨
    (desktopSize info minfo).2 > 0x7FFE ∨ (desktopSize info minfo).2 < 0xC8

instance (info : ClientInfo) (minfo : List MonitorInfo) : Decidable (badDesktop info minfo) :=
  inferInstanceAs (Decidable (_ ∨ _ ∨ _ ∨ _))

/-- The rest of `xrdp_sec_process_mcs_data_monitors`, once the monitors have been read. -/
def takeMonitors (read : List MonitorInfo) : In Int := fun self =>
  let (x1, y1, _, _) := bounds read
  let minfo := if read.any (·.isPrimary ≠ 0) then read else choosePrimary x1 y1 read
  let (width, height) := desktopSize self.info read
  let info := { self.info with minfo, width, height }
  if badDesktop self.info read then .ok (1, { self with info })
  else
    let minfoWm := minfo.map fun m =>
      { m with
        left := int (m.left - x1), top := int (m.top - y1)
        right := int (m.right - x1), bottom := int (m.bottom - y1) }
    .ok (0, { self with info := { info with minfoWm } })

section

variable (data : List UInt8)

/-- `xrdp_sec_process_mcs_data_monitors`. -/
def xrdpSecProcessMcsDataMonitors : In Int := do
  let self ← get
  if self.info.multimon ≠ 1 then pure 0
  else do
    let flags ← inSint32Le data
    if flags ≠ 0 then pure 1
    else do
      let monitorCount ← inSint32Le data
      if monitorCount > 16 then pure 1
      else do
        modifyInfo fun info => { info with monitorCount }
        let minfo ← readMonitors data monitorCount.toNat
        takeMonitors minfo

/-! ## The loop -/

def SEC_TAG_CLI_INFO : Nat := 0xC001
def SEC_TAG_CLI_CRYPT : Nat := 0xC002
def SEC_TAG_CLI_CHANNELS : Nat := 0xC003
def SEC_TAG_CLI_MONITOR : Nat := 0xC005

/-- The `switch` on the tag. -/
def parseBlock (tag : Nat) : In Int :=
  if tag = SEC_TAG_CLI_INFO then xrdpSecProcessMcsDataCsCore data
  else if tag = SEC_TAG_CLI_CRYPT then xrdpSecProcessMcsDataCsSecurity data
  else if tag = SEC_TAG_CLI_CHANNELS then xrdpSecProcessMcsDataChannels data
  else if tag = SEC_TAG_CLI_MONITOR then xrdpSecProcessMcsDataMonitors data
  else pure 0

/-- A block that has been parsed: where it starts, where the cursor was then, and what the parser
has returned. -/
structure BlockCall where
  tag : Nat
  size : Nat
  holdP : Nat
  stop : Nat
  rv : Int

/-- The loop of `xrdp_sec_process_mcs_data`. -/
def mcsDataLoop : Nat → Sec → Run (Int × List BlockCall × Sec)
  | 0, _ => .error .outOfFuel
  | fuel + 1, self =>
    if self.p + 4 ≤ data.length then
      let holdP := self.p
      let tag := leAt data holdP 2
      let size := leAt data (holdP + 2) 2
      if size < 4 ∨ ¬ holdP + size ≤ data.length then .ok (0, [], { self with p := holdP + 4 })
      else do
        let (rv, self) ← parseBlock data tag { self with p := holdP + 4 }
        let call := ⟨tag, size, holdP, self.p, rv⟩
        if rv ≠ 0 then .ok (1, [call], self)
        else do
          let (rv, calls, self) ← mcsDataLoop fuel { self with p := holdP + size }
          .ok (rv, call :: calls, self)
    else .ok (0, [], self)

/-- `max_bpp`, if it is set. -/
def Sec.limitBpp (self : Sec) : Sec :=
  if self.info.maxBpp > 0 ∧ self.info.bpp > self.info.maxBpp then
    { self with info := { self.info with bpp := self.info.maxBpp } }
  else self

/-- `xrdp_sec_process_mcs_data`. -/
def xrdpSecProcessMcsData (self : Sec) : Run (Int × List BlockCall × Sec) :=
  if 23 ≤ data.length then do
    let (rv, calls, self) ← mcsDataLoop data data.length { self with p := 23 }
    if rv ≠ 0 then .ok (rv, calls, self) else .ok (0, calls, { self.limitBpp with p := 0 })
  else .ok (1, [], { self with p := 0 })

end

end Xrdp.Gcc
