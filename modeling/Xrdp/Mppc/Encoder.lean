import Xrdp.Memory

/-!
# The RDP 5.0 bulk compressor (`libxrdp/xrdp_mppc_enc.c`)

`compress_rdp_5` appends a packet to a 64K history, looks three-byte strings up in a hash table
of history positions and writes literals and back references as a bit string.  Buffers are
checked (`Xrdp.Memory`), so a run that would leave an allocation is `.error .outOfBounds`.

* `insert2Bits` … `insert16Bits` — the `insert_N_bits` macros, word for word.
* `mainLoop` — the `while (ctr < data_end)` loop; its fuel bounds the number of iterations.
* `compressRdp5`, `compressRdp` — one packet; `false` is the source's `return 0`.

`tui32` values that can wrap (`data_end`, `copy_offset`, the hash loop bound) carry their modulus;
`ctr` is a `Nat`, since a run that reaches a history position beyond the buffer is stuck long
before `ctr` could wrap.
-/

namespace Xrdp.Mppc

def RDP_40_HIST_BUF_LEN : Nat := 1024 * 8
def RDP_50_HIST_BUF_LEN : Nat := 1024 * 64

def PACKET_COMPRESSED : Nat := 0x20
def PACKET_AT_FRONT : Nat := 0x40
def PACKET_FLUSHED : Nat := 0x80
def PACKET_COMPR_TYPE_64K : Nat := 0x01

/-! ## CRC16 of a three-byte string -/

def CRC_INIT : UInt16 := 0xFFFF

def gCrcTable : Array UInt16 := #[
    0x0000, 0x1189, 0x2312, 0x329b, 0x4624, 0x57ad, 0x6536, 0x74bf,
    0x8c48, 0x9dc1, 0xaf5a, 0xbed3, 0xca6c, 0xdbe5, 0xe97e, 0xf8f7,
    0x1081, 0x0108, 0x3393, 0x221a, 0x56a5, 0x472c, 0x75b7, 0x643e,
    0x9cc9, 0x8d40, 0xbfdb, 0xae52, 0xdaed, 0xcb64, 0xf9ff, 0xe876,
    0x2102, 0x308b, 0x0210, 0x1399, 0x6726, 0x76af, 0x4434, 0x55bd,
    0xad4a, 0xbcc3, 0x8e58, 0x9fd1, 0xeb6e, 0xfae7, 0xc87c, 0xd9f5,
    0x3183, 0x200a, 0x1291, 0x0318, 0x77a7, 0x662e, 0x54b5, 0x453c,
    0xbdcb, 0xac42, 0x9ed9, 0x8f50, 0xfbef, 0xea66, 0xd8fd, 0xc974,
    0x4204, 0x538d, 0x6116, 0x709f, 0x0420, 0x15a9, 0x2732, 0x36bb,
    0xce4c, 0xdfc5, 0xed5e, 0xfcd7, 0x8868, 0x99e1, 0xab7a, 0xbaf3,
    0x5285, 0x430c, 0x7197, 0x601e, 0x14a1, 0x0528, 0x37b3, 0x263a,
    0xdecd, 0xcf44, 0xfddf, 0xec56, 0x98e9, 0x8960, 0xbbfb, 0xaa72,
    0x6306, 0x728f, 0x4014, 0x519d, 0x2522, 0x34ab, 0x0630, 0x17b9,
    0xef4e, 0xfec7, 0xcc5c, 0xddd5, 0xa96a, 0xb8e3, 0x8a78, 0x9bf1,
    0x7387, 0x620e, 0x5095, 0x411c, 0x35a3, 0x242a, 0x16b1, 0x0738,
    0xffcf, 0xee46, 0xdcdd, 0xcd54, 0xb9eb, 0xa862, 0x9af9, 0x8b70,
    0x8408, 0x9581, 0xa71a, 0xb693, 0xc22c, 0xd3a5, 0xe13e, 0xf0b7,
    0x0840, 0x19c9, 0x2b52, 0x3adb, 0x4e64, 0x5fed, 0x6d76, 0x7cff,
    0x9489, 0x8500, 0xb79b, 0xa612, 0xd2ad, 0xc324, 0xf1bf, 0xe036,
    0x18c1, 0x0948, 0x3bd3, 0x2a5a, 0x5ee5, 0x4f6c, 0x7df7, 0x6c7e,
    0xa50a, 0xb483, 0x8618, 0x9791, 0xe32e, 0xf2a7, 0xc03c, 0xd1b5,
    0x2942, 0x38cb, 0x0a50, 0x1bd9, 0x6f66, 0x7eef, 0x4c74, 0x5dfd,
    0xb58b, 0xa402, 0x9699, 0x8710, 0xf3af, 0xe226, 0xd0bd, 0xc134,
    0x39c3, 0x284a, 0x1ad1, 0x0b58, 0x7fe7, 0x6e6e, 0x5cf5, 0x4d7c,
    0xc60c, 0xd785, 0xe51e, 0xf497, 0x8028, 0x91a1, 0xa33a, 0xb2b3,
    0x4a44, 0x5bcd, 0x6956, 0x78df, 0x0c60, 0x1de9, 0x2f72, 0x3efb,
    0xd68d, 0xc704, 0xf59f, 0xe416, 0x90a9, 0x8120, 0xb3bb, 0xa232,
    0x5ac5, 0x4b4c, 0x79d7, 0x685e, 0x1ce1, 0x0d68, 0x3ff3, 0x2e7a,
    0xe70e, 0xf687, 0xc41c, 0xd595, 0xa12a, 0xb0a3, 0x8238, 0x93b1,
    0x6b46, 0x7acf, 0x4854, 0x59dd, 0x2d62, 0x3ceb, 0x0e70, 0x1ff9,
    0xf78f, 0xe606, 0xd49d, 0xc514, 0xb1ab, 0xa022, 0x92b9, 0x8330,
    0x7bc7, 0x6a4e, 0x58d5, 0x495c, 0x3de3, 0x2c6a, 0x1ef1, 0x0f78]

/-- `CRC(_crcval, _newchar)`. -/
def crc (crcval : UInt16) (newchar : UInt8) : UInt16 :=
  (crcval >>> 8) ^^^ gCrcTable[((crcval ^^^ newchar.toUInt16) &&& 0x00ff).toNat]!

/-! ## The bit writer -/

/-- `outputBuffer`, `opb_index` and `bits_left` of `compress_rdp_5`. -/
structure OutBits where
  outputBuffer : Buf UInt8
  opbIndex : Nat
  bitsLeft : Nat

/-- `outputBuffer[opb_index] |= x`. -/
def OutBits.put (o : OutBits) (x : Nat) : Run OutBits := do
  let buf ← o.outputBuffer.orByte o.opbIndex x
  return { o with outputBuffer := buf }

/-- `opb_index++`. -/
def OutBits.next (o : OutBits) : OutBits := { o with opbIndex := o.opbIndex + 1 }

/-- The common body of `insert_2_bits` … `insert_7_bits`: the field fits the current byte with a
bit to spare, or runs into the next one.  (`insert_7_bits` tests `bits_left == 8`.) -/
def insertShort (n data : Nat) (o : OutBits) : Run OutBits :=
  if n + 1 ≤ o.bitsLeft ∧ o.bitsLeft ≤ 8 then do
    let i := o.bitsLeft - n
    let o ← o.put (data <<< i)
    return { o with bitsLeft := i }
  else do
    let i := n - o.bitsLeft
    let j := 8 - i
    let o ← o.put (data >>> i)
    let o ← o.next.put (data <<< j)
    return { o with bitsLeft := j }

def insert2Bits := insertShort 2
def insert3Bits := insertShort 3
def insert4Bits := insertShort 4
def insert5Bits := insertShort 5
def insert6Bits := insertShort 6
def insert7Bits := insertShort 7

def insert8Bits (data : Nat) (o : OutBits) : Run OutBits :=
  if o.bitsLeft = 8 then do
    let o ← o.put data
    return { o.next with bitsLeft := 8 }
  else do
    let i := 8 - o.bitsLeft
    let j := 8 - i
    let o ← o.put (data >>> i)
    let o ← o.next.put (data <<< j)
    return { o with bitsLeft := j }

def insert9Bits (data16 : Nat) (o : OutBits) : Run OutBits := do
  let i := 9 - o.bitsLeft
  let j := 8 - i
  let o ← o.put (data16 >>> i)
  let o ← o.next.put (data16 <<< j)
  if j = 0 then return { o.next with bitsLeft := 8 } else return { o with bitsLeft := j }

/-- The common body of `insert_10_bits` … `insert_15_bits`: two bytes or three.
(`insert_15_bits` tests `bits_left == 8`.) -/
def insertLong (n data16 : Nat) (o : OutBits) : Run OutBits :=
  let i := n - o.bitsLeft
  if n - 7 ≤ o.bitsLeft ∧ o.bitsLeft ≤ 8 then do
    let j := 8 - i
    let o ← o.put (data16 >>> i)
    let o ← o.next.put (data16 <<< j)
    return { o with bitsLeft := j }
  else do
    let j := i - 8
    let k := 8 - j
    let o ← o.put (data16 >>> i)
    let o ← o.next.put (data16 >>> j)
    let o ← o.next.put (data16 <<< k)
    return { o with bitsLeft := k }

def insert10Bits := insertLong 10
def insert11Bits := insertLong 11
def insert12Bits := insertLong 12
def insert13Bits := insertLong 13
def insert14Bits := insertLong 14
def insert15Bits := insertLong 15

def insert16Bits (data16 : Nat) (o : OutBits) : Run OutBits := do
  let i := 16 - o.bitsLeft
  let j := i - 8
  let k := 8 - j
  let o ← o.put (data16 >>> i)
  let o ← o.next.put (data16 >>> j)
  let o ← o.next.put (data16 <<< k)
  return { o with bitsLeft := k }

/-! ## Literals, copy offsets, lengths of match -/

/-- A literal byte: as it is below `0x80`, else `10` and its low seven bits. -/
def insertLiteral (data : UInt8) (o : OutBits) : Run OutBits :=
  if data < 0x80 then insert8Bits data.toNat o
  else do
    let o ← insert2Bits 0x02 o
    insert7Bits (data &&& 0x7f).toNat o

/-- "encode copy_offset and insert into output buffer". -/
def insertCopyOffset (copyOffset : Nat) (o : OutBits) : Run OutBits :=
  if copyOffset ≤ 63 then do
    let o ← insert5Bits 0x1f o
    insert6Bits (copyOffset &&& 0x3f) o
  else if 64 ≤ copyOffset ∧ copyOffset ≤ 319 then do
    let o ← insert5Bits 0x1e o
    insert8Bits ((copyOffset - 64) % 2 ^ 8) o
  else if 320 ≤ copyOffset ∧ copyOffset ≤ 2367 then do
    let o ← insert4Bits 0x0e o
    insert11Bits ((copyOffset - 320) % 2 ^ 16) o
  else do
    let o ← insert3Bits 0x06 o
    insert16Bits ((copyOffset - 2368) % 2 ^ 16) o

/-- "encode length of match and insert into output buffer". -/
def insertLom (lom : Nat) (o : OutBits) : Run OutBits :=
  if lom = 3 then
    -- the header is one zero bit and the buffer is zero filled
    if o.bitsLeft - 1 = 0 then return { o.next with bitsLeft := 8 }
    else return { o with bitsLeft := o.bitsLeft - 1 }
  else if 4 ≤ lom ∧ lom ≤ 7 then do
    let o ← insert2Bits 0x02 o
    insert2Bits ((lom - 4) % 2 ^ 8) o
  else if 8 ≤ lom ∧ lom ≤ 15 then do
    let o ← insert3Bits 0x06 o
    insert3Bits ((lom - 8) % 2 ^ 8) o
  else if 16 ≤ lom ∧ lom ≤ 31 then do
    let o ← insert4Bits 0x0e o
    insert4Bits ((lom - 16) % 2 ^ 8) o
  else if 32 ≤ lom ∧ lom ≤ 63 then do
    let o ← insert5Bits 0x1e o
    insert5Bits ((lom - 32) % 2 ^ 8) o
  else if 64 ≤ lom ∧ lom ≤ 127 then do
    let o ← insert6Bits 0x3e o
    insert6Bits ((lom - 64) % 2 ^ 8) o
  else if 128 ≤ lom ∧ lom ≤ 255 then do
    let o ← insert7Bits 0x7e o
    insert7Bits ((lom - 128) % 2 ^ 8) o
  else if 256 ≤ lom ∧ lom ≤ 511 then do
    let o ← insert8Bits 0xfe o
    insert8Bits ((lom - 256) % 2 ^ 8) o
  else if 512 ≤ lom ∧ lom ≤ 1023 then do
    let o ← insert9Bits 0x1fe o
    insert9Bits ((lom - 512) % 2 ^ 16) o
  else if 1024 ≤ lom ∧ lom ≤ 2047 then do
    let o ← insert10Bits 0x3fe o
    insert10Bits ((lom - 1024) % 2 ^ 16) o
  else if 2048 ≤ lom ∧ lom ≤ 4095 then do
    let o ← insert11Bits 0x7fe o
    insert11Bits ((lom - 2048) % 2 ^ 16) o
  else if 4096 ≤ lom ∧ lom ≤ 8191 then do
    let o ← insert12Bits 0xffe o
    insert12Bits ((lom - 4096) % 2 ^ 16) o
  else if 8192 ≤ lom ∧ lom ≤ 16383 then do
    let o ← insert13Bits 0x1ffe o
    insert13Bits ((lom - 8192) % 2 ^ 16) o
  else if 16384 ≤ lom ∧ lom ≤ 32767 then do
    let o ← insert14Bits 0x3ffe o
    insert14Bits ((lom - 16384) % 2 ^ 16) o
  else if 32768 ≤ lom ∧ lom ≤ 65535 then do
    let o ← insert15Bits 0x7ffe o
    insert15Bits ((lom - 32768) % 2 ^ 16) o
  else return o

/-! ## The compressor state -/

/-- `PROTO_RDP_40` and `PROTO_RDP_50`, the protocol types `mppc_enc_new` accepts. -/
inductive Protocol where
  | PROTO_RDP_40
  | PROTO_RDP_50
  deriving DecidableEq, Repr

/-- `struct xrdp_mppc_enc`.  `outputBuffer` is the part of `outputBufferPlus` behind its first 64
bytes. -/
structure MppcEnc where
  protocolType : Protocol
  historyBuffer : Buf UInt8
  outputBuffer : Buf UInt8
  historyOffset : Nat
  bufLen : Nat
  bytesInOpb : Nat
  flags : Nat
  flagsHold : Nat
  hashTable : Buf UInt16

/-- `mppc_enc_new`. -/
def mppcEncNew (protocolType : Protocol) : MppcEnc :=
  let bufLen := match protocolType with
    | .PROTO_RDP_40 => RDP_40_HIST_BUF_LEN
    | .PROTO_RDP_50 => RDP_50_HIST_BUF_LEN
  { protocolType
    historyBuffer := .alloc bufLen
    outputBuffer := .alloc bufLen
    historyOffset := 0
    bufLen
    bytesInOpb := 0
    flags := 0
    flagsHold := PACKET_AT_FRONT
    hashTable := .alloc bufLen }

/-- CRC of the three history bytes from `i` on. -/
def crcAt (history : Buf UInt8) (i : Nat) : Run UInt16 := do
  let b0 ← history.read i
  let b1 ← history.read (i + 1)
  let b2 ← history.read (i + 2)
  return crc (crc (crc CRC_INIT b0) b1) b2

/-! ## The main loop -/

/-- What the loop reads but does not change: the history with the packet appended,
`historyPointer` (as an index), `hptr_end`, `last_crc_index` and `data_end`. -/
structure LoopCtx where
  historyBuffer : Buf UInt8
  historyPointer : Nat
  hptrEnd : Nat
  lastCrcIndex : Int
  dataEnd : Nat

structure LoopSt where
  ctr : Nat
  hashTable : Buf UInt16
  out : OutBits

/-- `while ((cptr1 <= hptr_end) && (*(cptr1++) == *(cptr2++))) lom++`. -/
def extendMatch (history : Buf UInt8) (hptrEnd : Nat) : Nat → Nat → Nat → Nat → Run Nat
  | 0, _, _, _ => .error .outOfFuel
  | fuel + 1, cptr1, cptr2, lom =>
    if cptr1 ≤ hptrEnd then do
      let a ← history.read cptr1
      let b ← history.read cptr2
      if a = b then extendMatch history hptrEnd fuel (cptr1 + 1) (cptr2 + 1) (lom + 1)
      else return lom
    else return lom

/-- "compute CRC for matching segment and store in hash table": `j` three-byte strings from
history position `pos` on. -/
def hashSegment (history : Buf UInt8) : Nat → Nat → Buf UInt16 → Run (Buf UInt16)
  | 0, _, hash => .ok hash
  | j + 1, pos, hash => do
    let c ← crcAt history pos
    let hash ← hash.write c.toNat (UInt16.ofNat pos)
    hashSegment history j (pos + 1) hash

/-- The loop body. -/
def loopBody (c : LoopCtx) (s : LoopSt) : Run LoopSt := do
  let cptr1 := c.historyPointer + s.ctr
  let crc ← crcAt c.historyBuffer cptr1
  let entry ← s.hashTable.read crc.toNat
  let cptr2 := entry.toNat
  let copyOffset := (cptr1 + 2 ^ 32 - cptr2) % 2 ^ 32
  let hashTable ← s.hashTable.write crc.toNat (UInt16.ofNat cptr1)
  let a0 ← c.historyBuffer.read cptr1
  let b0 ← c.historyBuffer.read cptr2
  let a1 ← c.historyBuffer.read (cptr1 + 1)
  let b1 ← c.historyBuffer.read (cptr2 + 1)
  let a2 ← c.historyBuffer.read (cptr1 + 2)
  let b2 ← c.historyBuffer.read (cptr2 + 2)
  if a0 ≠ b0 ∨ a1 ≠ b1 ∨ a2 ≠ b2 then
    let out ← insertLiteral a0 s.out
    return { ctr := s.ctr + 1, hashTable, out }
  else
    let lom ← extendMatch c.historyBuffer c.hptrEnd (c.historyBuffer.size + 1)
      (cptr1 + 3) (cptr2 + 3) 3
    let j : Nat :=
      if (c.lastCrcIndex : Int) < cptr1 + lom then ((c.lastCrcIndex - cptr1) % 2 ^ 32).toNat
      else lom - 1
    let hashTable ← hashSegment c.historyBuffer j (cptr1 + 1) hashTable
    let out ← insertCopyOffset copyOffset s.out
    let out ← insertLom lom out
    return { ctr := s.ctr + lom, hashTable, out }

/-- `while (ctr < data_end)`. -/
def mainLoop (c : LoopCtx) : Nat → LoopSt → Run LoopSt
  | 0, s => if s.ctr < c.dataEnd then .error .outOfFuel else .ok s
  | fuel + 1, s =>
    if s.ctr < c.dataEnd then do mainLoop c fuel (← loopBody c s) else .ok s

/-- `while (len - ctr > 0)`, an unsigned difference: the rest of the packet as literals. -/
def addRemaining (srcData : List UInt8) : Nat → Nat → OutBits → Run OutBits
  | 0, ctr, out => if ctr = srcData.length then .ok out else .error .outOfFuel
  | fuel + 1, ctr, out =>
    if ctr = srcData.length then .ok out
    else match srcData[ctr]? with
      | none => .error .outOfBounds
      | some data => do addRemaining srcData fuel (ctr + 1) (← insertLiteral data out)

/-! ## One packet -/

/-- The rewind at the top of `compress_rdp_5`: the history cannot hold the packet. -/
def rewind (enc : MppcEnc) (len : Nat) : Run MppcEnc :=
  if enc.historyOffset + len ≥ enc.bufLen - 3 then do
    let hashTable ← enc.hashTable.memset0 enc.bufLen
    let historyBuffer ← enc.historyBuffer.memset0 enc.bufLen
    return { enc with
      historyOffset := 0, hashTable, historyBuffer
      flagsHold := enc.flagsHold ||| (PACKET_AT_FRONT ||| PACKET_FLUSHED) }
  else return enc

/-- At the front of the history the first two bytes go out as literals and two hash entries are
stored; elsewhere nothing happens. -/
def encodeFront (historyBuffer : Buf UInt8) (historyOffset : Nat) (s : LoopSt) : Run LoopSt :=
  if historyOffset = 0 then do
    let d0 ← historyBuffer.read 0
    let out ← insertLiteral d0 s.out
    let d1 ← historyBuffer.read 1
    let out ← insertLiteral d1 out
    let c0 ← crcAt historyBuffer 0
    let hashTable ← s.hashTable.write c0.toNat 0
    let c1 ← crcAt historyBuffer 1
    let hashTable ← hashTable.write c1.toNat 1
    return { ctr := 2, hashTable, out }
  else return s

/-- The first part of `compress_rdp_5`: the output is cleared, the history rewound if need be, and
the packet appended to it. -/
def appendHistory (enc : MppcEnc) (srcData : List UInt8) : Run MppcEnc := do
  let outputBuffer ← enc.outputBuffer.memset0 srcData.length
  let enc ← rewind { enc with outputBuffer, flags := PACKET_COMPR_TYPE_64K } srcData.length
  let historyBuffer ← enc.historyBuffer.memcpy enc.historyOffset srcData
  return { enc with historyBuffer }

/-- `historyPointer`, `hptr_end`, `last_crc_index` and `data_end` once the packet is appended. -/
def packetCtx (enc : MppcEnc) (len : Nat) : LoopCtx :=
  { historyBuffer := enc.historyBuffer
    historyPointer := enc.historyOffset
    hptrEnd := enc.historyOffset + len - 1
    lastCrcIndex := ((enc.historyOffset + len : Nat) : Int) - 3
    dataEnd := (len + 2 ^ 32 - 2) % 2 ^ 32 }

/-- The middle part: the hash table and the output after the packet. -/
def encodePacket (enc : MppcEnc) (srcData : List UInt8) : Run (Buf UInt16 × OutBits) := do
  let c := packetCtx enc srcData.length
  let s ← encodeFront enc.historyBuffer enc.historyOffset
    ⟨0, enc.hashTable, ⟨enc.outputBuffer, 0, 8⟩⟩
  let s ← mainLoop c c.dataEnd s
  let out ← addRemaining srcData (srcData.length + 1) s.ctr s.out
  return (s.hashTable, out)

/-- The last part: "compressed data longer than uncompressed data, give up", or success. -/
def finishPacket (enc : MppcEnc) (len : Nat) (hashTable : Buf UInt16) (out : OutBits) :
    Run (MppcEnc × Bool) :=
  let opbIndex := if out.bitsLeft ≠ 8 then out.opbIndex + 1 else out.opbIndex
  if opbIndex > len then do
    let hashTable ← hashTable.memset0 enc.bufLen
    let historyBuffer ← enc.historyBuffer.memset0 enc.bufLen
    return ({ enc with
      historyBuffer, hashTable, outputBuffer := out.outputBuffer, historyOffset := 0
      flagsHold := enc.flagsHold ||| (PACKET_AT_FRONT ||| PACKET_FLUSHED) }, false)
  else
    return ({ enc with
      hashTable, outputBuffer := out.outputBuffer
      historyOffset := enc.historyOffset + len, bytesInOpb := opbIndex
      flags := enc.flags ||| PACKET_COMPRESSED ||| enc.flagsHold, flagsHold := 0 }, true)

/-- `compress_rdp_5`. -/
def compressRdp5 (enc : MppcEnc) (srcData : List UInt8) : Run (MppcEnc × Bool) := do
  let enc ← appendHistory enc srcData
  let (hashTable, out) ← encodePacket enc srcData
  finishPacket enc srcData.length hashTable out

/-- `compress_rdp_4`: "RDP 4.0 encoding not yet implemented". -/
def compressRdp4 (enc : MppcEnc) (_srcData : List UInt8) : Run (MppcEnc × Bool) :=
  return (enc, false)

/-- `compress_rdp`: its length guard, then the protocol's compressor. -/
def compressRdp (enc : MppcEnc) (srcData : List UInt8) : Run (MppcEnc × Bool) :=
  if srcData.length ≤ 0 ∨ srcData.length > enc.bufLen then return (enc, false)
  else match enc.protocolType with
    | .PROTO_RDP_40 => compressRdp4 enc srcData
    | .PROTO_RDP_50 => compressRdp5 enc srcData

end Xrdp.Mppc
