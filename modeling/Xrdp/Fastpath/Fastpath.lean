import Xrdp.Mppc.Encoder
import Xrdp.Fastpath.OutStream

/-!
# Sending fast-path updates

`xrdp_rdp_send_fastpath` in `libxrdp/xrdp_rdp.c` cuts an update into fragments and compresses each
one if it can; `xrdp_sec_send_fastpath` in `libxrdp/xrdp_sec.c` puts the outer header in front of a
fragment, signs it and encrypts it in place.

Ciphers and signatures are those of the SSL library.  The model returns the bytes handed to the
transport, one list for each PDU.
-/

namespace Xrdp.Fastpath

open Mppc Wire

/-! ## Ciphers -/

/-- A cipher with a state both sides keep. -/
structure Cipher where
  State : Type
  encrypt : State → List UInt8 → List UInt8 × State
  decrypt : State → List UInt8 → List UInt8 × State
  /-- Data comes in whole blocks. -/
  block : Nat
  encrypt_length : ∀ s d, block ∣ d.length → (encrypt s d).1.length = d.length
  decrypt_encrypt : ∀ s d, block ∣ d.length → decrypt s (encrypt s d).1 = (d, (encrypt s d).2)

/-- The cryptography of a connection. -/
structure Crypto where
  /-- `ssl_rc4_crypt`, one byte after the other. -/
  rc4 : Cipher
  rc4_block : rc4.block = 1
  /-- `xrdp_sec_update` and `ssl_rc4_set_key`. -/
  rc4Update : rc4.State → rc4.State
  /-- `ssl_des3_encrypt`, in blocks of eight bytes. -/
  des3 : Cipher
  des3_block : des3.block = 8
  /-- `xrdp_sec_sign`, the first eight bytes. -/
  sign : List UInt8 → Fin 8 → UInt8
  /-- `xrdp_sec_fips_sign`, which also signs the number of uses. -/
  fipsSign : Nat → List UInt8 → Fin 8 → UInt8

/-- `crypt_level`. -/
inductive CryptLevel where
  | CRYPT_LEVEL_NONE
  | CRYPT_LEVEL_LOW
  | CRYPT_LEVEL_CLIENT_COMPATIBLE
  | CRYPT_LEVEL_HIGH
  | CRYPT_LEVEL_FIPS
  deriving DecidableEq, Repr

/-- Which branch of the security layer a level takes. -/
inductive CryptMode where
  | none
  | rc4
  | fips
  deriving DecidableEq, Repr

/-- `== CRYPT_LEVEL_FIPS`, `> CRYPT_LEVEL_LOW`, or neither. -/
def CryptLevel.mode : CryptLevel → CryptMode
  | .CRYPT_LEVEL_NONE => .none
  | .CRYPT_LEVEL_LOW => .none
  | .CRYPT_LEVEL_CLIENT_COMPATIBLE => .rc4
  | .CRYPT_LEVEL_HIGH => .rc4
  | .CRYPT_LEVEL_FIPS => .fips

variable (K : Crypto)

/-- `struct xrdp_sec`, the sending side. -/
structure Sec where
  cryptLevel : CryptLevel
  encryptUseCount : Nat
  rc4Info : K.rc4.State
  fipsInfo : K.des3.State

/-- `struct xrdp_rdp`, the sending side. -/
structure Rdp where
  rdpCompression : Bool
  mppcEnc : MppcEnc
  secLayer : Sec K

variable {K}

/-! ## The security layer -/

/-- `xrdp_sec_encrypt`. -/
def xrdpSecEncrypt (self : Sec K) (data : List UInt8) : List UInt8 × Sec K :=
  let self :=
    if self.encryptUseCount = 4096 then
      { self with rc4Info := K.rc4Update self.rc4Info, encryptUseCount := 0 }
    else self
  let (out, rc4Info) := K.rc4.encrypt self.rc4Info data
  (out, { self with rc4Info, encryptUseCount := self.encryptUseCount + 1 })

/-- `xrdp_sec_fips_encrypt`. -/
def xrdpSecFipsEncrypt (self : Sec K) (data : List UInt8) : List UInt8 × Sec K :=
  let (out, fipsInfo) := K.des3.encrypt self.fipsInfo data
  (out, { self with fipsInfo, encryptUseCount := self.encryptUseCount + 1 })

/-- `xrdp_sec_get_fastpath_bytes`. -/
def xrdpSecGetFastpathBytes (self : Sec K) : Nat :=
  match self.cryptLevel.mode with
  | .fips => 3 + 4 + 8
  | .rc4 => 3 + 8
  | .none => 3

/-- `xrdp_sec_send_fastpath`: the PDU, the layer afterwards, and the memory of the stream. -/
def xrdpSecSendFastpath (self : Sec K) (s : OutStream) :
    List UInt8 × Sec K × (Nat → UInt8) :=
  let s := { s with p := s.secHdr }
  let pdulen := s.end_ - s.p
  match self.cryptLevel.mode with
  | .fips =>
    let datalen := pdulen - 15
    let pad := (8 - datalen % 8) % 8
    let s := s.outUint8 (2 <<< 6)
    let pdulen := pdulen + pad
    let s := s.outUint16Be (pdulen ||| 0x8000)
    let s := s.outUint16Le 16
    let s := s.outUint8 1
    let s := { s with end_ := s.end_ + pad }
    let s := s.outUint8 pad
    let sig := List.ofFn (K.fipsSign self.encryptUseCount (bytesAt s.cells (s.p + 8) datalen))
    let cells := writeAt s.cells s.p sig
    let save := bytesAt cells (s.p + 8 + datalen) pad
    let cells := writeAt cells (s.p + 8 + datalen) (List.replicate pad 0)
    let (out, self) := xrdpSecFipsEncrypt self (bytesAt cells (s.p + 8) (datalen + pad))
    let cells := writeAt cells (s.p + 8) out
    let pdu := { s with cells }.contents
    (pdu, self, writeAt cells (s.p + 8 + datalen) save)
  | .rc4 =>
    let datalen := pdulen - 11
    let s := s.outUint8 (2 <<< 6)
    let s := s.outUint16Be (pdulen ||| 0x8000)
    let sig := List.ofFn (K.sign (bytesAt s.cells (s.p + 8) datalen))
    let cells := writeAt s.cells s.p sig
    let (out, self) := xrdpSecEncrypt self (bytesAt cells (s.p + 8) datalen)
    let cells := writeAt cells (s.p + 8) out
    ({ s with cells }.contents, self, cells)
  | .none =>
    let s := s.outUint8 (0 <<< 6)
    let s := s.outUint16Be (pdulen ||| 0x8000)
    (s.contents, self, s.cells)

/-! ## Fragments -/

def FASTPATH_FRAG_SIZE : Nat := 16 * 1024 - 128

/-- The bytes of the update header. -/
def Rdp.headerBytes (self : Rdp K) : Nat := if self.rdpCompression then 4 else 3

/-- Where `outputBuffer` is in the memory of a compressed fragment: 64 bytes precede it. -/
def outputBase : Nat := 64

/-- The memory around `outputBuffer`. -/
def outputCells (enc : MppcEnc) (a : Nat) : UInt8 :=
  if a < outputBase then 0 else enc.outputBuffer.cells (a - outputBase)

/-- The encoder after the memory around its output has been written to. -/
def withOutputCells (enc : MppcEnc) (cells : Nat → UInt8) : MppcEnc :=
  { enc with outputBuffer := { enc.outputBuffer with cells := fun i => cells (outputBase + i) } }

/-- The update header and the security layer: `send_s` goes out with `send_len` bytes. -/
def sendFragment (self : Rdp K) (sendS : OutStream)
    (updateCode fragmentation compType sendLen : Nat) : List UInt8 × Sec K × (Nat → UInt8) :=
  let compression := if self.rdpCompression then 2 else 0
  let s := sendS.outUint8
    ((updateCode &&& 15) ||| ((fragmentation &&& 3) <<< 4) ||| ((compression &&& 3) <<< 6))
  let s := if compression ≠ 0 then s.outUint8 compType else s
  let sendLen := sendLen - self.headerBytes
  let s := s.outUint16Le sendLen
  xrdpSecSendFastpath self.secLayer { s with end_ := s.p + sendLen }

/-- The stream of a compressed fragment. -/
def compStream (enc : MppcEnc) (secOffset rdpOffset headerBytes sendLen : Nat) : OutStream :=
  let data := outputBase - (rdpOffset + headerBytes)
  let p := data + rdpOffset
  { cells := outputCells enc, data, secHdr := data + secOffset, rdpHdr := data + rdpOffset, p
    end_ := p + sendLen }

/-- One round of the loop of `xrdp_rdp_send_fastpath`: a fragment of `no_comp_len` bytes, header
included, compressed if that makes it shorter. -/
def fragment (self : Rdp K) (fragS : OutStream)
    (updateCode fragmentation noCompLen secOffset rdpOffset : Nat) :
    Run (List UInt8 × Rdp K × (Nat → UInt8)) :=
  let plain (self : Rdp K) : Run (List UInt8 × Rdp K × (Nat → UInt8)) :=
    let (pdu, secLayer, cells) := sendFragment self fragS updateCode fragmentation 0 noCompLen
    pure (pdu, { self with secLayer }, cells)
  if self.rdpCompression ∧ noCompLen > self.headerBytes + 16 then do
    let toCompLen := noCompLen - self.headerBytes
    let (mppcEnc, ok) ←
      compressRdp self.mppcEnc (bytesAt fragS.cells (fragS.p + self.headerBytes) toCompLen)
    let self := { self with mppcEnc }
    if ok then do
      let compLen := mppcEnc.bytesInOpb + self.headerBytes
      let compS := compStream mppcEnc secOffset rdpOffset self.headerBytes compLen
      let (pdu, secLayer, cells) :=
        sendFragment self compS updateCode fragmentation mppcEnc.flags compLen
      pure (pdu, { self with secLayer, mppcEnc := withOutputCells mppcEnc cells }, fragS.cells)
    else plain self
  else plain self

/-- The loop of `xrdp_rdp_send_fastpath`. -/
def fragmentLoop (updateCode secBytes secOffset rdpOffset : Nat) :
    Nat → Rdp K → OutStream → Nat → Run (List (List UInt8) × Rdp K)
  | 0, _, _, _ => .error .outOfFuel
  | fuel + 1, self, fragS, fragmentation => do
    let rest := fragS.end_ - fragS.p
    let (noCompLen, fragmentation) :=
      if rest > FASTPATH_FRAG_SIZE then
        (FASTPATH_FRAG_SIZE,
          if fragmentation = 0 then 2 else if fragmentation = 2 then 3 else fragmentation)
      else (rest, if fragmentation ≠ 0 then 1 else fragmentation)
    let (pdu, self, cells) ←
      fragment self fragS updateCode fragmentation noCompLen secOffset rdpOffset
    let p := fragS.p + noCompLen
    if p < fragS.end_ then do
      let p := p - self.headerBytes
      let secHdr := p - secBytes
      let (pdus, self) ← fragmentLoop updateCode secBytes secOffset rdpOffset fuel self
        { fragS with cells, p, secHdr, data := secHdr } fragmentation
      pure (pdu :: pdus, self)
    else pure ([pdu], self)

/-- `xrdp_rdp_send_fastpath`. -/
def xrdpRdpSendFastpath (self : Rdp K) (s : OutStream) (dataPduType fuel : Nat) :
    Run (List (List UInt8) × Rdp K) :=
  let s := { s with p := s.rdpHdr }
  fragmentLoop dataPduType (xrdpSecGetFastpathBytes self.secLayer) (s.secHdr - s.data)
    (s.rdpHdr - s.data) fuel self s 0

/-- The stream of an update: `xrdp_rdp_init_fastpath` in a memory from address `base` on, the
payload, and `s_mark_end`. -/
def updateStream (self : Rdp K) (cells : Nat → UInt8) (base : Nat) (payload : List UInt8) :
    OutStream :=
  let rdpHdr := base + xrdpSecGetFastpathBytes self.secLayer
  let p := rdpHdr + self.headerBytes
  let s : OutStream := { cells, data := base, secHdr := base, rdpHdr, p, end_ := base }
  let s := s.put payload
  { s with end_ := s.p }

end Xrdp.Fastpath
