import Xrdp.Mppc.Format
import Xrdp.Fastpath.Fastpath

/-!
# A client for fast-path updates

What a standard client makes of the PDUs of fast-path output: it checks the length, decrypts,
takes the update header off and decompresses.

* `Client.receivePdu` — one PDU; `Client.receive` — a sequence of them.
-/

namespace Xrdp.Fastpath

open Mppc Wire

variable (K : Crypto)

/-- The client's side of a connection. -/
structure Client where
  mode : CryptMode
  decryptUseCount : Nat
  rc4Info : K.rc4.State
  fipsInfo : K.des3.State
  decoder : Decoder

variable {K}

/-- The part of an update in one PDU. -/
structure Fragment where
  updateCode : Nat
  fragmentation : Nat
  payload : List UInt8

def FASTPATH_FRAGMENT_SINGLE : Nat := 0
def FASTPATH_FRAGMENT_LAST : Nat := 1
def FASTPATH_FRAGMENT_FIRST : Nat := 2
def FASTPATH_FRAGMENT_NEXT : Nat := 3

/-- RC4 is keyed anew after 4096 uses. -/
def Client.rc4Decrypt (c : Client K) (data : List UInt8) : List UInt8 × Client K :=
  let c :=
    if c.decryptUseCount = 4096 then
      { c with rc4Info := K.rc4Update c.rc4Info, decryptUseCount := 0 }
    else c
  let (out, rc4Info) := K.rc4.decrypt c.rc4Info data
  (out, { c with rc4Info, decryptUseCount := c.decryptUseCount + 1 })

def Client.fipsDecrypt (c : Client K) (data : List UInt8) : List UInt8 × Client K :=
  let (out, fipsInfo) := K.des3.decrypt c.fipsInfo data
  (out, { c with fipsInfo, decryptUseCount := c.decryptUseCount + 1 })

/-- The 15-bit length field of a PDU, behind its first byte. -/
def lengthField (pdu : List UInt8) : Option Nat :=
  (getBe 2 (pdu.drop 1)).bind fun (v, _) => if v / 2 ^ 15 = 1 then some (v % 2 ^ 15) else none

/-- The encrypted part of a PDU as the mode has it: the plain update and the client afterwards. -/
def Client.decryptUpdate (c : Client K) (rest : List UInt8) : Option (List UInt8 × Client K) :=
  match c.mode with
  | .none => some (rest, c)
  | .rc4 => do
    let (_sig, rest) ← getBytes 8 rest
    pure (c.rc4Decrypt rest)
  | .fips => do
    let (len, rest) ← getLe 2 rest
    let (version, rest) ← getLe 1 rest
    let (pad, rest) ← getLe 1 rest
    let (_sig, rest) ← getBytes 8 rest
    if len = 16 ∧ version = 1 then
      let (out, c) := c.fipsDecrypt rest
      pure (out.take (out.length - pad), c)
    else none

/-- `TS_FP_UPDATE`: the update header, and the data, decompressed if need be. -/
def Client.readUpdate (c : Client K) (update : List UInt8) : Option (Fragment × Client K) := do
  let (header, rest) ← getLe 1 update
  let (flags, rest) ← if header / 64 = 2 then getLe 1 rest else some (0, rest)
  let (size, data) ← getLe 2 rest
  if size = data.length then
    if flags &&& PACKET_COMPRESSED_FLAG = 0 then
      pure (⟨header % 16, header / 16 % 4, data⟩, c)
    else do
      let (decoder, out) ← c.decoder.decode flags data
      pure (⟨header % 16, header / 16 % 4, out⟩, { c with decoder })
  else none

/-- The security flags of a PDU are those of the mode. -/
def CryptMode.secFlags : CryptMode → Nat
  | .none => 0
  | .rc4 => 2
  | .fips => 2

/-- The outside of a PDU: its length is checked, and what it encloses is decrypted. -/
def Client.openPdu (c : Client K) (pdu : List UInt8) : Option (List UInt8 × Client K) := do
  let (header, rest) ← getLe 1 pdu
  let (_, rest) ← getBe 2 rest
  if lengthField pdu = some pdu.length ∧ header = c.mode.secFlags * 64 then c.decryptUpdate rest
  else none

/-- One PDU. -/
def Client.receivePdu (c : Client K) (pdu : List UInt8) : Option (Fragment × Client K) := do
  let (update, c) ← c.openPdu pdu
  c.readUpdate update

/-- A sequence of PDUs. -/
def Client.receive (c : Client K) : List (List UInt8) → Option (List Fragment × Client K)
  | [] => some ([], c)
  | pdu :: pdus => do
    let (frag, c) ← c.receivePdu pdu
    let (frags, c) ← c.receive pdus
    pure (frag :: frags, c)

end Xrdp.Fastpath
