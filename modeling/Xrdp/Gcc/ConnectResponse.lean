import Xrdp.Gcc.ChannelIds
import Xrdp.Lib.Asn1

/-!
# The connect response

What the server answers to the client's connect initial: GCC user data in PER, in an MCS connect
response in BER.

* `xrdpMcsOutGccData`, `xrdpMcsSendConnectResponse` — the functions in `libxrdp/xrdp_mcs.c`.
* `parseConnectResponse` — a client that takes every length at its word: an element ends where its
  length says, and what is in it fills it.
* `ServerSec.meant` — what the client is to find.
-/

namespace Xrdp.Gcc

open Wire Asn1

/-! ## The server -/

def SEC_TAG_SRV_INFO : Nat := 0x0c01
def SEC_TAG_SRV_CRYPT : Nat := 0x0c02
def SEC_TAG_PUBKEY : Nat := 0x0006
def SEC_TAG_KEYSIG : Nat := 0x0008
def SEC_RSA_MAGIC : Nat := 0x31415352
def MCS_CONNECT_RESPONSE : Nat := 0x7f66
def MCS_TAG_DOMAIN_PARAMS : Nat := 0x30
def BER_TAG_INTEGER : Nat := 2
def BER_TAG_OCTET_STRING : Nat := 4
def BER_TAG_RESULT : Nat := 10

/-- What `xrdp_mcs_out_gcc_data` reads of `struct xrdp_sec` and `struct xrdp_iso`. -/
structure ServerSec where
  rdpNegData : Bool
  requestedProtocol : UInt32
  rsaKeyBytes : Nat
  cryptMethod : UInt32
  cryptLevel : UInt32
  serverRandom : List UInt8
  pubExp : List UInt8
  pubMod : List UInt8
  pubSig : List UInt8
  serverRandom_length : serverRandom.length = 32
  pubExp_length : pubExp.length = 4
  pubMod_length : pubMod.length = 256
  pubSig_length : pubSig.length = 64

/-- `out_uint8s`. -/
def outUint8s (n : Nat) : List UInt8 := List.replicate n 0

/-- The fixed bytes in front of the user data, but for its length. -/
def gccHeader : List UInt8 :=
  beBytes 2 5 ++ beBytes 2 0x14 ++ [0x7c] ++ beBytes 2 1 ++ [0x2a] ++
    [0x14, 0x76, 0x0a, 1, 1, 0] ++ leBytes 2 0xc001 ++ [0] ++ [0x4d, 0x63, 0x44, 0x6e]

section

variable (sec : ServerSec)

/-- `SEC_TAG_SRV_INFO`. -/
def outInfo : List UInt8 :=
  leBytes 2 SEC_TAG_SRV_INFO ++ leBytes 2 (if sec.rdpNegData then 12 else 8) ++ [4, 0, 8, 0] ++
    if sec.rdpNegData then leBytes 4 sec.requestedProtocol.toNat else []

/-- A security block with an RSA key: its length, that of the certificate, of the key and of the
modulus, and the two numbers that say the bits of the key. -/
def outKey (len certLen keyLen modLen bitLen dataLen : Nat) : List UInt8 :=
  leBytes 2 SEC_TAG_SRV_CRYPT ++ leBytes 2 len ++ leBytes 4 sec.cryptMethod.toNat ++
    leBytes 4 sec.cryptLevel.toNat ++ leBytes 4 32 ++ leBytes 4 certLen ++ sec.serverRandom ++
    leBytes 4 1 ++ leBytes 4 1 ++ leBytes 4 1 ++
    leBytes 2 SEC_TAG_PUBKEY ++ leBytes 2 keyLen ++ leBytes 4 SEC_RSA_MAGIC ++
    leBytes 4 modLen ++ beBytes 4 bitLen ++ beBytes 4 dataLen ++ sec.pubExp ++
    sec.pubMod.take sec.rsaKeyBytes ++ outUint8s 8 ++
    leBytes 2 SEC_TAG_KEYSIG ++ leBytes 2 72 ++ sec.pubSig ++ outUint8s 8

/-- `SEC_TAG_SRV_CRYPT`. -/
def outCrypt : List UInt8 :=
  if sec.rsaKeyBytes = 64 then outKey sec 0x00ec 0xb8 0x005c 0x0048 0x00020000 0x3f000000
  else if sec.rsaKeyBytes = 256 then outKey sec 0x01ac 0x178 0x011c 0x0108 0x00080000 0xff000000
  else if sec.rsaKeyBytes = 0 then
    leBytes 2 SEC_TAG_SRV_CRYPT ++ leBytes 2 12 ++ leBytes 4 sec.cryptMethod.toNat ++
      leBytes 4 sec.cryptLevel.toNat
  else []

/-- The user data. -/
def outUserData (numChannels : Nat) : List UInt8 :=
  outInfo sec ++ outChannels numChannels ++ outCrypt sec

/-- `xrdp_mcs_out_gcc_data`: `server_mcs_data`, if its stream does not overflow. -/
def xrdpMcsOutGccData (numChannels : Nat) : Run (List UInt8) :=
  let ud := outUserData sec numChannels
  let gccSize := ud.length ||| 0x8000
  let s := gccHeader ++ beBytes 2 gccSize ++ ud
  if s.length ≤ 8192 then .ok s else .error .outOfBounds

end

/-- `xrdp_mcs_ber_out_header`. -/
def xrdpMcsBerOutHeader (tagVal len : Nat) : List UInt8 :=
  (if tagVal > 0xff then beBytes 2 tagVal else [UInt8.ofNat tagVal]) ++
    if len ≥ 0x80 then 0x82 :: beBytes 2 len else [UInt8.ofNat len]

/-- `xrdp_mcs_ber_out_int8`. -/
def xrdpMcsBerOutInt8 (value : Nat) : List UInt8 :=
  xrdpMcsBerOutHeader BER_TAG_INTEGER 1 ++ [UInt8.ofNat value]

/-- `xrdp_mcs_ber_out_int24`. -/
def xrdpMcsBerOutInt24 (value : Nat) : List UInt8 :=
  xrdpMcsBerOutHeader BER_TAG_INTEGER 3 ++
    [UInt8.ofNat (value / 2 ^ 16), UInt8.ofNat (value / 2 ^ 8), UInt8.ofNat value]

/-- `xrdp_mcs_out_domain_params`. -/
def xrdpMcsOutDomainParams (maxChannels maxUsers maxTokens maxPduSize : Nat) : List UInt8 :=
  xrdpMcsBerOutHeader MCS_TAG_DOMAIN_PARAMS 26 ++ xrdpMcsBerOutInt8 maxChannels ++
    xrdpMcsBerOutInt8 maxUsers ++ xrdpMcsBerOutInt8 maxTokens ++ xrdpMcsBerOutInt8 1 ++
    xrdpMcsBerOutInt8 0 ++ xrdpMcsBerOutInt8 1 ++ xrdpMcsBerOutInt24 maxPduSize ++
    xrdpMcsBerOutInt8 2

/-- What `xrdp_mcs_send_connect_response` writes behind the seven bytes that `xrdp_iso_init` leaves
free, if the stream does not overflow. -/
def xrdpMcsSendConnectResponse (serverMcsData : List UInt8) : Run (List UInt8) :=
  let dataLen := serverMcsData.length
  let s :=
    xrdpMcsBerOutHeader MCS_CONNECT_RESPONSE
        (if dataLen > 0x80 then dataLen + 38 else dataLen + 36) ++
      xrdpMcsBerOutHeader BER_TAG_RESULT 1 ++ [0] ++
      xrdpMcsBerOutHeader BER_TAG_INTEGER 1 ++ [0] ++
      xrdpMcsOutDomainParams 22 3 0 0xfff8 ++
      xrdpMcsBerOutHeader BER_TAG_OCTET_STRING dataLen ++ serverMcsData
  if 7 + s.length ≤ 8192 * 4 then .ok s else .error .outOfBounds

/-- The two functions as `xrdp_mcs_incoming` calls them. -/
def connectResponse (sec : ServerSec) (numChannels : Nat) : Run (List UInt8) := do
  let serverMcsData ← xrdpMcsOutGccData sec numChannels
  xrdpMcsSendConnectResponse serverMcsData

/-! ## A strict client -/

/-- The key of a client's security block. -/
structure KeyMaterial where
  serverRandom : List UInt8
  exponent : List UInt8
  modulus : List UInt8
  signature : List UInt8
  deriving DecidableEq

structure ConnectResponse where
  result : Nat
  calledConnectId : Nat
  domainParams : List Nat
  version : Nat
  requestedProtocol : Option Nat
  mcsChannelId : Nat
  channelIds : List Nat
  encryptionMethod : Nat
  encryptionLevel : Nat
  key : Option KeyMaterial
  deriving DecidableEq

/-- The core data of the server. -/
def parseCore (bs : List UInt8) : Option (Nat × Option Nat) := do
  let (version, bs) ← getLe 4 bs
  if bs = [] then some (version, none)
  else do
    let requestedProtocol ← whole (getLe 4 bs)
    some (version, some requestedProtocol)

/-- The network data: the ids are padded to an even number. -/
def parseNet (bs : List UInt8) : Option (Nat × List Nat) := do
  let (mcsChannelId, bs) ← getLe 2 bs
  let (count, bs) ← getLe 2 bs
  let (ids, bs) ← getLes 2 count bs
  let _ ← whole (getBytes (if count % 2 = 0 then 0 else 2) bs)
  some (mcsChannelId, ids)

/-- A key with its padding, and what is in front of it. -/
def dropPadding (bs : List UInt8) : Option (List UInt8) :=
  if bs.drop (bs.length - 8) = List.replicate 8 0 then some (bs.take (bs.length - 8)) else none

/-- The public key: exponent and modulus. -/
def parsePublicKey (bs : List UInt8) : Option (List UInt8 × List UInt8) := do
  let (magic, bs) ← getLe 4 bs
  let (keyLen, bs) ← getLe 4 bs
  let (bitLen, bs) ← getLe 4 bs
  let (dataLen, bs) ← getLe 4 bs
  let (exponent, bs) ← getBytes 4 bs
  let padded ← whole (getBytes keyLen bs)
  let modulus ← dropPadding padded
  if magic = 0x31415352 ∧ bitLen = 8 * modulus.length ∧ dataLen + 1 = modulus.length then
    some (exponent, modulus)
  else none

/-- A proprietary certificate: exponent, modulus and signature. -/
def parseCertificate (bs : List UInt8) : Option (List UInt8 × List UInt8 × List UInt8) := do
  let (version, bs) ← getLe 4 bs
  let (sigAlg, bs) ← getLe 4 bs
  let (keyAlg, bs) ← getLe 4 bs
  let (keyType, bs) ← getLe 2 bs
  let (keyLen, bs) ← getLe 2 bs
  let (blob, bs) ← getBytes keyLen bs
  let (exponent, modulus) ← parsePublicKey blob
  let (sigType, bs) ← getLe 2 bs
  let (sigLen, bs) ← getLe 2 bs
  let padded ← whole (getBytes sigLen bs)
  let signature ← dropPadding padded
  if version = 1 ∧ sigAlg = 1 ∧ keyAlg = 1 ∧ keyType = 6 ∧ sigType = 8 then
    some (exponent, modulus, signature)
  else none

/-- The random and the certificate of the security data. -/
def parseKey (bs : List UInt8) : Option KeyMaterial := do
  let (randomLen, bs) ← getLe 4 bs
  let (certLen, bs) ← getLe 4 bs
  let (serverRandom, bs) ← getBytes randomLen bs
  let certificate ← whole (getBytes certLen bs)
  let (exponent, modulus, signature) ← parseCertificate certificate
  some ⟨serverRandom, exponent, modulus, signature⟩

/-- The security data: method, level, and the key if there is one. -/
def parseSecurity (bs : List UInt8) : Option (Nat × Nat × Option KeyMaterial) := do
  let (method, bs) ← getLe 4 bs
  let (level, bs) ← getLe 4 bs
  if bs = [] then some (method, level, none)
  else do
    let key ← parseKey bs
    some (method, level, some key)

/-- The contents of a block of this type, and what follows it; the length counts its own header. -/
def getBlock (type : Nat) (bs : List UInt8) : Option (List UInt8 × List UInt8) := do
  let bs ← getLit (leBytes 2 type) bs
  let (len, bs) ← getLe 2 bs
  if 4 ≤ len then getBytes (len - 4) bs else none

/-- A BER integer. -/
def getInteger (bs : List UInt8) : Option (Nat × List UInt8) :=
  (getBer [2] bs).map fun (content, rest) => (leVal content.reverse, rest)

/-- Integers to the end. -/
def parseIntegers : Nat → List UInt8 → Option (List Nat)
  | 0, bs => if bs = [] then some [] else none
  | n + 1, bs => do
    let (v, bs) ← getInteger bs
    let vs ← parseIntegers n bs
    some (v :: vs)

/-- The user data within a conference create response.  The length of the connect PDU that it is
part of is passed over unless the client `minds` it. -/
def parseGcc (minds : Bool) (bs : List UInt8) : Option (List UInt8) := do
  let bs ← getLit [0, 5, 0, 0x14, 0x7c, 0, 1] bs
  let (connectPduLen, bs) ← getPerLength bs
  if minds ∧ connectPduLen ≠ bs.length then none
  else do
    let bs ← getLit [0x14, 0x76, 0x0a, 1, 1, 0, 1, 0xc0, 0, 0x4d, 0x63, 0x44, 0x6e] bs
    let (userDataLen, bs) ← getPerLength bs
    whole (getBytes userDataLen bs)

/-- The whole of a connect response. -/
def parseConnectResponse (minds : Bool) (bs : List UInt8) : Option ConnectResponse := do
  let bs ← whole (getBer [0x7f, 0x66] bs)
  let (result, bs) ← getBer [10] bs
  let (calledConnectId, bs) ← getInteger bs
  let (params, bs) ← getBer [0x30] bs
  let domainParams ← parseIntegers 8 params
  let gcc ← whole (getBer [4] bs)
  let bs ← parseGcc minds gcc
  let (core, bs) ← getBlock 0x0c01 bs
  let (version, requestedProtocol) ← parseCore core
  let (net, bs) ← getBlock 0x0c03 bs
  let (mcsChannelId, channelIds) ← parseNet net
  let security ← whole (getBlock 0x0c02 bs)
  let (encryptionMethod, encryptionLevel, key) ← parseSecurity security
  some
    { result := leVal result.reverse, calledConnectId, domainParams, version, requestedProtocol,
      mcsChannelId, channelIds, encryptionMethod, encryptionLevel, key }

/-! ## What is meant -/

/-- What a response is to say. -/
def ServerSec.meant (sec : ServerSec) (numChannels : Nat) : ConnectResponse where
  result := 0
  calledConnectId := 0
  domainParams := [22, 3, 0, 1, 0, 1, 0xfff8, 2]
  version := 0x00080004
  requestedProtocol := if sec.rdpNegData then some sec.requestedProtocol.toNat else none
  mcsChannelId := 1003
  channelIds := (List.range numChannels).map (1003 + 1 + ·)
  encryptionMethod := sec.cryptMethod.toNat
  encryptionLevel := sec.cryptLevel.toNat
  key :=
    if sec.rsaKeyBytes = 0 then none
    else some ⟨sec.serverRandom, sec.pubExp, sec.pubMod.take sec.rsaKeyBytes, sec.pubSig⟩

/-- The key sizes there are: "64 or 256 , 0 = no rdp security". -/
def ServerSec.Supported (sec : ServerSec) : Prop :=
  sec.rsaKeyBytes = 64 ∨ sec.rsaKeyBytes = 256 ∨ sec.rsaKeyBytes = 0

/-- The bytes of the user data. -/
def ServerSec.userDataSize (sec : ServerSec) (numChannels : Nat) : Nat :=
  (if sec.rdpNegData then 12 else 8) + (8 + 2 * (numChannels + numChannels % 2)) +
    (if sec.rsaKeyBytes = 0 then 12 else 172 + sec.rsaKeyBytes)

end Xrdp.Gcc
