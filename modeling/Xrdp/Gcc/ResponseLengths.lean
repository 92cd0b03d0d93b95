import Xrdp.Gcc.ConnectResponse

/-!
# The lengths in a connect response

* `getBlock_outInfo`, `getBlock_outChannels`, `getBlock_outCrypt` — the blocks of the user data have
  the lengths they say, and their contents are what is meant.
* `parseGcc_out` — so has the user data in PER.
* `xrdpMcsSendConnectResponse_ok`, `parse_meant` — so have the elements of BER around it.
* `connect_response_iff` — a strict client reads what is meant just if the response fits its stream;
  it must not mind the length of the connect PDU, which is always 42.
-/

namespace Xrdp.Gcc

open Wire Asn1

/-- A reader goes on with what has been read. -/
theorem some_bind {α β : Type} (a : α) (f : α → Option β) : (some a >>= f) = f a := rfl

/-! ## Blocks -/

theorem getBlock_append {type : Nat} {content : List UInt8} (h : content.length + 4 < 2 ^ 16)
    (rest : List UInt8) :
    getBlock type (leBytes 2 type ++ (leBytes 2 (content.length + 4) ++ (content ++ rest))) =
      some (content, rest) := by
  have hlen : (content.length + 4) % 256 ^ 2 = content.length + 4 := Nat.mod_eq_of_lt h
  simp only [getBlock, getLit_append, Option.bind_eq_bind, Option.bind_some, getLe_leBytes, hlen]
  rw [if_pos (Nat.le_add_left 4 _), Nat.add_sub_cancel, getBytes_append rfl]

theorem getLe_toNat (v : UInt32) (rest : List UInt8) :
    getLe 4 (leBytes 4 v.toNat ++ rest) = some (v.toNat, rest) := by
  have hmod : v.toNat % 256 ^ 4 = v.toNat := Nat.mod_eq_of_lt v.toNat_lt
  rw [getLe_leBytes, hmod]

section

variable (sec : ServerSec) (rest : List UInt8)

/-- What is in the core data. -/
def infoContent : List UInt8 :=
  [4, 0, 8, 0] ++ if sec.rdpNegData then leBytes 4 sec.requestedProtocol.toNat else []

theorem getBlock_outInfo : getBlock 0x0c01 (outInfo sec ++ rest) = some (infoContent sec, rest) := by
  have hlen : (infoContent sec).length + 4 = if sec.rdpNegData then 12 else 8 := by
    unfold infoContent
    split <;> simp
  have h := @getBlock_append SEC_TAG_SRV_INFO (infoContent sec) (by rw [hlen]; split <;> omega) rest
  rw [hlen] at h
  simp only [infoContent, List.append_assoc] at h
  simp only [outInfo, infoContent, List.append_assoc]
  exact h

theorem parseCore_infoContent : parseCore (infoContent sec) =
    some (0x00080004, if sec.rdpNegData then some sec.requestedProtocol.toNat else none) := by
  have hversion : ([4, 0, 8, 0] : List UInt8) = leBytes 4 0x00080004 := by decide
  have hprotocol := getLe_toNat sec.requestedProtocol []
  rw [List.append_nil] at hprotocol
  unfold parseCore infoContent
  rw [hversion, getLe_leBytes]
  split
  · have hne : leBytes 4 sec.requestedProtocol.toNat ≠ [] := List.cons_ne_nil _ _
    simp only [Option.bind_eq_bind, Option.bind_some, if_neg hne, hprotocol, whole_nil]
    rfl
  · rfl

end

/-! ## The channels -/

/-- What is in the network data. -/
def channelsContent (numChannels : Nat) : List UInt8 :=
  leBytes 2 1003 ++ (leBytes 2 numChannels ++
    (((List.range numChannels).map (1003 + 1 + ·)).flatMap (leBytes 2) ++
      List.replicate (if numChannels % 2 = 0 then 0 else 2) 0))

theorem channelsContent_length (numChannels : Nat) :
    (channelsContent numChannels).length = 4 + 2 * (numChannels + numChannels % 2) := by
  simp only [channelsContent, List.length_append, leBytes_length, leBytes_flatMap_length,
    List.length_map, List.length_range, List.length_replicate]
  split <;> omega

/-- The ids and the padding that the loop writes. -/
theorem loop_eq (numChannels : Nat) :
    ((List.range (numChannels + numChannels % 2)).flatMap fun index =>
      leBytes 2 (if index < numChannels then 1003 + (index + 1) else 0)) =
    ((List.range numChannels).map (1003 + 1 + ·)).flatMap (leBytes 2) ++
      List.replicate (if numChannels % 2 = 0 then 0 else 2) 0 := by
  have hids : ((List.range numChannels).flatMap fun index =>
      leBytes 2 (if index < numChannels then 1003 + (index + 1) else 0)) =
      ((List.range numChannels).map (1003 + 1 + ·)).flatMap (leBytes 2) := by
    rw [List.flatMap_map]
    refine List.flatMap_congr fun index hindex => ?_
    rw [if_pos (List.mem_range.1 hindex), Nat.add_assoc, Nat.add_comm index]
  rcases Nat.mod_two_eq_zero_or_one numChannels with heven | hodd
  · rw [heven, Nat.add_zero, hids, if_pos rfl, List.replicate_zero, List.append_nil]
  · rw [hodd, List.range_succ, List.flatMap_append, hids]
    simp [leBytes]

theorem outChannels_eq (numChannels : Nat) : outChannels numChannels =
    leBytes 2 0x0c03 ++
      (leBytes 2 ((channelsContent numChannels).length + 4) ++ channelsContent numChannels) := by
  have hlen : 8 + (numChannels + numChannels % 2) * 2 =
      (channelsContent numChannels).length + 4 := by
    rw [channelsContent_length]
    omega
  unfold outChannels
  dsimp only
  rw [Nat.and_one_is_mod, loop_eq, hlen]
  simp only [channelsContent, List.append_assoc]
  rfl

theorem getBlock_outChannels {numChannels : Nat} (h : numChannels < 2 ^ 14) (rest : List UInt8) :
    getBlock 0x0c03 (outChannels numChannels ++ rest) =
      some (channelsContent numChannels, rest) := by
  rw [outChannels_eq, List.append_assoc, List.append_assoc]
  refine getBlock_append ?_ rest
  rw [channelsContent_length]
  omega

theorem parseNet_channelsContent {numChannels : Nat} (h : numChannels < 2 ^ 14) :
    parseNet (channelsContent numChannels) =
      some (1003, (List.range numChannels).map (1003 + 1 + ·)) := by
  have hcount : numChannels % 256 ^ 2 = numChannels := Nat.mod_eq_of_lt (by omega)
  have hids := getLes_leBytes 2 ((List.range numChannels).map (1003 + 1 + ·))
    (List.replicate (if numChannels % 2 = 0 then 0 else 2) 0)
  have hmod : ((List.range numChannels).map (1003 + 1 + ·)).map (· % 256 ^ 2) =
      (List.range numChannels).map (1003 + 1 + ·) := by
    rw [List.map_map]
    refine List.map_congr_left fun index hindex => ?_
    have := List.mem_range.1 hindex
    exact Nat.mod_eq_of_lt (by dsimp only; omega)
  rw [List.length_map, List.length_range, hmod] at hids
  have hpad := getBytes_append (List.length_replicate
    (n := if numChannels % 2 = 0 then 0 else 2) (a := (0 : UInt8))) []
  rw [List.append_nil] at hpad
  unfold parseNet channelsContent
  simp only [getLe_leBytes, Option.bind_eq_bind, Option.bind_some, hcount, hids, hpad, whole_nil]
  rfl

/-! ## The key -/

section

variable (random exponent modulus signature : List UInt8)

/-- The public key with its padding. -/
def publicKeyContent : List UInt8 :=
  leBytes 4 SEC_RSA_MAGIC ++ (leBytes 4 (modulus.length + 8) ++ (leBytes 4 (8 * modulus.length) ++
    (leBytes 4 (modulus.length - 1) ++ (exponent ++ (modulus ++ List.replicate 8 0)))))

/-- The certificate. -/
def certificateContent : List UInt8 :=
  leBytes 4 1 ++ (leBytes 4 1 ++ (leBytes 4 1 ++ (leBytes 2 SEC_TAG_PUBKEY ++
    (leBytes 2 (publicKeyContent exponent modulus).length ++ (publicKeyContent exponent modulus ++
      (leBytes 2 SEC_TAG_KEYSIG ++ (leBytes 2 (signature.length + 8) ++
        (signature ++ List.replicate 8 0))))))))

/-- What the security data has for a key. -/
def keyContent : List UInt8 :=
  leBytes 4 random.length ++ (leBytes 4 (certificateContent exponent modulus signature).length ++
    (random ++ certificateContent exponent modulus signature))

end

section

variable {random exponent modulus signature : List UInt8}

theorem publicKeyContent_length (he : exponent.length = 4) :
    (publicKeyContent exponent modulus).length = modulus.length + 28 := by
  simp only [publicKeyContent, List.length_append, leBytes_length, he, List.length_replicate]
  omega

theorem certificateContent_length (he : exponent.length = 4) :
    (certificateContent exponent modulus signature).length =
      modulus.length + signature.length + 56 := by
  simp only [certificateContent, List.length_append, leBytes_length, publicKeyContent_length he,
    List.length_replicate]
  omega

theorem dropPadding_append (bs : List UInt8) : dropPadding (bs ++ List.replicate 8 0) = some bs := by
  unfold dropPadding
  have hlen : (bs ++ List.replicate 8 (0 : UInt8)).length - 8 = bs.length := by simp
  rw [hlen, List.drop_left, if_pos rfl, List.take_left]

theorem whole_getBytes {n : Nat} {bs : List UInt8} (h : bs.length = n) :
    whole (getBytes n bs) = some bs := by
  have hget := getBytes_append h []
  rw [List.append_nil] at hget
  rw [hget, whole_nil]

theorem parsePublicKey_content (he : exponent.length = 4) (hpos : 0 < modulus.length)
    (hlt : modulus.length < 2 ^ 12) :
    parsePublicKey (publicKeyContent exponent modulus) = some (exponent, modulus) := by
  have hlen : (modulus.length + 8) % 256 ^ 4 = modulus.length + 8 := Nat.mod_eq_of_lt (by omega)
  have hbits : 8 * modulus.length % 256 ^ 4 = 8 * modulus.length := Nat.mod_eq_of_lt (by omega)
  have hdata : (modulus.length - 1) % 256 ^ 4 = modulus.length - 1 := Nat.mod_eq_of_lt (by omega)
  have hpadded : (modulus ++ List.replicate 8 (0 : UInt8)).length = modulus.length + 8 := by simp
  unfold parsePublicKey publicKeyContent
  simp only [getLe_leBytes, Option.bind_eq_bind, Option.bind_some, hlen, hbits, hdata,
    getBytes_append he, whole_getBytes hpadded, dropPadding_append]
  simp [SEC_RSA_MAGIC, Nat.sub_add_cancel hpos]

theorem parseCertificate_content (he : exponent.length = 4) (hs : signature.length = 64)
    (hpos : 0 < modulus.length) (hlt : modulus.length < 2 ^ 12) :
    parseCertificate (certificateContent exponent modulus signature) =
      some (exponent, modulus, signature) := by
  have hone : 1 % 256 ^ 4 = 1 := rfl
  have hkey : (publicKeyContent exponent modulus).length % 256 ^ 2 =
      (publicKeyContent exponent modulus).length := by
    rw [publicKeyContent_length he]
    exact Nat.mod_eq_of_lt (by omega)
  have hpadded : (signature ++ List.replicate 8 (0 : UInt8)).length =
      (signature.length + 8) % 256 ^ 2 := by
    rw [List.length_append, hs]
    rfl
  unfold parseCertificate certificateContent
  rw [getLe_leBytes, some_bind]
  dsimp only
  rw [getLe_leBytes, some_bind]
  dsimp only
  rw [getLe_leBytes, some_bind]
  dsimp only
  rw [getLe_leBytes, some_bind]
  dsimp only
  rw [getLe_leBytes, some_bind]
  dsimp only
  rw [hkey, getBytes_append rfl, some_bind]
  dsimp only
  rw [parsePublicKey_content he hpos hlt, some_bind]
  dsimp only
  rw [getLe_leBytes, some_bind]
  dsimp only
  rw [getLe_leBytes, some_bind]
  dsimp only
  rw [whole_getBytes hpadded, some_bind, dropPadding_append, some_bind]
  rfl

theorem parseKey_content (hr : random.length = 32) (he : exponent.length = 4)
    (hs : signature.length = 64) (hpos : 0 < modulus.length) (hlt : modulus.length < 2 ^ 12) :
    parseKey (keyContent random exponent modulus signature) =
      some ⟨random, exponent, modulus, signature⟩ := by
  have hrandom : random.length = random.length % 256 ^ 4 := by
    rw [hr]
    rfl
  have hcert : (certificateContent exponent modulus signature).length % 256 ^ 4 =
      (certificateContent exponent modulus signature).length := by
    rw [certificateContent_length he, hs]
    exact Nat.mod_eq_of_lt (by omega)
  unfold parseKey keyContent
  simp only [getLe_leBytes, Option.bind_eq_bind, Option.bind_some, getBytes_append hrandom, hcert,
    whole_getBytes, parseCertificate_content he hs hpos hlt]

end

section

variable (sec : ServerSec)

/-- What is in the security data. -/
def cryptContent : List UInt8 :=
  leBytes 4 sec.cryptMethod.toNat ++ (leBytes 4 sec.cryptLevel.toNat ++
    if sec.rsaKeyBytes = 0 then []
    else keyContent sec.serverRandom sec.pubExp (sec.pubMod.take sec.rsaKeyBytes) sec.pubSig)

variable {sec}

theorem modulus_length (h : sec.rsaKeyBytes = 64 ∨ sec.rsaKeyBytes = 256) :
    (sec.pubMod.take sec.rsaKeyBytes).length = sec.rsaKeyBytes := by
  rw [List.length_take, sec.pubMod_length]
  omega

theorem keyContent_length (h : sec.rsaKeyBytes = 64 ∨ sec.rsaKeyBytes = 256) :
    (keyContent sec.serverRandom sec.pubExp (sec.pubMod.take sec.rsaKeyBytes) sec.pubSig).length =
      160 + sec.rsaKeyBytes := by
  simp only [keyContent, List.length_append, leBytes_length,
    certificateContent_length sec.pubExp_length, modulus_length h, sec.pubSig_length,
    sec.serverRandom_length]
  omega

theorem cryptContent_length (h : sec.Supported) : (cryptContent sec).length + 4 =
    if sec.rsaKeyBytes = 0 then 12 else 172 + sec.rsaKeyBytes := by
  unfold cryptContent
  split
  · simp
  · rename_i hne
    have hkey := @keyContent_length sec (by unfold ServerSec.Supported at h; omega)
    simp only [List.length_append, leBytes_length, hkey]
    omega

/-- A security block with a key is what is meant if its numbers are right. -/
theorem outKey_eq (h : sec.rsaKeyBytes = 64 ∨ sec.rsaKeyBytes = 256)
    {len certLen keyLen modLen bitLen dataLen : Nat} (hlen : len = 172 + sec.rsaKeyBytes)
    (hcert : certLen = 120 + sec.rsaKeyBytes) (hkey : keyLen = 28 + sec.rsaKeyBytes)
    (hmod : modLen = 8 + sec.rsaKeyBytes) (hbit : beBytes 4 bitLen = leBytes 4 (8 * sec.rsaKeyBytes))
    (hdata : beBytes 4 dataLen = leBytes 4 (sec.rsaKeyBytes - 1)) :
    outKey sec len certLen keyLen modLen bitLen dataLen =
      leBytes 2 SEC_TAG_SRV_CRYPT ++ (leBytes 2 ((cryptContent sec).length + 4) ++ cryptContent sec) := by
  have hne : sec.rsaKeyBytes ≠ 0 := by omega
  have hlen' : (cryptContent sec).length + 4 = len := by
    rw [cryptContent_length (h.elim .inl (.inr ∘ .inl)), if_neg hne, hlen]
  have hcert' : (certificateContent sec.pubExp (sec.pubMod.take sec.rsaKeyBytes) sec.pubSig).length =
      certLen := by
    rw [certificateContent_length sec.pubExp_length, modulus_length h, sec.pubSig_length, hcert]
    omega
  have hkey' : (publicKeyContent sec.pubExp (sec.pubMod.take sec.rsaKeyBytes)).length = keyLen := by
    rw [publicKeyContent_length sec.pubExp_length, modulus_length h, hkey, Nat.add_comm]
  have hmod' : sec.rsaKeyBytes + 8 = modLen := by rw [hmod, Nat.add_comm]
  rw [hlen', cryptContent, if_neg hne, keyContent, hcert', certificateContent, hkey',
    publicKeyContent, modulus_length h, hmod', sec.serverRandom_length, sec.pubSig_length, ← hbit,
    ← hdata]
  unfold outKey outUint8s
  rw [show 64 + 8 = 72 from rfl]
  simp only [List.append_assoc]

theorem outCrypt_eq (h : sec.Supported) : outCrypt sec =
    leBytes 2 SEC_TAG_SRV_CRYPT ++ (leBytes 2 ((cryptContent sec).length + 4) ++ cryptContent sec) := by
  unfold outCrypt
  rcases h with h | h | h
  · rw [if_pos h]
    refine outKey_eq (.inl h) ?_ ?_ ?_ ?_ ?_ ?_ <;> rw [h] <;> rfl
  · rw [if_neg (by omega), if_pos h]
    refine outKey_eq (.inr h) ?_ ?_ ?_ ?_ ?_ ?_ <;> rw [h] <;> rfl
  · have hlen := cryptContent_length (.inr (.inr h))
    rw [if_pos h] at hlen
    rw [if_neg (by omega), if_neg (by omega), if_pos h, hlen, cryptContent, if_pos h]
    simp only [List.append_assoc, List.append_nil]

theorem getBlock_outCrypt (h : sec.Supported) :
    whole (getBlock SEC_TAG_SRV_CRYPT (outCrypt sec)) = some (cryptContent sec) := by
  have hlt : (cryptContent sec).length + 4 < 2 ^ 16 := by
    rw [cryptContent_length h]
    unfold ServerSec.Supported at h
    split <;> omega
  have hget := @getBlock_append SEC_TAG_SRV_CRYPT _ hlt []
  rw [List.append_nil] at hget
  rw [outCrypt_eq h, hget, whole_nil]

theorem parseSecurity_cryptContent (h : sec.Supported) :
    parseSecurity (cryptContent sec) =
      some (sec.cryptMethod.toNat, sec.cryptLevel.toNat, (sec.meant 0).key) := by
  unfold parseSecurity cryptContent ServerSec.meant
  simp only [getLe_toNat, Option.bind_eq_bind, Option.bind_some]
  split
  · rfl
  · rename_i hne
    have hkey : sec.rsaKeyBytes = 64 ∨ sec.rsaKeyBytes = 256 := by
      unfold ServerSec.Supported at h
      omega
    have hcontent := keyContent_length hkey
    have hnil : keyContent sec.serverRandom sec.pubExp (sec.pubMod.take sec.rsaKeyBytes)
        sec.pubSig ≠ [] := by
      intro hnil
      rw [hnil, List.length_nil] at hcontent
      omega
    rw [if_neg hnil, parseKey_content sec.serverRandom_length sec.pubExp_length sec.pubSig_length
        (by rw [modulus_length hkey]; omega) (by rw [modulus_length hkey]; omega)]
    rfl

end

/-! ## The user data -/

section

variable {sec : ServerSec} {numChannels : Nat}

theorem outUserData_length (h : sec.Supported) :
    (outUserData sec numChannels).length = sec.userDataSize numChannels := by
  have hinfo : (outInfo sec).length = if sec.rdpNegData then 12 else 8 := by
    unfold outInfo
    split <;> simp
  simp only [outUserData, List.length_append, hinfo, outChannels_eq, outCrypt_eq h, leBytes_length,
    channelsContent_length]
  have hcrypt := cryptContent_length h
  unfold ServerSec.userDataSize
  rw [← hcrypt]
  omega

/-- The connect PDU is read if nobody minds its length. -/
theorem parseGcc_out {ud : List UInt8} (h : ud.length < 2 ^ 14) :
    parseGcc false (gccHeader ++ beBytes 2 (ud.length ||| 0x8000) ++ ud) = some ud := by
  have hheader : gccHeader = [0, 5, 0, 0x14, 0x7c, 0, 1] ++ ([0x2a] ++
      [0x14, 0x76, 0x0a, 1, 1, 0, 1, 0xc0, 0, 0x4d, 0x63, 0x44, 0x6e]) := by decide
  have h2a : ∀ bs, getPerLength ([0x2a] ++ bs) = some (42, bs) := fun bs => rfl
  unfold parseGcc
  rw [hheader]
  simp only [List.append_assoc, getLit_append, Option.bind_eq_bind, Option.bind_some, h2a,
    Bool.false_eq_true, false_and, if_false, getPerLength_long h, whole_getBytes rfl]

end

/-! ## The elements of BER -/

section

variable {tagVal : Nat} {tag content : List UInt8}

/-- An element that the server writes, with the length that its contents have. -/
theorem getBer_outHeader
    (htag : (if tagVal > 0xff then beBytes 2 tagVal else [UInt8.ofNat tagVal]) = tag)
    (h : content.length < 2 ^ 16) (rest : List UInt8) :
    getBer tag (xrdpMcsBerOutHeader tagVal content.length ++ (content ++ rest)) =
      some (content, rest) := by
  unfold xrdpMcsBerOutHeader
  rw [htag, List.append_assoc]
  split
  · exact getBer_long rest h
  · rename_i hshort
    exact getBer_short rest (Nat.lt_of_not_le hshort)

theorem whole_getBer
    (htag : (if tagVal > 0xff then beBytes 2 tagVal else [UInt8.ofNat tagVal]) = tag)
    (h : content.length < 2 ^ 16) :
    whole (getBer tag (xrdpMcsBerOutHeader tagVal content.length ++ content)) = some content := by
  have hget := getBer_outHeader htag h []
  rw [List.append_nil] at hget
  rw [hget, whole_nil]

end

/-- The domain parameters without their header. -/
def domainContent : List UInt8 :=
  [2, 1, 22, 2, 1, 3, 2, 1, 0, 2, 1, 1, 2, 1, 0, 2, 1, 1, 2, 3, 0, 0xff, 0xf8, 2, 1, 2]

theorem outDomainParams_eq : xrdpMcsOutDomainParams 22 3 0 0xfff8 =
    xrdpMcsBerOutHeader MCS_TAG_DOMAIN_PARAMS domainContent.length ++ domainContent := by
  decide

theorem parseIntegers_domainContent :
    parseIntegers 8 domainContent = some [22, 3, 0, 1, 0, 1, 0xfff8, 2] := by
  decide

/-- What is in the connect response. -/
def responseContent (data : List UInt8) : List UInt8 :=
  xrdpMcsBerOutHeader BER_TAG_RESULT 1 ++ ([0] ++ (xrdpMcsBerOutHeader BER_TAG_INTEGER 1 ++ ([0] ++
    (xrdpMcsBerOutHeader MCS_TAG_DOMAIN_PARAMS domainContent.length ++ (domainContent ++
      (xrdpMcsBerOutHeader BER_TAG_OCTET_STRING data.length ++ data))))))

/-- The length of what is in it, as the server counts it, but for 128 bytes of user data. -/
theorem responseContent_length {data : List UInt8} (h : data.length ≠ 0x80) :
    (responseContent data).length =
      if data.length > 0x80 then data.length + 38 else data.length + 36 := by
  have hresult : (xrdpMcsBerOutHeader BER_TAG_RESULT 1).length = 2 := rfl
  have hinteger : (xrdpMcsBerOutHeader BER_TAG_INTEGER 1).length = 2 := rfl
  have hdomain : (xrdpMcsBerOutHeader MCS_TAG_DOMAIN_PARAMS domainContent.length).length = 2 := rfl
  have hcontent : domainContent.length = 26 := rfl
  have hoctets : (xrdpMcsBerOutHeader BER_TAG_OCTET_STRING data.length).length =
      if data.length > 0x80 then 4 else 2 := by
    unfold xrdpMcsBerOutHeader
    by_cases hlong : data.length ≥ 0x80
    · rw [if_pos hlong, if_pos (Nat.lt_of_le_of_ne hlong h.symm)]
      rfl
    · have hshort : ¬ data.length > 0x80 := by omega
      rw [if_neg hlong, if_neg hshort]
      rfl
  simp only [responseContent, List.length_append, hresult, hinteger, hdomain, hoctets,
    List.length_singleton]
  split <;> omega

/-- The stream of the response does not overflow. -/
theorem xrdpMcsSendConnectResponse_ok {data : List UInt8} (h : data.length ≤ 8192)
    (hne : data.length ≠ 0x80) : xrdpMcsSendConnectResponse data =
      .ok (xrdpMcsBerOutHeader MCS_CONNECT_RESPONSE (responseContent data).length ++
        responseContent data) := by
  have hlen := responseContent_length hne
  have hheader : ∀ len, (xrdpMcsBerOutHeader MCS_CONNECT_RESPONSE len).length ≤ 5 := by
    intro len
    unfold xrdpMcsBerOutHeader
    split <;> split <;> simp
  have hsize := hheader (responseContent data).length
  unfold xrdpMcsSendConnectResponse
  dsimp only
  rw [outDomainParams_eq, ← hlen]
  simp only [List.append_assoc]
  rw [if_pos]
  · rfl
  · change 7 + (xrdpMcsBerOutHeader MCS_CONNECT_RESPONSE (responseContent data).length ++
      responseContent data).length ≤ 8192 * 4
    rw [List.length_append, hlen]
    split at hlen <;> rw [hlen] at hsize <;> split <;> omega

section

variable {sec : ServerSec} {numChannels : Nat}

/-- The GCC user data with its header. -/
def gccData (sec : ServerSec) (numChannels : Nat) : List UInt8 :=
  gccHeader ++ beBytes 2 ((outUserData sec numChannels).length ||| 0x8000) ++
    outUserData sec numChannels

theorem gccData_length (h : sec.Supported) :
    (gccData sec numChannels).length = 23 + sec.userDataSize numChannels := by
  have hheader : gccHeader.length = 21 := by decide
  simp only [gccData, List.length_append, hheader, beBytes_length, outUserData_length h]

/-- All the parts of the user data have an even length, so there are never 128 bytes. -/
theorem gccData_length_ne (h : sec.Supported) : (gccData sec numChannels).length ≠ 0x80 := by
  rw [gccData_length h]
  unfold ServerSec.userDataSize
  unfold ServerSec.Supported at h
  split <;> split <;> omega

/-- **A strict client reads what is meant**, if it does not mind the length of the connect PDU. -/
theorem parse_meant (h : sec.Supported) (hle : (gccData sec numChannels).length ≤ 8192) :
    parseConnectResponse false (xrdpMcsBerOutHeader MCS_CONNECT_RESPONSE
        (responseContent (gccData sec numChannels)).length ++
      responseContent (gccData sec numChannels)) = some (sec.meant numChannels) := by
  have hlen := @gccData_length sec numChannels h
  have hud := @outUserData_length sec numChannels h
  have hn : numChannels < 2 ^ 14 := by
    unfold ServerSec.userDataSize at hlen
    omega
  -- the elements of BER, from outside to inside
  have hbody : ∀ rest, (responseContent rest).length < 2 ^ 16 →
      whole (getBer [0x7f, 0x66] (xrdpMcsBerOutHeader MCS_CONNECT_RESPONSE
        (responseContent rest).length ++ responseContent rest)) = some (responseContent rest) :=
    fun rest hlt => whole_getBer (by decide) hlt
  have hresult : ∀ rest, getBer [10] (xrdpMcsBerOutHeader BER_TAG_RESULT 1 ++ ([0] ++ rest)) =
      some ([0], rest) := @getBer_outHeader BER_TAG_RESULT [10] [0] (by decide) (by decide)
  have hinteger : ∀ rest, getBer [2] (xrdpMcsBerOutHeader BER_TAG_INTEGER 1 ++ ([0] ++ rest)) =
      some ([0], rest) := @getBer_outHeader BER_TAG_INTEGER [2] [0] (by decide) (by decide)
  have hdomain : ∀ rest, getBer [0x30] (xrdpMcsBerOutHeader MCS_TAG_DOMAIN_PARAMS
      domainContent.length ++ (domainContent ++ rest)) = some (domainContent, rest) :=
    getBer_outHeader (by decide) (by decide)
  have hoctets : whole (getBer [4] (xrdpMcsBerOutHeader BER_TAG_OCTET_STRING
      (gccData sec numChannels).length ++ gccData sec numChannels)) =
      some (gccData sec numChannels) := whole_getBer (by decide) (by omega)
  have hgcc : parseGcc false (gccData sec numChannels) = some (outUserData sec numChannels) :=
    parseGcc_out (by omega)
  have hcontent : (responseContent (gccData sec numChannels)).length < 2 ^ 16 := by
    rw [responseContent_length (gccData_length_ne h)]
    split <;> omega
  unfold parseConnectResponse
  rw [hbody _ hcontent]
  unfold responseContent
  rw [some_bind, hresult, some_bind]
  dsimp only
  rw [getInteger, hinteger, Option.map_some, some_bind]
  dsimp only
  rw [hdomain, some_bind]
  dsimp only
  rw [parseIntegers_domainContent, some_bind, hoctets, some_bind, hgcc,
    some_bind]
  -- the blocks of the user data
  rw [outUserData, List.append_assoc, getBlock_outInfo, some_bind]
  dsimp only
  rw [parseCore_infoContent, some_bind]
  dsimp only
  rw [getBlock_outChannels hn, some_bind]
  dsimp only
  rw [parseNet_channelsContent hn, some_bind]
  dsimp only
  have hcrypt := getBlock_outCrypt h
  unfold SEC_TAG_SRV_CRYPT at hcrypt
  rw [hcrypt]
  rw [some_bind, parseSecurity_cryptContent h]
  rfl

end

/-! ## The whole -/

/-- Too many channels overflow the stream of the user data. -/
theorem connectResponse_overflow {sec : ServerSec} (h : sec.Supported) {numChannels : Nat}
    (hover : 8192 < 23 + sec.userDataSize numChannels) :
    connectResponse sec numChannels = .error .outOfBounds := by
  rw [← gccData_length h] at hover
  have hdata : xrdpMcsOutGccData sec numChannels = .error .outOfBounds :=
    if_neg (Nat.not_le.2 hover)
  rw [connectResponse, hdata, Run.error_bind]

/-- **The lengths in the connect response are exact**: whatever the security and however many
channels, a strict client reads what is meant just if the user data fits its stream.  It must not
mind the length of the connect PDU, which is 42 whatever there is. -/
theorem connect_response_iff {sec : ServerSec} (h : sec.Supported) (numChannels : Nat) :
    (∃ response, connectResponse sec numChannels = .ok response ∧
      parseConnectResponse false response = some (sec.meant numChannels)) ↔
      23 + sec.userDataSize numChannels ≤ 8192 := by
  have hlen := @gccData_length sec numChannels h
  constructor
  · rintro ⟨response, hok, -⟩
    by_contra hover
    rw [connectResponse_overflow h (Nat.lt_of_not_le hover)] at hok
    cases hok
  · intro hfits
    rw [← hlen] at hfits
    have hdata : xrdpMcsOutGccData sec numChannels = .ok (gccData sec numChannels) := if_pos hfits
    refine ⟨_, ?_, parse_meant h hfits⟩
    rw [connectResponse, hdata, Run.ok_bind,
      xrdpMcsSendConnectResponse_ok hfits (gccData_length_ne h)]

/-- A server with keys of this size. -/
def serverWith (rsaKeyBytes : Nat) : ServerSec where
  rdpNegData := true
  requestedProtocol := 1
  rsaKeyBytes
  cryptMethod := 2
  cryptLevel := 3
  serverRandom := List.replicate 32 7
  pubExp := [1, 0, 1, 0]
  pubMod := List.replicate 256 9
  pubSig := List.replicate 64 5
  serverRandom_length := List.length_replicate
  pubExp_length := rfl
  pubMod_length := List.length_replicate
  pubSig_length := List.length_replicate

/-- Three channels, and a key of 2048 bits. -/
theorem connect_response_three : ∃ response, connectResponse (serverWith 256) 3 = .ok response ∧
    parseConnectResponse false response = some ((serverWith 256).meant 3) :=
  (connect_response_iff (.inr (.inl rfl)) 3).2 (by decide)

/-- A client that minds the length of the connect PDU refuses a response without channels; and the
stream of the user data overflows with too many of them. -/
theorem connect_response_minded :
    (∃ response, connectResponse (serverWith 0) 0 = .ok response ∧
      parseConnectResponse true response = none) ∧
    connectResponse (serverWith 0) 4096 = .error .outOfBounds := by
  constructor
  · exact ⟨_, rfl, rfl⟩
  · exact connectResponse_overflow (.inr (.inr rfl)) (by decide)

end Xrdp.Gcc
