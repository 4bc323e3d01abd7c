import OpenSpdm.Context

/-!
# The CHALLENGE and CHALLENGE_AUTH messages

A `CHALLENGE` is the SPDM header, with the slot in `Param1` and the kind of
measurement summary in `Param2`, followed by the requester's nonce. Its answer, a
`CHALLENGE_AUTH`, is the header, with the auth attribute in `Param1` and the slot
mask in `Param2`, followed by five fields laid end to end: the hash of the
certificate chain, the responder's nonce, the measurement summary hash, the opaque
data behind its 16-bit `OpaqueLength`, and the signature.

The responders lay a response out field after field
(`OpenSpdm.challengeAuthUnsigned`, then the signature); `TrySpdmChallenge` walks it
with a pointer that starts after the header and moves past one field at a time,
taking the length of the opaque data from `OpaqueLength`
(`OpenSpdm.decodeChallengeAuth`). Only the hashes and the signature have sizes the
two sides must agree on; given those, the walk returns every field the layout put
in, and `OpaqueLength` reads back the opaque size as long as that size fits in 16
bits (`OpenSpdm.decodeChallengeAuth_encode`,
`OpenSpdm.challengeAuthOpaqueLength_encode`).

The header checks the requester makes before it reads a field
(`OpenSpdm.challengeAuthHeaderOk`) are collected here too, so that the requester
and the statements about what the responders send both use them. The message
layouts are the DMTF ones the specification prescribes; the header file that
declares them is not among the sources.
-/

namespace OpenSpdm

/-! ### The request -/

/-- A nonce as `SpdmGetRandomNumber (SPDM_NONCE_SIZE, Nonce)` fills it. -/
structure SpdmNonce where
  bytes : List UInt8
  length_bytes : bytes.length = spdmNonceSize

/-- `SPDM_CHALLENGE_REQUEST`: the header, with `SlotNum` in `Param1` and
`MeasurementHashType` in `Param2`, and the nonce. -/
def spdmChallengeRequest (version slotNum measurementHashType : UInt8) (nonce : SpdmNonce) :
    List UInt8 :=
  [version, spdmChallengeCode, slotNum, measurementHashType] ++ nonce.bytes

/-- A nonce for running the model: thirty-two `0xA5` bytes. -/
def sampleNonce : SpdmNonce := ⟨List.replicate 32 0xA5, List.length_replicate _ _⟩

@[simp] theorem length_spdmChallengeRequest (version slotNum measurementHashType : UInt8)
    (nonce : SpdmNonce) :
    (spdmChallengeRequest version slotNum measurementHashType nonce).length =
      spdmChallengeRequestSize := by
  simp [spdmChallengeRequest, nonce.length_bytes, spdmChallengeRequestSize, spdmMessageHeaderSize]
  omega

/-- Modelled from the spec: `SpdmGenerateErrorResponse` (and its encapsulated twin
`SpdmGenerateEncapErrorResponse`), an `ERROR` message whose parameters are the error
code and the error data. -/
def spdmGenerateErrorResponse (errorCode errorData : UInt8) : List UInt8 :=
  [spdmMessageVersion10, spdmError, errorCode, errorData]

/-! ### The auth attribute

`SPDM_CHALLENGE_AUTH_RESPONSE_ATTRIBUTE` is the bit field `SlotNum : 4`,
`Reserved : 3`, `BasicMutAuthReq : 1` over `Param1`, lowest bits first. -/

/-- The `SlotNum` bits of an auth attribute. -/
def authAttributeSlotNum (param1 : UInt8) : UInt8 := param1 &&& 0xF

/-- The `BasicMutAuthReq` bit of an auth attribute. -/
def authAttributeBasicMutAuthReq (param1 : UInt8) : UInt8 := param1 >>> 7

theorem toNat_authAttributeSlotNum (param1 : UInt8) :
    (authAttributeSlotNum param1).toNat = param1.toNat % 16 := by
  show (param1.toBitVec &&& (15 : UInt8).toBitVec).toNat = _
  rw [BitVec.toNat_and]
  exact Nat.and_pow_two_sub_one_eq_mod param1.toNat 4

theorem toNat_authAttributeBasicMutAuthReq (param1 : UInt8) :
    (authAttributeBasicMutAuthReq param1).toNat = param1.toNat / 128 := by
  show (param1.toBitVec >>> ((7 : UInt8) % 8).toBitVec).toNat = _
  simp [BitVec.toNat_ushiftRight, Nat.shiftRight_eq_div_pow]
  rfl

/-- An attribute byte below 16 is its own slot and does not ask for mutual
authentication. -/
theorem authAttribute_of_lt {param1 : UInt8} (h : param1.toNat < 16) :
    authAttributeSlotNum param1 = param1 ∧ authAttributeBasicMutAuthReq param1 = 0 := by
  constructor <;> apply UInt8.toNat.inj
  · rw [toNat_authAttributeSlotNum]; omega
  · rw [toNat_authAttributeBasicMutAuthReq]; simp; omega

/-! ### The layout of a CHALLENGE_AUTH -/

/-- The offset of `OpaqueLength`: the header, the chain hash, the nonce and the
measurement summary hash come before it. -/
def challengeAuthOpaqueLengthOffset (hashSize : Nat) : Nat :=
  spdmChallengeAuthResponseSize + hashSize + spdmNonceSize + hashSize

/-- The size of a `CHALLENGE_AUTH` with the given hash size, opaque length and
signature size; both sides compute it with the same sum. -/
def challengeAuthTotalSize (hashSize opaqueLength signatureSize : Nat) : Nat :=
  challengeAuthOpaqueLengthOffset hashSize + 2 + opaqueLength + signatureSize

/-- `sizeof (SPDM_CHALLENGE_AUTH_RESPONSE_MAX)`, the requester's response buffer:
every field at its largest. -/
def challengeAuthResponseMaxSize (cfg : SpdmLibConfig) : Nat :=
  spdmChallengeAuthResponseSize + cfg.maxHashSize + spdmNonceSize + cfg.maxHashSize + 2 +
    cfg.maxSpdmOpaqueDataSize + cfg.maxAsymKeySize

/-- The five fields of a `CHALLENGE_AUTH` after its header. -/
structure ChallengeAuthFields where
  certChainHash : List UInt8
  nonce : List UInt8
  measurementSummaryHash : List UInt8
  opaqueData : List UInt8
  signature : List UInt8
  deriving DecidableEq, Repr

/-- A `CHALLENGE_AUTH` up to its signature, as a responder lays it out in its zeroed
response buffer: the header, then each field right after the one before, with the
opaque size stored as a `UINT16`. -/
def challengeAuthUnsigned (version param1 param2 : UInt8)
    (certChainHash nonce measurementSummaryHash opaqueData : List UInt8) : List UInt8 :=
  [version, spdmChallengeAuth, param1, param2] ++ certChainHash ++ nonce ++ measurementSummaryHash ++
    writeUInt16 (UInt16.ofNat opaqueData.length) ++ opaqueData

/-- The whole response: the unsigned part and the signature after it. -/
def ChallengeAuthFields.encode (f : ChallengeAuthFields) (version param1 param2 : UInt8) :
    List UInt8 :=
  challengeAuthUnsigned version param1 param2 f.certChainHash f.nonce f.measurementSummaryHash
    f.opaqueData ++ f.signature

section Header

variable (f : ChallengeAuthFields) (version param1 param2 : UInt8)

@[simp] theorem getD_encode_code : (f.encode version param1 param2).getD 1 0 = spdmChallengeAuth := rfl
@[simp] theorem getD_encode_param1 : (f.encode version param1 param2).getD 2 0 = param1 := rfl
@[simp] theorem getD_encode_param2 : (f.encode version param1 param2).getD 3 0 = param2 := rfl

end Header

/-- `OpaqueLength = *(UINT16 *)Ptr`, read where the measurement summary hash ends. -/
def challengeAuthOpaqueLength (hashSize : Nat) (rsp : List UInt8) : Nat :=
  (readUInt16 (rsp.drop (challengeAuthOpaqueLengthOffset hashSize))).toNat

/-- `TrySpdmChallenge`'s walk over a `CHALLENGE_AUTH`: the pointer starts after the
header and moves past each field in turn, and `OpaqueLength` says how far the
opaque data reaches. -/
def decodeChallengeAuth (hashSize signatureSize : Nat) (rsp : List UInt8) : ChallengeAuthFields :=
  let field (offset size : Nat) := (rsp.drop offset).take size
  let opaqueOffset := challengeAuthOpaqueLengthOffset hashSize + 2
  let opaqueLength := challengeAuthOpaqueLength hashSize rsp
  { certChainHash := field spdmChallengeAuthResponseSize hashSize
    nonce := field (spdmChallengeAuthResponseSize + hashSize) spdmNonceSize
    measurementSummaryHash := field (spdmChallengeAuthResponseSize + hashSize + spdmNonceSize) hashSize
    opaqueData := field opaqueOffset opaqueLength
    signature := field (opaqueOffset + opaqueLength) signatureSize }

/-- The fields have the sizes the walk expects: hashes of `HashSize` bytes, a
nonce, and a signature of `SignatureSize` bytes. -/
structure ChallengeAuthFields.Sized (f : ChallengeAuthFields) (hashSize signatureSize : Nat) :
    Prop where
  certChainHash : f.certChainHash.length = hashSize
  nonce : f.nonce.length = spdmNonceSize
  measurementSummaryHash : f.measurementSummaryHash.length = hashSize
  signature : f.signature.length = signatureSize

/-! ### What the layout and the walk agree on -/

section Layout

variable {f : ChallengeAuthFields} {hashSize signatureSize : Nat} (version param1 param2 : UInt8)
  (hcert : f.certChainHash.length = hashSize) (hnonce : f.nonce.length = spdmNonceSize)
  (hsummary : f.measurementSummaryHash.length = hashSize)

/-- The field at a given offset is the one the layout put there. -/
theorem field_of_eq {l pre field rest : List UInt8} (h : l = pre ++ field ++ rest) {offset size : Nat}
    (hoff : pre.length = offset) (hsize : field.length = size) : (l.drop offset).take size = field := by
  subst h hoff hsize; simp

/-- The layout with each field after the bytes before it, as the walk sees it. -/
theorem encode_eq_append :
    f.encode version param1 param2 =
      [version, spdmChallengeAuth, param1, param2] ++ f.certChainHash ++ f.nonce ++
        f.measurementSummaryHash ++ writeUInt16 (UInt16.ofNat f.opaqueData.length) ++ f.opaqueData ++
          f.signature := by
  simp [ChallengeAuthFields.encode, challengeAuthUnsigned]

include hcert hnonce hsummary

theorem length_prefix_opaqueLength :
    ([version, spdmChallengeAuth, param1, param2] ++ f.certChainHash ++ f.nonce ++
      f.measurementSummaryHash).length = challengeAuthOpaqueLengthOffset hashSize := by
  simp [challengeAuthOpaqueLengthOffset, spdmChallengeAuthResponseSize, spdmMessageHeaderSize,
    hcert, hnonce, hsummary]
  omega

/-- **`OpaqueLength` reads back the opaque size**, cut to its 16 bits. -/
theorem challengeAuthOpaqueLength_encode :
    challengeAuthOpaqueLength hashSize (f.encode version param1 param2) =
      f.opaqueData.length % 2 ^ 16 := by
  have henc : f.encode version param1 param2 = ([version, spdmChallengeAuth, param1, param2] ++
      f.certChainHash ++ f.nonce ++ f.measurementSummaryHash) ++
        (writeUInt16 (UInt16.ofNat f.opaqueData.length) ++ (f.opaqueData ++ f.signature)) := by
    simp [encode_eq_append]
  rw [challengeAuthOpaqueLength, henc, ← length_prefix_opaqueLength version param1 param2 hcert hnonce
    hsummary, List.drop_left, readUInt16_writeUInt16, uint16_toNat_ofNat]

theorem length_encode (hsig : f.signature.length = signatureSize) :
    (f.encode version param1 param2).length =
      challengeAuthTotalSize hashSize f.opaqueData.length signatureSize := by
  rw [encode_eq_append, challengeAuthTotalSize, ← length_prefix_opaqueLength version param1 param2
    hcert hnonce hsummary]
  simp [hsig]
  omega

/-- **The walk returns the fields the layout put in**, when the opaque size fits in
its 16-bit field and the signature has the size the walk is given. -/
theorem decodeChallengeAuth_encode (hroom : f.opaqueData.length < 2 ^ 16)
    (hsig : f.signature.length = signatureSize) :
    decodeChallengeAuth hashSize signatureSize (f.encode version param1 param2) = f := by
  have hlen : challengeAuthOpaqueLength hashSize (f.encode version param1 param2) =
      f.opaqueData.length := by
    rw [challengeAuthOpaqueLength_encode version param1 param2 hcert hnonce hsummary]
    exact Nat.mod_eq_of_lt hroom
  have hpre := length_prefix_opaqueLength version param1 param2 hcert hnonce hsummary
  have henc := encode_eq_append (f := f) version param1 param2
  obtain ⟨c, n, m, o, sig⟩ := f
  simp only at hcert hnonce hsummary hsig hlen henc hpre
  have hheader : [version, spdmChallengeAuth, param1, param2].length = spdmChallengeAuthResponseSize :=
    rfl
  simp only [decodeChallengeAuth, hlen]
  simp only [ChallengeAuthFields.mk.injEq, henc]
  refine ⟨@field_of_eq _ [version, spdmChallengeAuth, param1, param2] c
      (n ++ m ++ writeUInt16 (UInt16.ofNat o.length) ++ o ++ sig) (by simp) _ _ hheader hcert,
    @field_of_eq _ ([version, spdmChallengeAuth, param1, param2] ++ c) n
      (m ++ writeUInt16 (UInt16.ofNat o.length) ++ o ++ sig) (by simp) _ _
      (by simp [hcert, spdmChallengeAuthResponseSize, spdmMessageHeaderSize]; omega) hnonce,
    @field_of_eq _ ([version, spdmChallengeAuth, param1, param2] ++ c ++ n) m
      (writeUInt16 (UInt16.ofNat o.length) ++ o ++ sig) (by simp) _ _
      (by simp [hcert, hnonce, spdmChallengeAuthResponseSize, spdmMessageHeaderSize]; omega) hsummary,
    @field_of_eq _ ([version, spdmChallengeAuth, param1, param2] ++ c ++ n ++ m ++
      writeUInt16 (UInt16.ofNat o.length)) o sig (by simp) _ _ (by simp [← hpre]; omega) rfl,
    @field_of_eq _ ([version, spdmChallengeAuth, param1, param2] ++ c ++ n ++ m ++
      writeUInt16 (UInt16.ofNat o.length) ++ o) sig [] (by simp) _ _ (by simp [← hpre]; omega) hsig⟩

end Layout

/-! ### The requester's header checks -/

/-- The checks `TrySpdmChallenge` makes of a `CHALLENGE_AUTH` before it reads a
field, each failure a `RETURN_DEVICE_ERROR`: the response has a whole header and fits
the response buffer; its auth attribute names the slot asked for, with the matching
slot mask; a request for mutual authentication meets the capability flags; and the
bytes go past `OpaqueLength`. -/
def challengeAuthHeaderOk (maxSize : Nat) (flags : UInt32) (slotNum : UInt8) (hashSize : Nat)
    (rsp : List UInt8) : Bool :=
  let param1 := rsp.getD 2 0
  let param2 := rsp.getD 3 0
  decide (spdmChallengeAuthResponseSize ≤ rsp.length) && decide (rsp.length ≤ maxSize) &&
    (if slotNum = 0xFF then authAttributeSlotNum param1 == 0xF && param2 == 0
      else authAttributeSlotNum param1 == slotNum && decide (param2.toNat = 2 ^ slotNum.toNat)) &&
    (authAttributeBasicMutAuthReq param1 != 1 ||
      flags &&& spdmGetCapabilitiesRequestFlagsMutAuthCap != 0) &&
    decide (challengeAuthOpaqueLengthOffset hashSize + 2 < rsp.length)

/-- The header checks pass exactly when each of them holds. -/
theorem challengeAuthHeaderOk_eq_true {maxSize : Nat} {flags : UInt32} {slotNum : UInt8}
    {hashSize : Nat} {rsp : List UInt8} :
    challengeAuthHeaderOk maxSize flags slotNum hashSize rsp = true ↔
      spdmChallengeAuthResponseSize ≤ rsp.length ∧ rsp.length ≤ maxSize ∧
      (if slotNum = 0xFF then authAttributeSlotNum (rsp.getD 2 0) = 0xF ∧ rsp.getD 3 0 = 0
        else authAttributeSlotNum (rsp.getD 2 0) = slotNum ∧
          (rsp.getD 3 0).toNat = 2 ^ slotNum.toNat) ∧
      (authAttributeBasicMutAuthReq (rsp.getD 2 0) = 1 →
        flags &&& spdmGetCapabilitiesRequestFlagsMutAuthCap ≠ 0) ∧
      challengeAuthOpaqueLengthOffset hashSize + 2 < rsp.length := by
  unfold challengeAuthHeaderOk
  split_ifs <;> simp [Bool.or_eq_true, imp_iff_not_or, and_assoc]

end OpenSpdm
