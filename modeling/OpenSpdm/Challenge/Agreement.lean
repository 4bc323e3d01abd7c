import OpenSpdm.Challenge.EncapResponder
import OpenSpdm.Challenge.Requester
import OpenSpdm.Challenge.Responder

/-!
# What the requester makes of the responders' CHALLENGE_AUTH

A `CHALLENGE_AUTH` is written by one side and read by the other: the responders lay
it out field after field (`OpenSpdm.spdmGetResponseChallenge`,
`OpenSpdm.spdmGetEncapResponseChallengeAuth`) and `TrySpdmChallenge` checks its
header, computes its size from `OpaqueLength` and walks it
(`OpenSpdm.handleChallengeAuth`). This file proves that the two agree.

The agreement is one statement about the layout
(`OpenSpdm.challengeAuthAgreement_encode`): a response laid out from fields of the
sizes the walk expects, with an auth attribute that names the slot asked for and
does not ask for mutual authentication, passes the receive step and every header
check the requester makes, has the size the requester computes from its
`OpaqueLength`, and walks back to the fields it was laid out from
(`OpenSpdm.ChallengeAuthAgreement`). Each responder then only has to say that what
it answers is such a layout, which its inversion lemma already does
(`OpenSpdm.AnsweredChallenge.agreement`, `OpenSpdm.EncapAnsweredChallenge.agreement`).

## Where the agreement stops

* **Neither responder answers `0xFF`.** The old responder speaks SPDM 1.0, where
  `0xFF` is not a slot index: its check `SlotNum > SlotCount` answers a `CHALLENGE`
  for `0xFF` with an `ERROR`, also when a slot is provisioned
  (`OpenSpdm.spdmGetResponseChallenge_allSlots`). The encapsulated responder lets
  `0xFF` through its check but shifts by it first, which is undefined
  (`OpenSpdm.encapSlotMask`). Both answer only for slot indices.
* **`OpaqueLength` has sixteen bits.** Opaque data of `2 ^ 16` bytes or more is
  laid out in full but announced modulo `2 ^ 16`
  (`OpenSpdm.challengeAuthOpaqueLength_encode`), and nothing in the library bounds
  `OpaqueChallengeAuthRspSize`.
* **The requester's buffer is bounded.** `SPDM_CHALLENGE_AUTH_RESPONSE_MAX` has room
  for `MAX_HASH_SIZE`, `MAX_SPDM_OPAQUE_DATA_SIZE` and `MAX_ASYM_KEY_SIZE` bytes; a
  longer response is a device error. And a response with neither opaque data nor a
  signature ends at `OpaqueLength`, which the check `SpdmResponseSize <= … +
  sizeof (UINT16)` rejects; every signature algorithm has signatures of some bytes.
-/

namespace OpenSpdm

/-- What the requester makes of a response `rsp` laid out with the fields `f`, a hash
size `hashSize` and a signature size `signatureSize`, when it asked for `slotNum` and
holds the capability flags `flags`: the receive step passes it on unchanged, the
header checks pass, the size computed from `OpaqueLength` is the size the encoder
computed from the opaque data, which is the response's length, and the walk returns
the fields. -/
structure ChallengeAuthAgreement (cfg : SpdmLibConfig) (flags : UInt32) (slotNum : UInt8)
    (hashSize signatureSize : Nat) (rsp : List UInt8) (f : ChallengeAuthFields) : Prop where
  receive : ∀ io ctx, receiveChallengeAuth io ctx rsp = .ok (rsp, ctx)
  header : challengeAuthHeaderOk (challengeAuthResponseMaxSize cfg) flags slotNum hashSize rsp = true
  totalSize : challengeAuthTotalSize hashSize (challengeAuthOpaqueLength hashSize rsp) signatureSize =
    challengeAuthTotalSize hashSize f.opaqueData.length signatureSize
  length : rsp.length = challengeAuthTotalSize hashSize f.opaqueData.length signatureSize
  fields : decodeChallengeAuth hashSize signatureSize rsp = f

/-- A `CHALLENGE_AUTH` of the requester's largest sizes fits its buffer. -/
theorem challengeAuthTotalSize_le_max {cfg : SpdmLibConfig} {hashSize opaqueLength signatureSize : Nat}
    (hhash : hashSize ≤ cfg.maxHashSize) (hopaqueMax : opaqueLength ≤ cfg.maxSpdmOpaqueDataSize)
    (hsig : signatureSize ≤ cfg.maxAsymKeySize) :
    challengeAuthTotalSize hashSize opaqueLength signatureSize ≤ challengeAuthResponseMaxSize cfg := by
  unfold challengeAuthTotalSize challengeAuthOpaqueLengthOffset challengeAuthResponseMaxSize
  omega

/-- The slot mask `1 << SlotNum` of a slot of the array, as a byte, is the power. -/
theorem toNat_slotMask {slotNum : UInt8} (h : slotNum.toNat < maxSpdmSlotCount) :
    (UInt8.ofNat (2 ^ slotNum.toNat)).toNat = 2 ^ slotNum.toNat :=
  Nat.mod_eq_of_lt (Nat.pow_lt_pow_right (by decide) (by simpa [maxSpdmSlotCount] using h))

/-- The header both responders write for a slot of the array is the one the requester
expects for that slot: the slot is its own auth attribute, with no request for mutual
authentication, and `1 << SlotNum` names it. -/
theorem slotHeader_of_lt {slotNum : UInt8} (h : slotNum.toNat < maxSpdmSlotCount) :
    (if slotNum = 0xFF then authAttributeSlotNum slotNum = 0xF ∧ UInt8.ofNat (2 ^ slotNum.toNat) = 0
      else authAttributeSlotNum slotNum = slotNum ∧
        (UInt8.ofNat (2 ^ slotNum.toNat)).toNat = 2 ^ slotNum.toNat) ∧
      authAttributeBasicMutAuthReq slotNum = 0 := by
  have hslot16 : slotNum.toNat < 16 := by simp only [maxSpdmSlotCount] at h; omega
  have hne : slotNum ≠ 0xFF := fun heq => absurd h (by subst heq; decide)
  obtain ⟨hslotNum, hbasic⟩ := authAttribute_of_lt hslot16
  rw [if_neg hne]
  exact ⟨⟨hslotNum, toNat_slotMask h⟩, hbasic⟩

section Layout

variable {cfg : SpdmLibConfig} {flags : UInt32} {slotNum version param1 param2 : UInt8}
  {f : ChallengeAuthFields} {hashSize signatureSize : Nat}

/-- **A laid-out `CHALLENGE_AUTH` is read back as it was laid out**, when its fields
have the sizes the walk expects, its auth attribute names the slot asked for without
asking for mutual authentication, its opaque data fits the 16 bits of
`OpaqueLength`, the whole fits the requester's buffer, and there is a signature. -/
theorem challengeAuthAgreement_encode (hsized : f.Sized hashSize signatureSize)
    (hslot : if slotNum = 0xFF then authAttributeSlotNum param1 = 0xF ∧ param2 = 0
      else authAttributeSlotNum param1 = slotNum ∧ param2.toNat = 2 ^ slotNum.toNat)
    (hbasic : authAttributeBasicMutAuthReq param1 = 0) (hroom : f.opaqueData.length < 2 ^ 16)
    (hfit : challengeAuthTotalSize hashSize f.opaqueData.length signatureSize ≤
      challengeAuthResponseMaxSize cfg)
    (hsig : 0 < signatureSize) :
    ChallengeAuthAgreement cfg flags slotNum hashSize signatureSize (f.encode version param1 param2) f := by
  have hlen := length_encode version param1 param2 hsized.certChainHash hsized.nonce
    hsized.measurementSummaryHash hsized.signature
  have hopaqueLength : challengeAuthOpaqueLength hashSize (f.encode version param1 param2) =
      f.opaqueData.length := by
    rw [challengeAuthOpaqueLength_encode version param1 param2 hsized.certChainHash hsized.nonce
      hsized.measurementSummaryHash, Nat.mod_eq_of_lt hroom]
  have hheader : spdmChallengeAuthResponseSize ≤ (f.encode version param1 param2).length := by
    rw [hlen]; unfold challengeAuthTotalSize challengeAuthOpaqueLengthOffset; omega
  refine ⟨fun io ctx => receiveChallengeAuth_of_code hheader (getD_encode_code ..), ?_,
    by rw [hopaqueLength], hlen,
    decodeChallengeAuth_encode version param1 param2 hsized.certChainHash hsized.nonce
      hsized.measurementSummaryHash hroom hsized.signature⟩
  rw [challengeAuthHeaderOk_eq_true, getD_encode_param1, getD_encode_param2]
  refine ⟨hheader, hlen ▸ hfit, hslot, fun h => absurd (hbasic ▸ h) (by decide), ?_⟩
  rw [hlen]; unfold challengeAuthTotalSize; omega

end Layout

/-! ### The two responders -/

/-- **What the old responder answers is read back as it was laid out**, for every
slot it answers, when the negotiated sizes and the default opaque data fit the
requester's buffer and the opaque size fits `OpaqueLength`. -/
theorem AnsweredChallenge.agreement {cfg : SpdmLibConfig} {crypto : SpdmCrypto}
    {ctx ctx' : SpdmDeviceContext} {request rsp : List UInt8} {nonce : SpdmNonce} {slotNum : UInt8}
    {f : ChallengeAuthFields} (flags : UInt32)
    (h : AnsweredChallenge cfg crypto ctx request nonce slotNum f rsp ctx')
    (hhash : getSpdmHashSize crypto ctx ≤ cfg.maxHashSize)
    (hsig : 0 < getSpdmAsymSize crypto ctx) (hsigMax : getSpdmAsymSize crypto ctx ≤ cfg.maxAsymKeySize)
    (hopaqueMax : cfg.defaultOpaqueLength ≤ cfg.maxSpdmOpaqueDataSize)
    (hopaque16 : cfg.defaultOpaqueLength < 2 ^ 16) :
    ChallengeAuthAgreement cfg flags slotNum (getSpdmHashSize crypto ctx) (getSpdmAsymSize crypto ctx)
      rsp f := by
  have hlen : f.opaqueData.length = cfg.defaultOpaqueLength := by simp [h.opaqueData]
  obtain ⟨hslot, hbasic⟩ := slotHeader_of_lt h.slotNum_lt
  rw [h.response]
  exact challengeAuthAgreement_encode h.sized hslot hbasic (hlen ▸ hopaque16)
    (challengeAuthTotalSize_le_max hhash (hlen ▸ hopaqueMax) hsigMax) hsig

/-- The fields of an encapsulated answer have the sizes the walk expects, with the
requester's signature size. -/
theorem EncapAnsweredChallenge.sized {cfg : SpdmLibConfig} {crypto : SpdmCrypto}
    {ctx ctx' : SpdmDeviceContext} {request rsp measurementData : List UInt8} {nonce : SpdmNonce}
    {slotNum : UInt8} {f : ChallengeAuthFields}
    (h : EncapAnsweredChallenge cfg crypto ctx request nonce measurementData slotNum f rsp ctx') :
    f.Sized (getSpdmHashSize crypto ctx) (crypto.reqAsymSize ctx.connectionInfo.algorithm.reqBaseAsymAlg) where
  certChainHash := by rw [h.certChainHash, crypto.hashAll_length]; rfl
  nonce := by rw [h.nonce, nonce.length_bytes]
  measurementSummaryHash := length_of_spdmGenerateMeasurementSummaryHash h.measurementSummaryHash
  signature := by
    obtain ⟨ctx₁, hsign, -⟩ := h.signature
    have := spdmGenerateChallengeAuthSignature_requester (congrArg Prod.fst hsign)
    simpa using crypto.requesterDataSign_length _ _ _ this

/-- **What the encapsulated responder answers is read back as it was laid out**, for
every slot it answers, when the negotiated sizes and the local opaque data fit the
requester's buffer and the opaque size fits `OpaqueLength`. -/
theorem EncapAnsweredChallenge.agreement {cfg : SpdmLibConfig} {crypto : SpdmCrypto}
    {ctx ctx' : SpdmDeviceContext} {request rsp measurementData : List UInt8} {nonce : SpdmNonce}
    {slotNum : UInt8} {f : ChallengeAuthFields} (flags : UInt32)
    (h : EncapAnsweredChallenge cfg crypto ctx request nonce measurementData slotNum f rsp ctx')
    (hhash : getSpdmHashSize crypto ctx ≤ cfg.maxHashSize)
    (hsig : 0 < crypto.reqAsymSize ctx.connectionInfo.algorithm.reqBaseAsymAlg)
    (hsigMax : crypto.reqAsymSize ctx.connectionInfo.algorithm.reqBaseAsymAlg ≤ cfg.maxAsymKeySize)
    (hopaqueMax : ctx.localContext.opaqueChallengeAuthRsp.length ≤ cfg.maxSpdmOpaqueDataSize)
    (hopaque16 : ctx.localContext.opaqueChallengeAuthRsp.length < 2 ^ 16) :
    ChallengeAuthAgreement cfg flags slotNum (getSpdmHashSize crypto ctx)
      (crypto.reqAsymSize ctx.connectionInfo.algorithm.reqBaseAsymAlg) rsp f := by
  obtain ⟨hslot, hbasic⟩ := slotHeader_of_lt h.slotNum_lt_max
  have hbits : slotNum &&& 0xF = slotNum := by
    rw [if_neg fun heq => absurd h.slotNum_lt_max (by subst heq; decide)] at hslot
    exact hslot.1
  rw [← h.opaqueData] at hopaqueMax hopaque16
  rw [h.response, hbits]
  exact challengeAuthAgreement_encode h.sized hslot hbasic hopaque16
    (challengeAuthTotalSize_le_max hhash hopaqueMax hsigMax) hsig

end OpenSpdm
