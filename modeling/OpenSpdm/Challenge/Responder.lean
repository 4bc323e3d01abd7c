import OpenSpdm.Challenge.Message
import OpenSpdm.Measurement
import OpenSpdm.SetData
import OpenSpdm.Signature

/-!
# The responder's CHALLENGE handler

`SpdmResponderLibChallengeAuth.c` answers a `CHALLENGE` with a `CHALLENGE_AUTH`
(`OpenSpdm.spdmGetResponseChallenge`). It is written against an older context
than the rest of the library: it signs with an RSA key it reads from a PEM in the
local context (`OpenSpdm.spdmGenerateChallengeSignature`), and it summarises the
measurements from a cached array of fixed-size blocks
(`OpenSpdm.calculateMeasurementSummaryHash`). It speaks SPDM 1.0: the slot is a
slot index, and `0xFF` is not one.

Four things about it are proved here.

* **The slot check is off by one.** The handler rejects `SlotNum > SlotCount`, so a
  request for the slot just past the provisioned ones is answered: the answer
  carries the hash of an empty slot and the mask of a slot that was never
  provisioned, a slot `SpdmGenerateCertChainHash` would refuse
  (`OpenSpdm.spdmGetResponseChallenge_cases`,
  `OpenSpdm.spdmGetResponseChallenge_unprovisionedSlot`).
* **`M1M2` is never reset.** The signer appends `A`, `B` and `C` to `M1M2` and hashes
  it, and nothing in the handler empties `M1M2` or `MessageC` afterwards; over a run
  of `CHALLENGE`s the ledger only grows (`OpenSpdm.respondToChallenges_isPrefix`),
  so the second signature covers the first exchange again
  (`OpenSpdm.respondToChallenges_reusesM1M2`).
* **What a `CHALLENGE_AUTH` from it is**: the layout of `OpenSpdm.Challenge.Message`
  with the fields the handler computed
  (`OpenSpdm.spdmGetResponseChallenge_cases`), which is what the
  requester's walk is checked against in `OpenSpdm.Challenge.Agreement`.
* **What its measurement summary covers**: over a cache of blocks laid out end to
  end, the digests of the blocks it takes, packed with no gap between them
  (`OpenSpdm.calculateMeasurementSummaryHash_cache`). Unlike
  `SpdmGenerateMeasurementSummaryHash` it hashes only the digests, and it compares
  the value type unmasked.

The helpers the handler calls with the older interface (`GetSpdmHashSize
(SpdmContext)`, `GetSpdmMeasurementHashSize (SpdmContext)`, `GetRandomNumber`) are
not among the sources: the hash and signature sizes are those of `OpenSpdm.SpdmCrypto`
at the negotiated algorithms, and the nonce is an argument.
-/

namespace OpenSpdm

/-! ### The certificate chain hash and the measurement summary -/

/-- `SpdmCalculateCertChainHash`: the hash of `CertificateChain[SlotNum]`, whatever the
slot holds; `none` past the array. -/
def spdmCalculateCertChainHash (crypto : SpdmCrypto) (ctx : SpdmDeviceContext) (slotNum : UInt8) :
    Option (List UInt8) :=
  if slotNum.toNat < maxSpdmSlotCount then
    some (crypto.hashAll ctx.connectionInfo.algorithm.baseHashAlgo
      (slotCertificateChain ctx slotNum.toNat))
  else none

/-- `sizeof (SPDM_MEASUREMENT_BLOCK_DMTF)`: the headers before a cached block's
digest. -/
def spdmMeasurementBlockDmtfSize : Nat :=
  spdmMeasurementBlockCommonHeaderSize + spdmMeasurementBlockDmtfHeaderSize

/-- The walks of `CalculateMeasurementSummaryHash` over `Count` cached blocks of
`MeasurmentBlockSize` bytes from `Offset`: the digests of the blocks the summary
takes, end to end (`LocalIndex` counts the copies). The TCB walk compares the value
type, unmasked, with `IMMUTABLE_ROM`; the walk over all blocks reads no type. `none`
where a read runs past `DeviceMeasurement`. -/
def cachedMeasurementDigests (allMeasurements : Bool) (deviceMeasurement : List UInt8)
    (hashSize : Nat) : Nat → Nat → Option (List UInt8)
  | 0, _ => some []
  | n + 1, offset =>
    let selected : Option Bool :=
      if allMeasurements then some true
      else deviceMeasurement[offset + spdmMeasurementBlockCommonHeaderSize]?.map
        (· == spdmMeasurementBlockMeasurementTypeImmutableRom)
    selected.bind fun copy =>
      (if copy then readBytes deviceMeasurement (offset + spdmMeasurementBlockDmtfSize) hashSize
        else some []).bind fun digest =>
        (cachedMeasurementDigests allMeasurements deviceMeasurement hashSize n
          (offset + spdmMeasurementBlockDmtfSize + hashSize)).map (digest ++ ·)

/-- `CalculateMeasurementSummaryHash`: zeroes, or the measurement hash of the selected
digests; `FALSE` (`some none`) for an unknown kind; `none` where
`ASSERT (DeviceMeasurementCount <= MAX_SPDM_MEASUREMENT_BLOCK_COUNT)` fails, a read
runs past the cached blocks, or the copies run past `MeasurementData`. -/
def calculateMeasurementSummaryHash (cfg : SpdmLibConfig) (crypto : SpdmCrypto)
    (ctx : SpdmDeviceContext) (measurementSummaryHashType : UInt8) : Option (Option (List UInt8)) :=
  let algo := ctx.connectionInfo.algorithm.measurementHashAlgo
  let hashSize := crypto.measurementHashSize algo
  let localContext := ctx.localContext
  if localContext.deviceMeasurementCount.toNat > cfg.maxSpdmMeasurementBlockCount then none else
  if measurementSummaryHashType = spdmChallengeRequestNoMeasurementSummaryHash then
    some (some (List.replicate hashSize 0))
  else if measurementSummaryHashType = spdmChallengeRequestTcbComponentMeasurementHash ∨
      measurementSummaryHashType = spdmChallengeRequestAllMeasurementsHash then
    (cachedMeasurementDigests (measurementSummaryHashType == spdmChallengeRequestAllMeasurementsHash)
        localContext.deviceMeasurement hashSize localContext.deviceMeasurementCount.toNat 0).bind
      fun measurementData =>
        if measurementData.length > cfg.maxHashSize * cfg.maxSpdmMeasurementBlockCount then none
        else some (some (crypto.measurementHashAll algo measurementData))
  else some none

/-! ### Signing and answering -/

/-- `SpdmGenerateChallengeSignature`: the signature of the hash of `M1M2` after the
appends of `OpenSpdm.challengeAuthTranscript`, `none` for `FALSE`, and the context
the appends leave. -/
def spdmGenerateChallengeSignature (crypto : SpdmCrypto) (ctx : SpdmDeviceContext)
    (responseMessage : List UInt8) : Option (List UInt8) × SpdmDeviceContext :=
  match ctx.localContext.privatePem with
  | none => (none, ctx)
  | some privatePem =>
    match crypto.rsaGetPrivateKeyFromPem privatePem with
    | none => (none, ctx)
    | some rsaContext =>
      let ctx := challengeAuthTranscript ctx responseMessage
      let algorithm := ctx.connectionInfo.algorithm
      (crypto.rsaPkcs1Sign rsaContext (crypto.hashAll algorithm.baseHashAlgo (ctx.ledger .m1m2))
        (crypto.asymSize algorithm.baseAsymAlgo), ctx)

/-- The `Size` bytes of a zeroed region after `CopyMem` of `Bytes` to its start, when
whatever runs past the region is written over afterwards. -/
def writtenRegion (size : Nat) (bytes : List UInt8) : List UInt8 :=
  (bytes ++ List.replicate size 0).take size

/-- `SpdmGetResponseChallenge`, with `responseSize` the size of the caller's response
buffer and `nonce` what `GetRandomNumber` draws: the response and the context. It
returns `RETURN_SUCCESS` on every path. `none` where it reads the request at or past
`RequestSize`, where `ASSERT (*ResponseSize >= TotalSize)` fails, or where a write
runs past the array it writes to. The measurement summary, a digest of the
measurement hash, is copied into a field of the base hash's size. -/
def spdmGetResponseChallenge (cfg : SpdmLibConfig) (crypto : SpdmCrypto) (ctx : SpdmDeviceContext)
    (request : List UInt8) (responseSize : Nat) (nonce : SpdmNonce) :
    Option (List UInt8 × SpdmDeviceContext) :=
  request[2]?.bind fun slotNum =>
  if slotNum.toNat > ctx.localContext.slotCount.toNat then
    some (spdmGenerateErrorResponse spdmErrorCodeInvalidRequest 0, ctx) else
  let algorithm := ctx.connectionInfo.algorithm
  let signatureSize := crypto.asymSize algorithm.baseAsymAlgo
  let hashSize := crypto.hashSize algorithm.baseHashAlgo
  if responseSize < challengeAuthTotalSize hashSize cfg.defaultOpaqueLength signatureSize then none else
  (spdmCalculateCertChainHash crypto ctx slotNum).bind fun certChainHash =>
  request[3]?.bind fun measurementHashType =>
  (calculateMeasurementSummaryHash cfg crypto ctx measurementHashType).bind fun
  | none => some (spdmGenerateErrorResponse spdmErrorCodeInvalidRequest 0, ctx)
  | some measurementSummaryHash =>
    if responseSize < spdmChallengeAuthResponseSize + hashSize + spdmNonceSize +
        measurementSummaryHash.length then none else
    let response := challengeAuthUnsigned spdmMessageVersion10 slotNum
      (UInt8.ofNat (2 ^ slotNum.toNat)) certChainHash nonce.bytes
      (writtenRegion hashSize measurementSummaryHash)
      (List.replicate cfg.defaultOpaqueLength cfg.defaultOpaqueData)
    match spdmGenerateChallengeSignature crypto ctx response with
    | (none, ctx) =>
      some (spdmGenerateErrorResponse spdmErrorCodeUnsupportedRequest spdmChallengeAuth, ctx)
    | (some signature, ctx) => some (response ++ signature, ctx)

/-! ### The signer -/

/-- Without a key the signer leaves the context alone; with one, the context is the one
its appends leave. -/
theorem spdmGenerateChallengeSignature_snd (crypto : SpdmCrypto) (ctx : SpdmDeviceContext)
    (responseMessage : List UInt8) :
    (spdmGenerateChallengeSignature crypto ctx responseMessage).2 = ctx ∨
      (spdmGenerateChallengeSignature crypto ctx responseMessage).2 =
        challengeAuthTranscript ctx responseMessage := by
  unfold spdmGenerateChallengeSignature
  split
  · exact .inl rfl
  · split
    · exact .inl rfl
    · exact .inr rfl

section Signer

variable {crypto : SpdmCrypto} {ctx : SpdmDeviceContext} {responseMessage : List UInt8}

/-- **What the signer signs**: the hash of `M1M2` as its appends leave it, with a
signature as long as the negotiated algorithm's. -/
theorem spdmGenerateChallengeSignature_eq_some {signature : List UInt8}
    (h : (spdmGenerateChallengeSignature crypto ctx responseMessage).1 = some signature) :
    (spdmGenerateChallengeSignature crypto ctx responseMessage).2 =
        challengeAuthTranscript ctx responseMessage ∧
      ∃ rsaContext, crypto.rsaPkcs1Sign rsaContext
          (crypto.hashAll ctx.connectionInfo.algorithm.baseHashAlgo
            ((challengeAuthTranscript ctx responseMessage).ledger .m1m2))
          (crypto.asymSize ctx.connectionInfo.algorithm.baseAsymAlgo) = some signature := by
  unfold spdmGenerateChallengeSignature at h ⊢
  split at h
  · cases h
  · rename_i privatePem _
    split at h
    · cases h
    · rename_i rsaContext _
      exact ⟨rfl, rsaContext, h⟩

theorem length_of_spdmGenerateChallengeSignature {signature : List UInt8}
    (h : (spdmGenerateChallengeSignature crypto ctx responseMessage).1 = some signature) :
    signature.length = crypto.asymSize ctx.connectionInfo.algorithm.baseAsymAlgo := by
  obtain ⟨-, rsaContext, hsign⟩ := spdmGenerateChallengeSignature_eq_some h
  exact crypto.rsaPkcs1Sign_length _ _ _ _ hsign

end Signer

/-! ### The measurement summary of a well-formed cache -/

theorem getElem?_encode_valueType (pre rest : List UInt8) (b : MeasurementBlock) :
    (pre ++ (b.encode ++ rest))[pre.length + spdmMeasurementBlockCommonHeaderSize]? =
      some b.valueType := by
  rw [List.getElem?_append_right (by omega), Nat.add_sub_cancel_left]
  rfl

theorem readBytes_encode_value (pre rest : List UInt8) (b : MeasurementBlock) :
    readBytes (pre ++ (b.encode ++ rest)) (pre.length + spdmMeasurementBlockDmtfSize)
      b.value.length = some b.value := by
  rw [readBytes_append]
  simp [readBytes, MeasurementBlock.encode, MeasurementBlock.measurement, writeUInt16,
    spdmMeasurementBlockDmtfSize, spdmMeasurementBlockCommonHeaderSize,
    spdmMeasurementBlockDmtfHeaderSize]
  omega

/-- Whether the responder's walk of a kind takes a cached block: every block for all
measurements, and for the TCB components a block whose value type, unmasked, is
`IMMUTABLE_ROM`. -/
def MeasurementBlock.isCached (allMeasurements : Bool) (b : MeasurementBlock) : Bool :=
  allMeasurements || b.valueType == spdmMeasurementBlockMeasurementTypeImmutableRom

/-- What the responder's summary covers over a cache of blocks: the digests of the
blocks its walk takes, in cache order. -/
def cachedMeasurementSummary (allMeasurements : Bool) : List MeasurementBlock → List UInt8
  | [] => []
  | b :: bs =>
    (if b.isCached allMeasurements then b.value else []) ++ cachedMeasurementSummary allMeasurements bs

/-- The walk over a cache of blocks whose values are digests of the measurement hash's
size reads each block where it was laid out. -/
theorem cachedMeasurementDigests_encode (allMeasurements : Bool) {hashSize : Nat}
    {bs : List MeasurementBlock} (h : ∀ b ∈ bs, b.value.length = hashSize) (pre rest : List UInt8) :
    cachedMeasurementDigests allMeasurements (pre ++ (encodeMeasurementRecord bs ++ rest)) hashSize
      bs.length pre.length = some (cachedMeasurementSummary allMeasurements bs) := by
  induction bs generalizing pre with
  | nil => rfl
  | cons b bs ih =>
    have hb := h b (.head _)
    have hnext := ih (fun b' hb' => h b' (.tail _ hb')) (pre ++ b.encode)
    have hoff : (pre ++ b.encode).length = pre.length + spdmMeasurementBlockDmtfSize + hashSize := by
      simp [spdmMeasurementBlockDmtfSize, hb, Nat.add_assoc]
    rw [hoff, List.append_assoc] at hnext
    have hvalue := readBytes_encode_value pre (encodeMeasurementRecord bs ++ rest) b
    rw [hb] at hvalue
    have hselect : (if allMeasurements then some true else
        some (b.valueType == spdmMeasurementBlockMeasurementTypeImmutableRom)) =
        some (b.isCached allMeasurements) := by
      cases allMeasurements <;> rfl
    simp only [encodeMeasurementRecord, List.append_assoc, List.length_cons, cachedMeasurementDigests,
      getElem?_encode_valueType, Option.map_some', hselect, Option.some_bind, cachedMeasurementSummary]
    cases b.isCached allMeasurements <;> simp [hvalue, hnext]

/-- The walk takes at most one digest a block. -/
theorem length_cachedMeasurementSummary_le (allMeasurements : Bool) {hashSize : Nat}
    {bs : List MeasurementBlock} (h : ∀ b ∈ bs, b.value.length = hashSize) :
    (cachedMeasurementSummary allMeasurements bs).length ≤ hashSize * bs.length := by
  induction bs with
  | nil => simp [cachedMeasurementSummary]
  | cons b bs ih =>
    have hrest := ih (fun b' hb' => h b' (.tail _ hb'))
    have hb := h b (.head _)
    simp only [cachedMeasurementSummary, List.length_append, List.length_cons, Nat.mul_succ]
    split <;> simp only [hb, List.length_nil] <;> omega

/-- **The responder's summary of a well-formed cache.** Take a cache that holds
`DeviceMeasurementCount` DMTF blocks end to end, at most
`MAX_SPDM_MEASUREMENT_BLOCK_COUNT` of them, each value a digest of the measurement
hash's size, at most `MAX_HASH_SIZE`. Then the TCB summary is the measurement hash of
the digests of the blocks whose value type is `IMMUTABLE_ROM`, end to end and with
nothing between them, and the summary of all measurements is that of every digest. -/
theorem calculateMeasurementSummaryHash_cache {cfg : SpdmLibConfig} {crypto : SpdmCrypto}
    {ctx : SpdmDeviceContext} {blocks : List MeasurementBlock} {rest : List UInt8}
    (hcache : ctx.localContext.deviceMeasurement = encodeMeasurementRecord blocks ++ rest)
    (hcount : ctx.localContext.deviceMeasurementCount.toNat = blocks.length)
    (hmax : blocks.length ≤ cfg.maxSpdmMeasurementBlockCount)
    (hdigest : ∀ b ∈ blocks,
      b.value.length = crypto.measurementHashSize ctx.connectionInfo.algorithm.measurementHashAlgo)
    (hhashMax : crypto.measurementHashSize ctx.connectionInfo.algorithm.measurementHashAlgo ≤
      cfg.maxHashSize)
    {t : UInt8} (ht : t = spdmChallengeRequestTcbComponentMeasurementHash ∨
      t = spdmChallengeRequestAllMeasurementsHash) :
    calculateMeasurementSummaryHash cfg crypto ctx t =
      some (some (crypto.measurementHashAll ctx.connectionInfo.algorithm.measurementHashAlgo
        (cachedMeasurementSummary (t == spdmChallengeRequestAllMeasurementsHash) blocks))) := by
  have hne : t ≠ spdmChallengeRequestNoMeasurementSummaryHash := by
    rcases ht with rfl | rfl <;> decide
  have hwalk := cachedMeasurementDigests_encode (t == spdmChallengeRequestAllMeasurementsHash) hdigest [] rest
  have hbound := (length_cachedMeasurementSummary_le (t == spdmChallengeRequestAllMeasurementsHash)
    hdigest).trans (Nat.mul_le_mul hhashMax hmax)
  simp only [List.nil_append, List.length_nil] at hwalk
  simp only [calculateMeasurementSummaryHash, hcount, hcache, hne, ht, hwalk, if_false, if_true,
    Nat.not_lt.mpr hmax, Nat.not_lt.mpr hbound, Option.some_bind]


/-- A cache of a mutable-firmware block and an immutable-ROM block, each with a
32-byte digest. -/
def sampleCachedBlocks : List MeasurementBlock :=
  [⟨1, 1, 1, List.replicate 32 0xAA, by decide⟩, ⟨2, 1, 0, List.replicate 32 0xBB, by decide⟩]

/-- A responder that caches `OpenSpdm.sampleCachedBlocks`. -/
def sampleCachingResponder : SpdmDeviceContext :=
  { spdmInitContext typicalSpdmLibConfig 0 0 with
    localContext.deviceMeasurementCount := 2
    localContext.deviceMeasurement := encodeMeasurementRecord sampleCachedBlocks }

theorem calculateMeasurementSummaryHash_cache_sample :
    sampleCachingResponder.localContext.deviceMeasurement =
      encodeMeasurementRecord sampleCachedBlocks ++ [] ∧
    sampleCachingResponder.localContext.deviceMeasurementCount.toNat = sampleCachedBlocks.length ∧
    sampleCachedBlocks.length ≤ typicalSpdmLibConfig.maxSpdmMeasurementBlockCount ∧
    (∀ b ∈ sampleCachedBlocks, b.value.length = sampleSpdmCrypto.measurementHashSize
      sampleCachingResponder.connectionInfo.algorithm.measurementHashAlgo) ∧
    sampleSpdmCrypto.measurementHashSize sampleCachingResponder.connectionInfo.algorithm.measurementHashAlgo ≤
      typicalSpdmLibConfig.maxHashSize ∧
    calculateMeasurementSummaryHash typicalSpdmLibConfig sampleSpdmCrypto sampleCachingResponder
        spdmChallengeRequestTcbComponentMeasurementHash =
      some (some (sampleSpdmCrypto.measurementHashAll
        sampleCachingResponder.connectionInfo.algorithm.measurementHashAlgo
        (cachedMeasurementSummary
          (spdmChallengeRequestTcbComponentMeasurementHash == spdmChallengeRequestAllMeasurementsHash)
          sampleCachedBlocks))) := by
  have hcache : sampleCachingResponder.localContext.deviceMeasurement =
      encodeMeasurementRecord sampleCachedBlocks ++ [] := (List.append_nil _).symm
  have hcount : sampleCachingResponder.localContext.deviceMeasurementCount.toNat =
      sampleCachedBlocks.length := rfl
  have hmax : sampleCachedBlocks.length ≤ typicalSpdmLibConfig.maxSpdmMeasurementBlockCount := by
    decide
  have hdigest : ∀ b ∈ sampleCachedBlocks, b.value.length = sampleSpdmCrypto.measurementHashSize
      sampleCachingResponder.connectionInfo.algorithm.measurementHashAlgo := by
    decide
  have hhashMax : sampleSpdmCrypto.measurementHashSize
      sampleCachingResponder.connectionInfo.algorithm.measurementHashAlgo ≤
      typicalSpdmLibConfig.maxHashSize := by
    decide
  exact ⟨hcache, hcount, hmax, hdigest, hhashMax,
    calculateMeasurementSummaryHash_cache hcache hcount hmax hdigest hhashMax (.inl rfl)⟩

/-! ### What the handler answers -/

/-- The handler answered a `CHALLENGE` for `SlotNum` with the `CHALLENGE_AUTH` of
fields `f`, leaving the context `ctx'`: the fields are the hash of that slot's chain,
the nonce drawn, the measurement summary the request asked for in its field, the
default opaque data and the signature of everything before it. -/
structure AnsweredChallenge (cfg : SpdmLibConfig) (crypto : SpdmCrypto) (ctx : SpdmDeviceContext)
    (request : List UInt8) (nonce : SpdmNonce) (slotNum : UInt8) (f : ChallengeAuthFields)
    (rsp : List UInt8) (ctx' : SpdmDeviceContext) : Prop where
  slotNum_eq : request[2]? = some slotNum
  slotNum_le : slotNum.toNat ≤ ctx.localContext.slotCount.toNat
  slotNum_lt : slotNum.toNat < maxSpdmSlotCount
  certChainHash : f.certChainHash =
    crypto.hashAll ctx.connectionInfo.algorithm.baseHashAlgo (slotCertificateChain ctx slotNum.toNat)
  nonce : f.nonce = nonce.bytes
  measurementSummaryHash : ∃ measurementHashType measurementSummaryHash,
    request[3]? = some measurementHashType ∧
    calculateMeasurementSummaryHash cfg crypto ctx measurementHashType = some (some measurementSummaryHash) ∧
    f.measurementSummaryHash =
      writtenRegion (crypto.hashSize ctx.connectionInfo.algorithm.baseHashAlgo) measurementSummaryHash
  opaqueData : f.opaqueData = List.replicate cfg.defaultOpaqueLength cfg.defaultOpaqueData
  signature : spdmGenerateChallengeSignature crypto ctx
    (challengeAuthUnsigned spdmMessageVersion10 slotNum (UInt8.ofNat (2 ^ slotNum.toNat))
      f.certChainHash f.nonce f.measurementSummaryHash f.opaqueData) = (some f.signature, ctx')
  response : rsp = f.encode spdmMessageVersion10 slotNum (UInt8.ofNat (2 ^ slotNum.toNat))

/-- **Everything the handler can answer**: an `ERROR`, with the context as it was or
as a failed signing left it, or a `CHALLENGE_AUTH` as `OpenSpdm.AnsweredChallenge`
describes it. -/
theorem spdmGetResponseChallenge_cases {cfg : SpdmLibConfig} {crypto : SpdmCrypto}
    {ctx ctx' : SpdmDeviceContext} {request rsp : List UInt8} {responseSize : Nat} {nonce : SpdmNonce}
    (h : spdmGetResponseChallenge cfg crypto ctx request responseSize nonce = some (rsp, ctx')) :
    (rsp.getD 1 0 = spdmError ∧
      (ctx' = ctx ∨ ∃ response, ctx' = (spdmGenerateChallengeSignature crypto ctx response).2)) ∨
    ∃ slotNum f, AnsweredChallenge cfg crypto ctx request nonce slotNum f rsp ctx' := by
  simp only [spdmGetResponseChallenge, Option.bind_eq_some] at h
  obtain ⟨slotNum, hslot, h⟩ := h
  split_ifs at h with hgt hsize
  · cases h; exact .inl ⟨rfl, .inl rfl⟩
  simp only [Option.bind_eq_some] at h
  obtain ⟨certChainHash, hcert, measurementHashType, htype, summary?, hsummary, h⟩ := h
  have hlt : slotNum.toNat < maxSpdmSlotCount := by
    by_contra hge; simp [spdmCalculateCertChainHash, hge] at hcert
  have hcert' : certChainHash = crypto.hashAll ctx.connectionInfo.algorithm.baseHashAlgo
      (slotCertificateChain ctx slotNum.toNat) := by
    simp [spdmCalculateCertChainHash, hlt] at hcert; exact hcert.symm
  cases summary? with
  | none => cases h; exact .inl ⟨rfl, .inl rfl⟩
  | some summary =>
    simp only at h
    split_ifs at h
    split at h
    next ctx₁ hsign =>
      cases h; exact .inl ⟨rfl, .inr ⟨_, by rw [hsign]⟩⟩
    next signature ctx₁ hsign =>
      cases h
      exact .inr ⟨slotNum, ⟨certChainHash, nonce.bytes, writtenRegion _ summary,
        List.replicate cfg.defaultOpaqueLength cfg.defaultOpaqueData, signature⟩,
        hslot, by omega, hlt, hcert', rfl, ⟨measurementHashType, summary, htype, hsummary, rfl⟩, rfl,
        hsign, rfl⟩

section Answers

variable {cfg : SpdmLibConfig} {crypto : SpdmCrypto} {ctx ctx' : SpdmDeviceContext}
  {request rsp : List UInt8} {responseSize : Nat} {nonce : SpdmNonce}

/-- The fields of an answer have the sizes the requester's walk expects. -/
theorem AnsweredChallenge.sized {slotNum : UInt8} {f : ChallengeAuthFields}
    (h : AnsweredChallenge cfg crypto ctx request nonce slotNum f rsp ctx') :
    f.Sized (crypto.hashSize ctx.connectionInfo.algorithm.baseHashAlgo)
      (crypto.asymSize ctx.connectionInfo.algorithm.baseAsymAlgo) where
  certChainHash := by rw [h.certChainHash, crypto.hashAll_length]
  nonce := by rw [h.nonce, nonce.length_bytes]
  measurementSummaryHash := by
    obtain ⟨_, _, -, -, hfield⟩ := h.measurementSummaryHash
    simp [hfield, writtenRegion]
  signature := length_of_spdmGenerateChallengeSignature (congrArg Prod.fst h.signature)

/-- The handler leaves the context as it was, or as the signer's appends left it. -/
theorem spdmGetResponseChallenge_context
    (h : spdmGetResponseChallenge cfg crypto ctx request responseSize nonce = some (rsp, ctx')) :
    ctx' = ctx ∨ ∃ response, ctx' = challengeAuthTranscript ctx response := by
  have hsigned : ∀ response, (spdmGenerateChallengeSignature crypto ctx response).2 = ctx ∨
      ∃ response', (spdmGenerateChallengeSignature crypto ctx response).2 =
        challengeAuthTranscript ctx response' := fun response =>
    (spdmGenerateChallengeSignature_snd crypto ctx response).imp_right fun h => ⟨response, h⟩
  rcases spdmGetResponseChallenge_cases h with ⟨-, rfl | ⟨response, rfl⟩⟩ | ⟨_, _, hans⟩
  · exact .inl rfl
  · exact hsigned response
  · have hctx := congrArg Prod.snd hans.signature
    simp only at hctx
    rw [← hctx]; exact hsigned _

/-- **The handler never takes a byte out of a ledger**: in particular it never resets
`M1M2`. -/
theorem ledger_isPrefix_spdmGetResponseChallenge
    (h : spdmGetResponseChallenge cfg crypto ctx request responseSize nonce = some (rsp, ctx'))
    (y : SpdmLedger) : ctx.ledger y <+: ctx'.ledger y := by
  rcases spdmGetResponseChallenge_context h with rfl | ⟨response, rfl⟩
  · exact List.prefix_refl _
  · exact ledger_isPrefix_challengeAuthTranscript ctx response y

end Answers

/-! ### Runs of the handler -/

/-- A run of the handler over `CHALLENGE`s with no other request between them, each
with the size of its response buffer and the nonce drawn for it: the responses and the
final context, `none` where a step is undefined. -/
def respondToChallenges (cfg : SpdmLibConfig) (crypto : SpdmCrypto) :
    SpdmDeviceContext → List (List UInt8 × Nat × SpdmNonce) →
      Option (List (List UInt8) × SpdmDeviceContext)
  | ctx, [] => some ([], ctx)
  | ctx, (request, responseSize, nonce) :: rest =>
    (spdmGetResponseChallenge cfg crypto ctx request responseSize nonce).bind fun (rsp, ctx) =>
      (respondToChallenges cfg crypto ctx rest).map fun (rsps, ctx) => (rsp :: rsps, ctx)

/-- A responder as `SpdmSetData` provisions it, with one slot holding a 40-byte
chain, and an RSA key in `PrivatePem`. -/
def sampleChallengeResponder : SpdmDeviceContext :=
  let ctx := (spdmSetData typicalSpdmLibConfig (spdmInitContext typicalSpdmLibConfig 0 0) .slotCount
    ⟨fun _ => 0⟩ [1]).2
  let ctx := (spdmSetData typicalSpdmLibConfig ctx .publicCertChains ⟨fun _ => 0⟩
    (List.replicate 40 1)).2
  { ctx with localContext.privatePem := some [1] }

/-- A full-size `CHALLENGE` for slot 0 without a measurement summary, with a 4 KiB
response buffer and the sample nonce. -/
def sampleChallengeExchange : List UInt8 × Nat × SpdmNonce :=
  (spdmChallengeRequest spdmMessageVersion10 0 spdmChallengeRequestNoMeasurementSummaryHash sampleNonce,
    0x1000, sampleNonce)

/-- **The ledgers only grow over a run**: whatever a run answers, every ledger at its
end starts with what it held at the start. -/
theorem respondToChallenges_isPrefix {cfg : SpdmLibConfig} {crypto : SpdmCrypto}
    {ctx ctx' : SpdmDeviceContext} {exchanges : List (List UInt8 × Nat × SpdmNonce)}
    {rsps : List (List UInt8)} (h : respondToChallenges cfg crypto ctx exchanges = some (rsps, ctx'))
    (y : SpdmLedger) : ctx.ledger y <+: ctx'.ledger y := by
  induction exchanges generalizing ctx rsps with
  | nil => cases h; exact List.prefix_refl _
  | cons exchange rest ih =>
    obtain ⟨request, responseSize, nonce⟩ := exchange
    simp only [respondToChallenges, Option.bind_eq_some, Option.map_eq_some'] at h
    obtain ⟨⟨rsp, ctx₁⟩, h₁, ⟨rsps', ctx₂⟩, h₂, heq⟩ := h
    cases heq
    exact (ledger_isPrefix_spdmGetResponseChallenge h₁ y).trans (ih h₂)

set_option maxRecDepth 4000 in
/-- Two `CHALLENGE`s for slot 0 on the sample responder: the run answers both, and
every ledger it ends with starts with what it held before. -/
theorem respondToChallenges_isPrefix_sample :
    ∃ rsps ctx', respondToChallenges typicalSpdmLibConfig sampleSpdmCrypto sampleChallengeResponder
        [sampleChallengeExchange, sampleChallengeExchange] = some (rsps, ctx') ∧
      ∀ y, sampleChallengeResponder.ledger y <+: ctx'.ledger y := by
  have hrun : (respondToChallenges typicalSpdmLibConfig sampleSpdmCrypto sampleChallengeResponder
      [sampleChallengeExchange, sampleChallengeExchange]).isSome = true := by decide
  obtain ⟨⟨rsps, ctx'⟩, h⟩ := Option.isSome_iff_exists.mp hrun
  exact ⟨rsps, ctx', h, respondToChallenges_isPrefix h⟩

/-! ### The sample responder, slot by slot and exchange after exchange -/

/-- With one slot provisioned, a `CHALLENGE` for slot 1 passes the handler's check
`SlotNum > SlotCount`: the answer is a `CHALLENGE_AUTH` with the mask of slot 1 and
the hash of the empty chain of that slot, a slot `SpdmGenerateCertChainHash` refuses. -/
theorem spdmGetResponseChallenge_unprovisionedSlot :
    sampleChallengeResponder.localContext.slotCount = 1 ∧
    (spdmGetResponseChallenge typicalSpdmLibConfig sampleSpdmCrypto sampleChallengeResponder
        (spdmChallengeRequest spdmMessageVersion10 1 spdmChallengeRequestNoMeasurementSummaryHash
          sampleNonce) 0x1000 sampleNonce).map
      (fun (rsp, _) => (rsp.getD 1 0, rsp.getD 3 0, (decodeChallengeAuth 32 32 rsp).certChainHash)) =
      some (spdmChallengeAuth, 2, sampleSpdmCrypto.hashAll 0 []) ∧
    spdmGenerateCertChainHash sampleSpdmCrypto sampleChallengeResponder 1 = none := by
  decide

set_option maxRecDepth 4000 in
/-- Two `CHALLENGE`s for slot 0 in a row. The first answer signs the hash of the 110
bytes of its own response, all of `A || B || C`; the second signs the hash of 330
bytes of `M1M2`, where `A || B || C` holds 220: the first exchange's 110 bytes are
hashed again ahead of the current ledgers. -/
theorem respondToChallenges_reusesM1M2 :
    (respondToChallenges typicalSpdmLibConfig sampleSpdmCrypto sampleChallengeResponder
        [sampleChallengeExchange, sampleChallengeExchange]).map (fun (rsps, ctx) =>
      (rsps.map (·.drop 110), (ctx.ledger .m1m2).length,
        (ctx.ledger .messageA ++ ctx.ledger .messageB ++ ctx.ledger .messageC).length)) =
      some ([sampleSignature 32 (sampleSpdmCrypto.hashAll 0 (List.replicate 110 0)),
        sampleSignature 32 (sampleSpdmCrypto.hashAll 0 (List.replicate 330 0))], 330, 220) := by
  decide

end OpenSpdm
