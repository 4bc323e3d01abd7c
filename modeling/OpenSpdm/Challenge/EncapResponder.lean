import OpenSpdm.Challenge.Message
import OpenSpdm.Measurement
import OpenSpdm.SetData
import OpenSpdm.Signature

/-!
# The requester's answer to an encapsulated CHALLENGE

Under mutual authentication the responder challenges the requester inside the
encapsulated-request flow, and the requester answers with
`SpdmGetEncapResponseChallengeAuth` (`OpenSpdm.spdmGetEncapResponseChallengeAuth`).
It is the newer of the two `CHALLENGE_AUTH` encoders: it checks the request's size,
keeps the request in `MessageMutC`, rejects a slot index at or past `SlotCount`,
hashes the chain of the slot asked for, signs `MutB || MutC` with the requester's key
and empties `M1M2` once it has signed.

What it answers is described once (`OpenSpdm.spdmGetEncapResponseChallengeAuth_cases`):
an `ERROR`, or a `CHALLENGE_AUTH` whose chain hash is that of a slot index below
`SlotCount` and whose slot mask names that slot.

**`0xFF` is never answered.** The handler stores `1 << SlotNum` in `Param2` before it
tests for `0xFF` and moves `ProvisionedSlotNum` into `SlotNum`. The shift is of the
`int` 1, and for `0xFF` it shifts by 255, past the width of `int`: undefined behaviour,
which the model takes for `none` as it does every other (`OpenSpdm.encapSlotMask`). So
the branch for `0xFF`, which would hash the slot `ProvisionedSlotNum`, is never reached
with a defined state (`OpenSpdm.encapSlotIndex` keeps it as the source has it). On
every context that `SpdmSetData` can provision (`OpenSpdm.Provisioned`) that shift,
the `ASSERT` of the buffer size and those of the measurement summary are the only ways
the handler fails; the `ASSERT` of `SpdmGenerateCertChainHash` never fails
(`OpenSpdm.spdmGetEncapResponseChallengeAuth_eq_none_iff`).

`OpaqueChallengeAuthRspSize` is stored in the 16-bit `OpaqueLength` with a cast, and
`SPDM_CHALLENGE_AUTH_RESPONSE_ATTRIBUTE` is stored as its byte: the slot bits
`SlotNum & 0xF`, with `Reserved` and `BasicMutAuthReq` zero. The handler returns
`RETURN_SUCCESS` on every path, and meets a response buffer smaller than the response
with `ASSERT (*ResponseSize >= TotalSize)`, where its comment promises
`RETURN_BUFFER_TOO_SMALL`.
-/

namespace OpenSpdm

/-- The `Param2` the encapsulated responder stores for a slot number: `1 << SlotNum`
as a byte, then zero when `SlotNum` is `0xFF`. The shift of the `int` 1 is defined
only while `2 ^ SlotNum` fits an `int`, that is below 31, and it is evaluated first;
`none` past that. -/
def encapSlotMask (slotNum : UInt8) : Option UInt8 :=
  if slotNum.toNat < 31 then some (if slotNum = 0xFF then 0 else UInt8.ofNat (2 ^ slotNum.toNat))
  else none

/-- The shift is defined only for a slot number that is not `0xFF`, and is then the
power. -/
theorem encapSlotMask_eq_some {slotNum mask : UInt8} (h : encapSlotMask slotNum = some mask) :
    slotNum ≠ 0xFF ∧ mask = UInt8.ofNat (2 ^ slotNum.toNat) := by
  unfold encapSlotMask at h
  split_ifs at h with hlt hff
  · subst hff
    exact absurd hlt (by decide)
  · exact ⟨hff, (Option.some.inj h).symm⟩

/-- A slot of the array is shifted to its power. -/
theorem encapSlotMask_of_lt {slotNum : UInt8} (h : slotNum.toNat < maxSpdmSlotCount) :
    encapSlotMask slotNum = some (UInt8.ofNat (2 ^ slotNum.toNat)) := by
  have hff : slotNum ≠ 0xFF := by
    rintro rfl
    exact absurd h (by decide)
  simp only [maxSpdmSlotCount] at h
  simp [encapSlotMask, hff, show slotNum.toNat < 31 by omega]

/-- The slot whose chain the encapsulated responder hashes for a slot number:
`ProvisionedSlotNum` stands in for `0xFF`, a branch the handler reaches only past the
shift `OpenSpdm.encapSlotMask`, which is undefined for `0xFF`. -/
def encapSlotIndex (ctx : SpdmDeviceContext) (slotNum : UInt8) : UInt8 :=
  if slotNum = 0xFF then ctx.localContext.provisionedSlotNum else slotNum

/-- `SpdmGetEncapResponseChallengeAuth`, with `responseSize` the size of the caller's
response buffer, `nonce` what `SpdmGetRandomNumber` draws and `measurementData` the
prior contents of the array `SpdmGenerateMeasurementSummaryHash` gathers into: the
response and the context. It returns `RETURN_SUCCESS` on every path. `none` where
`ASSERT (*ResponseSize >= TotalSize)` or an `ASSERT` of a callee fails. -/
def spdmGetEncapResponseChallengeAuth (cfg : SpdmLibConfig) (crypto : SpdmCrypto)
    (ctx : SpdmDeviceContext) (request : List UInt8) (responseSize : Nat) (nonce : SpdmNonce)
    (measurementData : List UInt8) : Option (List UInt8 × SpdmDeviceContext) :=
  if request.length ≠ spdmChallengeRequestSize then
    some (spdmGenerateErrorResponse spdmErrorCodeInvalidRequest 0, ctx) else
  let (status, ctx) := appendTranscript ctx .messageMutC request
  if status.isError then some (spdmGenerateErrorResponse spdmErrorCodeInvalidRequest 0, ctx) else
  let slotNum := request.getD 2 0
  if slotNum ≠ 0xFF ∧ slotNum.toNat ≥ ctx.localContext.slotCount.toNat then
    some (spdmGenerateErrorResponse spdmErrorCodeInvalidRequest 0, ctx) else
  let algorithm := ctx.connectionInfo.algorithm
  let signatureSize := crypto.reqAsymSize algorithm.reqBaseAsymAlg
  let hashSize := crypto.hashSize algorithm.baseHashAlgo
  let opaqueData := ctx.localContext.opaqueChallengeAuthRsp
  if responseSize < challengeAuthTotalSize hashSize opaqueData.length signatureSize then none else
  (encapSlotMask slotNum).bind fun slotMask =>
  (spdmGenerateCertChainHash crypto ctx (encapSlotIndex ctx slotNum).toNat).bind fun certChainHash =>
  (spdmGenerateMeasurementSummaryHash cfg crypto ctx measurementData (request.getD 3 0)).bind fun
  | none => some (spdmGenerateErrorResponse spdmErrorCodeInvalidRequest 0, ctx)
  | some measurementSummaryHash =>
    let response := challengeAuthUnsigned (challengeMessageVersion cfg ctx) (slotNum &&& 0xF) slotMask
      certChainHash nonce.bytes measurementSummaryHash opaqueData
    match spdmGenerateChallengeAuthSignature crypto ctx true response with
    | (none, ctx) =>
      some (spdmGenerateErrorResponse spdmErrorCodeUnsupportedRequest spdmChallengeAuth, ctx)
    | (some signature, ctx) => some (response ++ signature, resetTranscript ctx .m1m2)

/-! ### What the requester answers -/

/-- The requester answered an encapsulated `CHALLENGE` for `SlotNum` with the
`CHALLENGE_AUTH` of fields `f`: the request had its full size, the slot asked for is a
provisioned one, the fields are its chain hash, the nonce drawn, the measurement summary
asked for, the local opaque data and the signature of everything before it, and `M1M2`
was emptied after signing. -/
structure EncapAnsweredChallenge (cfg : SpdmLibConfig) (crypto : SpdmCrypto)
    (ctx : SpdmDeviceContext) (request : List UInt8) (nonce : SpdmNonce) (measurementData : List UInt8)
    (slotNum : UInt8) (f : ChallengeAuthFields) (rsp : List UInt8) (ctx' : SpdmDeviceContext) :
    Prop where
  request_length : request.length = spdmChallengeRequestSize
  slotNum_eq : request.getD 2 0 = slotNum
  slotNum_lt : slotNum.toNat < ctx.localContext.slotCount.toNat
  slotNum_lt_max : slotNum.toNat < maxSpdmSlotCount
  certChainHash : f.certChainHash = crypto.hashAll ctx.connectionInfo.algorithm.baseHashAlgo
    (slotCertificateChain ctx slotNum.toNat)
  nonce : f.nonce = nonce.bytes
  measurementSummaryHash : spdmGenerateMeasurementSummaryHash cfg crypto ctx measurementData
    (request.getD 3 0) = some (some f.measurementSummaryHash)
  opaqueData : f.opaqueData = ctx.localContext.opaqueChallengeAuthRsp
  signature : ∃ ctx₁, spdmGenerateChallengeAuthSignature crypto
    (appendTranscript ctx .messageMutC request).2 true
    (challengeAuthUnsigned (challengeMessageVersion cfg ctx) (slotNum &&& 0xF)
      (UInt8.ofNat (2 ^ slotNum.toNat))
      f.certChainHash f.nonce f.measurementSummaryHash f.opaqueData) = (some f.signature, ctx₁) ∧
    ctx' = resetTranscript ctx₁ .m1m2
  response : rsp = f.encode (challengeMessageVersion cfg ctx) (slotNum &&& 0xF)
    (UInt8.ofNat (2 ^ slotNum.toNat))

/-- **Everything the encapsulated responder can answer**: an `ERROR`, or a
`CHALLENGE_AUTH` as `OpenSpdm.EncapAnsweredChallenge` describes it. -/
theorem spdmGetEncapResponseChallengeAuth_cases {cfg : SpdmLibConfig} {crypto : SpdmCrypto}
    {ctx ctx' : SpdmDeviceContext} {request rsp measurementData : List UInt8} {responseSize : Nat}
    {nonce : SpdmNonce}
    (h : spdmGetEncapResponseChallengeAuth cfg crypto ctx request responseSize nonce measurementData =
      some (rsp, ctx')) :
    rsp.getD 1 0 = spdmError ∨
      ∃ slotNum f, EncapAnsweredChallenge cfg crypto ctx request nonce measurementData slotNum f rsp ctx' := by
  unfold spdmGetEncapResponseChallengeAuth at h
  split_ifs at h with hlen
  · cases h; exact .inl rfl
  simp only at h
  split_ifs at h with hstatus hslot hsize
  · cases h; exact .inl rfl
  · cases h; exact .inl rfl
  obtain ⟨slotMask, hmask, h⟩ := Option.bind_eq_some.mp h
  obtain ⟨hff, rfl⟩ := encapSlotMask_eq_some hmask
  obtain ⟨certChainHash, hcert, h⟩ := Option.bind_eq_some.mp h
  rw [encapSlotIndex, if_neg hff] at hcert
  obtain ⟨hlt, hltMax, rfl⟩ := spdmGenerateCertChainHash_eq_some.mp hcert
  obtain ⟨summary?, hsummary, h⟩ := Option.bind_eq_some.mp h
  cases summary? with
  | none => cases h; exact .inl rfl
  | some summary =>
    simp only at h
    split at h
    next ctx₁ hsign => cases h; exact .inl rfl
    next signature ctx₁ hsign =>
      cases h
      exact .inr ⟨_, ⟨_, nonce.bytes, summary, ctx.localContext.opaqueChallengeAuthRsp, signature⟩,
        not_not.mp hlen, rfl, hlt, hltMax, rfl, rfl, hsummary, rfl, ⟨ctx₁, hsign, rfl⟩, rfl⟩

/-- After a `CHALLENGE_AUTH`, `M1M2` is empty again. -/
theorem EncapAnsweredChallenge.ledger_m1m2 {cfg : SpdmLibConfig} {crypto : SpdmCrypto}
    {ctx ctx' : SpdmDeviceContext} {request rsp measurementData : List UInt8} {nonce : SpdmNonce}
    {slotNum : UInt8} {f : ChallengeAuthFields}
    (h : EncapAnsweredChallenge cfg crypto ctx request nonce measurementData slotNum f rsp ctx') :
    ctx'.ledger .m1m2 = [] := by
  obtain ⟨ctx₁, -, rfl⟩ := h.signature
  exact ledger_resetTranscript_self ctx₁ .m1m2

/-! ### Where a provisioned requester fails -/

section Frame

variable (cfg : SpdmLibConfig) (crypto : SpdmCrypto) (ctx : SpdmDeviceContext) (x : SpdmLedger)
  (data : List UInt8)

/-- Keeping the request in `MessageMutC` changes nothing the handler's callees read. -/
@[simp] theorem spdmGenerateCertChainHash_appendTranscript :
    spdmGenerateCertChainHash crypto (appendTranscript ctx x data).2 =
      spdmGenerateCertChainHash crypto ctx := rfl
@[simp] theorem encapSlotIndex_appendTranscript :
    encapSlotIndex (appendTranscript ctx x data).2 = encapSlotIndex ctx := rfl
@[simp] theorem spdmGenerateMeasurementSummaryHash_appendTranscript :
    spdmGenerateMeasurementSummaryHash cfg crypto (appendTranscript ctx x data).2 =
      spdmGenerateMeasurementSummaryHash cfg crypto ctx := rfl

end Frame

/-- On a context whose slots stay inside the array, a slot that passes the handler's
check has a defined mask, and its chain is hashed. -/
theorem SlotsBounded.encapSlot_eq_some {ctx : SpdmDeviceContext} (h : SlotsBounded ctx)
    (crypto : SpdmCrypto) {slotNum : UInt8} (hlt : slotNum.toNat < ctx.localContext.slotCount.toNat) :
    encapSlotMask slotNum = some (UInt8.ofNat (2 ^ slotNum.toNat)) ∧
      spdmGenerateCertChainHash crypto ctx (encapSlotIndex ctx slotNum).toNat =
        some (crypto.hashAll ctx.connectionInfo.algorithm.baseHashAlgo
          (slotCertificateChain ctx slotNum.toNat)) := by
  have hmax : slotNum.toNat < maxSpdmSlotCount := lt_of_lt_of_le hlt h.slotCount_le
  have hff : slotNum ≠ 0xFF := fun heq => absurd hmax (by subst heq; decide)
  rw [encapSlotIndex, if_neg hff]
  exact ⟨encapSlotMask_of_lt hmax, spdmGenerateCertChainHash_eq_some.mpr ⟨hlt, hmax, rfl⟩⟩

/-- **Where the encapsulated handler fails, on every provisioned requester.** Past the
checks that answer with an `ERROR`, it fails exactly when the response buffer is too
small, when `SlotNum` is `0xFF`, whose shift `1 << SlotNum` is undefined, or when
`SpdmGenerateMeasurementSummaryHash` fails an `ASSERT`. The `ASSERT` of
`SpdmGenerateCertChainHash` never fails: `SpdmSetData` keeps `SlotCount` within the
`CertificateChain` array. -/
theorem spdmGetEncapResponseChallengeAuth_eq_none_iff {cfg : SpdmLibConfig} {crypto : SpdmCrypto}
    {ctx : SpdmDeviceContext} (hprov : Provisioned cfg ctx) (request : List UInt8) (responseSize : Nat)
    (nonce : SpdmNonce) (measurementData : List UInt8) :
    spdmGetEncapResponseChallengeAuth cfg crypto ctx request responseSize nonce measurementData = none ↔
      request.length = spdmChallengeRequestSize ∧
      (appendTranscript ctx .messageMutC request).1.isError = false ∧
      ¬(request.getD 2 0 ≠ 0xFF ∧ (request.getD 2 0).toNat ≥ ctx.localContext.slotCount.toNat) ∧
      (responseSize < challengeAuthTotalSize (crypto.hashSize ctx.connectionInfo.algorithm.baseHashAlgo)
          ctx.localContext.opaqueChallengeAuthRsp.length
          (crypto.reqAsymSize ctx.connectionInfo.algorithm.reqBaseAsymAlg) ∨
        request.getD 2 0 = 0xFF ∨
        spdmGenerateMeasurementSummaryHash cfg crypto ctx measurementData (request.getD 3 0) = none) := by
  unfold spdmGetEncapResponseChallengeAuth
  by_cases hlen : request.length = spdmChallengeRequestSize
  swap
  · rw [if_pos hlen]
    exact iff_of_false (Option.some_ne_none _) fun h => hlen h.1
  rw [if_neg (not_not.mpr hlen)]
  simp only [appendTranscript_localContext, appendTranscript_connectionInfo,
    spdmGenerateCertChainHash_appendTranscript, encapSlotIndex_appendTranscript,
    spdmGenerateMeasurementSummaryHash_appendTranscript]
  cases hstatus : (appendTranscript ctx .messageMutC request).1.isError with
  | true => exact iff_of_false (Option.some_ne_none _) fun h => Bool.noConfusion h.2.1
  | false => ?_
  rw [if_neg Bool.false_ne_true]
  by_cases hslot : request.getD 2 0 ≠ 0xFF ∧ (request.getD 2 0).toNat ≥ ctx.localContext.slotCount.toNat
  · rw [if_pos hslot]
    exact iff_of_false (Option.some_ne_none _) fun h => h.2.2.1 hslot
  rw [if_neg hslot]
  by_cases hsize : responseSize < challengeAuthTotalSize
      (crypto.hashSize ctx.connectionInfo.algorithm.baseHashAlgo)
      ctx.localContext.opaqueChallengeAuthRsp.length
      (crypto.reqAsymSize ctx.connectionInfo.algorithm.reqBaseAsymAlg)
  · rw [if_pos hsize]
    exact iff_of_true rfl ⟨hlen, rfl, hslot, .inl hsize⟩
  rw [if_neg hsize]
  by_cases hff : request.getD 2 0 = 0xFF
  · rw [hff]
    exact iff_of_true rfl ⟨hlen, rfl, hff ▸ hslot, .inr (.inl rfl)⟩
  have hlt : (request.getD 2 0).toNat < ctx.localContext.slotCount.toNat := by
    simpa only [hff, ne_eq, not_false_eq_true, true_and, ge_iff_le, not_le] using hslot
  obtain ⟨hmask, hcert⟩ := hprov.slotsBounded.encapSlot_eq_some crypto hlt
  rw [hmask, Option.some_bind, hcert, Option.some_bind]
  cases hsummary : spdmGenerateMeasurementSummaryHash cfg crypto ctx measurementData (request.getD 3 0) with
  | none => exact iff_of_true rfl ⟨hlen, rfl, hslot, .inr (.inr rfl)⟩
  | some summary? =>
    refine iff_of_false ?_ fun h => h.2.2.2.elim hsize (Or.elim · hff Option.noConfusion)
    rw [Option.some_bind]
    cases summary? with
    | none => exact Option.some_ne_none _
    | some summary => dsimp only; split <;> exact Option.some_ne_none _

/-- A requester provisioned with one slot holding a 40-byte chain. -/
def sampleProvisionedRequester : SpdmDeviceContext :=
  setDataRun typicalSpdmLibConfig (spdmInitContext typicalSpdmLibConfig 0 0)
    [⟨.slotCount, ⟨fun _ => 0⟩, [1]⟩, ⟨.publicCertChains, ⟨fun _ => 0⟩, List.replicate 40 1⟩]

/-- The requester provisioned with slot 0 answers a `CHALLENGE` for slot 0, and
reaches the undefined shift on one for `0xFF`. -/
theorem spdmGetEncapResponseChallengeAuth_eq_none_iff_sample :
    Provisioned typicalSpdmLibConfig sampleProvisionedRequester ∧
    spdmGetEncapResponseChallengeAuth typicalSpdmLibConfig sampleSpdmCrypto sampleProvisionedRequester
      (spdmChallengeRequest spdmMessageVersion11 0 spdmChallengeRequestNoMeasurementSummaryHash sampleNonce)
      0x1000 sampleNonce [] ≠ none ∧
    spdmGetEncapResponseChallengeAuth typicalSpdmLibConfig sampleSpdmCrypto sampleProvisionedRequester
      (spdmChallengeRequest spdmMessageVersion11 0xFF spdmChallengeRequestNoMeasurementSummaryHash sampleNonce)
      0x1000 sampleNonce [] = none := by
  have hprov : Provisioned typicalSpdmLibConfig sampleProvisionedRequester :=
    (Provisioned.init 0 0).setDataRun _
  refine ⟨hprov, ?_, (spdmGetEncapResponseChallengeAuth_eq_none_iff hprov _ _ _ _).mpr
    ⟨rfl, rfl, by decide, .inr (.inl rfl)⟩⟩
  rw [Ne, spdmGetEncapResponseChallengeAuth_eq_none_iff hprov]
  decide

end OpenSpdm
