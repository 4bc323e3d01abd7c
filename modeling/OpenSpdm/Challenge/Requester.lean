import OpenSpdm.Challenge.Message
import OpenSpdm.SetData
import OpenSpdm.Signature

/-!
# The requester's CHALLENGE

`TrySpdmChallenge` sends one `CHALLENGE`, checks the `CHALLENGE_AUTH` that comes
back, and on success marks the connection authenticated;
`SpdmChallenge` retries it while it reports `RETURN_NO_RESPONSE`
(`OpenSpdm.trySpdmChallenge`, `OpenSpdm.spdmChallenge`).

The function is cut where it changes what it works on: the checks before anything is
sent (`OpenSpdm.spdmChallengePreconditions`), the request and its place in
`MessageC` (`OpenSpdm.challengeRequestContext`), what is done with the bytes received
before a `CHALLENGE_AUTH` is looked at (`OpenSpdm.receiveChallengeAuth`), and the
checks of the `CHALLENGE_AUTH` with everything after them
(`OpenSpdm.handleChallengeAuth`).

## What success establishes

`OpenSpdm.trySpdmChallenge_sound`: a `RETURN_SUCCESS`, the only return after which the
connection is authenticated and the `CHALLENGE` flag set, comes only from a context
whose receive flags and peer capabilities passed the checks, and a response that
passed all of its own (`OpenSpdm.ChallengeAuthAccepted`): it is a `CHALLENGE_AUTH`, it
is long enough for its `OpaqueLength` and the negotiated sizes, its auth attribute
names the slot asked for, its chain hash is the hash of the peer's chain, the peer's
leaf key accepts its signature over `M1M2`, and the encapsulated flow it asks for
succeeded. `OpenSpdm.spdmChallenge_sound` lifts this to the retry loop: the attempt that
succeeded starts from the context the retries before it left
(`OpenSpdm.ChallengeRetry`).

The gate on mutual authentication is what the code makes it: `BasicMutAuthReq` is
checked against the flags the *peer* advertised
(`ConnectionInfo.Capability.Flags`), with the requester's own bit
`SPDM_GET_CAPABILITIES_REQUEST_FLAGS_MUT_AUTH_CAP`. A requester that does not support
mutual authentication therefore runs the encapsulated flow and authenticates when a
responder that advertises it asks for it
(`OpenSpdm.trySpdmChallenge_mutAuthWithoutCapability`).

## Where the checks read a response

`OpenSpdm.ChallengeAuthParsed` lists what the checks of a `CHALLENGE_AUTH` can come to,
each with the bounds it is reached under (`OpenSpdm.handleChallengeAuth_parsed`). The
chain hash, nonce, measurement summary hash and `OpaqueLength` are read only past the
header checks, which put them inside the response; the signature check is made only
on a response as long as its `OpaqueLength` and the negotiated sizes say, with the
response up to its signature appended to `MessageC` after the request and the bytes
after that as the signature; and a shorter response fails with the transcript as the
request left it (`OpenSpdm.trySpdmChallenge_parsesWithinResponse`). The appends'
statuses are not looked at, where `SpdmGenerateChallengeAuthSignature` checks those of
the same appends: `MessageC` holds the request and the response when it has room for
them (`OpenSpdm.ledger_messageC_challengeRequest`), and once it is full, which nothing
between two `CHALLENGE`s prevents, it holds neither and the signature is checked over
what it held before (`OpenSpdm.ledger_messageC_challengeRequest_of_full`).

## `M1M2` from one challenge to the next

The requester empties `M1M2` once it has accepted a signature, and every other return
but a security violation leaves it as it was. With an `ERROR` handler that leaves
`M1M2` alone and an encapsulated flow that leaves it empty when it succeeds
(`OpenSpdm.SpdmChallengeIo.KeepsM1M2`), each call of a run of `SpdmChallenge` calls
(`OpenSpdm.challengeRun`) from an empty `M1M2` starts from an empty `M1M2` until one
ends in a security violation (`OpenSpdm.challengeRun_m1m2`): no earlier content stays in
front of what a call appends before its signature check, which is `A`, `B` and `C` when
they fit (`OpenSpdm.ledger_challengeAuthTranscript_m1m2`). `MessageC` is never emptied:
the second `CHALLENGE` of a run is signed over both exchanges
(`OpenSpdm.challengeRun_m1m2_sample`).

The transport (`SpdmSendSpdmRequest`, `SpdmReceiveSpdmResponse`), the handler of
`ERROR` responses and the encapsulated flow are not among the sources. What one
attempt gets from the transport is an argument (`OpenSpdm.ChallengeAttempt`), and the
other two are the fields of `OpenSpdm.SpdmChallengeIo`.
-/

namespace OpenSpdm

/-! ### What the requester gets from outside -/

/-- Modelled from the spec: the collaborators of `TrySpdmChallenge` whose bodies are
not among the sources. -/
structure SpdmChallengeIo where
  /-- `SpdmHandleErrorResponseMain (SpdmContext, NULL, &MessageC, sizeof (SpdmRequest),
  &SpdmResponseSize, &SpdmResponse, SPDM_CHALLENGE, SPDM_CHALLENGE_AUTH, …)`: the
  status, the response buffer and the context it leaves. -/
  handleErrorResponseMain : SpdmDeviceContext → List UInt8 →
    ReturnStatus × List UInt8 × SpdmDeviceContext
  /-- The handler succeeds only with a response of the code it is told to expect. -/
  handleErrorResponseMain_code : ∀ ctx rsp, (handleErrorResponseMain ctx rsp).1 = .success →
    (handleErrorResponseMain ctx rsp).2.1.getD 1 0 = spdmChallengeAuth
  /-- On success the handler has only fetched a response: the provisioning and the
  connection are as it found them. -/
  handleErrorResponseMain_frame : ∀ ctx rsp, (handleErrorResponseMain ctx rsp).1 = .success →
    (handleErrorResponseMain ctx rsp).2.2.localContext = ctx.localContext ∧
      (handleErrorResponseMain ctx rsp).2.2.connectionInfo = ctx.connectionInfo
  /-- `SpdmEncapsulatedRequest (SpdmContext, NULL, 0, NULL)`: the flow in which the
  responder challenges the requester. -/
  spdmEncapsulatedRequest : SpdmDeviceContext → ReturnStatus × SpdmDeviceContext

/-- What one attempt gets from outside: the nonce `SpdmGetRandomNumber` draws, the
status `SpdmSendSpdmRequest` returns, and the status and bytes of
`SpdmReceiveSpdmResponse`. -/
structure ChallengeAttempt where
  nonce : SpdmNonce
  sendStatus : ReturnStatus
  receiveStatus : ReturnStatus
  response : List UInt8

/-- What `TrySpdmChallenge` returns, the context it leaves, and what it copies to
`MeasurementHash`, if it gets that far. -/
structure ChallengeOutcome where
  status : ReturnStatus
  context : SpdmDeviceContext
  measurementHash : Option (List UInt8)

/-! ### The pieces of `TrySpdmChallenge` -/

/-- The checks `TrySpdmChallenge` makes before it sends anything: the status it
returns, or `none` to go on. -/
def spdmChallengePreconditions (ctx : SpdmDeviceContext) (slotNum : UInt8) : Option ReturnStatus :=
  if ctx.spdmCmdReceiveState &&& spdmNegotiateAlgorithmsReceiveFlag = 0 ∨
      ctx.spdmCmdReceiveState &&& spdmGetCapabilitiesReceiveFlag = 0 ∨
      ctx.spdmCmdReceiveState &&& spdmGetDigestsReceiveFlag = 0 then some .deviceError
  else if ctx.connectionInfo.capability.flags &&& spdmGetCapabilitiesResponseFlagsChalCap = 0 then
    some .deviceError
  else if slotNum.toNat ≥ maxSpdmSlotCount ∧ slotNum ≠ 0xFF then some .invalidParameter
  else if slotNum = 0xFF ∧ ctx.localContext.peerCertChainProvision = [] then some .invalidParameter
  else none

/-- The context once the request is sent: `ErrorState` set and the request appended
to `MessageC`, the status of the append ignored. -/
def challengeRequestContext (cfg : SpdmLibConfig) (ctx : SpdmDeviceContext)
    (slotNum measurementHashType : UInt8) (nonce : SpdmNonce) : SpdmDeviceContext :=
  let ctx := { ctx with errorState := .errorDeviceNoCapabilities }
  (appendTranscript ctx .messageC
    (spdmChallengeRequest (challengeMessageVersion cfg ctx) slotNum measurementHashType nonce)).2

/-- What `TrySpdmChallenge` does with the bytes it received before it looks at a
`CHALLENGE_AUTH`: fewer bytes than a header is a device error, an `ERROR` goes to the
error handler, whose failure is returned, and any other code but `CHALLENGE_AUTH` is a
device error. The response and the context to go on with, or the status to return
and the context to return it with. -/
def receiveChallengeAuth (io : SpdmChallengeIo) (ctx : SpdmDeviceContext) (rsp : List UInt8) :
    Except (ReturnStatus × SpdmDeviceContext) (List UInt8 × SpdmDeviceContext) :=
  if rsp.length < spdmMessageHeaderSize then .error (.deviceError, ctx)
  else if rsp.getD 1 0 = spdmError then
    let (status, rsp, ctx) := io.handleErrorResponseMain ctx rsp
    if status.isError then .error (status, ctx) else .ok (rsp, ctx)
  else if rsp.getD 1 0 ≠ spdmChallengeAuth then .error (.deviceError, ctx)
  else .ok (rsp, ctx)

/-- The fields of a response as `TrySpdmChallenge` walks it, with the negotiated hash
and signature sizes. -/
def receivedFields (crypto : SpdmCrypto) (ctx : SpdmDeviceContext) (rsp : List UInt8) :
    ChallengeAuthFields :=
  decodeChallengeAuth (getSpdmHashSize crypto ctx) (getSpdmAsymSize crypto ctx) rsp

/-- The size `TrySpdmChallenge` gives a response: the negotiated sizes and the
response's own `OpaqueLength`. -/
def receivedTotalSize (crypto : SpdmCrypto) (ctx : SpdmDeviceContext) (rsp : List UInt8) : Nat :=
  challengeAuthTotalSize (getSpdmHashSize crypto ctx)
    (challengeAuthOpaqueLength (getSpdmHashSize crypto ctx) rsp) (getSpdmAsymSize crypto ctx)

/-- The context in which `TrySpdmChallenge` checks the signature: the response up to
its signature appended to `MessageC`, then `A`, `B` and `C` to `M1M2`. -/
def challengeAuthSignedContext (crypto : SpdmCrypto) (ctx : SpdmDeviceContext) (rsp : List UInt8) :
    SpdmDeviceContext :=
  challengeAuthTranscript ctx (rsp.take (receivedTotalSize crypto ctx rsp - getSpdmAsymSize crypto ctx))

/-- The end of `TrySpdmChallenge`, from a context whose `ErrorState` is cleared and
whose `M1M2` is emptied after the signature was accepted: when the responder asked for
mutual authentication, the encapsulated flow, whose failure is a security violation,
and otherwise the `CHALLENGE` flag and the authenticated state. The measurement hash
has been copied out by then. -/
def challengeAuthVerified (io : SpdmChallengeIo) (ctx : SpdmDeviceContext) (basicMutAuthReq : Bool)
    (measurementHash : List UInt8) : ChallengeOutcome :=
  let (status, ctx) := if basicMutAuthReq then io.spdmEncapsulatedRequest ctx else (.success, ctx)
  if status.isError then
    ⟨.securityViolation, { ctx with errorState := .errorCertificateFailure }, some measurementHash⟩
  else
    ⟨.success,
      { ctx with
        spdmCmdReceiveState := ctx.spdmCmdReceiveState ||| spdmChallengeReceiveFlag
        connectionInfo.connectionState := .authenticated },
      some measurementHash⟩

/-- `TrySpdmChallenge` from its checks of a `CHALLENGE_AUTH` on: the header checks, the
chain hash, the length `OpaqueLength` asks for, the appends to `MessageC` and `M1M2`,
the signature, and what follows an accepted one. `none` where the signature check
is undefined. -/
def handleChallengeAuth (cfg : SpdmLibConfig) (crypto : SpdmCrypto) (io : SpdmChallengeIo)
    (ctx : SpdmDeviceContext) (slotNum : UInt8) (rsp : List UInt8) : Option ChallengeOutcome :=
  if !challengeAuthHeaderOk (challengeAuthResponseMaxSize cfg) ctx.connectionInfo.capability.flags
      slotNum (getSpdmHashSize crypto ctx) rsp then some ⟨.deviceError, ctx, none⟩ else
  let fields := receivedFields crypto ctx rsp
  if !spdmVerifyCertificateChainHash crypto ctx fields.certChainHash then
    some ⟨.securityViolation, { ctx with errorState := .errorCertificateFailure }, none⟩ else
  if rsp.length < receivedTotalSize crypto ctx rsp then some ⟨.deviceError, ctx, none⟩ else
  let ctx := challengeAuthSignedContext crypto ctx rsp
  (spdmVerifyChallengeAuthSignature crypto ctx true fields.signature).map fun verified =>
    if !verified then ⟨.securityViolation, { ctx with errorState := .errorCertificateFailure }, none⟩
    else challengeAuthVerified io (resetTranscript { ctx with errorState := .success } .m1m2)
      (authAttributeBasicMutAuthReq (rsp.getD 2 0) == 1) fields.measurementSummaryHash

/-- `TrySpdmChallenge`, for one attempt with what it gets from outside. -/
def trySpdmChallenge (cfg : SpdmLibConfig) (crypto : SpdmCrypto) (io : SpdmChallengeIo)
    (ctx : SpdmDeviceContext) (slotNum measurementHashType : UInt8) (attempt : ChallengeAttempt) :
    Option ChallengeOutcome :=
  match spdmChallengePreconditions ctx slotNum with
  | some status => some ⟨status, ctx, none⟩
  | none =>
    if attempt.sendStatus.isError then
      some ⟨.deviceError, { ctx with errorState := .errorDeviceNoCapabilities }, none⟩ else
    let ctx := challengeRequestContext cfg ctx slotNum measurementHashType attempt.nonce
    if attempt.receiveStatus.isError then some ⟨.deviceError, ctx, none⟩ else
    match receiveChallengeAuth io ctx attempt.response with
    | .error (status, ctx) => some ⟨status, ctx, none⟩
    | .ok (rsp, ctx) => handleChallengeAuth cfg crypto io ctx slotNum rsp

/-- The `do … while (Retry-- != 0)` loop of `SpdmChallenge`: attempt `k` first, and
another while the last one reported `RETURN_NO_RESPONSE` and retries are left. -/
def spdmChallengeLoop (cfg : SpdmLibConfig) (crypto : SpdmCrypto) (io : SpdmChallengeIo)
    (slotNum measurementHashType : UInt8) (attempts : Nat → ChallengeAttempt) :
    Nat → Nat → SpdmDeviceContext → Option ChallengeOutcome
  | 0, k, ctx => trySpdmChallenge cfg crypto io ctx slotNum measurementHashType (attempts k)
  | retry + 1, k, ctx =>
    (trySpdmChallenge cfg crypto io ctx slotNum measurementHashType (attempts k)).bind fun out =>
      if out.status = .noResponse then
        spdmChallengeLoop cfg crypto io slotNum measurementHashType attempts retry (k + 1) out.context
      else some out

/-- `SpdmChallenge`: `RetryTimes` retries after the first attempt, attempt `k` getting
`attempts k` from outside. -/
def spdmChallenge (cfg : SpdmLibConfig) (crypto : SpdmCrypto) (io : SpdmChallengeIo)
    (ctx : SpdmDeviceContext) (slotNum measurementHashType : UInt8)
    (attempts : Nat → ChallengeAttempt) : Option ChallengeOutcome :=
  spdmChallengeLoop cfg crypto io slotNum measurementHashType attempts ctx.retryTimes.toNat 0 ctx

/-! ### A requester to run -/

/-- A requester that has run `GET_CAPABILITIES`, `NEGOTIATE_ALGORITHMS` and
`GET_DIGESTS` with a responder advertising `CHAL_CAP` and `MUT_AUTH_CAP`, that has
the responder's 40-byte chain provisioned, and that does not support mutual
authentication itself: its own capability flags are zero. -/
def sampleChallengeRequester : SpdmDeviceContext :=
  let ctx := spdmInitContext typicalSpdmLibConfig 0 0
  { ctx with
    spdmCmdReceiveState :=
      spdmGetCapabilitiesReceiveFlag ||| spdmNegotiateAlgorithmsReceiveFlag ||| spdmGetDigestsReceiveFlag
    connectionInfo.capability.flags :=
      spdmGetCapabilitiesResponseFlagsChalCap ||| spdmGetCapabilitiesRequestFlagsMutAuthCap
    localContext.peerCertChainProvision := List.replicate 40 1 }

/-- Collaborators for running the requester: an error handler that always fails and
an encapsulated flow that succeeds without touching the context. -/
def sampleChallengeIo : SpdmChallengeIo where
  handleErrorResponseMain ctx rsp := (.deviceError, rsp, ctx)
  handleErrorResponseMain_code _ _ h := by cases h
  handleErrorResponseMain_frame _ _ h := by cases h
  spdmEncapsulatedRequest ctx := (.success, ctx)

/-- A `CHALLENGE_AUTH` for slot 0 of the sample chain that asks for mutual
authentication (`Param1 = 0x80`), with no measurement summary, no opaque data, and
the signature the sample collaborator makes of the 138 bytes of `M1M2` the requester
will hold: its 36-byte request and the 102 bytes before the signature. -/
def sampleMutAuthChallengeAuth : List UInt8 :=
  ChallengeAuthFields.encode
    ⟨List.replicate 32 40, sampleNonce.bytes, List.replicate 32 0, [], List.replicate 32 138⟩
    spdmMessageVersion10 0x80 0x01

/-- The same `CHALLENGE_AUTH` for a second `CHALLENGE` on the connection: its signature
is of the 276 bytes of `M1M2` the requester will then hold, since `MessageC` still
holds the first exchange's 138 bytes when the second request and response are appended. -/
def sampleSecondChallengeAuth : List UInt8 :=
  ChallengeAuthFields.encode
    ⟨List.replicate 32 40, sampleNonce.bytes, List.replicate 32 0, [], List.replicate 32 20⟩
    spdmMessageVersion10 0x80 0x01

/-! ### The pieces, one lemma each -/

/-- The checks before sending pass exactly when the receive flags and the peer's
`CHAL_CAP` are set and the slot is one of the array or `0xFF` with a provisioned chain. -/
theorem spdmChallengePreconditions_eq_none {ctx : SpdmDeviceContext} {slotNum : UInt8} :
    spdmChallengePreconditions ctx slotNum = none ↔
      (ctx.spdmCmdReceiveState &&& spdmNegotiateAlgorithmsReceiveFlag ≠ 0 ∧
        ctx.spdmCmdReceiveState &&& spdmGetCapabilitiesReceiveFlag ≠ 0 ∧
        ctx.spdmCmdReceiveState &&& spdmGetDigestsReceiveFlag ≠ 0) ∧
      ctx.connectionInfo.capability.flags &&& spdmGetCapabilitiesResponseFlagsChalCap ≠ 0 ∧
      (slotNum.toNat < maxSpdmSlotCount ∨ slotNum = 0xFF) ∧
      (slotNum = 0xFF → ctx.localContext.peerCertChainProvision ≠ []) := by
  unfold spdmChallengePreconditions
  split_ifs with hflags hcap hslot hprov <;> simp only [reduceCtorEq, false_iff, true_iff]
  · exact fun h => by simp_all
  · exact fun h => h.2.1 hcap
  · exact fun h => h.2.2.1.elim (fun hlt => absurd hslot.1 (by omega)) hslot.2
  · exact fun h => h.2.2.2 hprov.1 hprov.2
  · simp only [not_or, not_and, not_le] at hflags hslot
    exact ⟨hflags, hcap, Classical.or_iff_not_imp_right.mpr fun hne => by_contra fun hge =>
      hslot (Nat.not_lt.mp hge) hne, fun h => not_and.mp hprov h⟩

@[simp] theorem challengeRequestContext_localContext (cfg : SpdmLibConfig) (ctx : SpdmDeviceContext)
    (slotNum measurementHashType : UInt8) (nonce : SpdmNonce) :
    (challengeRequestContext cfg ctx slotNum measurementHashType nonce).localContext =
      ctx.localContext := rfl

@[simp] theorem challengeRequestContext_connectionInfo (cfg : SpdmLibConfig) (ctx : SpdmDeviceContext)
    (slotNum measurementHashType : UInt8) (nonce : SpdmNonce) :
    (challengeRequestContext cfg ctx slotNum measurementHashType nonce).connectionInfo =
      ctx.connectionInfo := rfl

@[simp] theorem ledger_challengeRequestContext_of_ne {cfg : SpdmLibConfig} {ctx : SpdmDeviceContext}
    {slotNum measurementHashType : UInt8} {nonce : SpdmNonce} {y : SpdmLedger} (hy : y ≠ .messageC) :
    (challengeRequestContext cfg ctx slotNum measurementHashType nonce).ledger y = ctx.ledger y :=
  ledger_appendTranscript_of_ne _ _ hy

/-- What goes on past the receive step is a `CHALLENGE_AUTH`, in a context whose
provisioning and connection are those the step was given. -/
theorem receiveChallengeAuth_eq_ok {io : SpdmChallengeIo} {ctx ctx' : SpdmDeviceContext}
    {rsp rsp' : List UInt8} (h : receiveChallengeAuth io ctx rsp = .ok (rsp', ctx')) :
    rsp'.getD 1 0 = spdmChallengeAuth ∧ ctx'.localContext = ctx.localContext ∧
      ctx'.connectionInfo = ctx.connectionInfo := by
  unfold receiveChallengeAuth at h
  split_ifs at h with hlen herror hcode
  · rcases hh : io.handleErrorResponseMain ctx rsp with ⟨status, rsp₁, ctx₁⟩
    rw [hh] at h
    simp only at h
    split_ifs at h with hstatus
    cases h
    have hs : (io.handleErrorResponseMain ctx rsp).1 = .success := by
      rw [hh]; simpa using hstatus
    have hcode' := io.handleErrorResponseMain_code ctx rsp hs
    have hframe := io.handleErrorResponseMain_frame ctx rsp hs
    rw [hh] at hcode' hframe
    exact ⟨hcode', hframe⟩
  · cases h
    exact ⟨not_not.mp hcode, rfl, rfl⟩

/-- The checks before sending never report success. -/
theorem spdmChallengePreconditions_ne_success {ctx : SpdmDeviceContext} {slotNum : UInt8}
    {status : ReturnStatus} (h : spdmChallengePreconditions ctx slotNum = some status) :
    status ≠ .success := by
  unfold spdmChallengePreconditions at h
  split_ifs at h <;> (cases h; decide)

/-- The receive step never stops with success. -/
theorem receiveChallengeAuth_error_ne_success {io : SpdmChallengeIo} {ctx ctx' : SpdmDeviceContext}
    {rsp : List UInt8} {status : ReturnStatus}
    (h : receiveChallengeAuth io ctx rsp = .error (status, ctx')) : status ≠ .success := by
  unfold receiveChallengeAuth at h
  split_ifs at h with hlen herror
  · cases h; decide
  · generalize io.handleErrorResponseMain ctx rsp = r at h
    obtain ⟨status₁, rsp₁, ctx₁⟩ := r
    dsimp only at h
    split_ifs at h with hstatus
    cases h
    simpa using hstatus
  · cases h; decide

/-- `a ||| b` has every bit of `b` set. -/
theorem uint64_or_and_right_self (a b : UInt64) : (a ||| b) &&& b = b := by
  apply UInt64.eq_of_toBitVec_eq
  show (a.toBitVec ||| b.toBitVec) &&& b.toBitVec = b.toBitVec
  ext i
  simp only [BitVec.getLsbD_and, BitVec.getLsbD_or]
  cases a.toBitVec.getLsbD i <;> cases b.toBitVec.getLsbD i <;> rfl

/-! ### Where the checks read a `CHALLENGE_AUTH` -/

/-- What the checks of a `CHALLENGE_AUTH` `rsp`, made in the context `ctx`, can come
to, each with the bounds it is reached under. `L` is `OpenSpdm.receivedTotalSize`,
`sizeof (SPDM_CHALLENGE_AUTH_RESPONSE) + 2 * HashSize + SPDM_NONCE_SIZE + 2 +
OpaqueLength + SignatureSize`, with the `OpaqueLength` read out of `rsp`. -/
inductive ChallengeAuthParsed (cfg : SpdmLibConfig) (crypto : SpdmCrypto) (ctx : SpdmDeviceContext)
    (slotNum : UInt8) (rsp : List UInt8) : Option ChallengeOutcome → Prop
  /-- A header check fails: a device error, with the context as it was. -/
  | header : challengeAuthHeaderOk (challengeAuthResponseMaxSize cfg) ctx.connectionInfo.capability.flags
        slotNum (getSpdmHashSize crypto ctx) rsp = false →
      ChallengeAuthParsed cfg crypto ctx slotNum rsp (some ⟨.deviceError, ctx, none⟩)
  /-- Past the header checks, which leave `OpaqueLength` inside `rsp`, the chain hash
  `rsp[4, 4 + HashSize)` is not the hash of the peer's chain: a security violation,
  with only `ErrorState` changed. -/
  | certChainHash : challengeAuthOpaqueLengthOffset (getSpdmHashSize crypto ctx) + 2 < rsp.length →
      spdmVerifyCertificateChainHash crypto ctx
        ((rsp.drop spdmChallengeAuthResponseSize).take (getSpdmHashSize crypto ctx)) = false →
      ChallengeAuthParsed cfg crypto ctx slotNum rsp
        (some ⟨.securityViolation, { ctx with errorState := .errorCertificateFailure }, none⟩)
  /-- Past the header checks, `rsp` is shorter than `L`: a device error, with the
  context as it was. -/
  | short : challengeAuthOpaqueLengthOffset (getSpdmHashSize crypto ctx) + 2 < rsp.length →
      rsp.length < receivedTotalSize crypto ctx rsp →
      ChallengeAuthParsed cfg crypto ctx slotNum rsp (some ⟨.deviceError, ctx, none⟩)
  /-- `rsp` holds all `L` bytes: what follows is decided by the signature check, made
  in the context with `rsp[0, L - SignatureSize)` appended to `MessageC` (and `A`, `B`
  and `C` to `M1M2`), on the signature `rsp[L - SignatureSize, L)`. -/
  | signature (k : Bool → ChallengeOutcome) : receivedTotalSize crypto ctx rsp ≤ rsp.length →
      ChallengeAuthParsed cfg crypto ctx slotNum rsp
        ((spdmVerifyChallengeAuthSignature crypto
          (challengeAuthTranscript ctx
            (rsp.take (receivedTotalSize crypto ctx rsp - getSpdmAsymSize crypto ctx))) true
          ((rsp.drop (receivedTotalSize crypto ctx rsp - getSpdmAsymSize crypto ctx)).take
            (getSpdmAsymSize crypto ctx))).map k)

/-- **Every outcome of the checks of a `CHALLENGE_AUTH`**, for every response and every
context. -/
theorem handleChallengeAuth_parsed (cfg : SpdmLibConfig) (crypto : SpdmCrypto) (io : SpdmChallengeIo)
    (ctx : SpdmDeviceContext) (slotNum : UInt8) (rsp : List UInt8) :
    ChallengeAuthParsed cfg crypto ctx slotNum rsp (handleChallengeAuth cfg crypto io ctx slotNum rsp) := by
  unfold handleChallengeAuth
  dsimp only
  split_ifs with hheader hhash hlen
  · exact .header (by simpa using hheader)
  all_goals have hoff := (challengeAuthHeaderOk_eq_true.mp (by simpa using hheader)).2.2.2.2
  · exact .certChainHash hoff (by simpa using hhash)
  · exact .short hoff hlen
  · have hsig : (receivedFields crypto ctx rsp).signature =
        (rsp.drop (receivedTotalSize crypto ctx rsp - getSpdmAsymSize crypto ctx)).take
          (getSpdmAsymSize crypto ctx) := by
      show (rsp.drop (challengeAuthOpaqueLengthOffset _ + 2 + challengeAuthOpaqueLength _ rsp)).take _ = _
      congr 2
      unfold receivedTotalSize challengeAuthTotalSize
      omega
    rw [hsig]
    exact .signature _ (Nat.not_lt.mp hlen)

/-- A check that stops before the signature check fails and leaves the transcript as
it was; for a response shorter than `L` no other outcome is possible. -/
theorem ChallengeAuthParsed.error_of_lt {cfg : SpdmLibConfig} {crypto : SpdmCrypto}
    {ctx : SpdmDeviceContext} {slotNum : UInt8} {rsp : List UInt8} {out : Option ChallengeOutcome}
    (h : ChallengeAuthParsed cfg crypto ctx slotNum rsp out)
    (hlt : rsp.length < receivedTotalSize crypto ctx rsp) :
    ∃ status ctx', out = some ⟨status, ctx', none⟩ ∧ status ≠ .success ∧
      ctx'.transcript = ctx.transcript := by
  cases h with
  | header => exact ⟨_, _, rfl, by decide, rfl⟩
  | certChainHash => exact ⟨_, _, rfl, by decide, rfl⟩
  | short => exact ⟨_, _, rfl, by decide, rfl⟩
  | signature k hle => omega

/-- A response that is not an `ERROR` goes on, if at all, as it came, in the context
the receive step was given. -/
theorem receiveChallengeAuth_of_ne_error {io : SpdmChallengeIo} {ctx ctx' : SpdmDeviceContext}
    {rsp rsp' : List UInt8} (hne : rsp.getD 1 0 ≠ spdmError)
    (h : receiveChallengeAuth io ctx rsp = .ok (rsp', ctx')) : rsp' = rsp ∧ ctx' = ctx := by
  unfold receiveChallengeAuth at h
  split_ifs at h
  cases h
  exact ⟨rfl, rfl⟩

/-- A `CHALLENGE_AUTH` with a whole header passes the receive step as it came. -/
theorem receiveChallengeAuth_of_code {io : SpdmChallengeIo} {ctx : SpdmDeviceContext}
    {rsp : List UInt8} (hlen : spdmMessageHeaderSize ≤ rsp.length)
    (hcode : rsp.getD 1 0 = spdmChallengeAuth) : receiveChallengeAuth io ctx rsp = .ok (rsp, ctx) := by
  have hne : spdmChallengeAuth ≠ spdmError := by decide
  simp only [receiveChallengeAuth, Nat.not_lt.mpr hlen, hcode, hne, if_false, ne_eq, not_true_eq_false]

/-- Once the checks before sending pass, the request goes out and a response comes back,
`TrySpdmChallenge` is the checks of the response the receive step passes on. -/
theorem trySpdmChallenge_of_ok (crypto : SpdmCrypto) {cfg : SpdmLibConfig} {io : SpdmChallengeIo}
    {ctx ctx₁ : SpdmDeviceContext} {slotNum measurementHashType : UInt8} {attempt : ChallengeAttempt}
    {rsp : List UInt8} (hpre : spdmChallengePreconditions ctx slotNum = none)
    (hsend : attempt.sendStatus = .success) (hrecv : attempt.receiveStatus = .success)
    (hok : receiveChallengeAuth io (challengeRequestContext cfg ctx slotNum measurementHashType attempt.nonce)
      attempt.response = .ok (rsp, ctx₁)) :
    trySpdmChallenge cfg crypto io ctx slotNum measurementHashType attempt =
      handleChallengeAuth cfg crypto io ctx₁ slotNum rsp := by
  simp only [trySpdmChallenge, hpre, hsend, hrecv, hok, ReturnStatus.isError_success]
  rfl

/-- When `MessageC` has room for them, the context in which the signature is checked
holds in `MessageC` what it held before the attempt, the request, and the response up
to its signature. -/
theorem ledger_messageC_challengeRequest {cfg : SpdmLibConfig} {ctx : SpdmDeviceContext}
    {slotNum measurementHashType : UInt8} {nonce : SpdmNonce} {message : List UInt8}
    (hroom : (ctx.ledger .messageC).length + spdmChallengeRequestSize + message.length ≤
      (ctx.transcript.get .messageC).maxBufferSize) :
    (challengeAuthTranscript (challengeRequestContext cfg ctx slotNum measurementHashType nonce)
        message).ledger .messageC =
      ctx.ledger .messageC ++ spdmChallengeRequest (challengeMessageVersion cfg ctx) slotNum
        measurementHashType nonce ++ message := by
  have hreq : (challengeRequestContext cfg ctx slotNum measurementHashType nonce).ledger .messageC =
      ctx.ledger .messageC ++ spdmChallengeRequest (challengeMessageVersion cfg ctx) slotNum
        measurementHashType nonce :=
    ledger_appendTranscript_of_le (by simp only [length_spdmChallengeRequest]; exact le_of_add_le_left hroom)
  rw [ledger_challengeAuthTranscript_messageC, if_pos (appendTranscript_eq_success_iff.mpr ?_), hreq]
  rw [hreq, challengeRequestContext, maxBufferSize_appendTranscript, List.length_append,
    length_spdmChallengeRequest]
  exact hroom

/-- The two appends ignore their status: with `MessageC` full, the context in which
the signature is checked holds in `MessageC` neither the request nor the response. -/
theorem ledger_messageC_challengeRequest_of_full {cfg : SpdmLibConfig} {ctx : SpdmDeviceContext}
    {slotNum measurementHashType : UInt8} {nonce : SpdmNonce} {message : List UInt8}
    (hfull : (ctx.ledger .messageC).length = (ctx.transcript.get .messageC).maxBufferSize)
    (hne : message ≠ []) :
    (challengeAuthTranscript (challengeRequestContext cfg ctx slotNum measurementHashType nonce)
        message).ledger .messageC = ctx.ledger .messageC := by
  have hreq : (challengeRequestContext cfg ctx slotNum measurementHashType nonce).ledger .messageC =
      ctx.ledger .messageC :=
    ledger_appendTranscript_of_lt (by
      show (ctx.transcript.get .messageC).maxBufferSize <
        (ctx.ledger .messageC).length + (spdmChallengeRequest _ _ _ _).length
      rw [length_spdmChallengeRequest, hfull]
      exact Nat.lt_add_of_pos_right (by decide))
  rw [ledger_challengeAuthTranscript_messageC, if_neg fun hs => ?_, hreq]
  have hroom := appendTranscript_eq_success_iff.mp hs
  rw [hreq, challengeRequestContext, maxBufferSize_appendTranscript, ← hfull] at hroom
  have := List.length_pos.mpr hne
  omega

/-- The sample requester once the exchanges before on its connection have filled the
`MAX_SPDM_MESSAGE_SMALL_BUFFER_SIZE` bytes of `MessageC`: nothing empties it between
`CHALLENGE`s, and each exchange adds 138 bytes. -/
def sampleFullMessageCRequester : SpdmDeviceContext :=
  { sampleChallengeRequester with
    transcript.messageC := ⟨0x1000, List.replicate 0x1000 0, (List.length_replicate _ _).le⟩ }

set_option maxRecDepth 4000 in
/-- With `MessageC` full, both appends fail and their statuses are ignored: the
signature of a well-formed `CHALLENGE_AUTH` is checked in a context whose `MessageC`
holds neither the request nor the response. -/
theorem trySpdmChallenge_messageCFull :
    (challengeAuthSignedContext sampleSpdmCrypto (challengeRequestContext typicalSpdmLibConfig
        sampleFullMessageCRequester 0 spdmChallengeRequestNoMeasurementSummaryHash sampleNonce)
        sampleMutAuthChallengeAuth).ledger .messageC = sampleFullMessageCRequester.ledger .messageC ∧
      ∃ k, trySpdmChallenge typicalSpdmLibConfig sampleSpdmCrypto sampleChallengeIo
          sampleFullMessageCRequester 0 spdmChallengeRequestNoMeasurementSummaryHash
          ⟨sampleNonce, .success, .success, sampleMutAuthChallengeAuth⟩ =
        (spdmVerifyChallengeAuthSignature sampleSpdmCrypto
          (challengeAuthSignedContext sampleSpdmCrypto (challengeRequestContext typicalSpdmLibConfig
            sampleFullMessageCRequester 0 spdmChallengeRequestNoMeasurementSummaryHash sampleNonce)
            sampleMutAuthChallengeAuth) true
          (receivedFields sampleSpdmCrypto (challengeRequestContext typicalSpdmLibConfig
            sampleFullMessageCRequester 0 spdmChallengeRequestNoMeasurementSummaryHash sampleNonce)
            sampleMutAuthChallengeAuth).signature).map k := by
  set ctx₁ := challengeRequestContext typicalSpdmLibConfig sampleFullMessageCRequester 0
    spdmChallengeRequestNoMeasurementSummaryHash sampleNonce
  have hfull : (sampleFullMessageCRequester.ledger .messageC).length =
      (sampleFullMessageCRequester.transcript.get .messageC).maxBufferSize :=
    List.length_replicate _ _
  have hpre : spdmChallengePreconditions sampleFullMessageCRequester 0 = none := by decide
  have hsend : (⟨sampleNonce, .success, .success, sampleMutAuthChallengeAuth⟩ :
      ChallengeAttempt).sendStatus = .success := rfl
  have hok : receiveChallengeAuth sampleChallengeIo ctx₁ sampleMutAuthChallengeAuth =
      .ok (sampleMutAuthChallengeAuth, ctx₁) := receiveChallengeAuth_of_code (by decide) rfl
  refine ⟨ledger_messageC_challengeRequest_of_full hfull (by decide), ?_⟩
  rw [trySpdmChallenge_of_ok sampleSpdmCrypto hpre hsend rfl hok]
  unfold handleChallengeAuth
  rw [if_neg (by decide), if_neg (by decide), if_neg (by decide)]
  exact ⟨_, rfl⟩

/-! ### What a success establishes -/

/-- The checks `TrySpdmChallenge` made of a response `rsp` in the context `ctx` it
made them in, every one passed: the response is a `CHALLENGE_AUTH` that fits the
response buffer and is as long as its own `OpaqueLength` and the negotiated sizes
say; its auth attribute names the slot asked for; a request for mutual
authentication met the capability flags the code looks at; the chain hash is the
hash of the peer's chain; the peer's leaf key accepts the signature over `M1M2`; and
the encapsulated flow, when asked for, succeeded. -/
structure ChallengeAuthAccepted (cfg : SpdmLibConfig) (crypto : SpdmCrypto) (io : SpdmChallengeIo)
    (ctx : SpdmDeviceContext) (slotNum : UInt8) (rsp : List UInt8) : Prop where
  code : rsp.getD 1 0 = spdmChallengeAuth
  length_le : rsp.length ≤ challengeAuthResponseMaxSize cfg
  totalSize_le : receivedTotalSize crypto ctx rsp ≤ rsp.length
  slot : if slotNum = 0xFF then authAttributeSlotNum (rsp.getD 2 0) = 0xF ∧ rsp.getD 3 0 = 0
    else authAttributeSlotNum (rsp.getD 2 0) = slotNum ∧ (rsp.getD 3 0).toNat = 2 ^ slotNum.toNat
  mutAuthCap : authAttributeBasicMutAuthReq (rsp.getD 2 0) = 1 →
    ctx.connectionInfo.capability.flags &&& spdmGetCapabilitiesRequestFlagsMutAuthCap ≠ 0
  certChainHash : ∃ chain, spdmPeerCertChain ctx = some chain ∧
    (receivedFields crypto ctx rsp).certChainHash =
      crypto.hashAll ctx.connectionInfo.algorithm.baseHashAlgo chain
  signature : spdmVerifyChallengeAuthSignature crypto (challengeAuthSignedContext crypto ctx rsp) true
    (receivedFields crypto ctx rsp).signature = some true
  encap : authAttributeBasicMutAuthReq (rsp.getD 2 0) = 1 →
    (io.spdmEncapsulatedRequest
      (resetTranscript { challengeAuthSignedContext crypto ctx rsp with errorState := .success } .m1m2)).1 =
      .success

/-- The chain-hash check passes exactly when there is a peer chain and the received
hash is its hash. -/
theorem spdmVerifyCertificateChainHash_eq_true {crypto : SpdmCrypto} {ctx : SpdmDeviceContext}
    {hash : List UInt8} :
    spdmVerifyCertificateChainHash crypto ctx hash = true →
      ∃ chain, spdmPeerCertChain ctx = some chain ∧
        hash = crypto.hashAll ctx.connectionInfo.algorithm.baseHashAlgo chain := by
  unfold spdmVerifyCertificateChainHash
  split
  · simp
  · next chain hchain => simp only [Bool.and_eq_true, beq_iff_eq]; exact fun h => ⟨chain, hchain, h.2⟩

/-- After an accepted signature, success means the encapsulated flow, when asked
for, succeeded, and the context is authenticated with the `CHALLENGE` flag set. -/
theorem challengeAuthVerified_sound {io : SpdmChallengeIo} {ctx : SpdmDeviceContext}
    {basicMutAuthReq : Bool} {measurementHash : List UInt8}
    (h : (challengeAuthVerified io ctx basicMutAuthReq measurementHash).status = .success) :
    (basicMutAuthReq = true → (io.spdmEncapsulatedRequest ctx).1 = .success) ∧
    (challengeAuthVerified io ctx basicMutAuthReq measurementHash).context.connectionInfo.connectionState =
      .authenticated ∧
    (challengeAuthVerified io ctx basicMutAuthReq measurementHash).context.spdmCmdReceiveState &&&
      spdmChallengeReceiveFlag ≠ 0 := by
  unfold challengeAuthVerified at h ⊢
  have hflag : ∀ a : UInt64, (a ||| spdmChallengeReceiveFlag) &&& spdmChallengeReceiveFlag ≠ 0 :=
    fun a => by rw [uint64_or_and_right_self]; decide
  cases basicMutAuthReq with
  | false => simp [hflag]
  | true =>
    generalize io.spdmEncapsulatedRequest ctx = r at h ⊢
    obtain ⟨status, ctx'⟩ := r
    cases hst : status.isError <;> simp_all

/-- **A `CHALLENGE_AUTH` the requester reports success on passed every check**, and
the context it leaves is authenticated with the `CHALLENGE` flag set. -/
theorem handleChallengeAuth_sound {cfg : SpdmLibConfig} {crypto : SpdmCrypto} {io : SpdmChallengeIo}
    {ctx : SpdmDeviceContext} {slotNum : UInt8} {rsp : List UInt8} {out : ChallengeOutcome}
    (h : handleChallengeAuth cfg crypto io ctx slotNum rsp = some out) (hs : out.status = .success)
    (hcode : rsp.getD 1 0 = spdmChallengeAuth) :
    ChallengeAuthAccepted cfg crypto io ctx slotNum rsp ∧
      out.context.connectionInfo.connectionState = .authenticated ∧
      out.context.spdmCmdReceiveState &&& spdmChallengeReceiveFlag ≠ 0 := by
  unfold handleChallengeAuth at h
  dsimp only at h
  split_ifs at h with hheader hhash hlen
  · cases h; cases hs
  · cases h; cases hs
  · cases h; cases hs
  simp only [Bool.not_eq_true', Bool.not_eq_false] at hheader hhash
  obtain ⟨-, hmax, hslot, hmut, -⟩ := challengeAuthHeaderOk_eq_true.mp hheader
  obtain ⟨verified, hverify, h⟩ := Option.map_eq_some'.mp h
  cases verified
  · cases h; cases hs
  cases h
  obtain ⟨hencap, hstate, hflag⟩ := challengeAuthVerified_sound hs
  exact ⟨⟨hcode, hmax, Nat.not_lt.mp hlen, hslot, hmut, spdmVerifyCertificateChainHash_eq_true hhash,
    hverify, fun hb => hencap (by simpa using hb)⟩, hstate, hflag⟩

/-- What an attempt of `TrySpdmChallenge` that reports success went through: the
checks before sending passed, the request went out and a response came back, and
the response passed every check of `OpenSpdm.ChallengeAuthAccepted` in the context
the receive step left, whose provisioning and connection are those of the context
the attempt started from. -/
structure ChallengeAccepted (cfg : SpdmLibConfig) (crypto : SpdmCrypto) (io : SpdmChallengeIo)
    (ctx : SpdmDeviceContext) (slotNum measurementHashType : UInt8) (attempt : ChallengeAttempt) :
    Prop where
  receiveFlags : ctx.spdmCmdReceiveState &&& spdmNegotiateAlgorithmsReceiveFlag ≠ 0 ∧
    ctx.spdmCmdReceiveState &&& spdmGetCapabilitiesReceiveFlag ≠ 0 ∧
    ctx.spdmCmdReceiveState &&& spdmGetDigestsReceiveFlag ≠ 0
  chalCap : ctx.connectionInfo.capability.flags &&& spdmGetCapabilitiesResponseFlagsChalCap ≠ 0
  slotNum_valid : (slotNum.toNat < maxSpdmSlotCount ∨ slotNum = 0xFF) ∧
    (slotNum = 0xFF → ctx.localContext.peerCertChainProvision ≠ [])
  sendStatus : attempt.sendStatus = .success
  receiveStatus : attempt.receiveStatus = .success
  response : ∃ rsp ctx₁,
    receiveChallengeAuth io (challengeRequestContext cfg ctx slotNum measurementHashType attempt.nonce)
      attempt.response = .ok (rsp, ctx₁) ∧
    ctx₁.localContext = ctx.localContext ∧ ctx₁.connectionInfo = ctx.connectionInfo ∧
    ChallengeAuthAccepted cfg crypto io ctx₁ slotNum rsp

/-- **Authentication soundness of one attempt**: `TrySpdmChallenge` reports success
only after every check passed, and then it leaves the connection authenticated with
the `CHALLENGE` flag set. -/
theorem trySpdmChallenge_sound {cfg : SpdmLibConfig} {crypto : SpdmCrypto} {io : SpdmChallengeIo}
    {ctx : SpdmDeviceContext} {slotNum measurementHashType : UInt8} {attempt : ChallengeAttempt}
    {out : ChallengeOutcome}
    (h : trySpdmChallenge cfg crypto io ctx slotNum measurementHashType attempt = some out)
    (hs : out.status = .success) :
    ChallengeAccepted cfg crypto io ctx slotNum measurementHashType attempt ∧
      out.context.connectionInfo.connectionState = .authenticated ∧
      out.context.spdmCmdReceiveState &&& spdmChallengeReceiveFlag ≠ 0 := by
  unfold trySpdmChallenge at h
  split at h
  · next status hpre => cases h; exact absurd hs (spdmChallengePreconditions_ne_success hpre)
  next hpre =>
  obtain ⟨hflags, hcap, hslot, hprov⟩ := spdmChallengePreconditions_eq_none.mp hpre
  dsimp only at h
  split_ifs at h with hsend hrecv
  · cases h; cases hs
  · cases h; cases hs
  split at h
  · next status ctx₁ herror => cases h; exact absurd hs (receiveChallengeAuth_error_ne_success herror)
  next rsp ctx₁ hok =>
  obtain ⟨hcode, hloc, hconn⟩ := receiveChallengeAuth_eq_ok hok
  obtain ⟨haccepted, hstate, hflag⟩ := handleChallengeAuth_sound h hs hcode
  simp only [Bool.not_eq_true, ReturnStatus.isError_eq_false] at hsend hrecv
  exact ⟨⟨hflags, hcap, ⟨hslot, hprov⟩, hsend, hrecv,
    ⟨rsp, ctx₁, hok, by simpa using hloc, by simpa using hconn, haccepted⟩⟩, hstate, hflag⟩

/-! ### The retries -/

/-- One retry of `SpdmChallenge`, between pairs of an attempt number and the context
the attempt starts from: attempt `k` from `ctx` reported `RETURN_NO_RESPONSE`, and
attempt `k + 1` starts from the context it left. -/
def ChallengeRetry (cfg : SpdmLibConfig) (crypto : SpdmCrypto) (io : SpdmChallengeIo)
    (slotNum measurementHashType : UInt8) (attempts : Nat → ChallengeAttempt)
    (a b : Nat × SpdmDeviceContext) : Prop :=
  b.1 = a.1 + 1 ∧ ∃ out, trySpdmChallenge cfg crypto io a.2 slotNum measurementHashType (attempts a.1) =
    some out ∧ out.status = .noResponse ∧ out.context = b.2

/-- The loop returns what one of its attempts returned: attempt `j`, at most `retry`
past the first, from the context that the retries before it reached. -/
theorem spdmChallengeLoop_eq_some {cfg : SpdmLibConfig} {crypto : SpdmCrypto} {io : SpdmChallengeIo}
    {slotNum measurementHashType : UInt8} {attempts : Nat → ChallengeAttempt} {out : ChallengeOutcome} :
    ∀ {retry k : Nat} {ctx : SpdmDeviceContext},
      spdmChallengeLoop cfg crypto io slotNum measurementHashType attempts retry k ctx = some out →
      ∃ j ctx', Relation.ReflTransGen (ChallengeRetry cfg crypto io slotNum measurementHashType attempts)
          (k, ctx) (j, ctx') ∧ j ≤ k + retry ∧
        trySpdmChallenge cfg crypto io ctx' slotNum measurementHashType (attempts j) = some out
  | 0, k, ctx, h => ⟨k, ctx, .refl, le_rfl, h⟩
  | retry + 1, k, ctx, h => by
    obtain ⟨out₁, h₁, h⟩ := Option.bind_eq_some.mp h
    split_ifs at h with hno
    · obtain ⟨j, ctx', hretries, hj, htry⟩ := spdmChallengeLoop_eq_some h
      exact ⟨j, ctx', .head ⟨rfl, out₁, h₁, hno, rfl⟩ hretries, by omega, htry⟩
    · cases h
      exact ⟨k, ctx, .refl, by omega, h₁⟩

/-- **Authentication soundness of `SpdmChallenge`**: when it reports success, it
returns what one of its at most `RetryTimes + 1` attempts returned, from the context
the attempts before it left, each of them reporting `RETURN_NO_RESPONSE`; that attempt
passed every check, and the context it returns is authenticated with the `CHALLENGE`
flag set. -/
theorem spdmChallenge_sound {cfg : SpdmLibConfig} {crypto : SpdmCrypto} {io : SpdmChallengeIo}
    {ctx : SpdmDeviceContext} {slotNum measurementHashType : UInt8}
    {attempts : Nat → ChallengeAttempt} {out : ChallengeOutcome}
    (h : spdmChallenge cfg crypto io ctx slotNum measurementHashType attempts = some out)
    (hs : out.status = .success) :
    ∃ j ctx', j ≤ ctx.retryTimes.toNat ∧
      Relation.ReflTransGen (ChallengeRetry cfg crypto io slotNum measurementHashType attempts)
        (0, ctx) (j, ctx') ∧
      trySpdmChallenge cfg crypto io ctx' slotNum measurementHashType (attempts j) = some out ∧
      ChallengeAccepted cfg crypto io ctx' slotNum measurementHashType (attempts j) ∧
      out.context.connectionInfo.connectionState = .authenticated ∧
      out.context.spdmCmdReceiveState &&& spdmChallengeReceiveFlag ≠ 0 := by
  obtain ⟨j, ctx', hretries, hj, htry⟩ := spdmChallengeLoop_eq_some h
  exact ⟨j, ctx', by simpa using hj, hretries, htry, trySpdmChallenge_sound htry hs⟩

set_option maxRecDepth 4000 in
/-- On the sample requester the first attempt already succeeds, through every check. -/
theorem spdmChallenge_sound_sample :
    ∃ out, spdmChallenge typicalSpdmLibConfig sampleSpdmCrypto sampleChallengeIo sampleChallengeRequester 0
        spdmChallengeRequestNoMeasurementSummaryHash
        (fun _ => ⟨sampleNonce, .success, .success, sampleMutAuthChallengeAuth⟩) = some out ∧
      out.status = .success ∧
      ∃ j ctx', j ≤ sampleChallengeRequester.retryTimes.toNat ∧
        Relation.ReflTransGen (ChallengeRetry typicalSpdmLibConfig sampleSpdmCrypto sampleChallengeIo 0
            spdmChallengeRequestNoMeasurementSummaryHash
            fun _ => ⟨sampleNonce, .success, .success, sampleMutAuthChallengeAuth⟩)
          (0, sampleChallengeRequester) (j, ctx') ∧
        trySpdmChallenge typicalSpdmLibConfig sampleSpdmCrypto sampleChallengeIo ctx' 0
          spdmChallengeRequestNoMeasurementSummaryHash
          ⟨sampleNonce, .success, .success, sampleMutAuthChallengeAuth⟩ = some out ∧
        ChallengeAccepted typicalSpdmLibConfig sampleSpdmCrypto sampleChallengeIo ctx' 0
          spdmChallengeRequestNoMeasurementSummaryHash ⟨sampleNonce, .success, .success, sampleMutAuthChallengeAuth⟩ ∧
        out.context.connectionInfo.connectionState = .authenticated ∧
        out.context.spdmCmdReceiveState &&& spdmChallengeReceiveFlag ≠ 0 := by
  have hrun : (spdmChallenge typicalSpdmLibConfig sampleSpdmCrypto sampleChallengeIo sampleChallengeRequester 0
      spdmChallengeRequestNoMeasurementSummaryHash
      (fun _ => ⟨sampleNonce, .success, .success, sampleMutAuthChallengeAuth⟩)).map (·.status) =
      some .success := by decide
  obtain ⟨out, h, hs⟩ := Option.map_eq_some'.mp hrun
  exact ⟨out, h, hs, spdmChallenge_sound h hs⟩

/-! ### The gate on mutual authentication -/

set_option maxRecDepth 4000 in
/-- The requester does not support mutual authentication, the responder asks for
it, and the attempt succeeds and authenticates the connection: the gate reads the
responder's flags, which advertise `MUT_AUTH_CAP`, and the encapsulated flow runs. -/
theorem trySpdmChallenge_mutAuthWithoutCapability :
    sampleChallengeRequester.localContext.capability.flags &&&
        spdmGetCapabilitiesRequestFlagsMutAuthCap = 0 ∧
    authAttributeBasicMutAuthReq (sampleMutAuthChallengeAuth.getD 2 0) = 1 ∧
    (trySpdmChallenge typicalSpdmLibConfig sampleSpdmCrypto sampleChallengeIo sampleChallengeRequester 0
        spdmChallengeRequestNoMeasurementSummaryHash
        ⟨sampleNonce, .success, .success, sampleMutAuthChallengeAuth⟩).map
      (fun out => (out.status, out.context.connectionInfo.connectionState)) =
      some (.success, .authenticated) := by
  decide

/-! ### `M1M2` from one `CHALLENGE` to the next -/

/-- What `M1M2` needs of the collaborators of `TrySpdmChallenge`: the `ERROR` handler
leaves it as it finds it, and the encapsulated flow, which the requester enters with an
empty `M1M2`, leaves it empty when it succeeds, as the requester's own
`SpdmGetEncapResponseChallengeAuth` does once it has signed. -/
structure SpdmChallengeIo.KeepsM1M2 (io : SpdmChallengeIo) : Prop where
  /-- The `ERROR` handler leaves `M1M2` as it finds it. -/
  handleErrorResponseMain_m1m2 : ∀ ctx rsp,
    (io.handleErrorResponseMain ctx rsp).2.2.ledger .m1m2 = ctx.ledger .m1m2
  /-- A successful encapsulated flow entered with an empty `M1M2` leaves it empty. -/
  spdmEncapsulatedRequest_m1m2 : ∀ ctx, ctx.ledger .m1m2 = [] →
    (io.spdmEncapsulatedRequest ctx).1 = .success →
      (io.spdmEncapsulatedRequest ctx).2.ledger .m1m2 = []

/-- `SpdmChallenge` called on one requester context again and again, each call with its
slot, its measurement summary type and what its attempts get from outside, each from the
context the call before it left: what the calls return, `none` where one is
undefined. -/
def challengeRun (cfg : SpdmLibConfig) (crypto : SpdmCrypto) (io : SpdmChallengeIo) :
    SpdmDeviceContext → List (UInt8 × UInt8 × (Nat → ChallengeAttempt)) → Option (List ChallengeOutcome)
  | _, [] => some []
  | ctx, (slotNum, measurementHashType, attempts) :: rest =>
    (spdmChallenge cfg crypto io ctx slotNum measurementHashType attempts).bind fun out =>
      (challengeRun cfg crypto io out.context rest).map (out :: ·)

section M1M2

variable {cfg : SpdmLibConfig} {crypto : SpdmCrypto} {io : SpdmChallengeIo} (hio : io.KeepsM1M2)
include hio

/-- The receive step leaves `M1M2` as it was, whichever way it goes. -/
theorem receiveChallengeAuth_m1m2 {ctx ctx' : SpdmDeviceContext} {rsp : List UInt8} :
    (∀ status, receiveChallengeAuth io ctx rsp = .error (status, ctx') →
      ctx'.ledger .m1m2 = ctx.ledger .m1m2) ∧
    (∀ rsp', receiveChallengeAuth io ctx rsp = .ok (rsp', ctx') →
      ctx'.ledger .m1m2 = ctx.ledger .m1m2) := by
  have hhandler := hio.handleErrorResponseMain_m1m2 ctx rsp
  constructor <;> intro _ h <;> unfold receiveChallengeAuth at h <;> (repeat' split at h) <;>
    first | (cases h; rfl) | (cases h; rename_i heq; rwa [heq] at hhandler) | cases h

/-- After an accepted signature, from an empty `M1M2`: unless the encapsulated flow
fails, `M1M2` is still empty. -/
theorem challengeAuthVerified_m1m2 {ctx : SpdmDeviceContext} {basicMutAuthReq : Bool}
    {measurementHash : List UInt8} (hctx : ctx.ledger .m1m2 = [])
    (hs : (challengeAuthVerified io ctx basicMutAuthReq measurementHash).status ≠ .securityViolation) :
    (challengeAuthVerified io ctx basicMutAuthReq measurementHash).context.ledger .m1m2 = [] := by
  unfold challengeAuthVerified at hs ⊢
  cases basicMutAuthReq with
  | false => exact hctx
  | true =>
    have hencap := hio.spdmEncapsulatedRequest_m1m2 ctx hctx
    revert hs hencap
    rcases io.spdmEncapsulatedRequest ctx with ⟨status, ctx'⟩
    simp only [↓reduceIte]
    split
    next => exact fun hs _ => absurd rfl hs
    next hst => exact fun _ hencap => hencap (by simpa using hst)

/-- The checks of a `CHALLENGE_AUTH` leave `M1M2` empty unless they end in a security
violation: every other early return leaves it as it was, and an accepted signature
empties it. -/
theorem handleChallengeAuth_m1m2 {ctx : SpdmDeviceContext} {slotNum : UInt8} {rsp : List UInt8}
    {out : ChallengeOutcome} (hctx : ctx.ledger .m1m2 = [])
    (h : handleChallengeAuth cfg crypto io ctx slotNum rsp = some out)
    (hs : out.status ≠ .securityViolation) : out.context.ledger .m1m2 = [] := by
  unfold handleChallengeAuth at h
  dsimp only at h
  split_ifs at h
  · cases h; exact hctx
  · cases h; exact absurd rfl hs
  · cases h; exact hctx
  obtain ⟨verified, -, rfl⟩ := Option.map_eq_some'.mp h
  cases verified with
  | false => exact absurd rfl hs
  | true => exact challengeAuthVerified_m1m2 hio (ledger_resetTranscript_self _ _) hs

/-- **One attempt**: from an empty `M1M2`, an attempt that does not end in a security
violation leaves `M1M2` empty. -/
theorem trySpdmChallenge_m1m2 {ctx : SpdmDeviceContext} {slotNum measurementHashType : UInt8}
    {attempt : ChallengeAttempt} {out : ChallengeOutcome} (hctx : ctx.ledger .m1m2 = [])
    (h : trySpdmChallenge cfg crypto io ctx slotNum measurementHashType attempt = some out)
    (hs : out.status ≠ .securityViolation) : out.context.ledger .m1m2 = [] := by
  have hreq :
      (challengeRequestContext cfg ctx slotNum measurementHashType attempt.nonce).ledger .m1m2 = [] := by
    rw [ledger_challengeRequestContext_of_ne (by decide), hctx]
  unfold trySpdmChallenge at h
  split at h
  · cases h; exact hctx
  split_ifs at h
  · cases h; exact hctx
  · cases h; exact hreq
  dsimp only at h
  split at h
  next hrecv => cases h; exact ((receiveChallengeAuth_m1m2 hio).1 _ hrecv).trans hreq
  next hrecv =>
    exact handleChallengeAuth_m1m2 hio (((receiveChallengeAuth_m1m2 hio).2 _ hrecv).trans hreq) h hs

/-- **The retries**: the loop of `SpdmChallenge` keeps `M1M2` empty the same way, since
an attempt it retries returned `RETURN_NO_RESPONSE`. -/
theorem spdmChallengeLoop_m1m2 {slotNum measurementHashType : UInt8} {attempts : Nat → ChallengeAttempt}
    {out : ChallengeOutcome} (hs : out.status ≠ .securityViolation) :
    ∀ {retry k : Nat} {ctx : SpdmDeviceContext}, ctx.ledger .m1m2 = [] →
      spdmChallengeLoop cfg crypto io slotNum measurementHashType attempts retry k ctx = some out →
      out.context.ledger .m1m2 = []
  | 0, _, _, hctx, h => trySpdmChallenge_m1m2 hio hctx h hs
  | retry + 1, k, ctx, hctx, h => by
    obtain ⟨out₁, h₁, h⟩ := Option.bind_eq_some.mp h
    split_ifs at h with hno
    · exact spdmChallengeLoop_m1m2 hs (trySpdmChallenge_m1m2 hio hctx h₁ (by simp [hno])) h
    · cases h
      exact trySpdmChallenge_m1m2 hio hctx h₁ hs

/-- **`M1M2` is empty before every `CHALLENGE`**: in a run of `SpdmChallenge` calls
from an empty `M1M2`, each call that does not end in a security violation leaves it
empty, so each call starts from an empty `M1M2` as long as no call before it ended so. -/
theorem challengeRun_m1m2 :
    ∀ {ctx : SpdmDeviceContext} {calls : List (UInt8 × UInt8 × (Nat → ChallengeAttempt))}
      {outs : List ChallengeOutcome}, ctx.ledger .m1m2 = [] →
      challengeRun cfg crypto io ctx calls = some outs →
      (∀ out ∈ outs, out.status ≠ .securityViolation) → ∀ out ∈ outs, out.context.ledger .m1m2 = []
  | _, [], _, _, h, _ => by cases h; simp
  | ctx, (slotNum, measurementHashType, attempts) :: rest, outs, hctx, h, hs => by
    obtain ⟨out, h₁, h⟩ := Option.bind_eq_some.mp h
    obtain ⟨outs', hrest, rfl⟩ := Option.map_eq_some'.mp h
    have hout := spdmChallengeLoop_m1m2 hio (hs out (.head _)) hctx h₁
    exact List.forall_mem_cons.mpr ⟨hout, challengeRun_m1m2 hout hrest fun o ho => hs o (.tail _ ho)⟩

end M1M2

set_option maxRecDepth 4000 in
/-- Two `CHALLENGE`s in a row on the sample requester both succeed and leave `M1M2`
empty; the second is signed over the 276 bytes of a `MessageC` that still holds the
first exchange. -/
theorem challengeRun_m1m2_sample :
    ∃ outs, challengeRun typicalSpdmLibConfig sampleSpdmCrypto sampleChallengeIo sampleChallengeRequester
        [(0, spdmChallengeRequestNoMeasurementSummaryHash,
            fun _ => ⟨sampleNonce, .success, .success, sampleMutAuthChallengeAuth⟩),
          (0, spdmChallengeRequestNoMeasurementSummaryHash,
            fun _ => ⟨sampleNonce, .success, .success, sampleSecondChallengeAuth⟩)] = some outs ∧
      outs.map (·.status) = [.success, .success] ∧ ∀ out ∈ outs, out.context.ledger .m1m2 = [] := by
  have hrun : (challengeRun typicalSpdmLibConfig sampleSpdmCrypto sampleChallengeIo sampleChallengeRequester
      [(0, spdmChallengeRequestNoMeasurementSummaryHash,
          fun _ => ⟨sampleNonce, .success, .success, sampleMutAuthChallengeAuth⟩),
        (0, spdmChallengeRequestNoMeasurementSummaryHash,
          fun _ => ⟨sampleNonce, .success, .success, sampleSecondChallengeAuth⟩)]).map
      (List.map (·.status)) = some [.success, .success] := by decide
  obtain ⟨outs, h, hs⟩ := Option.map_eq_some'.mp hrun
  have hio : sampleChallengeIo.KeepsM1M2 := ⟨fun _ _ => rfl, fun _ hctx _ => hctx⟩
  have hctx : sampleChallengeRequester.ledger .m1m2 = [] := rfl
  refine ⟨outs, h, hs, challengeRun_m1m2 hio hctx h fun out hout => ?_⟩
  have hstatus := hs ▸ List.mem_map_of_mem ChallengeOutcome.status hout
  simp only [List.mem_cons, List.mem_singleton, or_self, List.not_mem_nil, or_false] at hstatus
  rw [hstatus]
  decide

end OpenSpdm
