import OpenSpdm.Challenge.Agreement

/-!
# An honest requester authenticates the responder it challenges

`OpenSpdm.trySpdmChallenge_sound` says what a `RETURN_SUCCESS` of `TrySpdmChallenge`
establishes. This file proves the converse for the responder of the library: a
`CHALLENGE` that reaches `SpdmGetResponseChallenge` and comes back as a
`CHALLENGE_AUTH` is accepted, and the connection is authenticated
(`OpenSpdm.trySpdmChallenge_authenticates`).

Each check of the requester is met by something the responder did:

* the header checks, the size from `OpaqueLength` and the walk, by the layout
  agreement (`OpenSpdm.AnsweredChallenge.agreement`), once both sides have negotiated
  the same algorithms;
* the chain hash, by the hash the responder takes of the slot's chain, when that
  chain is the requester's peer chain;
* the signature, by the responder's signature over its `M1M2`. Both sides build
  `M1M2` with the same appends (`OpenSpdm.challengeAuthTranscript`), so the two
  agree when `A`, `B`, `C` and `M1M2` did before the appends
  (`OpenSpdm.TranscriptsInStep`). `C` then holds the request on both sides: the
  requester appends it itself, and for the responder the dispatcher, which is not
  among the sources, must have;
* the request for mutual authentication, since the responder of the library speaks
  SPDM 1.0 and never sets `BasicMutAuthReq`.

What is assumed of the responder's key is only that the requester's leaf-key check
accepts what its RSA key signs (`OpenSpdm.SignsForLeaf`).
-/

namespace OpenSpdm

/-! ### Transcripts kept in step -/

/-- The two sides hold the same `A`, `B`, `C` and `M1M2`, capacities included. -/
structure TranscriptsInStep (R S : SpdmDeviceContext) : Prop where
  messageA : R.transcript.get .messageA = S.transcript.get .messageA
  messageB : R.transcript.get .messageB = S.transcript.get .messageB
  messageC : R.transcript.get .messageC = S.transcript.get .messageC
  m1m2 : R.transcript.get .m1m2 = S.transcript.get .m1m2

/-- What an append leaves in a ledger: the appended buffer for its own ledger, the
ledger as it was for the others. -/
theorem transcript_get_appendTranscript (ctx : SpdmDeviceContext) (x y : SpdmLedger)
    (data : List UInt8) :
    (appendTranscript ctx x data).2.transcript.get y =
      if y = x then (appendManagedBuffer (ctx.transcript.get x) data).2 else ctx.transcript.get y := by
  by_cases h : y = x
  · subst h; simp [appendTranscript]
  · simp [appendTranscript, h, SpdmTranscript.get_set_of_ne _ _ (Ne.symm h)]

/-- **Both sides sign and check the same `M1M2`** when their transcripts were in step. -/
theorem ledger_m1m2_challengeAuthTranscript_congr {R S : SpdmDeviceContext}
    (h : TranscriptsInStep R S) (message : List UInt8) :
    (challengeAuthTranscript R message).ledger .m1m2 =
      (challengeAuthTranscript S message).ledger .m1m2 := by
  simp only [challengeAuthTranscript, SpdmDeviceContext.ledger, transcript_get_appendTranscript,
    h.messageA, h.messageB, h.messageC, h.m1m2]

/-! ### The requester's checks, met -/

/-- The peer chain of the requester is not touched by the appends of the exchange. -/
@[simp] theorem spdmPeerCertChain_challengeAuthTranscript (ctx : SpdmDeviceContext)
    (message : List UInt8) :
    spdmPeerCertChain (challengeAuthTranscript ctx message) = spdmPeerCertChain ctx := by
  simp [spdmPeerCertChain, challengeAuthTranscript]

/-- The signer of the responder signs with the key of its `PrivatePem`. -/
theorem spdmGenerateChallengeSignature_key {crypto : SpdmCrypto} {ctx : SpdmDeviceContext}
    {responseMessage signature : List UInt8}
    (h : (spdmGenerateChallengeSignature crypto ctx responseMessage).1 = some signature) :
    ∃ pem rsaContext, ctx.localContext.privatePem = some pem ∧
      crypto.rsaGetPrivateKeyFromPem pem = some rsaContext ∧
      crypto.rsaPkcs1Sign rsaContext
          (crypto.hashAll ctx.connectionInfo.algorithm.baseHashAlgo
            ((challengeAuthTranscript ctx responseMessage).ledger .m1m2))
          (crypto.asymSize ctx.connectionInfo.algorithm.baseAsymAlgo) = some signature := by
  unfold spdmGenerateChallengeSignature at h
  split at h
  · cases h
  · rename_i pem hpem
    split at h
    · cases h
    · rename_i rsaContext hrsa
      exact ⟨pem, rsaContext, hpem, hrsa, h⟩

/-- **The requester accepts the responder's signature** when their transcripts were in
step, they negotiated the same algorithms, the requester's peer chain is read to a
chain whose leaf-key check accepts what the responder's RSA key signs. -/
theorem spdmVerifyChallengeAuthSignature_of_signed {crypto : SpdmCrypto} {R S : SpdmDeviceContext}
    {unsigned signature chain certChain : List UInt8} (hstep : TranscriptsInStep R S)
    (halg : R.connectionInfo.algorithm = S.connectionInfo.algorithm)
    (hpeer : spdmPeerCertChain R = some chain)
    (hread : (CertBuffer.mk chain (getSpdmHashSize crypto S)).read = some certChain)
    (hkey : ∀ pem rsaContext, S.localContext.privatePem = some pem →
      crypto.rsaGetPrivateKeyFromPem pem = some rsaContext →
      SignsForLeaf (fun hash => crypto.rsaPkcs1Sign rsaContext hash (getSpdmAsymSize crypto S))
        (crypto.asymVerifyWithLeaf S.connectionInfo.algorithm.baseAsymAlgo) certChain)
    (hsign : (spdmGenerateChallengeSignature crypto S unsigned).1 = some signature) :
    spdmVerifyChallengeAuthSignature crypto (challengeAuthTranscript R unsigned) true signature =
      some true := by
  obtain ⟨pem, rsaContext, hpem, hrsa, hsigned⟩ := spdmGenerateChallengeSignature_key hsign
  have halg' : (challengeAuthTranscript R unsigned).connectionInfo.algorithm =
      S.connectionInfo.algorithm := by
    simp [challengeAuthTranscript, halg]
  rw [spdmVerifyChallengeAuthSignature, spdmPeerCertChain_challengeAuthTranscript, hpeer, halg',
    ledger_m1m2_challengeAuthTranscript_congr hstep]
  simp only [getSpdmHashSize] at hread
  simp only [hread, Option.map_some', ite_true, hkey pem rsaContext hpem hrsa _ _ hsigned]

/-- A `CHALLENGE_AUTH` that passes the header checks, the chain hash, the size and
the signature, and does not ask for mutual authentication, authenticates the
connection and hands out its measurement summary. -/
theorem handleChallengeAuth_of_checks {cfg : SpdmLibConfig} {crypto : SpdmCrypto}
    (io : SpdmChallengeIo) {ctx : SpdmDeviceContext} {slotNum : UInt8} {rsp : List UInt8}
    (hheader : challengeAuthHeaderOk (challengeAuthResponseMaxSize cfg)
      ctx.connectionInfo.capability.flags slotNum (getSpdmHashSize crypto ctx) rsp = true)
    (hhash : spdmVerifyCertificateChainHash crypto ctx
      (receivedFields crypto ctx rsp).certChainHash = true)
    (hsize : receivedTotalSize crypto ctx rsp ≤ rsp.length)
    (hsig : spdmVerifyChallengeAuthSignature crypto (challengeAuthSignedContext crypto ctx rsp) true
      (receivedFields crypto ctx rsp).signature = some true)
    (hmut : authAttributeBasicMutAuthReq (rsp.getD 2 0) = 0) :
    ∃ out, handleChallengeAuth cfg crypto io ctx slotNum rsp = some out ∧ out.status = .success ∧
      out.context.connectionInfo.connectionState = .authenticated ∧
      out.measurementHash = some (receivedFields crypto ctx rsp).measurementSummaryHash := by
  simp only [handleChallengeAuth, hheader, hhash, Nat.not_lt.mpr hsize, hsig, hmut, Bool.not_true,
    Bool.false_eq_true, ↓reduceIte, Option.map_some', Option.some.injEq, exists_eq_left']
  exact ⟨rfl, rfl, rfl⟩

/-! ### The exchange -/

/-- **An honest requester authenticates the responder it challenges.** Take a
requester whose checks before sending pass, and a responder that receives its
`CHALLENGE` and answers with a `CHALLENGE_AUTH`. Suppose the two negotiated the same
algorithms, the responder's chain in the slot asked for is the requester's peer
chain, and the requester's leaf-key check accepts what the responder's key signs.
Suppose also their transcripts were in step once the request was appended, and
the sizes fit the requester's buffer. Then `TrySpdmChallenge` returns
`RETURN_SUCCESS`, the connection is authenticated, and the measurement summary it
hands out is the one the responder computed. -/
theorem trySpdmChallenge_authenticates {cfg : SpdmLibConfig} {crypto : SpdmCrypto}
    {io : SpdmChallengeIo} {R S S' : SpdmDeviceContext} {slotNum measurementHashType : UInt8}
    {attempt : ChallengeAttempt} {responseSize : Nat} {nonce : SpdmNonce} {certChain : List UInt8}
    (hpre : spdmChallengePreconditions R slotNum = none)
    (hsend : attempt.sendStatus = .success) (hrecv : attempt.receiveStatus = .success)
    (hanswer : spdmGetResponseChallenge cfg crypto S
      (spdmChallengeRequest (challengeMessageVersion cfg R) slotNum measurementHashType attempt.nonce)
      responseSize nonce = some (attempt.response, S'))
    (hauth : attempt.response.getD 1 0 ≠ spdmError)
    (hstep : TranscriptsInStep (challengeRequestContext cfg R slotNum measurementHashType attempt.nonce) S)
    (halg : R.connectionInfo.algorithm = S.connectionInfo.algorithm)
    (hchain : spdmPeerCertChain R = some (slotCertificateChain S slotNum.toNat))
    (hread : (CertBuffer.mk (slotCertificateChain S slotNum.toNat) (getSpdmHashSize crypto S)).read =
      some certChain)
    (hkey : ∀ pem rsaContext, S.localContext.privatePem = some pem →
      crypto.rsaGetPrivateKeyFromPem pem = some rsaContext →
      SignsForLeaf (fun hash => crypto.rsaPkcs1Sign rsaContext hash (getSpdmAsymSize crypto S))
        (crypto.asymVerifyWithLeaf S.connectionInfo.algorithm.baseAsymAlgo) certChain)
    (hhashMax : getSpdmHashSize crypto S ≤ cfg.maxHashSize) (hsig : 0 < getSpdmAsymSize crypto S)
    (hsigMax : getSpdmAsymSize crypto S ≤ cfg.maxAsymKeySize)
    (hopaqueMax : cfg.defaultOpaqueLength ≤ cfg.maxSpdmOpaqueDataSize)
    (hopaque16 : cfg.defaultOpaqueLength < 2 ^ 16) :
    ∃ out, trySpdmChallenge cfg crypto io R slotNum measurementHashType attempt = some out ∧
      out.status = .success ∧ out.context.connectionInfo.connectionState = .authenticated ∧
      ∃ measurementSummaryHash,
        calculateMeasurementSummaryHash cfg crypto S measurementHashType =
          some (some measurementSummaryHash) ∧
        out.measurementHash =
          some (writtenRegion (getSpdmHashSize crypto S) measurementSummaryHash) := by
  set ctx₁ := challengeRequestContext cfg R slotNum measurementHashType attempt.nonce
  set rsp := attempt.response
  rcases spdmGetResponseChallenge_cases hanswer with ⟨hcode, -⟩ | ⟨slotNum', f, hans⟩
  · exact absurd hcode hauth
  obtain rfl : slotNum = slotNum' := by simpa [spdmChallengeRequest] using hans.slotNum_eq
  -- the requester walks the response with the responder's sizes
  have hhashSize : getSpdmHashSize crypto ctx₁ = getSpdmHashSize crypto S := by
    simp [getSpdmHashSize, ctx₁, halg]
  have hasymSize : getSpdmAsymSize crypto ctx₁ = getSpdmAsymSize crypto S := by
    simp [getSpdmAsymSize, ctx₁, halg]
  have hagree := hans.agreement ctx₁.connectionInfo.capability.flags hhashMax hsig hsigMax hopaqueMax
    hopaque16
  have hfields : receivedFields crypto ctx₁ rsp = f := by
    rw [receivedFields, hhashSize, hasymSize]; exact hagree.fields
  have htotal : receivedTotalSize crypto ctx₁ rsp = rsp.length := by
    rw [receivedTotalSize, hhashSize, hasymSize, hagree.totalSize, hagree.length]
  -- the signed part of the response is what the responder signed
  set unsigned := challengeAuthUnsigned spdmMessageVersion10 slotNum (UInt8.ofNat (2 ^ slotNum.toNat))
    f.certChainHash f.nonce f.measurementSummaryHash f.opaqueData
  have hrsp : rsp = unsigned ++ f.signature := hans.response
  have hsigLength : f.signature.length = getSpdmAsymSize crypto S := hans.sized.signature
  have hsigned : challengeAuthSignedContext crypto ctx₁ rsp = challengeAuthTranscript ctx₁ unsigned := by
    rw [challengeAuthSignedContext, htotal, hasymSize, ← hsigLength, hrsp,
      List.length_append, Nat.add_sub_cancel, List.take_left]
  have hpeer : spdmPeerCertChain ctx₁ = some (slotCertificateChain S slotNum.toNat) := by
    simpa [spdmPeerCertChain, ctx₁] using hchain
  -- the requester's checks
  have hheader := hhashSize ▸ hagree.header
  have hhash : spdmVerifyCertificateChainHash crypto ctx₁ (receivedFields crypto ctx₁ rsp).certChainHash =
      true := by
    simp [spdmVerifyCertificateChainHash, hpeer, hfields, hans.certChainHash, crypto.hashAll_length,
      ctx₁, halg]
  have hverify : spdmVerifyChallengeAuthSignature crypto (challengeAuthSignedContext crypto ctx₁ rsp) true
      (receivedFields crypto ctx₁ rsp).signature = some true := by
    rw [hsigned, hfields]
    exact spdmVerifyChallengeAuthSignature_of_signed hstep (by simpa [ctx₁] using halg) hpeer hread hkey
      (congrArg Prod.fst hans.signature)
  have hmut : authAttributeBasicMutAuthReq (rsp.getD 2 0) = 0 := by
    have hlt : slotNum.toNat < 16 := by have := hans.slotNum_lt; simp only [maxSpdmSlotCount] at this; omega
    rw [hans.response, getD_encode_param1]
    exact (authAttribute_of_lt hlt).2
  obtain ⟨out, hout, hs, hstate, hmeas⟩ :=
    handleChallengeAuth_of_checks io hheader hhash htotal.le hverify hmut
  obtain ⟨measurementHashType', measurementSummaryHash, htype, hsummary, hfield⟩ :=
    hans.measurementSummaryHash
  obtain rfl : measurementHashType' = measurementHashType := by
    simpa [spdmChallengeRequest] using htype.symm
  refine ⟨out, (trySpdmChallenge_of_ok crypto hpre hsend hrecv (hagree.receive io ctx₁)).trans hout, hs,
    hstate, measurementSummaryHash, hsummary, ?_⟩
  rw [hmeas, hfields, hfield]
  rfl

/-- The sample requester's `CHALLENGE` for slot 0, without a measurement summary. -/
def sampleChallengeRequest : List UInt8 :=
  spdmChallengeRequest (challengeMessageVersion typicalSpdmLibConfig sampleChallengeRequester) 0
    spdmChallengeRequestNoMeasurementSummaryHash sampleNonce

/-- The sample responder once its dispatcher has appended that request to `C`. -/
def sampleDispatchedResponder : SpdmDeviceContext :=
  (appendTranscript sampleChallengeResponder .messageC sampleChallengeRequest).2

/-- Its answer: the signature covers the 36 bytes of the request and the 110 bytes
of the response before the signature. -/
def sampleHonestChallengeAuth : List UInt8 :=
  ChallengeAuthFields.encode
    ⟨List.replicate 32 40, sampleNonce.bytes, List.replicate 32 0, List.replicate 8 0,
      List.replicate 32 146⟩ spdmMessageVersion10 0 1

/-- The requester's attempt that carries the request there and the answer back. -/
def sampleHonestAttempt : ChallengeAttempt := ⟨sampleNonce, .success, .success, sampleHonestChallengeAuth⟩

set_option maxRecDepth 4000 in
/-- The sample requester, challenging the sample responder's slot 0, authenticates it. -/
theorem trySpdmChallenge_authenticates_sample :
    ∃ S', spdmGetResponseChallenge typicalSpdmLibConfig sampleSpdmCrypto sampleDispatchedResponder
        sampleChallengeRequest 0x1000 sampleNonce = some (sampleHonestChallengeAuth, S') ∧
      ∃ out, trySpdmChallenge typicalSpdmLibConfig sampleSpdmCrypto sampleChallengeIo
          sampleChallengeRequester 0 spdmChallengeRequestNoMeasurementSummaryHash sampleHonestAttempt =
          some out ∧
        out.status = .success ∧ out.context.connectionInfo.connectionState = .authenticated ∧
        ∃ measurementSummaryHash,
          calculateMeasurementSummaryHash typicalSpdmLibConfig sampleSpdmCrypto sampleDispatchedResponder
            spdmChallengeRequestNoMeasurementSummaryHash = some (some measurementSummaryHash) ∧
          out.measurementHash = some (writtenRegion (getSpdmHashSize sampleSpdmCrypto
            sampleDispatchedResponder) measurementSummaryHash) := by
  have hanswer : (spdmGetResponseChallenge typicalSpdmLibConfig sampleSpdmCrypto sampleDispatchedResponder
      sampleChallengeRequest 0x1000 sampleNonce).map Prod.fst = some sampleHonestChallengeAuth := by
    decide
  obtain ⟨⟨rsp, S'⟩, h, hrsp⟩ := Option.map_eq_some'.mp hanswer
  obtain rfl : rsp = sampleHonestChallengeAuth := hrsp
  have hstep : TranscriptsInStep (challengeRequestContext typicalSpdmLibConfig sampleChallengeRequester 0
      spdmChallengeRequestNoMeasurementSummaryHash sampleNonce) sampleDispatchedResponder :=
    ⟨rfl, rfl, rfl, rfl⟩
  have hkey : ∀ pem rsaContext, sampleDispatchedResponder.localContext.privatePem = some pem →
      sampleSpdmCrypto.rsaGetPrivateKeyFromPem pem = some rsaContext →
      SignsForLeaf (fun hash => sampleSpdmCrypto.rsaPkcs1Sign rsaContext hash
          (getSpdmAsymSize sampleSpdmCrypto sampleDispatchedResponder))
        (sampleSpdmCrypto.asymVerifyWithLeaf sampleDispatchedResponder.connectionInfo.algorithm.baseAsymAlgo)
        (List.replicate 4 1) := by
    rintro _ _ _ _ hash signature hsign
    cases hsign
    simp [SpdmCrypto.asymVerifyWithLeaf, verifyWithLeafKey, sampleSpdmCrypto, getSpdmAsymSize]
  exact ⟨S', h, trySpdmChallenge_authenticates (by decide) rfl rfl h (by decide) hstep rfl rfl rfl hkey
    (by decide) (by decide) (by decide) (by decide) (by decide)⟩

end OpenSpdm
