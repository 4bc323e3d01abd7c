import OpenSpdm.CertChain
import OpenSpdm.SetData
import OpenSpdm.Transcript

/-!
# Signatures over the authentication transcripts

The signature of a `CHALLENGE_AUTH` covers the hash of `M1M2`, which the signer
builds from the ledgers of the exchange: `A || B || C` when the responder signs,
`MutB || MutC` when the requester signs in the encapsulated role
(`OpenSpdm.spdmGenerateChallengeAuthSignature`). The verifier hashes the `M1M2` it
has built itself and checks the signature against the key of the leaf certificate
of the peer's chain (`OpenSpdm.spdmVerifyChallengeAuthSignature`); a `MEASUREMENTS`
signature is checked the same way over `L1L2`
(`OpenSpdm.spdmVerifyMeasurementSignature`).

Both verifiers strip the chain's header before the X.509 layer sees it, and neither
compares the chain's size with the header first. A chain provisioned through
`SpdmSetData` can be as short as four bytes, and then the verifier hands the X.509
layer a region that runs past the chain
(`OpenSpdm.spdmVerifyChallengeAuthSignature_shortChain`).

A signature made in one role is accepted by the check in the other role, on a
context holding the `M1M2` the signer hashed
(`OpenSpdm.challengeAuthSignature_generate_verify_agree`): the two functions take
`IsRequester` the opposite way round for one exchange.
-/

namespace OpenSpdm

/-- The appends `TrySpdmChallenge` makes before it checks a `CHALLENGE_AUTH`
signature, and the responder library's `SpdmGenerateChallengeSignature` before it
signs one: the response up to its signature to `MessageC`, then `A`, `B` and `C` to
`M1M2`, every status ignored. -/
def challengeAuthTranscript (ctx : SpdmDeviceContext) (message : List UInt8) : SpdmDeviceContext :=
  let ctx := (appendTranscript ctx .messageC message).2
  let ctx := (appendTranscript ctx .m1m2 (ctx.ledger .messageA)).2
  let ctx := (appendTranscript ctx .m1m2 (ctx.ledger .messageB)).2
  (appendTranscript ctx .m1m2 (ctx.ledger .messageC)).2

/-- The appends never take a byte out of a ledger. -/
theorem ledger_isPrefix_challengeAuthTranscript (ctx : SpdmDeviceContext) (message : List UInt8)
    (y : SpdmLedger) : ctx.ledger y <+: (challengeAuthTranscript ctx message).ledger y :=
  ((((ledger_isPrefix_appendTranscript ..).trans (ledger_isPrefix_appendTranscript ..)).trans
    (ledger_isPrefix_appendTranscript ..)).trans (ledger_isPrefix_appendTranscript ..))

/-- **What `M1M2` holds after the appends**, when they all fit: what it held before,
then `A`, `B`, and `C` with the response appended. -/
theorem ledger_challengeAuthTranscript_m1m2 {ctx : SpdmDeviceContext} {message : List UInt8}
    (hc : (ctx.ledger .messageC).length + message.length ≤
      (ctx.transcript.get .messageC).maxBufferSize)
    (hm : (ctx.ledger .m1m2).length + (ctx.ledger .messageA).length +
      (ctx.ledger .messageB).length + ((ctx.ledger .messageC).length + message.length) ≤
        (ctx.transcript.get .m1m2).maxBufferSize) :
    (challengeAuthTranscript ctx message).ledger .m1m2 =
      ctx.ledger .m1m2 ++ ctx.ledger .messageA ++ ctx.ledger .messageB ++
        (ctx.ledger .messageC ++ message) := by
  let c₁ := (appendTranscript ctx .messageC message).2
  let c₂ := (appendTranscript c₁ .m1m2 (c₁.ledger .messageA)).2
  let c₃ := (appendTranscript c₂ .m1m2 (c₂.ledger .messageB)).2
  have hmax : ∀ c : SpdmDeviceContext, c = c₁ ∨ c = c₂ ∨ c = c₃ →
      (c.transcript.get .m1m2).maxBufferSize = (ctx.transcript.get .m1m2).maxBufferSize := by
    rintro c (rfl | rfl | rfl) <;> simp [c₃, c₂, c₁]
  have hC : c₃.ledger .messageC = ctx.ledger .messageC ++ message := by
    simp [c₃, c₂, c₁, ledger_appendTranscript_of_le hc]
  have h₂ : c₂.ledger .m1m2 = ctx.ledger .m1m2 ++ ctx.ledger .messageA :=
    ledger_appendTranscript_of_le (by rw [hmax c₁ (.inl rfl)]; simp [c₁]; omega)
  have h₃ : c₃.ledger .m1m2 = ctx.ledger .m1m2 ++ ctx.ledger .messageA ++ ctx.ledger .messageB := by
    have hB : c₂.ledger .messageB = ctx.ledger .messageB := by simp [c₂, c₁]
    rw [ledger_appendTranscript_of_le (by rw [hmax c₂ (.inr (.inl rfl)), h₂, hB]; simp; omega), h₂, hB]
  show (appendTranscript c₃ .m1m2 (c₃.ledger .messageC)).2.ledger .m1m2 = _
  rw [ledger_appendTranscript_of_le (by rw [hmax c₃ (.inr (.inr rfl)), h₃, hC]; simp; omega), h₃, hC]

/-- `MessageC` after the appends: the response appended when it fits, and otherwise
as it was, the status of the append not being looked at. -/
theorem ledger_challengeAuthTranscript_messageC (ctx : SpdmDeviceContext) (message : List UInt8) :
    (challengeAuthTranscript ctx message).ledger .messageC =
      if (appendTranscript ctx .messageC message).1 = .success then ctx.ledger .messageC ++ message
      else ctx.ledger .messageC := by
  rw [← ledger_appendTranscript_self]
  simp [challengeAuthTranscript]

/-- `SpdmGenerateChallengeAuthSignature`: the signature, `none` for `FALSE`, and the
context with the ledgers as the appends leave them. -/
def spdmGenerateChallengeAuthSignature (crypto : SpdmCrypto) (ctx : SpdmDeviceContext)
    (isRequester : Bool) (responseMessage : List UInt8) :
    Option (List UInt8) × SpdmDeviceContext :=
  let hashAlgo := ctx.connectionInfo.algorithm.baseHashAlgo
  if isRequester then
    let (s1, ctx) := appendTranscript ctx .messageMutC responseMessage
    if s1.isError then (none, ctx) else
    let (s2, ctx) := appendTranscript ctx .m1m2 (ctx.ledger .messageMutB)
    if s2.isError then (none, ctx) else
    let (s3, ctx) := appendTranscript ctx .m1m2 (ctx.ledger .messageMutC)
    if s3.isError then (none, ctx) else
    (crypto.requesterDataSign ctx.connectionInfo.algorithm.reqBaseAsymAlg
      (crypto.hashAll hashAlgo (ctx.ledger .m1m2)), ctx)
  else
    let (s1, ctx) := appendTranscript ctx .messageC responseMessage
    if s1.isError then (none, ctx) else
    let (s2, ctx) := appendTranscript ctx .m1m2 (ctx.ledger .messageA)
    if s2.isError then (none, ctx) else
    let (s3, ctx) := appendTranscript ctx .m1m2 (ctx.ledger .messageB)
    if s3.isError then (none, ctx) else
    let (s4, ctx) := appendTranscript ctx .m1m2 (ctx.ledger .messageC)
    if s4.isError then (none, ctx) else
    (crypto.responderDataSign ctx.connectionInfo.algorithm.baseAsymAlgo
      (crypto.hashAll hashAlgo (ctx.ledger .m1m2)), ctx)

/-- **What the requester signs** in the encapsulated role: the hash of `M1M2` as its
appends leave it, with a signature of the size of its algorithm. -/
theorem spdmGenerateChallengeAuthSignature_requester {crypto : SpdmCrypto} {ctx : SpdmDeviceContext}
    {responseMessage signature : List UInt8}
    (h : (spdmGenerateChallengeAuthSignature crypto ctx true responseMessage).1 = some signature) :
    crypto.requesterDataSign ctx.connectionInfo.algorithm.reqBaseAsymAlg
      (crypto.hashAll ctx.connectionInfo.algorithm.baseHashAlgo
        ((spdmGenerateChallengeAuthSignature crypto ctx true responseMessage).2.ledger .m1m2)) =
      some signature := by
  unfold spdmGenerateChallengeAuthSignature at h ⊢
  simp only [if_true] at h ⊢
  split_ifs at h ⊢
  exact h

/-- `SpdmVerifyChallengeAuthSignature`: `none` where the X.509 layer is handed a
region past the end of the peer's chain. -/
def spdmVerifyChallengeAuthSignature (crypto : SpdmCrypto) (ctx : SpdmDeviceContext)
    (isRequester : Bool) (signData : List UInt8) : Option Bool :=
  let algorithm := ctx.connectionInfo.algorithm
  let hashData := crypto.hashAll algorithm.baseHashAlgo (ctx.ledger .m1m2)
  match spdmPeerCertChain ctx with
  | none => some false
  | some chain =>
    (CertBuffer.mk chain (crypto.hashSize algorithm.baseHashAlgo)).read.map fun certChain =>
      if isRequester then
        crypto.asymVerifyWithLeaf algorithm.baseAsymAlgo certChain hashData signData
      else crypto.reqAsymVerifyWithLeaf algorithm.reqBaseAsymAlg certChain hashData signData

/-- `SpdmVerifyMeasurementSignature`: the signature over the hash of `L1L2`, checked
with the key of the peer's leaf certificate. -/
def spdmVerifyMeasurementSignature (crypto : SpdmCrypto) (ctx : SpdmDeviceContext)
    (signData : List UInt8) : Option Bool :=
  let algorithm := ctx.connectionInfo.algorithm
  let hashData := crypto.hashAll algorithm.baseHashAlgo (ctx.ledger .l1l2)
  match spdmPeerCertChain ctx with
  | none => some false
  | some chain =>
    (CertBuffer.mk chain (crypto.hashSize algorithm.baseHashAlgo)).read.map fun certChain =>
      crypto.asymVerifyWithLeaf algorithm.baseAsymAlgo certChain hashData signData

/-- The four-byte chain `DE AD BE EF` is accepted by `SpdmSetData` as the peer's
chain; with a 32-byte hash the verifier's `CertChainBufferSize` wraps around to
`2 ^ 64 - 32`, and the region it passes on runs past the chain. -/
theorem spdmVerifyChallengeAuthSignature_shortChain :
    (spdmSetData typicalSpdmLibConfig (spdmInitContext typicalSpdmLibConfig 0 0)
        .peerPublicCertChains ⟨fun _ => 0⟩ [0xDE, 0xAD, 0xBE, 0xEF]).1 = .success ∧
      certChainBodySize 4 (sampleSpdmCrypto.hashSize 0) = 2 ^ 64 - 32 ∧
      spdmVerifyChallengeAuthSignature sampleSpdmCrypto
        (spdmSetData typicalSpdmLibConfig (spdmInitContext typicalSpdmLibConfig 0 0)
          .peerPublicCertChains ⟨fun _ => 0⟩ [0xDE, 0xAD, 0xBE, 0xEF]).2 true [] = none := by
  refine ⟨rfl, certChainBodySize_of_lt (by decide) (by decide), ?_⟩
  simp only [spdmVerifyChallengeAuthSignature, spdmSetData_peerPublicCertChains]
  rw [spdmPeerCertChain, if_neg (by simp [spdmInitContext]), if_pos (by simp)]
  simp only [Option.map_eq_none']
  exact CertBuffer.read_of_lt (by decide) (by decide)

/-! ### Each side accepts the other's signature -/

/-- **What the responder signs**: the hash of `M1M2` as its appends leave it. -/
theorem spdmGenerateChallengeAuthSignature_responder {crypto : SpdmCrypto} {ctx : SpdmDeviceContext}
    {responseMessage signature : List UInt8}
    (h : (spdmGenerateChallengeAuthSignature crypto ctx false responseMessage).1 = some signature) :
    crypto.responderDataSign ctx.connectionInfo.algorithm.baseAsymAlgo
      (crypto.hashAll ctx.connectionInfo.algorithm.baseHashAlgo
        ((spdmGenerateChallengeAuthSignature crypto ctx false responseMessage).2.ledger .m1m2)) =
      some signature := by
  unfold spdmGenerateChallengeAuthSignature at h ⊢
  simp only [Bool.false_eq_true, if_false] at h ⊢
  split_ifs at h ⊢
  exact h

/-- **Each side's `CHALLENGE_AUTH` signature is accepted by the other side's check.** A
signature `SpdmGenerateChallengeAuthSignature` makes in one role is accepted by
`SpdmVerifyChallengeAuthSignature` in the other, `IsRequester` flipped, on a context
that negotiated the same algorithms, holds the `M1M2` the signer hashed, and whose
peer chain is read to a chain whose leaf-key check, for the signer's role, accepts
what the signer signs. -/
theorem challengeAuthSignature_generate_verify_agree {crypto : SpdmCrypto} {S R : SpdmDeviceContext}
    {isRequester : Bool} {responseMessage signature chain certChain : List UInt8}
    (h : (spdmGenerateChallengeAuthSignature crypto S isRequester responseMessage).1 = some signature)
    (hm1m2 : R.ledger .m1m2 =
      (spdmGenerateChallengeAuthSignature crypto S isRequester responseMessage).2.ledger .m1m2)
    (halg : R.connectionInfo.algorithm = S.connectionInfo.algorithm)
    (hchain : spdmPeerCertChain R = some chain)
    (hread : (CertBuffer.mk chain (crypto.hashSize S.connectionInfo.algorithm.baseHashAlgo)).read =
      some certChain)
    (hkey : if isRequester then
        SignsForLeaf (crypto.requesterDataSign S.connectionInfo.algorithm.reqBaseAsymAlg)
          (crypto.reqAsymVerifyWithLeaf S.connectionInfo.algorithm.reqBaseAsymAlg) certChain
      else SignsForLeaf (crypto.responderDataSign S.connectionInfo.algorithm.baseAsymAlgo)
          (crypto.asymVerifyWithLeaf S.connectionInfo.algorithm.baseAsymAlgo) certChain) :
    spdmVerifyChallengeAuthSignature crypto R (!isRequester) signature = some true := by
  simp only [spdmVerifyChallengeAuthSignature, hchain, halg, hread, Option.map_some', hm1m2]
  cases isRequester with
  | false => simpa using hkey _ _ (spdmGenerateChallengeAuthSignature_responder h)
  | true => simpa using hkey _ _ (spdmGenerateChallengeAuthSignature_requester h)

/-- A fresh responder's signature over the response `[1, 2, 3]`, checked by a
requester holding the same `M1M2` and the responder's chain. -/
theorem challengeAuthSignature_generate_verify_agree_sample :
    (spdmGenerateChallengeAuthSignature sampleSpdmCrypto (spdmInitContext typicalSpdmLibConfig 0 0)
        false [1, 2, 3]).1 = some (List.replicate 32 3) ∧
      spdmVerifyChallengeAuthSignature sampleSpdmCrypto
        { (spdmGenerateChallengeAuthSignature sampleSpdmCrypto (spdmInitContext typicalSpdmLibConfig 0 0)
            false [1, 2, 3]).2 with localContext.peerCertChainProvision := List.replicate 40 1 }
        true (List.replicate 32 3) = some true := by
  have h : (spdmGenerateChallengeAuthSignature sampleSpdmCrypto (spdmInitContext typicalSpdmLibConfig 0 0)
      false [1, 2, 3]).1 = some (List.replicate 32 3) := rfl
  have hkey : SignsForLeaf (sampleSpdmCrypto.responderDataSign 0) (sampleSpdmCrypto.asymVerifyWithLeaf 0)
      (List.replicate 4 1) := by
    rintro hash signature hsign
    cases hsign
    simp [SpdmCrypto.asymVerifyWithLeaf, verifyWithLeafKey, sampleSpdmCrypto]
  exact ⟨h, challengeAuthSignature_generate_verify_agree h rfl rfl rfl rfl hkey⟩

end OpenSpdm
