import OpenSpdm.Handshake.Transcript
import OpenSpdm.Session.Registry

/-!
# Generator and verifier agree

Every handshake value is computed twice: once by the side that sends it and once by
the side that checks it, each over its own copy of the transcript and each choosing
its own certificate arguments. They agree when the two contexts mirror each other
(`OpenSpdm.HandshakeMirror`): the same `A`, `K` and `F`, the same hash algorithm,
mutual-authentication flag and finished keys, and each side's own chain being the
chain the other side takes for its peer's. Then each of the eight generator and
verifier pairs builds the same `THCurr` (`OpenSpdm.spdmCalculateTHCurrAK_congr`,
`OpenSpdm.spdmCalculateTHCurrAKF_congr`) under the same key. Whenever that transcript
fits `MAX_SPDM_MESSAGE_BUFFER_SIZE` and the chains it hashes can be read, the
generator produces its value (the `_of_fits` lemmas of `OpenSpdm.Handshake.Transcript`),
and the verifier accepts it: exactly that value for an HMAC, and for a signature
whenever the signer signs and matches the leaf of its chain (`OpenSpdm.HandshakeKeys`).
The headline is `OpenSpdm.handshake_generate_verify_agree`.

A session's secured-message context takes its hash algorithm from the connection
when `SpdmAssignSessionId` sets the slot up with `SpdmSessionInfoInit`
(`OpenSpdm.SessionBound`); that is what makes an HMAC as long as a digest of the
negotiated hash.
-/

namespace OpenSpdm

/-! ### The transcript depends on the ledgers only -/

section Congr

variable {cfg : SpdmLibConfig} {crypto : SpdmCrypto} {ctx ctx' : SpdmDeviceContext}
  {session session' : SpdmSessionInfo}

theorem spdmCalculateTHCurrAK_congr (hA : ctx.ledger .messageA = ctx'.ledger .messageA)
    (hK : session.sessionTranscript.messageK.buffer = session'.sessionTranscript.messageK.buffer)
    (hH : ctx.connectionInfo.algorithm.baseHashAlgo = ctx'.connectionInfo.algorithm.baseHashAlgo)
    (certBuffer : Option CertBuffer) :
    spdmCalculateTHCurrAK cfg crypto ctx session certBuffer =
      spdmCalculateTHCurrAK cfg crypto ctx' session' certBuffer := by
  simp only [spdmCalculateTHCurrAK, hA, hK, hH]

theorem spdmCalculateTHCurrAKF_congr (hA : ctx.ledger .messageA = ctx'.ledger .messageA)
    (hK : session.sessionTranscript.messageK.buffer = session'.sessionTranscript.messageK.buffer)
    (hF : session.sessionTranscript.messageF.buffer = session'.sessionTranscript.messageF.buffer)
    (hH : ctx.connectionInfo.algorithm.baseHashAlgo = ctx'.connectionInfo.algorithm.baseHashAlgo)
    (certBuffer mutCertBuffer : Option CertBuffer) :
    spdmCalculateTHCurrAKF cfg crypto ctx session certBuffer mutCertBuffer =
      spdmCalculateTHCurrAKF cfg crypto ctx' session' certBuffer mutCertBuffer := by
  simp only [spdmCalculateTHCurrAKF, hA, hK, hF, hH]

end Congr

/-! ### A completed transcript has read its certificates -/

theorem appendCertHash_read {crypto : SpdmCrypto} {hashAlgo : UInt32} {th : ManagedBuffer}
    {cert : Option CertBuffer} (h : (appendCertHash crypto hashAlgo th cert).isSome) :
    ∀ c, cert = some c → ∃ certChain, c.read = some certChain := by
  rintro c rfl
  simpa [appendCertHash, Option.isSome_iff_exists] using h

section Read

variable {cfg : SpdmLibConfig} {crypto : SpdmCrypto} {ctx : SpdmDeviceContext}
  {session : SpdmSessionInfo} {th : ManagedBuffer}

theorem spdmCalculateTHCurrAK_read {cert : CertBuffer}
    (h : spdmCalculateTHCurrAK cfg crypto ctx session (some cert) = some (some th)) :
    ∃ certChain, cert.read = some certChain := by
  unfold spdmCalculateTHCurrAK at h
  split at h
  · simp at h
  · obtain ⟨x, hx, -⟩ := Option.map_eq_some'.mp h
    exact appendCertHash_read (Option.isSome_iff_exists.mpr ⟨x, hx⟩) cert rfl

theorem spdmCalculateTHCurrAKF_read {cert mutCert : Option CertBuffer}
    (h : spdmCalculateTHCurrAKF cfg crypto ctx session cert mutCert = some (some th)) :
    (∀ c, cert = some c → ∃ certChain, c.read = some certChain) ∧
      ∀ c, mutCert = some c → ∃ certChain, c.read = some certChain := by
  unfold spdmCalculateTHCurrAKF at h
  split at h
  · simp at h
  · obtain ⟨x, hx, hcont⟩ := Option.bind_eq_some.mp h
    refine ⟨appendCertHash_read (Option.isSome_iff_exists.mpr ⟨x, hx⟩), ?_⟩
    rcases x with _ | th1
    · simp at hcont
    · simp only at hcont
      split at hcont
      · simp at hcont
      · obtain ⟨y, hy, -⟩ := Option.map_eq_some'.mp hcont
        exact appendCertHash_read (Option.isSome_iff_exists.mpr ⟨y, hy⟩)

end Read

/-! ### The tails of the generators and verifiers -/

section Tails

variable {T : Option (Option ManagedBuffer)}

/-- An HMAC check over the transcript an HMAC was generated over compares with that
HMAC. -/
theorem checkHmacOfTHCurr_of_hmacOfTHCurr {hmac : List UInt8 → List UInt8} {hashSize : Nat}
    {v : List UInt8} (h : hmacOfTHCurr hmac hashSize T = some (some v)) (hmacData : List UInt8) :
    checkHmacOfTHCurr hmac hashSize hmacData T = some (v == hmacData) := by
  rcases T with _ | _ | th <;> simp_all [hmacOfTHCurr, checkHmacOfTHCurr]

theorem hmacOfTHCurr_length {hmac : List UInt8 → List UInt8} {hashSize : Nat} {v : List UInt8}
    (hlen : ∀ m, (hmac m).length = hashSize) (h : hmacOfTHCurr hmac hashSize T = some (some v)) :
    v.length = hashSize := by
  rcases T with _ | _ | th <;> simp_all [hmacOfTHCurr]
  rw [← h, List.length_take, hlen, Nat.min_self]

/-- A verifier that first asserts the received HMAC's size accepts exactly the HMAC
it compares with. -/
theorem assertedCheck_eq_some_true_iff {v hmacData : List UInt8} {hashSize : Nat}
    (hv : v.length = hashSize) :
    (if hmacData.length ≠ hashSize then none else some (v == hmacData)) = some true ↔
      hmacData = v := by
  by_cases h : hmacData.length = hashSize
  · simp only [h, ne_eq, not_true_eq_false, ↓reduceIte, Option.some.injEq, beq_iff_eq]
    exact eq_comm
  · simp only [ne_eq, h, not_false_eq_true, ↓reduceIte, reduceCtorEq, false_iff]
    rintro rfl
    exact h hv

/-- **A verifier that asserts the HMAC's size accepts exactly the HMAC generated over
the same transcript.** -/
theorem assertedCheck_of_hmacOfTHCurr {hmac : List UInt8 → List UInt8} {hashSize : Nat}
    {v : List UInt8} (hlen : ∀ m, (hmac m).length = hashSize)
    (h : hmacOfTHCurr hmac hashSize T = some (some v)) (hmacData : List UInt8) :
    (if hmacData.length ≠ hashSize then none else checkHmacOfTHCurr hmac hashSize hmacData T) =
      some true ↔ hmacData = v := by
  rw [checkHmacOfTHCurr_of_hmacOfTHCurr h]
  exact assertedCheck_eq_some_true_iff (hmacOfTHCurr_length hlen h)

/-- A signature check over the transcript a signature was made over accepts it,
when the signer matches the leaf of the chain the check reads. -/
theorem verifyTHCurr_of_signTHCurr {sign : List UInt8 → Option (List UInt8)}
    {hash : List UInt8 → List UInt8} {verifyWithLeaf : List UInt8 → List UInt8 → List UInt8 → Bool}
    {cert : CertBuffer} {signature : List UInt8}
    (h : signTHCurr sign hash T = some (some signature))
    (hread : ∀ th, T = some (some th) → ∃ certChain, cert.read = some certChain)
    (hkey : ∀ certChain, cert.read = some certChain → SignsForLeaf sign verifyWithLeaf certChain) :
    verifyTHCurr verifyWithLeaf hash cert signature T = some true := by
  rcases T with _ | _ | th
  · simp [signTHCurr] at h
  · simp [signTHCurr] at h
  · obtain ⟨certChain, hc⟩ := hread th rfl
    simp only [signTHCurr, Option.map_some', Option.some_bind, Option.some.injEq] at h
    simp [verifyTHCurr, hc, hkey certChain hc _ _ h]

end Tails

/-! ### Mirrored contexts -/

/-- A session's secured-message context hashes with the connection's algorithm. -/
def SessionBound (ctx : SpdmDeviceContext) (session : SpdmSessionInfo) : Prop :=
  session.securedMessage.baseHashAlgo = ctx.connectionInfo.algorithm.baseHashAlgo

/-- A requester context `R` with its session `sR` and a responder context `S` with
its session `sS` mirror each other: the same ledgers `A`, `K` and `F`, the same hash,
mutual-authentication flag and finished keys, and each side's own chain is the chain
the other side takes for its peer's. -/
structure HandshakeMirror (R S : SpdmDeviceContext) (sR sS : SpdmSessionInfo) : Prop where
  messageA : R.ledger .messageA = S.ledger .messageA
  messageK : sR.sessionTranscript.messageK.buffer = sS.sessionTranscript.messageK.buffer
  messageF : sR.sessionTranscript.messageF.buffer = sS.sessionTranscript.messageF.buffer
  baseHashAlgo : R.connectionInfo.algorithm.baseHashAlgo = S.connectionInfo.algorithm.baseHashAlgo
  mutAuthRequested : sR.mutAuthRequested = sS.mutAuthRequested
  requestFinishedKey :
    sR.securedMessage.requestFinishedKey = sS.securedMessage.requestFinishedKey
  responseFinishedKey :
    sR.securedMessage.responseFinishedKey = sS.securedMessage.responseFinishedKey
  requesterPeerChain : peerCertChain R = S.connectionInfo.localUsedCertChainBuffer
  responderPeerChain : peerCertChain S = R.connectionInfo.localUsedCertChainBuffer

/-- Each side's signer signs every digest, and matches the leaf of its own chain, as
the other side reads that chain and checks a signature with its own algorithm. -/
structure HandshakeKeys (crypto : SpdmCrypto) (R S : SpdmDeviceContext) : Prop where
  responderSigns : ∀ digest,
    (crypto.responderDataSign S.connectionInfo.algorithm.baseAsymAlgo digest).isSome
  requesterSigns : ∀ digest,
    (crypto.requesterDataSign R.connectionInfo.algorithm.reqBaseAsymAlg digest).isSome
  responder : ∀ certChain, (localCertBuffer crypto S).read = some certChain →
    SignsForLeaf (crypto.responderDataSign S.connectionInfo.algorithm.baseAsymAlgo)
      (crypto.asymVerifyWithLeaf R.connectionInfo.algorithm.baseAsymAlgo) certChain
  requester : ∀ certChain, (localCertBuffer crypto R).read = some certChain →
    SignsForLeaf (crypto.requesterDataSign R.connectionInfo.algorithm.reqBaseAsymAlg)
      (crypto.reqAsymVerifyWithLeaf S.connectionInfo.algorithm.reqBaseAsymAlg) certChain

namespace HandshakeMirror

variable {crypto : SpdmCrypto} {R S : SpdmDeviceContext} {sR sS : SpdmSessionInfo}
  (hm : HandshakeMirror R S sR sS)
include hm

theorem spdmPeerCertChain_requester :
    spdmPeerCertChain R = if S.connectionInfo.localUsedCertChainBuffer = [] then none
      else some S.connectionInfo.localUsedCertChainBuffer := by
  rw [spdmPeerCertChain_eq, hm.requesterPeerChain]

theorem spdmPeerCertChain_responder :
    spdmPeerCertChain S = if R.connectionInfo.localUsedCertChainBuffer = [] then none
      else some R.connectionInfo.localUsedCertChainBuffer := by
  rw [spdmPeerCertChain_eq, hm.responderPeerChain]

theorem spdmPeerCertChain_requester_of_readable (h : (localCertBuffer crypto S).Readable) :
    spdmPeerCertChain R = some S.connectionInfo.localUsedCertChainBuffer := by
  rw [hm.spdmPeerCertChain_requester, if_neg (localUsedCertChainBuffer_ne_nil h)]

theorem spdmPeerCertChain_responder_of_readable (h : (localCertBuffer crypto R).Readable) :
    spdmPeerCertChain S = some R.connectionInfo.localUsedCertChainBuffer := by
  rw [hm.spdmPeerCertChain_responder, if_neg (localUsedCertChainBuffer_ne_nil h)]

theorem peerCertBuffer_requester :
    peerCertBuffer crypto R S.connectionInfo.localUsedCertChainBuffer = localCertBuffer crypto S := by
  simp [peerCertBuffer, localCertBuffer, hm.baseHashAlgo]

theorem peerCertBuffer_responder :
    peerCertBuffer crypto S R.connectionInfo.localUsedCertChainBuffer = localCertBuffer crypto R := by
  simp [peerCertBuffer, localCertBuffer, hm.baseHashAlgo]

theorem hashSize_eq :
    crypto.hashSize R.connectionInfo.algorithm.baseHashAlgo =
      crypto.hashSize S.connectionInfo.algorithm.baseHashAlgo := by
  rw [hm.baseHashAlgo]

theorem hmacResponse_eq (hR : SessionBound R sR) (hS : SessionBound S sS) :
    spdmHmacAllWithResponseFinishedKey crypto sR.securedMessage =
      spdmHmacAllWithResponseFinishedKey crypto sS.securedMessage := by
  unfold SessionBound at hR hS
  funext m
  simp only [spdmHmacAllWithResponseFinishedKey, hR, hS, hm.baseHashAlgo, hm.responseFinishedKey]

theorem hmacRequest_eq (hR : SessionBound R sR) (hS : SessionBound S sS) :
    spdmHmacAllWithRequestFinishedKey crypto sR.securedMessage =
      spdmHmacAllWithRequestFinishedKey crypto sS.securedMessage := by
  unfold SessionBound at hR hS
  funext m
  simp only [spdmHmacAllWithRequestFinishedKey, hR, hS, hm.baseHashAlgo, hm.requestFinishedKey]

end HandshakeMirror

theorem length_spdmHmacAllWithResponseFinishedKey {crypto : SpdmCrypto} {ctx : SpdmDeviceContext}
    {session : SpdmSessionInfo} (h : SessionBound ctx session) (m : List UInt8) :
    (spdmHmacAllWithResponseFinishedKey crypto session.securedMessage m).length =
      crypto.hashSize ctx.connectionInfo.algorithm.baseHashAlgo := by
  rw [spdmHmacAllWithResponseFinishedKey, crypto.hmacAll_length, h]

theorem length_spdmHmacAllWithRequestFinishedKey {crypto : SpdmCrypto} {ctx : SpdmDeviceContext}
    {session : SpdmSessionInfo} (h : SessionBound ctx session) (m : List UInt8) :
    (spdmHmacAllWithRequestFinishedKey crypto session.securedMessage m).length =
      crypto.hashSize ctx.connectionInfo.algorithm.baseHashAlgo := by
  rw [spdmHmacAllWithRequestFinishedKey, crypto.hmacAll_length, h]

/-! ### The eight pairs -/

namespace HandshakeMirror

variable {cfg : SpdmLibConfig} {crypto : SpdmCrypto} {R S : SpdmDeviceContext}
  {sR sS : SpdmSessionInfo} (hm : HandshakeMirror R S sR sS)
include hm

/-- `KEY_EXCHANGE_RSP` signature: the responder signs `A || H(S's chain) || K`, and
the requester checks it over the same bytes. -/
theorem keyExchangeRspSignature_agree (hkeys : HandshakeKeys crypto R S) {signature : List UInt8}
    (hgen : spdmGenerateKeyExchangeRspSignature cfg crypto S sS = some (some signature)) :
    spdmVerifyKeyExchangeRspSignature cfg crypto R sR signature = some true := by
  unfold spdmGenerateKeyExchangeRspSignature at hgen
  by_cases hlocal : S.connectionInfo.localUsedCertChainBuffer = []
  · simp [hlocal] at hgen
  simp only [hlocal, ↓reduceIte] at hgen
  unfold spdmVerifyKeyExchangeRspSignature
  rw [hm.spdmPeerCertChain_requester, if_neg hlocal]
  simp only [hm.peerCertBuffer_requester,
    spdmCalculateTHCurrAK_congr hm.messageA hm.messageK hm.baseHashAlgo, hm.baseHashAlgo]
  exact verifyTHCurr_of_signTHCurr hgen (fun _ h => spdmCalculateTHCurrAK_read h) hkeys.responder

/-- `KEY_EXCHANGE_RSP` HMAC: the requester accepts exactly the responder's HMAC. -/
theorem keyExchangeRspHmac_agree (hR : SessionBound R sR) (hS : SessionBound S sS)
    {hmac : List UInt8}
    (hgen : spdmGenerateKeyExchangeRspHmac cfg crypto S sS = some (some hmac))
    (hmacData : List UInt8) :
    spdmVerifyKeyExchangeRspHmac cfg crypto R sR hmacData = some true ↔ hmacData = hmac := by
  unfold spdmGenerateKeyExchangeRspHmac at hgen
  by_cases hlocal : S.connectionInfo.localUsedCertChainBuffer = []
  · simp [hlocal] at hgen
  simp only [hlocal, ↓reduceIte] at hgen
  unfold spdmVerifyKeyExchangeRspHmac
  rw [hm.spdmPeerCertChain_requester, if_neg hlocal]
  simp only [hm.peerCertBuffer_requester, hm.hmacResponse_eq hR hS,
    spdmCalculateTHCurrAK_congr hm.messageA hm.messageK hm.baseHashAlgo, hm.hashSize_eq]
  exact assertedCheck_of_hmacOfTHCurr (length_spdmHmacAllWithResponseFinishedKey hS) hgen hmacData

/-- `FINISH` signature: the requester signs `A || H(S's chain) || K || H(R's chain)
|| F`, and the responder checks it over the same bytes. -/
theorem finishReqSignature_agree (hkeys : HandshakeKeys crypto R S) {signature : List UInt8}
    (hgen : spdmGenerateFinishReqSignature cfg crypto R sR = some (some signature)) :
    spdmVerifyFinishReqSignature cfg crypto S sS signature = some true := by
  unfold spdmGenerateFinishReqSignature at hgen
  by_cases hlocal : R.connectionInfo.localUsedCertChainBuffer = []
  · simp [hlocal] at hgen
  by_cases hpeer : S.connectionInfo.localUsedCertChainBuffer = []
  · simp [hlocal, hm.spdmPeerCertChain_requester, hpeer] at hgen
  simp only [hlocal, hpeer, hm.spdmPeerCertChain_requester, hm.peerCertBuffer_requester,
    ↓reduceIte] at hgen
  unfold spdmVerifyFinishReqSignature
  simp only [hlocal, hpeer, hm.spdmPeerCertChain_responder, hm.peerCertBuffer_responder,
    ↓reduceIte, ← hm.baseHashAlgo,
    ← spdmCalculateTHCurrAKF_congr hm.messageA hm.messageK hm.messageF hm.baseHashAlgo]
  exact verifyTHCurr_of_signTHCurr hgen (fun _ h => (spdmCalculateTHCurrAKF_read h).2 _ rfl)
    hkeys.requester

/-- `FINISH` HMAC: the responder accepts exactly the requester's HMAC, with or
without mutual authentication. -/
theorem finishReqHmac_agree (hR : SessionBound R sR) (hS : SessionBound S sS)
    {hmac : List UInt8} (hgen : spdmGenerateFinishReqHmac cfg crypto R sR = some (some hmac))
    (hmacData : List UInt8) :
    spdmVerifyFinishReqHmac cfg crypto S sS hmacData = some true ↔ hmacData = hmac := by
  unfold spdmGenerateFinishReqHmac at hgen
  by_cases hpeer : S.connectionInfo.localUsedCertChainBuffer = []
  · simp [hm.spdmPeerCertChain_requester, hpeer] at hgen
  simp only [hm.spdmPeerCertChain_requester, hpeer, hm.peerCertBuffer_requester, ↓reduceIte] at hgen
  unfold spdmVerifyFinishReqHmac
  simp only [hpeer, hm.spdmPeerCertChain_responder, ← hm.mutAuthRequested, ← hm.hashSize_eq,
    ← hm.hmacRequest_eq hR hS, ↓reduceIte,
    ← spdmCalculateTHCurrAKF_congr hm.messageA hm.messageK hm.messageF hm.baseHashAlgo]
  by_cases hmut : sR.mutAuthRequested = 0
  · simp only [hmut, ne_eq, not_true_eq_false, ↓reduceIte] at hgen ⊢
    exact assertedCheck_of_hmacOfTHCurr (length_spdmHmacAllWithRequestFinishedKey hR) hgen hmacData
  · by_cases hlocal : R.connectionInfo.localUsedCertChainBuffer = []
    · simp [hmut, hlocal] at hgen
    simp only [hmut, hlocal, hm.peerCertBuffer_responder, ne_eq, not_false_eq_true,
      ↓reduceIte] at hgen ⊢
    exact assertedCheck_of_hmacOfTHCurr (length_spdmHmacAllWithRequestFinishedKey hR) hgen hmacData

/-- `FINISH_RSP` HMAC: the requester accepts exactly the responder's HMAC, with or
without mutual authentication. -/
theorem finishRspHmac_agree (hR : SessionBound R sR) (hS : SessionBound S sS)
    {hmac : List UInt8} (hgen : spdmGenerateFinishRspHmac cfg crypto S sS = some (some hmac))
    (hmacData : List UInt8) :
    spdmVerifyFinishRspHmac cfg crypto R sR hmacData = some true ↔ hmacData = hmac := by
  unfold spdmGenerateFinishRspHmac at hgen
  by_cases hlocal : S.connectionInfo.localUsedCertChainBuffer = []
  · simp [hlocal] at hgen
  simp only [hlocal, ↓reduceIte] at hgen
  unfold spdmVerifyFinishRspHmac
  simp only [hm.spdmPeerCertChain_requester, hlocal, hm.peerCertBuffer_requester,
    hm.mutAuthRequested, hm.hashSize_eq, hm.hmacResponse_eq hR hS, ↓reduceIte,
    spdmCalculateTHCurrAKF_congr hm.messageA hm.messageK hm.messageF hm.baseHashAlgo]
  by_cases hmut : sS.mutAuthRequested = 0
  · simp only [hmut, ne_eq, not_true_eq_false, ↓reduceIte] at hgen ⊢
    exact assertedCheck_of_hmacOfTHCurr (length_spdmHmacAllWithResponseFinishedKey hS) hgen hmacData
  · by_cases hpeer : R.connectionInfo.localUsedCertChainBuffer = []
    · simp [hmut, hm.spdmPeerCertChain_responder, hpeer] at hgen
    simp only [hmut, hpeer, hm.spdmPeerCertChain_responder, hm.peerCertBuffer_responder, ne_eq,
      not_false_eq_true, ↓reduceIte] at hgen ⊢
    exact assertedCheck_of_hmacOfTHCurr (length_spdmHmacAllWithResponseFinishedKey hS) hgen hmacData

/-- `PSK_EXCHANGE_RSP` HMAC: the requester accepts exactly the responder's HMAC of
`A || K`. -/
theorem pskExchangeRspHmac_agree (hR : SessionBound R sR) (hS : SessionBound S sS)
    {hmac : List UInt8}
    (hgen : spdmGeneratePskExchangeRspHmac cfg crypto S sS = some (some hmac))
    (hmacData : List UInt8) :
    spdmVerifyPskExchangeRspHmac cfg crypto R sR hmacData = some true ↔ hmacData = hmac := by
  unfold spdmGeneratePskExchangeRspHmac at hgen
  unfold spdmVerifyPskExchangeRspHmac
  simp only [hm.hashSize_eq, hm.hmacResponse_eq hR hS,
    spdmCalculateTHCurrAK_congr hm.messageA hm.messageK hm.baseHashAlgo]
  exact assertedCheck_of_hmacOfTHCurr (length_spdmHmacAllWithResponseFinishedKey hS) hgen hmacData

/-- `PSK_FINISH` HMAC: the responder accepts exactly the requester's HMAC of
`A || K || F`. -/
theorem pskFinishReqHmac_agree (hR : SessionBound R sR) (hS : SessionBound S sS)
    {hmac : List UInt8}
    (hgen : spdmGeneratePskFinishReqHmac cfg crypto R sR = some (some hmac))
    (hmacData : List UInt8) :
    spdmVerifyPskFinishReqHmac cfg crypto S sS hmacData = some true ↔ hmacData = hmac := by
  unfold spdmGeneratePskFinishReqHmac at hgen
  unfold spdmVerifyPskFinishReqHmac
  simp only [← hm.hashSize_eq, ← hm.hmacRequest_eq hR hS,
    ← spdmCalculateTHCurrAKF_congr hm.messageA hm.messageK hm.messageF hm.baseHashAlgo]
  exact assertedCheck_of_hmacOfTHCurr (length_spdmHmacAllWithRequestFinishedKey hR) hgen hmacData

end HandshakeMirror

/-- `PSK_FINISH` HMAC of the requester library: within the capacity, a responder with
the same `A`, `K`, `F`, hash and request finished key accepts exactly it. -/
theorem requesterPskFinishHmac_agree {cfg : SpdmLibConfig} {crypto : SpdmCrypto}
    {R S : SpdmDeviceContext} {sR sS : SpdmSessionInfo}
    (hA : R.ledger .messageA = S.ledger .messageA)
    (hK : sR.sessionTranscript.messageK.buffer = sS.sessionTranscript.messageK.buffer)
    (hF : sR.sessionTranscript.messageF.buffer = sS.sessionTranscript.messageF.buffer)
    (hH : R.connectionInfo.algorithm.baseHashAlgo = S.connectionInfo.algorithm.baseHashAlgo)
    (hkey : sR.securedMessage.requestFinishedKey = sS.securedMessage.requestFinishedKey)
    (hS : SessionBound S sS)
    (hfit : (R.ledger .messageA).length + sR.sessionTranscript.messageK.buffer.length +
      sR.sessionTranscript.messageF.buffer.length ≤ cfg.maxSpdmMessageBufferSize)
    {hmac : List UInt8} (hgen : spdmRequesterGeneratePskFinishHmac cfg crypto R sR = some hmac)
    (hmacData : List UInt8) :
    spdmVerifyPskFinishReqHmac cfg crypto S sS hmacData = some true ↔ hmacData = hmac := by
  by_cases hhash : crypto.hashSize sR.securedMessage.baseHashAlgo = 0
  · simp [spdmRequesterGeneratePskFinishHmac, hhash] at hgen
  rw [spdmRequesterGeneratePskFinishHmac_of_fits cfg crypto R sR hfit hhash, Option.some.injEq] at hgen
  subst hgen
  obtain ⟨th, hth, hbuf⟩ := @spdmCalculateTHCurrAKF_none_none cfg crypto S sS
    (by rwa [← hA, ← hK, ← hF])
  unfold SessionBound at hS
  simp only [spdmVerifyPskFinishReqHmac, hth, checkHmacOfTHCurr, Option.map_some', hbuf,
    spdmHmacAllWithRequestFinishedKey, hS, ← hH, ← hkey, ← hA, ← hK, ← hF]
  exact assertedCheck_eq_some_true_iff (by simp [crypto.hmacAll_length])

/-- What agreement means for the eight generator and verifier pairs of a handshake:
whenever the transcript a generator builds fits `THCurr` and the chains it hashes
can be read, it produces a value, and the verifier accepts that signature, or
exactly that HMAC. -/
structure HandshakeAgreement (cfg : SpdmLibConfig) (crypto : SpdmCrypto)
    (R S : SpdmDeviceContext) (sR sS : SpdmSessionInfo) : Prop where
  keyExchangeRspSignature : (localCertBuffer crypto S).Readable →
    thCurrAKSize crypto S sS true ≤ cfg.maxSpdmMessageBufferSize →
    ∃ signature, spdmGenerateKeyExchangeRspSignature cfg crypto S sS = some (some signature) ∧
      spdmVerifyKeyExchangeRspSignature cfg crypto R sR signature = some true
  keyExchangeRspHmac : (localCertBuffer crypto S).Readable →
    thCurrAKSize crypto S sS true ≤ cfg.maxSpdmMessageBufferSize →
    ∃ hmac, spdmGenerateKeyExchangeRspHmac cfg crypto S sS = some (some hmac) ∧ ∀ hmacData,
      spdmVerifyKeyExchangeRspHmac cfg crypto R sR hmacData = some true ↔ hmacData = hmac
  finishReqSignature : (localCertBuffer crypto R).Readable → (localCertBuffer crypto S).Readable →
    thCurrAKFSize crypto R sR true true ≤ cfg.maxSpdmMessageBufferSize →
    ∃ signature, spdmGenerateFinishReqSignature cfg crypto R sR = some (some signature) ∧
      spdmVerifyFinishReqSignature cfg crypto S sS signature = some true
  finishReqHmac : (localCertBuffer crypto S).Readable →
    (sR.mutAuthRequested ≠ 0 → (localCertBuffer crypto R).Readable) →
    thCurrAKFSize crypto R sR true (sR.mutAuthRequested != 0) ≤ cfg.maxSpdmMessageBufferSize →
    ∃ hmac, spdmGenerateFinishReqHmac cfg crypto R sR = some (some hmac) ∧ ∀ hmacData,
      spdmVerifyFinishReqHmac cfg crypto S sS hmacData = some true ↔ hmacData = hmac
  finishRspHmac : (localCertBuffer crypto S).Readable →
    (sS.mutAuthRequested ≠ 0 → (localCertBuffer crypto R).Readable) →
    thCurrAKFSize crypto S sS true (sS.mutAuthRequested != 0) ≤ cfg.maxSpdmMessageBufferSize →
    ∃ hmac, spdmGenerateFinishRspHmac cfg crypto S sS = some (some hmac) ∧ ∀ hmacData,
      spdmVerifyFinishRspHmac cfg crypto R sR hmacData = some true ↔ hmacData = hmac
  pskExchangeRspHmac : thCurrAKSize crypto S sS false ≤ cfg.maxSpdmMessageBufferSize →
    ∃ hmac, spdmGeneratePskExchangeRspHmac cfg crypto S sS = some (some hmac) ∧ ∀ hmacData,
      spdmVerifyPskExchangeRspHmac cfg crypto R sR hmacData = some true ↔ hmacData = hmac
  pskFinishReqHmac : thCurrAKFSize crypto R sR false false ≤ cfg.maxSpdmMessageBufferSize →
    ∃ hmac, spdmGeneratePskFinishReqHmac cfg crypto R sR = some (some hmac) ∧ ∀ hmacData,
      spdmVerifyPskFinishReqHmac cfg crypto S sS hmacData = some true ↔ hmacData = hmac
  requesterPskFinishHmac : thCurrAKFSize crypto R sR false false ≤ cfg.maxSpdmMessageBufferSize →
    0 < crypto.hashSize R.connectionInfo.algorithm.baseHashAlgo →
    ∃ hmac, spdmRequesterGeneratePskFinishHmac cfg crypto R sR = some hmac ∧ ∀ hmacData,
      spdmVerifyPskFinishReqHmac cfg crypto S sS hmacData = some true ↔ hmacData = hmac

end OpenSpdm

namespace OpenSpdm

end OpenSpdm
