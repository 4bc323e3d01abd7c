import OpenSpdm.CertChain
import OpenSpdm.Transcript

/-!
# The handshake transcripts and what is computed over them

A session handshake binds its messages through `THCurr`, a buffer of
`MAX_SPDM_MESSAGE_BUFFER_SIZE` bytes that `SpdmCalculateTHCurrAK` fills with
`A || H(Cert) || K` and `SpdmCalculateTHCurrAKF` with
`A || H(Cert) || K || H(MutCert) || F`, a hash term being present exactly when its
certificate buffer is: both are a list of appends to an empty buffer, each tested,
and `OpenSpdm.spdmCalculateTHCurr_shape` says when they return `TRUE` and what
`THCurr` then holds. Ten functions of the crypto services then sign, verify,
compute or check an HMAC over it, each choosing its own certificate arguments: the
responder's chain is `LocalUsedCertChainBuffer` on the responder and the peer's
chain on the requester, and the other way round for the requester's chain.

Three layers of outcome meet here, and the model keeps them apart. A function
returns `TRUE` with a value or `FALSE`; it may also read past a chain when it
strips a header from a chain shorter than the header (`OpenSpdm.CertBuffer.read`),
which is undefined behaviour, or trip an `ASSERT`. The generators return
`Option (Option (List UInt8))` and the verifiers `Option Bool`, the outer `none`
being undefined behaviour or a failed assertion.

The HMAC under a session's finished key belongs to `SpdmSecuredMessageLib`, whose
body is not among the sources; it is the HMAC of the session's hash algorithm under
that key.
-/

namespace OpenSpdm

/-! ### Building `THCurr` -/

/-- `Status = AppendManagedBuffer (THCurr, …); if (RETURN_ERROR (Status)) return FALSE;`. -/
def appendOrFalse (th : ManagedBuffer) (data : List UInt8) : Option ManagedBuffer :=
  if (appendManagedBuffer th data).1.isError then none else some (appendManagedBuffer th data).2

theorem appendOrFalse_of_le {th : ManagedBuffer} {data : List UInt8}
    (h : th.buffer.length + data.length ≤ th.maxBufferSize) :
    appendOrFalse th data = some ⟨th.maxBufferSize, th.buffer ++ data, by simpa using h⟩ := by
  simp [appendOrFalse, appendManagedBuffer, h]

theorem appendOrFalse_of_lt {th : ManagedBuffer} {data : List UInt8}
    (h : th.maxBufferSize < th.buffer.length + data.length) : appendOrFalse th data = none := by
  simp [appendOrFalse, appendManagedBuffer_of_lt h, ReturnStatus.isError]

theorem appendOrFalse_nil (th : ManagedBuffer) : appendOrFalse th [] = some th := by
  rw [appendOrFalse_of_le (by simpa using th.size_le)]
  exact congrArg some (ManagedBuffer.ext rfl (List.append_nil _))

/-- Appends in a row, each followed by `if (RETURN_ERROR (Status)) return FALSE;`: the
buffer once every part is in, or `FALSE` at the first part that does not fit. -/
def appendAllOrFalse (th : ManagedBuffer) : List (List UInt8) → Option ManagedBuffer
  | [] => some th
  | data :: rest => (appendOrFalse th data).bind (appendAllOrFalse · rest)

/-- **Appends in a row succeed exactly when the parts fit together**, since each test
sees the sum of the parts before it; the buffer then holds the parts in order. -/
theorem appendAllOrFalse_buffer (th : ManagedBuffer) (parts : List (List UInt8)) :
    (appendAllOrFalse th parts).map ManagedBuffer.buffer =
      if th.buffer.length + (parts.map List.length).sum ≤ th.maxBufferSize then
        some (th.buffer ++ parts.flatten) else none := by
  induction parts generalizing th with
  | nil => simp [appendAllOrFalse, th.size_le]
  | cons data rest ih =>
    by_cases h : th.buffer.length + data.length ≤ th.maxBufferSize
    · rw [appendAllOrFalse, appendOrFalse_of_le h, Option.some_bind, ih]
      simp only [List.length_append, List.map_cons, List.sum_cons, List.flatten_cons,
        List.append_assoc, Nat.add_assoc]
    · rw [appendAllOrFalse, appendOrFalse_of_lt (by omega), Option.none_bind]
      simp only [List.map_cons, List.sum_cons, Option.map_none']
      rw [if_neg (by omega)]

/-- The hash of an optional certificate buffer appended to `THCurr`: nothing for a
`NULL` buffer, `none` when the buffer runs past its chain, `FALSE` when the hash does
not fit. -/
def appendCertHash (crypto : SpdmCrypto) (hashAlgo : UInt32) (th : ManagedBuffer) :
    Option CertBuffer → Option (Option ManagedBuffer)
  | none => some (some th)
  | some cert => cert.read.map fun bytes => appendOrFalse th (crypto.hashAll hashAlgo bytes)

/-- The term an optional certificate puts in `THCurr`: `H(Cert)` for the bytes of a
buffer, nothing at all for `NULL`. -/
def certHashTerm (crypto : SpdmCrypto) (hashAlgo : UInt32) : Option (List UInt8) → List UInt8
  | none => []
  | some bytes => crypto.hashAll hashAlgo bytes

@[simp] theorem length_certHashTerm (crypto : SpdmCrypto) (hashAlgo : UInt32)
    (bytes : Option (List UInt8)) :
    (certHashTerm crypto hashAlgo bytes).length =
      if bytes.isSome then crypto.hashSize hashAlgo else 0 := by
  cases bytes <;> simp [certHashTerm, crypto.hashAll_length]

/-- A certificate buffer whose bytes can be read adds its hash term with one tested
append; a `NULL` one adds nothing. -/
theorem appendCertHash_of_read {crypto : SpdmCrypto} {hashAlgo : UInt32} {cert : Option CertBuffer}
    {certBytes : Option (List UInt8)} (h : cert.map CertBuffer.read = certBytes.map some)
    (th : ManagedBuffer) :
    appendCertHash crypto hashAlgo th cert =
      some (appendOrFalse th (certHashTerm crypto hashAlgo certBytes)) := by
  cases cert <;> cases certBytes <;> simp_all [appendCertHash, certHashTerm, appendOrFalse_nil]

/-- `SpdmCalculateTHCurrAK`: `THCurr = A || H(Cert) || K`. -/
def spdmCalculateTHCurrAK (cfg : SpdmLibConfig) (crypto : SpdmCrypto) (ctx : SpdmDeviceContext)
    (session : SpdmSessionInfo) (certBuffer : Option CertBuffer) : Option (Option ManagedBuffer) :=
  match appendOrFalse (initManagedBuffer cfg.maxSpdmMessageBufferSize) (ctx.ledger .messageA) with
  | none => some none
  | some th =>
    (appendCertHash crypto ctx.connectionInfo.algorithm.baseHashAlgo th certBuffer).map
      (Option.bind · fun th => appendOrFalse th session.sessionTranscript.messageK.buffer)

/-- `SpdmCalculateTHCurrAKF`: `THCurr = A || H(Cert) || K || H(MutCert) || F`. -/
def spdmCalculateTHCurrAKF (cfg : SpdmLibConfig) (crypto : SpdmCrypto)
    (ctx : SpdmDeviceContext) (session : SpdmSessionInfo)
    (certBuffer mutCertBuffer : Option CertBuffer) : Option (Option ManagedBuffer) :=
  let hashAlgo := ctx.connectionInfo.algorithm.baseHashAlgo
  match appendOrFalse (initManagedBuffer cfg.maxSpdmMessageBufferSize) (ctx.ledger .messageA) with
  | none => some none
  | some th =>
    (appendCertHash crypto hashAlgo th certBuffer).bind fun
      | none => some none
      | some th =>
        match appendOrFalse th session.sessionTranscript.messageK.buffer with
        | none => some none
        | some th =>
          (appendCertHash crypto hashAlgo th mutCertBuffer).map
            (Option.bind · fun th => appendOrFalse th session.sessionTranscript.messageF.buffer)

/-! ### When `THCurr` is built, and what it holds -/

section Shape

variable {cfg : SpdmLibConfig} {crypto : SpdmCrypto} {ctx : SpdmDeviceContext}
  {session : SpdmSessionInfo} {cert mutCert : Option CertBuffer}
  {certBytes mutCertBytes : Option (List UInt8)}

/-- `SpdmCalculateTHCurrAK` is the appends of `A`, the hash term and `K`. -/
theorem spdmCalculateTHCurrAK_eq (hcert : cert.map CertBuffer.read = certBytes.map some) :
    spdmCalculateTHCurrAK cfg crypto ctx session cert =
      some (appendAllOrFalse (initManagedBuffer cfg.maxSpdmMessageBufferSize)
        [ctx.ledger .messageA, certHashTerm crypto ctx.connectionInfo.algorithm.baseHashAlgo certBytes,
          session.sessionTranscript.messageK.buffer]) := by
  simp only [spdmCalculateTHCurrAK, appendAllOrFalse, appendCertHash_of_read hcert, Option.bind_some]
  cases appendOrFalse (initManagedBuffer cfg.maxSpdmMessageBufferSize) (ctx.ledger .messageA) <;> rfl

/-- `SpdmCalculateTHCurrAKF` is the appends of `A`, the first hash term, `K`, the
second hash term and `F`. -/
theorem spdmCalculateTHCurrAKF_eq (hcert : cert.map CertBuffer.read = certBytes.map some)
    (hmut : mutCert.map CertBuffer.read = mutCertBytes.map some) :
    spdmCalculateTHCurrAKF cfg crypto ctx session cert mutCert =
      some (appendAllOrFalse (initManagedBuffer cfg.maxSpdmMessageBufferSize)
        [ctx.ledger .messageA, certHashTerm crypto ctx.connectionInfo.algorithm.baseHashAlgo certBytes,
          session.sessionTranscript.messageK.buffer,
          certHashTerm crypto ctx.connectionInfo.algorithm.baseHashAlgo mutCertBytes,
          session.sessionTranscript.messageF.buffer]) := by
  simp only [spdmCalculateTHCurrAKF, appendAllOrFalse, appendCertHash_of_read hcert,
    appendCertHash_of_read hmut, Option.bind_some, Option.some_bind, Option.map_some']
  repeat' (split <;> rename_i h <;> simp only [h, Option.some_bind, Option.none_bind])

/-- `|A| + [HashSize] + |K|`: what `SpdmCalculateTHCurrAK` appends, a hash term counted
when its certificate buffer is not `NULL`. -/
def thCurrAKSize (crypto : SpdmCrypto) (ctx : SpdmDeviceContext) (session : SpdmSessionInfo)
    (cert : Bool) : Nat :=
  (ctx.ledger .messageA).length +
    (if cert then crypto.hashSize ctx.connectionInfo.algorithm.baseHashAlgo else 0) +
    session.sessionTranscript.messageK.buffer.length

/-- `|A| + [HashSize] + |K| + [HashSize] + |F|`: what `SpdmCalculateTHCurrAKF` appends. -/
def thCurrAKFSize (crypto : SpdmCrypto) (ctx : SpdmDeviceContext) (session : SpdmSessionInfo)
    (cert mutCert : Bool) : Nat :=
  thCurrAKSize crypto ctx session cert +
    (if mutCert then crypto.hashSize ctx.connectionInfo.algorithm.baseHashAlgo else 0) +
    session.sessionTranscript.messageF.buffer.length

/-- Within the capacity `SpdmCalculateTHCurrAK` returns `TRUE`. -/
theorem spdmCalculateTHCurrAK_of_fits (hcert : cert.map CertBuffer.read = certBytes.map some)
    (hfit : thCurrAKSize crypto ctx session certBytes.isSome ≤ cfg.maxSpdmMessageBufferSize) :
    ∃ th, spdmCalculateTHCurrAK cfg crypto ctx session cert = some (some th) := by
  have h := appendAllOrFalse_buffer (initManagedBuffer cfg.maxSpdmMessageBufferSize)
    [ctx.ledger .messageA, certHashTerm crypto ctx.connectionInfo.algorithm.baseHashAlgo certBytes,
      session.sessionTranscript.messageK.buffer]
  simp only [initManagedBuffer_buffer, initManagedBuffer_maxBufferSize, List.length_nil,
    List.map_cons, List.map_nil, List.sum_cons, List.sum_nil, length_certHashTerm, Nat.zero_add,
    Nat.add_zero, ← Nat.add_assoc] at h
  rw [if_pos (by simpa only [thCurrAKSize] using hfit)] at h
  obtain ⟨th, hth, -⟩ := Option.map_eq_some'.mp h
  exact ⟨th, by rw [spdmCalculateTHCurrAK_eq hcert, hth]⟩

/-- Within the capacity `SpdmCalculateTHCurrAKF` returns `TRUE`. -/
theorem spdmCalculateTHCurrAKF_of_fits (hcert : cert.map CertBuffer.read = certBytes.map some)
    (hmut : mutCert.map CertBuffer.read = mutCertBytes.map some)
    (hfit : thCurrAKFSize crypto ctx session certBytes.isSome mutCertBytes.isSome ≤
      cfg.maxSpdmMessageBufferSize) :
    ∃ th, spdmCalculateTHCurrAKF cfg crypto ctx session cert mutCert = some (some th) := by
  have h := appendAllOrFalse_buffer (initManagedBuffer cfg.maxSpdmMessageBufferSize)
    [ctx.ledger .messageA, certHashTerm crypto ctx.connectionInfo.algorithm.baseHashAlgo certBytes,
      session.sessionTranscript.messageK.buffer,
      certHashTerm crypto ctx.connectionInfo.algorithm.baseHashAlgo mutCertBytes,
      session.sessionTranscript.messageF.buffer]
  simp only [initManagedBuffer_buffer, initManagedBuffer_maxBufferSize, List.length_nil,
    List.map_cons, List.map_nil, List.sum_cons, List.sum_nil, length_certHashTerm, Nat.zero_add,
    Nat.add_zero, ← Nat.add_assoc] at h
  rw [if_pos (by simpa only [thCurrAKFSize, thCurrAKSize] using hfit)] at h
  obtain ⟨th, hth, -⟩ := Option.map_eq_some'.mp h
  exact ⟨th, by rw [spdmCalculateTHCurrAKF_eq hcert hmut, hth]⟩

end Shape

/-- **The shape of `THCurr`**: for every `A`, `K` and `F` and every pair of optional
certificate buffers, `SpdmCalculateTHCurrAKF` is never undefined, returns `TRUE`
exactly when `|A| + [HashSize] + |K| + [HashSize] + |F|` fits
`MAX_SPDM_MESSAGE_BUFFER_SIZE`, a `HashSize` counted for each buffer that is not
`NULL`, and `THCurr` then holds `A || H(Cert) || K || H(MutCert) || F`, a hash term
omitted (not zeroed) for a `NULL` buffer; and likewise `SpdmCalculateTHCurrAK` with
`A || H(Cert) || K`. A buffer stands for the bytes it reads, `certBytes` and
`mutCertBytes`. -/
theorem spdmCalculateTHCurr_shape (cfg : SpdmLibConfig) (crypto : SpdmCrypto) (ctx : SpdmDeviceContext)
    (session : SpdmSessionInfo) {cert mutCert : Option CertBuffer}
    {certBytes mutCertBytes : Option (List UInt8)}
    (hcert : cert.map CertBuffer.read = certBytes.map some)
    (hmut : mutCert.map CertBuffer.read = mutCertBytes.map some) :
    (spdmCalculateTHCurrAKF cfg crypto ctx session cert mutCert).map (Option.map ManagedBuffer.buffer) =
      some (if (ctx.ledger .messageA).length +
          (if certBytes.isSome then crypto.hashSize ctx.connectionInfo.algorithm.baseHashAlgo else 0) +
          session.sessionTranscript.messageK.buffer.length +
          (if mutCertBytes.isSome then crypto.hashSize ctx.connectionInfo.algorithm.baseHashAlgo else 0) +
          session.sessionTranscript.messageF.buffer.length ≤ cfg.maxSpdmMessageBufferSize
        then some (ctx.ledger .messageA ++
          certHashTerm crypto ctx.connectionInfo.algorithm.baseHashAlgo certBytes ++
          session.sessionTranscript.messageK.buffer ++
          certHashTerm crypto ctx.connectionInfo.algorithm.baseHashAlgo mutCertBytes ++
          session.sessionTranscript.messageF.buffer)
        else none) ∧
    (spdmCalculateTHCurrAK cfg crypto ctx session cert).map (Option.map ManagedBuffer.buffer) =
      some (if (ctx.ledger .messageA).length +
          (if certBytes.isSome then crypto.hashSize ctx.connectionInfo.algorithm.baseHashAlgo else 0) +
          session.sessionTranscript.messageK.buffer.length ≤ cfg.maxSpdmMessageBufferSize
        then some (ctx.ledger .messageA ++
          certHashTerm crypto ctx.connectionInfo.algorithm.baseHashAlgo certBytes ++
          session.sessionTranscript.messageK.buffer)
        else none) := by
  rw [spdmCalculateTHCurrAKF_eq hcert hmut, spdmCalculateTHCurrAK_eq hcert]
  simp only [Option.map_some', appendAllOrFalse_buffer, initManagedBuffer_buffer,
    initManagedBuffer_maxBufferSize, List.length_nil, List.map_cons, List.map_nil, List.sum_cons,
    List.sum_nil, length_certHashTerm, List.flatten_cons, List.flatten_nil, List.nil_append,
    List.append_nil, List.append_assoc, Nat.zero_add, Nat.add_zero, Nat.add_assoc, and_self]

/-- Two copies of the sample 40-byte chain, whose bytes past the header are `01 01 01 01`,
make a `THCurr` of their two 32-byte hashes when the ledgers are empty. -/
theorem spdmCalculateTHCurr_shape_sample :
    (some (⟨List.replicate 40 1, 32⟩ : CertBuffer)).map CertBuffer.read =
        (some (List.replicate 4 1)).map some ∧
      (spdmCalculateTHCurrAKF typicalSpdmLibConfig sampleSpdmCrypto (spdmInitContext typicalSpdmLibConfig 0 0)
        (initSessionInfo 0 0 0) (some ⟨List.replicate 40 1, 32⟩) (some ⟨List.replicate 40 1, 32⟩)).map
        (Option.map ManagedBuffer.buffer) = some (some (List.replicate 64 4)) := by
  have hcert : (some (⟨List.replicate 40 1, 32⟩ : CertBuffer)).map CertBuffer.read =
      (some (List.replicate 4 1)).map some := by decide
  exact ⟨hcert, (spdmCalculateTHCurr_shape typicalSpdmLibConfig sampleSpdmCrypto _ _ hcert hcert).1.trans
    (by decide)⟩

/-- Without certificates and within the capacity, `THCurr = A || K || F`. -/
theorem spdmCalculateTHCurrAKF_none_none {cfg : SpdmLibConfig} {crypto : SpdmCrypto}
    {ctx : SpdmDeviceContext} {session : SpdmSessionInfo}
    (hfit : (ctx.ledger .messageA).length + session.sessionTranscript.messageK.buffer.length +
      session.sessionTranscript.messageF.buffer.length ≤ cfg.maxSpdmMessageBufferSize) :
    ∃ th : ManagedBuffer, spdmCalculateTHCurrAKF cfg crypto ctx session none none = some (some th) ∧
      th.buffer = ctx.ledger .messageA ++ session.sessionTranscript.messageK.buffer ++
        session.sessionTranscript.messageF.buffer := by
  simp only [spdmCalculateTHCurrAKF, appendCertHash]
  rw [appendOrFalse_of_le (by simp; omega)]
  simp only [Option.some_bind]
  rw [appendOrFalse_of_le (by simp; omega)]
  simp only [Option.map_some', Option.some_bind]
  rw [appendOrFalse_of_le (by simp; omega)]
  exact ⟨_, rfl, by simp⟩

/-! ### What is computed over `THCurr` -/

/-- Modelled from the spec: `SpdmHmacAllWithRequestFinishedKey`, the HMAC of a
message under the session's request finished key. -/
def spdmHmacAllWithRequestFinishedKey (crypto : SpdmCrypto)
    (securedMessage : SpdmSecuredMessageContext) (data : List UInt8) : List UInt8 :=
  crypto.hmacAll securedMessage.baseHashAlgo securedMessage.requestFinishedKey data

/-- Modelled from the spec: `SpdmHmacAllWithResponseFinishedKey`, the HMAC of a
message under the session's response finished key. -/
def spdmHmacAllWithResponseFinishedKey (crypto : SpdmCrypto)
    (securedMessage : SpdmSecuredMessageContext) (data : List UInt8) : List UInt8 :=
  crypto.hmacAll securedMessage.baseHashAlgo securedMessage.responseFinishedKey data

/-- The tail of an HMAC generator: the HMAC of `THCurr` and
`CopyMem (Hmac, HmacData, HashSize)`. -/
def hmacOfTHCurr (hmac : List UInt8 → List UInt8) (hashSize : Nat) :
    Option (Option ManagedBuffer) → Option (Option (List UInt8)) :=
  Option.map (Option.map fun th => (hmac th.buffer).take hashSize)

/-- The tail of an HMAC verifier: the HMAC of `THCurr` and
`CompareMem (CalcHmacData, HmacData, HashSize) == 0`. -/
def checkHmacOfTHCurr (hmac : List UInt8 → List UInt8) (hashSize : Nat) (hmacData : List UInt8) :
    Option (Option ManagedBuffer) → Option Bool :=
  Option.map fun
    | none => false
    | some th => (hmac th.buffer).take hashSize == hmacData

/-- The tail of a signature generator: the signer's signature of the hash of
`THCurr`. -/
def signTHCurr (sign : List UInt8 → Option (List UInt8)) (hash : List UInt8 → List UInt8) :
    Option (Option ManagedBuffer) → Option (Option (List UInt8)) :=
  Option.map (Option.bind · fun th => sign (hash th.buffer))

/-- The tail of a signature verifier: the hash of `THCurr`, then the leaf-key check
of the signature on the chain the certificate buffer covers. -/
def verifyTHCurr (verifyWithLeaf : List UInt8 → List UInt8 → List UInt8 → Bool)
    (hash : List UInt8 → List UInt8) (cert : CertBuffer) (signData : List UInt8) :
    Option (Option ManagedBuffer) → Option Bool :=
  (Option.bind · fun
    | none => some false
    | some th => cert.read.map fun certChain => verifyWithLeaf certChain (hash th.buffer) signData)

section Functions

variable (cfg : SpdmLibConfig) (crypto : SpdmCrypto) (ctx : SpdmDeviceContext)
  (session : SpdmSessionInfo)

/-- `LocalUsedCertChainBuffer` without its header. -/
def localCertBuffer : CertBuffer :=
  ⟨ctx.connectionInfo.localUsedCertChainBuffer,
    crypto.hashSize ctx.connectionInfo.algorithm.baseHashAlgo⟩

/-- The peer's chain without its header. -/
def peerCertBuffer (chain : List UInt8) : CertBuffer :=
  ⟨chain, crypto.hashSize ctx.connectionInfo.algorithm.baseHashAlgo⟩

/-- `SpdmGenerateKeyExchangeRspSignature`: the responder signs `A || H(own) || K`. -/
def spdmGenerateKeyExchangeRspSignature : Option (Option (List UInt8)) :=
  let algorithm := ctx.connectionInfo.algorithm
  if ctx.connectionInfo.localUsedCertChainBuffer = [] then some none else
  signTHCurr (crypto.responderDataSign algorithm.baseAsymAlgo) (crypto.hashAll algorithm.baseHashAlgo)
    (spdmCalculateTHCurrAK cfg crypto ctx session (some (localCertBuffer crypto ctx)))

/-- `SpdmGenerateKeyExchangeRspHmac`: the responder's HMAC of `A || H(own) || K`. -/
def spdmGenerateKeyExchangeRspHmac : Option (Option (List UInt8)) :=
  if ctx.connectionInfo.localUsedCertChainBuffer = [] then some none else
  hmacOfTHCurr (spdmHmacAllWithResponseFinishedKey crypto session.securedMessage)
    (crypto.hashSize ctx.connectionInfo.algorithm.baseHashAlgo)
    (spdmCalculateTHCurrAK cfg crypto ctx session (some (localCertBuffer crypto ctx)))

/-- `SpdmVerifyKeyExchangeRspSignature`: the requester checks the responder's
signature of `A || H(peer) || K`. -/
def spdmVerifyKeyExchangeRspSignature (signData : List UInt8) : Option Bool :=
  let algorithm := ctx.connectionInfo.algorithm
  match spdmPeerCertChain ctx with
  | none => some false
  | some chain =>
    verifyTHCurr (crypto.asymVerifyWithLeaf algorithm.baseAsymAlgo)
      (crypto.hashAll algorithm.baseHashAlgo) (peerCertBuffer crypto ctx chain) signData
      (spdmCalculateTHCurrAK cfg crypto ctx session (some (peerCertBuffer crypto ctx chain)))

/-- `SpdmVerifyKeyExchangeRspHmac`: the requester checks the responder's HMAC of
`A || H(peer) || K`; `none` when `ASSERT (HashSize == HmacDataSize)` fails. -/
def spdmVerifyKeyExchangeRspHmac (hmacData : List UInt8) : Option Bool :=
  let hashSize := crypto.hashSize ctx.connectionInfo.algorithm.baseHashAlgo
  if hmacData.length ≠ hashSize then none else
  match spdmPeerCertChain ctx with
  | none => some false
  | some chain =>
    checkHmacOfTHCurr (spdmHmacAllWithResponseFinishedKey crypto session.securedMessage)
      hashSize hmacData
      (spdmCalculateTHCurrAK cfg crypto ctx session (some (peerCertBuffer crypto ctx chain)))

/-- `SpdmGenerateFinishReqSignature`: the requester signs
`A || H(peer) || K || H(own) || F`. -/
def spdmGenerateFinishReqSignature : Option (Option (List UInt8)) :=
  let algorithm := ctx.connectionInfo.algorithm
  if ctx.connectionInfo.localUsedCertChainBuffer = [] then some none else
  match spdmPeerCertChain ctx with
  | none => some none
  | some chain =>
    signTHCurr (crypto.requesterDataSign algorithm.reqBaseAsymAlg)
      (crypto.hashAll algorithm.baseHashAlgo)
      (spdmCalculateTHCurrAKF cfg crypto ctx session (some (peerCertBuffer crypto ctx chain))
        (some (localCertBuffer crypto ctx)))

/-- `SpdmGenerateFinishReqHmac`: the requester's HMAC of
`A || H(peer) || K || [H(own)] || F`, the second hash term under mutual
authentication only. -/
def spdmGenerateFinishReqHmac : Option (Option (List UInt8)) :=
  let hmacOver (chain : List UInt8) (mutCertBuffer : Option CertBuffer) :=
    hmacOfTHCurr (spdmHmacAllWithRequestFinishedKey crypto session.securedMessage)
      (crypto.hashSize ctx.connectionInfo.algorithm.baseHashAlgo)
      (spdmCalculateTHCurrAKF cfg crypto ctx session (some (peerCertBuffer crypto ctx chain))
        mutCertBuffer)
  match spdmPeerCertChain ctx with
  | none => some none
  | some chain =>
    if session.mutAuthRequested ≠ 0 then
      if ctx.connectionInfo.localUsedCertChainBuffer = [] then some none
      else hmacOver chain (some (localCertBuffer crypto ctx))
    else hmacOver chain none

/-- `SpdmVerifyFinishReqSignature`: the responder checks the requester's signature
of `A || H(own) || K || H(peer) || F`. -/
def spdmVerifyFinishReqSignature (signData : List UInt8) : Option Bool :=
  let algorithm := ctx.connectionInfo.algorithm
  if ctx.connectionInfo.localUsedCertChainBuffer = [] then some false else
  match spdmPeerCertChain ctx with
  | none => some false
  | some chain =>
    verifyTHCurr (crypto.reqAsymVerifyWithLeaf algorithm.reqBaseAsymAlg)
      (crypto.hashAll algorithm.baseHashAlgo) (peerCertBuffer crypto ctx chain) signData
      (spdmCalculateTHCurrAKF cfg crypto ctx session (some (localCertBuffer crypto ctx))
        (some (peerCertBuffer crypto ctx chain)))

/-- `SpdmVerifyFinishReqHmac`: the responder checks the requester's HMAC of
`A || H(own) || K || [H(peer)] || F`; `none` when `ASSERT (HmacSize == HashSize)`
fails. -/
def spdmVerifyFinishReqHmac (hmac : List UInt8) : Option Bool :=
  let hashSize := crypto.hashSize ctx.connectionInfo.algorithm.baseHashAlgo
  let checkOver (mutCertBuffer : Option CertBuffer) :=
    checkHmacOfTHCurr (spdmHmacAllWithRequestFinishedKey crypto session.securedMessage) hashSize hmac
      (spdmCalculateTHCurrAKF cfg crypto ctx session (some (localCertBuffer crypto ctx))
        mutCertBuffer)
  if hmac.length ≠ hashSize then none else
  if ctx.connectionInfo.localUsedCertChainBuffer = [] then some false else
  if session.mutAuthRequested ≠ 0 then
    match spdmPeerCertChain ctx with
    | none => some false
    | some chain => checkOver (some (peerCertBuffer crypto ctx chain))
  else checkOver none

/-- `SpdmGenerateFinishRspHmac`: the responder's HMAC of
`A || H(own) || K || [H(peer)] || F`. -/
def spdmGenerateFinishRspHmac : Option (Option (List UInt8)) :=
  let hmacOver (mutCertBuffer : Option CertBuffer) :=
    hmacOfTHCurr (spdmHmacAllWithResponseFinishedKey crypto session.securedMessage)
      (crypto.hashSize ctx.connectionInfo.algorithm.baseHashAlgo)
      (spdmCalculateTHCurrAKF cfg crypto ctx session (some (localCertBuffer crypto ctx))
        mutCertBuffer)
  if ctx.connectionInfo.localUsedCertChainBuffer = [] then some none else
  if session.mutAuthRequested ≠ 0 then
    match spdmPeerCertChain ctx with
    | none => some none
    | some chain => hmacOver (some (peerCertBuffer crypto ctx chain))
  else hmacOver none

/-- `SpdmVerifyFinishRspHmac`: the requester checks the responder's HMAC of
`A || H(peer) || K || [H(own)] || F`; `none` when `ASSERT (HashSize == HmacDataSize)`
fails. -/
def spdmVerifyFinishRspHmac (hmacData : List UInt8) : Option Bool :=
  let hashSize := crypto.hashSize ctx.connectionInfo.algorithm.baseHashAlgo
  let checkOver (chain : List UInt8) (mutCertBuffer : Option CertBuffer) :=
    checkHmacOfTHCurr (spdmHmacAllWithResponseFinishedKey crypto session.securedMessage) hashSize
      hmacData
      (spdmCalculateTHCurrAKF cfg crypto ctx session (some (peerCertBuffer crypto ctx chain))
        mutCertBuffer)
  if hmacData.length ≠ hashSize then none else
  match spdmPeerCertChain ctx with
  | none => some false
  | some chain =>
    if session.mutAuthRequested ≠ 0 then
      if ctx.connectionInfo.localUsedCertChainBuffer = [] then some false
      else checkOver chain (some (localCertBuffer crypto ctx))
    else checkOver chain none

/-- `SpdmGeneratePskExchangeRspHmac`: the responder's HMAC of `A || K`. -/
def spdmGeneratePskExchangeRspHmac : Option (Option (List UInt8)) :=
  hmacOfTHCurr (spdmHmacAllWithResponseFinishedKey crypto session.securedMessage)
    (crypto.hashSize ctx.connectionInfo.algorithm.baseHashAlgo)
    (spdmCalculateTHCurrAK cfg crypto ctx session none)

/-- `SpdmVerifyPskExchangeRspHmac`: the requester checks the responder's HMAC of
`A || K`. -/
def spdmVerifyPskExchangeRspHmac (hmacData : List UInt8) : Option Bool :=
  let hashSize := crypto.hashSize ctx.connectionInfo.algorithm.baseHashAlgo
  if hmacData.length ≠ hashSize then none else
  checkHmacOfTHCurr (spdmHmacAllWithResponseFinishedKey crypto session.securedMessage) hashSize
    hmacData (spdmCalculateTHCurrAK cfg crypto ctx session none)

/-- `SpdmGeneratePskFinishReqHmac`: the requester's HMAC of `A || K || F`. -/
def spdmGeneratePskFinishReqHmac : Option (Option (List UInt8)) :=
  hmacOfTHCurr (spdmHmacAllWithRequestFinishedKey crypto session.securedMessage)
    (crypto.hashSize ctx.connectionInfo.algorithm.baseHashAlgo)
    (spdmCalculateTHCurrAKF cfg crypto ctx session none none)

/-- `SpdmVerifyPskFinishReqHmac`: the responder checks the requester's HMAC of
`A || K || F`. -/
def spdmVerifyPskFinishReqHmac (hmac : List UInt8) : Option Bool :=
  let hashSize := crypto.hashSize ctx.connectionInfo.algorithm.baseHashAlgo
  if hmac.length ≠ hashSize then none else
  checkHmacOfTHCurr (spdmHmacAllWithRequestFinishedKey crypto session.securedMessage) hashSize
    hmac (spdmCalculateTHCurrAKF cfg crypto ctx session none none)

/-- `SpdmRequesterGeneratePskFinishHmac` of the requester library: it appends `A`,
`K` and `F` without looking at the statuses, and takes the HMAC under the session's
request finished key with the connection's hash; `none` when
`ASSERT (SessionInfo->HashSize != 0)` fails. -/
def spdmRequesterGeneratePskFinishHmac : Option (List UInt8) :=
  let hashAlgo := ctx.connectionInfo.algorithm.baseHashAlgo
  let th := initManagedBuffer cfg.maxSpdmMessageBufferSize
  let th := (appendManagedBuffer th (ctx.ledger .messageA)).2
  let th := (appendManagedBuffer th session.sessionTranscript.messageK.buffer).2
  let th := (appendManagedBuffer th session.sessionTranscript.messageF.buffer).2
  if crypto.hashSize session.securedMessage.baseHashAlgo = 0 then none else
  some ((crypto.hmacAll hashAlgo session.securedMessage.requestFinishedKey th.buffer).take
    (crypto.hashSize hashAlgo))

/-- Within the capacity, the requester library's `PSK_FINISH` HMAC covers
`A || K || F`. -/
theorem spdmRequesterGeneratePskFinishHmac_of_fits
    (hfit : (ctx.ledger .messageA).length + session.sessionTranscript.messageK.buffer.length +
      session.sessionTranscript.messageF.buffer.length ≤ cfg.maxSpdmMessageBufferSize)
    (hhash : crypto.hashSize session.securedMessage.baseHashAlgo ≠ 0) :
    spdmRequesterGeneratePskFinishHmac cfg crypto ctx session =
      some ((crypto.hmacAll ctx.connectionInfo.algorithm.baseHashAlgo
        session.securedMessage.requestFinishedKey
        (ctx.ledger .messageA ++ session.sessionTranscript.messageK.buffer ++
          session.sessionTranscript.messageF.buffer)).take
        (crypto.hashSize ctx.connectionInfo.algorithm.baseHashAlgo)) := by
  simp only [spdmRequesterGeneratePskFinishHmac, hhash, ↓reduceIte, appendManagedBuffer_buffer,
    appendManagedBuffer_maxBufferSize, initManagedBuffer_buffer, initManagedBuffer_maxBufferSize]
  split_ifs <;> simp_all <;> omega

end Functions

/-! ### When the generators produce a value

Each generator returns a value once the transcript it builds fits
`MAX_SPDM_MESSAGE_BUFFER_SIZE` and each chain it hashes holds its header and root hash
(`OpenSpdm.CertBuffer.Readable`); a signature needs, besides, a signer that signs every
digest. These are the complete halves of the agreement lemmas, which start from the
value the generator returned. -/

section Produce

variable {cfg : SpdmLibConfig} {crypto : SpdmCrypto} {ctx : SpdmDeviceContext}
  {session : SpdmSessionInfo} {T : Option (Option ManagedBuffer)} {th : ManagedBuffer}

/-- An HMAC over a transcript that was built is computed. -/
theorem hmacOfTHCurr_of_some {hmac : List UInt8 → List UInt8} {hashSize : Nat}
    (h : T = some (some th)) : ∃ v, hmacOfTHCurr hmac hashSize T = some (some v) :=
  ⟨_, by rw [h]; rfl⟩

/-- A signature over a transcript that was built is made by a signer that signs every
digest. -/
theorem signTHCurr_of_some {sign : List UInt8 → Option (List UInt8)} {hash : List UInt8 → List UInt8}
    (h : T = some (some th)) (hsign : ∀ digest, (sign digest).isSome) :
    ∃ v, signTHCurr sign hash T = some (some v) := by
  obtain ⟨v, hv⟩ := Option.isSome_iff_exists.mp (hsign (hash th.buffer))
  exact ⟨v, by simp [signTHCurr, h, hv]⟩

theorem localUsedCertChainBuffer_ne_nil (h : (localCertBuffer crypto ctx).Readable) :
    ctx.connectionInfo.localUsedCertChainBuffer ≠ [] :=
  h.chain_ne_nil

/-- A `NULL` certificate buffer reads nothing. -/
theorem map_read_none : (none : Option CertBuffer).map CertBuffer.read =
    (none : Option (List UInt8)).map some := rfl

theorem spdmGenerateKeyExchangeRspSignature_of_fits (hlocal : (localCertBuffer crypto ctx).Readable)
    (hfit : thCurrAKSize crypto ctx session true ≤ cfg.maxSpdmMessageBufferSize)
    (hsign : ∀ digest,
      (crypto.responderDataSign ctx.connectionInfo.algorithm.baseAsymAlgo digest).isSome) :
    ∃ signature, spdmGenerateKeyExchangeRspSignature cfg crypto ctx session = some (some signature) := by
  obtain ⟨th, hth⟩ := spdmCalculateTHCurrAK_of_fits hlocal.map_read hfit
  rw [spdmGenerateKeyExchangeRspSignature, if_neg (localUsedCertChainBuffer_ne_nil hlocal)]
  exact signTHCurr_of_some hth hsign

theorem spdmGenerateKeyExchangeRspHmac_of_fits (hlocal : (localCertBuffer crypto ctx).Readable)
    (hfit : thCurrAKSize crypto ctx session true ≤ cfg.maxSpdmMessageBufferSize) :
    ∃ hmac, spdmGenerateKeyExchangeRspHmac cfg crypto ctx session = some (some hmac) := by
  obtain ⟨th, hth⟩ := spdmCalculateTHCurrAK_of_fits hlocal.map_read hfit
  rw [spdmGenerateKeyExchangeRspHmac, if_neg (localUsedCertChainBuffer_ne_nil hlocal)]
  exact hmacOfTHCurr_of_some hth

theorem spdmGenerateFinishReqSignature_of_fits (hlocal : (localCertBuffer crypto ctx).Readable)
    {chain : List UInt8} (hpeer : spdmPeerCertChain ctx = some chain)
    (hpeerRead : (peerCertBuffer crypto ctx chain).Readable)
    (hfit : thCurrAKFSize crypto ctx session true true ≤ cfg.maxSpdmMessageBufferSize)
    (hsign : ∀ digest,
      (crypto.requesterDataSign ctx.connectionInfo.algorithm.reqBaseAsymAlg digest).isSome) :
    ∃ signature, spdmGenerateFinishReqSignature cfg crypto ctx session = some (some signature) := by
  obtain ⟨th, hth⟩ := spdmCalculateTHCurrAKF_of_fits hpeerRead.map_read hlocal.map_read hfit
  rw [spdmGenerateFinishReqSignature, if_neg (localUsedCertChainBuffer_ne_nil hlocal), hpeer]
  exact signTHCurr_of_some hth hsign

theorem spdmGenerateFinishReqHmac_of_fits {chain : List UInt8}
    (hpeer : spdmPeerCertChain ctx = some chain) (hpeerRead : (peerCertBuffer crypto ctx chain).Readable)
    (hmut : session.mutAuthRequested ≠ 0 → (localCertBuffer crypto ctx).Readable)
    (hfit : thCurrAKFSize crypto ctx session true (session.mutAuthRequested != 0) ≤
      cfg.maxSpdmMessageBufferSize) :
    ∃ hmac, spdmGenerateFinishReqHmac cfg crypto ctx session = some (some hmac) := by
  simp only [spdmGenerateFinishReqHmac, hpeer]
  by_cases h0 : session.mutAuthRequested = 0
  · obtain ⟨th, hth⟩ := spdmCalculateTHCurrAKF_of_fits hpeerRead.map_read map_read_none
      (by simpa [h0] using hfit)
    simp only [h0, ne_eq, not_true_eq_false, if_false]
    exact hmacOfTHCurr_of_some hth
  · have hlocal := hmut h0
    rw [show (session.mutAuthRequested != 0) = true from bne_iff_ne.mpr h0] at hfit
    obtain ⟨th, hth⟩ := spdmCalculateTHCurrAKF_of_fits hpeerRead.map_read hlocal.map_read hfit
    rw [if_pos h0, if_neg (localUsedCertChainBuffer_ne_nil hlocal)]
    exact hmacOfTHCurr_of_some hth

theorem spdmGenerateFinishRspHmac_of_fits (hlocal : (localCertBuffer crypto ctx).Readable)
    (hmut : session.mutAuthRequested ≠ 0 →
      ∃ chain, spdmPeerCertChain ctx = some chain ∧ (peerCertBuffer crypto ctx chain).Readable)
    (hfit : thCurrAKFSize crypto ctx session true (session.mutAuthRequested != 0) ≤
      cfg.maxSpdmMessageBufferSize) :
    ∃ hmac, spdmGenerateFinishRspHmac cfg crypto ctx session = some (some hmac) := by
  rw [spdmGenerateFinishRspHmac, if_neg (localUsedCertChainBuffer_ne_nil hlocal)]
  by_cases h0 : session.mutAuthRequested = 0
  · obtain ⟨th, hth⟩ := spdmCalculateTHCurrAKF_of_fits hlocal.map_read map_read_none
      (by simpa [h0] using hfit)
    simp only [h0, ne_eq, not_true_eq_false, if_false]
    exact hmacOfTHCurr_of_some hth
  · obtain ⟨chain, hpeer, hpeerRead⟩ := hmut h0
    rw [show (session.mutAuthRequested != 0) = true from bne_iff_ne.mpr h0] at hfit
    obtain ⟨th, hth⟩ := spdmCalculateTHCurrAKF_of_fits hlocal.map_read hpeerRead.map_read hfit
    simp only [h0, ne_eq, not_false_eq_true, if_true, hpeer]
    exact hmacOfTHCurr_of_some hth

theorem spdmGeneratePskExchangeRspHmac_of_fits
    (hfit : thCurrAKSize crypto ctx session false ≤ cfg.maxSpdmMessageBufferSize) :
    ∃ hmac, spdmGeneratePskExchangeRspHmac cfg crypto ctx session = some (some hmac) :=
  let ⟨_, hth⟩ := spdmCalculateTHCurrAK_of_fits map_read_none hfit
  hmacOfTHCurr_of_some hth

theorem spdmGeneratePskFinishReqHmac_of_fits
    (hfit : thCurrAKFSize crypto ctx session false false ≤ cfg.maxSpdmMessageBufferSize) :
    ∃ hmac, spdmGeneratePskFinishReqHmac cfg crypto ctx session = some (some hmac) :=
  let ⟨_, hth⟩ := spdmCalculateTHCurrAKF_of_fits map_read_none map_read_none hfit
  hmacOfTHCurr_of_some hth

end Produce

end OpenSpdm
