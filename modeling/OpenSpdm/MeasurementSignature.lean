import OpenSpdm.Challenge.Message
import OpenSpdm.Measurement
import OpenSpdm.Signature

/-!
# The `MEASUREMENTS` signature

When a `GET_MEASUREMENTS` asks for a signature, the responder lays out the whole
response and hands it to `SpdmGenerateMeasurementSignature`, which fills in its tail.
The last `MeasurmentSigSize` bytes get a fresh nonce, the 16-bit `OpaqueLength` and
the opaque data; the response up to its signature is appended to `L1L2`, this time
with the status checked; and the signature of the hash of `L1L2` is written over the
last `SignatureSize` bytes (`OpenSpdm.spdmGenerateMeasurementSignature`). The
requester checks that signature against the hash of its own `L1L2` with
`SpdmVerifyMeasurementSignature`.

| what | theorem |
|---|---|
| the response and `L1L2` after a signature | `OpenSpdm.spdmGenerateMeasurementSignature_eq` |
| the requester accepts the signature | `OpenSpdm.spdmGenerateMeasurementSignature_verify` |

The second is the join of the two sides. It assumes only that the requester's `L1L2`
is what the responder's held, followed by the response it received up to its
signature, and that the responder's signer matches the leaf of the chain the
requester holds for it.

`LocalContext.OpaqueMeasurementRsp` is not a field of the model's local context, which
keeps what the other modelled functions read: its buffer is an argument here.
-/

namespace OpenSpdm

/-- `MeasurmentSigSize`: the nonce, `OpaqueLength`, the opaque data and the
signature. -/
def measurementSigSize (opaqueSize signatureSize : Nat) : Nat :=
  spdmNonceSize + 2 + opaqueSize + signatureSize

/-- What `SpdmGenerateMeasurementSignature` writes at
`ResponseMessageSize - MeasurmentSigSize` before it signs: the nonce, the opaque size
cast to `UINT16`, and the opaque data. -/
def measurementSignedTail (nonce : SpdmNonce) (opaqueMeasurementRsp : List UInt8) : List UInt8 :=
  nonce.bytes ++ writeUInt16 (UInt16.ofNat opaqueMeasurementRsp.length) ++ opaqueMeasurementRsp

@[simp] theorem length_measurementSignedTail (nonce : SpdmNonce) (opaqueMeasurementRsp : List UInt8) :
    (measurementSignedTail nonce opaqueMeasurementRsp).length =
      spdmNonceSize + 2 + opaqueMeasurementRsp.length := by
  simp only [measurementSignedTail, List.length_append, nonce.length_bytes, length_writeUInt16]

/-- `SpdmGenerateMeasurementSignature`, with `opaqueMeasurementRsp` the buffer
`LocalContext.OpaqueMeasurementRsp` covers and `nonce` what `SpdmGetRandomNumber`
draws: whether it returns `TRUE`, the response message as it leaves it, and the
context. `none` where `ASSERT (ResponseMessageSize > MeasurmentSigSize)` fails. -/
def spdmGenerateMeasurementSignature (crypto : SpdmCrypto) (ctx : SpdmDeviceContext)
    (opaqueMeasurementRsp : List UInt8) (nonce : SpdmNonce) (responseMessage : List UInt8) :
    Option (Bool × List UInt8 × SpdmDeviceContext) :=
  let algorithm := ctx.connectionInfo.algorithm
  let signatureSize := crypto.asymSize algorithm.baseAsymAlgo
  let sigSize := measurementSigSize opaqueMeasurementRsp.length signatureSize
  if responseMessage.length ≤ sigSize then none else
  let message := writeBytes responseMessage (responseMessage.length - sigSize)
    (measurementSignedTail nonce opaqueMeasurementRsp)
  let (status, ctx) := appendTranscript ctx .l1l2 (message.take (message.length - signatureSize))
  if status.isError then some (false, message, ctx) else
  match crypto.responderDataSign algorithm.baseAsymAlgo
      (crypto.hashAll algorithm.baseHashAlgo (ctx.ledger .l1l2)) with
  | none => some (false, message, ctx)
  | some signature => some (true, writeBytes message (message.length - signatureSize) signature, ctx)

/-! ### The response and `L1L2` after a signature -/

/-- The response up to its signature, as `SpdmGenerateMeasurementSignature` leaves it
and appends it to `L1L2`. -/
def measurementSignedMessage (crypto : SpdmCrypto) (ctx : SpdmDeviceContext)
    (opaqueMeasurementRsp : List UInt8) (nonce : SpdmNonce) (responseMessage : List UInt8) :
    List UInt8 :=
  responseMessage.take (responseMessage.length - measurementSigSize opaqueMeasurementRsp.length
    (crypto.asymSize ctx.connectionInfo.algorithm.baseAsymAlgo)) ++
  measurementSignedTail nonce opaqueMeasurementRsp

theorem measurementSigSize_eq (nonce : SpdmNonce) (opaqueMeasurementRsp : List UInt8)
    (signatureSize : Nat) :
    measurementSigSize opaqueMeasurementRsp.length signatureSize =
      (measurementSignedTail nonce opaqueMeasurementRsp).length + signatureSize := by
  simp only [measurementSigSize, length_measurementSignedTail]

/-- Writing up to the end of a buffer replaces its tail. -/
theorem writeBytes_of_eq {buf bytes : List UInt8} {offset : Nat}
    (h : offset + bytes.length = buf.length) : writeBytes buf offset bytes = buf.take offset ++ bytes := by
  simp [writeBytes, h]

section Tail

variable {buf tail : List UInt8} {signatureSize : Nat} (h : tail.length + signatureSize ≤ buf.length)
include h

theorem length_writeBytes_tail :
    (writeBytes buf (buf.length - (tail.length + signatureSize)) tail).length = buf.length :=
  length_writeBytes (by omega)

/-- A tail written `signatureSize` bytes short of the end is what precedes the
signature. -/
theorem take_writeBytes_tail :
    (writeBytes buf (buf.length - (tail.length + signatureSize)) tail).take
        (buf.length - signatureSize) =
      buf.take (buf.length - (tail.length + signatureSize)) ++ tail := by
  rw [show buf.length - signatureSize = buf.length - (tail.length + signatureSize) + tail.length by
    omega]
  exact take_writeBytes (by omega)

end Tail

/-- **What a signed `MEASUREMENTS` response is.** When `SpdmGenerateMeasurementSignature`
returns `TRUE`, the response keeps everything before its last `MeasurmentSigSize`
bytes, which are the nonce, `OpaqueLength`, the opaque data and a signature; `L1L2`
had room for the response up to the signature and holds it; and the signature is the
responder's signature of the hash of that `L1L2`. -/
theorem spdmGenerateMeasurementSignature_eq {crypto : SpdmCrypto} {ctx ctx' : SpdmDeviceContext}
    {opaqueMeasurementRsp responseMessage message : List UInt8} {nonce : SpdmNonce}
    (h : spdmGenerateMeasurementSignature crypto ctx opaqueMeasurementRsp nonce responseMessage =
      some (true, message, ctx')) :
    appendTranscript ctx .l1l2
        (measurementSignedMessage crypto ctx opaqueMeasurementRsp nonce responseMessage) =
      (.success, ctx') ∧
    ∃ signature, crypto.responderDataSign ctx.connectionInfo.algorithm.baseAsymAlgo
        (crypto.hashAll ctx.connectionInfo.algorithm.baseHashAlgo (ctx'.ledger .l1l2)) = some signature ∧
      message = measurementSignedMessage crypto ctx opaqueMeasurementRsp nonce responseMessage ++
        signature := by
  unfold spdmGenerateMeasurementSignature at h
  rw [measurementSignedMessage, measurementSigSize_eq nonce]
  dsimp only at h
  rw [measurementSigSize_eq nonce] at h
  split_ifs at h with hlen hstatus
  · simp at h
  have hle := Nat.le_of_lt (Nat.lt_of_not_le hlen)
  rw [length_writeBytes_tail hle, take_writeBytes_tail hle] at hstatus h
  split at h
  next => cases h
  next signature hsign =>
    simp only [Option.some.injEq, Prod.mk.injEq, true_and] at h
    obtain ⟨rfl, rfl⟩ := h
    refine ⟨Prod.ext (by simpa using hstatus) rfl, signature, hsign, ?_⟩
    rw [writeBytes_of_eq (by rw [crypto.responderDataSign_length _ _ _ hsign, length_writeBytes_tail hle]; omega),
      take_writeBytes_tail hle]

/-! ### The requester accepts the signature -/

/-- **The requester accepts a `MEASUREMENTS` signature.** When the responder's
`SpdmGenerateMeasurementSignature` returns `TRUE`, a requester whose `L1L2` is what the
responder's held, followed by the response it received up to its last `SignatureSize`
bytes, and whose hash is the responder's, accepts those last bytes as the signature,
provided the responder's signer matches the leaf of the chain the requester holds for
it. -/
theorem spdmGenerateMeasurementSignature_verify {crypto : SpdmCrypto} {S S' R : SpdmDeviceContext}
    {opaqueMeasurementRsp responseMessage message chain certChain : List UInt8} {nonce : SpdmNonce}
    (h : spdmGenerateMeasurementSignature crypto S opaqueMeasurementRsp nonce responseMessage =
      some (true, message, S'))
    (hl1l2 : R.ledger .l1l2 = S.ledger .l1l2 ++
      message.take (message.length - crypto.asymSize S.connectionInfo.algorithm.baseAsymAlgo))
    (hhash : R.connectionInfo.algorithm.baseHashAlgo = S.connectionInfo.algorithm.baseHashAlgo)
    (hchain : spdmPeerCertChain R = some chain)
    (hread : (CertBuffer.mk chain (crypto.hashSize R.connectionInfo.algorithm.baseHashAlgo)).read =
      some certChain)
    (hkey : SignsForLeaf (crypto.responderDataSign S.connectionInfo.algorithm.baseAsymAlgo)
      (crypto.asymVerifyWithLeaf R.connectionInfo.algorithm.baseAsymAlgo) certChain) :
    spdmVerifyMeasurementSignature crypto R
      (message.drop (message.length - crypto.asymSize S.connectionInfo.algorithm.baseAsymAlgo)) =
        some true := by
  obtain ⟨happ, signature, hsign, rfl⟩ := spdmGenerateMeasurementSignature_eq h
  have hS' : S'.ledger .l1l2 = S.ledger .l1l2 ++
      measurementSignedMessage crypto S opaqueMeasurementRsp nonce responseMessage := by
    simpa [happ] using ledger_appendTranscript_self S .l1l2
      (measurementSignedMessage crypto S opaqueMeasurementRsp nonce responseMessage)
  rw [← crypto.responderDataSign_length _ _ _ hsign] at hl1l2 ⊢
  simp only [List.length_append, Nat.add_sub_cancel, List.take_left', List.drop_left'] at hl1l2 ⊢
  rw [hhash] at hread
  simp only [spdmVerifyMeasurementSignature, hchain, hl1l2, hhash, ← hS', hread, Option.map_some',
    hkey _ _ hsign]

/-- A requester holding the responder's 40-byte chain `2 … 2` whose `L1L2` holds the
first 48 bytes of an 80-byte response signed by a fresh responder: 14 zeroes, the sample
nonce and an empty `OpaqueLength`. -/
def sampleMeasurementRequester : SpdmDeviceContext :=
  let ctx := spdmInitContext typicalSpdmLibConfig 0 0
  { (appendTranscript ctx .l1l2 (List.replicate 14 0 ++ sampleNonce.bytes ++ [0, 0])).2 with
    connectionInfo.peerCertChainBuffer := List.replicate 40 2 }

/-- The sample requester accepts the signature of the sample response. -/
theorem spdmGenerateMeasurementSignature_verify_sample :
    ∃ message S', spdmGenerateMeasurementSignature sampleSpdmCrypto
        (spdmInitContext typicalSpdmLibConfig 0 0) [] sampleNonce (List.replicate 80 0) =
          some (true, message, S') ∧
      spdmVerifyMeasurementSignature sampleSpdmCrypto sampleMeasurementRequester
        (message.drop (message.length - 32)) = some true := by
  let signed := List.replicate 14 0 ++ sampleNonce.bytes ++ [0, 0]
  have h : spdmGenerateMeasurementSignature sampleSpdmCrypto (spdmInitContext typicalSpdmLibConfig 0 0)
      [] sampleNonce (List.replicate 80 0) =
        some (true, signed ++ List.replicate 32 48,
          (appendTranscript (spdmInitContext typicalSpdmLibConfig 0 0) .l1l2 signed).2) := rfl
  have hchain : spdmPeerCertChain sampleMeasurementRequester = some (List.replicate 40 2) := by decide
  have hread : (CertBuffer.mk (List.replicate 40 2) (sampleSpdmCrypto.hashSize
      sampleMeasurementRequester.connectionInfo.algorithm.baseHashAlgo)).read =
        some (List.replicate 4 2) := by decide
  have hkey : SignsForLeaf (sampleSpdmCrypto.responderDataSign 0)
      (sampleSpdmCrypto.asymVerifyWithLeaf 0) (List.replicate 4 2) := by
    intro _ _ h
    simp_all [sampleSpdmCrypto, SpdmCrypto.asymVerifyWithLeaf, verifyWithLeafKey]
  exact ⟨_, _, h, spdmGenerateMeasurementSignature_verify h (by decide) rfl hchain hread hkey⟩

end OpenSpdm
