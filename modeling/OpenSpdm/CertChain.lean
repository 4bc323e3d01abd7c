import OpenSpdm.Context

/-!
# Certificate chains

An SPDM certificate chain opens with `SPDM_CERT_CHAIN` (a 16-bit length and a
reserved field, four bytes) and the hash of its root certificate, `HashSize` bytes;
the X.509 certificates follow. Every function that hands a chain to the X.509 layer
or hashes it into a session transcript first strips that header, with the same two
lines of pointer arithmetic:

    CertBuffer     = Chain + sizeof (SPDM_CERT_CHAIN) + HashSize;
    CertBufferSize = ChainSize - (sizeof (SPDM_CERT_CHAIN) + HashSize);

The size is a `UINTN`, and no caller compares `ChainSize` with the header first: a
chain shorter than its header gives a size that wraps around to nearly `2 ^ 64`
(`OpenSpdm.certChainBodySize_of_lt`), and the callee then reads past the chain
(`OpenSpdm.CertBuffer.read_of_lt`). `OpenSpdm.CertBuffer` is such a pointer and size
pair, and its `read` is `none` exactly there.

Which chain is the peer's is decided the same way everywhere: the chain received
from the peer when there is one, else the one provisioned for it
(`OpenSpdm.spdmPeerCertChain`).

`SpdmVerifyCertificateChain` accepts a received chain under the provisioning policy
and copies it into `PeerCertChainBuffer`, an array of `MAX_SPDM_CERT_CHAIN_SIZE`
bytes, without comparing the chain's size with the array's.

A requester provisioned with the full chain of a responder's slot accepts it at each
of the three checks (`OpenSpdm.responderChain_authenticated`): the digest
`SpdmVerifyDigest` compares, the chain itself, and the chain hash a `CHALLENGE_AUTH`
carries; and it accepts no other chain. With no chain provisioned,
`SpdmVerifyDigest` passes every digest.
-/

namespace OpenSpdm

/-! ### The chain without its header -/

/-- `ChainSize - (sizeof (SPDM_CERT_CHAIN) + HashSize)`, computed in `UINTN`. -/
def certChainBodySize (chainSize hashSize : Nat) : Nat :=
  (chainSize.toUInt64 - (spdmCertChainHeaderSize + hashSize).toUInt64).toNat

theorem certChainBodySize_eq (chainSize hashSize : Nat) :
    certChainBodySize chainSize hashSize =
      (2 ^ 64 - (spdmCertChainHeaderSize + hashSize) % 2 ^ 64 + chainSize % 2 ^ 64) % 2 ^ 64 := by
  show (BitVec.ofNat 64 chainSize - BitVec.ofNat 64 _).toNat = _
  rw [BitVec.toNat_sub, BitVec.toNat_ofNat, BitVec.toNat_ofNat]

/-- A chain at least as long as its header leaves the rest of it. -/
theorem certChainBodySize_of_le {chainSize hashSize : Nat}
    (h : spdmCertChainHeaderSize + hashSize ≤ chainSize) (hsize : chainSize < 2 ^ 64) :
    certChainBodySize chainSize hashSize = chainSize - (spdmCertChainHeaderSize + hashSize) := by
  have hheader : (spdmCertChainHeaderSize + hashSize) % 2 ^ 64 =
      spdmCertChainHeaderSize + hashSize := Nat.mod_eq_of_lt (by omega)
  rw [certChainBodySize_eq, Nat.mod_eq_of_lt hsize, hheader,
    show 2 ^ 64 - (spdmCertChainHeaderSize + hashSize) + chainSize =
      (chainSize - (spdmCertChainHeaderSize + hashSize)) + 2 ^ 64 by omega,
    Nat.add_mod_right, Nat.mod_eq_of_lt (by omega)]

/-- **A chain shorter than its header wraps the size around**. -/
theorem certChainBodySize_of_lt {chainSize hashSize : Nat}
    (h : chainSize < spdmCertChainHeaderSize + hashSize)
    (hhash : spdmCertChainHeaderSize + hashSize < 2 ^ 64) :
    certChainBodySize chainSize hashSize =
      2 ^ 64 - (spdmCertChainHeaderSize + hashSize - chainSize) := by
  have hchain : chainSize % 2 ^ 64 = chainSize := Nat.mod_eq_of_lt (by omega)
  rw [certChainBodySize_eq, Nat.mod_eq_of_lt hhash, hchain, Nat.mod_eq_of_lt (by omega)]
  omega

/-- A chain passed on without its header: the pointer
`Chain + sizeof (SPDM_CERT_CHAIN) + HashSize` and the size `certChainBodySize`. -/
structure CertBuffer where
  chain : List UInt8
  hashSize : Nat

/-- The bytes a callee reads from a `CertBuffer`; `none` when they run past the
chain. -/
def CertBuffer.read (c : CertBuffer) : Option (List UInt8) :=
  readBytes c.chain (spdmCertChainHeaderSize + c.hashSize)
    (certChainBodySize c.chain.length c.hashSize)

theorem CertBuffer.read_of_le {c : CertBuffer}
    (h : spdmCertChainHeaderSize + c.hashSize ≤ c.chain.length)
    (hsize : c.chain.length < 2 ^ 64) :
    c.read = some (c.chain.drop (spdmCertChainHeaderSize + c.hashSize)) := by
  rw [CertBuffer.read, certChainBodySize_of_le h hsize, readBytes_of_le (by omega)]
  simp

/-- A callee given a chain shorter than its header reads past its end. -/
theorem CertBuffer.read_of_lt {c : CertBuffer}
    (h : c.chain.length < spdmCertChainHeaderSize + c.hashSize)
    (hhash : spdmCertChainHeaderSize + c.hashSize < 2 ^ 64) : c.read = none := by
  rw [CertBuffer.read, certChainBodySize_of_lt h hhash, readBytes_of_lt (by omega)]

/-- A certificate buffer a callee can read: the chain holds its header and root hash,
and its size is a `UINTN`. -/
def CertBuffer.Readable (c : CertBuffer) : Prop :=
  spdmCertChainHeaderSize + c.hashSize ≤ c.chain.length ∧ c.chain.length < 2 ^ 64

instance (c : CertBuffer) : Decidable c.Readable :=
  inferInstanceAs (Decidable (_ ∧ _))

theorem CertBuffer.Readable.chain_ne_nil {c : CertBuffer} (h : c.Readable) : c.chain ≠ [] :=
  List.ne_nil_of_length_pos (by have := h.1; simp only [spdmCertChainHeaderSize] at this; omega)

theorem CertBuffer.Readable.map_read {c : CertBuffer} (h : c.Readable) :
    (some c).map CertBuffer.read =
      (some (c.chain.drop (spdmCertChainHeaderSize + c.hashSize))).map some := by
  simp [CertBuffer.read_of_le h.1 h.2]

/-! ### The peer's chain -/

/-- The chain a context treats as its peer's: `PeerCertChainBuffer` when its size is
nonzero, else `PeerCertChainProvision`. -/
def peerCertChain (ctx : SpdmDeviceContext) : List UInt8 :=
  if ctx.connectionInfo.peerCertChainBuffer ≠ [] then ctx.connectionInfo.peerCertChainBuffer
  else ctx.localContext.peerCertChainProvision

/-- The selection every crypto service makes: `PeerCertChainBuffer` when its size
is nonzero, else `PeerCertChainProvision` when its size is nonzero, and `FALSE`
(`none`) when both are empty. -/
def spdmPeerCertChain (ctx : SpdmDeviceContext) : Option (List UInt8) :=
  if ctx.connectionInfo.peerCertChainBuffer ≠ [] then some ctx.connectionInfo.peerCertChainBuffer
  else if ctx.localContext.peerCertChainProvision ≠ [] then
    some ctx.localContext.peerCertChainProvision
  else none

theorem spdmPeerCertChain_eq (ctx : SpdmDeviceContext) :
    spdmPeerCertChain ctx = if peerCertChain ctx = [] then none else some (peerCertChain ctx) := by
  unfold spdmPeerCertChain peerCertChain
  split_ifs <;> simp_all

/-! ### Verifying with the leaf's key -/

/-- `X509GetCertFromCertChain (…, -1, …)` for the leaf, a public key from the leaf,
then a signature check of a hash against that key; `FALSE` when a step fails. -/
def verifyWithLeafKey (crypto : SpdmCrypto) (getPublicKey : List UInt8 → Option (List UInt8))
    (verify : List UInt8 → List UInt8 → List UInt8 → Bool)
    (certChain hash signature : List UInt8) : Bool :=
  match crypto.x509GetCertFromCertChain certChain with
  | none => false
  | some leaf =>
    match getPublicKey leaf with
    | none => false
    | some key => verify key hash signature

/-- `SpdmAsymGetPublicKeyFromX509` and `SpdmAsymVerify` on a chain's leaf: how a
responder's signature is checked. -/
def SpdmCrypto.asymVerifyWithLeaf (crypto : SpdmCrypto) (baseAsymAlgo : UInt32) :
    List UInt8 → List UInt8 → List UInt8 → Bool :=
  verifyWithLeafKey crypto (crypto.asymGetPublicKeyFromX509 baseAsymAlgo)
    (crypto.asymVerify baseAsymAlgo)

/-- `SpdmReqAsymGetPublicKeyFromX509` and `SpdmReqAsymVerify` on a chain's leaf: how
a requester's signature is checked. -/
def SpdmCrypto.reqAsymVerifyWithLeaf (crypto : SpdmCrypto) (reqBaseAsymAlg : UInt16) :
    List UInt8 → List UInt8 → List UInt8 → Bool :=
  verifyWithLeafKey crypto (crypto.reqAsymGetPublicKeyFromX509 reqBaseAsymAlg)
    (crypto.reqAsymVerify reqBaseAsymAlg)

/-- A signer matches the leaf of a chain: every signature it makes of a hash is
accepted by the leaf-key check on that chain. -/
def SignsForLeaf (sign : List UInt8 → Option (List UInt8))
    (verifyWithLeaf : List UInt8 → List UInt8 → List UInt8 → Bool) (certChain : List UInt8) :
    Prop :=
  ∀ hash signature, sign hash = some signature → verifyWithLeaf certChain hash signature = true

/-! ### Accepting the peer's chain -/

/-- `SpdmVerifyCertificateChain`: the result and the context it leaves, or `none`
where the comparison with the root hash reads past the candidate, or the copy
writes past `PeerCertChainBuffer`. -/
def spdmVerifyCertificateChain (cfg : SpdmLibConfig) (crypto : SpdmCrypto)
    (ctx : SpdmDeviceContext) (certificateChain : List UInt8) :
    Option (Bool × SpdmDeviceContext) :=
  let hashAlgo := ctx.connectionInfo.algorithm.baseHashAlgo
  let rootCertHash := ctx.localContext.peerRootCertHashProvision
  let certBuffer := ctx.localContext.peerCertChainProvision
  if !crypto.verifyCertificateChainData hashAlgo certificateChain then some (false, ctx) else
  let accepted : Option Bool :=
    if rootCertHash ≠ [] then
      if rootCertHash.length ≠ crypto.hashSize hashAlgo then some false
      else (readBytes certificateChain spdmCertChainHeaderSize (crypto.hashSize hashAlgo)).map
        (· == rootCertHash)
    else if certBuffer ≠ [] then
      some (certBuffer.length == certificateChain.length && certificateChain == certBuffer)
    else some true
  accepted.bind fun ok =>
    if !ok then some (false, ctx)
    else if certificateChain.length ≤ cfg.maxSpdmCertChainSize then
      some (true, { ctx with connectionInfo.peerCertChainBuffer := certificateChain })
    else none

/-- The provisioning policy for a candidate chain: with a root hash provisioned, it
has the negotiated size and the chain carries it after `SPDM_CERT_CHAIN`; otherwise,
with a full chain provisioned, the candidate is that chain. -/
def PeerCertChainPolicy (hashSize : Nat) (rootCertHash certBuffer chain : List UInt8) : Prop :=
  if rootCertHash ≠ [] then
    rootCertHash.length = hashSize ∧
      (chain.drop spdmCertChainHeaderSize).take hashSize = rootCertHash
  else certBuffer ≠ [] → chain = certBuffer

/-- **What `SpdmVerifyCertificateChain` does with a chain that fits**: for a chain
no longer than `PeerCertChainBuffer`, and long enough for its header when a root
hash is provisioned, it accepts exactly under the chain check and the policy, and it
stores the chain on acceptance and nothing otherwise. -/
theorem spdmVerifyCertificateChain_of_fits {cfg : SpdmLibConfig} {crypto : SpdmCrypto}
    {ctx : SpdmDeviceContext} {chain : List UInt8}
    (hfit : chain.length ≤ cfg.maxSpdmCertChainSize)
    (hheader : ctx.localContext.peerRootCertHashProvision ≠ [] →
      spdmCertChainHeaderSize + crypto.hashSize ctx.connectionInfo.algorithm.baseHashAlgo ≤
        chain.length) :
    ∃ b, spdmVerifyCertificateChain cfg crypto ctx chain =
        some (b, if b then { ctx with connectionInfo.peerCertChainBuffer := chain } else ctx) ∧
      (b = true ↔
        crypto.verifyCertificateChainData ctx.connectionInfo.algorithm.baseHashAlgo chain = true ∧
        PeerCertChainPolicy (crypto.hashSize ctx.connectionInfo.algorithm.baseHashAlgo)
          ctx.localContext.peerRootCertHashProvision ctx.localContext.peerCertChainProvision
          chain) := by
  unfold spdmVerifyCertificateChain PeerCertChainPolicy
  cases hdata : crypto.verifyCertificateChainData ctx.connectionInfo.algorithm.baseHashAlgo chain
  · exact ⟨false, by simp [hdata], by simp⟩
  by_cases hroot : ctx.localContext.peerRootCertHashProvision = []
  · by_cases hprov : ctx.localContext.peerCertChainProvision = []
    · exact ⟨true, by simp [hdata, hroot, hprov, hfit], by simp [hdata, hroot, hprov]⟩
    · refine ⟨chain == ctx.localContext.peerCertChainProvision, ?_, by simp [hdata, hroot, hprov]⟩
      by_cases hc : chain = ctx.localContext.peerCertChainProvision
      · subst hc
        simp [hdata, hroot, hfit]
      · simp [hroot, hprov, hc]
  · have hread := readBytes_of_le (hheader hroot)
    by_cases hlen : ctx.localContext.peerRootCertHashProvision.length =
        crypto.hashSize ctx.connectionInfo.algorithm.baseHashAlgo
    · by_cases hc : (chain.drop spdmCertChainHeaderSize).take
          (crypto.hashSize ctx.connectionInfo.algorithm.baseHashAlgo) =
          ctx.localContext.peerRootCertHashProvision
      · exact ⟨true, by simp [hdata, hroot, hlen, hread, hc, hfit], by simp [hdata, hroot, hlen, hc]⟩
      · exact ⟨false, by simp [hroot, hlen, hread, hc], by simp [hroot, hlen, hc]⟩
    · exact ⟨false, by simp [hroot, hlen], by simp [hroot, hlen]⟩

/-- A chain one byte longer than `PeerCertChainBuffer`, accepted by the chain check
with nothing provisioned, is copied past the end of the buffer. -/
theorem spdmVerifyCertificateChain_oversized :
    spdmVerifyCertificateChain typicalSpdmLibConfig sampleSpdmCrypto
      (spdmInitContext typicalSpdmLibConfig 0 0) (List.replicate 0x10001 0) = none := by
  have hlen : (List.replicate 0x10001 (0 : UInt8)).length = 0x10001 := List.length_replicate _ _
  simp only [spdmVerifyCertificateChain, hlen]
  simp [sampleSpdmCrypto, spdmInitContext, typicalSpdmLibConfig]

/-! ### Hashing and checking chains -/

/-- `SpdmVerifyCertificateChainHash`: the received hash has the negotiated size and
is the hash of the peer's chain. -/
def spdmVerifyCertificateChainHash (crypto : SpdmCrypto) (ctx : SpdmDeviceContext)
    (certificateChainHash : List UInt8) : Bool :=
  let hashAlgo := ctx.connectionInfo.algorithm.baseHashAlgo
  match spdmPeerCertChain ctx with
  | none => false
  | some certBuffer =>
    crypto.hashSize hashAlgo == certificateChainHash.length &&
      certificateChainHash == crypto.hashAll hashAlgo certBuffer

/-- `LocalContext.CertificateChain[SlotIndex]` with its size: the entries of the
`MAX_SPDM_SLOT_COUNT`-long array that the list does not reach are `NULL` with size
zero. -/
def slotCertificateChain (ctx : SpdmDeviceContext) (slotIndex : Nat) : List UInt8 :=
  ctx.localContext.certificateChain.getD slotIndex []

/-- `SpdmGenerateCertChainHash`: the hash of the local chain in a slot; `none` when
`ASSERT (SlotIndex < SlotCount)` fails or the slot is past the `CertificateChain`
array. -/
def spdmGenerateCertChainHash (crypto : SpdmCrypto) (ctx : SpdmDeviceContext)
    (slotIndex : Nat) : Option (List UInt8) :=
  if slotIndex < ctx.localContext.slotCount.toNat ∧ slotIndex < maxSpdmSlotCount then
    some (crypto.hashAll ctx.connectionInfo.algorithm.baseHashAlgo (slotCertificateChain ctx slotIndex))
  else none

/-- The generator hashes exactly the provisioned slots inside the array. -/
theorem spdmGenerateCertChainHash_eq_some {crypto : SpdmCrypto} {ctx : SpdmDeviceContext}
    {slotIndex : Nat} {hash : List UInt8} :
    spdmGenerateCertChainHash crypto ctx slotIndex = some hash ↔
      slotIndex < ctx.localContext.slotCount.toNat ∧ slotIndex < maxSpdmSlotCount ∧
        hash = crypto.hashAll ctx.connectionInfo.algorithm.baseHashAlgo
          (slotCertificateChain ctx slotIndex) := by
  unfold spdmGenerateCertChainHash
  split <;> simp_all [eq_comm]

/-! ### The requester's checks of a responder's chain -/

/-- `SpdmVerifyDigest`: with a chain provisioned for the peer, the first `HashSize`
bytes of the digest are the hash of that chain; with none, every digest passes.
`none` where `CompareMem` reads past the digest. -/
def spdmVerifyDigest (crypto : SpdmCrypto) (ctx : SpdmDeviceContext) (digest : List UInt8) :
    Option Bool :=
  let certBuffer := ctx.localContext.peerCertChainProvision
  if certBuffer = [] then some true else
  let hashAlgo := ctx.connectionInfo.algorithm.baseHashAlgo
  (readBytes digest 0 (crypto.hashSize hashAlgo)).map (· == crypto.hashAll hashAlgo certBuffer)

/-- With a full chain provisioned and no root hash, the only chain
`SpdmVerifyCertificateChain` accepts is the provisioned one. -/
theorem eq_of_spdmVerifyCertificateChain {cfg : SpdmLibConfig} {crypto : SpdmCrypto}
    {ctx ctx' : SpdmDeviceContext} {chain : List UInt8}
    (hroot : ctx.localContext.peerRootCertHashProvision = [])
    (hprov : ctx.localContext.peerCertChainProvision ≠ [])
    (h : spdmVerifyCertificateChain cfg crypto ctx chain = some (true, ctx')) :
    chain = ctx.localContext.peerCertChainProvision := by
  unfold spdmVerifyCertificateChain at h
  simp only [hroot, ne_eq, not_true_eq_false, ↓reduceIte, hprov, not_false_eq_true,
    Option.some_bind] at h
  split_ifs at h with hdata hok <;> simp_all

/-- **A requester provisioned with a responder's chain accepts it at every step, and no
other.** Take a responder slot below `SlotCount` holding a chain, and a requester
provisioned with that chain and no root hash, with the same hash, a chain the X.509
check accepts and that fits `PeerCertChainBuffer`. The digest the responder generates
for the slot passes `SpdmVerifyDigest`; the chain passes `SpdmVerifyCertificateChain`,
which stores it as the peer's; and the same digest, as the chain hash of a
`CHALLENGE_AUTH`, passes `SpdmVerifyCertificateChainHash` on the context it leaves.
`SpdmVerifyCertificateChain` accepts no other chain. -/
theorem responderChain_authenticated {cfg : SpdmLibConfig} {crypto : SpdmCrypto}
    {S R : SpdmDeviceContext} {slotIndex : Nat}
    (hslot : slotIndex < S.localContext.slotCount.toNat) (hmax : slotIndex < maxSpdmSlotCount)
    (hne : slotCertificateChain S slotIndex ≠ [])
    (hprov : R.localContext.peerCertChainProvision = slotCertificateChain S slotIndex)
    (hroot : R.localContext.peerRootCertHashProvision = [])
    (hhash : R.connectionInfo.algorithm.baseHashAlgo = S.connectionInfo.algorithm.baseHashAlgo)
    (hdata : crypto.verifyCertificateChainData R.connectionInfo.algorithm.baseHashAlgo
      (slotCertificateChain S slotIndex) = true)
    (hfit : (slotCertificateChain S slotIndex).length ≤ cfg.maxSpdmCertChainSize) :
    ∃ digest R', spdmGenerateCertChainHash crypto S slotIndex = some digest ∧
      spdmVerifyDigest crypto R digest = some true ∧
      spdmVerifyCertificateChain cfg crypto R (slotCertificateChain S slotIndex) = some (true, R') ∧
      spdmVerifyCertificateChainHash crypto R' digest = true ∧
      ∀ chain R'', spdmVerifyCertificateChain cfg crypto R chain = some (true, R'') →
        chain = slotCertificateChain S slotIndex := by
  set chain := slotCertificateChain S slotIndex
  set hashAlgo := R.connectionInfo.algorithm.baseHashAlgo
  have hdigest : spdmGenerateCertChainHash crypto S slotIndex = some (crypto.hashAll hashAlgo chain) :=
    spdmGenerateCertChainHash_eq_some.mpr ⟨hslot, hmax, by rw [hhash]⟩
  have hpolicy : PeerCertChainPolicy (crypto.hashSize hashAlgo) R.localContext.peerRootCertHashProvision
      R.localContext.peerCertChainProvision chain := by
    simp [PeerCertChainPolicy, hroot, hprov]
  obtain ⟨b, hverify, hb⟩ :=
    @spdmVerifyCertificateChain_of_fits cfg crypto R chain hfit (fun h => absurd hroot h)
  obtain rfl : b = true := hb.mpr ⟨hdata, hpolicy⟩
  refine ⟨_, _, hdigest, ?_, hverify, ?_, fun chain' R'' h => ?_⟩
  · simp [spdmVerifyDigest, hprov, hne, readBytes_of_le, crypto.hashAll_length, hashAlgo]
  · simp [spdmVerifyCertificateChainHash, spdmPeerCertChain, hne, crypto.hashAll_length, hashAlgo]
  · exact (eq_of_spdmVerifyCertificateChain hroot (hprov ▸ hne) h).trans hprov

/-- A responder holding a 40-byte chain in slot 0. -/
def sampleSlotResponder : SpdmDeviceContext :=
  { spdmInitContext typicalSpdmLibConfig 0 0 with
    localContext.slotCount := 1, localContext.certificateChain := [List.replicate 40 2] }

/-- A requester provisioned with that chain. -/
def sampleChainRequester : SpdmDeviceContext :=
  { spdmInitContext typicalSpdmLibConfig 0 0 with
    localContext.peerCertChainProvision := List.replicate 40 2 }

theorem responderChain_authenticated_sample :
    ∃ digest R', spdmGenerateCertChainHash sampleSpdmCrypto sampleSlotResponder 0 = some digest ∧
      spdmVerifyDigest sampleSpdmCrypto sampleChainRequester digest = some true ∧
      spdmVerifyCertificateChain typicalSpdmLibConfig sampleSpdmCrypto sampleChainRequester
        (slotCertificateChain sampleSlotResponder 0) = some (true, R') ∧
      spdmVerifyCertificateChainHash sampleSpdmCrypto R' digest = true ∧
      ∀ chain R'', spdmVerifyCertificateChain typicalSpdmLibConfig sampleSpdmCrypto
          sampleChainRequester chain = some (true, R'') →
        chain = slotCertificateChain sampleSlotResponder 0 :=
  responderChain_authenticated (by decide) (by decide) (by decide) rfl rfl rfl rfl (by decide)

end OpenSpdm
