import OpenSpdm.ManagedBuffer

/-!
# The SPDM device context

`SPDM_DEVICE_CONTEXT` of `SpdmCommonLibInternal.h`, with the parts of it that the
modelled functions read or write: the local provisioning (`OpenSpdm.SpdmLocalContext`),
what was negotiated with the peer (`OpenSpdm.SpdmConnectionInfo`), the transcript
ledgers (`OpenSpdm.SpdmTranscript`) and the table of session slots
(`OpenSpdm.SpdmSessionInfo`). Every field has the value `ZeroMem` gives it as its
default, so `{}` is a zeroed structure and `OpenSpdm.spdmInitContext` only states
what `SpdmInitContext` sets on top of the zeroes.

Three kinds of thing the library takes from outside are parameters here.

* The compile-time maxima of `SpdmLibConfig.h` (`MAX_SPDM_SESSION_COUNT`,
  `MAX_SPDM_MESSAGE_BUFFER_SIZE`, …) are not among the sources; they are the fields
  of `OpenSpdm.SpdmLibConfig`, so every result holds whatever values a build picks.
* The cryptographic primitives and host callbacks (hash, HMAC, X.509 parsing,
  signing and verification, the measurement collection) are the fields of
  `OpenSpdm.SpdmCrypto`, with the few facts about their output sizes that the
  callers rely on.
* The secured-message context that each session slot points to belongs to
  `SpdmSecuredMessageLib`, whose bodies are not among the sources;
  `OpenSpdm.SpdmSecuredMessageContext` keeps the fields its setters write.

The constants of the SPDM wire format (message codes, header sizes, capability
bits) come from the DMTF layout that the specification prescribes.
-/

namespace OpenSpdm

/-! ### Build configuration and collaborators -/

/-- The compile-time maxima of `SpdmLibConfig.h`. -/
structure SpdmLibConfig where
  /-- `MAX_SPDM_SESSION_COUNT`. -/
  maxSpdmSessionCount : Nat
  /-- `MAX_SPDM_MESSAGE_BUFFER_SIZE`. -/
  maxSpdmMessageBufferSize : Nat
  /-- `MAX_SPDM_MESSAGE_SMALL_BUFFER_SIZE`. -/
  maxSpdmMessageSmallBufferSize : Nat
  /-- `MAX_SPDM_CERT_CHAIN_SIZE`, the size of `PeerCertChainBuffer`. -/
  maxSpdmCertChainSize : Nat
  /-- `MAX_HASH_SIZE`. -/
  maxHashSize : Nat
  /-- `MAX_ASYM_KEY_SIZE`. -/
  maxAsymKeySize : Nat
  /-- `MAX_SPDM_OPAQUE_DATA_SIZE`. -/
  maxSpdmOpaqueDataSize : Nat
  /-- `MAX_SPDM_MEASUREMENT_BLOCK_COUNT`. -/
  maxSpdmMeasurementBlockCount : Nat
  /-- `MAX_SPDM_MEASUREMENT_RECORD_SIZE`. -/
  maxSpdmMeasurementRecordSize : Nat
  /-- `MAX_SPDM_PSK_HINT_LENGTH`. -/
  maxSpdmPskHintLength : Nat
  /-- `MAX_SPDM_VERSION_COUNT`. -/
  maxSpdmVersionCount : Nat
  /-- `MAX_SPDM_REQUEST_RETRY_TIMES`. -/
  maxSpdmRequestRetryTimes : UInt8
  /-- `DEFAULT_OPAQUE_LENGTH` of the responder library. -/
  defaultOpaqueLength : Nat
  /-- `DEFAULT_OPAQUE_DATA` of the responder library. -/
  defaultOpaqueData : UInt8

/-- The cryptographic primitives and host callbacks, indexed by the negotiated
algorithm where the C function takes one. Buffers are byte lists; a callee that
can fail returns `none`. -/
structure SpdmCrypto where
  /-- `GetSpdmHashSize (BaseHashAlgo)`. -/
  hashSize : UInt32 → Nat
  /-- `SpdmHashAll (BaseHashAlgo, Data, DataSize, Hash)`. -/
  hashAll : UInt32 → List UInt8 → List UInt8
  /-- `SpdmHashAll` writes exactly `GetSpdmHashSize` bytes. -/
  hashAll_length : ∀ algo data, (hashAll algo data).length = hashSize algo
  /-- `GetSpdmAsymSize (BaseAsymAlgo)`. -/
  asymSize : UInt32 → Nat
  /-- `GetSpdmReqAsymSize (ReqBaseAsymAlg)`. -/
  reqAsymSize : UInt16 → Nat
  /-- The HMAC of a message under a key, for the negotiated hash. -/
  hmacAll : UInt32 → List UInt8 → List UInt8 → List UInt8
  /-- An HMAC is as long as a digest of its hash. -/
  hmacAll_length : ∀ algo key data, (hmacAll algo key data).length = hashSize algo
  /-- `GetSpdmMeasurementHashSize (SpdmContext)`, the digest size of the negotiated
  `MeasurementHashAlgo`. -/
  measurementHashSize : UInt32 → Nat
  /-- `GetSpdmMeasurementHashFunc (SpdmContext)`. -/
  measurementHashAll : UInt32 → List UInt8 → List UInt8
  /-- A measurement digest is as long as its algorithm says. -/
  measurementHashAll_length : ∀ algo data, (measurementHashAll algo data).length = measurementHashSize algo
  /-- `X509GetCertFromCertChain (…, -1, …)`: the leaf certificate of a chain. -/
  x509GetCertFromCertChain : List UInt8 → Option (List UInt8)
  /-- `SpdmAsymGetPublicKeyFromX509`. -/
  asymGetPublicKeyFromX509 : UInt32 → List UInt8 → Option (List UInt8)
  /-- `SpdmAsymVerify (algo, Context, HashData, HashSize, SignData, SignDataSize)`. -/
  asymVerify : UInt32 → List UInt8 → List UInt8 → List UInt8 → Bool
  /-- `SpdmReqAsymGetPublicKeyFromX509`. -/
  reqAsymGetPublicKeyFromX509 : UInt16 → List UInt8 → Option (List UInt8)
  /-- `SpdmReqAsymVerify`. -/
  reqAsymVerify : UInt16 → List UInt8 → List UInt8 → List UInt8 → Bool
  /-- `SpdmResponderDataSignFunc`: the host signs a hash with the local private key. -/
  responderDataSign : UInt32 → List UInt8 → Option (List UInt8)
  /-- A responder signature fills the `GetSpdmAsymSize` bytes its algorithm has. -/
  responderDataSign_length : ∀ algo hash signature, responderDataSign algo hash = some signature →
    signature.length = asymSize algo
  /-- `SpdmRequesterDataSignFunc`. -/
  requesterDataSign : UInt16 → List UInt8 → Option (List UInt8)
  /-- A requester signature fills the `GetSpdmReqAsymSize` bytes its algorithm has. -/
  requesterDataSign_length : ∀ algo hash signature, requesterDataSign algo hash = some signature →
    signature.length = reqAsymSize algo
  /-- `SpdmVerifyCertificateChainData (BaseHashAlgo, CertificateChain, Size)`. -/
  verifyCertificateChainData : UInt32 → List UInt8 → Bool
  /-- `SpdmMeasurementCollectionFunc (MeasurementSpec, MeasurementHashAlgo, …)`:
  the number of measurement blocks and the record holding them. -/
  measurementCollection : UInt8 → UInt32 → Option (UInt8 × List UInt8)
  /-- `RsaGetPrivateKeyFromPem`, used by the responder library. -/
  rsaGetPrivateKeyFromPem : List UInt8 → Option (List UInt8)
  /-- `RsaPkcs1Sign (RsaContext, HashData, HashSize, Signature, &SigSize)`, used by the
  responder library: the key, the hash and the size of the signature buffer. -/
  rsaPkcs1Sign : List UInt8 → List UInt8 → Nat → Option (List UInt8)
  /-- `RsaPkcs1Sign` fills the signature buffer it is given. -/
  rsaPkcs1Sign_length : ∀ key hash sigSize signature, rsaPkcs1Sign key hash sigSize = some signature →
    signature.length = sigSize

/-- A build configuration with the sizes the specification calls typical: four
session slots, 4 KiB and 64 KiB message buffers and 64 KiB certificate chains. -/
def typicalSpdmLibConfig : SpdmLibConfig where
  maxSpdmSessionCount := 4
  maxSpdmMessageBufferSize := 0x10000
  maxSpdmMessageSmallBufferSize := 0x1000
  maxSpdmCertChainSize := 0x10000
  maxHashSize := 64
  maxAsymKeySize := 512
  maxSpdmOpaqueDataSize := 1024
  maxSpdmMeasurementBlockCount := 8
  maxSpdmMeasurementRecordSize := 0x1000
  maxSpdmPskHintLength := 32
  maxSpdmVersionCount := 5
  maxSpdmRequestRetryTimes := 3
  defaultOpaqueLength := 8
  defaultOpaqueData := 0

/-- The signature the sample collaborator makes of a hash: the hash itself, cut or
padded with zeroes to the signature size. -/
def sampleSignature (sigSize : Nat) (hash : List UInt8) : List UInt8 :=
  (hash ++ List.replicate sigSize 0).take sigSize

theorem length_sampleSignature (sigSize : Nat) (hash : List UInt8) :
    (sampleSignature sigSize hash).length = sigSize := by
  simp [sampleSignature]

/-- A collaborator for running the model on concrete inputs: 32-byte digests and
HMACs that record the length of what they cover, 32-byte signatures that are the
signed digest itself, an X.509 layer that takes a chain for its own leaf and a
certificate for its own key, and a chain check that accepts every chain. -/
def sampleSpdmCrypto : SpdmCrypto where
  hashSize _ := 32
  hashAll _ data := List.replicate 32 data.length.toUInt8
  hashAll_length _ _ := List.length_replicate _ _
  asymSize _ := 32
  reqAsymSize _ := 32
  hmacAll _ key data := List.replicate 32 (key.length + data.length).toUInt8
  hmacAll_length _ _ _ := List.length_replicate _ _
  measurementHashSize _ := 32
  measurementHashAll _ data := List.replicate 32 data.length.toUInt8
  measurementHashAll_length _ _ := List.length_replicate _ _
  x509GetCertFromCertChain chain := some chain
  asymGetPublicKeyFromX509 _ cert := some cert
  asymVerify _ _ hash signature := signature == sampleSignature 32 hash
  reqAsymGetPublicKeyFromX509 _ cert := some cert
  reqAsymVerify _ _ hash signature := signature == sampleSignature 32 hash
  responderDataSign _ hash := some (sampleSignature 32 hash)
  responderDataSign_length _ hash _ h := by
    cases h; exact length_sampleSignature 32 hash
  requesterDataSign _ hash := some (sampleSignature 32 hash)
  requesterDataSign_length _ hash _ h := by
    cases h; exact length_sampleSignature 32 hash
  verifyCertificateChainData _ _ := true
  measurementCollection _ _ := none
  rsaGetPrivateKeyFromPem pem := some pem
  rsaPkcs1Sign _ hash sigSize := some (sampleSignature sigSize hash)
  rsaPkcs1Sign_length _ hash sigSize _ h := by
    cases h; exact length_sampleSignature sigSize hash

/-! ### Constants of the SPDM wire format -/

/-- `SPDM_NONCE_SIZE`. -/
def spdmNonceSize : Nat := 32

/-- `sizeof (SPDM_MESSAGE_HEADER)`: version, code, `Param1`, `Param2`. -/
def spdmMessageHeaderSize : Nat := 4

/-- `sizeof (SPDM_CERT_CHAIN)`: the 16-bit length and 16-bit reserved field that
open a certificate chain. -/
def spdmCertChainHeaderSize : Nat := 4

/-- `sizeof (SPDM_CHALLENGE_REQUEST)`: the header and the requester nonce. -/
def spdmChallengeRequestSize : Nat := spdmMessageHeaderSize + spdmNonceSize

/-- `sizeof (SPDM_CHALLENGE_AUTH_RESPONSE)`: the header alone. -/
def spdmChallengeAuthResponseSize : Nat := spdmMessageHeaderSize

/-- Modelled from the spec: `MAX_SPDM_SLOT_COUNT`, the eight certificate slots
`0 … 7`. -/
def maxSpdmSlotCount : Nat := 8

/-- `SPDM_MESSAGE_VERSION_10`. -/
def spdmMessageVersion10 : UInt8 := 0x10
/-- `SPDM_MESSAGE_VERSION_11`. -/
def spdmMessageVersion11 : UInt8 := 0x11
/-- `SPDM_CHALLENGE`, the request code (the name `spdmChallenge` is the requester's
`SpdmChallenge`). -/
def spdmChallengeCode : UInt8 := 0x83
/-- `SPDM_CHALLENGE_AUTH`. -/
def spdmChallengeAuth : UInt8 := 0x03
/-- `SPDM_ERROR`. -/
def spdmError : UInt8 := 0x7F
/-- `SPDM_ERROR_CODE_INVALID_REQUEST`. -/
def spdmErrorCodeInvalidRequest : UInt8 := 0x01
/-- `SPDM_ERROR_CODE_BUSY`. -/
def spdmErrorCodeBusy : UInt8 := 0x03
/-- `SPDM_ERROR_CODE_UNSUPPORTED_REQUEST`. -/
def spdmErrorCodeUnsupportedRequest : UInt8 := 0x07
/-- `SPDM_ERROR_CODE_RESPONSE_NOT_READY`. -/
def spdmErrorCodeResponseNotReady : UInt8 := 0x42

/-- `SPDM_CHALLENGE_REQUEST_NO_MEASUREMENT_SUMMARY_HASH`. -/
def spdmChallengeRequestNoMeasurementSummaryHash : UInt8 := 0
/-- `SPDM_CHALLENGE_REQUEST_TCB_COMPONENT_MEASUREMENT_HASH`. -/
def spdmChallengeRequestTcbComponentMeasurementHash : UInt8 := 1
/-- `SPDM_CHALLENGE_REQUEST_ALL_MEASUREMENTS_HASH`. -/
def spdmChallengeRequestAllMeasurementsHash : UInt8 := 0xFF

/-- `SPDM_GET_CAPABILITIES_RESPONSE_FLAGS_CHAL_CAP`. -/
def spdmGetCapabilitiesResponseFlagsChalCap : UInt32 := 0x4
/-- `SPDM_GET_CAPABILITIES_REQUEST_FLAGS_ENCRYPT_CAP`. -/
def spdmGetCapabilitiesRequestFlagsEncryptCap : UInt32 := 0x40
/-- `SPDM_GET_CAPABILITIES_REQUEST_FLAGS_MAC_CAP`. -/
def spdmGetCapabilitiesRequestFlagsMacCap : UInt32 := 0x80
/-- `SPDM_GET_CAPABILITIES_REQUEST_FLAGS_MUT_AUTH_CAP`. -/
def spdmGetCapabilitiesRequestFlagsMutAuthCap : UInt32 := 0x100

/-- `SPDM_GET_CAPABILITIES_RECEIVE_FLAG`. -/
def spdmGetCapabilitiesReceiveFlag : UInt64 := 0x2
/-- `SPDM_NEGOTIATE_ALGORITHMS_RECEIVE_FLAG`. -/
def spdmNegotiateAlgorithmsReceiveFlag : UInt64 := 0x4
/-- `SPDM_GET_DIGESTS_RECEIVE_FLAG`. -/
def spdmGetDigestsReceiveFlag : UInt64 := 0x8
/-- `SPDM_CHALLENGE_RECEIVE_FLAG`. -/
def spdmChallengeReceiveFlag : UInt64 := 0x20

/-- `SPDM_KEY_EXCHANGE_RESPONSE_MUT_AUTH_REQUESTED`. -/
def spdmKeyExchangeResponseMutAuthRequested : UInt8 := 0x1
/-- `SPDM_KEY_EXCHANGE_RESPONSE_MUT_AUTH_REQUESTED_WITH_ENCAP_REQUEST`. -/
def spdmKeyExchangeResponseMutAuthRequestedWithEncapRequest : UInt8 := 0x2
/-- `SPDM_KEY_EXCHANGE_RESPONSE_MUT_AUTH_REQUESTED_WITH_GET_DIGESTS`. -/
def spdmKeyExchangeResponseMutAuthRequestedWithGetDigests : UInt8 := 0x4

/-- `SpdmResponseStateNormal`, the first value of `SPDM_RESPONSE_STATE`. -/
def spdmResponseStateNormal : UInt32 := 0

/-- `INVALID_SESSION_ID`. -/
def invalidSessionId : UInt32 := 0

/-- `SPDM_DEVICE_CONTEXT_VERSION`. -/
def spdmDeviceContextVersion : UInt32 := 1

/-! ### The context records -/

/-- `SPDM_CONNECTION_STATE`, in the order the connection goes through them. -/
inductive SpdmConnectionState
  | notStarted
  | afterVersion
  | afterCapabilities
  | negotiated
  | afterDigests
  | afterCertificate
  | authenticated
  deriving DecidableEq, Repr

/-- `SPDM_SESSION_TYPE`. -/
inductive SpdmSessionType
  | none
  | macOnly
  | encMac
  | max
  deriving DecidableEq, Repr

/-- `SPDM_DEVICE_CAPABILITY`. -/
structure SpdmDeviceCapability where
  ctExponent : UInt8 := 0
  flags : UInt32 := 0
  deriving DecidableEq, Repr

/-- `SPDM_DEVICE_ALGORITHM`, with the measurement specification the measurement
collection is called with. -/
structure SpdmDeviceAlgorithm where
  measurementSpec : UInt8 := 0
  measurementHashAlgo : UInt32 := 0
  baseAsymAlgo : UInt32 := 0
  baseHashAlgo : UInt32 := 0
  dheNamedGroup : UInt16 := 0
  aeadCipherSuite : UInt16 := 0
  reqBaseAsymAlg : UInt16 := 0
  keySchedule : UInt16 := 0
  deriving DecidableEq, Repr

/-- `SPDM_LOCAL_CONTEXT`. Each pointer and size pair is the byte list it covers.
The last three fields are the ones the responder of `SpdmResponderLib` reads. -/
structure SpdmLocalContext where
  capability : SpdmDeviceCapability := {}
  algorithm : SpdmDeviceAlgorithm := {}
  /-- `CertificateChain[MAX_SPDM_SLOT_COUNT]` with `CertificateChainSize`. -/
  certificateChain : List (List UInt8) := []
  slotCount : UInt8 := 0
  provisionedSlotNum : UInt8 := 0
  peerRootCertHashProvision : List UInt8 := []
  peerCertChainProvision : List UInt8 := []
  pskHint : List UInt8 := []
  opaqueChallengeAuthRsp : List UInt8 := []
  basicMutAuthRequested : UInt8 := 0
  mutAuthRequested : UInt8 := 0
  /-- `PrivatePem`, `none` for a `NULL` pointer. -/
  privatePem : Option (List UInt8) := none
  deviceMeasurementCount : UInt8 := 0
  deviceMeasurement : List UInt8 := []

/-- `SPDM_CONNECTION_INFO`. -/
structure SpdmConnectionInfo where
  connectionState : SpdmConnectionState := .notStarted
  /-- `Version[MAX_SPDM_VERSION_COUNT]`. -/
  version : List UInt8 := []
  capability : SpdmDeviceCapability := {}
  algorithm : SpdmDeviceAlgorithm := {}
  /-- `PeerCertChainBuffer[0, PeerCertChainBufferSize)`. -/
  peerCertChainBuffer : List UInt8 := []
  localUsedCertChainBuffer : List UInt8 := []

/-- `SPDM_TRANSCRIPT`: the ledgers of the authentication exchanges. -/
structure SpdmTranscript where
  messageA : ManagedBuffer := .zero
  messageB : ManagedBuffer := .zero
  messageC : ManagedBuffer := .zero
  messageMutB : ManagedBuffer := .zero
  messageMutC : ManagedBuffer := .zero
  m1m2 : ManagedBuffer := .zero
  l1l2 : ManagedBuffer := .zero

/-- `SPDM_SESSION_TRANSCRIPT`: the ledgers of one session's handshake. -/
structure SpdmSessionTranscript where
  messageK : ManagedBuffer := .zero
  messageF : ManagedBuffer := .zero

/-- Modelled from the spec: the secured-message context a session slot points to,
with the fields the session setters write and the finished keys its HMACs use. -/
structure SpdmSecuredMessageContext where
  sessionType : SpdmSessionType := .none
  usePsk : Bool := false
  baseHashAlgo : UInt32 := 0
  dheNamedGroup : UInt16 := 0
  aeadCipherSuite : UInt16 := 0
  keySchedule : UInt16 := 0
  pskHint : List UInt8 := []
  requestFinishedKey : List UInt8 := []
  responseFinishedKey : List UInt8 := []

/-- `SPDM_SESSION_INFO`. The field `securedMessageContext` is the pointer
`SecuredMessageContext`, an address; `securedMessage` is the context stored there. -/
structure SpdmSessionInfo where
  sessionId : UInt32 := 0
  usePsk : Bool := false
  mutAuthRequested : UInt8 := 0
  sessionTranscript : SpdmSessionTranscript := {}
  securedMessageContext : Nat := 0
  securedMessage : SpdmSecuredMessageContext := {}

/-- The `SPDM_STATUS_…` values the modelled functions leave in `ErrorState`. Their
numbers are in a header that is not among the sources; the model keeps them apart
by name, with `SPDM_STATUS_SUCCESS` the zero a fresh context holds. -/
inductive SpdmErrorStatus
  | success
  | errorDeviceNoCapabilities
  | errorCertificateFailure
  deriving DecidableEq, Repr

/-- `SPDM_ENCAP_CONTEXT`, without its certificate-chain reassembly buffer. -/
structure SpdmEncapContext where
  errorState : UInt32 := 0
  encapState : UInt32 := 0
  requestId : UInt8 := 0
  slotNum : UInt8 := 0
  measurementHashType : UInt8 := 0

/-- `SPDM_DEVICE_CONTEXT`. -/
structure SpdmDeviceContext where
  version : UInt32 := 0
  errorState : SpdmErrorStatus := .success
  encapContext : SpdmEncapContext := {}
  localContext : SpdmLocalContext := {}
  connectionInfo : SpdmConnectionInfo := {}
  transcript : SpdmTranscript := {}
  /-- `SessionInfo[MAX_SPDM_SESSION_COUNT]`. -/
  sessionInfo : List SpdmSessionInfo := []
  latestSessionId : UInt32 := 0
  spdmCmdReceiveState : UInt64 := 0
  /-- `ResponseState`, an `SPDM_RESPONSE_STATE` as `SpdmSetData` stores it. -/
  responseState : UInt32 := spdmResponseStateNormal
  currentToken : UInt8 := 0
  retryTimes : UInt8 := 0

/-! ### Initialisation -/

/-- The slot `Index` as `SpdmInitContext` leaves it: zeroed, its secured-message
context pointer at `Base + Size * Index` and that context freshly initialised. -/
def initSessionInfo (base size index : Nat) : SpdmSessionInfo :=
  { securedMessageContext := base + size * index }

/-- `SpdmInitContext`. The secured-message contexts are laid out after the device
context, at `base`, each `size` bytes long (`SpdmSecuredMessageGetContextSize`). -/
def spdmInitContext (cfg : SpdmLibConfig) (base size : Nat) : SpdmDeviceContext :=
  { version := spdmDeviceContextVersion
    localContext := { certificateChain := List.replicate maxSpdmSlotCount [] }
    connectionInfo := { version := List.replicate cfg.maxSpdmVersionCount 0 }
    transcript :=
      { messageA := initManagedBuffer cfg.maxSpdmMessageSmallBufferSize
        messageB := initManagedBuffer cfg.maxSpdmMessageBufferSize
        messageC := initManagedBuffer cfg.maxSpdmMessageSmallBufferSize
        messageMutB := initManagedBuffer cfg.maxSpdmMessageBufferSize
        messageMutC := initManagedBuffer cfg.maxSpdmMessageSmallBufferSize
        m1m2 := initManagedBuffer cfg.maxSpdmMessageBufferSize
        l1l2 := initManagedBuffer cfg.maxSpdmMessageBufferSize }
    sessionInfo := (List.range cfg.maxSpdmSessionCount).map (initSessionInfo base size)
    retryTimes := cfg.maxSpdmRequestRetryTimes
    responseState := spdmResponseStateNormal
    currentToken := 0 }

/-- `SpdmGetContextSize`, with `deviceContextSize` for `sizeof (SPDM_DEVICE_CONTEXT)` and
`size` what `SpdmSecuredMessageGetContextSize` returns: the device context and
`MAX_SPDM_SESSION_COUNT` secured-message contexts after it. -/
def spdmGetContextSize (cfg : SpdmLibConfig) (deviceContextSize size : Nat) : Nat :=
  deviceContextSize + size * cfg.maxSpdmSessionCount

/-- `SpdmIsVersionSupported`: whether one of the `MAX_SPDM_VERSION_COUNT` entries of
the negotiated `Version` array is the given version; entries past the list are the
zeroes `ZeroMem` left. -/
def spdmIsVersionSupported (cfg : SpdmLibConfig) (ctx : SpdmDeviceContext) (version : UInt8) :
    Bool :=
  (List.range cfg.maxSpdmVersionCount).any fun index =>
    version == ctx.connectionInfo.version.getD index 0

/-- `GetSpdmHashSize (SpdmContext)`, the older form the CHALLENGE code calls: the digest
size of the negotiated base hash. -/
def getSpdmHashSize (crypto : SpdmCrypto) (ctx : SpdmDeviceContext) : Nat :=
  crypto.hashSize ctx.connectionInfo.algorithm.baseHashAlgo

/-- `GetSpdmAsymSize (SpdmContext)`: the signature size of the negotiated base
asymmetric algorithm. -/
def getSpdmAsymSize (crypto : SpdmCrypto) (ctx : SpdmDeviceContext) : Nat :=
  crypto.asymSize ctx.connectionInfo.algorithm.baseAsymAlgo

/-- The version the CHALLENGE code puts in the messages it builds: 1.1 when the
peer supports it, 1.0 otherwise. -/
def challengeMessageVersion (cfg : SpdmLibConfig) (ctx : SpdmDeviceContext) : UInt8 :=
  if spdmIsVersionSupported cfg ctx spdmMessageVersion11 then spdmMessageVersion11
  else spdmMessageVersion10

@[simp] theorem spdmInitContext_sessionInfo_length (cfg : SpdmLibConfig) (base size : Nat) :
    (spdmInitContext cfg base size).sessionInfo.length = cfg.maxSpdmSessionCount := by
  simp [spdmInitContext]

end OpenSpdm
