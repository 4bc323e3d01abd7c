import OpenSpdm.Context

/-!
# Provisioning a context: `SpdmSetData`

The integrator provisions a context with `SpdmSetData`: a tag of `SPDM_DATA_TYPE`,
a parameter and a data buffer. Most tags store a scalar and check only the size of
the buffer; three tags are checked further (`SpdmDataSlotCount` against
`MAX_SPDM_SLOT_COUNT`, `SpdmDataPublicCertChains` against the slot count,
`SpdmDataMutAuthRequested` against its three legal values) and three store the
buffer itself, whatever its size: the two peer provisions and the PSK hint, which
is only bounded above.

The header declaring `SPDM_DATA_TYPE` is not among the sources, so the tags the
switch names are the constructors of `OpenSpdm.SpdmDataType` and every other value
of the enumeration is `OpenSpdm.SpdmDataType.other`, by its number.
`NeedSessionInfoForData` returns `FALSE` for every tag, so the parameter's
`Location` is never read and is left out.

The contexts that `SpdmInitContext` and any run of provisioning calls reach are
`OpenSpdm.Provisioned`. On every one of them the slot count stays within
`MAX_SPDM_SLOT_COUNT` and the table of local chains keeps its eight entries
(`OpenSpdm.Provisioned.slotsBounded`), while the certificate chains themselves are
stored at any size (`OpenSpdm.spdmSetData_peerPublicCertChains`).
-/

namespace OpenSpdm

/-- The tags of `SPDM_DATA_TYPE` that `SpdmSetData` handles. -/
inductive SpdmDataType
  | capabilityFlags
  | capabilityCTExponent
  | measurementHashAlgo
  | baseAsymAlgo
  | baseHashAlgo
  | dheNamedGroup
  | aeadCipherSuite
  | reqBaseAsymAlg
  | keySchedule
  | responseState
  | peerPublicRootCertHash
  | peerPublicCertChains
  | slotCount
  | publicCertChains
  | basicMutAuthRequested
  | mutAuthRequested
  | pskHint
  /-- Any other value of the enumeration, by its number. -/
  | other (value : UInt32)
  deriving DecidableEq, Repr

/-- `SPDM_DATA_PARAMETER` without its `Location`: the four bytes `AdditionalData`. -/
structure SpdmDataParameter where
  additionalData : Fin 4 → UInt8

/-- `IsDebugOnlyData`: the values of the enumeration from `0x80000000` on are
debug-only. The tags the switch names are ordinary ones. -/
def isDebugOnlyData : SpdmDataType → Bool
  | .other value => value ≥ 0x80000000
  | _ => false

/-- `SpdmInitEncapEnv`. -/
def spdmInitEncapEnv (ctx : SpdmDeviceContext) (slotNum measurementHashType : UInt8) :
    SpdmDeviceContext :=
  { ctx with
    encapContext :=
      { errorState := 0, encapState := 0, requestId := 0, slotNum := slotNum
        measurementHashType := measurementHashType } }

/-- A case of the switch that accepts a buffer of exactly `size` bytes and then
stores into the context. -/
def setDataOfSize (ctx : SpdmDeviceContext) (data : List UInt8) (size : Nat)
    (store : SpdmDeviceContext) : ReturnStatus × SpdmDeviceContext :=
  if data.length ≠ size then (.invalidParameter, ctx) else (.success, store)

/-- The values `SpdmSetData` accepts for `MutAuthRequested`: none, or mutual
authentication with an encapsulated request or with `GET_DIGESTS`. -/
def isValidMutAuthRequested (m : UInt8) : Bool :=
  m == 0 ||
    m == (spdmKeyExchangeResponseMutAuthRequested |||
      spdmKeyExchangeResponseMutAuthRequestedWithEncapRequest) ||
    m == (spdmKeyExchangeResponseMutAuthRequested |||
      spdmKeyExchangeResponseMutAuthRequestedWithGetDigests)

/-- `SpdmSetData`. -/
def spdmSetData (cfg : SpdmLibConfig) (ctx : SpdmDeviceContext) (dataType : SpdmDataType)
    (parameter : SpdmDataParameter) (data : List UInt8) : ReturnStatus × SpdmDeviceContext :=
  if isDebugOnlyData dataType then (.unsupported, ctx) else
  let localCtx := ctx.localContext
  match dataType with
  | .capabilityFlags => setDataOfSize ctx data 4
      { ctx with localContext.capability.flags := readUInt32 data }
  | .capabilityCTExponent => setDataOfSize ctx data 1
      { ctx with localContext.capability.ctExponent := data.getD 0 0 }
  | .measurementHashAlgo => setDataOfSize ctx data 4
      { ctx with localContext.algorithm.measurementHashAlgo := readUInt32 data }
  | .baseAsymAlgo => setDataOfSize ctx data 4
      { ctx with localContext.algorithm.baseAsymAlgo := readUInt32 data }
  | .baseHashAlgo => setDataOfSize ctx data 4
      { ctx with localContext.algorithm.baseHashAlgo := readUInt32 data }
  | .dheNamedGroup => setDataOfSize ctx data 2
      { ctx with localContext.algorithm.dheNamedGroup := readUInt16 data }
  | .aeadCipherSuite => setDataOfSize ctx data 2
      { ctx with localContext.algorithm.aeadCipherSuite := readUInt16 data }
  | .reqBaseAsymAlg => setDataOfSize ctx data 2
      { ctx with localContext.algorithm.reqBaseAsymAlg := readUInt16 data }
  | .keySchedule => setDataOfSize ctx data 2
      { ctx with localContext.algorithm.keySchedule := readUInt16 data }
  | .responseState => setDataOfSize ctx data 4 { ctx with responseState := readUInt32 data }
  | .peerPublicRootCertHash =>
      (.success, { ctx with localContext.peerRootCertHashProvision := data })
  | .peerPublicCertChains =>
      (.success, { ctx with localContext.peerCertChainProvision := data })
  | .slotCount =>
      if data.length ≠ 1 then (.invalidParameter, ctx)
      else if (data.getD 0 0).toNat > maxSpdmSlotCount then (.invalidParameter, ctx)
      else (.success, { ctx with localContext.slotCount := data.getD 0 0 })
  | .publicCertChains =>
      let slotNum := parameter.additionalData 0
      if slotNum ≥ localCtx.slotCount then (.invalidParameter, ctx)
      else (.success,
        { ctx with localContext.certificateChain := localCtx.certificateChain.set slotNum.toNat data })
  | .basicMutAuthRequested => setDataOfSize ctx data 1
      { ctx with localContext.basicMutAuthRequested := data.getD 0 0 }
  | .mutAuthRequested =>
      if data.length ≠ 1 then (.invalidParameter, ctx)
      else if !isValidMutAuthRequested (data.getD 0 0) then (.invalidParameter, ctx)
      else (.success,
        spdmInitEncapEnv { ctx with localContext.mutAuthRequested := data.getD 0 0 }
          (parameter.additionalData 0) (parameter.additionalData 1))
  | .pskHint =>
      if data.length > cfg.maxSpdmPskHintLength then (.invalidParameter, ctx)
      else (.success, { ctx with localContext.pskHint := data })
  | .other _ => (.unsupported, ctx)

/-- `SpdmSetData` stores a peer certificate chain of any size. -/
theorem spdmSetData_peerPublicCertChains (cfg : SpdmLibConfig) (ctx : SpdmDeviceContext)
    (parameter : SpdmDataParameter) (data : List UInt8) :
    spdmSetData cfg ctx .peerPublicCertChains parameter data =
      (.success, { ctx with localContext.peerCertChainProvision := data }) := rfl

/-- A rejected call changes nothing. -/
theorem spdmSetData_of_isError {cfg : SpdmLibConfig} {ctx : SpdmDeviceContext}
    {dataType : SpdmDataType} {parameter : SpdmDataParameter} {data : List UInt8}
    (h : (spdmSetData cfg ctx dataType parameter data).1.isError) :
    (spdmSetData cfg ctx dataType parameter data).2 = ctx := by
  revert h
  unfold spdmSetData
  split
  · exact fun _ => rfl
  cases dataType <;> dsimp only [setDataOfSize] <;> repeat' split
  all_goals first | exact fun _ => rfl | exact fun h => absurd h Bool.false_ne_true

/-! ### The slot table over a run of provisioning calls -/

/-- The local slot table is well formed: at most `MAX_SPDM_SLOT_COUNT` slots are
in use, out of the eight entries of `CertificateChain`. -/
structure SlotsBounded (ctx : SpdmDeviceContext) : Prop where
  slotCount_le : ctx.localContext.slotCount.toNat ≤ maxSpdmSlotCount
  certificateChain_length : ctx.localContext.certificateChain.length = maxSpdmSlotCount

theorem slotsBounded_spdmInitContext (cfg : SpdmLibConfig) (base size : Nat) :
    SlotsBounded (spdmInitContext cfg base size) :=
  ⟨Nat.zero_le _, List.length_replicate _ _⟩

theorem slotsBounded_spdmSetData {cfg : SpdmLibConfig} {ctx : SpdmDeviceContext}
    (h : SlotsBounded ctx) (dataType : SpdmDataType) (parameter : SpdmDataParameter)
    (data : List UInt8) : SlotsBounded (spdmSetData cfg ctx dataType parameter data).2 := by
  obtain ⟨hle, hlen⟩ := h
  unfold spdmSetData
  split
  · exact ⟨hle, hlen⟩
  cases dataType <;> dsimp only [setDataOfSize] <;> repeat' split
  all_goals first
    | exact ⟨hle, hlen⟩
    | exact ⟨Nat.le_of_not_lt ‹_›, hlen⟩
    | exact ⟨hle, (List.length_set ..).trans hlen⟩

/-- One provisioning call: a tag, its parameter and its data. -/
structure SetDataCall where
  dataType : SpdmDataType
  parameter : SpdmDataParameter
  data : List UInt8

/-- A run of provisioning calls, each on the context the previous one left. -/
def setDataRun (cfg : SpdmLibConfig) (ctx : SpdmDeviceContext) (calls : List SetDataCall) :
    SpdmDeviceContext :=
  calls.foldl (fun ctx c => (spdmSetData cfg ctx c.dataType c.parameter c.data).2) ctx

/-! ### Provisioned contexts -/

/-- The contexts an integrator can provision: what `SpdmInitContext` leaves, and what
an `SpdmSetData` call leaves of a provisioned context. -/
inductive Provisioned (cfg : SpdmLibConfig) : SpdmDeviceContext → Prop
  | init (base size : Nat) : Provisioned cfg (spdmInitContext cfg base size)
  | setData {ctx : SpdmDeviceContext} (h : Provisioned cfg ctx) (dataType : SpdmDataType)
      (parameter : SpdmDataParameter) (data : List UInt8) :
      Provisioned cfg (spdmSetData cfg ctx dataType parameter data).2

theorem Provisioned.setDataRun {cfg : SpdmLibConfig} {ctx : SpdmDeviceContext}
    (h : Provisioned cfg ctx) (calls : List SetDataCall) :
    Provisioned cfg (setDataRun cfg ctx calls) := by
  induction calls generalizing ctx with
  | nil => exact h
  | cons c cs ih => exact ih (h.setData _ _ _)

theorem Provisioned.slotsBounded {cfg : SpdmLibConfig} {ctx : SpdmDeviceContext}
    (h : Provisioned cfg ctx) : SlotsBounded ctx := by
  induction h with
  | init base size => exact slotsBounded_spdmInitContext cfg base size
  | setData _ dataType parameter data ih => exact slotsBounded_spdmSetData ih dataType parameter data

end OpenSpdm
