import OpenSpdm.SetData

/-!
# Reading a context back: `SpdmGetData`

`SpdmGetData` copies one negotiated value of the connection, or the `ResponseState`,
into the caller's buffer. For every tag but `SpdmDataResponseState` it asks for the
location `SpdmDataLocationConnection` and reads `ConnectionInfo`; a buffer smaller
than the value gets `RETURN_BUFFER_TOO_SMALL`, with `*DataSize` set to the size the
value needs.

Provisioning changes no value `SpdmGetData` returns but `ResponseState`, which reads
back as stored (`OpenSpdm.spdmGetData_setDataRun`). That is the split the two
functions make: `SpdmSetData` writes the local context and `SpdmGetData` reads the
connection, so a capability or an algorithm provisioned with `SpdmSetData` is never
what `SpdmGetData` returns for the same tag.

`SpdmDataConnectionState` is a value of `SPDM_DATA_TYPE` that `SpdmSetData` does not
name, so it is one of the values `OpenSpdm.SpdmDataType.other` stands for; its number
is in a header that is not among the sources and is the argument
`connectionStateTag`. `NeedSessionInfoForData` returns `FALSE` for every tag, so the
branch that looks up a session is never taken and is left out.
-/

namespace OpenSpdm

/-- `SPDM_DATA_LOCATION`. -/
inductive SpdmDataLocation
  | «local»
  | connection
  | session
  deriving DecidableEq, Repr

/-- The `UINT32` an `SPDM_CONNECTION_STATE` is stored as: its place in the
enumeration. -/
def SpdmConnectionState.toUInt32 : SpdmConnectionState → UInt32
  | .notStarted => 0
  | .afterVersion => 1
  | .afterCapabilities => 2
  | .negotiated => 3
  | .afterDigests => 4
  | .afterCertificate => 5
  | .authenticated => 6

/-- The cases of the switch of `SpdmGetData`: whether the tag asks for
`SpdmDataLocationConnection`, and the bytes of `TargetData[0, TargetDataSize)`;
`none` for the default case. -/
def spdmGetDataTarget (connectionStateTag : UInt32) (ctx : SpdmDeviceContext) :
    SpdmDataType → Option (Bool × List UInt8)
  | .capabilityFlags => some (true, writeUInt32 ctx.connectionInfo.capability.flags)
  | .capabilityCTExponent => some (true, [ctx.connectionInfo.capability.ctExponent])
  | .measurementHashAlgo => some (true, writeUInt32 ctx.connectionInfo.algorithm.measurementHashAlgo)
  | .baseAsymAlgo => some (true, writeUInt32 ctx.connectionInfo.algorithm.baseAsymAlgo)
  | .baseHashAlgo => some (true, writeUInt32 ctx.connectionInfo.algorithm.baseHashAlgo)
  | .dheNamedGroup => some (true, writeUInt16 ctx.connectionInfo.algorithm.dheNamedGroup)
  | .aeadCipherSuite => some (true, writeUInt16 ctx.connectionInfo.algorithm.aeadCipherSuite)
  | .reqBaseAsymAlg => some (true, writeUInt16 ctx.connectionInfo.algorithm.reqBaseAsymAlg)
  | .keySchedule => some (true, writeUInt16 ctx.connectionInfo.algorithm.keySchedule)
  | .responseState => some (false, writeUInt32 ctx.responseState)
  | .other value =>
    if value = connectionStateTag then
      some (true, writeUInt32 ctx.connectionInfo.connectionState.toUInt32)
    else none
  | _ => none

/-- `SpdmGetData`, with `location` the parameter's `Location` and `dataSize` the
caller's `*DataSize`: the status, the bytes copied to `Data`, and `*DataSize` as it
leaves it. -/
def spdmGetData (connectionStateTag : UInt32) (ctx : SpdmDeviceContext) (dataType : SpdmDataType)
    (location : SpdmDataLocation) (dataSize : Nat) : ReturnStatus × List UInt8 × Nat :=
  if isDebugOnlyData dataType then (.unsupported, [], dataSize) else
  match spdmGetDataTarget connectionStateTag ctx dataType with
  | none => (.unsupported, [], dataSize)
  | some (needsConnection, target) =>
    if needsConnection ∧ location ≠ .connection then (.invalidParameter, [], dataSize)
    else if dataSize < target.length then (.bufferTooSmall, [], target.length)
    else (.success, target, target.length)

/-! ### What provisioning does to it -/

/-- `SpdmSetData` writes the local context, the encapsulation context and
`ResponseState`, never the connection. -/
theorem spdmSetData_connectionInfo (cfg : SpdmLibConfig) (ctx : SpdmDeviceContext)
    (dataType : SpdmDataType) (parameter : SpdmDataParameter) (data : List UInt8) :
    (spdmSetData cfg ctx dataType parameter data).2.connectionInfo = ctx.connectionInfo := by
  unfold spdmSetData
  split
  · rfl
  cases dataType <;> dsimp only [setDataOfSize] <;> repeat' split
  all_goals rfl

theorem connectionInfo_setDataRun (cfg : SpdmLibConfig) (ctx : SpdmDeviceContext)
    (calls : List SetDataCall) : (setDataRun cfg ctx calls).connectionInfo = ctx.connectionInfo := by
  induction calls generalizing ctx with
  | nil => rfl
  | cons c cs ih => exact (ih _).trans (spdmSetData_connectionInfo cfg ctx _ _ _)

/-- `SpdmGetData` reads the connection for every tag but `ResponseState`. -/
theorem spdmGetData_congr {connectionStateTag : UInt32} {ctx ctx' : SpdmDeviceContext}
    {dataType : SpdmDataType} (h : ctx'.connectionInfo = ctx.connectionInfo)
    (hresponse : dataType ≠ .responseState) (location : SpdmDataLocation) (dataSize : Nat) :
    spdmGetData connectionStateTag ctx' dataType location dataSize =
      spdmGetData connectionStateTag ctx dataType location dataSize := by
  have htarget : spdmGetDataTarget connectionStateTag ctx' dataType =
      spdmGetDataTarget connectionStateTag ctx dataType := by
    cases dataType
    case responseState => exact absurd rfl hresponse
    all_goals simp only [spdmGetDataTarget, h]
  simp only [spdmGetData, htarget]

/-- A four-byte `ResponseState` is stored and read back as it was given. -/
theorem spdmGetData_spdmSetData_responseState (cfg : SpdmLibConfig) (connectionStateTag : UInt32)
    (ctx : SpdmDeviceContext) (parameter : SpdmDataParameter) {data : List UInt8}
    (hdata : data.length = 4) (location : SpdmDataLocation) {dataSize : Nat} (hsize : 4 ≤ dataSize) :
    (spdmSetData cfg ctx .responseState parameter data).1 = .success ∧
    spdmGetData connectionStateTag (spdmSetData cfg ctx .responseState parameter data).2
      .responseState location dataSize = (.success, data, 4) := by
  simp [spdmSetData, setDataOfSize, hdata, isDebugOnlyData, spdmGetData, spdmGetDataTarget,
    writeUInt32_readUInt32 hdata, Nat.not_lt.mpr hsize]

/-- **Provisioning and reading back.** After any run of `SpdmSetData` calls,
`SpdmGetData` returns for every tag but `ResponseState` exactly what it returned
before the run, whatever the run provisioned for that tag; and a four-byte
`ResponseState` is stored and read back as it was given. -/
theorem spdmGetData_setDataRun (cfg : SpdmLibConfig) (connectionStateTag : UInt32)
    (ctx : SpdmDeviceContext) :
    (∀ (calls : List SetDataCall) (dataType : SpdmDataType), dataType ≠ .responseState →
      ∀ location dataSize,
        spdmGetData connectionStateTag (setDataRun cfg ctx calls) dataType location dataSize =
          spdmGetData connectionStateTag ctx dataType location dataSize) ∧
    ∀ (parameter : SpdmDataParameter) (data : List UInt8), data.length = 4 →
      ∀ location dataSize, 4 ≤ dataSize →
        (spdmSetData cfg ctx .responseState parameter data).1 = .success ∧
        spdmGetData connectionStateTag (spdmSetData cfg ctx .responseState parameter data).2
          .responseState location dataSize = (.success, data, 4) :=
  ⟨fun calls _ hresponse => spdmGetData_congr (connectionInfo_setDataRun cfg ctx calls) hresponse,
    fun parameter _ hdata location _ hsize =>
      spdmGetData_spdmSetData_responseState cfg connectionStateTag ctx parameter hdata location hsize⟩

/-- Provisioning the capability flags `1` on a fresh context leaves `SpdmGetData`
returning the connection's flags, zero, for that tag. -/
theorem spdmGetData_setDataRun_sample :
    let ctx := spdmInitContext typicalSpdmLibConfig 0 0
    spdmGetData 0x1000 (setDataRun typicalSpdmLibConfig ctx [⟨.capabilityFlags, ⟨fun _ => 0⟩, [1, 0, 0, 0]⟩])
        .capabilityFlags .connection 4 = spdmGetData 0x1000 ctx .capabilityFlags .connection 4 ∧
      spdmGetData 0x1000 ctx .capabilityFlags .connection 4 = (.success, [0, 0, 0, 0], 4) :=
  ⟨(spdmGetData_setDataRun typicalSpdmLibConfig 0x1000 _).1 _ _ (by decide) _ _, rfl⟩

end OpenSpdm
