import OpenSpdm.Context

/-!
# The measurement summary hash

A `CHALLENGE` names the measurements its `CHALLENGE_AUTH` must summarise: none, the
immutable-ROM ones, or all. `SpdmGenerateMeasurementSummaryHash` asks the host for
the measurement record, a count of DMTF blocks laid end to end, and hashes the
`Measurement` fields (the DMTF header and the value) of the selected blocks, which
it first gathers into the local array `MeasurementData`.

It walks the record twice. The first walk checks the blocks and adds up their
sizes; the second copies the selected blocks, but it advances the write offset
`MeasurmentDataSize` past every block, copied or not. So the hashed bytes are not
the selected blocks end to end: where a block was skipped they hold whatever
`MeasurementData` held before, an array the function never initialises
(`OpenSpdm.hashedMeasurementData_eq`). The model takes those prior contents as an
argument. Only when every block is selected does the hash cover what the
specification asks for (`OpenSpdm.spdmGenerateMeasurementSummaryHash_of_all`,
`OpenSpdm.spdmGenerateMeasurementSummaryHash_of_immutableRom`); a record that mixes
a skipped block with a selected one shows the gap
(`OpenSpdm.spdmGenerateMeasurementSummaryHash_mixedRecord`).

The block layout is the DMTF one the specification prescribes; the header that
declares it is not among the sources.
-/

namespace OpenSpdm

/-! ### The DMTF measurement block -/

/-- `sizeof (SPDM_MEASUREMENT_BLOCK_COMMON_HEADER)`: `Index`,
`MeasurementSpecification` and the 16-bit `MeasurementSize`. -/
def spdmMeasurementBlockCommonHeaderSize : Nat := 4

/-- `sizeof (SPDM_MEASUREMENT_BLOCK_DMTF_HEADER)`: the value type and the 16-bit
value size. -/
def spdmMeasurementBlockDmtfHeaderSize : Nat := 3

/-- `SPDM_MEASUREMENT_BLOCK_MEASUREMENT_TYPE_MASK`. -/
def spdmMeasurementBlockMeasurementTypeMask : UInt8 := 0x7F

/-- `SPDM_MEASUREMENT_BLOCK_MEASUREMENT_TYPE_IMMUTABLE_ROM`. -/
def spdmMeasurementBlockMeasurementTypeImmutableRom : UInt8 := 0

/-- A DMTF measurement block. Its `MeasurementSize` is a `UINT16`, which bounds the
value. -/
structure MeasurementBlock where
  index : UInt8
  measurementSpecification : UInt8
  /-- `DMTFSpecMeasurementValueType`. -/
  valueType : UInt8
  /-- `DMTFSpecMeasurementValue`, `DMTFSpecMeasurementValueSize` bytes. -/
  value : List UInt8
  measurementSize_lt : spdmMeasurementBlockDmtfHeaderSize + value.length < 2 ^ 16

/-- The block's `Measurement` field, the DMTF header and the value:
`MeasurementSize` bytes. -/
def MeasurementBlock.measurement (b : MeasurementBlock) : List UInt8 :=
  b.valueType :: (writeUInt16 (UInt16.ofNat b.value.length) ++ b.value)

/-- The block as the record lays it out. -/
def MeasurementBlock.encode (b : MeasurementBlock) : List UInt8 :=
  [b.index, b.measurementSpecification] ++ writeUInt16 (UInt16.ofNat b.measurement.length) ++
    b.measurement

/-- A record of blocks laid end to end. -/
def encodeMeasurementRecord : List MeasurementBlock → List UInt8
  | [] => []
  | b :: bs => b.encode ++ encodeMeasurementRecord bs

/-- Whether the summary of a given kind takes a block: every block for all
measurements, the immutable-ROM blocks for the TCB components. -/
def MeasurementBlock.isSelected (allMeasurements : Bool) (b : MeasurementBlock) : Bool :=
  allMeasurements ||
    b.valueType &&& spdmMeasurementBlockMeasurementTypeMask ==
      spdmMeasurementBlockMeasurementTypeImmutableRom

/-- What the specification says a summary hash covers: the `Measurement` fields of
the selected blocks, in record order. -/
def measurementSummary (allMeasurements : Bool) : List MeasurementBlock → List UInt8
  | [] => []
  | b :: bs =>
    (if b.isSelected allMeasurements then b.measurement else []) ++
      measurementSummary allMeasurements bs

@[simp] theorem MeasurementBlock.length_measurement (b : MeasurementBlock) :
    b.measurement.length = spdmMeasurementBlockDmtfHeaderSize + b.value.length := by
  simp [MeasurementBlock.measurement, spdmMeasurementBlockDmtfHeaderSize]; omega

@[simp] theorem MeasurementBlock.length_encode (b : MeasurementBlock) :
    b.encode.length = spdmMeasurementBlockCommonHeaderSize + b.measurement.length := by
  simp [MeasurementBlock.encode, spdmMeasurementBlockCommonHeaderSize]; omega

/-! ### The two walks over the record -/

/-- The fields of the block at `Offset` that the walks read: `MeasurementSize`,
`DMTFSpecMeasurementValueType` and `DMTFSpecMeasurementValueSize`; `none` when the
block's headers run past the bytes the host returned, which the code does not
define. -/
def readMeasurementBlockHeader (record : List UInt8) (offset : Nat) :
    Option (Nat × UInt8 × Nat) :=
  (readBytes record offset
      (spdmMeasurementBlockCommonHeaderSize + spdmMeasurementBlockDmtfHeaderSize)).map fun header =>
    ((readUInt16 (header.drop 2)).toNat, header.getD 4 0, (readUInt16 (header.drop 5)).toNat)

/-- The first walk: the sum of the `MeasurementSize` fields of `Count` blocks from
`Offset`; `none` when `ASSERT (MeasurementSize == sizeof (DMTF header) + ValueSize)`
fails. -/
def measurementRecordSize (record : List UInt8) : Nat → Nat → Option Nat
  | 0, _ => some 0
  | n + 1, offset =>
    (readMeasurementBlockHeader record offset).bind fun (measurementSize, _, valueSize) =>
      if measurementSize ≠ spdmMeasurementBlockDmtfHeaderSize + valueSize then none
      else (measurementRecordSize record n
        (offset + spdmMeasurementBlockCommonHeaderSize + measurementSize)).map (measurementSize + ·)

/-- `CopyMem (&Buffer[Offset], Bytes, Size)`. -/
def writeBytes (buf : List UInt8) (offset : Nat) (bytes : List UInt8) : List UInt8 :=
  buf.take offset ++ bytes ++ buf.drop (offset + bytes.length)

/-- The second walk over `Count` blocks from `Offset`: a selected block's
`Measurement` field is copied to `MeasurementData[MeasurmentDataSize]`, and
`MeasurmentDataSize` advances past every block. -/
def copyMeasurementData (allMeasurements : Bool) (record : List UInt8) :
    Nat → Nat → List UInt8 → Nat → Option (List UInt8 × Nat)
  | 0, _, data, size => some (data, size)
  | n + 1, offset, data, size =>
    (readMeasurementBlockHeader record offset).bind fun (measurementSize, valueType, _) =>
      let copied :=
        if allMeasurements || valueType &&& spdmMeasurementBlockMeasurementTypeMask ==
            spdmMeasurementBlockMeasurementTypeImmutableRom then
          (readBytes record (offset + spdmMeasurementBlockCommonHeaderSize) measurementSize).map
            (writeBytes data size)
        else some data
      copied.bind fun data =>
        copyMeasurementData allMeasurements record n
          (offset + spdmMeasurementBlockCommonHeaderSize + measurementSize) data
          (size + measurementSize)

/-- `SpdmGenerateMeasurementSummaryHash`, with `measurementData` the contents of the
array `MeasurementData` before the call: the summary hash, `FALSE` (`some none`), or
`none` where an `ASSERT` fails or the walk reads past the record. -/
def spdmGenerateMeasurementSummaryHash (cfg : SpdmLibConfig) (crypto : SpdmCrypto)
    (ctx : SpdmDeviceContext) (measurementData : List UInt8) (measurementSummaryHashType : UInt8) :
    Option (Option (List UInt8)) :=
  let algorithm := ctx.connectionInfo.algorithm
  if measurementSummaryHashType = spdmChallengeRequestNoMeasurementSummaryHash then
    some (some (List.replicate (crypto.hashSize algorithm.baseHashAlgo) 0))
  else if measurementSummaryHashType = spdmChallengeRequestTcbComponentMeasurementHash ∨
      measurementSummaryHashType = spdmChallengeRequestAllMeasurementsHash then
    match crypto.measurementCollection algorithm.measurementSpec algorithm.measurementHashAlgo with
    | none => some none
    | some (deviceMeasurementCount, deviceMeasurement) =>
      if deviceMeasurementCount.toNat > cfg.maxSpdmMeasurementBlockCount then none else
      (measurementRecordSize deviceMeasurement deviceMeasurementCount.toNat 0).bind fun total =>
        if total > cfg.maxSpdmMeasurementRecordSize then none else
        (copyMeasurementData
            (measurementSummaryHashType == spdmChallengeRequestAllMeasurementsHash)
            deviceMeasurement deviceMeasurementCount.toNat 0 measurementData 0).map
          fun (data, size) => some (crypto.hashAll algorithm.baseHashAlgo (data.take size))
  else some none

/-- A summary hash, when there is one, has the size of a digest of the base hash: the
size of the field a `CHALLENGE_AUTH` keeps for it. -/
theorem length_of_spdmGenerateMeasurementSummaryHash {cfg : SpdmLibConfig} {crypto : SpdmCrypto}
    {ctx : SpdmDeviceContext} {measurementData : List UInt8} {t : UInt8}
    {measurementSummaryHash : List UInt8}
    (h : spdmGenerateMeasurementSummaryHash cfg crypto ctx measurementData t =
      some (some measurementSummaryHash)) :
    measurementSummaryHash.length = crypto.hashSize ctx.connectionInfo.algorithm.baseHashAlgo := by
  unfold spdmGenerateMeasurementSummaryHash at h
  dsimp only at h
  split_ifs at h
  · cases h; simp
  · split at h
    · cases h
    · split_ifs at h
      obtain ⟨total, -, h⟩ := Option.bind_eq_some.mp h
      split_ifs at h
      obtain ⟨⟨data, size⟩, -, hsome⟩ := Option.map_eq_some'.mp h
      cases hsome
      exact crypto.hashAll_length _ _
  · cases h

/-! ### The walks over a well-formed record -/

/-- The bytes of `MeasurementData` the hash covers, as the second walk leaves them:
a selected block's `Measurement` field, and for a skipped block as many bytes of
what the array held before. -/
def gappedMeasurementSummary (allMeasurements : Bool) :
    List UInt8 → List MeasurementBlock → List UInt8
  | _, [] => []
  | prior, b :: bs =>
    (if b.isSelected allMeasurements then b.measurement else prior.take b.measurement.length) ++
      gappedMeasurementSummary allMeasurements (prior.drop b.measurement.length) bs

/-- The sum of the `MeasurementSize` fields of a record. -/
def measurementDataSize (bs : List MeasurementBlock) : Nat := (bs.map (·.measurement.length)).sum

theorem measurementDataSize_le_length (bs : List MeasurementBlock) :
    measurementDataSize bs ≤ (encodeMeasurementRecord bs).length := by
  induction bs with
  | nil => simp [measurementDataSize]
  | cons b bs ih =>
    simp only [measurementDataSize, List.map_cons, List.sum_cons] at ih ⊢
    simp only [encodeMeasurementRecord, List.length_append, MeasurementBlock.length_encode]
    omega

theorem readMeasurementBlockHeader_encode (pre rest : List UInt8) (b : MeasurementBlock) :
    readMeasurementBlockHeader (pre ++ (b.encode ++ rest)) pre.length =
      some (b.measurement.length, b.valueType, b.value.length) := by
  have hm : 3 + b.value.length < 2 ^ 16 := b.measurementSize_lt
  rw [readMeasurementBlockHeader, readBytes_of_le (by simp; omega), List.drop_left]
  simp only [MeasurementBlock.encode, MeasurementBlock.measurement, writeUInt16, readUInt16,
    List.cons_append, List.singleton_append, List.nil_append, List.take_succ_cons, List.take_zero,
    List.drop_succ_cons, List.drop_zero, List.getD_cons_zero, List.getD_cons_succ,
    Option.map_some', uint8_toNat_ofNat, uint16_toNat_ofNat, spdmMeasurementBlockCommonHeaderSize,
    spdmMeasurementBlockDmtfHeaderSize]
  simp only [Option.some.injEq, Prod.mk.injEq, List.length_cons, List.length_append,
    List.length_cons, List.length_nil, true_and]
  constructor <;> omega

theorem readBytes_measurement (pre rest : List UInt8) (b : MeasurementBlock) :
    readBytes (pre ++ (b.encode ++ rest)) (pre.length + spdmMeasurementBlockCommonHeaderSize)
      b.measurement.length = some b.measurement := by
  have hsplit : pre ++ (b.encode ++ rest) = (pre ++ [b.index, b.measurementSpecification] ++
      writeUInt16 (UInt16.ofNat b.measurement.length)) ++ (b.measurement ++ rest) := by
    simp [MeasurementBlock.encode]
  have hoff : pre.length + spdmMeasurementBlockCommonHeaderSize = (pre ++
      [b.index, b.measurementSpecification] ++ writeUInt16 (UInt16.ofNat b.measurement.length)).length := by
    simp [spdmMeasurementBlockCommonHeaderSize]
  rw [hsplit, hoff, readBytes_of_le (by simp; omega), List.drop_left, List.take_left]

/-- The first walk over a well-formed record adds up the `MeasurementSize` fields. -/
theorem measurementRecordSize_encode (bs : List MeasurementBlock) :
    ∀ pre rest : List UInt8,
      measurementRecordSize (pre ++ (encodeMeasurementRecord bs ++ rest)) bs.length pre.length =
        some (measurementDataSize bs) := by
  induction bs with
  | nil => intro pre rest; rfl
  | cons b bs ih =>
    intro pre rest
    have hnext := ih (pre ++ b.encode) rest
    simp only [List.length_append, MeasurementBlock.length_encode, List.append_assoc] at hnext
    simp only [encodeMeasurementRecord, List.append_assoc, List.length_cons, measurementRecordSize,
      readMeasurementBlockHeader_encode, Option.some_bind, MeasurementBlock.length_measurement,
      ne_eq, not_true_eq_false, ↓reduceIte]
    rw [Nat.add_assoc, ← MeasurementBlock.length_measurement, hnext]
    simp [measurementDataSize]

section WriteBytes

variable {buf bytes : List UInt8} {offset : Nat} (h : offset + bytes.length ≤ buf.length)
include h

theorem length_writeBytes : (writeBytes buf offset bytes).length = buf.length := by
  simp [writeBytes]; omega

theorem take_writeBytes :
    (writeBytes buf offset bytes).take (offset + bytes.length) = buf.take offset ++ bytes := by
  simp [writeBytes, List.take_append_eq_append_take, show offset ≤ buf.length by omega]

theorem drop_writeBytes :
    (writeBytes buf offset bytes).drop (offset + bytes.length) =
      buf.drop (offset + bytes.length) := by
  simp [writeBytes, List.drop_append_eq_append_drop, show offset ≤ buf.length by omega]

/-- A block's copy, made or skipped: the array keeps its length, holds up to the block's
end the copied field or what was there, and is unchanged after it. -/
theorem writeBytesIf_spec (copy : Bool) :
    (if copy then writeBytes buf offset bytes else buf).length = buf.length ∧
    (if copy then writeBytes buf offset bytes else buf).take (offset + bytes.length) =
      buf.take offset ++ (if copy then bytes else (buf.drop offset).take bytes.length) ∧
    (if copy then writeBytes buf offset bytes else buf).drop (offset + bytes.length) =
      (buf.drop offset).drop bytes.length := by
  rw [List.drop_drop]
  cases copy
  · exact ⟨rfl, List.take_add _ _ _, rfl⟩
  · exact ⟨length_writeBytes h, take_writeBytes h, drop_writeBytes h⟩

end WriteBytes

/-- **The second walk over a well-formed record**: the bytes it leaves before the
final `MeasurmentDataSize` are the selected fields, and the prior contents of the
array wherever a block was skipped. -/
theorem copyMeasurementData_encode (allMeasurements : Bool) (bs : List MeasurementBlock) :
    ∀ (pre rest data : List UInt8) (size : Nat), size + measurementDataSize bs ≤ data.length →
      ∃ data', copyMeasurementData allMeasurements (pre ++ (encodeMeasurementRecord bs ++ rest))
          bs.length pre.length data size = some (data', size + measurementDataSize bs) ∧
        data'.take (size + measurementDataSize bs) =
          data.take size ++ gappedMeasurementSummary allMeasurements (data.drop size) bs := by
  induction bs with
  | nil =>
    intro pre rest data size _
    exact ⟨data, rfl, by simp [measurementDataSize, gappedMeasurementSummary]⟩
  | cons b bs ih =>
    intro pre rest data size hlen
    simp only [measurementDataSize, List.map_cons, List.sum_cons] at hlen
    have hfit : size + b.measurement.length ≤ data.length := by omega
    obtain ⟨hlen₁, htake, hdrop⟩ := writeBytesIf_spec hfit (b.isSelected allMeasurements)
    obtain ⟨data', hcopy, htake'⟩ := ih (pre ++ b.encode) rest
      (if b.isSelected allMeasurements then writeBytes data size b.measurement else data)
      (size + b.measurement.length) (by simp only [measurementDataSize, hlen₁]; omega)
    refine ⟨data', ?_, ?_⟩
    · have hoff : pre.length + spdmMeasurementBlockCommonHeaderSize + b.measurement.length =
          (pre ++ b.encode).length := by
        simp only [List.length_append, MeasurementBlock.length_encode]; omega
      simp only [encodeMeasurementRecord, List.append_assoc, List.length_cons, copyMeasurementData,
        readMeasurementBlockHeader_encode, Option.some_bind]
      rw [show (allMeasurements || b.valueType &&& spdmMeasurementBlockMeasurementTypeMask ==
          spdmMeasurementBlockMeasurementTypeImmutableRom) = b.isSelected allMeasurements from rfl,
        readBytes_measurement, Option.map_some', ← apply_ite some, Option.some_bind, hoff,
        ← List.append_assoc, hcopy]
      simp [measurementDataSize, Nat.add_assoc]
    · have hsum : measurementDataSize (b :: bs) = b.measurement.length + measurementDataSize bs := by
        simp [measurementDataSize]
      rw [hsum, ← Nat.add_assoc, htake', htake, hdrop, gappedMeasurementSummary, List.append_assoc]

/-- Where every block is selected, the second walk leaves the specified summary. -/
theorem gappedMeasurementSummary_of_selected {allMeasurements : Bool} {bs : List MeasurementBlock}
    (h : ∀ b ∈ bs, b.isSelected allMeasurements) (prior : List UInt8) :
    gappedMeasurementSummary allMeasurements prior bs = measurementSummary allMeasurements bs := by
  induction bs generalizing prior with
  | nil => rfl
  | cons b bs ih =>
    simp only [gappedMeasurementSummary, measurementSummary, h b (.head _), if_true,
      ih (fun b' hb' => h b' (.tail _ hb'))]

/-! ### The summary hash of a well-formed record -/

section WellFormed

variable {cfg : SpdmLibConfig} {crypto : SpdmCrypto} {ctx : SpdmDeviceContext}
  {measurementData : List UInt8} {count : UInt8} {blocks : List MeasurementBlock}
  (hcollect : crypto.measurementCollection ctx.connectionInfo.algorithm.measurementSpec
    ctx.connectionInfo.algorithm.measurementHashAlgo = some (count, encodeMeasurementRecord blocks))
  (hcount : count.toNat = blocks.length)
  (hmax : blocks.length ≤ cfg.maxSpdmMeasurementBlockCount)
  (hrecord : (encodeMeasurementRecord blocks).length ≤ cfg.maxSpdmMeasurementRecordSize)
  (hdata : cfg.maxSpdmMeasurementRecordSize ≤ measurementData.length)
include hcollect hcount hmax hrecord hdata

/-- **What the summary hash covers**: for a well-formed record of `Count` blocks
within the maxima, the hash of the selected blocks' fields with the array's prior
contents in the place of every skipped block. -/
theorem hashedMeasurementData_eq {t : UInt8}
    (ht : t = spdmChallengeRequestTcbComponentMeasurementHash ∨
      t = spdmChallengeRequestAllMeasurementsHash) :
    spdmGenerateMeasurementSummaryHash cfg crypto ctx measurementData t =
      some (some (crypto.hashAll ctx.connectionInfo.algorithm.baseHashAlgo
        (gappedMeasurementSummary (t == spdmChallengeRequestAllMeasurementsHash) measurementData
          blocks))) := by
  have hne : t ≠ spdmChallengeRequestNoMeasurementSummaryHash := by
    rcases ht with rfl | rfl <;> decide
  have hsize : measurementRecordSize (encodeMeasurementRecord blocks) blocks.length 0 =
      some (measurementDataSize blocks) := by
    simpa using measurementRecordSize_encode blocks [] []
  have hle := measurementDataSize_le_length blocks
  obtain ⟨data', hcopy, htake⟩ := copyMeasurementData_encode
    (t == spdmChallengeRequestAllMeasurementsHash) blocks [] [] measurementData 0 (by omega)
  simp only [List.nil_append, List.append_nil, List.length_nil, Nat.zero_add, List.take_zero,
    List.drop_zero] at hcopy htake
  simp only [spdmGenerateMeasurementSummaryHash, hne, ht, hcollect, hcount, hsize, hcopy, htake,
    if_false, if_true, show ¬blocks.length > cfg.maxSpdmMeasurementBlockCount by omega,
    show ¬measurementDataSize blocks > cfg.maxSpdmMeasurementRecordSize by omega,
    Option.some_bind, Option.map_some']

/-- For all measurements the hash covers every block's field, as specified. -/
theorem spdmGenerateMeasurementSummaryHash_of_all :
    spdmGenerateMeasurementSummaryHash cfg crypto ctx measurementData
        spdmChallengeRequestAllMeasurementsHash =
      some (some (crypto.hashAll ctx.connectionInfo.algorithm.baseHashAlgo
        (measurementSummary true blocks))) := by
  rw [hashedMeasurementData_eq hcollect hcount hmax hrecord hdata (.inr rfl), beq_self_eq_true,
    gappedMeasurementSummary_of_selected (fun _ _ => Bool.true_or _)]

/-- For the TCB components the hash covers what is specified when every block is an
immutable-ROM one. -/
theorem spdmGenerateMeasurementSummaryHash_of_immutableRom
    (hrom : ∀ b ∈ blocks, b.isSelected false) :
    spdmGenerateMeasurementSummaryHash cfg crypto ctx measurementData
        spdmChallengeRequestTcbComponentMeasurementHash =
      some (some (crypto.hashAll ctx.connectionInfo.algorithm.baseHashAlgo
        (measurementSummary false blocks))) := by
  rw [hashedMeasurementData_eq hcollect hcount hmax hrecord hdata (.inl rfl),
    show (spdmChallengeRequestTcbComponentMeasurementHash ==
      spdmChallengeRequestAllMeasurementsHash) = false from rfl,
    gappedMeasurementSummary_of_selected hrom]

end WellFormed

/-- A mutable-firmware block and an immutable-ROM block, each with a one-byte value. -/
def sampleMeasurementBlocks : List MeasurementBlock :=
  [⟨1, 1, 1, [0xAA], by decide⟩, ⟨2, 1, 0, [0xBB], by decide⟩]

/-- A host whose measurement record is `OpenSpdm.sampleMeasurementBlocks`. -/
def sampleMeasurementCrypto : SpdmCrypto :=
  { sampleSpdmCrypto with
    measurementCollection := fun _ _ => some (2, encodeMeasurementRecord sampleMeasurementBlocks) }

theorem spdmGenerateMeasurementSummaryHash_of_all_sample :
    sampleMeasurementCrypto.measurementCollection
        (spdmInitContext typicalSpdmLibConfig 0 0).connectionInfo.algorithm.measurementSpec
        (spdmInitContext typicalSpdmLibConfig 0 0).connectionInfo.algorithm.measurementHashAlgo =
      some (2, encodeMeasurementRecord sampleMeasurementBlocks) ∧
    (2 : UInt8).toNat = sampleMeasurementBlocks.length ∧
    sampleMeasurementBlocks.length ≤ typicalSpdmLibConfig.maxSpdmMeasurementBlockCount ∧
    (encodeMeasurementRecord sampleMeasurementBlocks).length ≤
      typicalSpdmLibConfig.maxSpdmMeasurementRecordSize ∧
    typicalSpdmLibConfig.maxSpdmMeasurementRecordSize ≤
      (List.replicate typicalSpdmLibConfig.maxSpdmMeasurementRecordSize (0x5A : UInt8)).length ∧
    spdmGenerateMeasurementSummaryHash typicalSpdmLibConfig sampleMeasurementCrypto
        (spdmInitContext typicalSpdmLibConfig 0 0)
        (List.replicate typicalSpdmLibConfig.maxSpdmMeasurementRecordSize 0x5A)
        spdmChallengeRequestAllMeasurementsHash =
      some (some (sampleMeasurementCrypto.hashAll
        (spdmInitContext typicalSpdmLibConfig 0 0).connectionInfo.algorithm.baseHashAlgo
        (measurementSummary true sampleMeasurementBlocks))) := by
  have hcollect : sampleMeasurementCrypto.measurementCollection
      (spdmInitContext typicalSpdmLibConfig 0 0).connectionInfo.algorithm.measurementSpec
      (spdmInitContext typicalSpdmLibConfig 0 0).connectionInfo.algorithm.measurementHashAlgo =
    some (2, encodeMeasurementRecord sampleMeasurementBlocks) := rfl
  have hcount : (2 : UInt8).toNat = sampleMeasurementBlocks.length := rfl
  have hmax : sampleMeasurementBlocks.length ≤ typicalSpdmLibConfig.maxSpdmMeasurementBlockCount := by
    decide
  have hrecord : (encodeMeasurementRecord sampleMeasurementBlocks).length ≤
      typicalSpdmLibConfig.maxSpdmMeasurementRecordSize := by
    decide
  have hdata : typicalSpdmLibConfig.maxSpdmMeasurementRecordSize ≤
      (List.replicate typicalSpdmLibConfig.maxSpdmMeasurementRecordSize (0x5A : UInt8)).length :=
    (List.length_replicate _ _).ge
  exact ⟨hcollect, hcount, hmax, hrecord, hdata,
    spdmGenerateMeasurementSummaryHash_of_all hcollect hcount hmax hrecord hdata⟩

/-- A mutable-firmware block and then an immutable-ROM block, each with a one-byte
value, gathered into an array that held `0x5A` bytes: the TCB summary hashes eight
bytes, the first four of them the array's prior contents, where the specification
asks for the ROM block's four bytes alone. -/
theorem spdmGenerateMeasurementSummaryHash_mixedRecord :
    let firmware : MeasurementBlock := ⟨1, 1, 1, [0xAA], by decide⟩
    let rom : MeasurementBlock := ⟨2, 1, 0, [0xBB], by decide⟩
    let crypto : SpdmCrypto := { sampleSpdmCrypto with
      measurementCollection := fun _ _ => some (2, encodeMeasurementRecord [firmware, rom]) }
    spdmGenerateMeasurementSummaryHash { typicalSpdmLibConfig with maxSpdmMeasurementRecordSize := 16 }
        crypto {} (List.replicate 16 0x5A) spdmChallengeRequestTcbComponentMeasurementHash =
      some (some (crypto.hashAll 0
        ([0x5A, 0x5A, 0x5A, 0x5A] ++ measurementSummary false [firmware, rom]))) ∧
    crypto.hashAll 0 ([0x5A, 0x5A, 0x5A, 0x5A] ++ measurementSummary false [firmware, rom]) ≠
      crypto.hashAll 0 (measurementSummary false [firmware, rom]) := by
  intro firmware rom crypto
  exact ⟨by decide, by decide⟩

end OpenSpdm
