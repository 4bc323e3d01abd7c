import OpenSpdm.ManagedBuffer

/-!
# The dump tool's reading of secured-message opaque data

`KEY_EXCHANGE` and `PSK_EXCHANGE` carry opaque data in the secured-message
"general opaque data table": an 8-byte header with `SpecId = "DMTF"`, a version and
an element count, then the elements, each a 4-byte table header (registry `Id`,
`VendorLen`, `OpaqueElementDataLen`) and its data, which starts with the element
header (`SMDataVersion`, `SMDataID`). `DumpSpdmOpaqueData` of the `SpdmDump` tool
walks such a table and prints each element, dispatching on `SMDataID` to
`DumpSpdmOpaqueVersionSelection` and `DumpSpdmOpaqueSupportedVersion`
(`OpenSpdm.dumpSpdmOpaqueData`).

The walk is a parser with early exits. It gives up on a table shorter than its
header or with another `SpecId`, and it stops at the first element that is not
a DMTF element without vendor id, whose data runs past the opaque data, or whose
data is too short for an element header. The element's line is printed before that
last check. The walk reads the elements back to back.

## What is proved

| theorem | content |
|---|---|
| `OpenSpdm.dumpSpdmOpaqueData_ne_none` | no input makes the dump read outside the opaque data |
| `OpenSpdm.dumpSpdmOpaqueData_encode` | a table laid out from a list of elements is read back element by element, whatever follows it |

The layouts of the secured-message structures are in a header that is not among
the sources; they are modelled from the secured-message specification, packed and
little-endian. `DumpDispatchMessage` is not among the sources either: it calls the
dump function of the entry whose id matches, and an id without an entry is reported
as unknown. What `printf` prints is kept as data (`OpenSpdm.OpaqueDataDump`), not as
text.
-/

namespace OpenSpdm

/-! ### The layout -/

/-- `SECURED_MESSAGE_OPAQUE_DATA_SPEC_ID`, the bytes `"DMTF"` read as a `UINT32`. -/
def securedMessageOpaqueDataSpecId : UInt32 := 0x444D5446

/-- `SPDM_REGISTRY_ID_DMTF`. -/
def spdmRegistryIdDmtf : UInt8 := 0

/-- `SECURED_MESSAGE_OPAQUE_ELEMENT_SMDATA_ID_VERSION_SELECTION`. -/
def securedMessageOpaqueElementSmdataIdVersionSelection : UInt8 := 0

/-- `SECURED_MESSAGE_OPAQUE_ELEMENT_SMDATA_ID_SUPPORTED_VERSION`. -/
def securedMessageOpaqueElementSmdataIdSupportedVersion : UInt8 := 1

/-- `sizeof (SECURED_MESSAGE_GENERAL_OPAQUE_DATA_TABLE_HEADER)`: `SpecId`,
`OpaqueVersion`, `TotalElements` and two reserved bytes. -/
def securedMessageGeneralOpaqueDataTableHeaderSize : Nat := 8

/-- `sizeof (SECURED_MESSAGE_OPAQUE_ELEMENT_TABLE_HEADER)`: `Id`, `VendorLen` and
`OpaqueElementDataLen`. -/
def securedMessageOpaqueElementTableHeaderSize : Nat := 4

/-- `sizeof (SECURED_MESSAGE_OPAQUE_ELEMENT_HEADER)`: `SMDataVersion` and `SMDataID`. -/
def securedMessageOpaqueElementHeaderSize : Nat := 2

/-- `sizeof (SECURED_MESSAGE_OPAQUE_ELEMENT_VERSION_SELECTION)`: the element header
and `SelectedVersion`. -/
def securedMessageOpaqueElementVersionSelectionSize : Nat := 4

/-- `sizeof (SECURED_MESSAGE_OPAQUE_ELEMENT_SUPPORTED_VERSION)`: the element header
and `VersionCount`. -/
def securedMessageOpaqueElementSupportedVersionSize : Nat := 3

/-- `sizeof (SPDM_VERSION_NUMBER)`. -/
def spdmVersionNumberSize : Nat := 2

/-! ### What the dump prints -/

/-- What the dispatch prints of an element's data. An `SPDM_VERSION_NUMBER` is kept
as the `UINT16` whose four nibbles `printf` shows as `Major.Minor.Update.Alpha`. -/
inductive OpaqueElementContent
  /-- `VERSION_SELECTION (…)`: the selected version. -/
  | versionSelection (selectedVersion : UInt16)
  /-- `SUPPORTED_VERSION (…)`: the versions of the list, in order. -/
  | supportedVersion (versions : List UInt16)
  /-- The dump function returned before printing, its buffer too short. -/
  | nothing
  /-- An `SMDataID` without an entry in `mSpdmOpaqueDispatch`. -/
  | unknown (smDataId : UInt8)
  deriving DecidableEq, Repr

/-- One `SecuredMessageOpaqueElement_%d(Id, Len)` line, with what follows it when the
element's data holds an element header: its `SMDataVersion`, its `SMDataID` and what
the dispatch printed. -/
structure OpaqueElementLine where
  index : Nat
  id : UInt8
  len : UInt16
  element : Option (UInt8 × UInt8 × OpaqueElementContent)
  deriving DecidableEq, Repr

/-- What `DumpSpdmOpaqueData` prints of a table whose header it accepted: the
`OpaqueVersion` and `TotalElements` of the header, and the element lines. -/
structure OpaqueDataDump where
  opaqueVersion : UInt8
  totalElements : UInt8
  elements : List OpaqueElementLine
  deriving DecidableEq, Repr

/-! ### The dump, function by function -/

/-- `DumpSpdmOpaqueVersionSelection (Buffer, BufferSize)`; `none` where it reads past
the buffer. -/
def dumpSpdmOpaqueVersionSelection (buffer : List UInt8) : Option OpaqueElementContent :=
  if buffer.length < securedMessageOpaqueElementVersionSelectionSize then some .nothing else
  (readBytes buffer securedMessageOpaqueElementHeaderSize spdmVersionNumberSize).map fun v =>
    .versionSelection (readUInt16 v)

/-- The `VersionCount` entries of `SPDM_VERSION_NUMBER` from `offset` on. -/
def readVersionNumbers (buffer : List UInt8) : Nat → Nat → Option (List UInt16)
  | _, 0 => some []
  | offset, n + 1 => (readBytes buffer offset spdmVersionNumberSize).bind fun v =>
      (readVersionNumbers buffer (offset + spdmVersionNumberSize) n).map (readUInt16 v :: ·)

/-- `DumpSpdmOpaqueSupportedVersion (Buffer, BufferSize)`; `none` where it reads past
the buffer. -/
def dumpSpdmOpaqueSupportedVersion (buffer : List UInt8) : Option OpaqueElementContent :=
  if buffer.length < securedMessageOpaqueElementSupportedVersionSize then some .nothing else
  (readBytes buffer securedMessageOpaqueElementHeaderSize 1).bind fun count =>
  let versionCount := (count.getD 0 0).toNat
  if buffer.length < securedMessageOpaqueElementSupportedVersionSize +
      versionCount * spdmVersionNumberSize then some .nothing else
  (readVersionNumbers buffer securedMessageOpaqueElementSupportedVersionSize versionCount).map
    .supportedVersion

/-- `DumpDispatchMessage (mSpdmOpaqueDispatch, …, SMDataID, Element, Len)`. -/
def dumpOpaqueElement (smDataId : UInt8) (element : List UInt8) : Option OpaqueElementContent :=
  if smDataId = securedMessageOpaqueElementSmdataIdVersionSelection then
    dumpSpdmOpaqueVersionSelection element
  else if smDataId = securedMessageOpaqueElementSmdataIdSupportedVersion then
    dumpSpdmOpaqueSupportedVersion element
  else some (.unknown smDataId)

/-- The loop of `DumpSpdmOpaqueData`, with `remaining` turns of
`Index < TotalElements` left, at element `index`, whose table header is at `offset`
of the opaque data: the lines it prints, `none` where it reads past the opaque data. -/
def dumpOpaqueElements (opaqueData : List UInt8) : Nat → Nat → Nat → Option (List OpaqueElementLine)
  | 0, _, _ => some []
  | remaining + 1, index, offset =>
    if offset + securedMessageOpaqueElementTableHeaderSize > opaqueData.length then some [] else
    (readBytes opaqueData offset securedMessageOpaqueElementTableHeaderSize).bind fun header =>
    let id := header.getD 0 0
    let len := readUInt16 (header.drop 2)
    if id ≠ spdmRegistryIdDmtf then some [] else
    if header.getD 1 0 ≠ 0 then some [] else
    let dataOffset := offset + securedMessageOpaqueElementTableHeaderSize
    if dataOffset + len.toNat > opaqueData.length then some [] else
    if len.toNat < securedMessageOpaqueElementHeaderSize then some [⟨index, id, len, none⟩] else
    (readBytes opaqueData dataOffset securedMessageOpaqueElementHeaderSize).bind fun elementHeader =>
    (readBytes opaqueData dataOffset len.toNat).bind fun element =>
    (dumpOpaqueElement (elementHeader.getD 1 0) element).bind fun content =>
    (dumpOpaqueElements opaqueData remaining (index + 1) (dataOffset + len.toNat)).map
      (⟨index, id, len, some (elementHeader.getD 0 0, elementHeader.getD 1 0, content)⟩ :: ·)

/-- `DumpSpdmOpaqueData (OpaqueData, OpaqueLength)`, the opaque data given as its
`OpaqueLength` bytes: what it prints, `none` inside for a table whose header it does
not accept, and `none` outside where it reads past the opaque data. -/
def dumpSpdmOpaqueData (opaqueData : List UInt8) : Option (Option OpaqueDataDump) :=
  if opaqueData.length < securedMessageGeneralOpaqueDataTableHeaderSize then some none else
  (readBytes opaqueData 0 securedMessageGeneralOpaqueDataTableHeaderSize).bind fun header =>
  if readUInt32 header ≠ securedMessageOpaqueDataSpecId then some none else
  (dumpOpaqueElements opaqueData (header.getD 5 0).toNat 0
      securedMessageGeneralOpaqueDataTableHeaderSize).map fun lines =>
    some ⟨header.getD 4 0, header.getD 5 0, lines⟩

/-! ### The dump stays inside the opaque data -/

/-- A check that returns early with a result never makes the whole `none`. -/
theorem ite_some_ne_none {α : Type} {c : Prop} [Decidable c] {a : α} {b : Option α}
    (h : ¬c → b ≠ none) : (if c then some a else b) ≠ none := by
  split
  · nofun
  · exact h ‹_›

theorem readVersionNumbers_ne_none {buffer : List UInt8} :
    ∀ {offset n : Nat}, offset + n * spdmVersionNumberSize ≤ buffer.length →
      readVersionNumbers buffer offset n ≠ none
  | _, 0, _ => nofun
  | offset, n + 1, h => by
    rw [readVersionNumbers, readBytes_of_le (by unfold spdmVersionNumberSize at h ⊢; omega)]
    simpa using readVersionNumbers_ne_none (by unfold spdmVersionNumberSize at h ⊢; omega)

theorem dumpSpdmOpaqueVersionSelection_ne_none (buffer : List UInt8) :
    dumpSpdmOpaqueVersionSelection buffer ≠ none := by
  unfold dumpSpdmOpaqueVersionSelection securedMessageOpaqueElementVersionSelectionSize
    securedMessageOpaqueElementHeaderSize spdmVersionNumberSize
  refine ite_some_ne_none fun h => ?_
  rw [readBytes_of_le (by omega)]
  nofun

theorem dumpSpdmOpaqueSupportedVersion_ne_none (buffer : List UInt8) :
    dumpSpdmOpaqueSupportedVersion buffer ≠ none := by
  unfold dumpSpdmOpaqueSupportedVersion securedMessageOpaqueElementSupportedVersionSize
    securedMessageOpaqueElementHeaderSize
  refine ite_some_ne_none fun h => ?_
  rw [readBytes_of_le (by omega), Option.some_bind]
  refine ite_some_ne_none fun hcount => ?_
  rw [Ne, Option.map_eq_none']
  exact readVersionNumbers_ne_none (by omega)

theorem dumpOpaqueElement_ne_none (smDataId : UInt8) (element : List UInt8) :
    dumpOpaqueElement smDataId element ≠ none := by
  unfold dumpOpaqueElement
  split_ifs
  · exact dumpSpdmOpaqueVersionSelection_ne_none element
  · exact dumpSpdmOpaqueSupportedVersion_ne_none element
  · nofun

/-- The loop reads only what its checks have put inside the opaque data. -/
theorem dumpOpaqueElements_ne_none (opaqueData : List UInt8) :
    ∀ remaining index offset, dumpOpaqueElements opaqueData remaining index offset ≠ none
  | 0, _, _ => Option.some_ne_none _
  | remaining + 1, index, offset => by
    rw [dumpOpaqueElements]
    refine ite_some_ne_none fun hheader => ?_
    rw [readBytes_of_le (by omega), Option.some_bind]
    refine ite_some_ne_none fun _ => ite_some_ne_none fun _ => ite_some_ne_none fun hend =>
      ite_some_ne_none fun hlen => ?_
    rw [readBytes_of_le (by omega), readBytes_of_le (by omega), Option.some_bind, Option.some_bind]
    obtain ⟨content, hcontent⟩ := Option.ne_none_iff_exists'.mp (dumpOpaqueElement_ne_none _ _)
    rw [hcontent, Option.some_bind, Ne, Option.map_eq_none']
    exact dumpOpaqueElements_ne_none opaqueData remaining (index + 1) _

/-- **The dump never reads outside the opaque data**: every check comes before the
read it guards, for every table, well formed or not. -/
theorem dumpSpdmOpaqueData_ne_none (opaqueData : List UInt8) :
    dumpSpdmOpaqueData opaqueData ≠ none := by
  unfold dumpSpdmOpaqueData
  refine ite_some_ne_none fun h => ?_
  rw [readBytes_of_le (by omega), Option.some_bind]
  refine ite_some_ne_none fun _ => ?_
  rw [Ne, Option.map_eq_none']
  exact dumpOpaqueElements_ne_none opaqueData _ _ _

/-! ### The table the specification lays out -/

/-- Modelled from the secured-message specification: the two elements of the DMTF
registry. -/
inductive SecuredMessageOpaqueElement
  /-- `VERSION_SELECTION`: the version the responder selected. -/
  | versionSelection (smDataVersion : UInt8) (selectedVersion : UInt16)
  /-- `SUPPORTED_VERSION`: the versions the requester supports. -/
  | supportedVersion (smDataVersion : UInt8) (versions : List UInt16)
  deriving DecidableEq, Repr

namespace SecuredMessageOpaqueElement

def smDataVersion : SecuredMessageOpaqueElement → UInt8
  | .versionSelection v _ | .supportedVersion v _ => v

def smDataId : SecuredMessageOpaqueElement → UInt8
  | .versionSelection _ _ => securedMessageOpaqueElementSmdataIdVersionSelection
  | .supportedVersion _ _ => securedMessageOpaqueElementSmdataIdSupportedVersion

/-- The element's data, `OpaqueElementDataLen` bytes: its element header and its
fields. -/
def data : SecuredMessageOpaqueElement → List UInt8
  | .versionSelection v selected =>
    [v, securedMessageOpaqueElementSmdataIdVersionSelection] ++ writeUInt16 selected
  | .supportedVersion v versions =>
    [v, securedMessageOpaqueElementSmdataIdSupportedVersion, UInt8.ofNat versions.length] ++
      versions.flatMap writeUInt16

/-- The element's table header: the DMTF registry, no vendor id, and the length of
its data. -/
def tableHeader (e : SecuredMessageOpaqueElement) : List UInt8 :=
  [spdmRegistryIdDmtf, 0] ++ writeUInt16 (UInt16.ofNat e.data.length)

/-- The element as it stands in the table. -/
def encode (e : SecuredMessageOpaqueElement) : List UInt8 := e.tableHeader ++ e.data

/-- What the dump should print of the element. -/
def content : SecuredMessageOpaqueElement → OpaqueElementContent
  | .versionSelection _ selected => .versionSelection selected
  | .supportedVersion _ versions => .supportedVersion versions

/-- The line the dump should print for the element at `index`. -/
def line (e : SecuredMessageOpaqueElement) (index : Nat) : OpaqueElementLine :=
  ⟨index, spdmRegistryIdDmtf, UInt16.ofNat e.data.length, some (e.smDataVersion, e.smDataId, e.content)⟩

/-- The element's fields fit their widths: `VersionCount` is a `UINT8`. -/
def Fits : SecuredMessageOpaqueElement → Prop
  | .versionSelection _ _ => True
  | .supportedVersion _ versions => versions.length < 2 ^ 8

instance : DecidablePred Fits
  | .versionSelection _ _ => inferInstanceAs (Decidable True)
  | .supportedVersion _ versions => inferInstanceAs (Decidable (versions.length < 2 ^ 8))

@[simp] theorem length_tableHeader (e : SecuredMessageOpaqueElement) : e.tableHeader.length = 4 := rfl

@[simp] theorem getD_tableHeader_zero (e : SecuredMessageOpaqueElement) :
    e.tableHeader.getD 0 0 = spdmRegistryIdDmtf := rfl

@[simp] theorem getD_tableHeader_one (e : SecuredMessageOpaqueElement) : e.tableHeader.getD 1 0 = 0 := rfl

@[simp] theorem readUInt16_drop_tableHeader (e : SecuredMessageOpaqueElement) :
    readUInt16 (e.tableHeader.drop 2) = UInt16.ofNat e.data.length :=
  readUInt16_writeUInt16_self _

theorem take_data (e : SecuredMessageOpaqueElement) : e.data.take 2 = [e.smDataVersion, e.smDataId] := by
  cases e <;> rfl

theorem length_data_of_fits {e : SecuredMessageOpaqueElement} (h : e.Fits) :
    securedMessageOpaqueElementHeaderSize ≤ e.data.length ∧ e.data.length < 2 ^ 16 := by
  cases e with
  | versionSelection => simp [data, securedMessageOpaqueElementHeaderSize]
  | supportedVersion v versions =>
    simp only [Fits] at h
    simp only [data, List.length_append, List.length_cons, List.length_nil, length_flatMap_writeUInt16,
      securedMessageOpaqueElementHeaderSize]
    omega

end SecuredMessageOpaqueElement

/-- The general opaque data table of the specification: the header with `SpecId`,
`OpaqueVersion` and `TotalElements`, then the elements back to back. -/
def encodeOpaqueData (opaqueVersion : UInt8) (elements : List SecuredMessageOpaqueElement) :
    List UInt8 :=
  writeUInt32 securedMessageOpaqueDataSpecId ++ [opaqueVersion, UInt8.ofNat elements.length, 0, 0] ++
    elements.flatMap SecuredMessageOpaqueElement.encode

/-! ### The dump reads the table back -/

theorem readVersionNumbers_flatMap (rest : List UInt8) :
    ∀ (pre : List UInt8) (versions : List UInt16),
      readVersionNumbers (pre ++ versions.flatMap writeUInt16 ++ rest) pre.length versions.length =
        some versions
  | _, [] => rfl
  | pre, v :: versions => by
    have hread : readBytes (pre ++ (writeUInt16 v ++ (versions.flatMap writeUInt16 ++ rest)))
        pre.length spdmVersionNumberSize = some (writeUInt16 v) :=
      (readBytes_append pre _ 0 2).trans (readBytes_append_self (writeUInt16 v) _)
    have hnext := readVersionNumbers_flatMap rest (pre ++ writeUInt16 v) versions
    simp only [List.flatMap_cons, List.append_assoc, List.length_append, length_writeUInt16] at hnext ⊢
    rw [List.length_cons, readVersionNumbers, hread, Option.some_bind, spdmVersionNumberSize, hnext,
      Option.map_some', readUInt16_writeUInt16_self]

namespace SecuredMessageOpaqueElement

/-- The dispatch prints what an element of the specification holds. -/
theorem dumpOpaqueElement_data {e : SecuredMessageOpaqueElement} (h : e.Fits) :
    dumpOpaqueElement e.smDataId e.data = some e.content := by
  cases e with
  | versionSelection v selected =>
    simp [dumpOpaqueElement, smDataId, dumpSpdmOpaqueVersionSelection, data, readBytes, content,
      securedMessageOpaqueElementVersionSelectionSize, securedMessageOpaqueElementHeaderSize, spdmVersionNumberSize,
      List.take_of_length_le (length_writeUInt16 selected).le]
  | supportedVersion v versions =>
    have hn : (UInt8.ofNat versions.length).toNat = versions.length := by
      rw [uint8_toNat_ofNat]; exact Nat.mod_eq_of_lt h
    have hlen : (supportedVersion v versions).data.length = 3 + versions.length * 2 := by
      simp only [data, List.length_append, List.length_cons, List.length_nil,
        length_flatMap_writeUInt16]
      omega
    have hversions := readVersionNumbers_flatMap []
      [v, securedMessageOpaqueElementSmdataIdSupportedVersion, UInt8.ofNat versions.length] versions
    rw [List.append_nil] at hversions
    rw [smDataId, dumpOpaqueElement, if_neg (by decide), if_pos rfl, dumpSpdmOpaqueSupportedVersion,
      hlen, if_neg (by unfold securedMessageOpaqueElementSupportedVersionSize; omega)]
    have hcount : readBytes (supportedVersion v versions).data securedMessageOpaqueElementHeaderSize 1 =
        some [UInt8.ofNat versions.length] := by
      rw [readBytes_of_le (by rw [hlen]; unfold securedMessageOpaqueElementHeaderSize; omega)]
      rfl
    rw [hcount, Option.some_bind]
    simp only [List.getD_cons_zero, hn]
    rw [if_neg (by unfold securedMessageOpaqueElementSupportedVersionSize spdmVersionNumberSize; omega)]
    rw [show readVersionNumbers (supportedVersion v versions).data
      securedMessageOpaqueElementSupportedVersionSize versions.length = some versions from hversions]
    rfl

/-- The loop reads the elements of a table back, one line each, whatever precedes and
follows them. -/
theorem dumpOpaqueElements_encode (rest : List UInt8) :
    ∀ (pre : List UInt8) (elements : List SecuredMessageOpaqueElement) (index : Nat),
      (∀ e ∈ elements, e.Fits) →
      dumpOpaqueElements (pre ++ elements.flatMap encode ++ rest) elements.length index pre.length =
        some ((elements.enumFrom index).map fun (i, e) => e.line i)
  | _, [], _, _ => rfl
  | pre, e :: elements, index, hfits => by
    have hfit := hfits e (.head _)
    obtain ⟨hmin, hmax⟩ := length_data_of_fits hfit
    have hbuf : pre ++ (e :: elements).flatMap encode ++ rest =
        pre ++ (e.tableHeader ++ (e.data ++ (elements.flatMap encode ++ rest))) := by
      simp [encode]
    have hnext := dumpOpaqueElements_encode rest (pre ++ e.encode) elements (index + 1)
      (fun e' h => hfits e' (.tail _ h))
    have hlenNat : (UInt16.ofNat e.data.length).toNat = e.data.length := by
      rw [uint16_toNat_ofNat]; exact Nat.mod_eq_of_lt hmax
    have hheader : readBytes (pre ++ (e.tableHeader ++ (e.data ++ (elements.flatMap encode ++ rest))))
        pre.length securedMessageOpaqueElementTableHeaderSize = some e.tableHeader :=
      (readBytes_append pre _ 0 4).trans (readBytes_append_self e.tableHeader _)
    have hdata : ∀ k, readBytes (pre ++ (e.tableHeader ++ (e.data ++ (elements.flatMap encode ++ rest))))
        (pre.length + securedMessageOpaqueElementTableHeaderSize) k =
          readBytes (e.data ++ (elements.flatMap encode ++ rest)) 0 k := fun k => by
      rw [← List.append_assoc, show pre.length + securedMessageOpaqueElementTableHeaderSize =
        (pre ++ e.tableHeader).length + 0 by simp [securedMessageOpaqueElementTableHeaderSize]]
      exact readBytes_append _ _ 0 k
    simp only [encode, List.append_assoc, List.length_append, length_tableHeader] at hnext
    have hroom : (pre ++ (e.tableHeader ++ (e.data ++ (elements.flatMap encode ++ rest)))).length =
        pre.length + securedMessageOpaqueElementTableHeaderSize + e.data.length +
          (elements.flatMap encode ++ rest).length := by
      simp only [List.length_append, length_tableHeader, securedMessageOpaqueElementTableHeaderSize]
      omega
    rw [hbuf, List.length_cons, dumpOpaqueElements, if_neg (by omega), hheader, Option.some_bind]
    simp only [getD_tableHeader_zero, getD_tableHeader_one, readUInt16_drop_tableHeader, hlenNat,
      ne_eq, not_true_eq_false, if_false, hroom]
    rw [if_neg (by omega), if_neg (by omega), hdata, hdata, readBytes_append_of_le _ hmin,
      readBytes_append_self, readBytes_of_le (by omega), Option.some_bind, Option.some_bind]
    rw [List.drop_zero, show securedMessageOpaqueElementHeaderSize = 2 from rfl, take_data,
      List.getD_cons_succ, List.getD_cons_zero, List.getD_cons_zero, dumpOpaqueElement_data hfit,
      Option.some_bind, show securedMessageOpaqueElementTableHeaderSize = 4 from rfl, Nat.add_assoc, hnext]
    rfl

end SecuredMessageOpaqueElement

/-- **The dump reads back every table the specification lays out**: the header's
version and count, then one line per element with its length, its element header
and the version or versions it carries, whatever bytes follow the table. -/
theorem dumpSpdmOpaqueData_encode (opaqueVersion : UInt8) (elements : List SecuredMessageOpaqueElement)
    (rest : List UInt8) (hcount : elements.length < 2 ^ 8) (hfits : ∀ e ∈ elements, e.Fits) :
    dumpSpdmOpaqueData (encodeOpaqueData opaqueVersion elements ++ rest) =
      some (some ⟨opaqueVersion, UInt8.ofNat elements.length,
        elements.enum.map fun (i, e) => e.line i⟩) := by
  have hn : (UInt8.ofNat elements.length).toNat = elements.length := by
    rw [uint8_toNat_ofNat]; exact Nat.mod_eq_of_lt hcount
  rw [encodeOpaqueData, List.append_assoc]
  set header := writeUInt32 securedMessageOpaqueDataSpecId ++
    [opaqueVersion, UInt8.ofNat elements.length, 0, 0]
  have hsize : header.length = securedMessageGeneralOpaqueDataTableHeaderSize := rfl
  have hloop := SecuredMessageOpaqueElement.dumpOpaqueElements_encode rest header elements 0 hfits
  rw [List.append_assoc] at hloop
  rw [dumpSpdmOpaqueData, if_neg (by simp only [List.length_append]; omega), ← hsize,
    readBytes_append_self, Option.some_bind, readUInt32_writeUInt32, if_neg (not_not.mpr rfl)]
  have htotal : header.getD 5 0 = UInt8.ofNat elements.length := rfl
  rw [htotal, hn, hloop]
  rfl

/-- A requester's table listing SPDM 1.0 and 1.1, followed by a responder's selecting
1.1, with a stray byte after them: the dump prints both elements and ignores the
byte. -/
theorem dumpSpdmOpaqueData_encode_sample :
    dumpSpdmOpaqueData (encodeOpaqueData 1
        [.supportedVersion 1 [0x1000, 0x1100], .versionSelection 1 0x1100] ++ [0xFF]) =
      some (some ⟨1, 2, [⟨0, 0, 7, some (1, 1, .supportedVersion [0x1000, 0x1100])⟩,
        ⟨1, 0, 4, some (1, 0, .versionSelection 0x1100)⟩]⟩) :=
  (dumpSpdmOpaqueData_encode 1 _ [0xFF] (by decide) (by decide)).trans rfl

end OpenSpdm
