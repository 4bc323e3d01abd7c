import Mathlib

/-!
# Byte buffers and the managed buffer

Every buffer the library touches is a region of memory given by a pointer and a
size. We model the bytes such a region holds as a `List UInt8`, and a pointer
that may be `NULL` together with its size as the list of the bytes it covers:
the C code never tests one without the other, and a `NULL` pointer always comes
with size zero.

Two things need care. A C function that reads `Size` bytes from `Buffer + Offset`
reads outside the object when the range runs past its end; that is undefined
behaviour, and `OpenSpdm.readBytes` returns `none` there instead of inventing
bytes. And sizes are `UINTN`, so a difference of sizes wraps around modulo
`2 ^ 64`; where the code subtracts sizes we compute in `UInt64`.

The transcript ledgers are `MANAGED_BUFFER`s: a capacity and the bytes appended so
far. `OpenSpdm.ManagedBuffer` carries the invariant that the bytes never exceed the
capacity, so an overfull ledger cannot be built. The buffer primitives are declared
in `SpdmCommonLibInternal.h` but their bodies are not part of the sources; they are
modelled from the specification of the managed buffer (append fails when the
capacity would be exceeded, reset empties the buffer and keeps the capacity).
-/

namespace OpenSpdm

/-! ### Return statuses -/

/-- The `RETURN_STATUS` values the modelled functions return. -/
inductive ReturnStatus
  | success
  | invalidParameter
  | unsupported
  | bufferTooSmall
  | notReady
  | deviceError
  | accessDenied
  | notFound
  | securityViolation
  | noResponse
  deriving DecidableEq, Repr

/-- The `RETURN_ERROR` macro: every status but success is an error. -/
def ReturnStatus.isError (s : ReturnStatus) : Bool := s != .success

@[simp] theorem ReturnStatus.isError_success : ReturnStatus.success.isError = false := rfl

@[simp] theorem ReturnStatus.isError_eq_false {s : ReturnStatus} : s.isError = false ↔ s = .success := by
  cases s <;> decide

@[simp] theorem ReturnStatus.isError_eq_true {s : ReturnStatus} : s.isError = true ↔ s ≠ .success := by
  cases s <;> decide

/-! ### Regions of a buffer -/

/-- The bytes `[Offset, Offset + Size)` of a buffer, as a C callee receives them by
pointer and size; `none` when the range runs past the end of the buffer. -/
def readBytes (buf : List UInt8) (offset size : Nat) : Option (List UInt8) :=
  if offset + size ≤ buf.length then some ((buf.drop offset).take size) else none

theorem readBytes_of_le {buf : List UInt8} {offset size : Nat}
    (h : offset + size ≤ buf.length) :
    readBytes buf offset size = some ((buf.drop offset).take size) := if_pos h

theorem readBytes_of_lt {buf : List UInt8} {offset size : Nat}
    (h : buf.length < offset + size) : readBytes buf offset size = none :=
  if_neg (by omega)

theorem readBytes_eq_some_iff {buf bytes : List UInt8} {offset size : Nat} :
    readBytes buf offset size = some bytes ↔
      offset + size ≤ buf.length ∧ (buf.drop offset).take size = bytes := by
  unfold readBytes
  split <;> simp_all

/-- Reading a region depends on the buffer only below the end of the region. -/
theorem readBytes_take {buf : List UInt8} {offset size n : Nat} (h : offset + size ≤ n) :
    readBytes (buf.take n) offset size = readBytes buf offset size := by
  unfold readBytes
  have hdrop : ((buf.take n).drop offset).take size = (buf.drop offset).take size := by
    rw [List.drop_take, List.take_take, Nat.min_eq_left (by omega)]
  simp only [List.length_take, hdrop]
  by_cases hb : offset + size ≤ buf.length
  · simp [hb, show offset + size ≤ min n buf.length by omega]
  · simp [hb, show ¬offset + size ≤ min n buf.length by omega]

/-- The little-endian `UINT16` a C cast `*(UINT16 *)Ptr` reads from the first two
bytes of a buffer. -/
def readUInt16 (bytes : List UInt8) : UInt16 :=
  UInt16.ofNat ((bytes.getD 0 0).toNat + 2 ^ 8 * (bytes.getD 1 0).toNat)

/-- The little-endian `UINT32` a C cast `*(UINT32 *)Ptr` reads from the first four
bytes of a buffer. -/
def readUInt32 (bytes : List UInt8) : UInt32 :=
  UInt32.ofNat ((bytes.getD 0 0).toNat + 2 ^ 8 * (bytes.getD 1 0).toNat +
    2 ^ 16 * (bytes.getD 2 0).toNat + 2 ^ 24 * (bytes.getD 3 0).toNat)

/-- The two bytes `*(UINT16 *)Ptr = Value` stores, low byte first. -/
def writeUInt16 (v : UInt16) : List UInt8 := [UInt8.ofNat v.toNat, UInt8.ofNat (v.toNat / 2 ^ 8)]

theorem uint8_toNat_ofNat (n : Nat) : (UInt8.ofNat n).toNat = n % 2 ^ 8 := BitVec.toNat_ofNat _ _

theorem uint16_toNat_ofNat (n : Nat) : (UInt16.ofNat n).toNat = n % 2 ^ 16 := BitVec.toNat_ofNat _ _

@[simp] theorem length_writeUInt16 (v : UInt16) : (writeUInt16 v).length = 2 := rfl

/-- **A stored `UINT16` reads back**. -/
theorem readUInt16_writeUInt16 (v : UInt16) (rest : List UInt8) :
    readUInt16 (writeUInt16 v ++ rest) = v := by
  apply UInt16.toNat.inj
  have hv : v.toNat < 2 ^ 16 := v.toNat_lt_size
  simp only [readUInt16, writeUInt16, List.cons_append, List.getD_cons_zero, List.getD_cons_succ,
    uint8_toNat_ofNat, uint16_toNat_ofNat]
  omega

/-- The four bytes `*(UINT32 *)Ptr = Value` stores, low byte first. -/
def writeUInt32 (v : UInt32) : List UInt8 :=
  [UInt8.ofNat v.toNat, UInt8.ofNat (v.toNat / 2 ^ 8), UInt8.ofNat (v.toNat / 2 ^ 16),
    UInt8.ofNat (v.toNat / 2 ^ 24)]

theorem uint32_toNat_ofNat (n : Nat) : (UInt32.ofNat n).toNat = n % 2 ^ 32 := BitVec.toNat_ofNat _ _

@[simp] theorem length_writeUInt32 (v : UInt32) : (writeUInt32 v).length = 4 := rfl

/-- **A stored `UINT32` reads back**. -/
theorem readUInt32_writeUInt32 (v : UInt32) (rest : List UInt8) :
    readUInt32 (writeUInt32 v ++ rest) = v := by
  apply UInt32.toNat.inj
  have hv : v.toNat < 2 ^ 32 := v.toNat_lt_size
  simp only [readUInt32, writeUInt32, List.cons_append, List.getD_cons_zero, List.getD_cons_succ,
    uint8_toNat_ofNat, uint32_toNat_ofNat]
  omega

/-- **Four bytes read as a `UINT32` are stored back as they were.** -/
theorem writeUInt32_readUInt32 {bytes : List UInt8} (h : bytes.length = 4) :
    writeUInt32 (readUInt32 bytes) = bytes := by
  match bytes, h with
  | [a, b, c, d], _ =>
    have ha : a.toNat < 2 ^ 8 := a.toNat_lt_size
    have hb : b.toNat < 2 ^ 8 := b.toNat_lt_size
    have hc : c.toNat < 2 ^ 8 := c.toNat_lt_size
    have hd : d.toNat < 2 ^ 8 := d.toNat_lt_size
    simp only [writeUInt32, readUInt32, List.getD_cons_zero, List.getD_cons_succ, uint32_toNat_ofNat,
      List.cons.injEq, and_true]
    refine ⟨UInt8.toNat.inj ?_, UInt8.toNat.inj ?_, UInt8.toNat.inj ?_, UInt8.toNat.inj ?_⟩ <;>
      simp only [uint8_toNat_ofNat] <;> omega

@[simp] theorem readUInt16_writeUInt16_self (v : UInt16) : readUInt16 (writeUInt16 v) = v := by
  simpa using readUInt16_writeUInt16 v []

theorem length_flatMap_writeUInt16 (vs : List UInt16) :
    (vs.flatMap writeUInt16).length = 2 * vs.length := by
  induction vs with
  | nil => rfl
  | cons v vs ih =>
    simp only [List.flatMap_cons, List.length_append, length_writeUInt16, ih, List.length_cons]
    omega

/-- A buffer's first bytes are the region at its start. -/
theorem readBytes_append_self (buf rest : List UInt8) :
    readBytes (buf ++ rest) 0 buf.length = some buf := by
  simp [readBytes]

/-- A region inside a buffer does not see what is appended after it. -/
theorem readBytes_append_of_le {buf : List UInt8} (tail : List UInt8) {offset size : Nat}
    (h : offset + size ≤ buf.length) :
    readBytes (buf ++ tail) offset size = readBytes buf offset size := by
  rw [readBytes_of_le h, readBytes_of_le (by simp; omega), List.drop_append_of_le_length (by omega),
    List.take_append_of_le_length (by simp; omega)]

/-- A region past a prefix is the region of what follows it. -/
theorem readBytes_append (pre buf : List UInt8) (offset size : Nat) :
    readBytes (pre ++ buf) (pre.length + offset) size = readBytes buf offset size := by
  simp only [readBytes, List.drop_append, List.length_append, Nat.add_assoc, Nat.add_le_add_iff_left]

/-! ### The managed buffer -/

/-- A `MANAGED_BUFFER`: its capacity `MaxBufferSize` and the bytes appended so far,
whose count is `BufferSize`. -/
structure ManagedBuffer where
  /-- `MaxBufferSize`. -/
  maxBufferSize : Nat
  /-- The bytes `Buffer[0, BufferSize)`. -/
  buffer : List UInt8
  /-- A managed buffer never holds more than its capacity. -/
  size_le : buffer.length ≤ maxBufferSize

instance : Inhabited ManagedBuffer := ⟨⟨0, [], Nat.zero_le _⟩⟩

/-- An all-zero `MANAGED_BUFFER`, as `ZeroMem` leaves it. -/
def ManagedBuffer.zero : ManagedBuffer := ⟨0, [], Nat.zero_le _⟩

@[ext] theorem ManagedBuffer.ext {a b : ManagedBuffer} (hmax : a.maxBufferSize = b.maxBufferSize)
    (hbuf : a.buffer = b.buffer) : a = b := by
  cases a
  cases b
  simp_all

/-- `GetManagedBufferSize`. -/
def getManagedBufferSize (b : ManagedBuffer) : Nat := b.buffer.length

/-- Modelled from the spec: `InitManagedBuffer`, an empty buffer of the given
capacity. -/
def initManagedBuffer (maxBufferSize : Nat) : ManagedBuffer :=
  ⟨maxBufferSize, [], Nat.zero_le _⟩

/-- Modelled from the spec: `ResetManagedBuffer` empties the buffer and keeps its
capacity. -/
def resetManagedBuffer (b : ManagedBuffer) : ManagedBuffer :=
  ⟨b.maxBufferSize, [], Nat.zero_le _⟩

/-- Modelled from the spec: `AppendManagedBuffer` appends the bytes when they fit
and otherwise returns `RETURN_BUFFER_TOO_SMALL` and leaves the buffer as it was. -/
def appendManagedBuffer (b : ManagedBuffer) (data : List UInt8) :
    ReturnStatus × ManagedBuffer :=
  if h : b.buffer.length + data.length ≤ b.maxBufferSize then
    (.success, ⟨b.maxBufferSize, b.buffer ++ data, by simpa using h⟩)
  else (.bufferTooSmall, b)

@[simp] theorem initManagedBuffer_buffer (n : Nat) : (initManagedBuffer n).buffer = [] := rfl

@[simp] theorem initManagedBuffer_maxBufferSize (n : Nat) :
    (initManagedBuffer n).maxBufferSize = n := rfl

@[simp] theorem resetManagedBuffer_buffer (b : ManagedBuffer) :
    (resetManagedBuffer b).buffer = [] := rfl

@[simp] theorem resetManagedBuffer_maxBufferSize (b : ManagedBuffer) :
    (resetManagedBuffer b).maxBufferSize = b.maxBufferSize := rfl

theorem appendManagedBuffer_of_le {b : ManagedBuffer} {data : List UInt8}
    (h : b.buffer.length + data.length ≤ b.maxBufferSize) :
    (appendManagedBuffer b data).1 = .success ∧
      (appendManagedBuffer b data).2.buffer = b.buffer ++ data := by
  simp [appendManagedBuffer, h]

theorem appendManagedBuffer_of_lt {b : ManagedBuffer} {data : List UInt8}
    (h : b.maxBufferSize < b.buffer.length + data.length) :
    appendManagedBuffer b data = (.bufferTooSmall, b) := by
  simp [appendManagedBuffer, show ¬b.buffer.length + data.length ≤ b.maxBufferSize by omega]

/-- **What an append does**: it succeeds and appends exactly when the bytes fit. -/
theorem appendManagedBuffer_eq_success_iff {b : ManagedBuffer} {data : List UInt8} :
    (appendManagedBuffer b data).1 = .success ↔
      b.buffer.length + data.length ≤ b.maxBufferSize := by
  unfold appendManagedBuffer
  split <;> simp_all

@[simp] theorem appendManagedBuffer_maxBufferSize (b : ManagedBuffer) (data : List UInt8) :
    (appendManagedBuffer b data).2.maxBufferSize = b.maxBufferSize := by
  unfold appendManagedBuffer
  split <;> rfl

/-- A successful append is the old bytes followed by the new ones; a failed one
changes nothing. -/
theorem appendManagedBuffer_buffer (b : ManagedBuffer) (data : List UInt8) :
    (appendManagedBuffer b data).2.buffer =
      if b.buffer.length + data.length ≤ b.maxBufferSize then b.buffer ++ data
      else b.buffer := by
  unfold appendManagedBuffer
  split <;> simp_all

end OpenSpdm
