import OpenSpdm.Session.Registry

/-!
# The dump tool's direction of secured messages

A captured secured message does not say which way it went. `DumpSecuredSpdmMessage`
of the `SpdmDump` tool guesses: a `STATIC BOOLEAN IsRequester` is flipped on every
packet long enough for a header, on the guess that requests and responses
alternate, and the packet is decoded in that direction. When the decoder refuses
it, the packet is decoded again the other way, "because a responder might initiate
a message in Session", and on success the flag is flipped back to the direction that
worked. A packet neither way decodes is printed as `(?)->(?)`; a packet shorter
than its header prints a newline and leaves the flag alone
(`OpenSpdm.dumpSecuredSpdmMessage`).

## What is proved

The flag only orders the two attempts. For a decoder under which a packet decodes
in at most one direction, and which leaves the context as it was when it refuses a
packet (`OpenSpdm.DecodesOneWay`), the dump prints for every capture, from every
state of the flag, what a dumper without the flag prints: each packet is tried as a
request and then as a response (`OpenSpdm.labelSecuredMessage`), with the same
decoded message, the same context and the same current session after every packet
(`OpenSpdm.dumpSecuredSpdmMessages_refines`).

`SpdmDecodeSecuredMessage` and `GetMaxPacketLength` are not among the sources; the
decoder is an argument (`OpenSpdm.SecuredMessageDecoder`). The dump passes the
decoder seven arguments where the library's header declares eight: the callbacks
are not passed, and they are not modelled. The layout of
`SPDM_SECURED_MESSAGE_ADATA_HEADER` is not among the sources either; it is modelled
from the secured-message specification, a `UINT32` `SessionId` and a `UINT16`
`Length`, packed and little-endian. What the dispatched dump of the decoded message
prints is its own code; the model keeps the message it is given
(`OpenSpdm.SecuredDumpLine`). `mDecrypted` is `TRUE` only while that dispatch runs,
and the hex dump of `mParamDumpHex` prints the packet as it came; neither is kept.
-/

namespace OpenSpdm

/-- `sizeof (SPDM_SECURED_MESSAGE_ADATA_HEADER)`: `SessionId` and `Length`. -/
def spdmSecuredMessageAdataHeaderSize : Nat := 6

/-- What `SpdmDecodeSecuredMessage` leaves: its status, `*AppMessageSize`, the
`*AppMessageSize` bytes written to `AppMessage`, and the context. -/
structure SecuredMessageDecode where
  status : ReturnStatus
  appMessageSize : Nat
  appMessage : List UInt8
  context : SpdmDeviceContext

/-- `SpdmDecodeSecuredMessage (SpdmContext, SessionId, IsRequester,
SecuredMessageSize, SecuredMessage, &AppMessageSize, AppMessage)`, with
`*AppMessageSize` as it is passed in. -/
def SecuredMessageDecoder : Type :=
  SpdmDeviceContext → UInt32 → Bool → List UInt8 → Nat → SecuredMessageDecode

/-- The globals `DumpSecuredSpdmMessage` reads and writes. -/
structure SecuredDumpState where
  /-- Its `STATIC BOOLEAN IsRequester`. -/
  isRequester : Bool
  /-- `mSpdmContext`, as the decoder leaves it. -/
  spdmContext : SpdmDeviceContext
  /-- `mCurrentSessionInfo`: the slot of `SessionInfo` it points to, `none` for
  `NULL`. -/
  currentSessionInfo : Option Nat

/-- What `DumpSecuredSpdmMessage` prints for one packet. -/
inductive SecuredDumpLine
  /-- A packet shorter than its header: a newline. -/
  | short
  /-- `REQ->RSP` or `RSP->REQ`, the session id, and the decoded message handed to
  the dump of `GetDataLinkType ()`. -/
  | decoded (isRequester : Bool) (sessionId : UInt32) (message : List UInt8)
  /-- `(?)->(?) SecuredSPDM(SessionId) <Unknown>`. -/
  | unknown (sessionId : UInt32)
  deriving DecidableEq, Repr

/-- The two calls of `SpdmDecodeSecuredMessage`: in the direction of `IsRequester`,
then, if that fails, in the other, with `MessageSize` as the first call left it.
The direction `IsRequester` holds afterwards, and the decode whose status decides. -/
def decodeWithRetry (decode : SecuredMessageDecoder) (ctx : SpdmDeviceContext)
    (sessionId : UInt32) (isRequester : Bool) (buffer : List UInt8) (messageSize : Nat) :
    Bool × SecuredMessageDecode :=
  let first := decode ctx sessionId isRequester buffer messageSize
  if first.status.isError then
    let second := decode first.context sessionId (!isRequester) buffer first.appMessageSize
    (if second.status.isError then isRequester else !isRequester, second)
  else (isRequester, first)

/-- `DumpSecuredSpdmMessage` on one packet, with `maxPacketLength` what
`GetMaxPacketLength ()` returns. -/
def dumpSecuredSpdmMessage (decode : SecuredMessageDecoder) (maxPacketLength : Nat)
    (s : SecuredDumpState) (buffer : List UInt8) : SecuredDumpLine × SecuredDumpState :=
  if buffer.length < spdmSecuredMessageAdataHeaderSize then (.short, s) else
  let sessionId := readUInt32 buffer
  let (isRequester, r) :=
    decodeWithRetry decode s.spdmContext sessionId (!s.isRequester) buffer maxPacketLength
  if r.status.isError then (.unknown sessionId, { s with isRequester, spdmContext := r.context })
  else
    (.decoded isRequester sessionId r.appMessage,
      { isRequester, spdmContext := r.context,
        currentSessionInfo := spdmGetSessionInfoViaSessionId r.context sessionId })

/-- The dump of a capture, packet after packet. -/
def dumpSecuredSpdmMessages (decode : SecuredMessageDecoder) (maxPacketLength : Nat) :
    SecuredDumpState → List (List UInt8) → List SecuredDumpLine × SecuredDumpState
  | s, [] => ([], s)
  | s, buffer :: buffers =>
    let (line, s) := dumpSecuredSpdmMessage decode maxPacketLength s buffer
    let (lines, s) := dumpSecuredSpdmMessages decode maxPacketLength s buffers
    (line :: lines, s)

/-! ### A dumper without the flag -/

/-- The globals but the flag. -/
structure SecuredDumpView where
  spdmContext : SpdmDeviceContext
  currentSessionInfo : Option Nat

/-- Forgetting the flag. -/
def SecuredDumpState.view (s : SecuredDumpState) : SecuredDumpView :=
  ⟨s.spdmContext, s.currentSessionInfo⟩

/-- What a dump that knows no previous packet prints: the packet is decoded as a
request, and failing that as a response. -/
def labelSecuredMessage (decode : SecuredMessageDecoder) (maxPacketLength : Nat)
    (v : SecuredDumpView) (buffer : List UInt8) : SecuredDumpLine × SecuredDumpView :=
  if buffer.length < spdmSecuredMessageAdataHeaderSize then (.short, v) else
  let sessionId := readUInt32 buffer
  let decodedAs (isRequester : Bool) (r : SecuredMessageDecode) :=
    (SecuredDumpLine.decoded isRequester sessionId r.appMessage,
      SecuredDumpView.mk r.context (spdmGetSessionInfoViaSessionId r.context sessionId))
  let asRequest := decode v.spdmContext sessionId true buffer maxPacketLength
  let asResponse := decode v.spdmContext sessionId false buffer maxPacketLength
  if !asRequest.status.isError then decodedAs true asRequest
  else if !asResponse.status.isError then decodedAs false asResponse
  else (.unknown sessionId, v)

/-- That dump over a capture. -/
def labelSecuredMessages (decode : SecuredMessageDecoder) (maxPacketLength : Nat) :
    SecuredDumpView → List (List UInt8) → List SecuredDumpLine × SecuredDumpView
  | v, [] => ([], v)
  | v, buffer :: buffers =>
    let (line, v) := labelSecuredMessage decode maxPacketLength v buffer
    let (lines, v) := labelSecuredMessages decode maxPacketLength v buffers
    (line :: lines, v)

/-- What the dump needs of the decoder: no packet decodes in both directions, and
a refused packet leaves the context and `*AppMessageSize` as they were. -/
structure DecodesOneWay (decode : SecuredMessageDecoder) : Prop where
  oneWay : ∀ ctx sessionId buffer size,
    (decode ctx sessionId true buffer size).status.isError ∨
      (decode ctx sessionId false buffer size).status.isError
  refused : ∀ ctx sessionId isRequester buffer size,
    (decode ctx sessionId isRequester buffer size).status.isError →
      (decode ctx sessionId isRequester buffer size).context = ctx ∧
        (decode ctx sessionId isRequester buffer size).appMessageSize = size

section OneWay

variable {decode : SecuredMessageDecoder} (hdec : DecodesOneWay decode)
include hdec

/-- **The flag orders the attempts and nothing else**: one packet is dumped as the
dumper without the flag dumps it, whatever the flag holds. -/
theorem dumpSecuredSpdmMessage_refines (maxPacketLength : Nat) (s : SecuredDumpState)
    (buffer : List UInt8) :
    Prod.map id SecuredDumpState.view (dumpSecuredSpdmMessage decode maxPacketLength s buffer) =
      labelSecuredMessage decode maxPacketLength s.view buffer := by
  unfold dumpSecuredSpdmMessage labelSecuredMessage
  split_ifs with hshort
  · rfl
  obtain ⟨isRequester, ctx, current⟩ := s
  set sessionId := readUInt32 buffer
  -- the flag, then whether each direction accepts the packet; a refused attempt
  -- leaves the context as it was, and both accepting is excluded
  have hone := hdec.oneWay ctx sessionId buffer maxPacketLength
  cases isRequester <;>
  cases hreq : (decode ctx sessionId true buffer maxPacketLength).status.isError <;>
  cases hrsp : (decode ctx sessionId false buffer maxPacketLength).status.isError <;>
  simp_all [decodeWithRetry, SecuredDumpState.view, hdec.refused]

/-- **The dump of a capture does not depend on the flag**: for every capture and
every state, the dump prints what the dumper without the flag prints, and leaves
the same context and current session. -/
theorem dumpSecuredSpdmMessages_refines (maxPacketLength : Nat) (s : SecuredDumpState)
    (capture : List (List UInt8)) :
    Prod.map id SecuredDumpState.view (dumpSecuredSpdmMessages decode maxPacketLength s capture) =
      labelSecuredMessages decode maxPacketLength s.view capture := by
  induction capture generalizing s with
  | nil => rfl
  | cons buffer buffers ih =>
    have hstep := dumpSecuredSpdmMessage_refines hdec maxPacketLength s buffer
    simp only [dumpSecuredSpdmMessages, labelSecuredMessages, ← hstep, Prod.map, ← ih, id_eq]

end OneWay

/-- A decoder that takes a packet as a request when its first byte after the
header is 1 and as a response when it is 2, and refuses it otherwise. -/
def sampleSecuredMessageDecoder : SecuredMessageDecoder := fun ctx _ isRequester buffer size =>
  if buffer.getD spdmSecuredMessageAdataHeaderSize 0 = (if isRequester then 1 else 2) then
    ⟨.success, buffer.length - spdmSecuredMessageAdataHeaderSize,
      buffer.drop spdmSecuredMessageAdataHeaderSize, ctx⟩
  else ⟨.securityViolation, size, [], ctx⟩

theorem decodesOneWay_sampleSecuredMessageDecoder : DecodesOneWay sampleSecuredMessageDecoder where
  oneWay _ _ buffer _ := by
    unfold sampleSecuredMessageDecoder
    generalize buffer.getD spdmSecuredMessageAdataHeaderSize 0 = b
    by_cases h : b = 1 <;> simp [h]
  refused _ _ _ _ _ h := by
    unfold sampleSecuredMessageDecoder at h ⊢
    split_ifs at h ⊢ <;> simp_all

/-- A request, its response, a message the responder starts and one more request,
dumped from either state of the flag. -/
theorem dumpSecuredSpdmMessages_refines_sample :
    DecodesOneWay sampleSecuredMessageDecoder ∧
    Prod.map id SecuredDumpState.view (dumpSecuredSpdmMessages sampleSecuredMessageDecoder 0x1200
        ⟨true, spdmInitContext typicalSpdmLibConfig 0 0, none⟩
        [[1, 0, 0, 0, 8, 0, 1, 0x11], [1, 0, 0, 0, 8, 0, 2, 0x12], [1, 0, 0, 0, 8, 0, 2, 0x13],
          [1, 0, 0, 0, 8, 0, 1, 0x14]]) =
      labelSecuredMessages sampleSecuredMessageDecoder 0x1200
        ⟨spdmInitContext typicalSpdmLibConfig 0 0, none⟩
        [[1, 0, 0, 0, 8, 0, 1, 0x11], [1, 0, 0, 0, 8, 0, 2, 0x12], [1, 0, 0, 0, 8, 0, 2, 0x13],
          [1, 0, 0, 0, 8, 0, 1, 0x14]] :=
  ⟨decodesOneWay_sampleSecuredMessageDecoder,
    dumpSecuredSpdmMessages_refines decodesOneWay_sampleSecuredMessageDecoder _ _ _⟩

end OpenSpdm
