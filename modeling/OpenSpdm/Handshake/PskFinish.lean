import OpenSpdm.Handshake.Agreement

/-!
# The requester's `PSK_FINISH`

`SpdmSendReceivePskFinish` closes the handshake of a session that `PSK_EXCHANGE`
opened. It checks that the peer advertised `PSK_CAP`, finds the session's slot, and
then works on that slot's `MessageF` through the pointer `SessionInfo`: it appends
the four-byte `PSK_FINISH` header, computes `VerifyData` as the requester library's
HMAC of `A || K || F` under the request finished key
(`OpenSpdm.spdmRequesterGeneratePskFinishHmac`), appends `VerifyData`, sends the
header and `VerifyData`, checks that the response is exactly a four-byte
`PSK_FINISH_RSP`, appends it, and derives the data keys. Only then is the session
`SpdmSessionStateEstablished`.

## What an established session went through

`OpenSpdm.spdmSendReceivePskFinish_established`: `RETURN_SUCCESS` comes only after
every check passed, and leaves the slot of the session with `MessageF` extended by
the header, the `VerifyData` and the response – in that order, each when it fits –
`ErrorState` cleared, and every other slot and
every other field of the context as it was. A failure after the `VerifyData` was
computed does not take the appends back: `MessageF` keeps the request
(`OpenSpdm.pskFinishExchange_context`).

## What the responder accepts

`OpenSpdm.spdmSendReceivePskFinish_verifyData_accepted`: a responder with the
requester's `A`, `K` and `F` once the header is appended, the same hash and the same
request finished key accepts exactly the `VerifyData` the requester sent, whenever
`A || K || F` fits the `THCurr` buffer.

## The registry around it

Whatever it returns, the exchange writes only into `ErrorState` and into the `MessageF`
of one slot (`OpenSpdm.spdmSendReceivePskFinish_frame`), so the session ids and
secured-message pointers stay where the registry put them. Over any run that interleaves the registry's three operations
with `PSK_FINISH` exchanges (`OpenSpdm.sessionRun`), the registry invariant holds and
the next assignment, free or lookup behaves on the set of active ids as insertion,
erasure and membership (`OpenSpdm.sessionRun_refines`). The `ASSERT (FALSE)` for an
unknown session is reached exactly when the peer advertised `PSK_CAP` and the id is not
active, or the session's hash has no size (`OpenSpdm.spdmSendReceivePskFinish_eq_none_iff`).

The transport (`SpdmSendSpdmRequest`, `SpdmReceiveSpdmResponse`) and
`SpdmGenerateSessionDataKey` are not among the sources: what one exchange gets from
them is an argument (`OpenSpdm.PskFinishAttempt`). The model's `SpdmSessionInfo` has no
`SessionState` and its `SpdmErrorStatus` no `SPDM_STATUS_ERROR_KEY_EXCHANGE_FAILURE`, so
the two writes to them are what the result says (`OpenSpdm.PskFinishReturn`).
-/

namespace OpenSpdm

/-! ### Constants -/

/-- `SPDM_GET_CAPABILITIES_RESPONSE_FLAGS_PSK_CAP`: bits 10 and 11, a pre-shared key
without and with a responder context. -/
def spdmGetCapabilitiesResponseFlagsPskCap : UInt32 := 0xC00

/-- `SPDM_PSK_FINISH`. -/
def spdmPskFinish : UInt8 := 0xE7

/-- `SPDM_PSK_FINISH_RSP`. -/
def spdmPskFinishRsp : UInt8 := 0x67

/-- `sizeof (SPDM_FINISH_REQUEST)`: the header, the signature and `VerifyData`
following it. -/
def spdmFinishRequestSize : Nat := spdmMessageHeaderSize

/-- `sizeof (SPDM_PSK_FINISH_RESPONSE)`: the header alone. -/
def spdmPskFinishResponseSize : Nat := spdmMessageHeaderSize

/-- The header of the request `SpdmSendReceivePskFinish` builds: version 1.1 and both
parameters zero. -/
def pskFinishRequestHeader : List UInt8 := [spdmMessageVersion11, spdmPskFinish, 0, 0]

@[simp] theorem length_pskFinishRequestHeader : pskFinishRequestHeader.length = spdmFinishRequestSize :=
  rfl

/-! ### Appending to a slot's `MessageF` -/

/-- `AppendManagedBuffer (&SessionInfo->SessionTranscript.MessageF, Data, Size)`, its
status ignored. -/
def SpdmSessionInfo.appendMessageF (session : SpdmSessionInfo) (data : List UInt8) :
    SpdmSessionInfo :=
  { session with
    sessionTranscript.messageF := (appendManagedBuffer session.sessionTranscript.messageF data).2 }

namespace SpdmSessionInfo

variable (session : SpdmSessionInfo) (data : List UInt8)

@[simp] theorem appendMessageF_sessionId : (session.appendMessageF data).sessionId = session.sessionId :=
  rfl

@[simp] theorem appendMessageF_securedMessageContext :
    (session.appendMessageF data).securedMessageContext = session.securedMessageContext := rfl

@[simp] theorem appendMessageF_securedMessage :
    (session.appendMessageF data).securedMessage = session.securedMessage := rfl

@[simp] theorem appendMessageF_messageK :
    (session.appendMessageF data).sessionTranscript.messageK = session.sessionTranscript.messageK :=
  rfl

@[simp] theorem appendMessageF_maxBufferSize :
    (session.appendMessageF data).sessionTranscript.messageF.maxBufferSize =
      session.sessionTranscript.messageF.maxBufferSize :=
  appendManagedBuffer_maxBufferSize _ _

end SpdmSessionInfo

/-- The appends through `SessionInfo` on the slot `index` of the context. -/
def SpdmDeviceContext.appendSessionMessageF (ctx : SpdmDeviceContext) (index : Nat)
    (data : List UInt8) : SpdmDeviceContext :=
  { ctx with sessionInfo := ctx.sessionInfo.modify (·.appendMessageF data) index }

/-! ### The exchange -/

/-- What one exchange gets from outside: the status `SpdmSendSpdmRequest` returns, the
status and bytes of `SpdmReceiveSpdmResponse`, and the status of
`SpdmGenerateSessionDataKey (SpdmContext, SessionId, TRUE)`. -/
structure PskFinishAttempt where
  sendStatus : ReturnStatus
  receiveStatus : ReturnStatus
  response : List UInt8
  sessionDataKeyStatus : ReturnStatus

/-- How `SpdmSendReceivePskFinish` returns. -/
inductive PskFinishReturn
  /-- `RETURN_DEVICE_ERROR`, before the data keys are derived. -/
  | deviceError
  /-- The failed status of `SpdmGenerateSessionDataKey`, returned after `ErrorState` is
  set to `SPDM_STATUS_ERROR_KEY_EXCHANGE_FAILURE`; the context is the one before that
  write. -/
  | keyExchangeFailure (status : ReturnStatus)
  /-- `RETURN_SUCCESS`, after `SessionState` is set to `SpdmSessionStateEstablished`. -/
  | established
  deriving DecidableEq, Repr

/-- What `SpdmSendReceivePskFinish` returns, the context it leaves, and the request it
handed to `SpdmSendSpdmRequest`, if it got that far. -/
structure PskFinishOutcome where
  result : PskFinishReturn
  context : SpdmDeviceContext
  request : Option (List UInt8)

/-- The checks of the exchange once the request is built: both transport calls
succeed, the response is exactly a `PSK_FINISH_RSP` header, and the data keys are
derived. -/
structure PskFinishRspAccepted (attempt : PskFinishAttempt) : Prop where
  sent : attempt.sendStatus = .success
  received : attempt.receiveStatus = .success
  responseSize : attempt.response.length = spdmPskFinishResponseSize
  responseCode : attempt.response.getD 1 0 = spdmPskFinishRsp
  sessionDataKey : attempt.sessionDataKeyStatus = .success

/-- The context once the session is found: `ErrorState` set and the header appended to
the slot's `MessageF`. -/
def pskFinishRequestContext (ctx : SpdmDeviceContext) (index : Nat) : SpdmDeviceContext :=
  SpdmDeviceContext.appendSessionMessageF { ctx with errorState := .errorDeviceNoCapabilities } index
    pskFinishRequestHeader

/-- `SpdmSendReceivePskFinish` from the send on, with the request in `MessageF`: the
transport, the checks of the response, its append, and the data keys. -/
def pskFinishExchange (ctx : SpdmDeviceContext) (index : Nat) (request : List UInt8)
    (attempt : PskFinishAttempt) : PskFinishOutcome :=
  if attempt.sendStatus.isError then ⟨.deviceError, ctx, some request⟩ else
  if attempt.receiveStatus.isError then ⟨.deviceError, ctx, some request⟩ else
  if attempt.response.length ≠ spdmPskFinishResponseSize then ⟨.deviceError, ctx, some request⟩ else
  if attempt.response.getD 1 0 ≠ spdmPskFinishRsp then ⟨.deviceError, ctx, some request⟩ else
  let ctx := ctx.appendSessionMessageF index attempt.response
  if attempt.sessionDataKeyStatus.isError then
    ⟨.keyExchangeFailure attempt.sessionDataKeyStatus, ctx, some request⟩ else
  ⟨.established, { ctx with errorState := .success }, some request⟩

/-- `SpdmSendReceivePskFinish`, for one exchange with what it gets from outside; `none`
where an `ASSERT` fails. -/
def spdmSendReceivePskFinish (cfg : SpdmLibConfig) (crypto : SpdmCrypto) (ctx : SpdmDeviceContext)
    (sessionId : UInt32) (attempt : PskFinishAttempt) : Option PskFinishOutcome :=
  if ctx.connectionInfo.capability.flags &&& spdmGetCapabilitiesResponseFlagsPskCap = 0 then
    some ⟨.deviceError, ctx, none⟩ else
  (spdmGetSessionInfoViaSessionId ctx sessionId).bind fun index =>
  let ctx := pskFinishRequestContext ctx index
  ctx.sessionInfo[index]?.bind fun session =>
  (spdmRequesterGeneratePskFinishHmac cfg crypto ctx session).map fun verifyData =>
    pskFinishExchange (ctx.appendSessionMessageF index verifyData) index
      (pskFinishRequestHeader ++ verifyData) attempt

/-! ### Taking the exchange apart -/

/-- The slot of an exchange that got to the data keys: the header, `VerifyData` and the
response appended to `MessageF`. -/
def pskFinishSlot (verifyData response : List UInt8) (session : SpdmSessionInfo) :
    SpdmSessionInfo :=
  ((session.appendMessageF pskFinishRequestHeader).appendMessageF verifyData).appendMessageF response

theorem spdmRequesterGeneratePskFinishHmac_eq_none_iff {cfg : SpdmLibConfig} {crypto : SpdmCrypto}
    {ctx : SpdmDeviceContext} {session : SpdmSessionInfo} :
    spdmRequesterGeneratePskFinishHmac cfg crypto ctx session = none ↔
      crypto.hashSize session.securedMessage.baseHashAlgo = 0 := by
  unfold spdmRequesterGeneratePskFinishHmac
  split_ifs <;> simp_all

/-- Every return from the send on hands over the request. -/
@[simp] theorem pskFinishExchange_request (ctx : SpdmDeviceContext) (index : Nat)
    (request : List UInt8) (attempt : PskFinishAttempt) :
    (pskFinishExchange ctx index request attempt).request = some request := by
  unfold pskFinishExchange
  split_ifs <;> rfl

/-- The exchange establishes the session exactly when every check passes, and then
appends the response and clears `ErrorState`. -/
theorem pskFinishExchange_of_accepted {ctx : SpdmDeviceContext} {index : Nat}
    {request : List UInt8} {attempt : PskFinishAttempt} (h : PskFinishRspAccepted attempt) :
    pskFinishExchange ctx index request attempt =
      ⟨.established, { ctx.appendSessionMessageF index attempt.response with errorState := .success },
        some request⟩ := by
  simp only [pskFinishExchange, h.sent, h.received, h.responseSize, h.responseCode, h.sessionDataKey,
    ReturnStatus.isError_success, Bool.false_eq_true, ne_eq, not_true_eq_false, ↓reduceIte]

theorem pskFinishRspAccepted_of_established {ctx : SpdmDeviceContext} {index : Nat}
    {request : List UInt8} {attempt : PskFinishAttempt}
    (h : (pskFinishExchange ctx index request attempt).result = .established) :
    PskFinishRspAccepted attempt := by
  unfold pskFinishExchange at h
  split_ifs at h with hs hr hl hc hk
  exact ⟨by simpa using hs, by simpa using hr, by simpa using hl, by simpa using hc, by simpa using hk⟩

/-- What `SpdmSendReceivePskFinish` can do: return a device error at once when the peer
did not advertise `PSK_CAP`, or find the session, compute `VerifyData` on its slot with
the header appended, and go on with the header and `VerifyData` in `MessageF`. -/
theorem spdmSendReceivePskFinish_eq_some {cfg : SpdmLibConfig} {crypto : SpdmCrypto}
    {ctx : SpdmDeviceContext} {sessionId : UInt32} {attempt : PskFinishAttempt}
    {out : PskFinishOutcome}
    (h : spdmSendReceivePskFinish cfg crypto ctx sessionId attempt = some out) :
    (ctx.connectionInfo.capability.flags &&& spdmGetCapabilitiesResponseFlagsPskCap = 0 ∧
      out = ⟨.deviceError, ctx, none⟩) ∨
    (ctx.connectionInfo.capability.flags &&& spdmGetCapabilitiesResponseFlagsPskCap ≠ 0 ∧
      ∃ index, spdmGetSessionInfoViaSessionId ctx sessionId = some index ∧
      ∃ hi : index < ctx.sessionInfo.length, ∃ verifyData,
        spdmRequesterGeneratePskFinishHmac cfg crypto ctx
          (ctx.sessionInfo[index].appendMessageF pskFinishRequestHeader) = some verifyData ∧
        out = pskFinishExchange
          { ctx with
            errorState := .errorDeviceNoCapabilities
            sessionInfo := ctx.sessionInfo.modify
              (fun s => (s.appendMessageF pskFinishRequestHeader).appendMessageF verifyData) index }
          index (pskFinishRequestHeader ++ verifyData) attempt) := by
  unfold spdmSendReceivePskFinish at h
  split_ifs at h with hcap
  · exact .inl ⟨hcap, (Option.some.inj h).symm⟩
  obtain ⟨index, hindex, h⟩ := Option.bind_eq_some.mp h
  obtain ⟨hi, -⟩ := getSpec_of_inv.2 index hindex
  obtain ⟨session, hsession, h⟩ := Option.bind_eq_some.mp h
  obtain ⟨verifyData, hv, rfl⟩ := Option.map_eq_some'.mp h
  simp only [pskFinishRequestContext, SpdmDeviceContext.appendSessionMessageF,
    List.getElem?_modify_eq, List.getElem?_eq_getElem hi, Option.map_eq_map, Option.map_some',
    Option.some.injEq] at hsession
  subst hsession
  exact .inr ⟨hcap, index, hindex, hi, verifyData, hv, by
    simp only [pskFinishRequestContext, SpdmDeviceContext.appendSessionMessageF, List.modify_modify_eq]
    rfl⟩

/-! ### A requester to run -/

/-- A requester whose peer advertised `PSK_CAP`, with no session yet. -/
def samplePskConnection : SpdmDeviceContext :=
  { spdmInitContext typicalSpdmLibConfig 0 0 with
    connectionInfo.capability.flags := spdmGetCapabilitiesResponseFlagsPskCap }

/-- The same requester once session `1` is assigned: it holds the first slot. -/
def samplePskRequester : SpdmDeviceContext :=
  (spdmAssignSessionId typicalSpdmLibConfig samplePskConnection 1 true).2

/-- An exchange that passes every check, with a version 1.1 `PSK_FINISH_RSP`. -/
def samplePskFinishAttempt : PskFinishAttempt := ⟨.success, .success, [0x11, 0x67, 0, 0], .success⟩

/-! ### What an established session went through -/

/-- **A `PSK_FINISH` that establishes its session passed every check.** The peer
advertised `PSK_CAP`, the id names a slot, the request went out and the response is a
four-byte `PSK_FINISH_RSP`, and the data keys were derived; the request was the header
and the requester library's HMAC of the slot with the header appended, and the context
is the one the exchange started from with only `ErrorState` cleared and that slot's
`MessageF` extended by the header, `VerifyData` and the response. -/
theorem spdmSendReceivePskFinish_established {cfg : SpdmLibConfig} {crypto : SpdmCrypto}
    {ctx : SpdmDeviceContext} {sessionId : UInt32} {attempt : PskFinishAttempt}
    {out : PskFinishOutcome}
    (h : spdmSendReceivePskFinish cfg crypto ctx sessionId attempt = some out)
    (hest : out.result = .established) :
    ctx.connectionInfo.capability.flags &&& spdmGetCapabilitiesResponseFlagsPskCap ≠ 0 ∧
    PskFinishRspAccepted attempt ∧
    ∃ index, spdmGetSessionInfoViaSessionId ctx sessionId = some index ∧
    ∃ hi : index < ctx.sessionInfo.length, ∃ verifyData,
      spdmRequesterGeneratePskFinishHmac cfg crypto ctx
        (ctx.sessionInfo[index].appendMessageF pskFinishRequestHeader) = some verifyData ∧
      out.request = some (pskFinishRequestHeader ++ verifyData) ∧
      out.context =
        { ctx with
          errorState := .success
          sessionInfo := ctx.sessionInfo.modify (pskFinishSlot verifyData attempt.response) index } := by
  rcases spdmSendReceivePskFinish_eq_some h with ⟨-, rfl⟩ | ⟨hcap, index, hindex, hi, verifyData, hv, rfl⟩
  · cases hest
  have hacc := pskFinishRspAccepted_of_established hest
  refine ⟨hcap, hacc, index, hindex, hi, verifyData, hv, by simp, ?_⟩
  rw [pskFinishExchange_of_accepted hacc]
  simp only [SpdmDeviceContext.appendSessionMessageF, List.modify_modify_eq]
  rfl

/-- The sample requester establishes session `1`. -/
theorem spdmSendReceivePskFinish_established_sample :
    ∃ out, spdmSendReceivePskFinish typicalSpdmLibConfig sampleSpdmCrypto samplePskRequester 1
        samplePskFinishAttempt = some out ∧ out.result = .established ∧
      samplePskRequester.connectionInfo.capability.flags &&&
        spdmGetCapabilitiesResponseFlagsPskCap ≠ 0 ∧
      PskFinishRspAccepted samplePskFinishAttempt ∧
      ∃ index, spdmGetSessionInfoViaSessionId samplePskRequester 1 = some index ∧
      ∃ hi : index < samplePskRequester.sessionInfo.length, ∃ verifyData,
        spdmRequesterGeneratePskFinishHmac typicalSpdmLibConfig sampleSpdmCrypto samplePskRequester
          (samplePskRequester.sessionInfo[index].appendMessageF pskFinishRequestHeader) =
            some verifyData ∧
        out.request = some (pskFinishRequestHeader ++ verifyData) ∧
        out.context =
          { samplePskRequester with
            errorState := .success
            sessionInfo := samplePskRequester.sessionInfo.modify
              (pskFinishSlot verifyData samplePskFinishAttempt.response) index } := by
  have hrun : (spdmSendReceivePskFinish typicalSpdmLibConfig sampleSpdmCrypto samplePskRequester 1
      samplePskFinishAttempt).map (·.result) = some .established := by decide
  obtain ⟨out, h, hest⟩ := Option.map_eq_some'.mp hrun
  exact ⟨out, h, hest, spdmSendReceivePskFinish_established h hest⟩

/-! ### What the responder accepts -/

/-- **The responder accepts the `VerifyData` the requester sent.** The request handed to
the transport is the header and `VerifyData`; a responder whose slot mirrors the
requester's slot with the header appended accepts exactly that `VerifyData`, whenever
`A || K || F` fits `THCurr`. -/
theorem spdmSendReceivePskFinish_verifyData_accepted {cfg : SpdmLibConfig} {crypto : SpdmCrypto}
    {R S : SpdmDeviceContext} {sS : SpdmSessionInfo} {sessionId : UInt32}
    {attempt : PskFinishAttempt} {out : PskFinishOutcome} {request : List UInt8} {index : Nat}
    (h : spdmSendReceivePskFinish cfg crypto R sessionId attempt = some out)
    (hreq : out.request = some request)
    (hindex : spdmGetSessionInfoViaSessionId R sessionId = some index)
    (hi : index < R.sessionInfo.length)
    (hA : R.ledger .messageA = S.ledger .messageA)
    (hK : R.sessionInfo[index].sessionTranscript.messageK.buffer = sS.sessionTranscript.messageK.buffer)
    (hF : (R.sessionInfo[index].appendMessageF pskFinishRequestHeader).sessionTranscript.messageF.buffer =
      sS.sessionTranscript.messageF.buffer)
    (hH : R.connectionInfo.algorithm.baseHashAlgo = S.connectionInfo.algorithm.baseHashAlgo)
    (hkey : R.sessionInfo[index].securedMessage.requestFinishedKey =
      sS.securedMessage.requestFinishedKey)
    (hS : SessionBound S sS)
    (hfit : (R.ledger .messageA).length +
      R.sessionInfo[index].sessionTranscript.messageK.buffer.length +
      (R.sessionInfo[index].appendMessageF pskFinishRequestHeader).sessionTranscript.messageF.buffer.length ≤
        cfg.maxSpdmMessageBufferSize) :
    ∃ verifyData, request = pskFinishRequestHeader ++ verifyData ∧
      ∀ hmacData, spdmVerifyPskFinishReqHmac cfg crypto S sS hmacData = some true ↔
        hmacData = verifyData := by
  have hK' : (R.sessionInfo[index].appendMessageF pskFinishRequestHeader).sessionTranscript.messageK.buffer =
      sS.sessionTranscript.messageK.buffer := hK
  have hkey' : (R.sessionInfo[index].appendMessageF pskFinishRequestHeader).securedMessage.requestFinishedKey =
      sS.securedMessage.requestFinishedKey := hkey
  rcases spdmSendReceivePskFinish_eq_some h with ⟨-, rfl⟩ | ⟨-, index', hindex', hi', verifyData, hv, rfl⟩
  · cases hreq
  obtain rfl : index' = index := Option.some.inj (hindex'.symm.trans hindex)
  exact ⟨verifyData, by simpa using hreq.symm, requesterPskFinishHmac_agree hA hK' hF hH hkey' hS hfit hv⟩

/-- The sample requester's request is accepted by a responder holding the same session,
whose `MessageF` holds the header it received. -/
theorem spdmSendReceivePskFinish_verifyData_accepted_sample :
    ∃ out request sS, spdmSendReceivePskFinish typicalSpdmLibConfig sampleSpdmCrypto
        samplePskRequester 1 samplePskFinishAttempt = some out ∧ out.request = some request ∧
      SessionBound samplePskRequester sS ∧
      ∃ verifyData, request = pskFinishRequestHeader ++ verifyData ∧
        ∀ hmacData, spdmVerifyPskFinishReqHmac typicalSpdmLibConfig sampleSpdmCrypto
          samplePskRequester sS hmacData = some true ↔ hmacData = verifyData := by
  have hrun : (spdmSendReceivePskFinish typicalSpdmLibConfig sampleSpdmCrypto samplePskRequester 1
      samplePskFinishAttempt).map (·.request.isSome) = some true := by decide
  obtain ⟨out, h, hsent⟩ := Option.map_eq_some'.mp hrun
  obtain ⟨request, hreq⟩ := Option.isSome_iff_exists.mp hsent
  have hi : 0 < samplePskRequester.sessionInfo.length := by decide
  let sS := samplePskRequester.sessionInfo[0].appendMessageF pskFinishRequestHeader
  exact ⟨out, request, sS, h, hreq, rfl,
    spdmSendReceivePskFinish_verifyData_accepted h hreq (by decide) hi rfl rfl rfl rfl rfl rfl
      (Nat.le_of_ble_eq_true rfl)⟩

/-! ### Where the exchange asserts -/

/-- **Where `SpdmSendReceivePskFinish` asserts.** Once the peer advertised `PSK_CAP`, the
`ASSERT (FALSE)` is reached exactly for an id that is not an active session, and
`ASSERT (SessionInfo->HashSize != 0)` exactly for a session whose hash has no size. -/
theorem spdmSendReceivePskFinish_eq_none_iff {cfg : SpdmLibConfig} {crypto : SpdmCrypto}
    {ctx : SpdmDeviceContext} {sessionId : UInt32} {attempt : PskFinishAttempt} :
    spdmSendReceivePskFinish cfg crypto ctx sessionId attempt = none ↔
      ctx.connectionInfo.capability.flags &&& spdmGetCapabilitiesResponseFlagsPskCap ≠ 0 ∧
      (sessionId ∉ activeSessionIds ctx.sessionInfo ∨
        ∃ index, spdmGetSessionInfoViaSessionId ctx sessionId = some index ∧
          ∃ hi : index < ctx.sessionInfo.length,
            crypto.hashSize ctx.sessionInfo[index].securedMessage.baseHashAlgo = 0) := by
  have hget : (spdmGetSessionInfoViaSessionId ctx sessionId).isSome ↔
      sessionId ≠ 0 ∧ sessionId ∈ activeSessionIds ctx.sessionInfo := getSpec_of_inv.1
  unfold spdmSendReceivePskFinish
  split_ifs with hcap
  · simp [hcap]
  rcases hindex : spdmGetSessionInfoViaSessionId ctx sessionId with _ | index
  · have hnot : sessionId ∉ activeSessionIds ctx.sessionInfo := fun hmem =>
      absurd (hget.mpr ⟨(mem_activeSessionIds.mp hmem).1, hmem⟩) (by simp [hindex])
    simp [hcap, hnot]
  · obtain ⟨hi, -⟩ := getSpec_of_inv.2 index hindex
    have hmem : sessionId ∈ activeSessionIds ctx.sessionInfo := (hget.mp (by simp [hindex])).2
    simp [hcap, hmem, hi, pskFinishRequestContext, SpdmDeviceContext.appendSessionMessageF,
      List.getElem?_modify_eq, List.getElem?_eq_getElem hi,
      spdmRequesterGeneratePskFinishHmac_eq_none_iff]

/-! ### The registry around the exchange -/

/-- A write to a slot that changes only its `MessageF`. -/
def OnlyMessageF (f : SpdmSessionInfo → SpdmSessionInfo) : Prop :=
  ∀ s, f s = { s with sessionTranscript.messageF := (f s).sessionTranscript.messageF }

theorem onlyMessageF_appendMessageF (data : List UInt8) :
    OnlyMessageF (·.appendMessageF data) := fun _ => rfl

theorem OnlyMessageF.comp {f g : SpdmSessionInfo → SpdmSessionInfo} (hg : OnlyMessageF g)
    (hf : OnlyMessageF f) : OnlyMessageF (g ∘ f) := fun s =>
  (hg (f s)).trans
    (congrArg (fun t => { t with sessionTranscript.messageF := (g (f s)).sessionTranscript.messageF })
      (hf s))

theorem OnlyMessageF.sessionId {f : SpdmSessionInfo → SpdmSessionInfo} (hf : OnlyMessageF f)
    (s : SpdmSessionInfo) : (f s).sessionId = s.sessionId :=
  (congrArg SpdmSessionInfo.sessionId (hf s)).trans rfl

theorem OnlyMessageF.securedMessageContext {f : SpdmSessionInfo → SpdmSessionInfo}
    (hf : OnlyMessageF f) (s : SpdmSessionInfo) :
    (f s).securedMessageContext = s.securedMessageContext :=
  (congrArg SpdmSessionInfo.securedMessageContext (hf s)).trans rfl

/-- Every return of the exchange from the send on leaves the context it was given, or
that context with the response appended and some `ErrorState`. -/
theorem pskFinishExchange_context (ctx : SpdmDeviceContext) (index : Nat) (request : List UInt8)
    (attempt : PskFinishAttempt) :
    (pskFinishExchange ctx index request attempt).context = ctx ∨
      ∃ errorState, (pskFinishExchange ctx index request attempt).context =
        { ctx.appendSessionMessageF index attempt.response with errorState := errorState } := by
  unfold pskFinishExchange
  split_ifs
  all_goals first | exact .inl rfl | exact .inr ⟨_, rfl⟩

/-- **The exchange writes only `ErrorState` and the `MessageF` of one slot**, whatever it
returns. -/
theorem spdmSendReceivePskFinish_frame {cfg : SpdmLibConfig} {crypto : SpdmCrypto}
    {ctx : SpdmDeviceContext} {sessionId : UInt32} {attempt : PskFinishAttempt}
    {out : PskFinishOutcome}
    (h : spdmSendReceivePskFinish cfg crypto ctx sessionId attempt = some out) :
    ∃ index errorState f, OnlyMessageF f ∧
      out.context = { ctx with errorState := errorState, sessionInfo := ctx.sessionInfo.modify f index } := by
  rcases spdmSendReceivePskFinish_eq_some h with ⟨-, rfl⟩ | ⟨-, index, -, -, verifyData, -, rfl⟩
  · exact ⟨0, ctx.errorState, id, fun _ => rfl, by simp⟩
  have hreq : OnlyMessageF fun s => (s.appendMessageF pskFinishRequestHeader).appendMessageF verifyData :=
    (onlyMessageF_appendMessageF verifyData).comp (onlyMessageF_appendMessageF _)
  rcases pskFinishExchange_context { ctx with
      errorState := .errorDeviceNoCapabilities
      sessionInfo := ctx.sessionInfo.modify
        (fun s => (s.appendMessageF pskFinishRequestHeader).appendMessageF verifyData) index }
      index (pskFinishRequestHeader ++ verifyData) attempt with hctx | ⟨errorState, hctx⟩
  · exact ⟨index, _, _, hreq, hctx⟩
  · refine ⟨index, errorState, _, (onlyMessageF_appendMessageF attempt.response).comp hreq, ?_⟩
    rw [hctx]
    simp only [SpdmDeviceContext.appendSessionMessageF, List.modify_modify_eq]

theorem registryInv_pskFinish {cfg : SpdmLibConfig} {crypto : SpdmCrypto} {base size : Nat}
    {ctx : SpdmDeviceContext} {sessionId : UInt32} {attempt : PskFinishAttempt}
    {out : PskFinishOutcome} (hinv : RegistryInv cfg base size ctx.sessionInfo)
    (h : spdmSendReceivePskFinish cfg crypto ctx sessionId attempt = some out) :
    RegistryInv cfg base size out.context.sessionInfo := by
  obtain ⟨index, _, f, hf, hctx⟩ := spdmSendReceivePskFinish_frame h
  rw [hctx]
  exact registryInv_modify_of_sessionId hinv hf.sessionId hf.securedMessageContext

theorem activeSessionIds_pskFinish {cfg : SpdmLibConfig} {crypto : SpdmCrypto}
    {ctx : SpdmDeviceContext} {sessionId : UInt32} {attempt : PskFinishAttempt}
    {out : PskFinishOutcome}
    (h : spdmSendReceivePskFinish cfg crypto ctx sessionId attempt = some out) :
    activeSessionIds out.context.sessionInfo = activeSessionIds ctx.sessionInfo := by
  obtain ⟨index, _, f, hf, hctx⟩ := spdmSendReceivePskFinish_frame h
  rw [hctx]
  exact activeSessionIds_modify_of_sessionId hf.sessionId

/-- A call to one of the registry's operations, or a `PSK_FINISH` exchange. -/
inductive SessionCall
  | registry (call : RegistryCall)
  | pskFinish (sessionId : UInt32) (attempt : PskFinishAttempt)

/-- The context after one call; `none` where an `ASSERT` fails. -/
def sessionStep (cfg : SpdmLibConfig) (crypto : SpdmCrypto) (ctx : SpdmDeviceContext) :
    SessionCall → Option SpdmDeviceContext
  | .registry call => some (registryStep cfg ctx call)
  | .pskFinish sessionId attempt =>
    (spdmSendReceivePskFinish cfg crypto ctx sessionId attempt).map (·.context)

/-- The context after a sequence of calls, each on the context the previous one left. -/
def sessionRun (cfg : SpdmLibConfig) (crypto : SpdmCrypto) :
    SpdmDeviceContext → List SessionCall → Option SpdmDeviceContext
  | ctx, [] => some ctx
  | ctx, call :: calls =>
    (sessionStep cfg crypto ctx call).bind fun ctx => sessionRun cfg crypto ctx calls

theorem registryInv_sessionStep {cfg : SpdmLibConfig} {crypto : SpdmCrypto} {base size : Nat}
    {ctx ctx' : SpdmDeviceContext} (hinv : RegistryInv cfg base size ctx.sessionInfo) :
    ∀ {call}, sessionStep cfg crypto ctx call = some ctx' → RegistryInv cfg base size ctx'.sessionInfo
  | .registry call, h => Option.some.inj h ▸ registryInv_step hinv call
  | .pskFinish _ _, h => by
    obtain ⟨out, hout, rfl⟩ := Option.map_eq_some'.mp h
    exact registryInv_pskFinish hinv hout

theorem registryInv_sessionRun {cfg : SpdmLibConfig} {crypto : SpdmCrypto} {base size : Nat} :
    ∀ {ctx ctx' : SpdmDeviceContext} {calls : List SessionCall},
      RegistryInv cfg base size ctx.sessionInfo → sessionRun cfg crypto ctx calls = some ctx' →
        RegistryInv cfg base size ctx'.sessionInfo
  | _, _, [], hinv, h => Option.some.inj h ▸ hinv
  | _, _, _ :: _, hinv, h => by
    obtain ⟨ctx₁, h₁, h⟩ := Option.bind_eq_some.mp h
    exact registryInv_sessionRun (registryInv_sessionStep hinv h₁) h

/-- **`PSK_FINISH` exchanges keep the registry a bounded set of ids.** Over any run of
assignments, frees, lookups and `PSK_FINISH` exchanges from a context that keeps the
registry invariant, the invariant still holds; the next assignment, free and lookup
behave on the set of active ids as insertion into a set of fewer than
`MAX_SPDM_SESSION_COUNT` ids, erasure and membership; and the next exchange leaves that
set as it is. -/
theorem sessionRun_refines (cfg : SpdmLibConfig) (crypto : SpdmCrypto) {base size : Nat}
    {ctx ctx' : SpdmDeviceContext} {calls : List SessionCall}
    (hinv : RegistryInv cfg base size ctx.sessionInfo)
    (h : sessionRun cfg crypto ctx calls = some ctx') :
    RegistryInv cfg base size ctx'.sessionInfo ∧
    (∀ sessionId usePsk,
      AssignSpec cfg ctx' sessionId usePsk (spdmAssignSessionId cfg ctx' sessionId usePsk)) ∧
    (∀ sessionId, FreeSpec ctx' sessionId (spdmFreeSessionId cfg ctx' sessionId)) ∧
    (∀ sessionId, GetSpec ctx' sessionId (spdmGetSessionInfoViaSessionId ctx' sessionId)) ∧
    ∀ sessionId attempt out, spdmSendReceivePskFinish cfg crypto ctx' sessionId attempt = some out →
      activeSessionIds out.context.sessionInfo = activeSessionIds ctx'.sessionInfo := by
  have h' := registryInv_sessionRun hinv h
  exact ⟨h', fun _ _ => assignSpec_of_inv h', fun _ => freeSpec_of_inv h', fun _ => getSpec_of_inv,
    fun _ _ _ => activeSessionIds_pskFinish⟩

/-- A run from the sample requester before any session that assigns session `1`, finishes
it with `PSK_FINISH` and frees it. -/
theorem sessionRun_refines_sample :
    ∃ ctx', sessionRun typicalSpdmLibConfig sampleSpdmCrypto samplePskConnection
        [.registry (.assign 1 true), .pskFinish 1 samplePskFinishAttempt, .registry (.free 1)] =
          some ctx' ∧
      RegistryInv typicalSpdmLibConfig 0 0 ctx'.sessionInfo ∧
      (∀ sessionId usePsk, AssignSpec typicalSpdmLibConfig ctx' sessionId usePsk
        (spdmAssignSessionId typicalSpdmLibConfig ctx' sessionId usePsk)) ∧
      (∀ sessionId, FreeSpec ctx' sessionId (spdmFreeSessionId typicalSpdmLibConfig ctx' sessionId)) ∧
      (∀ sessionId, GetSpec ctx' sessionId (spdmGetSessionInfoViaSessionId ctx' sessionId)) ∧
      ∀ sessionId attempt out,
        spdmSendReceivePskFinish typicalSpdmLibConfig sampleSpdmCrypto ctx' sessionId attempt = some out →
          activeSessionIds out.context.sessionInfo = activeSessionIds ctx'.sessionInfo := by
  have hrun : (sessionRun typicalSpdmLibConfig sampleSpdmCrypto samplePskConnection
      [.registry (.assign 1 true), .pskFinish 1 samplePskFinishAttempt, .registry (.free 1)]).isSome =
        true := by decide
  obtain ⟨ctx', h⟩ := Option.isSome_iff_exists.mp hrun
  have hinv : RegistryInv typicalSpdmLibConfig 0 0 samplePskConnection.sessionInfo :=
    registryInv_init typicalSpdmLibConfig 0 0
  exact ⟨ctx', h, sessionRun_refines typicalSpdmLibConfig sampleSpdmCrypto hinv h⟩

end OpenSpdm
