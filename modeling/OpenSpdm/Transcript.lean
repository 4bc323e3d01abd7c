import OpenSpdm.Context

/-!
# The transcript ledgers

The seven `MANAGED_BUFFER`s of `SPDM_TRANSCRIPT` are where the authentication
exchanges keep the bytes their signatures cover: `MessageA` (version, capabilities,
algorithms), `MessageB` (digests and certificates), `MessageC` (challenge), their
mutual-authentication counterparts `MessageMutB` and `MessageMutC`, the signing
buffer `M1M2` and the measurement buffer `L1L2`. The code reaches each of them by
name (`AppendManagedBuffer (&SpdmContext->Transcript.MessageC, …)`); here a ledger
is named by an `OpenSpdm.SpdmLedger`, so that one lemma about appending to a ledger
covers all seven, and the frame lemmas say that every other ledger, and every other
part of the context, is left alone.
-/

namespace OpenSpdm

/-- The ledgers of `SPDM_TRANSCRIPT`. -/
inductive SpdmLedger
  | messageA
  | messageB
  | messageC
  | messageMutB
  | messageMutC
  | m1m2
  | l1l2
  deriving DecidableEq, Repr

/-- The ledger of a given name. -/
def SpdmTranscript.get (t : SpdmTranscript) : SpdmLedger → ManagedBuffer
  | .messageA => t.messageA
  | .messageB => t.messageB
  | .messageC => t.messageC
  | .messageMutB => t.messageMutB
  | .messageMutC => t.messageMutC
  | .m1m2 => t.m1m2
  | .l1l2 => t.l1l2

/-- The transcript with one ledger replaced. -/
def SpdmTranscript.set (t : SpdmTranscript) (x : SpdmLedger) (b : ManagedBuffer) :
    SpdmTranscript :=
  match x with
  | .messageA => { t with messageA := b }
  | .messageB => { t with messageB := b }
  | .messageC => { t with messageC := b }
  | .messageMutB => { t with messageMutB := b }
  | .messageMutC => { t with messageMutC := b }
  | .m1m2 => { t with m1m2 := b }
  | .l1l2 => { t with l1l2 := b }

@[simp] theorem SpdmTranscript.get_set_self (t : SpdmTranscript) (x : SpdmLedger)
    (b : ManagedBuffer) : (t.set x b).get x = b := by
  cases x <;> rfl

@[simp] theorem SpdmTranscript.get_set_of_ne (t : SpdmTranscript) {x y : SpdmLedger}
    (b : ManagedBuffer) (h : y ≠ x) : (t.set x b).get y = t.get y := by
  cases x <;> cases y <;> first | rfl | exact absurd rfl h

/-- The bytes a ledger of the context holds. -/
def SpdmDeviceContext.ledger (ctx : SpdmDeviceContext) (x : SpdmLedger) : List UInt8 :=
  (ctx.transcript.get x).buffer

/-- `AppendManagedBuffer (&SpdmContext->Transcript.X, Data, DataSize)`: its status,
and the context with the ledger as the append leaves it. -/
def appendTranscript (ctx : SpdmDeviceContext) (x : SpdmLedger) (data : List UInt8) :
    ReturnStatus × SpdmDeviceContext :=
  ((appendManagedBuffer (ctx.transcript.get x) data).1,
    { ctx with
      transcript := ctx.transcript.set x (appendManagedBuffer (ctx.transcript.get x) data).2 })

/-- `ResetManagedBuffer (&SpdmContext->Transcript.X)`. -/
def resetTranscript (ctx : SpdmDeviceContext) (x : SpdmLedger) : SpdmDeviceContext :=
  { ctx with transcript := ctx.transcript.set x (resetManagedBuffer (ctx.transcript.get x)) }

/-- An append succeeds exactly when the bytes fit the ledger's capacity. -/
theorem appendTranscript_eq_success_iff {ctx : SpdmDeviceContext} {x : SpdmLedger}
    {data : List UInt8} :
    (appendTranscript ctx x data).1 = .success ↔
      (ctx.ledger x).length + data.length ≤ (ctx.transcript.get x).maxBufferSize := by
  simp [appendTranscript, appendManagedBuffer_eq_success_iff, SpdmDeviceContext.ledger]

theorem ledger_appendTranscript_self (ctx : SpdmDeviceContext) (x : SpdmLedger)
    (data : List UInt8) :
    (appendTranscript ctx x data).2.ledger x =
      if (appendTranscript ctx x data).1 = .success then ctx.ledger x ++ data
      else ctx.ledger x := by
  simp only [if_congr appendTranscript_eq_success_iff rfl rfl]
  simp only [appendTranscript, SpdmDeviceContext.ledger, SpdmTranscript.get_set_self,
    appendManagedBuffer_buffer]

theorem ledger_appendTranscript_of_le {ctx : SpdmDeviceContext} {x : SpdmLedger}
    {data : List UInt8}
    (h : (ctx.ledger x).length + data.length ≤ (ctx.transcript.get x).maxBufferSize) :
    (appendTranscript ctx x data).2.ledger x = ctx.ledger x ++ data := by
  rw [ledger_appendTranscript_self, if_pos (appendTranscript_eq_success_iff.mpr h)]

/-- Bytes that do not fit are dropped whole, and the ledger keeps what it held. -/
theorem ledger_appendTranscript_of_lt {ctx : SpdmDeviceContext} {x : SpdmLedger}
    {data : List UInt8}
    (h : (ctx.transcript.get x).maxBufferSize < (ctx.ledger x).length + data.length) :
    (appendTranscript ctx x data).2.ledger x = ctx.ledger x := by
  rw [ledger_appendTranscript_self, if_neg (fun hs => absurd (appendTranscript_eq_success_iff.mp hs) (by omega))]

@[simp] theorem ledger_appendTranscript_of_ne (ctx : SpdmDeviceContext) {x y : SpdmLedger}
    (data : List UInt8) (h : y ≠ x) :
    (appendTranscript ctx x data).2.ledger y = ctx.ledger y := by
  simp [appendTranscript, SpdmDeviceContext.ledger, h]

@[simp] theorem ledger_resetTranscript_self (ctx : SpdmDeviceContext) (x : SpdmLedger) :
    (resetTranscript ctx x).ledger x = [] := by
  simp [resetTranscript, SpdmDeviceContext.ledger]

@[simp] theorem ledger_resetTranscript_of_ne (ctx : SpdmDeviceContext) {x y : SpdmLedger}
    (h : y ≠ x) : (resetTranscript ctx x).ledger y = ctx.ledger y := by
  simp [resetTranscript, SpdmDeviceContext.ledger, h]

@[simp] theorem maxBufferSize_appendTranscript (ctx : SpdmDeviceContext) (x y : SpdmLedger)
    (data : List UInt8) :
    ((appendTranscript ctx x data).2.transcript.get y).maxBufferSize =
      (ctx.transcript.get y).maxBufferSize := by
  by_cases h : y = x
  · subst h; simp [appendTranscript]
  · simp [appendTranscript, h]

/-- An append only ever adds bytes at the end of a ledger. -/
theorem ledger_isPrefix_appendTranscript (ctx : SpdmDeviceContext) (x y : SpdmLedger)
    (data : List UInt8) : ctx.ledger y <+: (appendTranscript ctx x data).2.ledger y := by
  by_cases h : y = x
  · subst h
    rw [ledger_appendTranscript_self]
    split
    · exact List.prefix_append _ _
    · exact List.prefix_refl _
  · exact ledger_appendTranscript_of_ne ctx data h ▸ List.prefix_refl _

/-! ### The rest of the context is left alone -/

section Frame

variable (ctx : SpdmDeviceContext) (x : SpdmLedger) (data : List UInt8)

@[simp] theorem appendTranscript_localContext :
    (appendTranscript ctx x data).2.localContext = ctx.localContext := rfl
@[simp] theorem appendTranscript_connectionInfo :
    (appendTranscript ctx x data).2.connectionInfo = ctx.connectionInfo := rfl
@[simp] theorem appendTranscript_sessionInfo :
    (appendTranscript ctx x data).2.sessionInfo = ctx.sessionInfo := rfl
@[simp] theorem appendTranscript_spdmCmdReceiveState :
    (appendTranscript ctx x data).2.spdmCmdReceiveState = ctx.spdmCmdReceiveState := rfl
@[simp] theorem resetTranscript_localContext :
    (resetTranscript ctx x).localContext = ctx.localContext := rfl
@[simp] theorem resetTranscript_connectionInfo :
    (resetTranscript ctx x).connectionInfo = ctx.connectionInfo := rfl
@[simp] theorem resetTranscript_spdmCmdReceiveState :
    (resetTranscript ctx x).spdmCmdReceiveState = ctx.spdmCmdReceiveState := rfl

end Frame

end OpenSpdm
