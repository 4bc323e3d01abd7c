import OpenSpdm.Session.Registry

/-!
# Half session ids

A session id is made of two halves: the upper 16 bits are chosen by the
requester, the lower 16 bits by the responder. Each side picks its half with an
allocator that returns `0xFFFF - Index` for the first slot whose half of the id is
zero (`OpenSpdm.spdmAllocateReqSessionId`, `OpenSpdm.spdmAllocateRspSessionId`),
and then `SpdmAssignSessionId` stores the whole id in the first slot whose *whole*
id is zero. The two searches test different things, so that they land on the same
slot is not a property of either function alone: it is an invariant of the runs
in which every creation is an allocation followed by an assignment.

The invariant is `OpenSpdm.HalvesByIndex`: every active slot `i` holds an id whose
own half is `0xFFFF - i`. While it holds, and there are at most `0xFFFF` slots, an
active slot's half is never zero, so the allocator's search stops exactly at the
first free slot; the half it returns is nonzero and is the half of no active
session, so the id is fresh and the assignment takes that same slot, which keeps
the invariant. `OpenSpdm.halfSessionIds_agree` states this for both roles at once:
the two roles are instances of `OpenSpdm.HalfIdRole`, which records the mask the
allocator tests and how an id is put together from the two halves, and every
result is proved once for an arbitrary role.
-/

namespace OpenSpdm

/-! ### The two allocators -/

/-- The loop shared by the two allocators: `0xFFFF - Index` for the first slot whose
id has the bits of `mask` clear, converted to `UINT16`; `fallback` when there is none. -/
def allocateSessionIdHalf (mask : UInt32) (fallback : UInt16) (ctx : SpdmDeviceContext) :
    UInt16 :=
  match findSessionSlot (fun s => s.sessionId &&& mask == invalidSessionId &&& mask)
      ctx.sessionInfo with
  | some i => 0xFFFF - i.toUInt16
  | none => fallback

/-- `SpdmAllocateReqSessionId`. -/
def spdmAllocateReqSessionId (ctx : SpdmDeviceContext) : UInt16 :=
  allocateSessionIdHalf 0xFFFF0000 ((invalidSessionId &&& 0xFFFF0000) >>> 16).toUInt16 ctx

/-- `SpdmAllocateRspSessionId`. -/
def spdmAllocateRspSessionId (ctx : SpdmDeviceContext) : UInt16 :=
  allocateSessionIdHalf 0xFFFF (invalidSessionId &&& 0xFFFF).toUInt16 ctx

/-! ### Bit arithmetic of session ids -/

theorem two_pow_mul_add_and {n q r m : Nat} (hr : r < 2 ^ n) :
    (2 ^ n * q + r) &&& (2 ^ n * m) = 2 ^ n * (q &&& m) := by
  apply Nat.eq_of_testBit_eq
  intro j
  rw [Nat.testBit_and, Nat.testBit_mul_pow_two_add q hr, Nat.testBit_mul_pow_two,
    Nat.testBit_mul_pow_two, Nat.testBit_and]
  by_cases hj : j < n
  · simp [hj, show ¬n ≤ j by omega]
  · simp [hj, show n ≤ j by omega]

theorem uint32_eq_zero_iff (x : UInt32) : x = 0 ↔ x.toNat = 0 :=
  ⟨fun h => h ▸ rfl, fun h => UInt32.toNat.inj (by simpa using h)⟩

theorem uint16_eq_zero_iff (x : UInt16) : x = 0 ↔ x.toNat = 0 :=
  ⟨fun h => h ▸ rfl, fun h => UInt16.toNat.inj (by simpa using h)⟩

/-- The requester's test: the upper half of the id is zero. -/
theorem and_upper_eq_zero_iff (x : UInt32) :
    x &&& 0xFFFF0000 = 0 ↔ x.toNat / 2 ^ 16 = 0 := by
  have hx : x.toNat < 2 ^ 32 := x.toBitVec.isLt
  have hsplit : x.toNat = 2 ^ 16 * (x.toNat / 2 ^ 16) + x.toNat % 2 ^ 16 :=
    (Nat.div_add_mod _ _).symm
  have hand : (x &&& 0xFFFF0000).toNat = 2 ^ 16 * (x.toNat / 2 ^ 16) := by
    rw [UInt32.and_toNat, show (0xFFFF0000 : UInt32).toNat = 2 ^ 16 * (2 ^ 16 - 1) from rfl]
    conv_lhs => rw [hsplit]
    rw [two_pow_mul_add_and (Nat.mod_lt _ (Nat.two_pow_pos 16)),
      Nat.and_pow_two_sub_one_eq_mod, Nat.mod_eq_of_lt (by omega)]
  rw [uint32_eq_zero_iff, hand]
  omega

/-- The responder's test: the lower half of the id is zero. -/
theorem and_lower_eq_zero_iff (x : UInt32) : x &&& 0xFFFF = 0 ↔ x.toNat % 2 ^ 16 = 0 := by
  rw [uint32_eq_zero_iff, UInt32.and_toNat,
    show (0xFFFF : UInt32).toNat = 2 ^ 16 - 1 from rfl, Nat.and_pow_two_sub_one_eq_mod]

/-- The id `(Upper << 16) | Lower` of two halves. -/
theorem toNat_composeSessionId (upper lower : UInt16) :
    ((upper.toUInt32 <<< 16) ||| lower.toUInt32).toNat = upper.toNat * 2 ^ 16 + lower.toNat := by
  have hu : upper.toNat < 2 ^ 16 := upper.toBitVec.isLt
  have hl : lower.toNat < 2 ^ 16 := lower.toBitVec.isLt
  have hshift : (upper.toUInt32 <<< 16).toNat = upper.toNat * 2 ^ 16 := by
    show (upper.toUInt32.toBitVec <<< (16 : Nat)).toNat = _
    rw [BitVec.toNat_shiftLeft, Nat.shiftLeft_eq, Nat.mod_eq_of_lt (by
      show upper.toNat * 2 ^ 16 < 2 ^ 32
      omega)]
    rfl
  show (BitVec.toNat (_ ||| _)) = _
  rw [BitVec.toNat_or]
  change (upper.toUInt32 <<< 16).toNat ||| lower.toNat = _
  rw [hshift, Nat.mul_comm, ← Nat.mul_add_lt_is_or hl]

/-- `(UINT16)(0xFFFF - Index)` for an index that fits. -/
theorem toNat_sub_index {i : Nat} (hi : i ≤ 0xFFFF) :
    ((0xFFFF : UInt16) - i.toUInt16).toNat = 0xFFFF - i := by
  have h : i.toUInt16.toNat = i := UInt16.toNat_ofNat_of_lt (by unfold UInt16.size; omega)
  rw [UInt16.toNat_sub_of_le _ _ (by show i.toUInt16.toNat ≤ 65535; omega), h]
  rfl

/-! ### The two roles -/

/-- One side's view of session ids: the half its allocator hands out, the mask the
allocator tests, and how an id is put together from this side's half and the
peer's. -/
structure HalfIdRole where
  allocate : SpdmDeviceContext → UInt16
  mask : UInt32
  half : UInt32 → Nat
  compose : UInt16 → UInt16 → UInt32
  allocate_eq : ∀ ctx, allocate ctx = allocateSessionIdHalf mask 0 ctx
  and_mask_eq_zero_iff : ∀ x, x &&& mask = 0 ↔ half x = 0
  half_compose : ∀ own peer, half (compose own peer) = own.toNat

/-- The requester: it allocates the upper half, and the id is
`(ReqSessionId << 16) | RspSessionId`. -/
def requesterRole : HalfIdRole where
  allocate := spdmAllocateReqSessionId
  mask := 0xFFFF0000
  half x := x.toNat / 2 ^ 16
  compose own peer := (own.toUInt32 <<< 16) ||| peer.toUInt32
  allocate_eq _ := rfl
  and_mask_eq_zero_iff := and_upper_eq_zero_iff
  half_compose own peer := by
    have : peer.toNat < 2 ^ 16 := peer.toBitVec.isLt
    show ((own.toUInt32 <<< 16) ||| peer.toUInt32).toNat / 2 ^ 16 = own.toNat
    rw [toNat_composeSessionId]
    omega

/-- The responder: it allocates the lower half. -/
def responderRole : HalfIdRole where
  allocate := spdmAllocateRspSessionId
  mask := 0xFFFF
  half x := x.toNat % 2 ^ 16
  compose own peer := (peer.toUInt32 <<< 16) ||| own.toUInt32
  allocate_eq _ := rfl
  and_mask_eq_zero_iff := and_lower_eq_zero_iff
  half_compose own peer := by
    have : own.toNat < 2 ^ 16 := own.toBitVec.isLt
    show ((peer.toUInt32 <<< 16) ||| own.toUInt32).toNat % 2 ^ 16 = own.toNat
    rw [toNat_composeSessionId]
    omega

/-- In a run of one role, every active slot `i` holds an id whose own half is
`0xFFFF - i`. -/
def HalvesByIndex (role : HalfIdRole) (l : List SpdmSessionInfo) : Prop :=
  ∀ i (hi : i < l.length), l[i].sessionId ≠ 0 → role.half l[i].sessionId = 0xFFFF - i

/-- Slot `i` is the lowest free slot. -/
def LowestFreeSlot (l : List SpdmSessionInfo) (i : Nat) : Prop :=
  ∃ h : i < l.length, l[i].sessionId = 0 ∧ ∀ j (hj : j < l.length), j < i → l[j].sessionId ≠ 0

theorem lowestFreeSlot_iff {l : List SpdmSessionInfo} {i : Nat} :
    LowestFreeSlot l i ↔ findSessionSlot (fun s => s.sessionId == 0) l = some i := by
  simp [LowestFreeSlot, findSessionSlot_eq_some_iff]

section Role

variable {role : HalfIdRole} {l : List SpdmSessionInfo}

theorem HalfIdRole.half_zero (role : HalfIdRole) : role.half 0 = 0 :=
  (role.and_mask_eq_zero_iff 0).mp ((uint32_eq_zero_iff _).mpr (by simp))

/-- While the halves are by index, the allocator's test on a slot is "the slot is
free". -/
theorem allocTest_eq (hh : HalvesByIndex role l) (hlen : l.length ≤ 0xFFFF) (j : Nat)
    (hj : j < l.length) :
    (l[j].sessionId &&& role.mask == invalidSessionId &&& role.mask) = (l[j].sessionId == 0) := by
  have hzero : invalidSessionId &&& role.mask = 0 := (uint32_eq_zero_iff _).mpr (by simp)
  rw [hzero, Bool.eq_iff_iff, beq_iff_eq, beq_iff_eq, role.and_mask_eq_zero_iff]
  by_cases hx : l[j].sessionId = 0
  · simp [hx, role.half_zero]
  · rw [hh j hj hx]
    simp only [hx, iff_false]
    omega

theorem allocate_of_free {ctx : SpdmDeviceContext} {i : Nat}
    (hh : HalvesByIndex role ctx.sessionInfo) (hlen : ctx.sessionInfo.length ≤ 0xFFFF)
    (hfree : findSessionSlot (fun s => s.sessionId == 0) ctx.sessionInfo = some i) :
    (role.allocate ctx).toNat = 0xFFFF - i := by
  rw [role.allocate_eq, allocateSessionIdHalf, findSessionSlot_congr (q := fun s => s.sessionId == 0) (allocTest_eq hh hlen),
    hfree]
  exact toNat_sub_index (by have := findSessionSlot_lt hfree; omega)

theorem allocate_of_full {ctx : SpdmDeviceContext} (hh : HalvesByIndex role ctx.sessionInfo)
    (hlen : ctx.sessionInfo.length ≤ 0xFFFF)
    (hfull : findSessionSlot (fun s => s.sessionId == 0) ctx.sessionInfo = none) :
    role.allocate ctx = 0 := by
  rw [role.allocate_eq, allocateSessionIdHalf, findSessionSlot_congr (q := fun s => s.sessionId == 0) (allocTest_eq hh hlen),
    hfull]

theorem halvesByIndex_modify {f : SpdmSessionInfo → SpdmSessionInfo} {k : Nat}
    (hh : HalvesByIndex role l)
    (hf : ∀ hk : k < l.length, (f l[k]).sessionId ≠ 0 → role.half (f l[k]).sessionId = 0xFFFF - k) :
    HalvesByIndex role (l.modify f k) := by
  intro j hj hne
  simp only [List.length_modify] at hj
  simp only [List.getElem_modify] at hne ⊢
  split_ifs at hne ⊢ with hkj
  · subst hkj
    exact hf hj hne
  · exact hh j hj hne

end Role

/-! ### Runs of one role -/

/-- A call of a run of one role: a session creation, which allocates this side's
half and assigns the id it makes with the peer's half, or a free. -/
inductive HalfIdCall
  | create (peerHalf : UInt16) (usePsk : Bool)
  | free (sessionId : UInt32)

/-- The context after one call. -/
def halfIdStep (cfg : SpdmLibConfig) (role : HalfIdRole) (ctx : SpdmDeviceContext) :
    HalfIdCall → SpdmDeviceContext
  | .create peerHalf usePsk =>
    (spdmAssignSessionId cfg ctx (role.compose (role.allocate ctx) peerHalf) usePsk).2
  | .free sessionId => (spdmFreeSessionId cfg ctx sessionId).2

/-- The context after a sequence of calls. -/
def halfIdRun (cfg : SpdmLibConfig) (role : HalfIdRole) (ctx : SpdmDeviceContext)
    (calls : List HalfIdCall) : SpdmDeviceContext :=
  calls.foldl (halfIdStep cfg role) ctx

/-- What the next allocation does at a state: on a free slot it returns
`0xFFFF - i` for the lowest free slot `i`, a nonzero half that no active session
has, and the assignment that follows takes slot `i`; with every slot active it
returns zero. -/
def AllocSpec (cfg : SpdmLibConfig) (role : HalfIdRole) (ctx : SpdmDeviceContext) : Prop :=
  (∀ i, LowestFreeSlot ctx.sessionInfo i →
    (role.allocate ctx).toNat = 0xFFFF - i ∧ role.allocate ctx ≠ 0 ∧
    (∀ j (hj : j < ctx.sessionInfo.length), ctx.sessionInfo[j].sessionId ≠ 0 →
      role.half ctx.sessionInfo[j].sessionId ≠ (role.allocate ctx).toNat) ∧
    ∀ peerHalf usePsk,
      (spdmAssignSessionId cfg ctx (role.compose (role.allocate ctx) peerHalf) usePsk).1 = some i) ∧
  ((∀ s ∈ ctx.sessionInfo, s.sessionId ≠ 0) → role.allocate ctx = 0)

section Run

variable {cfg : SpdmLibConfig} {base size : Nat} {role : HalfIdRole} {ctx : SpdmDeviceContext}

/-- **One creation on a free slot**: the allocated half is `0xFFFF - i` for the
lowest free slot `i`, it is nonzero and no active session has it, and the
assignment fills slot `i`. -/
theorem create_of_free (hinv : RegistryInv cfg base size ctx.sessionInfo)
    (hh : HalvesByIndex role ctx.sessionInfo) (hN : cfg.maxSpdmSessionCount ≤ 0xFFFF) {i : Nat}
    (hfree : findSessionSlot (fun s => s.sessionId == 0) ctx.sessionInfo = some i)
    (peerHalf : UInt16) (usePsk : Bool) :
    (role.allocate ctx).toNat = 0xFFFF - i ∧ role.allocate ctx ≠ 0 ∧
    (∀ j (hj : j < ctx.sessionInfo.length), ctx.sessionInfo[j].sessionId ≠ 0 →
      role.half ctx.sessionInfo[j].sessionId ≠ (role.allocate ctx).toNat) ∧
    spdmAssignSessionId cfg ctx (role.compose (role.allocate ctx) peerHalf) usePsk =
      (some i, { ctx with
        sessionInfo := ctx.sessionInfo.modify (fun s => spdmSessionInfoInit cfg ctx s
          (role.compose (role.allocate ctx) peerHalf) usePsk) i
        latestSessionId := role.compose (role.allocate ctx) peerHalf }) := by
  have hlen : ctx.sessionInfo.length ≤ 0xFFFF := hinv.length_eq ▸ hN
  obtain ⟨hi, hzero⟩ := findSessionSlot_beq_eq_some hfree
  have hval := allocate_of_free hh hlen hfree
  have hne : role.allocate ctx ≠ 0 := fun h0 => by
    rw [h0] at hval
    exact absurd hval (by simp; omega)
  have hfresh : ∀ j (hj : j < ctx.sessionInfo.length), ctx.sessionInfo[j].sessionId ≠ 0 →
      role.half ctx.sessionInfo[j].sessionId ≠ (role.allocate ctx).toNat := by
    intro j hj hact heq
    rw [hh j hj hact, hval] at heq
    have hji : j = i := by omega
    subst hji
    exact hact hzero
  have hid : role.compose (role.allocate ctx) peerHalf ≠ 0 := fun h0 => by
    have := role.half_compose (role.allocate ctx) peerHalf
    rw [h0, role.half_zero] at this
    exact hne ((uint16_eq_zero_iff _).mpr this.symm)
  have hdup : findSessionSlot (fun s => s.sessionId == role.compose (role.allocate ctx) peerHalf)
      ctx.sessionInfo = none := by
    rw [findSessionSlot_beq_eq_none_iff]
    intro s hs heq
    obtain ⟨j, hj, rfl⟩ := List.mem_iff_getElem.mp hs
    exact hfresh j hj (heq ▸ hid) (by rw [heq, role.half_compose])
  exact ⟨hval, hne, hfresh, spdmAssignSessionId_of_free hid hdup hfree⟩

/-- With every slot active, the allocator returns zero and the creation changes
nothing. -/
theorem create_of_full (hinv : RegistryInv cfg base size ctx.sessionInfo)
    (hh : HalvesByIndex role ctx.sessionInfo) (hN : cfg.maxSpdmSessionCount ≤ 0xFFFF)
    (hfull : findSessionSlot (fun s => s.sessionId == 0) ctx.sessionInfo = none)
    (peerHalf : UInt16) (usePsk : Bool) :
    role.allocate ctx = 0 ∧
    spdmAssignSessionId cfg ctx (role.compose (role.allocate ctx) peerHalf) usePsk = (none, ctx) := by
  refine ⟨allocate_of_full hh (hinv.length_eq ▸ hN) hfull, ?_⟩
  obtain ⟨hsome, hnone, -⟩ : AssignSpec cfg ctx (role.compose (role.allocate ctx) peerHalf) usePsk
      (spdmAssignSessionId cfg ctx (role.compose (role.allocate ctx) peerHalf) usePsk) :=
    assignSpec_of_inv hinv
  have hnotroom : ¬(activeSessionIds ctx.sessionInfo).card < cfg.maxSpdmSessionCount := by
    rw [← hinv.length_eq, card_activeSessionIds_lt_iff hinv.distinct]
    simpa [findSessionSlot_beq_eq_none_iff] using hfull
  have h1 : (spdmAssignSessionId cfg ctx (role.compose (role.allocate ctx) peerHalf) usePsk).1 =
      none := by
    rw [← Option.not_isSome_iff_eq_none, hsome]
    exact fun h => hnotroom h.2.2
  exact Prod.ext h1 (hnone h1)

theorem halvesByIndex_step (hinv : RegistryInv cfg base size ctx.sessionInfo)
    (hh : HalvesByIndex role ctx.sessionInfo) (hN : cfg.maxSpdmSessionCount ≤ 0xFFFF)
    (c : HalfIdCall) : HalvesByIndex role (halfIdStep cfg role ctx c).sessionInfo := by
  cases c with
  | create peerHalf usePsk =>
    simp only [halfIdStep]
    rcases hfree : findSessionSlot (fun s => s.sessionId == 0) ctx.sessionInfo with _ | i
    · rw [(create_of_full hinv hh hN hfree peerHalf usePsk).2]
      exact hh
    · obtain ⟨hval, -, -, heq⟩ := create_of_free hinv hh hN hfree peerHalf usePsk
      rw [heq]
      exact halvesByIndex_modify hh fun _ _ => by
        simp only [spdmSessionInfoInit_sessionId, role.half_compose, hval]
  | free sessionId =>
    simp only [halfIdStep, spdmFreeSessionId, invalidSessionId_eq]
    split_ifs
    · exact hh
    · split
      · exact halvesByIndex_modify hh fun _ h => absurd rfl h
      · exact hh

theorem registryInv_halfIdStep (hinv : RegistryInv cfg base size ctx.sessionInfo)
    (c : HalfIdCall) : RegistryInv cfg base size (halfIdStep cfg role ctx c).sessionInfo := by
  cases c with
  | create peerHalf usePsk => exact registryInv_assign hinv
  | free sessionId => exact registryInv_free hinv

theorem halfIdInv_run (hN : cfg.maxSpdmSessionCount ≤ 0xFFFF) (calls : List HalfIdCall) :
    ∀ {ctx : SpdmDeviceContext}, RegistryInv cfg base size ctx.sessionInfo →
      HalvesByIndex role ctx.sessionInfo →
      RegistryInv cfg base size (halfIdRun cfg role ctx calls).sessionInfo ∧
        HalvesByIndex role (halfIdRun cfg role ctx calls).sessionInfo := by
  induction calls with
  | nil => exact fun hinv hh => ⟨hinv, hh⟩
  | cons c calls ih =>
    exact fun hinv hh => ih (registryInv_halfIdStep hinv c) (halvesByIndex_step hinv hh hN c)

theorem allocSpec_of_inv (hinv : RegistryInv cfg base size ctx.sessionInfo)
    (hh : HalvesByIndex role ctx.sessionInfo) (hN : cfg.maxSpdmSessionCount ≤ 0xFFFF) :
    AllocSpec cfg role ctx := by
  refine ⟨fun i hlow => ?_, fun hall => ?_⟩
  · obtain ⟨hval, hne, hfresh, -⟩ := create_of_free hinv hh hN (lowestFreeSlot_iff.mp hlow) 0 false
    refine ⟨hval, hne, hfresh, fun peerHalf usePsk => ?_⟩
    rw [(create_of_free hinv hh hN (lowestFreeSlot_iff.mp hlow) peerHalf usePsk).2.2.2]
  · exact allocate_of_full hh (hinv.length_eq ▸ hN)
      (findSessionSlot_beq_eq_none_iff.mpr hall)

end Run

/-- **Half-id allocation agrees with slot assignment.** In every run of the requester
from `SpdmInitContext` – session creations, each an allocation followed by the
assignment of `(ReqSessionId << 16) | RspSessionId`, and frees – every active slot
`i` holds an id whose upper half is `0xFFFF - i`, and the next allocation behaves as
`OpenSpdm.AllocSpec` says; and the same for the responder, with the lower half. -/
theorem halfSessionIds_agree (cfg : SpdmLibConfig) (base size : Nat)
    (hN : cfg.maxSpdmSessionCount ≤ 0xFFFF) (reqCalls rspCalls : List HalfIdCall) :
    (HalvesByIndex requesterRole
        (halfIdRun cfg requesterRole (spdmInitContext cfg base size) reqCalls).sessionInfo ∧
      AllocSpec cfg requesterRole
        (halfIdRun cfg requesterRole (spdmInitContext cfg base size) reqCalls)) ∧
    (HalvesByIndex responderRole
        (halfIdRun cfg responderRole (spdmInitContext cfg base size) rspCalls).sessionInfo ∧
      AllocSpec cfg responderRole
        (halfIdRun cfg responderRole (spdmInitContext cfg base size) rspCalls)) := by
  have hinit : ∀ role, HalvesByIndex role (spdmInitContext cfg base size).sessionInfo :=
    fun _ i hi hne => by simp [spdmInitContext, initSessionInfo] at hne
  have hreq := halfIdInv_run hN reqCalls (registryInv_init cfg base size) (hinit requesterRole)
  have hrsp := halfIdInv_run hN rspCalls (registryInv_init cfg base size) (hinit responderRole)
  exact ⟨⟨hreq.2, allocSpec_of_inv hreq.1 hreq.2 hN⟩, ⟨hrsp.2, allocSpec_of_inv hrsp.1 hrsp.2 hN⟩⟩

theorem halfSessionIds_agree_typical :
    typicalSpdmLibConfig.maxSpdmSessionCount ≤ 0xFFFF ∧
    (HalvesByIndex requesterRole (halfIdRun typicalSpdmLibConfig requesterRole
        (spdmInitContext typicalSpdmLibConfig 0 0) [.create 0x1234 false]).sessionInfo ∧
      AllocSpec typicalSpdmLibConfig requesterRole (halfIdRun typicalSpdmLibConfig requesterRole
        (spdmInitContext typicalSpdmLibConfig 0 0) [.create 0x1234 false])) ∧
    (HalvesByIndex responderRole (halfIdRun typicalSpdmLibConfig responderRole
        (spdmInitContext typicalSpdmLibConfig 0 0) [.create 0x1234 true]).sessionInfo ∧
      AllocSpec typicalSpdmLibConfig responderRole (halfIdRun typicalSpdmLibConfig responderRole
        (spdmInitContext typicalSpdmLibConfig 0 0) [.create 0x1234 true])) :=
  ⟨by decide, halfSessionIds_agree typicalSpdmLibConfig 0 0 (by decide) _ _⟩

end OpenSpdm
