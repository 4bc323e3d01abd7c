import OpenSpdm.Context

/-!
# The session registry

`SpdmCommonLibContextData.c` keeps the sessions of a connection in the fixed table
`SessionInfo[MAX_SPDM_SESSION_COUNT]`. A slot is free when its `SessionId` is
`INVALID_SESSION_ID`, that is zero, and active otherwise. Three functions search
the table from the first slot on:

* `OpenSpdm.spdmGetSessionInfoViaSessionId` returns the first slot holding an id;
* `OpenSpdm.spdmAssignSessionId` refuses an id some slot already holds, and
  otherwise initialises the first free slot with it;
* `OpenSpdm.spdmFreeSessionId` reinitialises the first slot holding an id as free.

All three are the same loop, `OpenSpdm.findSessionSlot`, with a different test.

What the table is *for* is a bounded set of session ids. `OpenSpdm.activeSessionIds`
reads that set off the table, and the invariant `OpenSpdm.RegistryInv` – the active
ids are pairwise distinct, and every slot still points to the secured-message
context `SpdmInitContext` gave it – is what makes the table a faithful
representation of it: under the invariant, assigning is inserting into a set with
fewer than `MAX_SPDM_SESSION_COUNT` elements, freeing is erasing, and looking up
is membership (`OpenSpdm.sessionRegistry_refines`). Since `SpdmAssignSessionId`
checks for a duplicate before it takes a free slot, a second slot can never
receive an id that is already active, which is what keeps the invariant.

The same invariant places the sessions' keys: after any run of assignments, frees
and lookups from `SpdmInitContext`, `SpdmGetSessionKeyInfoViaSessionId` returns for
every active session a secured-message context inside the allocation
`SpdmGetContextSize` asks for, apart from every other session's
(`OpenSpdm.spdmGetSessionKeyInfoViaSessionId_disjoint`).

`SpdmGetSessionInfoViaSessionId` meets `INVALID_SESSION_ID` with `ASSERT (FALSE)` and
then `return NULL`. Elsewhere the model takes a failed `ASSERT` for `none`; here it
follows the release build, where the `ASSERT` is empty, and returns the `NULL` of a
session not found. `SpdmAssignSessionId` and `SpdmFreeSessionId` reject the id before
they search, so only a lookup reaches that `ASSERT`.
-/

namespace OpenSpdm

/-! ### Searching the table -/

/-- The loop `for (Index = 0; Index < MAX_SPDM_SESSION_COUNT; Index++)` that stops at
the first slot passing a test: the index of that slot. -/
def findSessionSlot (p : SpdmSessionInfo → Bool) : List SpdmSessionInfo → Option Nat
  | [] => none
  | s :: ss => if p s then some 0 else (findSessionSlot p ss).map (· + 1)

/-- The loop is the library's search for the first index passing the test. -/
theorem findSessionSlot_eq_findIdx {p : SpdmSessionInfo → Bool} :
    ∀ l, findSessionSlot p l = l.findIdx? p
  | [] => rfl
  | s :: ss => by
    simp only [findSessionSlot, List.findIdx?_cons, List.findIdx?_succ, findSessionSlot_eq_findIdx ss]

theorem findSessionSlot_eq_none_iff {p : SpdmSessionInfo → Bool} {l : List SpdmSessionInfo} :
    findSessionSlot p l = none ↔ ∀ s ∈ l, p s = false := by
  rw [findSessionSlot_eq_findIdx, List.findIdx?_eq_none_iff]

/-- **The search finds the first slot passing the test.** -/
theorem findSessionSlot_eq_some_iff {p : SpdmSessionInfo → Bool} {l : List SpdmSessionInfo}
    {i : Nat} : findSessionSlot p l = some i ↔
      ∃ h : i < l.length, p l[i] = true ∧ ∀ j (hj : j < l.length), j < i → p l[j] = false := by
  simp only [findSessionSlot_eq_findIdx, List.findIdx?_eq_some_iff_getElem, Bool.not_eq_true]
  exact exists_congr fun h => and_congr_right' ⟨fun H j _ hji => H j hji, fun H j hji => H j _ hji⟩

/-- Two tests that agree on every slot find the same slot. -/
theorem findSessionSlot_congr {p q : SpdmSessionInfo → Bool} {l : List SpdmSessionInfo}
    (h : ∀ j (hj : j < l.length), p l[j] = q l[j]) : findSessionSlot p l = findSessionSlot q l := by
  induction l with
  | nil => rfl
  | cons s ss ih =>
    have h0 : p s = q s := by simpa using h 0 (by simp)
    simp only [findSessionSlot, h0,
      ih fun j hj => by simpa using h (j + 1) (by simpa using hj)]

theorem findSessionSlot_lt {p : SpdmSessionInfo → Bool} {l : List SpdmSessionInfo} {i : Nat}
    (h : findSessionSlot p l = some i) : i < l.length :=
  (findSessionSlot_eq_some_iff.mp h).1

/-! ### The three operations -/

/-- The session type `SpdmSessionInfoInit` derives from the negotiated encryption and
MAC capabilities. -/
def spdmSessionTypeOf (flags : UInt32) : SpdmSessionType :=
  let caps := flags &&& (spdmGetCapabilitiesRequestFlagsEncryptCap |||
    spdmGetCapabilitiesRequestFlagsMacCap)
  if caps = 0 then .none
  else if caps = spdmGetCapabilitiesRequestFlagsEncryptCap |||
      spdmGetCapabilitiesRequestFlagsMacCap then .encMac
  else if caps = spdmGetCapabilitiesRequestFlagsMacCap then .macOnly
  else .max

/-- `SpdmSessionInfoInit`: zero the slot up to its `SecuredMessageContext` pointer,
reinitialise the context it points to, and set the id, the PSK flag and the
transcript capacities. -/
def spdmSessionInfoInit (cfg : SpdmLibConfig) (ctx : SpdmDeviceContext)
    (sessionInfo : SpdmSessionInfo) (sessionId : UInt32) (usePsk : Bool) : SpdmSessionInfo :=
  { sessionId := sessionId
    usePsk := usePsk
    mutAuthRequested := 0
    sessionTranscript :=
      { messageK := initManagedBuffer cfg.maxSpdmMessageBufferSize
        messageF := initManagedBuffer cfg.maxSpdmMessageBufferSize }
    securedMessageContext := sessionInfo.securedMessageContext
    securedMessage :=
      { sessionType := spdmSessionTypeOf ctx.connectionInfo.capability.flags
        usePsk := usePsk
        baseHashAlgo := ctx.connectionInfo.algorithm.baseHashAlgo
        dheNamedGroup := ctx.connectionInfo.algorithm.dheNamedGroup
        aeadCipherSuite := ctx.connectionInfo.algorithm.aeadCipherSuite
        keySchedule := ctx.connectionInfo.algorithm.keySchedule
        pskHint := ctx.localContext.pskHint } }

/-- `SpdmGetSessionInfoViaSessionId`: the index of the slot holding the session. -/
def spdmGetSessionInfoViaSessionId (ctx : SpdmDeviceContext) (sessionId : UInt32) :
    Option Nat :=
  if sessionId = invalidSessionId then none
  else findSessionSlot (fun s => s.sessionId == sessionId) ctx.sessionInfo

/-- `SpdmGetSessionKeyInfoViaSessionId`: the secured-message context of the slot
holding the session, as its address. -/
def spdmGetSessionKeyInfoViaSessionId (ctx : SpdmDeviceContext) (sessionId : UInt32) :
    Option Nat :=
  (spdmGetSessionInfoViaSessionId ctx sessionId).bind fun index =>
    ctx.sessionInfo[index]?.map (·.securedMessageContext)

/-- `SpdmAssignSessionId`: the index of the slot that now holds the session, and the
context after the call. -/
def spdmAssignSessionId (cfg : SpdmLibConfig) (ctx : SpdmDeviceContext) (sessionId : UInt32)
    (usePsk : Bool) : Option Nat × SpdmDeviceContext :=
  if sessionId = invalidSessionId then (none, ctx)
  else match findSessionSlot (fun s => s.sessionId == sessionId) ctx.sessionInfo with
    | some _ => (none, ctx)
    | none =>
      match findSessionSlot (fun s => s.sessionId == invalidSessionId) ctx.sessionInfo with
      | some i =>
        (some i, { ctx with
          sessionInfo := ctx.sessionInfo.modify
            (fun s => spdmSessionInfoInit cfg ctx s sessionId usePsk) i
          latestSessionId := sessionId })
      | none => (none, ctx)

/-- `SpdmFreeSessionId`: the index of the slot that held the session, and the context
after the call. -/
def spdmFreeSessionId (cfg : SpdmLibConfig) (ctx : SpdmDeviceContext) (sessionId : UInt32) :
    Option Nat × SpdmDeviceContext :=
  if sessionId = invalidSessionId then (none, ctx)
  else match findSessionSlot (fun s => s.sessionId == sessionId) ctx.sessionInfo with
    | some i =>
      (some i, { ctx with
        sessionInfo := ctx.sessionInfo.modify
          (fun s => spdmSessionInfoInit cfg ctx s invalidSessionId false) i })
    | none => (none, ctx)

@[simp] theorem spdmSessionInfoInit_sessionId (cfg : SpdmLibConfig) (ctx : SpdmDeviceContext)
    (s : SpdmSessionInfo) (sessionId : UInt32) (usePsk : Bool) :
    (spdmSessionInfoInit cfg ctx s sessionId usePsk).sessionId = sessionId := rfl

@[simp] theorem spdmSessionInfoInit_securedMessageContext (cfg : SpdmLibConfig)
    (ctx : SpdmDeviceContext) (s : SpdmSessionInfo) (sessionId : UInt32) (usePsk : Bool) :
    (spdmSessionInfoInit cfg ctx s sessionId usePsk).securedMessageContext =
      s.securedMessageContext := rfl

@[simp] theorem invalidSessionId_eq : invalidSessionId = 0 := rfl

/-! ### The abstraction to a set of ids -/

/-- The set the table represents: the ids of its active slots. -/
def activeSessionIds (l : List SpdmSessionInfo) : Finset UInt32 :=
  ((l.map (·.sessionId)).filter (· ≠ invalidSessionId)).toFinset

theorem mem_activeSessionIds {l : List SpdmSessionInfo} {x : UInt32} :
    x ∈ activeSessionIds l ↔ x ≠ 0 ∧ ∃ s ∈ l, s.sessionId = x := by
  simp only [activeSessionIds, List.mem_toFinset, List.mem_filter, List.mem_map,
    invalidSessionId_eq, ne_eq, decide_not, Bool.not_eq_true', decide_eq_false_iff_not]
  constructor
  · rintro ⟨⟨s, hs, rfl⟩, hx⟩
    exact ⟨hx, s, hs, rfl⟩
  · rintro ⟨hx, s, hs, rfl⟩
    exact ⟨⟨s, hs, rfl⟩, hx⟩

/-- No two slots hold the same active id. -/
def SessionIdsDistinct (l : List SpdmSessionInfo) : Prop :=
  ∀ i j (hi : i < l.length) (hj : j < l.length),
    l[i].sessionId = l[j].sessionId → l[i].sessionId ≠ 0 → i = j

theorem nodup_activeIds_of_distinct {l : List SpdmSessionInfo} (h : SessionIdsDistinct l) :
    ((l.map (·.sessionId)).filter (· ≠ invalidSessionId)).Nodup := by
  rw [List.Nodup, List.pairwise_filter, List.pairwise_map, List.pairwise_iff_getElem]
  intro i j hi hj hij hx _ heq
  exact absurd (h i j (by simpa using hi) (by simpa using hj) (by simpa using heq)
    (by simpa using hx)) (by omega)

theorem card_activeSessionIds {l : List SpdmSessionInfo} (h : SessionIdsDistinct l) :
    (activeSessionIds l).card = ((l.map (·.sessionId)).filter (· ≠ invalidSessionId)).length :=
  List.toFinset_card_of_nodup (nodup_activeIds_of_distinct h)

/-- Under distinctness, the set is smaller than the table exactly when a slot is
free. -/
theorem card_activeSessionIds_lt_iff {l : List SpdmSessionInfo} (h : SessionIdsDistinct l) :
    (activeSessionIds l).card < l.length ↔ ∃ s ∈ l, s.sessionId = 0 := by
  rw [card_activeSessionIds h, ← List.length_map l (·.sessionId),
    List.length_filter_lt_length_iff_exists]
  simp

/-- What a slot holds once `SpdmSessionInfoInit` has set it up for a session. -/
def FreshSlot (sessionId : UInt32) (usePsk : Bool) (s : SpdmSessionInfo) : Prop :=
  s.sessionId = sessionId ∧ s.usePsk = usePsk ∧ s.mutAuthRequested = 0 ∧
    s.sessionTranscript.messageK.buffer = [] ∧ s.sessionTranscript.messageF.buffer = []

theorem freshSlot_spdmSessionInfoInit (cfg : SpdmLibConfig) (ctx : SpdmDeviceContext)
    (s : SpdmSessionInfo) (sessionId : UInt32) (usePsk : Bool) :
    FreshSlot sessionId usePsk (spdmSessionInfoInit cfg ctx s sessionId usePsk) :=
  ⟨rfl, rfl, rfl, rfl, rfl⟩

/-- The slots of `l'` other than `i` are those of `l`. -/
def SlotsFramed (l l' : List SpdmSessionInfo) (i : Nat) : Prop :=
  l'.length = l.length ∧ ∀ j (hj : j < l.length) (hj' : j < l'.length), j ≠ i → l'[j] = l[j]

theorem slotsFramed_modify (l : List SpdmSessionInfo) (f : SpdmSessionInfo → SpdmSessionInfo)
    (i : Nat) : SlotsFramed l (l.modify f i) i :=
  ⟨List.length_modify f i l, fun j _ _ hji => by rw [List.getElem_modify, if_neg (Ne.symm hji)]⟩

/-- The registry invariant: the table has `MAX_SPDM_SESSION_COUNT` slots, each still
points to the secured-message context `SpdmInitContext` gave it, and the active ids
are pairwise distinct. -/
structure RegistryInv (cfg : SpdmLibConfig) (base size : Nat) (l : List SpdmSessionInfo) :
    Prop where
  length_eq : l.length = cfg.maxSpdmSessionCount
  pointer_eq : ∀ i (h : i < l.length), l[i].securedMessageContext = base + size * i
  distinct : SessionIdsDistinct l

theorem registryInv_init (cfg : SpdmLibConfig) (base size : Nat) :
    RegistryInv cfg base size (spdmInitContext cfg base size).sessionInfo where
  length_eq := by simp
  pointer_eq i h := by simp [spdmInitContext, initSessionInfo]
  distinct i j hi hj _ hne := by simp [spdmInitContext, initSessionInfo] at hne

/-! ### One operation at a time -/

section Modify

variable {l : List SpdmSessionInfo} {f : SpdmSessionInfo → SpdmSessionInfo} {i : Nat}

theorem mem_activeSessionIds_modify {y : UInt32} :
    y ∈ activeSessionIds (l.modify f i) ↔
      y ≠ 0 ∧ ((∃ j, ∃ hj : j < l.length, j ≠ i ∧ l[j].sessionId = y) ∨
        ∃ h : i < l.length, (f l[i]).sessionId = y) := by
  simp only [mem_activeSessionIds, List.mem_iff_getElem, List.length_modify,
    List.getElem_modify]
  refine and_congr_right fun _ => ⟨?_, ?_⟩
  · rintro ⟨s, ⟨j, hj, rfl⟩, rfl⟩
    by_cases hij : i = j
    · subst hij
      exact Or.inr ⟨hj, by simp⟩
    · exact Or.inl ⟨j, hj, Ne.symm hij, by simp [hij]⟩
  · rintro (⟨j, hj, hji, rfl⟩ | ⟨h, rfl⟩)
    · exact ⟨_, ⟨j, hj, by simp [Ne.symm hji]⟩, rfl⟩
    · exact ⟨_, ⟨i, h, by simp⟩, rfl⟩

/-- Setting up a free slot for a new id adds that id to the set. -/
theorem activeSessionIds_modify_insert {x : UInt32} (hi : i < l.length) (hfree : l[i].sessionId = 0)
    (hx : x ≠ 0) (hf : (f l[i]).sessionId = x) :
    activeSessionIds (l.modify f i) = insert x (activeSessionIds l) := by
  ext y
  rw [mem_activeSessionIds_modify, Finset.mem_insert, mem_activeSessionIds]
  constructor
  · rintro ⟨hy, ⟨j, hj, -, rfl⟩ | ⟨_, rfl⟩⟩
    · exact Or.inr ⟨hy, _, List.getElem_mem hj, rfl⟩
    · exact Or.inl hf
  · rintro (rfl | ⟨hy, s, hs, rfl⟩)
    · exact ⟨hx, Or.inr ⟨hi, hf⟩⟩
    · obtain ⟨j, hj, rfl⟩ := List.mem_iff_getElem.mp hs
      refine ⟨hy, Or.inl ⟨j, hj, fun hji => ?_, rfl⟩⟩
      subst hji
      exact hy hfree

/-- Freeing the slot of an active id removes that id from the set. -/
theorem activeSessionIds_modify_erase {x : UInt32} (hd : SessionIdsDistinct l) (hi : i < l.length)
    (hx : l[i].sessionId = x) (hf : (f l[i]).sessionId = 0) :
    activeSessionIds (l.modify f i) = (activeSessionIds l).erase x := by
  ext y
  rw [mem_activeSessionIds_modify, Finset.mem_erase, mem_activeSessionIds]
  constructor
  · rintro ⟨hy, ⟨j, hj, hji, rfl⟩ | ⟨_, rfl⟩⟩
    · exact ⟨fun hyx => hji (hd j i hj hi (hyx.trans hx.symm) hy), hy, _,
        List.getElem_mem hj, rfl⟩
    · exact absurd hf hy
  · rintro ⟨hyx, hy, s, hs, rfl⟩
    obtain ⟨j, hj, rfl⟩ := List.mem_iff_getElem.mp hs
    exact ⟨hy, Or.inl ⟨j, hj, fun hji => by subst hji; exact hyx hx, rfl⟩⟩

/-- Writing an id that is zero or held by no slot keeps the ids distinct. -/
theorem sessionIdsDistinct_modify (hd : SessionIdsDistinct l)
    (hnew : ∀ s, (f s).sessionId = 0 ∨ ∀ t ∈ l, t.sessionId ≠ (f s).sessionId) :
    SessionIdsDistinct (l.modify f i) := by
  intro a b ha hb heq hne
  simp only [List.length_modify] at ha hb
  simp only [List.getElem_modify] at heq hne
  rcases eq_or_ne i a with rfl | hia <;> rcases eq_or_ne i b with rfl | hib
  · rfl
  · simp only [↓reduceIte, hib] at heq hne
    exact ((hnew _).resolve_left hne _ (List.getElem_mem hb) heq.symm).elim
  · simp only [↓reduceIte, hia] at heq hne
    exact ((hnew _).resolve_left (heq ▸ hne) _ (List.getElem_mem ha) heq).elim
  · simp only [hia, hib, ↓reduceIte] at heq hne
    exact hd a b ha hb heq hne

theorem registryInv_modify {cfg : SpdmLibConfig} {base size : Nat}
    (h : RegistryInv cfg base size l)
    (hptr : ∀ s, (f s).securedMessageContext = s.securedMessageContext)
    (hnew : ∀ s, (f s).sessionId = 0 ∨ ∀ t ∈ l, t.sessionId ≠ (f s).sessionId) :
    RegistryInv cfg base size (l.modify f i) where
  length_eq := by rw [List.length_modify, h.length_eq]
  pointer_eq j hj := by
    rw [List.getElem_modify]
    split_ifs <;> simp only [hptr, h.pointer_eq]
  distinct := sessionIdsDistinct_modify h.distinct hnew

/-- A write through a slot's pointer that keeps its id keeps every slot's id. -/
theorem sessionId_getElem_modify (hid : ∀ s, (f s).sessionId = s.sessionId) {j : Nat}
    (hj : j < (l.modify f i).length) (hj' : j < l.length) :
    (l.modify f i)[j].sessionId = l[j].sessionId := by
  rw [List.getElem_modify]
  split_ifs <;> simp only [hid]

theorem activeSessionIds_modify_of_sessionId (hid : ∀ s, (f s).sessionId = s.sessionId) :
    activeSessionIds (l.modify f i) = activeSessionIds l := by
  have hmap : (l.modify f i).map (·.sessionId) = l.map (·.sessionId) :=
    List.ext_getElem (by simp) fun j hj _ => by
      simp only [List.getElem_map, sessionId_getElem_modify hid _ (by simpa using hj)]
  rw [activeSessionIds, hmap, activeSessionIds]

/-- A write through a slot's pointer that keeps its id and pointer keeps the
invariant. -/
theorem registryInv_modify_of_sessionId {cfg : SpdmLibConfig} {base size : Nat}
    (h : RegistryInv cfg base size l) (hid : ∀ s, (f s).sessionId = s.sessionId)
    (hptr : ∀ s, (f s).securedMessageContext = s.securedMessageContext) :
    RegistryInv cfg base size (l.modify f i) where
  length_eq := by rw [List.length_modify, h.length_eq]
  pointer_eq j hj := by
    rw [List.getElem_modify]
    split_ifs <;> simp only [hptr, h.pointer_eq]
  distinct a b ha hb heq hne := by
    have ha' : a < l.length := by simpa using ha
    have hb' : b < l.length := by simpa using hb
    rw [sessionId_getElem_modify hid ha ha', sessionId_getElem_modify hid hb hb'] at heq
    rw [sessionId_getElem_modify hid ha ha'] at hne
    exact h.distinct a b ha' hb' heq hne

end Modify

/-! ### What each operation promises -/

/-- What `SpdmAssignSessionId` promises on the set `S` of active ids: it succeeds
exactly when the id is nonzero, not in `S`, and `S` is not full; then the id is
added to `S`, the chosen slot is freshly set up and the others are untouched; when
it fails, nothing changes. -/
def AssignSpec (cfg : SpdmLibConfig) (ctx : SpdmDeviceContext) (sessionId : UInt32)
    (usePsk : Bool) (r : Option Nat × SpdmDeviceContext) : Prop :=
  (r.1.isSome ↔ sessionId ≠ 0 ∧ sessionId ∉ activeSessionIds ctx.sessionInfo ∧
      (activeSessionIds ctx.sessionInfo).card < cfg.maxSpdmSessionCount) ∧
  (r.1 = none → r.2 = ctx) ∧
  ∀ i, r.1 = some i →
    activeSessionIds r.2.sessionInfo = insert sessionId (activeSessionIds ctx.sessionInfo) ∧
    SlotsFramed ctx.sessionInfo r.2.sessionInfo i ∧
    ∃ h : i < r.2.sessionInfo.length, FreshSlot sessionId usePsk r.2.sessionInfo[i]

/-- What `SpdmFreeSessionId` promises: it succeeds exactly when the id is a nonzero
member of `S`, which it then removes, touching no other slot. -/
def FreeSpec (ctx : SpdmDeviceContext) (sessionId : UInt32)
    (r : Option Nat × SpdmDeviceContext) : Prop :=
  (r.1.isSome ↔ sessionId ≠ 0 ∧ sessionId ∈ activeSessionIds ctx.sessionInfo) ∧
  (r.1 = none → r.2 = ctx) ∧
  ∀ i, r.1 = some i →
    activeSessionIds r.2.sessionInfo = (activeSessionIds ctx.sessionInfo).erase sessionId ∧
    SlotsFramed ctx.sessionInfo r.2.sessionInfo i

/-- What `SpdmGetSessionInfoViaSessionId` promises: a slot exactly for a nonzero
member of `S`, and that slot holds the id. -/
def GetSpec (ctx : SpdmDeviceContext) (sessionId : UInt32) (r : Option Nat) : Prop :=
  (r.isSome ↔ sessionId ≠ 0 ∧ sessionId ∈ activeSessionIds ctx.sessionInfo) ∧
  ∀ i, r = some i → ∃ h : i < ctx.sessionInfo.length, ctx.sessionInfo[i].sessionId = sessionId

section Operations

variable {cfg : SpdmLibConfig} {base size : Nat} {ctx : SpdmDeviceContext} {sessionId : UInt32}
  {usePsk : Bool}

theorem findSessionSlot_beq_eq_none_iff {l : List SpdmSessionInfo} {x : UInt32} :
    findSessionSlot (fun s => s.sessionId == x) l = none ↔ ∀ s ∈ l, s.sessionId ≠ x := by
  simp [findSessionSlot_eq_none_iff]

theorem findSessionSlot_beq_eq_some {l : List SpdmSessionInfo} {x : UInt32} {i : Nat}
    (h : findSessionSlot (fun s => s.sessionId == x) l = some i) :
    ∃ h : i < l.length, l[i].sessionId = x := by
  obtain ⟨hi, hp, -⟩ := findSessionSlot_eq_some_iff.mp h
  exact ⟨hi, by simpa using hp⟩

theorem not_mem_activeSessionIds_iff {l : List SpdmSessionInfo} (hx : sessionId ≠ 0) :
    sessionId ∉ activeSessionIds l ↔
      findSessionSlot (fun s => s.sessionId == sessionId) l = none := by
  rw [findSessionSlot_beq_eq_none_iff, mem_activeSessionIds]
  simp [hx]

/-- The branch of `SpdmAssignSessionId` that takes the first free slot. -/
theorem spdmAssignSessionId_of_free {i : Nat} (hid : sessionId ≠ 0)
    (hdup : findSessionSlot (fun s => s.sessionId == sessionId) ctx.sessionInfo = none)
    (hfree : findSessionSlot (fun s => s.sessionId == 0) ctx.sessionInfo = some i) :
    spdmAssignSessionId cfg ctx sessionId usePsk =
      (some i, { ctx with
        sessionInfo := ctx.sessionInfo.modify
          (fun s => spdmSessionInfoInit cfg ctx s sessionId usePsk) i
        latestSessionId := sessionId }) := by
  simp [spdmAssignSessionId, hid, hdup, hfree]

theorem assignSpec_of_inv (h : RegistryInv cfg base size ctx.sessionInfo) :
    AssignSpec cfg ctx sessionId usePsk (spdmAssignSessionId cfg ctx sessionId usePsk) := by
  unfold spdmAssignSessionId
  by_cases hid : sessionId = 0
  · simp [AssignSpec, hid]
  simp only [invalidSessionId_eq, hid, ↓reduceIte]
  rcases hdup : findSessionSlot (fun s => s.sessionId == sessionId) ctx.sessionInfo with _ | k
  · have hnot := (not_mem_activeSessionIds_iff (l := ctx.sessionInfo) hid).mpr hdup
    rcases hfree : findSessionSlot (fun s => s.sessionId == 0) ctx.sessionInfo with _ | i
    · have hfull : ¬(activeSessionIds ctx.sessionInfo).card < cfg.maxSpdmSessionCount := by
        rw [← h.length_eq, card_activeSessionIds_lt_iff h.distinct]
        simpa [findSessionSlot_beq_eq_none_iff] using hfree
      simp [AssignSpec, hfull]
    · obtain ⟨hi, hzero⟩ := findSessionSlot_beq_eq_some hfree
      have hroom : (activeSessionIds ctx.sessionInfo).card < cfg.maxSpdmSessionCount := by
        rw [← h.length_eq, card_activeSessionIds_lt_iff h.distinct]
        exact ⟨_, List.getElem_mem hi, hzero⟩
      refine ⟨by simp [hid, hnot, hroom], by simp, fun j hj => ?_⟩
      cases hj
      exact ⟨activeSessionIds_modify_insert hi hzero hid rfl, slotsFramed_modify _ _ _,
        by simpa using hi, by simpa using freshSlot_spdmSessionInfoInit cfg ctx _ _ _⟩
  · obtain ⟨hk, hheld⟩ := findSessionSlot_beq_eq_some hdup
    have hmem : sessionId ∈ activeSessionIds ctx.sessionInfo :=
      mem_activeSessionIds.mpr ⟨hid, _, List.getElem_mem hk, hheld⟩
    simp [AssignSpec, hmem]

theorem freeSpec_of_inv (h : RegistryInv cfg base size ctx.sessionInfo) :
    FreeSpec ctx sessionId (spdmFreeSessionId cfg ctx sessionId) := by
  unfold spdmFreeSessionId
  by_cases hid : sessionId = 0
  · simp [FreeSpec, hid]
  simp only [invalidSessionId_eq, hid, ↓reduceIte]
  rcases hdup : findSessionSlot (fun s => s.sessionId == sessionId) ctx.sessionInfo with _ | k
  · have hnot := (not_mem_activeSessionIds_iff (l := ctx.sessionInfo) hid).mpr hdup
    simp [FreeSpec, hnot]
  · obtain ⟨hk, hheld⟩ := findSessionSlot_beq_eq_some hdup
    have hmem : sessionId ∈ activeSessionIds ctx.sessionInfo :=
      mem_activeSessionIds.mpr ⟨hid, _, List.getElem_mem hk, hheld⟩
    refine ⟨by simp [hid, hmem], by simp, fun j hj => ?_⟩
    cases hj
    exact ⟨activeSessionIds_modify_erase h.distinct hk hheld rfl, slotsFramed_modify _ _ _⟩

theorem getSpec_of_inv : GetSpec ctx sessionId (spdmGetSessionInfoViaSessionId ctx sessionId) := by
  unfold spdmGetSessionInfoViaSessionId
  by_cases hid : sessionId = 0
  · simp [GetSpec, hid]
  simp only [invalidSessionId_eq, hid, ↓reduceIte]
  refine ⟨?_, fun i hi => findSessionSlot_beq_eq_some hi⟩
  rw [Option.isSome_iff_ne_none, Ne, ← not_mem_activeSessionIds_iff hid]
  simp [hid]

theorem registryInv_assign (h : RegistryInv cfg base size ctx.sessionInfo) :
    RegistryInv cfg base size (spdmAssignSessionId cfg ctx sessionId usePsk).2.sessionInfo := by
  unfold spdmAssignSessionId
  by_cases hid : sessionId = 0
  · simpa [hid] using h
  simp only [invalidSessionId_eq, hid, ↓reduceIte]
  rcases hdup : findSessionSlot (fun s => s.sessionId == sessionId) ctx.sessionInfo with _ | k
  · rcases findSessionSlot (fun s => s.sessionId == 0) ctx.sessionInfo with _ | i
    · exact h
    · exact registryInv_modify h (fun _ => rfl)
        fun _ => Or.inr (findSessionSlot_beq_eq_none_iff.mp hdup)
  · exact h

theorem registryInv_free (h : RegistryInv cfg base size ctx.sessionInfo) :
    RegistryInv cfg base size (spdmFreeSessionId cfg ctx sessionId).2.sessionInfo := by
  unfold spdmFreeSessionId
  by_cases hid : sessionId = 0
  · simpa [hid] using h
  simp only [invalidSessionId_eq, hid, ↓reduceIte]
  rcases findSessionSlot (fun s => s.sessionId == sessionId) ctx.sessionInfo with _ | k
  · exact h
  · exact registryInv_modify h (fun _ => rfl) fun _ => Or.inl rfl

end Operations

/-! ### Runs of the registry -/

/-- A call to one of the three registry functions, with its arguments. -/
inductive RegistryCall
  | assign (sessionId : UInt32) (usePsk : Bool)
  | free (sessionId : UInt32)
  | get (sessionId : UInt32)

/-- The context after one call. -/
def registryStep (cfg : SpdmLibConfig) (ctx : SpdmDeviceContext) :
    RegistryCall → SpdmDeviceContext
  | .assign sessionId usePsk => (spdmAssignSessionId cfg ctx sessionId usePsk).2
  | .free sessionId => (spdmFreeSessionId cfg ctx sessionId).2
  | .get _ => ctx

/-- The context after a sequence of calls. -/
def registryRun (cfg : SpdmLibConfig) (ctx : SpdmDeviceContext) (calls : List RegistryCall) :
    SpdmDeviceContext :=
  calls.foldl (registryStep cfg) ctx

theorem registryInv_step {cfg : SpdmLibConfig} {base size : Nat} {ctx : SpdmDeviceContext}
    (h : RegistryInv cfg base size ctx.sessionInfo) (c : RegistryCall) :
    RegistryInv cfg base size (registryStep cfg ctx c).sessionInfo := by
  cases c with
  | assign sessionId usePsk => exact registryInv_assign h
  | free sessionId => exact registryInv_free h
  | get sessionId => exact h

theorem registryInv_run {cfg : SpdmLibConfig} {base size : Nat} (calls : List RegistryCall) :
    ∀ {ctx : SpdmDeviceContext}, RegistryInv cfg base size ctx.sessionInfo →
      RegistryInv cfg base size (registryRun cfg ctx calls).sessionInfo := by
  induction calls with
  | nil => exact id
  | cons c calls ih => exact fun h => ih (registryInv_step h c)

/-- **The session registry refines a bounded set of ids.** After any sequence of
assignments, frees and lookups from `SpdmInitContext`, the active ids are pairwise
distinct and every slot points to its initial secured-message context; and the next
call behaves on the set of active ids as insertion into a set of fewer than
`MAX_SPDM_SESSION_COUNT` ids, erasure and membership. -/
theorem sessionRegistry_refines (cfg : SpdmLibConfig) (base size : Nat)
    (calls : List RegistryCall) :
    RegistryInv cfg base size (registryRun cfg (spdmInitContext cfg base size) calls).sessionInfo ∧
    (∀ sessionId usePsk,
      AssignSpec cfg (registryRun cfg (spdmInitContext cfg base size) calls) sessionId usePsk
        (spdmAssignSessionId cfg (registryRun cfg (spdmInitContext cfg base size) calls)
          sessionId usePsk)) ∧
    (∀ sessionId,
      FreeSpec (registryRun cfg (spdmInitContext cfg base size) calls) sessionId
        (spdmFreeSessionId cfg (registryRun cfg (spdmInitContext cfg base size) calls)
          sessionId)) ∧
    ∀ sessionId,
      GetSpec (registryRun cfg (spdmInitContext cfg base size) calls) sessionId
        (spdmGetSessionInfoViaSessionId (registryRun cfg (spdmInitContext cfg base size) calls)
          sessionId) := by
  have h := registryInv_run calls (registryInv_init cfg base size)
  exact ⟨h, fun _ _ => assignSpec_of_inv h, fun _ => freeSpec_of_inv h, fun _ => getSpec_of_inv⟩

/-! ### The sessions' secured-message contexts -/

/-- Under the invariant, the key info of a session is the context `SpdmInitContext`
laid out for the slot holding it. -/
theorem spdmGetSessionKeyInfoViaSessionId_eq_some {cfg : SpdmLibConfig} {base size : Nat}
    {ctx : SpdmDeviceContext} (h : RegistryInv cfg base size ctx.sessionInfo) {sessionId : UInt32}
    {p : Nat} (hp : spdmGetSessionKeyInfoViaSessionId ctx sessionId = some p) :
    ∃ index, ∃ hi : index < ctx.sessionInfo.length,
      ctx.sessionInfo[index].sessionId = sessionId ∧ p = base + size * index := by
  obtain ⟨index, hindex, hp⟩ := Option.bind_eq_some.mp hp
  obtain ⟨hi, hid⟩ := getSpec_of_inv.2 index hindex
  rw [List.getElem?_eq_getElem hi, Option.map_some', Option.some.injEq] at hp
  exact ⟨index, hi, hid, hp ▸ h.pointer_eq index hi⟩

/-- **Every session's secured-message context lies in the allocation, and no two
overlap.** Take a context of `SpdmGetContextSize` bytes at `context`, set up by
`SpdmInitContext` with the secured-message contexts from
`context + sizeof (SPDM_DEVICE_CONTEXT)` on, and any run of assignments, frees and
lookups on it. The key info of every session starts after the device context and its
`size` bytes end inside the allocation; those of two different sessions are at least
`size` bytes apart. -/
theorem spdmGetSessionKeyInfoViaSessionId_disjoint (cfg : SpdmLibConfig)
    {context deviceContextSize size : Nat} (calls : List RegistryCall) {x y : UInt32} {p q : Nat}
    (hx : spdmGetSessionKeyInfoViaSessionId
      (registryRun cfg (spdmInitContext cfg (context + deviceContextSize) size) calls) x = some p)
    (hy : spdmGetSessionKeyInfoViaSessionId
      (registryRun cfg (spdmInitContext cfg (context + deviceContextSize) size) calls) y = some q) :
    context + deviceContextSize ≤ p ∧
      p + size ≤ context + spdmGetContextSize cfg deviceContextSize size ∧
      (x ≠ y → p + size ≤ q ∨ q + size ≤ p) := by
  have h := registryInv_run calls (registryInv_init cfg (context + deviceContextSize) size)
  obtain ⟨i, hi, hxi, rfl⟩ := spdmGetSessionKeyInfoViaSessionId_eq_some h hx
  obtain ⟨j, hj, hyj, rfl⟩ := spdmGetSessionKeyInfoViaSessionId_eq_some h hy
  have hslot {i j : Nat} (hij : i < j) : size * i + size ≤ size * j := by
    simpa only [Nat.mul_succ] using Nat.mul_le_mul_left size hij
  refine ⟨Nat.le_add_right _ _, ?_, fun hxy => ?_⟩
  · have := hslot (h.length_eq ▸ hi)
    simp only [spdmGetContextSize]
    omega
  · have hij : i ≠ j := by
      rintro rfl
      exact hxy (hxi.symm.trans hyj)
    rcases Nat.lt_or_gt_of_ne hij with hlt | hlt <;> have := hslot hlt <;> omega

/-- Two sessions assigned in a context of `0x100` bytes at `0x1000` whose
secured-message contexts are `0x20` bytes each get the first two of those. -/
theorem spdmGetSessionKeyInfoViaSessionId_disjoint_sample :
    spdmGetSessionKeyInfoViaSessionId (registryRun typicalSpdmLibConfig
        (spdmInitContext typicalSpdmLibConfig (0x1000 + 0x100) 0x20)
        [.assign 1 false, .assign 2 true]) 1 = some 0x1100 ∧
    spdmGetSessionKeyInfoViaSessionId (registryRun typicalSpdmLibConfig
        (spdmInitContext typicalSpdmLibConfig (0x1000 + 0x100) 0x20)
        [.assign 1 false, .assign 2 true]) 2 = some 0x1120 ∧
    0x1000 + 0x100 ≤ 0x1100 ∧
      0x1100 + 0x20 ≤ 0x1000 + spdmGetContextSize typicalSpdmLibConfig 0x100 0x20 ∧
      ((1 : UInt32) ≠ 2 → 0x1100 + 0x20 ≤ 0x1120 ∨ 0x1120 + 0x20 ≤ 0x1100) := by
  have hx : spdmGetSessionKeyInfoViaSessionId (registryRun typicalSpdmLibConfig
      (spdmInitContext typicalSpdmLibConfig (0x1000 + 0x100) 0x20)
      [.assign 1 false, .assign 2 true]) 1 = some 0x1100 := rfl
  have hy : spdmGetSessionKeyInfoViaSessionId (registryRun typicalSpdmLibConfig
      (spdmInitContext typicalSpdmLibConfig (0x1000 + 0x100) 0x20)
      [.assign 1 false, .assign 2 true]) 2 = some 0x1120 := rfl
  exact ⟨hx, hy, spdmGetSessionKeyInfoViaSessionId_disjoint typicalSpdmLibConfig _ hx hy⟩

end OpenSpdm
