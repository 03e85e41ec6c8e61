import RuntimeMacro.Source.FrameUploads
import RuntimeMacro.Source.DynamicCases

/-!
# Frames and the dynamic store

runtime_macro_protocol.c:385-642; runtime_macro_dynamic.c:184-268. What a frame
does to the dynamic store, with the observation before the handler and the
discards around it: only a BEGIN opens a staging, only a DATA appends to it,
and every other frame keeps the texts or removes them.
-/
namespace RuntimeMacro.Source.Protocol
open AuthCore (Hmac)
open Context

variable {cfg : Config} {hmac : Hmac} {env : Env} {id : ContextId} {request response : Frame}
  {opcode : Opcode} {w w' w'' : World}

/-- Texts are kept, or removed because they were due at some reading of the
call. -/
def Expired (env : Env) (slots slots' : Nat → DynamicSlot) : Prop :=
  ∀ slot, slots' slot = slots slot ∨ ∃ site,
    DynamicStore.due (env.clock site) (slots slot) = true ∧
      slots' slot = DynamicStore.clearedSlot (slots slot)

/-- The staging is kept or dropped, and texts go only when they are due. -/
structure Passive (env : Env) (s s' : DynamicStore) : Prop where
  staging : s'.stagingOf = s.stagingOf ∨ s'.stagingActive = false
  slots : Expired env s.slots s'.slots

section Passive
variable {s s' s'' : DynamicStore} {slots slots' slots'' : Nat → DynamicSlot}

theorem Expired.refl (env : Env) (slots : Nat → DynamicSlot) : Expired env slots slots :=
  fun _ => Or.inl rfl

theorem Expired.trans (first : Expired env slots slots') (second : Expired env slots' slots'') :
    Expired env slots slots'' := by
  intro slot
  rcases second slot with same | ⟨site, isDue, emptied⟩
  · rw [same]
    exact first slot
  · rcases first slot with same | ⟨_, _, before⟩
    · rw [same] at isDue emptied
      exact Or.inr ⟨site, isDue, emptied⟩
    · rw [before, DynamicStore.clearedSlot_not_due] at isDue
      cases isDue

theorem expiredSlots_expired (cfg : Config) (site : Site) (s : DynamicStore) :
    Expired env s.slots (DynamicStore.expiredSlots cfg (env.clock site) s) := by
  intro slot
  rcases DynamicStore.expiredSlots_onlyExpired cfg (env.clock site) s slot with same | gone
  · exact Or.inl same
  · exact Or.inr ⟨site, gone⟩

/-- With a clock that does not run back every removal was due at the end of the
call. -/
theorem Expired.onlyExpired (expired : Expired env slots slots') (ordered : env.Ordered) :
    DynamicStore.OnlyExpired env.latest slots slots' := by
  intro slot
  rcases expired slot with same | ⟨site, isDue, emptied⟩
  · exact Or.inl same
  · have later : env.clock site ≤ env.latest := ordered _ _ (by cases site <;> decide)
    exact Or.inr ⟨DynamicStore.due_mono later isDue, emptied⟩

theorem Passive.refl (env : Env) (s : DynamicStore) : Passive env s s :=
  ⟨Or.inl rfl, Expired.refl env _⟩

theorem Passive.trans (first : Passive env s s') (second : Passive env s' s'') :
    Passive env s s'' := by
  refine ⟨?_, first.slots.trans second.slots⟩
  rcases second.staging with kept | dropped
  · rcases first.staging with before | before
    · exact Or.inl (kept.trans before)
    · refine Or.inr ?_
      rw [← DynamicStore.stagingOf_active, kept, DynamicStore.stagingOf_active]
      exact before
  · exact Or.inr dropped

theorem Passive.quiet (passive : Passive env s s') : DynamicStore.Quiet s s' := by
  refine ⟨passive.staging, fun slot => ?_⟩
  rcases passive.slots slot with same | ⟨_, _, emptied⟩
  · exact Or.inl same
  · rw [emptied]
    exact Or.inr rfl

theorem cancelStagingNow_passive (cfg : Config) (site : Site) (s : DynamicStore) :
    Passive env s (s.cancelStagingNow cfg (env.clock site)) := by
  refine ⟨Or.inr rfl, ?_⟩
  rw [DynamicStore.cancelStagingNow_slots]
  exact expiredSlots_expired cfg site s

end Passive

/-! ## Around the handlers -/

theorem syncAuthState_passive (cfg : Config) (env : Env) (id : ContextId) (w : World) :
    Passive env w.dynamic (syncAuthState cfg env id w).dynamic := by
  rcases syncAuthState_cases cfg env id w with ⟨_, synced⟩ | ⟨_, synced⟩
  · rw [synced]
    exact cancelStagingNow_passive cfg .syncDiscard _
  · rw [synced]
    exact Passive.refl _ _

theorem discardForOpcode_passive (cfg : Config) (env : Env) (id : ContextId) (byte : UInt8)
    (w : World) :
    Passive env w.dynamic (discardForOpcode cfg id (env.clock .cleanup) byte w).dynamic := by
  rcases discardForOpcode_cases cfg id (env.clock .cleanup) byte w with same | same | same | same
  · rw [same]
    exact Passive.refl _ _
  · rw [same]
    exact Passive.refl _ _
  · rw [same]
    exact Passive.refl _ _
  · rw [same]
    exact cancelStagingNow_passive cfg .cleanup _

theorem refreshProtectedSession_passive (cfg : Config) (env : Env) (id : ContextId)
    (response : Frame) (w : World) :
    Passive env w.dynamic (refreshProtectedSession cfg env id response w).2.dynamic := by
  rcases refreshProtectedSession_cases cfg env id response w with
    ⟨_, _, _, result⟩ | ⟨_, _, result⟩ | ⟨_, _, _, _, _, result⟩
  · rw [result]
    exact Passive.refl _ _
  · rw [result]
    exact Passive.refl _ _
  · rw [result]
    exact cancelStagingNow_passive cfg .refreshDiscard _

theorem afterHandler_passive (cfg : Config) (env : Env) (id : ContextId) (result : Frame × World) :
    Passive env result.2.dynamic (afterHandler cfg env id result).2.dynamic := by
  unfold afterHandler
  split
  · exact refreshProtectedSession_passive cfg env id _ _
  · exact Passive.refl _ _

/-- A management handler that leaves the dynamic store alone. -/
theorem processManagement_passive (cfg : Config) (env : Env) (id : ContextId)
    (handler : World → Frame × World) (response : Frame) (w : World)
    (apart : ∀ w, (handler w).2.dynamic = w.dynamic) :
    Passive env w.dynamic (processManagement cfg env id handler response w).2.dynamic := by
  obtain ⟨auth, _, ⟨_, _, _, result⟩ | ⟨_, _, result⟩⟩ :=
    processManagement_cases cfg env id handler response w
  · rw [result]
    exact cancelStagingNow_passive cfg .gateDiscard _
  · have handled := afterHandler_passive cfg env id (handler (w.withAuth auth))
    rw [apart] at handled
    rw [result]
    exact handled

theorem processSet_dynamic (cfg : Config) (env : Env) (id : ContextId) (request response : Frame)
    (w : World) : (processSet cfg env id request response w).2.dynamic = w.dynamic := by
  rcases processSet_cases cfg env id request response w with
    ⟨_, _, result⟩ | ⟨c, _, ⟨_, result⟩ | ⟨_, result⟩⟩
  · rw [result]
    rfl
  · rw [result]
    rfl
  · obtain ⟨_, _, _, _, committed⟩ :=
      commitSet_eq cfg env id response (w.modify id fun _ => c)
    rw [result, committed]
    rfl

theorem processClear_dynamic (cfg : Config) (env : Env) (request response : Frame) (w : World) :
    (processClear cfg env request response w).2.dynamic = w.dynamic := by
  rcases processClear_cases cfg env request response w with ⟨_, _, _, result⟩ | ⟨_, result⟩
  · rw [result]
  · rw [result]

theorem processPasswordSet_passive (cfg : Config) (env : Env) (id : ContextId)
    (request response : Frame) (w : World) :
    Passive env w.dynamic (processPasswordSet cfg env id request response w).2.dynamic := by
  rcases processPasswordSet_cases cfg env id request response w with
    ⟨_, _, result⟩ | ⟨c, _, ⟨_, result⟩ | ⟨_, result⟩⟩
  · rw [result]
    exact Passive.refl _ _
  · rw [result]
    exact refreshProtectedSession_passive cfg env id _ (w.modify id fun _ => c)
  · obtain ⟨err, auth, settings, _, outcome⟩ :=
      commitPasswordSet_cases cfg env id response (w.modify id fun _ => c)
    rcases outcome with ⟨_, done⟩ | ⟨_, done⟩ | ⟨_, done⟩ | ⟨_, done⟩
    · rw [result, done]
      exact cancelStagingNow_passive cfg .cleanup _
    · rw [result, done]
      exact Passive.refl _ _
    · rw [result, done]
      exact cancelStagingNow_passive cfg .cleanup _
    · rw [result, done]
      exact Passive.refl _ _

/-- The opcodes that work on the dynamic store. -/
def aboutDynamic : Opcode → Bool
  | .dynamicBegin | .dynamicData | .dynamicClear => true
  | _ => false

theorem dispatch_passive (other : aboutDynamic opcode = false) :
    Passive env w.dynamic (dispatch cfg hmac env id opcode request response w).2.dynamic := by
  cases opcode with
  | dynamicBegin | dynamicData | dynamicClear => cases other
  | list | get => exact processManagement_passive cfg env id _ _ _ fun _ => rfl
  | set => exact processManagement_passive cfg env id _ _ _ fun _ => processSet_dynamic ..
  | clear => exact processManagement_passive cfg env id _ _ _ fun _ => processClear_dynamic ..
  | passwordSet =>
    obtain ⟨auth, _, ⟨_, _, _, result⟩ | ⟨_, _, result⟩⟩ := managementAccess_cases cfg env id w
    · simp only [dispatch, result]
      rw [if_pos (gateStatus_ne_ok _)]
      exact cancelStagingNow_passive cfg .gateDiscard _
    · simp only [dispatch, result]
      rw [if_neg (by simp)]
      exact processPasswordSet_passive cfg env id request response (w.withAuth auth)
  | capabilities => exact Passive.refl _ _
  | authInfo =>
    obtain ⟨_, _, _, result⟩ := processAuthInfo_cases env request response w
    simp only [dispatch, result]
    exact Passive.refl _ _
  | authChallenge =>
    rcases processAuthChallenge_cases cfg env request response w with
      result | ⟨_, _, _, result⟩
    · simp only [dispatch, result]
      exact Passive.refl _ _
    · simp only [dispatch, result]
      exact Passive.refl _ _
  | authProve =>
    rcases processAuthProve_cases cfg hmac env id request response w with
      ⟨_, _, result⟩ | ⟨_, auth, _, result⟩
    · simp only [dispatch, result]
      exact cancelStagingNow_passive cfg .cleanup w.dynamic
    · simp only [dispatch, result]
      exact cancelStagingNow_passive cfg .cleanup w.dynamic
  | lock =>
    rcases processLock_cases cfg env id request response w with result | result
    · simp only [dispatch, result]
      exact Passive.refl _ _
    · simp only [dispatch, result]
      exact cancelStagingNow_passive cfg .cleanup w.dynamic

/-! ## The whole frame -/

/-- A DATA frame the context and the store take. -/
structure DataTaken (cfg : Config) (env : Env) (id : ContextId) (request : Frame) (w : World) :
    Prop where
  passed : baseCheck request = .ok .dynamicData
  fresh : ¬ Stale env w.auth (w.contexts id)
  valid : DataValid cfg request (w.contexts id)
  taken : (dataAppend cfg env request w).1 = 0

theorem DataTaken.isData (data : DataTaken cfg env id request w) :
    Opcode.ofByte request.opcode = some .dynamicData := baseCheck_opcode data.passed

theorem DataTaken.sized (data : DataTaken cfg env id request w) :
    request.payloadLength ≤ payloadSize := baseCheck_payload data.passed

theorem DataTaken.appendValid (data : DataTaken cfg env id request w) :
    DynamicStore.AppendValid cfg request.slot.toNat request.offset
      (request.payload request.payloadLength) (w.dynamic.expireDue cfg (env.clock .operation)) :=
  (DynamicStore.appendSlot_taken data.taken).1

theorem DataTaken.stagingActive (data : DataTaken cfg env id request w) :
    w.dynamic.stagingActive = true := by
  have active := data.appendValid.active
  have kept := congrArg DynamicStore.Staging.active (DynamicStore.expireDue_staging active)
  exact kept.symm.trans active

/-- What a frame does to the dynamic store and to the dynamic upload of its
context. -/
inductive DynamicOutcome (cfg : Config) (env : Env) (id : ContextId) (request : Frame)
    (w : World) (response : Frame) (w' : World) : Prop
  | passive (refused : Opcode.ofByte request.opcode = some .dynamicBegin ∨
        Opcode.ofByte request.opcode = some .dynamicData → response.status ≠ Status.ok.code)
      (store : Passive env w.dynamic w'.dynamic)
      (upload : KeepsOrDrops .dynamic (w.contexts id) (w'.contexts id))
  | cleared (isClear : Opcode.ofByte request.opcode = some .dynamicClear)
      (status : response.status = Status.ok.code)
      (store : DynamicStore.Quiet w.dynamic w'.dynamic)
      (upload : KeepsOrDrops .dynamic (w.contexts id) (w'.contexts id))
  | started (isBegin : Opcode.ofByte request.opcode = some .dynamicBegin)
      (status : response.status = Status.ok.code) (valid : BeginValid cfg request)
      (staging : w'.dynamic.stagingOf = ⟨DynamicStore.zeroBuffer, request.slot.toNat,
        request.totalLength, 0, true, beginTtlSeconds request, beginConsumes request⟩)
      (slots : Expired env w.dynamic.slots w'.dynamic.slots)
      (upload : (w'.contexts id).upload .dynamic = ⟨true, request.requestId, request.slot.toNat,
        request.totalLength, 0, []⟩)
  | completed (data : DataTaken cfg env id request w) (status : response.status = Status.ok.code)
      (answer : response.offset = request.totalLength ∧
        response.totalLength = request.totalLength)
      (complete : request.offset + request.payloadLength = request.totalLength)
      (store : w'.dynamic = (dataAppend cfg env request w).2)
      (dropped : ((w'.contexts id).upload .dynamic).active = false)
  | received (data : DataTaken cfg env id request w) (status : response.status = Status.ok.code)
      (partly : request.offset + request.payloadLength ≠ request.totalLength)
      (store : w'.dynamic = (dataAppend cfg env request w).2)
      (upload : (w'.contexts id).upload .dynamic = { (w.contexts id).upload .dynamic with
        receivedLength := request.offset + request.payloadLength })
  | failed (data : DataTaken cfg env id request w) (status : response.status ≠ Status.ok.code)
      (partly : request.offset + request.payloadLength ≠ request.totalLength)
      (unscheduled : env.rescheduleErr < 0)
      (store : w'.dynamic = (dataAppend cfg env request w).2.cancelStagingNow cfg
        (env.clock .cleanup))
      (dropped : ((w'.contexts id).upload .dynamic).active = false)

theorem dataAppend_congr (same : w'.dynamic = w.dynamic) :
    dataAppend cfg env request w' = dataAppend cfg env request w := by
  unfold dataAppend
  rw [same]

theorem DataValid.congr {c c' : Context} (valid : DataValid cfg request c)
    (same : c'.upload .dynamic = c.upload .dynamic) : DataValid cfg request c' := by
  simp only [Context.upload, Upload.mk.injEq] at same
  obtain ⟨active, requestId, slot, total, received, _⟩ := same
  exact ⟨valid.slotValid, active.trans valid.active, valid.slot.trans slot.symm, valid.bounded,
    valid.inside, valid.nonempty, valid.fits, requestId.trans valid.requestId,
    total.trans valid.total, valid.received.trans received.symm, valid.alphabet⟩

/-- A DATA valid on the observed context is valid on a record that is not
stale. -/
theorem dataTaken_of_synced (passed : baseCheck request = .ok .dynamicData)
    (valid : DataValid cfg request ((syncAuthState cfg env id w).contexts id))
    (taken : (dataAppend cfg env request (syncAuthState cfg env id w)).1 = 0) :
    DataTaken cfg env id request w ∧ dataAppend cfg env request (syncAuthState cfg env id w) =
      dataAppend cfg env request w ∧
      ((syncAuthState cfg env id w).contexts id).upload .dynamic =
        (w.contexts id).upload .dynamic := by
  rcases syncAuthState_cases cfg env id w with ⟨stale, synced⟩ | ⟨fresh, synced⟩
  · have active := valid.active
    simp only [synced, World.modify_contexts_self, World.clearDynamic_contexts_self] at active
    cases active
  · have store : dataAppend cfg env request (syncAuthState cfg env id w) =
        dataAppend cfg env request w := by
      rw [synced]
      exact dataAppend_congr rfl
    have upload : ((syncAuthState cfg env id w).contexts id).upload .dynamic =
        (w.contexts id).upload .dynamic := by
      simp only [synced, World.modify_contexts_self, World.withAuth_contexts]
      rfl
    exact ⟨⟨passed, fresh, valid.congr upload.symm, store ▸ taken⟩, store, upload⟩

/-- An append the store refuses keeps its staging or drops it. -/
theorem dataAppend_refused (refused : (dataAppend cfg env request w).1 ≠ 0) :
    Passive env w.dynamic (dataAppend cfg env request w).2 := by
  have expired : Passive env w.dynamic (w.dynamic.expireDue cfg (env.clock .operation)) := by
    refine ⟨(DynamicStore.expireDue_quiet cfg _ _).staging, ?_⟩
    rw [DynamicStore.expireDue_slots]
    exact expiredSlots_expired cfg .operation w.dynamic
  rcases DynamicStore.appendSlot_refused refused with result | result
  · rw [dataAppend, result]
    exact expired
  · rw [dataAppend, result]
    exact expired.trans ⟨Or.inr rfl, Expired.refl env _⟩

theorem processDynamicBegin_outcome (cfg : Config) (env : Env) (id : ContextId) (request : Frame)
    (response : Frame) (w : World) (known : Opcode.ofByte request.opcode = some .dynamicBegin) :
    DynamicOutcome cfg env id request w
      (processDynamicBegin cfg env id request response (syncAuthState cfg env id w)).1
      (processDynamicBegin cfg env id request response (syncAuthState cfg env id w)).2 := by
  have synced := syncAuthState_passive cfg env id w
  have slots : ∀ w, Expired env w.dynamic.slots (begun cfg env id request w).dynamic.slots := by
    intro w
    have expired : Expired env _ _ := expiredSlots_expired cfg .operation w.dynamic
    rw [← DynamicStore.beginSlot_slots cfg request.slot.toNat request.totalLength
      (beginTtlSeconds request) (beginConsumes request) (env.clock .operation)] at expired
    exact expired
  rcases processDynamicBegin_cases cfg env id request response (syncAuthState cfg env id w) with
    ⟨status, bad, result⟩ | ⟨valid, _, status, bad, result⟩ | ⟨valid, _, result⟩
  · rw [result]
    refine .passive (fun _ => by simpa using bad)
      (synced.trans (cancelStagingNow_passive cfg .cleanup _)) (Or.inr ?_)
    rw [World.clearDynamic_contexts_self]
    rfl
  · rw [result]
    refine .passive (fun _ => by simpa using bad) ⟨Or.inr rfl, ?_⟩ (Or.inr ?_)
    · exact synced.slots.trans ((slots _).trans (cancelStagingNow_passive cfg .cleanup _).slots)
    · rw [World.clearDynamic_contexts_self]
      rfl
  · rw [result]
    refine .started known (Frame.status_setSuccess ..) valid ?_ (synced.slots.trans (slots _)) ?_
    · have begun : (begun cfg env id request (syncAuthState cfg env id w)).dynamic =
          ((syncAuthState cfg env id w).dynamic.beginSlot cfg request.slot.toNat
            request.totalLength (beginTtlSeconds request) (beginConsumes request)
            (env.clock .operation)).2 := rfl
      rw [begun, DynamicStore.beginSlot_of_valid valid.slot valid.positive valid.fits
        valid.atLeast valid.atMost]
      rfl
    · simp only [begun, refreshDynamicTimeout_contexts_self, World.modify_contexts_self]
      rfl

theorem processDynamicData_outcome (cfg : Config) (env : Env) (id : ContextId) (request : Frame)
    (response : Frame) (w : World) (passed : baseCheck request = .ok .dynamicData) :
    DynamicOutcome cfg env id request w
      (processDynamicData cfg env id request response (syncAuthState cfg env id w)).1
      (processDynamicData cfg env id request response (syncAuthState cfg env id w)).2 := by
  have synced := syncAuthState_passive cfg env id w
  rcases processDynamicData_cases cfg env id request response (syncAuthState cfg env id w) with
    ⟨status, bad, result⟩ | ⟨valid, refused, status, bad, result⟩ |
    ⟨valid, taken, complete, result⟩ | ⟨valid, taken, partly, unscheduled, result⟩ |
    ⟨valid, taken, partly, _, result⟩
  · rw [result]
    refine .passive (fun _ => by simpa using bad)
      (synced.trans (cancelStagingNow_passive cfg .cleanup _)) (Or.inr ?_)
    rw [World.clearDynamic_contexts_self]
    rfl
  · have unchanged : Passive env (syncAuthState cfg env id w).dynamic
        (dataAppend cfg env request (syncAuthState cfg env id w)).2 :=
      dataAppend_refused refused
    rw [result]
    refine .passive (fun _ => by simpa using bad) (synced.trans (unchanged.trans
      (cancelStagingNow_passive cfg .cleanup _))) (Or.inr ?_)
    rw [World.clearDynamic_contexts_self]
    rfl
  · obtain ⟨data, store, _⟩ := dataTaken_of_synced passed valid taken
    rw [result]
    have fits := request.totalLength_lt
    refine .completed data (Frame.status_setSuccess ..)
      ⟨Frame.offset_setSuccess _ _ _ fits, Frame.totalLength_setSuccess _ _ _ fits⟩ complete
      (congrArg Prod.snd store) ?_
    simp only [finishDynamic, Function.update_self]
    rfl
  · obtain ⟨data, store, _⟩ := dataTaken_of_synced passed valid taken
    rw [result]
    refine .failed data (by simp) partly unscheduled ?_ ?_
    · rw [← store]
      rfl
    · rw [World.clearDynamic_contexts_self]
      rfl
  · obtain ⟨data, store, upload⟩ := dataTaken_of_synced passed valid taken
    rw [result]
    refine .received data (Frame.status_setSuccess ..) partly (congrArg Prod.snd store) ?_
    rw [← upload]
    simp only [refreshDynamicTimeout_contexts_self, dataReceived_contexts_self]
    rfl

theorem processDynamicClear_outcome (cfg : Config) (env : Env) (id : ContextId) (request : Frame)
    (response : Frame) (w : World) (known : Opcode.ofByte request.opcode = some .dynamicClear)
    (upload : KeepsOrDrops .dynamic (w.contexts id)
      ((processDynamicClear cfg env id request response (syncAuthState cfg env id w)).2.contexts
        id)) :
    DynamicOutcome cfg env id request w
      (processDynamicClear cfg env id request response (syncAuthState cfg env id w)).1
      (processDynamicClear cfg env id request response (syncAuthState cfg env id w)).2 := by
  have synced := syncAuthState_passive cfg env id w
  rcases processDynamicClear_cases cfg env id request response (syncAuthState cfg env id w) with
    ⟨status, bad, result⟩ | ⟨_, result⟩
  · rw [result] at upload ⊢
    exact .passive (fun _ => by simpa using bad) synced upload
  · rw [result] at upload ⊢
    refine .cleared known (Frame.status_setSuccess ..) (synced.quiet.trans ?_) upload
    have cleared := DynamicStore.clearSlot_quiet cfg request.slot.toNat (env.clock .rearm)
      (syncAuthState cfg env id w).dynamic
    unfold slotCleared
    dsimp only
    split
    · exact cleared
    · exact cleared

theorem processFrame_dynamic (cfg : Config) (hmac : Hmac) (env : Env) (id : ContextId)
    (request : Frame) (w : World) :
    DynamicOutcome cfg env id request w (processFrame cfg hmac env id request w).1
      (processFrame cfg hmac env id request w).2 := by
  have synced := syncAuthState_passive cfg env id w
  have observed : KeepsOrDrops .dynamic (w.contexts id)
      ((syncAuthState cfg env id w).contexts id) := syncAuthState_keepsOrDrops .dynamic
  cases checked : baseCheck request with
  | error status =>
    simp only [processFrame, checked]
    refine .passive (fun _ => by simpa using baseCheck_ne_ok checked)
      (synced.trans (discardForOpcode_passive cfg env id _ _)) (observed.trans ?_)
    exact (discardForOpcode_carried (fun _ => false) _ _).keepsOrDrops rfl
  | ok opcode =>
    have known := baseCheck_opcode checked
    simp only [processFrame, checked]
    by_cases other : aboutDynamic opcode = false
    · refine .passive ?_ (synced.trans (dispatch_passive other))
        (observed.trans (dispatch_carried.keepsOrDrops ?_))
      · rintro (isBegin | isData)
        · cases Option.some.inj (known.symm.trans isBegin)
          cases other
        · cases Option.some.inj (known.symm.trans isData)
          cases other
      · cases opcode <;> first | rfl | cases other
    · cases opcode with
      | dynamicBegin => exact processDynamicBegin_outcome cfg env id request _ w known
      | dynamicData =>
        exact processDynamicData_outcome cfg env id request _ w checked
      | dynamicClear =>
        have handled : Carried (touches .dynamicClear) ((syncAuthState cfg env id w).contexts id)
            ((dispatch cfg hmac env id .dynamicClear request (Frame.initResponse (some request))
              (syncAuthState cfg env id w)).2.contexts id) := dispatch_carried
        exact processDynamicClear_outcome cfg env id request _ w known
          (observed.trans (handled.keepsOrDrops rfl))
      | _ => exact absurd rfl other

end RuntimeMacro.Source.Protocol
