import RuntimeMacro.Source.SetFrames

/-!
# Frames that leave an upload alive

runtime_macro_protocol.c:687-710,1288-1425. What can be said about a frame
after which an upload of its context is still active: the record is that of its
own observation, the upload was started by it or survived it, and it did
nothing that ends uploads.
-/
namespace RuntimeMacro.Source.Protocol
open AuthCore (Hmac Looked)
open Context

variable {cfg : Config} {hmac : Hmac} {env : Env} {id : ContextId} {request response : Frame}
  {opcode : Opcode} {kind : Kind} {w w' : World}

/-- The first frame of an upload: SET and PASSWORD_SET at offset 0,
DYNAMIC_BEGIN. -/
def startsUpload (request : Frame) : Kind → Bool
  | .set => Opcode.ofByte request.opcode == some .set && request.offset == 0
  | .passwordSet => Opcode.ofByte request.opcode == some .passwordSet && request.offset == 0
  | .dynamic => Opcode.ofByte request.opcode == some .dynamicBegin

/-! ## The handler leaves an upload of its own kind active -/

/-- The frame started the upload and was answered OK, or the upload was active
before. -/
def StartedOrKept (kind : Kind) (request : Frame) (c : Context) (response : Frame) : Prop :=
  (startsUpload request kind = true ∧ response.status = Status.ok.code) ∨
    (startsUpload request kind = false ∧ (c.upload kind).active = true)

theorem processPasswordSet_active (known : Opcode.ofByte request.opcode = some .passwordSet)
    (active : (((processPasswordSet cfg env id request response w).2.contexts id).upload
      .passwordSet).active = true) :
    StartedOrKept .passwordSet request (w.contexts id)
      (processPasswordSet cfg env id request response w).1 := by
  have dropped : ∀ {c : Context}, (c.upload .passwordSet).active = true →
      c = .zero cfg → False := by
    rintro c alive rfl
    cases alive
  rcases processPasswordSet_cases cfg env id request response w with
    ⟨_, _, result⟩ | ⟨c, accepted, ⟨_, result⟩ | ⟨_, result⟩⟩
  · rw [result, World.clearPasswordSet_contexts_self] at active
    cases active
  · rw [result] at active ⊢
    obtain ⟨answer, auth, w', refreshed, _, ⟨same, rfl⟩ | ⟨_, discarded⟩⟩ :=
      refresh_outcome cfg env id
        (response.setSuccess c.passwordSetReceivedLength c.passwordSetTotalLength)
        (w.modify id fun _ => c)
    · rw [refreshed, same]
      obtain ⟨_, ⟨first, _⟩ | ⟨continued, _⟩⟩ := accepted
      · exact Or.inl ⟨by simp [startsUpload, known, first], Frame.status_setSuccess ..⟩
      · exact Or.inr ⟨by simp [startsUpload, continued.later], continued.active⟩
    · rw [refreshed] at active
      exact absurd discarded (dropped active)
  · rw [result] at active
    obtain ⟨err, auth, settings, _, outcome⟩ :=
      commitPasswordSet_cases cfg env id response (w.modify id fun _ => c)
    rcases outcome with ⟨_, result⟩ | ⟨_, result⟩ | ⟨_, result⟩ | ⟨_, result⟩
    all_goals
      rw [result] at active
    · exact absurd (World.discard_contexts_self _ _ _ _) (dropped active)
    · simp only [passwordSetDone, World.clearPasswordSet_contexts_self] at active
      cases active
    · exact absurd (World.discard_contexts_self _ _ _ _) (dropped active)
    · simp only [passwordSetDone, World.clearPasswordSet_contexts_self] at active
      cases active

theorem processDynamicBegin_active (known : Opcode.ofByte request.opcode = some .dynamicBegin)
    (active : (((processDynamicBegin cfg env id request response w).2.contexts id).upload
      .dynamic).active = true) :
    StartedOrKept .dynamic request (w.contexts id)
      (processDynamicBegin cfg env id request response w).1 := by
  rcases processDynamicBegin_cases cfg env id request response w with
    ⟨_, _, result⟩ | ⟨_, _, _, _, result⟩ | ⟨_, _, result⟩
  · rw [result, World.clearDynamic_contexts_self] at active
    cases active
  · rw [result, World.clearDynamic_contexts_self] at active
    cases active
  · rw [result]
    exact Or.inl ⟨by simp [startsUpload, known], Frame.status_setSuccess ..⟩

theorem processDynamicData_active (known : Opcode.ofByte request.opcode = some .dynamicData)
    (active : (((processDynamicData cfg env id request response w).2.contexts id).upload
      .dynamic).active = true) :
    StartedOrKept .dynamic request (w.contexts id)
      (processDynamicData cfg env id request response w).1 := by
  have notStarted : startsUpload request .dynamic = false := by simp [startsUpload, known]
  rcases processDynamicData_cases cfg env id request response w with
    ⟨_, _, result⟩ | ⟨valid, _⟩ | ⟨valid, _⟩ | ⟨valid, _⟩ | ⟨valid, _⟩
  · rw [result, World.clearDynamic_contexts_self] at active
    cases active
  all_goals exact Or.inr ⟨notStarted, valid.active⟩

/-- After a SET frame an active staging was started or continued by it. -/
theorem SetOutcome.active (known : Opcode.ofByte request.opcode = some .set)
    (outcome : SetOutcome cfg env id request w response w')
    (active : ((w'.contexts id).upload .set).active = true) :
    StartedOrKept .set request ((syncAuthState cfg env id w).contexts id) response := by
  cases outcome with
  | refused status dropped kept =>
    rw [dropped] at active
    cases active
  | committed c err sized accepted complete set called dropped answered =>
    rw [dropped] at active
    cases active
  | staged c status sized accepted holding kept =>
    obtain ⟨_, ⟨first, _⟩ | ⟨continued, _⟩⟩ := accepted
    · exact Or.inl ⟨by simp [startsUpload, known, first], status⟩
    · exact Or.inr ⟨by simp [startsUpload, continued.later], continued.active⟩

/-- A kind whose first frame has another opcode is not started. -/
theorem startsUpload_of_untouched (known : Opcode.ofByte request.opcode = some opcode)
    (free : touches opcode kind = false) : startsUpload request kind = false := by
  cases kind <;> cases opcode <;> simp_all [startsUpload, touches]

/-- A refused first frame drops the upload it is about. -/
theorem discardForOpcode_drops (nowMs : Int) (w : World)
    (started : startsUpload request kind = true) :
    (((discardForOpcode cfg id nowMs request.opcode w).contexts id).upload kind).active =
      false := by
  cases kind with
  | set =>
    have known : Opcode.ofByte request.opcode = some .set := by
      simp only [startsUpload, Bool.and_eq_true, beq_iff_eq] at started
      exact started.1
    simp only [discardForOpcode, known, World.clearSet_contexts_self]
    rfl
  | passwordSet =>
    have known : Opcode.ofByte request.opcode = some .passwordSet := by
      simp only [startsUpload, Bool.and_eq_true, beq_iff_eq] at started
      exact started.1
    simp only [discardForOpcode, known, World.clearPasswordSet_contexts_self]
    rfl
  | dynamic =>
    have known : Opcode.ofByte request.opcode = some .dynamicBegin := by
      simpa [startsUpload] using started
    simp only [discardForOpcode, known, World.clearDynamic_contexts_self]
    rfl

theorem processFrame_ok (passed : baseCheck request = .ok opcode) :
    processFrame cfg hmac env id request w = dispatch cfg hmac env id opcode request
      (Frame.initResponse (some request)) (syncAuthState cfg env id w) := by
  simp only [processFrame, passed]

/-- The upload a handler works on, active after it, was started by it or there
before. -/
theorem processFrame_touched (passed : baseCheck request = .ok opcode)
    (touching : touches opcode kind = true)
    (active : (((processFrame cfg hmac env id request w).2.contexts id).upload kind).active =
      true) :
    StartedOrKept kind request ((syncAuthState cfg env id w).contexts id)
      (processFrame cfg hmac env id request w).1 := by
  have known := baseCheck_opcode passed
  have whole : processFrame cfg hmac env id request w = _ := processFrame_ok passed
  cases opcode with
  | set =>
    cases kind with
    | set => exact (processFrame_set cfg hmac env id known w).active known active
    | passwordSet | dynamic => cases touching
  | passwordSet =>
    cases kind with
    | passwordSet =>
      rw [whole] at active ⊢
      obtain ⟨auth, _, ⟨_, _, _, result⟩ | ⟨_, _, result⟩⟩ :=
        managementAccess_cases cfg env id (syncAuthState cfg env id w)
      · simp only [dispatch, result] at active
        rw [if_pos (gateStatus_ne_ok _), World.discard_contexts_self] at active
        cases active
      · simp only [dispatch, result] at active ⊢
        rw [if_neg (by simp)] at active ⊢
        exact processPasswordSet_active
          (w := (syncAuthState cfg env id w).withAuth auth) known active
    | set | dynamic => cases touching
  | dynamicBegin =>
    cases kind with
    | dynamic =>
      rw [whole] at active ⊢
      exact processDynamicBegin_active known active
    | set | passwordSet => cases touching
  | dynamicData =>
    cases kind with
    | dynamic =>
      rw [whole] at active ⊢
      exact processDynamicData_active known active
    | set | passwordSet => cases touching
  | _ => cases touching

/-- An upload active after a frame: the record is what the frame observed, and
the upload was started by it or survived its observation. -/
theorem processFrame_active
    (active : (((processFrame cfg hmac env id request w).2.contexts id).upload kind).active =
      true) :
    ((processFrame cfg hmac env id request w).2.contexts id).record =
        (true, w.auth.state, (observedSession env w.auth).1) ∧
      ((startsUpload request kind = true ∧
          (processFrame cfg hmac env id request w).1.status = Status.ok.code) ∨
        (startsUpload request kind = false ∧ ¬ Stale env w.auth (w.contexts id) ∧
          ((w.contexts id).upload kind).active = true)) := by
  have record : ((syncAuthState cfg env id w).contexts id).record =
      (true, w.auth.state, (observedSession env w.auth).1) := syncAuthState_record
  cases checked : baseCheck request with
  | error status =>
    simp only [processFrame, checked] at active ⊢
    have carried : Carried (fun _ => false) ((syncAuthState cfg env id w).contexts id)
        ((discardForOpcode cfg id (env.clock .cleanup) request.opcode
          (syncAuthState cfg env id w)).contexts id) := discardForOpcode_carried _ _ _
    obtain ⟨sameRecord, same⟩ := carried.of_active rfl active
    refine ⟨sameRecord.trans record, Or.inr ⟨?_, active_of_synced (same ▸ active)⟩⟩
    rw [← Bool.not_eq_true]
    intro started
    have dropped : (((discardForOpcode cfg id (env.clock .cleanup) request.opcode
        (syncAuthState cfg env id w)).contexts id).upload kind).active = false :=
      discardForOpcode_drops _ _ started
    cases dropped.symm.trans active
  | ok opcode =>
    have carried : Carried (touches opcode) ((syncAuthState cfg env id w).contexts id)
        ((processFrame cfg hmac env id request w).2.contexts id) := by
      rw [processFrame_ok checked]
      exact dispatch_carried
    refine ⟨(carried.record_of_active active).trans record, ?_⟩
    by_cases touching : touches opcode kind = true
    · rcases processFrame_touched checked touching active with started | ⟨notStarted, before⟩
      · exact Or.inl started
      · exact Or.inr ⟨notStarted, active_of_synced before⟩
    · rw [Bool.not_eq_true] at touching
      obtain ⟨_, same⟩ := carried.of_active touching active
      have free := startsUpload_of_untouched (baseCheck_opcode checked) touching
      exact Or.inr ⟨free, active_of_synced (same ▸ active)⟩

/-! ## What such a frame does not do -/

/-- The same persistent state, and no session that was not there before. -/
structure Subdued (core core' : AuthCore.State) : Prop where
  state : core'.state = core.state
  session : core'.sessionActive = true → core.sessionActive = true

section Subdued
variable {core core' core'' : AuthCore.State}

theorem Subdued.refl (core : AuthCore.State) : Subdued core core := ⟨rfl, id⟩

theorem Subdued.trans (first : Subdued core core') (second : Subdued core' core'') :
    Subdued core core'' :=
  ⟨second.state.trans first.state, fun active => first.session (second.session active)⟩

theorem Subdued.looked (looked : Looked core core') : Subdued core core' := by
  refine ⟨looked.state, fun active => ?_⟩
  rw [looked.of_session active] at active
  exact active

theorem Subdued.refused {nowMs : Int} (refused : AuthCore.Refused nowMs core core') :
    Subdued core core' :=
  ⟨congrArg AuthCore.Persistent.state refused.persistent, fun active => (refused.session active).1⟩

end Subdued

theorem refreshProtectedSession_subdued (cfg : Config) (env : Env) (id : ContextId)
    (response : Frame) (w : World) :
    Subdued w.auth (refreshProtectedSession cfg env id response w).2.auth := by
  rcases refreshProtectedSession_cases cfg env id response w with
    ⟨_, auth, looked, result⟩ | ⟨_, inTime, result⟩ | ⟨_, _, auth, looked, _, result⟩
  · rw [result]
    exact Subdued.looked looked
  · rw [result]
    exact ⟨rfl, fun _ => inTime.1⟩
  · rw [result]
    exact Subdued.looked looked

theorem afterHandler_subdued (cfg : Config) (env : Env) (id : ContextId) (result : Frame × World) :
    Subdued result.2.auth (afterHandler cfg env id result).2.auth := by
  unfold afterHandler
  split
  · exact refreshProtectedSession_subdued _ _ _ _ _
  · exact Subdued.refl _

/-- The calls that end every upload of the context: a proof, a lock, a new
credential. -/
structure Harmless (opcode : Opcode) (response : Frame) (w w' : World) : Prop where
  core : Subdued w.auth w'.auth
  proof : opcode ≠ .authProve
  lock : opcode = .lock → response.status ≠ Status.ok.code
  replacement : opcode = .passwordSet →
    ∀ credential, w'.calls ≠ w.calls ++ [.setCredential credential 0]

theorem processPasswordSet_harmless (cfg : Config) (env : Env) (id : ContextId)
    (request response : Frame) (w : World) :
    AllDropped ((processPasswordSet cfg env id request response w).2.contexts id) ∨
      (Subdued w.auth (processPasswordSet cfg env id request response w).2.auth ∧
        ∀ credential, (processPasswordSet cfg env id request response w).2.calls ≠
          w.calls ++ [.setCredential credential 0]) := by
  rcases processPasswordSet_cases cfg env id request response w with
    ⟨_, _, result⟩ | ⟨c, _, ⟨_, result⟩ | ⟨_, result⟩⟩
  · rw [result]
    exact Or.inr ⟨Subdued.refl _, fun _ => by simp⟩
  · rw [result]
    obtain ⟨answer, auth, w', refreshed, kept, _⟩ := refresh_outcome cfg env id
      (response.setSuccess c.passwordSetReceivedLength c.passwordSetTotalLength)
      (w.modify id fun _ => c)
    have subdued := refreshProtectedSession_subdued cfg env id
      (response.setSuccess c.passwordSetReceivedLength c.passwordSetTotalLength)
      (w.modify id fun _ => c)
    refine Or.inr ⟨subdued, fun credential => ?_⟩
    rw [refreshed, kept.calls]
    simp
  · rw [result]
    obtain ⟨err, auth, settings, set, outcome⟩ :=
      commitPasswordSet_cases cfg env id response (w.modify id fun _ => c)
    have failed : err ≠ 0 → Subdued w.auth (passwordSetDone id err auth settings
        (w.modify id fun _ => c)).auth ∧ ∀ credential, (passwordSetDone id err auth settings
          (w.modify id fun _ => c)).calls ≠ w.calls ++ [.setCredential credential 0] := by
      intro bad
      constructor
      · rcases AuthCore.setCredential_cases set with ⟨_, same | expired, _⟩ | ⟨zero, _⟩
        · exact same ▸ Subdued.refl _
        · exact expired ▸ Subdued.looked (AuthCore.expireSession_looked _ _)
        · exact absurd zero bad
      · intro credential
        simp [passwordSetDone, bad]
    rcases outcome with ⟨_, result⟩ | ⟨invalid, result⟩ | ⟨_, result⟩ | ⟨bad, result⟩
    · rw [result, World.discard_contexts_self]
      exact Or.inl (zero_allDropped cfg)
    · rw [result]
      refine Or.inr (failed ?_)
      rcases invalid with rfl | rfl <;> decide
    · rw [result, World.discard_contexts_self]
      exact Or.inl (zero_allDropped cfg)
    · rw [result]
      exact Or.inr (failed bad)

theorem dispatch_harmless (cfg : Config) (hmac : Hmac) (env : Env) (id : ContextId)
    (opcode : Opcode) (request response : Frame) (w : World) :
    AllDropped ((dispatch cfg hmac env id opcode request response w).2.contexts id) ∨
      Harmless opcode (dispatch cfg hmac env id opcode request response w).1 w
        (dispatch cfg hmac env id opcode request response w).2 := by
  have managed : ∀ handler : World → Frame × World, (∀ w, (handler w).2.auth = w.auth) →
      Subdued w.auth (processManagement cfg env id handler response w).2.auth := by
    intro handler kept
    obtain ⟨auth, looked, ⟨_, _, _, result⟩ | ⟨_, _, result⟩⟩ :=
      processManagement_cases cfg env id handler response w
    · rw [result]
      exact Subdued.looked looked
    · rw [result]
      have refreshed := afterHandler_subdued cfg env id
        (handler (w.withAuth auth))
      rw [kept] at refreshed
      exact (Subdued.looked looked).trans refreshed
  have simple : ∀ {response' : Frame} {w' : World}, Subdued w.auth w'.auth →
      opcode ≠ .authProve ∧ opcode ≠ .lock ∧ opcode ≠ .passwordSet →
      Harmless opcode response' w w' := by
    rintro response' w' core ⟨noProof, noLock, noPassword⟩
    exact ⟨core, noProof, fun same => absurd same noLock, fun same => absurd same noPassword⟩
  cases opcode with
  | list => exact Or.inr (simple (managed _ fun _ => rfl) (by decide))
  | get => exact Or.inr (simple (managed _ fun _ => rfl) (by decide))
  | set => exact Or.inr (simple (managed _ fun _ => processSet_auth) (by decide))
  | clear => exact Or.inr (simple (managed _ fun _ => processClear_auth) (by decide))
  | passwordSet =>
    obtain ⟨auth, looked, ⟨_, _, _, result⟩ | ⟨_, _, result⟩⟩ := managementAccess_cases cfg env id w
    · simp only [dispatch, result]
      rw [if_pos (gateStatus_ne_ok _), World.discard_contexts_self]
      exact Or.inl (zero_allDropped cfg)
    · simp only [dispatch, result]
      rw [if_neg (by simp)]
      rcases processPasswordSet_harmless cfg env id request response (w.withAuth auth) with
        dropped | ⟨subdued, kept⟩
      · exact Or.inl dropped
      · exact Or.inr ⟨(Subdued.looked looked).trans subdued, by decide, by rintro ⟨⟩,
          fun _ => kept⟩
  | capabilities => exact Or.inr (simple (Subdued.refl _) (by decide))
  | dynamicBegin =>
    refine Or.inr (simple ?_ (by decide))
    simp only [dispatch, (processDynamicBegin_only ..).auth]
    exact Subdued.refl _
  | dynamicData =>
    refine Or.inr (simple ?_ (by decide))
    simp only [dispatch, (processDynamicData_only ..).auth]
    exact Subdued.refl _
  | dynamicClear =>
    refine Or.inr (simple ?_ (by decide))
    simp only [dispatch, (processDynamicClear_only ..).auth]
    exact Subdued.refl _
  | authInfo =>
    obtain ⟨answer, auth, looked, result⟩ := processAuthInfo_cases env request response w
    simp only [dispatch, result]
    exact Or.inr (simple (Subdued.looked looked) (by decide))
  | authChallenge =>
    rcases processAuthChallenge_cases cfg env request response w with
      result | ⟨outcome, auth, generated, result⟩
    · simp only [dispatch, result]
      exact Or.inr (simple (Subdued.refl _) (by decide))
    · simp only [dispatch, result]
      refine Or.inr (simple ?_ (by decide))
      cases outcome with
      | error err => exact Subdued.refused (AuthCore.generateChallenge_error generated)
      | ok nonce =>
        obtain ⟨_, _, _, _, issued⟩ := AuthCore.generateChallenge_ok generated
        have subdued := Subdued.looked (AuthCore.expireSession_looked (env.clock .operation) w.auth)
        rw [issued]
        exact ⟨subdued.state, subdued.session⟩
  | authProve =>
    rcases processAuthProve_cases cfg hmac env id request response w with
      ⟨_, _, result⟩ | ⟨_, auth, _, result⟩
    all_goals
      simp only [dispatch, result, World.discard_contexts_self]
      exact Or.inl (zero_allDropped cfg)
  | lock =>
    rcases processLock_cases cfg env id request response w with result | result
    · simp only [dispatch, result]
      refine Or.inr ⟨Subdued.refl _, by decide, fun _ => ?_, by rintro ⟨⟩⟩
      rw [Frame.status_setError]
      decide
    · simp only [dispatch, result, World.discard_contexts_self]
      exact Or.inl (zero_allDropped cfg)

/-- A frame after which an upload is active neither proves, locks nor replaces
the credential, and after its observation it gains no session. -/
theorem processFrame_harmless
    (active : (((processFrame cfg hmac env id request w).2.contexts id).upload kind).active =
      true) :
    Subdued (observedSession env w.auth).2 (processFrame cfg hmac env id request w).2.auth ∧
      baseCheck request ≠ .ok .authProve ∧
      (Opcode.ofByte request.opcode = some .lock →
        (processFrame cfg hmac env id request w).1.status ≠ Status.ok.code) ∧
      (Opcode.ofByte request.opcode = some .passwordSet → ∀ credential,
        (processFrame cfg hmac env id request w).2.calls ≠
          w.calls ++ [.setCredential credential 0]) := by
  have synced : (syncAuthState cfg env id w).auth = (observedSession env w.auth).2 :=
    syncAuthState_auth ..
  have calls : (syncAuthState cfg env id w).calls = w.calls := syncAuthState_calls ..
  cases checked : baseCheck request with
  | error status =>
    have whole : processFrame cfg hmac env id request w =
        ((Frame.initResponse (some request)).setError status, discardForOpcode cfg id
          (env.clock .cleanup) request.opcode (syncAuthState cfg env id w)) := by
      simp only [processFrame, checked]
    rw [whole]
    have kept : StoresKept (syncAuthState cfg env id w) (discardForOpcode cfg id
      (env.clock .cleanup) request.opcode (syncAuthState cfg env id w)) :=
      discardForOpcode_storesKept _ _
    refine ⟨?_, by rintro ⟨⟩, fun _ => ?_, fun _ credential => ?_⟩
    · rcases discardForOpcode_cases cfg id (env.clock .cleanup) request.opcode
        (syncAuthState cfg env id w) with same | same | same | same
      all_goals
        rw [same, ← synced]
        exact Subdued.refl _
    · simpa using baseCheck_ne_ok checked
    · rw [kept.calls, calls]
      simp
  | ok opcode =>
    have known := baseCheck_opcode checked
    rw [processFrame_ok checked] at active ⊢
    rcases dispatch_harmless cfg hmac env id opcode request
      (Frame.initResponse (some request)) (syncAuthState cfg env id w) with dropped | harmless
    · exact absurd (active.symm.trans (dropped kind)) (by decide)
    · refine ⟨synced ▸ harmless.core, ?_, ?_, ?_⟩
      · rintro ⟨⟩
        exact harmless.proof rfl
      · intro locking
        exact harmless.lock (Option.some.inj (known.symm.trans locking))
      · intro replacing
        rw [← calls]
        exact harmless.replacement (Option.some.inj (known.symm.trans replacing))

end RuntimeMacro.Source.Protocol
