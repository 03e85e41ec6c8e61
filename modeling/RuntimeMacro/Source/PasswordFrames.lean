import RuntimeMacro.Source.CredentialRecord
import RuntimeMacro.Source.FrameUploads

/-!
# PASSWORD_SET frames

runtime_macro_protocol.c:650-668,1144-1264. A PASSWORD_SET frame from end
to end, with the gate before the handler: it is refused, stages its chunk,
or completes the object and replaces the credential. Then which frames are
answered OK while the device is open or the session lives.
-/
namespace RuntimeMacro.Source.Protocol
open AuthCore (Hmac Looked)

variable {cfg : Config} {hmac : Hmac} {env : Env} {id : ContextId} {request response : Frame}
  {w w' : World} {c c' : Context}

/-! ## The staged object -/

theorem stagedCredential_eq (object : List UInt8) :
    stagedCredential object = AuthCore.deserializeCredential (AuthCore.credentialVersion :: object)
    := by
  have word : AuthCore.getLe32 (AuthCore.credentialVersion :: object) 1 = getU32 object := by
    rw [AuthCore.getLe32_drop]
    rfl
  have bytes : ∀ n offset,
      AuthCore.readBytes n (AuthCore.credentialVersion :: object) (1 + offset) =
        AuthCore.readBytes n object offset := fun n offset =>
    (AuthCore.readBytes_drop n (AuthCore.credentialVersion :: object) 1 offset).symm
  unfold stagedCredential AuthCore.deserializeCredential
  rw [word, bytes 16 4, bytes 32 20]

/-- The credential of an object is stored as the version octet and the
object. -/
theorem serialize_stagedCredential (object : List UInt8)
    (length : object.length = passwordSetLength) :
    AuthCore.serializeCredential (stagedCredential object) =
      AuthCore.credentialVersion :: object := by
  rw [stagedCredential_eq]
  apply AuthCore.serialize_deserialize
  · rw [List.length_cons, length]
    rfl
  · rfl

theorem stagedCredential_take (staging : List UInt8) :
    stagedCredential (staging.take passwordSetLength) = stagedCredential staging := by
  have cell : ∀ index < 52, (staging.take passwordSetLength).getD index 0 = staging.getD index 0 :=
    fun _ inside => AuthCore.getD_take staging inside
  have bytes : ∀ n offset, offset + n ≤ 52 →
      AuthCore.readBytes n (staging.take passwordSetLength) offset =
        AuthCore.readBytes n staging offset := by
    intro n offset inside
    apply Vector.ext
    intro index within
    simp only [AuthCore.readBytes, Vector.getElem_ofFn]
    exact cell (offset + index) (by omega)
  have word : getU32 (staging.take passwordSetLength) = getU32 staging := by
    unfold getU32 AuthCore.getLe32
    rw [cell 0 (by omega), cell (0 + 1) (by omega), cell (0 + 2) (by omega),
      cell (0 + 3) (by omega)]
  unfold stagedCredential
  rw [word, bytes 16 4 (by omega), bytes 32 20 (by omega)]

/-! ## One frame -/

/-- An accepted PASSWORD_SET chunk is final when it ends where the object
does. -/
theorem passwordSetAccepted_final (accepted : PasswordSetAccepted request c c') :
    c'.passwordSetReceivedLength = request.offset + request.payloadLength ∧
      c'.passwordSetTotalLength = passwordSetLength := by
  obtain ⟨valid, ⟨first, rfl⟩ | ⟨continued, rfl⟩⟩ := accepted
  · constructor
    · simp [startPasswordSet, first]
    · exact valid.total
  · constructor
    · rw [continued.received]
      rfl
    · exact continued.total.trans valid.total

theorem passwordSetAccepted_fits (accepted : PasswordSetAccepted request c c') :
    c'.passwordSetReceivedLength ≤ passwordSetLength := by
  have payload := accepted.1.payload
  have offset := accepted.1.offset
  rw [(passwordSetAccepted_final accepted).1, ← accepted.1.total]
  omega

/-- The credential is the one before, and so are the stored values. -/
structure CredentialKept (w w' : World) : Prop where
  credential : w'.auth.credential = w.auth.credential
  values : w'.settings.values = w.settings.values

/-- The frame is refused, stages its chunk, or completes the object and stores
it. -/
inductive PasswordOutcome (cfg : Config) (env : Env) (id : ContextId) (request : Frame) (w : World)
    (response : Frame) (w' : World) : Prop
  | refused (status : response.status ≠ Status.ok.code)
      (dropped : (w'.contexts id).upload .passwordSet = (Context.zero cfg).upload .passwordSet)
      (kept : CredentialKept w w')
  | staged (c : Context) (status : response.status = Status.ok.code)
      (offset : response.offset = c.passwordSetReceivedLength)
      (sized : request.payloadLength ≤ payloadSize)
      (accepted : PasswordSetAccepted request ((syncAuthState cfg env id w).contexts id) c)
      (partly : c.passwordSetReceivedLength ≠ passwordSetLength)
      (holding : w'.contexts id = c) (state : w'.auth.state = w.auth.state)
      (kept : CredentialKept w w')
  | committed (c : Context) (status : response.status = Status.ok.code)
      (offset : response.offset = passwordSetLength) (sized : request.payloadLength ≤ payloadSize)
      (accepted : PasswordSetAccepted request ((syncAuthState cfg env id w).contexts id) c)
      (complete : c.passwordSetReceivedLength = passwordSetLength)
      (dropped : (w'.contexts id).upload .passwordSet = (Context.zero cfg).upload .passwordSet)
      (credential : w'.auth.credential = stagedCredential c.passwordSetStaging)
      (stored : w'.settings.values AuthCore.settingPath =
        some (AuthCore.serializeCredential (stagedCredential c.passwordSetStaging)))

/-- What the handler does behind the gate. -/
theorem processPasswordSet_outcome (cfg : Config) (env : Env) (id : ContextId) (response : Frame)
    (sized : request.payloadLength ≤ payloadSize) {auth : AuthCore.State}
    (looked : Looked w.auth auth) :
    PasswordOutcome cfg env id request w
      (processPasswordSet cfg env id request response
        ((syncAuthState cfg env id w).withAuth auth)).1
      (processPasswordSet cfg env id request response
        ((syncAuthState cfg env id w).withAuth auth)).2 := by
  have credential : ∀ {core}, Looked auth core → core.credential = w.auth.credential :=
    fun again => again.credential.trans looked.credential
  have values := congrArg Settings.values (syncAuthState_settings cfg env id w)
  rcases processPasswordSet_cases cfg env id request response
    ((syncAuthState cfg env id w).withAuth auth) with
    ⟨status, bad, result⟩ | ⟨c, accepted, ⟨partly, result⟩ | ⟨complete, result⟩⟩
  · rw [result]
    apply PasswordOutcome.refused
    · simpa using bad
    · rw [World.clearPasswordSet_contexts_self]
      rfl
    · exact ⟨looked.credential, values⟩
  · obtain ⟨_, total⟩ := passwordSetAccepted_final accepted
    have fits := passwordSetAccepted_fits accepted
    have small : c.passwordSetReceivedLength < 65536 := by
      unfold passwordSetLength at fits
      omega
    rw [total] at partly
    rw [result]
    rcases refreshProtectedSession_cases cfg env id
      (response.setSuccess c.passwordSetReceivedLength c.passwordSetTotalLength)
      (((syncAuthState cfg env id w).withAuth auth).modify id fun _ => c) with
      ⟨_, core, again, refreshed⟩ | ⟨_, _, refreshed⟩ | ⟨_, _, core, again, _, refreshed⟩
    · rw [refreshed]
      apply PasswordOutcome.staged c (Frame.status_setSuccess ..)
        (Frame.offset_setSuccess _ _ _ small) sized accepted partly
      · simp only [World.withAuth_contexts, World.modify_contexts_self]
      · exact again.state.trans looked.state
      · exact ⟨credential again, values⟩
    · rw [refreshed]
      apply PasswordOutcome.staged c (Frame.status_setSuccess ..)
        (Frame.offset_setSuccess _ _ _ small) sized accepted partly
      · simp only [World.withAuth_contexts, World.modify_contexts_self]
      · exact looked.state
      · exact ⟨looked.credential, values⟩
    · rw [refreshed]
      apply PasswordOutcome.refused
      · rw [Frame.status_setError]
        decide
      · rw [World.discard_contexts_self]
      · exact ⟨credential again, values⟩
  · obtain ⟨_, total⟩ := passwordSetAccepted_final accepted
    obtain ⟨err, core, settings, set, outcome⟩ := commitPasswordSet_cases cfg env id response
      (((syncAuthState cfg env id w).withAuth auth).modify id fun _ => c)
    rw [World.modify_contexts_self] at set
    -- Storage comes first, so an error leaves the credential and the values alone.
    have failed : err ≠ 0 → ∀ {answer : Frame} {w' : World}, answer.status ≠ Status.ok.code →
        (w'.contexts id).upload .passwordSet = (Context.zero cfg).upload .passwordSet →
        w'.auth = core → w'.settings = settings →
        PasswordOutcome cfg env id request w answer w' := by
      intro bad answer w' refused dropped auth stored
      apply PasswordOutcome.refused refused dropped
      rcases AuthCore.setCredential_cases set with ⟨_, same | expired, unsaved⟩ | ⟨success, _⟩
      · constructor
        · rw [auth, same]
          exact looked.credential
        · rw [stored]
          exact unsaved.trans values
      · constructor
        · rw [auth, expired]
          exact (AuthCore.expireSession_credential _ _).trans looked.credential
        · rw [stored]
          exact unsaved.trans values
      · exact absurd success bad
    have cleared : ∀ w : World, ((passwordSetDone id err core settings w).contexts id).upload
        .passwordSet = (Context.zero cfg).upload .passwordSet := by
      intro w
      unfold passwordSetDone
      rw [World.clearPasswordSet_contexts_self]
      rfl
    rw [result]
    rcases outcome with ⟨success, done⟩ | ⟨bad, done⟩ | ⟨bad, done⟩ | ⟨bad, done⟩
    · rcases AuthCore.setCredential_cases set with
        ⟨failed, _⟩ | ⟨_, value, same, _, _, activated, saved⟩
      · exact absurd success failed
      · cases same
        rw [done]
        apply PasswordOutcome.committed c (Frame.status_setSuccess ..)
          (Frame.offset_setSuccess _ _ _ (by decide)) sized accepted (complete.trans total)
        · rw [World.discard_contexts_self]
        · simp [passwordSetDone, activated, AuthCore.setCredentialActivate]
        · simp [passwordSetDone, saved]
    · have nonzero : err ≠ 0 := by
        rcases bad with rfl | rfl
        · decide
        · decide
      rw [done]
      exact failed nonzero (by simp) (cleared _) rfl rfl
    · have nonzero : err ≠ 0 := by
        rw [bad]
        decide
      rw [done]
      apply failed nonzero (by simp) _ rfl rfl
      rw [World.discard_contexts_self]
    · rw [done]
      exact failed bad (by simp) (cleared _) rfl rfl

theorem processFrame_passwordSet (cfg : Config) (hmac : Hmac) (env : Env) (id : ContextId)
    (isPasswordSet : Opcode.ofByte request.opcode = some .passwordSet) (w : World) :
    PasswordOutcome cfg env id request w (processFrame cfg hmac env id request w).1
      (processFrame cfg hmac env id request w).2 := by
  have observed : Looked w.auth (syncAuthState cfg env id w).auth := by
    rw [syncAuthState_auth]
    exact observedSession_looked env w.auth
  cases checked : baseCheck request with
  | error status =>
    simp only [processFrame, checked]
    apply PasswordOutcome.refused
    · simpa using baseCheck_ne_ok checked
    · simp only [discardForOpcode, isPasswordSet, World.clearPasswordSet_contexts_self]
      rfl
    · simp only [discardForOpcode, isPasswordSet]
      exact ⟨observed.credential, congrArg Settings.values (syncAuthState_settings cfg env id w)⟩
  | ok opcode =>
    have same : opcode = .passwordSet := by
      simpa [isPasswordSet] using (baseCheck_opcode checked).symm
    subst same
    obtain ⟨auth, looked, ⟨_, _, _, shut⟩ | ⟨_, _, granted⟩⟩ :=
      managementAccess_cases cfg env id (syncAuthState cfg env id w)
    · simp only [processFrame, checked, dispatch, shut]
      rw [if_pos (gateStatus_ne_ok _)]
      apply PasswordOutcome.refused
      · simpa using gateStatus_ne_ok _
      · rw [World.discard_contexts_self]
      · exact ⟨(observed.trans looked).credential,
          congrArg Settings.values (syncAuthState_settings cfg env id w)⟩
    · simp only [processFrame, checked, dispatch, granted]
      rw [if_neg (by simp)]
      exact processPasswordSet_outcome cfg env id _ (baseCheck_payload checked)
        (observed.trans looked)

/-! ## While the device is open or the session lives -/

/-- The device is open, or its session is alive at every clock reading of the
call. -/
def Ready (env : Env) (core : AuthCore.State) : Prop :=
  core.state = .stateOpen ∨ (core.state = .stateProtected ∧ core.sessionActive = true ∧
    ∀ site, env.clock site < core.sessionDeadlineMs)

theorem Ready.observed (cfg : Config) (id : ContextId) (ready : Ready env w.auth) :
    (observedSession env w.auth).1 = decide (w.auth.state = .stateProtected) ∧
      (w.auth.state = .stateProtected → (syncAuthState cfg env id w).auth = w.auth) := by
  rw [syncAuthState_auth]
  rcases ready with unguarded | ⟨guarded, active, alive⟩
  · constructor
    · rw [observedSession_fst, unguarded]
      rfl
    · intro guarded
      exact absurd (unguarded.symm.trans guarded) (by decide)
  · unfold observedSession
    simp [AuthCore.expireSession_of_alive (alive _), AuthCore.isAuthenticated, guarded, active]

/-- The gate lets a ready caller pass, with the session as it was. -/
theorem Ready.granted (cfg : Config) (id : ContextId) (ready : Ready env w.auth) :
    ∃ auth, Ready env auth ∧ auth.state = w.auth.state ∧
      (w.auth.state = .stateProtected → auth = w.auth) ∧
      managementAccess cfg env id (syncAuthState cfg env id w) =
        (.ok, (syncAuthState cfg env id w).withAuth auth) := by
  have state : (syncAuthState cfg env id w).auth.state = w.auth.state := by
    rw [syncAuthState_auth]
    exact (observedSession_looked env w.auth).state
  have same := (ready.observed cfg id).2
  obtain ⟨auth, looked, ⟨shut, _⟩ | ⟨_, kept, granted⟩⟩ :=
    managementAccess_cases cfg env id (syncAuthState cfg env id w)
  · apply absurd _ shut
    rcases ready with unguarded | ⟨guarded, active, alive⟩
    · exact Or.inl (state.trans unguarded)
    · rw [same guarded]
      exact Or.inr ⟨guarded, active, alive _, alive _⟩
  · have whole : w.auth.state = .stateProtected → auth = w.auth := fun guarded =>
      (kept (state.trans guarded)).trans (same guarded)
    refine ⟨auth, ?_, looked.state.trans state, whole, granted⟩
    rcases ready with unguarded | ⟨guarded, active, alive⟩
    · exact Or.inl (looked.state.trans (state.trans unguarded))
    · rw [whole guarded]
      exact Or.inr ⟨guarded, active, alive⟩

/-- The refresh keeps the answer of a ready caller. -/
theorem Ready.refreshed (cfg : Config) (id : ContextId) (ready : Ready env w.auth)
    (response : Frame) : (refreshProtectedSession cfg env id response w).1 = response := by
  rcases refreshProtectedSession_cases cfg env id response w with
    ⟨_, _, _, result⟩ | ⟨_, _, result⟩ | ⟨guarded, late, _⟩
  · rw [result]
  · rw [result]
  · rcases ready with unguarded | ⟨_, active, alive⟩
    · exact absurd (unguarded.symm.trans guarded) (by decide)
    · exact absurd ⟨active, alive _, alive _⟩ late

theorem processPasswordSet_of_accepted (accepted : PasswordSetAccepted request (w.contexts id) c) :
    processPasswordSet cfg env id request response w =
      finishPasswordSet cfg env id response (w.modify id fun _ => c) := by
  unfold processPasswordSet
  obtain ⟨valid, ⟨first, same⟩ | ⟨continues, same⟩⟩ := accepted
  · rw [passwordSetChecks_eq_none.mpr valid]
    dsimp only
    rw [if_pos first, World.modify_eq _ _ _ c same.symm]
  · rw [passwordSetChecks_eq_none.mpr valid]
    dsimp only
    rw [if_neg continues.later, (passwordSetContinueChecks_eq_none continues.later).mpr continues]
    dsimp only
    rw [World.modify_eq _ _ _ c same.symm]

/-- A chunk that fits the staging is answered OK, and so is the last one when
the object is a valid credential and storage succeeds. -/
theorem passwordSet_answered (hmac : Hmac) (ready : Ready env w.auth)
    (passed : baseCheck request = .ok .passwordSet)
    (accepted : PasswordSetAccepted request ((syncAuthState cfg env id w).contexts id) c)
    (stores : c.passwordSetReceivedLength = passwordSetLength →
      AuthCore.credentialIsValid (stagedCredential c.passwordSetStaging) = true ∧
        env.saveErr = 0) :
    (processFrame cfg hmac env id request w).1.status = Status.ok.code := by
  obtain ⟨auth, still, state, whole, granted⟩ := ready.granted cfg id
  obtain ⟨_, total⟩ := passwordSetAccepted_final accepted
  simp only [processFrame, passed, dispatch, granted]
  rw [if_neg (by simp), processPasswordSet_of_accepted
    (w := (syncAuthState cfg env id w).withAuth auth) accepted]
  rcases finishPasswordSet_cases cfg env id (Frame.initResponse (some request))
    ((syncAuthState cfg env id w).withAuth auth) c with ⟨_, result⟩ | ⟨complete, result⟩
  · rw [result, Ready.refreshed cfg id (w := World.modify id (fun _ => c) _) still]
    exact Frame.status_setSuccess ..
  · obtain ⟨valid, saved⟩ := stores (complete.trans total)
    obtain ⟨err, core, settings, set, outcome⟩ := commitPasswordSet_cases cfg env id
      (Frame.initResponse (some request))
      (((syncAuthState cfg env id w).withAuth auth).modify id fun _ => c)
    rw [World.modify_contexts_self] at set
    have unlocked : auth.state ≠ .stateErrorLocked := by
      rcases still with unguarded | ⟨guarded, _⟩
      · rw [unguarded]
        decide
      · rw [guarded]
        decide
    have session : auth.state = .stateProtected →
        (AuthCore.expireSession (env.clock .operation) auth).sessionActive = true := by
      intro guarded
      rcases still with unguarded | ⟨_, active, alive⟩
      · exact absurd (unguarded.symm.trans guarded) (by decide)
      · rw [AuthCore.expireSession_of_alive (alive _)]
        exact active
    have success : err = 0 := by
      have answer := AuthCore.setCredential_saved (syncAuthState cfg env id w).settings env.saveErr
        valid unlocked session
      rw [← saved, ← answer]
      exact (congrArg Prod.fst set).symm
    rw [result]
    rcases outcome with ⟨_, done⟩ | ⟨bad, _⟩ | ⟨bad, _⟩ | ⟨bad, _⟩
    · rw [done]
      exact Frame.status_setSuccess ..
    · rw [success] at bad
      exact absurd bad (by decide)
    · rw [success] at bad
      exact absurd bad (by decide)
    · exact absurd success bad

end RuntimeMacro.Source.Protocol
