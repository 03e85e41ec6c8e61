import RuntimeMacro.Source.SetFrames
import RuntimeMacro.Source.DynamicFrames

/-!
# Frames that write

runtime_macro_protocol.c:487-605,846-993,1144-1264. SET and CLEAR behind
an open gate, computed: which frames change the static slots or the
settings, and what they answer, by the results of storage and by the clock
at the refresh. Then the PASSWORD_SET frames that save nothing, and the
DATA that commits the staging of another upload.
-/
namespace RuntimeMacro.Source.Protocol
open AuthCore (Hmac Looked)
open Foundations

variable {cfg : Config} {hmac : Hmac} {env : Env} {id : ContextId} {request response : Frame}
  {w w' : World} {c : Context}

/-! ## The gate and the refresh under a clock that does not run back -/

/-- The session the gate needed is over when the refresh looks at it. -/
def SessionOver (env : Env) (core : AuthCore.State) : Prop :=
  core.state = .stateProtected ∧ core.sessionDeadlineMs ≤ env.clock .refreshSession

theorem observed_of_gateOpen (cfg : Config) (id : ContextId) (ordered : env.Ordered)
    (gate : GateOpen env w.auth) (guarded : w.auth.state = .stateProtected) :
    (syncAuthState cfg env id w).auth = w.auth := by
  obtain ⟨active, _, late⟩ : w.auth.sessionActive = true ∧
      env.clock .gateState < w.auth.sessionDeadlineMs ∧
      env.clock .gateSession < w.auth.sessionDeadlineMs := by
    rcases gate with isOpen | ⟨_, live⟩
    · exact absurd (isOpen.symm.trans guarded) (by decide)
    · exact live
  have first : env.clock .syncState < w.auth.sessionDeadlineMs :=
    lt_of_le_of_lt (ordered .syncState .gateSession (by decide)) late
  have second : env.clock .syncSession < w.auth.sessionDeadlineMs :=
    lt_of_le_of_lt (ordered .syncSession .gateSession (by decide)) late
  rw [syncAuthState_auth]
  unfold observedSession AuthCore.isAuthenticated
  simp only [AuthCore.expireSession_of_alive first, AuthCore.expireSession_of_alive second]
  split
  · rfl
  · rfl

theorem gateOpen_synced (ordered : env.Ordered) :
    GateOpen env (syncAuthState cfg env id w).auth ↔ GateOpen env w.auth := by
  have looked : Looked w.auth (syncAuthState cfg env id w).auth := by
    rw [syncAuthState_auth]
    exact observedSession_looked env w.auth
  constructor
  · rintro (isOpen | ⟨guarded, active, live⟩)
    · exact Or.inl (looked.state.symm.trans isOpen)
    · have same := looked.of_session active
      rw [same] at guarded active live
      exact Or.inr ⟨guarded, active, live⟩
  · intro gate
    by_cases guarded : w.auth.state = .stateProtected
    · rw [observed_of_gateOpen cfg id ordered gate guarded]
      exact gate
    · rcases gate with isOpen | ⟨protection, _⟩
      · exact Or.inl (looked.state.trans isOpen)
      · exact absurd protection guarded

/-- Behind an open gate the refresh changes the answer exactly when the session
is over. -/
theorem refresh_answer (cfg : Config) (id : ContextId) (ordered : env.Ordered)
    (gate : GateOpen env w.auth) (response : Frame) :
    ∃ w', StoresKept w w' ∧
      ((SessionOver env w.auth ∧ refreshProtectedSession cfg env id response w =
          (response.setError .authRequired, w')) ∨
        (¬ SessionOver env w.auth ∧
          refreshProtectedSession cfg env id response w = (response, w'))) := by
  have kept : ∀ auth, StoresKept w (w.withAuth auth) := fun _ => ⟨rfl, rfl, rfl⟩
  rcases refreshProtectedSession_cases cfg env id response w with
    ⟨unguarded, auth, _, result⟩ | ⟨_, inTime, result⟩ | ⟨guarded, late, auth, _, _, result⟩
  · exact ⟨_, kept _, Or.inr ⟨fun ended => unguarded ended.1, result⟩⟩
  · refine ⟨_, kept _, Or.inr ⟨fun ended => ?_, result⟩⟩
    have before := inTime.2.2
    have after := ended.2
    omega
  · refine ⟨(w.withAuth auth).discard cfg id _, ⟨rfl, rfl, rfl⟩, Or.inl ⟨⟨guarded, ?_⟩, result⟩⟩
    have active : w.auth.sessionActive = true := by
      rcases gate with isOpen | ⟨_, active, _⟩
      · exact absurd (isOpen.symm.trans guarded) (by decide)
      · exact active
    have order : env.clock .refreshState ≤ env.clock .refreshSession :=
      ordered .refreshState .refreshSession (by decide)
    by_contra inTime
    exact late ⟨active, by omega, by omega⟩

/-- An open gate hands the world on, with the core it looked at. -/
theorem processManagement_open (cfg : Config) (id : ContextId) (ordered : env.Ordered)
    (gate : GateOpen env w.auth) (handler : World → Frame × World) (response : Frame) :
    ∃ auth, processManagement cfg env id handler response (syncAuthState cfg env id w) =
        afterHandler cfg env id (handler ((syncAuthState cfg env id w).withAuth auth)) ∧
      GateOpen env auth ∧ (SessionOver env auth ↔ SessionOver env w.auth) := by
  have synced : GateOpen env (syncAuthState cfg env id w).auth := (gateOpen_synced ordered).mpr gate
  obtain ⟨auth, looked, ⟨shut, _⟩ | ⟨_, same, result⟩⟩ :=
    processManagement_cases cfg env id handler response (syncAuthState cfg env id w)
  · exact absurd synced shut
  · have state : auth.state = w.auth.state := by
      rw [looked.state, syncAuthState_auth]
      exact (observedSession_looked env w.auth).state
    refine ⟨auth, result, ?_⟩
    by_cases guarded : w.auth.state = .stateProtected
    · have observed := observed_of_gateOpen cfg id ordered gate guarded
      rw [observed] at same
      rw [same guarded]
      exact ⟨gate, Iff.rfl⟩
    · have isOpen : w.auth.state = .stateOpen := by
        rcases gate with isOpen | ⟨protection, _⟩
        · exact isOpen
        · exact absurd protection guarded
      refine ⟨Or.inl (state.trans isOpen), ?_⟩
      constructor
      · intro ended
        exact absurd (state.symm.trans ended.1) guarded
      · intro ended
        exact absurd ended.1 guarded

/-! ## SET -/

/-- The text a completing SET chunk makes of the staging. -/
def completedText (request : Frame) (c : Context) : List UInt8 :=
  if request.offset = 0 then request.payload request.payloadLength
  else (ByteBuffer.write c.setStaging request.offset
    (request.payload request.payloadLength)).take request.totalLength

/-- The chunk completes an upload of a legal text. -/
structure SetWrites (cfg : Config) (env : Env) (id : ContextId) (request : Frame) (w : World) :
    Prop where
  valid : SetChunkValid cfg request
  complete : request.offset + request.payloadLength = request.totalLength
  continued : request.offset ≠ 0 →
    ¬ Stale env w.auth (w.contexts id) ∧ SetContinues request (w.contexts id)
  alphabet : SlotStore.textIsValid (completedText request (w.contexts id)) = true

theorem accepted_completes {c' : Context} (sized : request.payloadLength ≤ payloadSize)
    (accepted : SetAccepted cfg request c c')
    (complete : c'.setReceivedLength = c'.setTotalLength) :
    c'.setSlot = request.slot.toNat ∧ c'.setTotalLength = request.totalLength ∧
      c'.setStaging.take c'.setTotalLength = completedText request c ∧
      request.offset + request.payloadLength = request.totalLength := by
  obtain ⟨_, ⟨first, rfl⟩ | ⟨continued, rfl⟩⟩ := accepted
  · have whole : request.payloadLength = request.totalLength := complete
    have length := request.payload_length sized
    refine ⟨rfl, rfl, ?_, by omega⟩
    have taken := ByteBuffer.write_take_zero (c.clearSet cfg).setStaging
      (request.payload request.payloadLength)
    rw [length, whole] at taken
    rw [completedText, if_pos first, whole, ← taken]
    simp only [startSet, whole]
  · have whole : c.setReceivedLength + request.payloadLength = c.setTotalLength := complete
    have received := continued.received
    refine ⟨continued.slot, continued.total, ?_, by rw [received, whole, continued.total]⟩
    rw [completedText, if_neg continued.later]
    simp only [extendSet, continued.total]

theorem SetContinues.congr {c' : Context} (continued : SetContinues request c)
    (same : c'.upload .set = c.upload .set) : SetContinues request c' := by
  simp only [Context.upload, Upload.mk.injEq] at same
  obtain ⟨active, requestId, slot, total, received, _⟩ := same
  exact ⟨continued.later, active.trans continued.active, requestId.trans continued.requestId,
    slot.trans continued.slot, total.trans continued.total, continued.received.trans received.symm⟩

theorem completedText_congr {c' : Context} (same : c'.upload .set = c.upload .set) :
    completedText request c' = completedText request c := by
  simp only [Context.upload, Upload.mk.injEq] at same
  unfold completedText
  rw [same.2.2.2.2.2]

/-- The observation leaves alone what a completing chunk continues. -/
theorem SetWrites.observed (writes : SetWrites cfg env id request w) :
    (request.offset ≠ 0 → SetContinues request ((syncAuthState cfg env id w).contexts id)) ∧
      completedText request ((syncAuthState cfg env id w).contexts id) =
        completedText request (w.contexts id) := by
  by_cases first : request.offset = 0
  · refine ⟨fun later => absurd first later, ?_⟩
    rw [completedText, completedText, if_pos first, if_pos first]
  · obtain ⟨fresh, continued⟩ := writes.continued first
    have same : ((syncAuthState cfg env id w).contexts id).upload .set =
        (w.contexts id).upload .set := by
      rcases syncAuthState_uploads cfg env id w .set with ⟨stale, _⟩ | ⟨_, same⟩
      · exact absurd stale fresh
      · exact same
    exact ⟨fun _ => continued.congr same, completedText_congr same⟩

theorem SetWrites.accepted (writes : SetWrites cfg env id request w) :
    ∃ c, SetAccepted cfg request ((syncAuthState cfg env id w).contexts id) c ∧
      c.setReceivedLength = c.setTotalLength := by
  have complete := writes.complete
  by_cases first : request.offset = 0
  · refine ⟨_, ⟨writes.valid, Or.inl ⟨first, rfl⟩⟩, ?_⟩
    have whole : request.payloadLength = request.totalLength := by omega
    exact whole
  · have continued := writes.observed.1 first
    refine ⟨_, ⟨writes.valid, Or.inr ⟨continued, rfl⟩⟩, ?_⟩
    have received := continued.received
    have total := continued.total
    simp only [extendSet]
    omega

/-- An accepted chunk that completes a legal text is one that writes. -/
theorem SetWrites.of_accepted {c : Context} (passed : baseCheck request = .ok .set)
    (accepted : SetAccepted cfg request ((syncAuthState cfg env id w).contexts id) c)
    (complete : c.setReceivedLength = c.setTotalLength)
    (alphabet : SlotStore.textIsValid (c.setStaging.take c.setTotalLength) = true) :
    SetWrites cfg env id request w := by
  obtain ⟨_, _, text, whole⟩ := accepted_completes (baseCheck_payload passed) accepted complete
  rw [text] at alphabet
  obtain ⟨valid, start⟩ := accepted
  by_cases first : request.offset = 0
  · refine ⟨valid, whole, fun later => absurd first later, ?_⟩
    rw [completedText, if_pos first] at alphabet ⊢
    exact alphabet
  · obtain ⟨impossible, _⟩ | ⟨continued, _⟩ := start
    · exact absurd impossible first
    · rcases syncAuthState_uploads cfg env id w .set with ⟨_, dropped⟩ | ⟨fresh, same⟩
      · have active : ((syncAuthState cfg env id w).contexts id).setActive = true :=
          continued.active
        exact absurd (active.symm.trans dropped) (by decide)
      · refine ⟨valid, whole, fun _ => ⟨fresh, continued.congr same.symm⟩, ?_⟩
        rwa [completedText_congr same] at alphabet

/-- An accepted chunk is staged, and what follows depends on the staging
only. -/
theorem processSet_finished (accepted : SetAccepted cfg request (w.contexts id) c) :
    processSet cfg env id request response w =
      finishSet cfg env id response (w.modify id fun _ => c) := by
  obtain ⟨valid, ⟨first, rfl⟩ | ⟨continued, rfl⟩⟩ := accepted
  · unfold processSet
    simp only [setChecks_eq_none.mpr valid]
    rw [if_pos first, World.modify_eq _ _ _ _ rfl]
  · unfold processSet
    simp only [setChecks_eq_none.mpr valid]
    rw [if_neg continued.later]
    simp only [(setContinueChecks_eq_none continued.later).mpr continued]
    rw [World.modify_eq _ _ _ _ rfl]

/-- A handler's accepted chunk that completes the text goes to the slot API. -/
theorem processSet_of_accepted (cfg : Config) (env : Env) (id : ContextId)
    (request response : Frame) (accepted : SetAccepted cfg request (w.contexts id) c)
    (complete : c.setReceivedLength = c.setTotalLength) :
    processSet cfg env id request response w =
      commitSet cfg env id response (w.modify id fun _ => c) := by
  rw [processSet_finished accepted]
  rcases finishSet_cases cfg env id response w c with ⟨partly, _⟩ | ⟨_, result⟩
  · exact absurd complete partly
  · exact result

/-- The answer of a write behind an open gate, by the result of storage and by
the refresh. -/
def WriteAnswered (env : Env) (core : AuthCore.State) (err : Int) (refusal : Status)
    (response : Frame) : Prop :=
  (err = 0 ∧ SessionOver env core ∧ response.status = Status.authRequired.code) ∨
  (err = 0 ∧ ¬ SessionOver env core ∧ response.status = Status.ok.code) ∨
  (err ≠ 0 ∧ response.status = refusal.code)

theorem afterHandler_answered (cfg : Config) (id : ContextId) (ordered : env.Ordered)
    {answer : Frame} {err : Int} {refusal : Status} (written : World)
    (gate : GateOpen env written.auth) (bad : refusal ≠ .ok)
    (answered : answer.status = if err = 0 then Status.ok.code else refusal.code) :
    StoresKept written (afterHandler cfg env id (answer, written)).2 ∧
      WriteAnswered env written.auth err refusal (afterHandler cfg env id (answer, written)).1 := by
  unfold afterHandler
  dsimp only
  by_cases success : err = 0
  · rw [if_pos success] at answered
    rw [if_pos answered]
    obtain ⟨w', kept, ⟨ended, refreshed⟩ | ⟨live, refreshed⟩⟩ :=
      refresh_answer cfg id ordered gate answer
    · rw [refreshed]
      exact ⟨kept, Or.inl ⟨success, ended, Frame.status_setError ..⟩⟩
    · rw [refreshed]
      exact ⟨kept, Or.inr (Or.inl ⟨success, live, answered⟩)⟩
  · rw [if_neg success] at answered
    have refused : ¬ answer.status = Status.ok.code := by
      rw [answered, Status.code_inj]
      exact bad
    rw [if_neg refused]
    exact ⟨StoresKept.refl _, Or.inr (Or.inr ⟨success, answered⟩)⟩

theorem WriteAnswered.congr {core core' : AuthCore.State} {err : Int} {refusal : Status}
    (answered : WriteAnswered env core' err refusal response)
    (ended : SessionOver env core' ↔ SessionOver env core) :
    WriteAnswered env core err refusal response := by
  unfold WriteAnswered at *
  rwa [ended] at answered

/-- A SET frame that writes: the slot changes first, then storage answers. -/
theorem setFrame_written (hmac : Hmac) (ordered : env.Ordered)
    (passed : baseCheck request = .ok .set) (gate : GateOpen env w.auth)
    (writes : SetWrites cfg env id request w) :
    (processFrame cfg hmac env id request w).2.slots =
        w.slots.slotReplace request.slot.toNat (completedText request (w.contexts id)) ∧
      (∃ name value, (processFrame cfg hmac env id request w).2.settings.calls =
        w.settings.calls ++ [.save name value env.saveErr]) ∧
      WriteAnswered env w.auth env.saveErr
        (if env.saveErr = -einval then .invalidText else .storageError)
        (processFrame cfg hmac env id request w).1 := by
  have whole : processFrame cfg hmac env id request w = processManagement cfg env id
      (processSet cfg env id request (Frame.initResponse (some request)))
      (Frame.initResponse (some request)) (syncAuthState cfg env id w) := by
    simp only [processFrame, passed, dispatch]
  obtain ⟨auth, managed, opened, ended⟩ := processManagement_open cfg id ordered
    gate (processSet cfg env id request (Frame.initResponse (some request)))
    (Frame.initResponse (some request))
  obtain ⟨c, accepted, complete⟩ := writes.accepted
  obtain ⟨slot, total, text, _⟩ := accepted_completes (baseCheck_payload passed) accepted complete
  rw [writes.observed.2] at text
  have handled := processSet_of_accepted (w := (syncAuthState cfg env id w).withAuth auth) cfg env
    id request (Frame.initResponse (some request)) accepted complete
  obtain ⟨err, slots, settings, set, committed⟩ := commitSet_eq cfg env id
    (Frame.initResponse (some request))
    (((syncAuthState cfg env id w).withAuth auth).modify id fun _ => c)
  simp only [World.modify_contexts_self, World.modify_slots, World.modify_settings,
    World.withAuth_slots, World.withAuth_settings, syncAuthState_slots, syncAuthState_settings]
    at set committed
  have alphabet : SlotStore.textIsValid (c.setStaging.take c.setTotalLength) = true := by
    rw [text]
    exact writes.alphabet
  have fits : c.setTotalLength ≤ cfg.maxTextLen := by
    rw [total]
    exact writes.valid.total
  have validSlot : SlotStore.slotIsValid cfg c.setSlot = true := by
    rw [slot]
    exact writes.valid.slot
  rw [SlotStore.slotSet_of_valid _ _ _ validSlot fits alphabet, text, slot] at set
  cases set
  have status : (commitSetAnswer (Frame.initResponse (some request)) c env.saveErr).status =
      if env.saveErr = 0 then Status.ok.code
      else (if env.saveErr = -einval then Status.invalidText else .storageError).code := by
    unfold commitSetAnswer
    by_cases success : env.saveErr = 0
    · rw [if_pos success, if_pos success, Frame.status_setSuccess]
    · rw [if_neg success, if_neg success]
      by_cases invalid : env.saveErr = -einval
      · rw [if_pos invalid, if_pos invalid, Frame.status_setError]
      · rw [if_neg invalid, if_neg invalid, Frame.status_setError]
  have bad : (if env.saveErr = -einval then Status.invalidText else .storageError) ≠ .ok := by
    split
    · decide
    · decide
  obtain ⟨written, wrote, sameAuth, sameSlots, sameSettings⟩ : ∃ written : World,
      processSet cfg env id request (Frame.initResponse (some request))
          ((syncAuthState cfg env id w).withAuth auth) =
        (commitSetAnswer (Frame.initResponse (some request)) c env.saveErr, written) ∧
      written.auth = auth ∧
      written.slots = w.slots.slotReplace request.slot.toNat
        (completedText request (w.contexts id)) ∧
      ∃ name value, written.settings = settingsSaveOne name value env.saveErr w.settings :=
    ⟨_, handled.trans committed, rfl, rfl, _, _, rfl⟩
  rw [whole, managed, wrote]
  obtain ⟨kept, answered⟩ := afterHandler_answered cfg id ordered written
    (by rw [sameAuth]; exact opened) bad status
  refine ⟨kept.slots.trans sameSlots, ?_, answered.congr (by rw [sameAuth]; exact ended)⟩
  obtain ⟨name, value, saved⟩ := sameSettings
  refine ⟨name, value, ?_⟩
  rw [kept.settings, saved, settingsSaveOne_calls]

/-! ## CLEAR -/

/-- The request names a slot and carries nothing else. -/
structure ClearValid (cfg : Config) (request : Frame) : Prop where
  slot : SlotStore.slotIsValid cfg request.slot.toNat = true
  empty : request.hasEmptyObject = true
  tail : request.payloadTailIsZero 0 = true

theorem processClear_of_valid (cfg : Config) (env : Env) (response : Frame) (w : World)
    (valid : ClearValid cfg request) : processClear cfg env request response w =
      (if env.deleteErr = 0 then response.setSuccess 0 0 else response.setError .storageError,
        { w with
          slots := w.slots.slotErase cfg request.slot.toNat
          settings := settingsDelete (SlotStore.slotSettingName request.slot.toNat)
            env.deleteErr w.settings
          calls := w.calls ++ [Call.slotClear request.slot.toNat env.deleteErr] }) := by
  have accepted : ¬ (request.hasEmptyObject = false ∨ request.payloadTailIsZero 0 = false) := by
    simp [valid.empty, valid.tail]
  unfold processClear
  dsimp only
  rw [if_neg (by simp [valid.slot]), if_neg accepted,
    SlotStore.slotClear_of_valid _ _ _ valid.slot]
  by_cases success : env.deleteErr = 0
  · simp [success]
  · simp [success]

theorem processClear_refused (cfg : Config) (env : Env) (response : Frame) (w : World)
    (invalid : ¬ ClearValid cfg request) : (processClear cfg env request response w).2 = w := by
  unfold processClear
  dsimp only
  by_cases slot : SlotStore.slotIsValid cfg request.slot.toNat = false
  · rw [if_pos slot]
  · rw [if_neg slot]
    by_cases bad : request.hasEmptyObject = false ∨ request.payloadTailIsZero 0 = false
    · rw [if_pos bad]
    · simp only [not_or, Bool.not_eq_false] at bad
      exact absurd ⟨by simpa using slot, bad.1, bad.2⟩ invalid

/-- A CLEAR frame that writes: the slot is erased first, then storage
answers. -/
theorem clearFrame_written (hmac : Hmac) (ordered : env.Ordered)
    (passed : baseCheck request = .ok .clear) (gate : GateOpen env w.auth)
    (valid : ClearValid cfg request) :
    (∃ name, (processFrame cfg hmac env id request w).2.settings.calls =
        w.settings.calls ++ [.delete name env.deleteErr]) ∧
      WriteAnswered env w.auth env.deleteErr .storageError
        (processFrame cfg hmac env id request w).1 := by
  have whole : processFrame cfg hmac env id request w = processManagement cfg env id
      (processClear cfg env request (Frame.initResponse (some request)))
      (Frame.initResponse (some request)) (syncAuthState cfg env id w) := by
    simp only [processFrame, passed, dispatch]
  obtain ⟨auth, managed, opened, ended⟩ := processManagement_open cfg id ordered
    gate (processClear cfg env request (Frame.initResponse (some request)))
    (Frame.initResponse (some request))
  obtain ⟨written, answer, name, wrote, status, sameAuth, deleted⟩ :
      ∃ (written : World) (answer : Frame) (name : Name),
      processClear cfg env request (Frame.initResponse (some request))
          ((syncAuthState cfg env id w).withAuth auth) = (answer, written) ∧
      (answer.status = if env.deleteErr = 0 then Status.ok.code else Status.storageError.code) ∧
      written.auth = auth ∧ written.settings = settingsDelete name env.deleteErr w.settings := by
    refine ⟨_, _, SlotStore.slotSettingName request.slot.toNat,
      processClear_of_valid cfg env _ ((syncAuthState cfg env id w).withAuth auth) valid,
      ?_, rfl, by rw [World.withAuth_settings, syncAuthState_settings]⟩
    by_cases success : env.deleteErr = 0
    · rw [if_pos success, if_pos success, Frame.status_setSuccess]
    · rw [if_neg success, if_neg success, Frame.status_setError]
  rw [whole, managed, wrote]
  obtain ⟨kept, answered⟩ := afterHandler_answered cfg id ordered written
    (by rw [sameAuth]; exact opened) (by decide) status
  refine ⟨⟨name, ?_⟩, answered.congr (by rw [sameAuth]; exact ended)⟩
  rw [kept.settings, deleted, settingsDelete_calls]

/-! ## PASSWORD_SET -/

theorem processPasswordSet_slots (cfg : Config) (env : Env) (id : ContextId)
    (request response : Frame) (w : World) :
    (processPasswordSet cfg env id request response w).2.slots = w.slots := by
  rcases processPasswordSet_cases cfg env id request response w with
    ⟨_, _, result⟩ | ⟨c, _, ⟨_, result⟩ | ⟨_, result⟩⟩
  · rw [result]
    rfl
  · obtain ⟨_, _, _, refreshed, kept, _⟩ := refresh_outcome cfg env id
      (response.setSuccess c.passwordSetReceivedLength c.passwordSetTotalLength)
      (w.modify id fun _ => c)
    rw [result, refreshed]
    exact kept.slots
  · obtain ⟨_, _, _, _, outcome⟩ :=
      commitPasswordSet_cases cfg env id response (w.modify id fun _ => c)
    rcases outcome with ⟨_, done⟩ | ⟨_, done⟩ | ⟨_, done⟩ | ⟨_, done⟩
    all_goals
      rw [result, done]
      rfl

/-- Storage comes first: what is not answered OK has saved nothing. -/
theorem processPasswordSet_unwritten (cfg : Config) (env : Env) (id : ContextId)
    (request response : Frame) (w : World)
    (refused : (processPasswordSet cfg env id request response w).1.status ≠ Status.ok.code) :
    w.settings.Unwritten (processPasswordSet cfg env id request response w).2.settings := by
  rcases processPasswordSet_cases cfg env id request response w with
    ⟨_, _, result⟩ | ⟨c, _, ⟨_, result⟩ | ⟨_, result⟩⟩
  · rw [result]
    exact Settings.Unwritten.of_calls rfl
  · obtain ⟨_, _, _, refreshed, kept, _⟩ := refresh_outcome cfg env id
      (response.setSuccess c.passwordSetReceivedLength c.passwordSetTotalLength)
      (w.modify id fun _ => c)
    rw [result, refreshed]
    exact Settings.Unwritten.of_calls (congrArg Settings.calls kept.settings)
  · obtain ⟨err, _, _, set, outcome⟩ :=
      commitPasswordSet_cases cfg env id response (w.modify id fun _ => c)
    rw [result] at refused ⊢
    have unwritten := AuthCore.setCredential_unwritten set
    rcases outcome with ⟨_, done⟩ | ⟨bad, done⟩ | ⟨bad, done⟩ | ⟨bad, done⟩
    · rw [done, Frame.status_setSuccess] at refused
      exact absurd rfl refused
    · rw [done]
      refine unwritten ?_
      rcases bad with rfl | rfl
      · decide
      · decide
    · rw [done]
      refine unwritten ?_
      rw [bad]
      decide
    · rw [done]
      exact unwritten bad

/-! ## DATA -/

/-- The chunk fills the staging without completing the upload of its own
context, and the upload timeout cannot be scheduled. -/
structure DataStrays (cfg : Config) (env : Env) (id : ContextId) (request : Frame) (w : World) :
    Prop where
  passed : baseCheck request = .ok .dynamicData
  fresh : ¬ Stale env w.auth (w.contexts id)
  valid : DataValid cfg request (w.contexts id)
  staged : DynamicStore.AppendValid cfg request.slot.toNat request.offset
    (request.payload request.payloadLength) (w.dynamic.expireDue cfg (env.clock .operation))
  fills : request.offset + request.payloadLength =
    (w.dynamic.expireDue cfg (env.clock .operation)).stagingExpectedLength
  partly : request.offset + request.payloadLength ≠ request.totalLength
  unscheduled : env.rescheduleErr < 0

theorem dataAppend_strays (strays : DataStrays cfg env id request w) :
    dataAppend cfg env request w = (0, DynamicStore.commit cfg (env.clock .commit)
      (env.clock .rearm) (DynamicStore.appended request.offset
        (request.payload request.payloadLength)
        (w.dynamic.expireDue cfg (env.clock .operation)))) := by
  have filled : (DynamicStore.appended request.offset (request.payload request.payloadLength)
      (w.dynamic.expireDue cfg (env.clock .operation))).stagingReceived =
      (w.dynamic.expireDue cfg (env.clock .operation)).stagingExpectedLength := by
    have fills := strays.fills
    have placed := strays.staged.placed
    have length := request.payload_length (baseCheck_payload strays.passed)
    simp only [DynamicStore.appended, length]
    omega
  rw [dataAppend, DynamicStore.appendSlot, DynamicStore.appendLocked_of_valid strays.staged,
    if_pos filled]

/-- The commit is not undone when the frame is answered INTERNAL. -/
theorem dataFrame_strays (hmac : Hmac) (strays : DataStrays cfg env id request w) :
    (processFrame cfg hmac env id request w).1.status = Status.internal.code ∧
      (processFrame cfg hmac env id request w).2.dynamic =
        (dataAppend cfg env request w).2.cancelStagingNow cfg (env.clock .cleanup) := by
  have taken := dataAppend_strays strays
  have same : dataAppend cfg env request (syncAuthState cfg env id w) =
      dataAppend cfg env request w := by
    refine dataAppend_congr ?_
    rcases syncAuthState_cases cfg env id w with ⟨stale, _⟩ | ⟨_, synced⟩
    · exact absurd stale strays.fresh
    · rw [synced]
      rfl
  have upload : ((syncAuthState cfg env id w).contexts id).upload .dynamic =
      (w.contexts id).upload .dynamic := by
    rcases syncAuthState_uploads cfg env id w .dynamic with ⟨stale, _⟩ | ⟨_, same⟩
    · exact absurd stale strays.fresh
    · exact same
  have valid := strays.valid.congr upload
  have incomplete : ¬ request.offset + request.payloadLength =
      ((syncAuthState cfg env id w).contexts id).dynamicTotalLength := by
    rw [valid.total]
    exact strays.partly
  have failing : env.rescheduleErr ≠ 0 := by
    have unscheduled := strays.unscheduled
    omega
  simp only [processFrame, strays.passed, dispatch]
  rw [processDynamicData_of_passed (dataChecks_eq_none.mpr valid), same,
    if_neg (by rw [taken]; exact fun bad => bad rfl), if_neg incomplete,
    refreshDynamicTimeout_fst, if_pos strays.unscheduled, if_pos failing]
  refine ⟨Frame.status_setError .., ?_⟩
  rw [← same]
  rfl

/-- A chunk the store takes without completing its staging leaves the committed
texts. -/
theorem taken_expired (data : DataTaken cfg env id request w)
    (partly : request.offset + request.payloadLength ≠ request.totalLength)
    (unscheduled : env.rescheduleErr < 0) (unstrayed : ¬ DataStrays cfg env id request w) :
    Expired env w.dynamic.slots (dataAppend cfg env request w).2.slots := by
  obtain ⟨staged, result⟩ := DynamicStore.appendSlot_taken data.taken
  rw [dataAppend, result]
  split
  next fills =>
    refine absurd ⟨data.passed, data.fresh, data.valid, staged, ?_, partly, unscheduled⟩ unstrayed
    have placed := staged.placed
    have length := request.payload_length data.sized
    simp only [DynamicStore.appended, length] at fills
    omega
  next =>
    have expired : Expired env _ _ := expiredSlots_expired cfg .operation w.dynamic
    rw [← DynamicStore.expireDue_slots] at expired
    exact expired

/-- A frame that is not answered OK takes away no more than the texts that are
due. -/
theorem refused_expired (cfg : Config) (hmac : Hmac) (id : ContextId)
    (unstrayed : ¬ DataStrays cfg env id request w)
    (notOk : (processFrame cfg hmac env id request w).1.status ≠ Status.ok.code) :
    Expired env w.dynamic.slots (processFrame cfg hmac env id request w).2.dynamic.slots := by
  cases processFrame_dynamic cfg hmac env id request w with
  | passive _ store => exact store.slots
  | cleared _ status => exact absurd status notOk
  | started _ status => exact absurd status notOk
  | completed _ status => exact absurd status notOk
  | received _ status => exact absurd status notOk
  | failed data _ partly unscheduled store =>
    rw [store, DynamicStore.cancelStagingNow_slots]
    exact (taken_expired data partly unscheduled unstrayed).trans
      (expiredSlots_expired cfg .cleanup _)

theorem ttlGeneration_of_expired {entry entry' : DynamicSlot}
    (expired : entry' = entry ∨ entry' = DynamicStore.clearedSlot entry) :
    entry'.ttlGeneration = entry.ttlGeneration ∨
      entry'.ttlGeneration = entry.ttlGeneration + 1 := by
  rcases expired with same | emptied
  · exact Or.inl (congrArg DynamicSlot.ttlGeneration same)
  · exact Or.inr (congrArg DynamicSlot.ttlGeneration emptied)

/-- A commit, even of a text that expires at once, shows in the generation of
its slot. -/
theorem strays_changes (strays : DataStrays cfg env id request w) :
    ¬ ∀ slot, ((dataAppend cfg env request w).2.cancelStagingNow cfg
        (env.clock .cleanup)).slots slot = w.dynamic.slots slot ∨
      ((dataAppend cfg env request w).2.cancelStagingNow cfg (env.clock .cleanup)).slots slot =
        DynamicStore.clearedSlot (w.dynamic.slots slot) := by
  intro onlyExpired
  have before : ((w.dynamic.expireDue cfg (env.clock .operation)).slots
      request.slot.toNat).ttlGeneration = (w.dynamic.slots request.slot.toNat).ttlGeneration ∨
      ((w.dynamic.expireDue cfg (env.clock .operation)).slots request.slot.toNat).ttlGeneration =
        (w.dynamic.slots request.slot.toNat).ttlGeneration + 1 := by
    refine ttlGeneration_of_expired ?_
    rw [DynamicStore.expireDue_slots]
    rcases DynamicStore.expiredSlots_onlyExpired cfg (env.clock .operation) w.dynamic
      request.slot.toNat with same | ⟨_, emptied⟩
    · exact Or.inl same
    · exact Or.inr emptied
  obtain ⟨entry, committed, generation, valid⟩ : ∃ entry : DynamicSlot,
      (dataAppend cfg env request w).2.slots request.slot.toNat = entry ∧
      entry.ttlGeneration = ((w.dynamic.expireDue cfg (env.clock .operation)).slots
        request.slot.toNat).ttlGeneration + 1 ∧ entry.committedValid = true := by
    refine ⟨_, rfl, ?_⟩
    rw [dataAppend_strays strays, DynamicStore.commit_slots, strays.staged.slot]
    simp only [DynamicStore.appended, Function.update_self, DynamicStore.committedSlot, and_self]
  rw [DynamicStore.cancelStagingNow_slots] at onlyExpired
  rcases DynamicStore.expiredSlots_onlyExpired cfg (env.clock .cleanup)
    (dataAppend cfg env request w).2 request.slot.toNat with same | ⟨_, emptied⟩
  · rcases onlyExpired request.slot.toNat with kept | cleared
    · rw [same, committed] at kept
      rw [kept] at generation
      rcases before with before | before
      · grind
      · grind
    · rw [same, committed] at cleared
      rw [cleared] at valid
      cases valid
  · rw [committed] at emptied
    rcases ttlGeneration_of_expired (onlyExpired request.slot.toNat) with
      kept | kept
    · rw [emptied] at kept
      simp only [DynamicStore.clearedSlot] at kept
      grind
    · rw [emptied] at kept
      simp only [DynamicStore.clearedSlot] at kept
      grind

end RuntimeMacro.Source.Protocol
