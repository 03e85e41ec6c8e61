import RuntimeMacro.Source.Protocol
import RuntimeMacro.Source.AuthPersistent

/-!
# What the protocol handlers can do

runtime_macro_protocol.c:341-383,650-1281. One inversion lemma for each step of
`processFrame`. Every statement about frames cites these and unfolds no handler
again.
-/
namespace RuntimeMacro.Source.Protocol
open AuthCore (AuthState Credential Hmac Looked)
open Foundations.Checks

variable {cfg : Config} {hmac : Hmac} {env : Env} {id : ContextId} {request response final : Frame}
  {w w' : World}

/-! ## Observing the authentication state -/

/-- The session `syncAuthState` observes, and the core after its lookups. -/
def observedSession (env : Env) (core : AuthCore.State) : Bool × AuthCore.State :=
  let core := AuthCore.expireSession (env.clock .syncState) core
  if core.state = .stateProtected then AuthCore.isAuthenticated (env.clock .syncSession) core
  else (false, core)

theorem observedSession_looked (env : Env) (core : AuthCore.State) :
    Looked core (observedSession env core).2 := by
  have first := AuthCore.expireSession_looked (env.clock .syncState) core
  unfold observedSession
  dsimp only
  split
  · exact first.trans (AuthCore.expireSession_looked _ _)
  · exact first

theorem observedSession_fst (env : Env) (core : AuthCore.State) :
    (observedSession env core).1 =
      (decide (core.state = .stateProtected) && (observedSession env core).2.sessionActive) := by
  unfold observedSession
  simp only [AuthCore.expireSession_state]
  split
  next guarded => simp [AuthCore.isAuthenticated, guarded]
  next unguarded => simp [unguarded]

/-- The record of the context is out of date. -/
def Stale (env : Env) (core : AuthCore.State) (c : Context) : Prop :=
  c.authStateKnown = true ∧
    (c.authState ≠ core.state ∨ c.authSessionAuthenticated ≠ (observedSession env core).1)

theorem syncAuthState_cases (cfg : Config) (env : Env) (id : ContextId) (w : World) :
    (Stale env w.auth (w.contexts id) ∧ syncAuthState cfg env id w =
      ((((w.withAuth (observedSession env w.auth).2).clearSet cfg
        id).clearPasswordSet id).clearDynamic cfg id (env.clock .syncDiscard)).modify id
        (.observe w.auth.state (observedSession env w.auth).1)) ∨
    (¬ Stale env w.auth (w.contexts id) ∧ syncAuthState cfg env id w =
      (w.withAuth (observedSession env w.auth).2).modify id
        (.observe w.auth.state (observedSession env w.auth).1)) := by
  have unfolded : syncAuthState cfg env id w =
      (if (w.contexts id).authStateKnown ∧ ((w.contexts id).authState ≠ w.auth.state ∨
          (w.contexts id).authSessionAuthenticated ≠ (observedSession env w.auth).1) then
        (((w.withAuth (observedSession env w.auth).2).clearSet cfg
          id).clearPasswordSet id).clearDynamic cfg id (env.clock .syncDiscard)
      else w.withAuth (observedSession env w.auth).2).modify id
        (.observe w.auth.state (observedSession env w.auth).1) := by
    unfold syncAuthState observedSession
    simp only [AuthCore.getState, AuthCore.expireSession_state, World.withAuth_contexts]
  rw [unfolded]
  by_cases stale : Stale env w.auth (w.contexts id)
  · refine Or.inl ⟨stale, ?_⟩
    unfold Stale at stale
    rw [if_pos stale]
  · refine Or.inr ⟨stale, ?_⟩
    unfold Stale at stale
    rw [if_neg stale]

section Sync
variable (cfg : Config) (env : Env) (id : ContextId) (w : World)

@[simp] theorem syncAuthState_auth :
    (syncAuthState cfg env id w).auth = (observedSession env w.auth).2 := by
  rcases syncAuthState_cases cfg env id w with ⟨_, synced⟩ | ⟨_, synced⟩ <;> rw [synced] <;> rfl

@[simp] theorem syncAuthState_settings :
    (syncAuthState cfg env id w).settings = w.settings := by
  rcases syncAuthState_cases cfg env id w with ⟨_, synced⟩ | ⟨_, synced⟩ <;> rw [synced] <;> rfl

@[simp] theorem syncAuthState_slots : (syncAuthState cfg env id w).slots = w.slots := by
  rcases syncAuthState_cases cfg env id w with ⟨_, synced⟩ | ⟨_, synced⟩ <;> rw [synced] <;> rfl

@[simp] theorem syncAuthState_calls : (syncAuthState cfg env id w).calls = w.calls := by
  rcases syncAuthState_cases cfg env id w with ⟨_, synced⟩ | ⟨_, synced⟩ <;> rw [synced] <;> rfl

end Sync

/-- `discard_for_opcode` drops one staging at most. -/
theorem discardForOpcode_cases (cfg : Config) (id : ContextId) (nowMs : Int) (opcode : UInt8)
    (w : World) :
    discardForOpcode cfg id nowMs opcode w = w ∨
    discardForOpcode cfg id nowMs opcode w = w.clearSet cfg id ∨
    discardForOpcode cfg id nowMs opcode w = w.clearPasswordSet id ∨
    discardForOpcode cfg id nowMs opcode w = w.clearDynamic cfg id nowMs := by
  unfold discardForOpcode
  split
  · exact Or.inr (Or.inl rfl)
  · exact Or.inr (Or.inr (Or.inl rfl))
  · exact Or.inr (Or.inr (Or.inr rfl))
  · exact Or.inr (Or.inr (Or.inr rfl))
  · exact Or.inl rfl

theorem baseCheck_ne_ok {status : Status} (refused : baseCheck request = .error status) :
    status ≠ .ok := by
  rintro rfl
  unfold baseCheck at refused
  repeat' split at refused
  all_goals cases refused

theorem baseCheck_payload {opcode : Opcode} (passed : baseCheck request = .ok opcode) :
    request.payloadLength ≤ payloadSize := by
  unfold baseCheck at passed
  repeat' split at passed
  all_goals cases passed
  omega

theorem baseCheck_opcode {opcode : Opcode} (passed : baseCheck request = .ok opcode) :
    Opcode.ofByte request.opcode = some opcode := by
  unfold baseCheck at passed
  repeat' split at passed
  all_goals cases passed
  assumption

/-- A built request passes the base validation. -/
theorem baseCheck_build (op : Opcode) (id slot : UInt8) (offset total : Nat) (data : List UInt8)
    (sized : data.length ≤ payloadSize) :
    baseCheck (.build op id slot offset total data) = .ok op := by
  unfold baseCheck
  rw [Frame.payloadLength_build op id slot offset total data sized,
    Frame.payloadTailIsZero_build op id slot offset total data sized]
  simp [Opcode.ofByte_code, sized]

/-! ## The gate and the refresh -/

/-- A management request passes in OPEN, and in PROTECTED on a session alive at
both readings of the gate. -/
def GateOpen (env : Env) (core : AuthCore.State) : Prop :=
  core.state = .stateOpen ∨ (core.state = .stateProtected ∧ core.sessionActive = true ∧
    env.clock .gateState < core.sessionDeadlineMs ∧ env.clock .gateSession < core.sessionDeadlineMs)

/-- The one answer of a shut gate. -/
def gateStatus (state : AuthState) : Status :=
  if state = .stateErrorLocked then .credentialInvalid else .authRequired

theorem gateStatus_ne_ok (state : AuthState) : gateStatus state ≠ .ok := by
  unfold gateStatus
  split <;> decide

theorem managementAccess_cases (cfg : Config) (env : Env) (id : ContextId) (w : World) :
    ∃ auth, Looked w.auth auth ∧
      ((¬ GateOpen env w.auth ∧ w.auth.state ≠ .stateOpen ∧
          (w.auth.state = .stateProtected → auth.sessionActive = false) ∧
          managementAccess cfg env id w = (gateStatus w.auth.state,
            (w.withAuth auth).discard cfg id (env.clock .gateDiscard))) ∨
        (GateOpen env w.auth ∧ (w.auth.state = .stateProtected → auth = w.auth) ∧
          managementAccess cfg env id w = (.ok, w.withAuth auth))) := by
  have first := AuthCore.expireSession_looked (env.clock .gateState) w.auth
  unfold managementAccess GateOpen gateStatus
  cases mode : w.auth.state with
  | stateErrorLocked =>
    refine ⟨_, first, Or.inl ⟨by simp, by simp, by simp, ?_⟩⟩
    simp [AuthCore.getState, mode]
  | stateOpen =>
    refine ⟨_, first, Or.inr ⟨by simp, by simp, ?_⟩⟩
    simp [AuthCore.getState, mode]
  | stateProtected =>
    have both := first.trans (AuthCore.expireSession_looked (env.clock .gateSession) _)
    refine ⟨_, both, ?_⟩
    cases alive : (AuthCore.expireSession (env.clock .gateSession)
        (AuthCore.expireSession (env.clock .gateState) w.auth)).sessionActive with
    | false =>
      refine Or.inl ⟨?_, by simp, fun _ => rfl, ?_⟩
      · rintro (unguarded | ⟨_, active, early, late⟩)
        · cases unguarded
        · rw [AuthCore.expireSession_of_alive early, AuthCore.expireSession_of_alive late] at alive
          exact absurd (active.symm.trans alive) (by decide)
      · simp [AuthCore.getState, AuthCore.isAuthenticated, mode, alive]
        rfl
    | true =>
      obtain ⟨first, second, active, early, late⟩ := AuthCore.expireSession_twice alive
      refine Or.inr ⟨Or.inr ⟨rfl, active, early, late⟩, fun _ => by rw [first, second], ?_⟩
      simp [AuthCore.getState, AuthCore.isAuthenticated, mode, first, second, active]
      rfl

/-- The session is live at both readings of the refresh. -/
def RefreshInTime (env : Env) (core : AuthCore.State) : Prop :=
  core.sessionActive = true ∧ env.clock .refreshState < core.sessionDeadlineMs ∧
    env.clock .refreshSession < core.sessionDeadlineMs

/-- The refresh is nothing to an unprotected device, renews a live session, and
turns the answer into AUTH_REQUIRED when the session lapsed meanwhile. -/
theorem refreshProtectedSession_cases (cfg : Config) (env : Env) (id : ContextId)
    (response : Frame) (w : World) :
    (w.auth.state ≠ .stateProtected ∧ ∃ auth, Looked w.auth auth ∧
      refreshProtectedSession cfg env id response w = (response, w.withAuth auth)) ∨
    (w.auth.state = .stateProtected ∧ RefreshInTime env w.auth ∧
      refreshProtectedSession cfg env id response w = (response, w.withAuth { w.auth with
        sessionDeadlineMs :=
          env.clock .refreshSession + (cfg.authSessionTimeout : Int) * 1000 })) ∨
    (w.auth.state = .stateProtected ∧ ¬ RefreshInTime env w.auth ∧
      ∃ auth, Looked w.auth auth ∧ auth.sessionActive = false ∧
        refreshProtectedSession cfg env id response w =
          (response.setError .authRequired,
            (w.withAuth auth).discard cfg id (env.clock .refreshDiscard))) := by
  have first := AuthCore.expireSession_looked (env.clock .refreshState) w.auth
  have both := first.trans (AuthCore.expireSession_looked (env.clock .refreshSession) _)
  unfold refreshProtectedSession
  by_cases guarded : w.auth.state = .stateProtected
  · cases alive : (AuthCore.expireSession (env.clock .refreshSession)
        (AuthCore.expireSession (env.clock .refreshState) w.auth)).sessionActive with
    | false =>
      refine Or.inr (Or.inr ⟨guarded, ?_, _, both, alive, ?_⟩)
      · rintro ⟨active, early, late⟩
        rw [AuthCore.expireSession_of_alive early, AuthCore.expireSession_of_alive late] at alive
        exact absurd (active.symm.trans alive) (by decide)
      · simp [AuthCore.getState, AuthCore.refreshSession, guarded, alive]
        rfl
    | true =>
      obtain ⟨first, second, active, early, late⟩ := AuthCore.expireSession_twice alive
      refine Or.inr (Or.inl ⟨guarded, ⟨active, early, late⟩, ?_⟩)
      simp [AuthCore.getState, AuthCore.refreshSession, guarded, first, second, active]
      rfl
  · refine Or.inl ⟨guarded, _, first, ?_⟩
    simp [AuthCore.getState, guarded]

/-- What follows a management handler: the refresh after a success. -/
def afterHandler (cfg : Config) (env : Env) (id : ContextId) (result : Frame × World) :
    Frame × World :=
  if result.1.status = Status.ok.code then refreshProtectedSession cfg env id result.1 result.2
  else result

theorem processManagement_cases (cfg : Config) (env : Env) (id : ContextId)
    (handler : World → Frame × World) (response : Frame) (w : World) :
    ∃ auth, Looked w.auth auth ∧
      ((¬ GateOpen env w.auth ∧ w.auth.state ≠ .stateOpen ∧
          (w.auth.state = .stateProtected → auth.sessionActive = false) ∧
          processManagement cfg env id handler response w =
            (response.setError (gateStatus w.auth.state),
              (w.withAuth auth).discard cfg id (env.clock .gateDiscard))) ∨
        (GateOpen env w.auth ∧ (w.auth.state = .stateProtected → auth = w.auth) ∧
          processManagement cfg env id handler response w =
            afterHandler cfg env id (handler (w.withAuth auth)))) := by
  obtain ⟨auth, looked, shut | passed⟩ := managementAccess_cases cfg env id w
  · obtain ⟨notOpen, guarded, idle, refused⟩ := shut
    refine ⟨auth, looked, Or.inl ⟨notOpen, guarded, idle, ?_⟩⟩
    unfold processManagement
    simp only [refused]
    rw [if_pos (gateStatus_ne_ok _)]
  · obtain ⟨gate, same, granted⟩ := passed
    refine ⟨auth, looked, Or.inr ⟨gate, same, ?_⟩⟩
    unfold processManagement afterHandler
    simp only [granted]
    rw [if_neg (by simp)]

/-! ## Authentication commands -/

theorem processAuthInfo_cases (env : Env) (request response : Frame) (w : World) :
    ∃ answer auth, Looked w.auth auth ∧
      processAuthInfo env request response w = (answer, w.withAuth auth) := by
  generalize outcome : processAuthInfo env request response w = result
  unfold processAuthInfo at outcome
  split at outcome
  · exact ⟨_, w.auth, Looked.refl _, outcome.symm⟩
  · have looked := AuthCore.expireSession_looked (env.clock .operation) w.auth
    rw [← AuthCore.getInfo_core] at looked
    dsimp only at outcome
    split at outcome
    · exact ⟨_, _, looked, outcome.symm⟩
    · exact ⟨_, _, looked, outcome.symm⟩

/-- The answer to AUTH_CHALLENGE: the nonce, or the status of the error. -/
def challengeAnswer (response : Frame) : Except Int AuthCore.Nonce → Frame
  | .error err => response.setError (mapChallengeError err)
  | .ok nonce =>
    ((response.putPayload nonce.toList).putPayloadLength AuthCore.nonceSize).setSuccess 0
      AuthCore.nonceSize

theorem processAuthChallenge_cases (cfg : Config) (env : Env) (request response : Frame)
    (w : World) :
    processAuthChallenge cfg env request response w = (response.setError .badRequest, w) ∨
    ∃ outcome auth, AuthCore.generateChallenge cfg (some AuthCore.nonceSize)
        (env.clock .operation) env.random w.auth = (outcome, auth) ∧
      processAuthChallenge cfg env request response w =
        (challengeAnswer response outcome, w.withAuth auth) := by
  rcases issued : AuthCore.generateChallenge cfg (some AuthCore.nonceSize)
    (env.clock .operation) env.random w.auth with ⟨outcome, auth⟩
  unfold processAuthChallenge
  split
  · exact Or.inl rfl
  · refine Or.inr ⟨outcome, auth, rfl, ?_⟩
    rw [issued]
    cases outcome <;> rfl

theorem mapProofError_ne_ok (err : Int) : mapProofError err ≠ .ok := by
  unfold mapProofError
  repeat' split
  all_goals decide

/-- AUTH_PROVE discards the context whatever its outcome. -/
theorem processAuthProve_cases (cfg : Config) (hmac : Hmac) (env : Env) (id : ContextId)
    (request response : Frame) (w : World) :
    (∃ status, (status = .badRequest ∨ status = .badLength) ∧
      processAuthProve cfg hmac env id request response w =
        (response.setError status, w.discard cfg id (env.clock .cleanup))) ∨
    ∃ err auth, AuthCore.verifyProof cfg hmac (some (request.payload AuthCore.proofSize))
        (env.clock .operation) env.hmacFails w.auth = (err, auth) ∧
      processAuthProve cfg hmac env id request response w =
        (if err = 0 then response.setSuccess 0 0 else response.setError (mapProofError err),
          (w.withAuth auth).discard cfg id (env.clock .cleanup)) := by
  rcases verified : AuthCore.verifyProof cfg hmac (some (request.payload AuthCore.proofSize))
    (env.clock .operation) env.hmacFails w.auth with ⟨err, auth⟩
  unfold processAuthProve
  split
  · exact Or.inl ⟨.badRequest, Or.inl rfl, rfl⟩
  · split
    · exact Or.inl ⟨.badLength, Or.inr rfl, rfl⟩
    · refine Or.inr ⟨err, auth, rfl, ?_⟩
      rw [verified]
      by_cases success : err = 0 <;> simp [success]

theorem processLock_cases (cfg : Config) (env : Env) (id : ContextId) (request response : Frame)
    (w : World) :
    processLock cfg env id request response w = (response.setError .badRequest, w) ∨
    processLock cfg env id request response w = (response.setSuccess 0 0,
      (w.withAuth (AuthCore.lock w.auth)).discard cfg id (env.clock .cleanup)) := by
  unfold processLock
  split
  · exact Or.inl rfl
  · exact Or.inr rfl

/-! ## SET -/

/-- What a SET chunk has to satisfy before the staging is looked at. -/
structure SetChunkValid (cfg : Config) (request : Frame) : Prop where
  slot : SlotStore.slotIsValid cfg request.slot.toNat = true
  total : request.totalLength ≤ cfg.maxTextLen
  offset : request.offset ≤ request.totalLength
  payload : request.payloadLength ≤ request.totalLength - request.offset
  nonempty : request.totalLength ≠ 0 → request.payloadLength ≠ 0
  alphabet : request.setPayloadIsValid request.payloadLength = true

/-- The chunk continues the staged transaction. -/
structure SetContinues (request : Frame) (c : Context) : Prop where
  later : request.offset ≠ 0
  active : c.setActive = true
  requestId : c.setRequestId = request.requestId
  slot : c.setSlot = request.slot.toNat
  total : c.setTotalLength = request.totalLength
  received : request.offset = c.setReceivedLength

theorem setChecks_eq_none : firstFailure (setChecks cfg request) = none ↔
    SetChunkValid cfg request := by
  simp only [setChecks, firstFailure_cons_eq_none, firstFailure_nil, Bool.not_eq_false',
    decide_eq_false_iff_not, and_true]
  constructor
  · rintro ⟨slot, total, offset, payload, nonempty, alphabet⟩
    exact ⟨slot, by omega, by omega, by omega, by tauto, alphabet⟩
  · rintro ⟨slot, total, offset, payload, nonempty, alphabet⟩
    exact ⟨slot, by omega, by omega, by omega, by tauto, alphabet⟩

theorem setContinueChecks_eq_none {c : Context} (later : request.offset ≠ 0) :
    firstFailure (setContinueChecks request c) = none ↔ SetContinues request c := by
  simp only [setContinueChecks, firstFailure_cons_eq_none, firstFailure_nil,
    decide_eq_false_iff_not, and_true, not_or, Bool.not_eq_false, ne_eq, Decidable.not_not]
  constructor
  · rintro ⟨⟨active, requestId, slot, total⟩, received⟩
    exact ⟨later, active, requestId, slot, total, received⟩
  · rintro ⟨_, active, requestId, slot, total, received⟩
    exact ⟨⟨active, requestId, slot, total⟩, received⟩

/-- An accepted chunk starts a transaction or continues the staged one. -/
def SetAccepted (cfg : Config) (request : Frame) (c c' : Context) : Prop :=
  SetChunkValid cfg request ∧
    ((request.offset = 0 ∧ c' = startSet cfg request c) ∨
      (SetContinues request c ∧ c' = extendSet request c))

theorem finishSet_cases (cfg : Config) (env : Env) (id : ContextId) (response : Frame)
    (w : World) (c : Context) :
    (c.setReceivedLength ≠ c.setTotalLength ∧
      finishSet cfg env id response (w.modify id fun _ => c) =
        (response.setSuccess c.setReceivedLength c.setTotalLength, w.modify id fun _ => c)) ∨
    (c.setReceivedLength = c.setTotalLength ∧
      finishSet cfg env id response (w.modify id fun _ => c) =
        commitSet cfg env id response (w.modify id fun _ => c)) := by
  unfold finishSet
  simp only [World.modify_contexts_self]
  split
  next complete => exact Or.inr ⟨complete, rfl⟩
  next partly => exact Or.inl ⟨partly, rfl⟩

/-- A SET chunk is refused and drops the staging, is staged, or completes the
text. -/
theorem processSet_cases (cfg : Config) (env : Env) (id : ContextId) (request response : Frame)
    (w : World) :
    (∃ status, status ≠ .ok ∧ processSet cfg env id request response w =
      (response.setError status, w.clearSet cfg id)) ∨
    (∃ c', SetAccepted cfg request (w.contexts id) c' ∧
      ((c'.setReceivedLength ≠ c'.setTotalLength ∧ processSet cfg env id request response w =
          (response.setSuccess c'.setReceivedLength c'.setTotalLength,
            w.modify id fun _ => c')) ∨
        (c'.setReceivedLength = c'.setTotalLength ∧ processSet cfg env id request response w =
          commitSet cfg env id response (w.modify id fun _ => c')))) := by
  unfold processSet
  cases checked : firstFailure (setChecks cfg request) with
  | some status => exact Or.inl ⟨status, firstFailure_ne checked (by simp [setChecks]), rfl⟩
  | none =>
    have valid := setChecks_eq_none.mp checked
    dsimp only
    by_cases first : request.offset = 0
    · rw [if_pos first, World.modify_eq _ _ _ _ rfl]
      exact Or.inr ⟨_, ⟨valid, Or.inl ⟨first, rfl⟩⟩, finishSet_cases cfg env id response w _⟩
    · rw [if_neg first]
      cases continued : firstFailure (setContinueChecks request (w.contexts id)) with
      | some status =>
        exact Or.inl ⟨status, firstFailure_ne continued (by simp [setContinueChecks]), rfl⟩
      | none =>
        have continues := (setContinueChecks_eq_none first).mp continued
        dsimp only
        rw [World.modify_eq _ _ _ _ rfl]
        exact Or.inr ⟨_, ⟨valid, Or.inr ⟨continues, rfl⟩⟩,
          finishSet_cases cfg env id response w _⟩

/-- The answer to a completed SET by the result of `slotSet`. -/
def commitSetAnswer (response : Frame) (c : Context) (err : Int) : Frame :=
  if err = 0 then response.setSuccess c.setReceivedLength c.setTotalLength
  else if err = -einval then response.setError .invalidText
  else response.setError .storageError

/-- A completed SET makes one `slotSet` call with the staged text and drops the
staging. -/
theorem commitSet_eq (cfg : Config) (env : Env) (id : ContextId) (response : Frame) (w : World) :
    ∃ err slots settings,
      w.slots.slotSet cfg (w.contexts id).setSlot (w.contexts id).setStaging
        (w.contexts id).setTotalLength env.saveErr w.settings = (err, slots, settings) ∧
      commitSet cfg env id response w = (commitSetAnswer response (w.contexts id) err,
        ({ w with
          slots := slots
          settings := settings
          calls := w.calls ++ [Call.slotSet (w.contexts id).setSlot
            ((w.contexts id).setStaging.take (w.contexts id).setTotalLength) err] } :
          World).clearSet cfg id) := by
  rcases set : w.slots.slotSet cfg (w.contexts id).setSlot (w.contexts id).setStaging
    (w.contexts id).setTotalLength env.saveErr w.settings with ⟨err, slots, settings⟩
  refine ⟨err, slots, settings, rfl, ?_⟩
  unfold commitSet commitSetAnswer
  simp only [set]
  by_cases success : err = 0
  · simp only [if_pos success]
  · simp only [if_neg success]
    split <;> rfl

/-! ## CLEAR -/

theorem processClear_cases (cfg : Config) (env : Env) (request response : Frame) (w : World) :
    (∃ status, status ≠ .ok ∧ status ≠ .storageError ∧
      processClear cfg env request response w = (response.setError status, w)) ∨
    (SlotStore.slotIsValid cfg request.slot.toNat = true ∧
      processClear cfg env request response w =
        (if env.deleteErr = 0 then response.setSuccess 0 0 else response.setError .storageError,
          { w with
            slots := w.slots.slotErase cfg request.slot.toNat
            settings := settingsDelete (SlotStore.slotSettingName request.slot.toNat)
              env.deleteErr w.settings
            calls := w.calls ++ [Call.slotClear request.slot.toNat env.deleteErr] })) := by
  generalize outcome : processClear cfg env request response w = result
  unfold processClear at outcome
  extract_lets slot at outcome
  split at outcome
  · exact Or.inl ⟨.badSlot, by decide, by decide, outcome.symm⟩
  next valid =>
  rw [Bool.not_eq_false] at valid
  split at outcome
  · exact Or.inl ⟨.badRequest, by decide, by decide, outcome.symm⟩
  · refine Or.inr ⟨valid, ?_⟩
    rw [SlotStore.slotClear_of_valid _ _ _ valid] at outcome
    rw [← outcome]
    by_cases success : env.deleteErr = 0 <;> simp [success, slot]

/-! ## PASSWORD_SET -/

/-- What the checks of a PASSWORD_SET let pass. -/
structure PasswordSetChunkValid (request : Frame) : Prop where
  slot : request.slot = listSlot
  total : request.totalLength = passwordSetLength
  offset : request.offset ≤ request.totalLength
  nonempty : request.payloadLength ≠ 0
  payload : request.payloadLength ≤ request.totalLength - request.offset

/-- A later chunk of the transaction that the context has under way. -/
structure PasswordSetContinues (request : Frame) (c : Context) : Prop where
  later : request.offset ≠ 0
  active : c.passwordSetActive = true
  requestId : c.passwordSetRequestId = request.requestId
  total : c.passwordSetTotalLength = request.totalLength
  received : request.offset = c.passwordSetReceivedLength

theorem passwordSetChecks_eq_none : firstFailure (passwordSetChecks request) = none ↔
    PasswordSetChunkValid request := by
  simp only [passwordSetChecks, firstFailure_cons_eq_none, firstFailure_nil,
    decide_eq_false_iff_not, and_true, ne_eq, Decidable.not_not]
  constructor
  · rintro ⟨slot, total, offset, payload⟩
    exact ⟨slot, total, by omega, by omega, by omega⟩
  · rintro ⟨slot, total, offset, nonempty, payload⟩
    exact ⟨slot, total, by omega, by omega⟩

theorem passwordSetContinueChecks_eq_none {c : Context} (later : request.offset ≠ 0) :
    firstFailure (passwordSetContinueChecks request c) = none ↔
      PasswordSetContinues request c := by
  simp only [passwordSetContinueChecks, firstFailure_cons_eq_none, firstFailure_nil,
    decide_eq_false_iff_not, and_true, not_or, Bool.not_eq_false, ne_eq, Decidable.not_not]
  constructor
  · rintro ⟨⟨active, requestId, total⟩, received⟩
    exact ⟨later, active, requestId, total, received⟩
  · rintro ⟨_, active, requestId, total, received⟩
    exact ⟨⟨active, requestId, total⟩, received⟩

/-- The chunk starts a transaction or continues the one under way. -/
def PasswordSetAccepted (request : Frame) (c c' : Context) : Prop :=
  PasswordSetChunkValid request ∧
    ((request.offset = 0 ∧ c' = startPasswordSet request c) ∨
      (PasswordSetContinues request c ∧ c' = extendPasswordSet request c))

theorem finishPasswordSet_cases (cfg : Config) (env : Env) (id : ContextId) (response : Frame)
    (w : World) (c : Context) :
    (c.passwordSetReceivedLength ≠ c.passwordSetTotalLength ∧
      finishPasswordSet cfg env id response (w.modify id fun _ => c) =
        refreshProtectedSession cfg env id
          (response.setSuccess c.passwordSetReceivedLength c.passwordSetTotalLength)
          (w.modify id fun _ => c)) ∨
    (c.passwordSetReceivedLength = c.passwordSetTotalLength ∧
      finishPasswordSet cfg env id response (w.modify id fun _ => c) =
        commitPasswordSet cfg env id response (w.modify id fun _ => c)) := by
  unfold finishPasswordSet
  simp only [World.modify_contexts_self]
  split
  next partly => exact Or.inl ⟨partly, rfl⟩
  next complete => exact Or.inr ⟨by simpa using complete, rfl⟩

/-- A PASSWORD_SET chunk is refused and drops the staging, is staged and
refreshes the session, or completes the object. -/
theorem processPasswordSet_cases (cfg : Config) (env : Env) (id : ContextId)
    (request response : Frame) (w : World) :
    (∃ status, status ≠ .ok ∧ processPasswordSet cfg env id request response w =
      (response.setError status, w.clearPasswordSet id)) ∨
    (∃ c', PasswordSetAccepted request (w.contexts id) c' ∧
      ((c'.passwordSetReceivedLength ≠ c'.passwordSetTotalLength ∧
          processPasswordSet cfg env id request response w =
            refreshProtectedSession cfg env id
              (response.setSuccess c'.passwordSetReceivedLength c'.passwordSetTotalLength)
              (w.modify id fun _ => c')) ∨
        (c'.passwordSetReceivedLength = c'.passwordSetTotalLength ∧
          processPasswordSet cfg env id request response w =
            commitPasswordSet cfg env id response (w.modify id fun _ => c')))) := by
  unfold processPasswordSet
  cases checked : firstFailure (passwordSetChecks request) with
  | some status => exact Or.inl ⟨status, firstFailure_ne checked (by simp [passwordSetChecks]), rfl⟩
  | none =>
    have valid := passwordSetChecks_eq_none.mp checked
    dsimp only
    by_cases first : request.offset = 0
    · rw [if_pos first, World.modify_eq _ _ _ _ rfl]
      exact Or.inr ⟨_, ⟨valid, Or.inl ⟨first, rfl⟩⟩,
        finishPasswordSet_cases cfg env id response w _⟩
    · rw [if_neg first]
      cases continued : firstFailure (passwordSetContinueChecks request (w.contexts id)) with
      | some status =>
        exact Or.inl ⟨status, firstFailure_ne continued (by simp [passwordSetContinueChecks]), rfl⟩
      | none =>
        have continues := (passwordSetContinueChecks_eq_none first).mp continued
        dsimp only
        rw [World.modify_eq _ _ _ _ rfl]
        exact Or.inr ⟨_, ⟨valid, Or.inr ⟨continues, rfl⟩⟩,
          finishPasswordSet_cases cfg env id response w _⟩

/-- The world after a completed PASSWORD_SET whose `set_credential` gave
`err`. -/
def passwordSetDone (id : ContextId) (err : Int) (auth : AuthCore.State)
    (settings : Settings) (w : World) : World :=
  ({ w with
    auth := auth
    settings := settings
    calls := w.calls ++
      [Call.setCredential (stagedCredential (w.contexts id).passwordSetStaging) err] } :
    World).clearPasswordSet id

/-- A completed PASSWORD_SET makes one `set_credential` call with the staged
object; success and a lost session discard the context, any other error only
the staging. -/
theorem commitPasswordSet_cases (cfg : Config) (env : Env) (id : ContextId) (response : Frame)
    (w : World) :
    ∃ err auth settings,
      AuthCore.setCredential (some (stagedCredential (w.contexts id).passwordSetStaging))
        (env.clock .operation) env.saveErr w.auth w.settings = (err, auth, settings) ∧
      ((err = 0 ∧ commitPasswordSet cfg env id response w =
          (response.setSuccess passwordSetLength passwordSetLength,
            (passwordSetDone id err auth settings w).discard cfg id (env.clock .cleanup))) ∨
        ((err = -einval ∨ err = -eperm) ∧ commitPasswordSet cfg env id response w =
          (response.setError .credentialInvalid, passwordSetDone id err auth settings w)) ∨
        (err = -eacces ∧ commitPasswordSet cfg env id response w =
          (response.setError .authRequired,
            (passwordSetDone id err auth settings w).discard cfg id (env.clock .cleanup))) ∨
        (err ≠ 0 ∧ commitPasswordSet cfg env id response w =
          (response.setError .storageError, passwordSetDone id err auth settings w))) := by
  rcases set : AuthCore.setCredential (some (stagedCredential (w.contexts id).passwordSetStaging))
    (env.clock .operation) env.saveErr w.auth w.settings with ⟨err, auth, settings⟩
  refine ⟨err, auth, settings, rfl, ?_⟩
  unfold commitPasswordSet passwordSetDone
  simp only [set]
  split
  next success => exact Or.inl ⟨success, rfl⟩
  next failed =>
  split
  next invalid => exact Or.inr (Or.inl ⟨invalid, rfl⟩)
  next _ =>
  split
  next missing => exact Or.inr (Or.inr (Or.inl ⟨missing, rfl⟩))
  next _ => exact Or.inr (Or.inr (Or.inr ⟨failed, rfl⟩))

end RuntimeMacro.Source.Protocol
