import RuntimeMacro.Source.Device
import RuntimeMacro.Source.DynamicUploads
import RuntimeMacro.Source.FrameBoundaries
import RuntimeMacro.Source.ManagedFrames

/-!
# What a frame leaves alone

runtime_macro_protocol.c:1288-1425. The static texts, the dynamic texts and the
session, by the opcode of the frame.
-/
namespace RuntimeMacro.Source.Protocol
open AuthCore (Hmac)

variable {cfg : Config} {hmac : Hmac} {env : Env} {id : ContextId} {request response : Frame}
  {opcode : Opcode} {exchange : Exchange} {w w' : World}

/-! ## Static texts -/

/-- No frame but a SET writes a text, and no other but a CLEAR erases one,
which it names. -/
theorem dispatch_slots (env : Env) (id : ContextId) (other : opcode ≠ .set)
    (request response : Frame) (w : World) :
    (dispatch cfg hmac env id opcode request response w).2.slots = w.slots ∨
      (opcode = .clear ∧ (dispatch cfg hmac env id opcode request response w).2.slots =
        w.slots.slotErase cfg request.slot.toNat) := by
  have managed : ∀ handler : World → Frame × World,
      (processManagement cfg env id handler response w).2.slots = w.slots ∨
        ∃ auth, (processManagement cfg env id handler response w).2.slots =
          (handler (w.withAuth auth)).2.slots := by
    intro handler
    obtain ⟨auth, _, ⟨_, _, _, result⟩ | ⟨_, _, result⟩⟩ :=
      processManagement_cases cfg env id handler response w
    · rw [result]
      exact Or.inl rfl
    · rw [result, afterHandler_slots]
      exact Or.inr ⟨auth, rfl⟩
  cases opcode with
  | set => exact absurd rfl other
  | list =>
    rcases managed fun w => (processList cfg request response w.slots, w) with
      same | ⟨auth, same⟩
    · exact Or.inl same
    · exact Or.inl same
  | get =>
    rcases managed fun w => (processGet cfg request response w.slots, w) with same | ⟨auth, same⟩
    · exact Or.inl same
    · exact Or.inl same
  | clear =>
    rcases managed (processClear cfg env request response) with same | ⟨auth, same⟩
    · exact Or.inl same
    · simp only [dispatch, same]
      rcases processClear_cases cfg env request response (w.withAuth auth) with
        ⟨_, _, _, result⟩ | ⟨_, result⟩
      · rw [result]
        exact Or.inl rfl
      · rw [result]
        exact Or.inr ⟨trivial, rfl⟩
  | passwordSet =>
    simp only [dispatch]
    obtain ⟨auth, _, ⟨_, _, _, shut⟩ | ⟨_, _, granted⟩⟩ := managementAccess_cases cfg env id w
    · simp only [shut]
      rw [if_pos (gateStatus_ne_ok _)]
      exact Or.inl rfl
    · simp only [granted]
      rw [if_neg (by simp), processPasswordSet_slots]
      exact Or.inl rfl
  | _ => exact Or.inl (dispatch_storesKept rfl).slots

theorem frame_slots (step : FrameStep cfg hmac w exchange w')
    (other : exchange.opcode ≠ some .set) :
    w'.slots = w.slots ∨ (exchange.opcode = some .clear ∧
      w'.slots = w.slots.slotErase cfg exchange.request.slot.toNat) := by
  have result := congrArg Prod.snd step.result
  have synced := syncAuthState_slots cfg exchange.env exchange.id w
  rw [← show _ = w' from result]
  cases checked : baseCheck exchange.request with
  | error status =>
    simp only [processFrame, checked]
    rw [(discardForOpcode_storesKept _ _).slots, synced]
    exact Or.inl rfl
  | ok opcode =>
    have known : exchange.opcode = some opcode := baseCheck_opcode checked
    have different : opcode ≠ .set := fun same => other (by rw [known, same])
    simp only [processFrame, checked]
    rw [← synced, known, Option.some.injEq]
    exact dispatch_slots exchange.env exchange.id different _ _ _

/-! ## Dynamic texts -/

/-- Only an upload brings a text. -/
theorem frame_quiet (step : FrameStep cfg hmac w exchange w')
    (noBegin : exchange.opcode ≠ some .dynamicBegin)
    (noData : exchange.opcode ≠ some .dynamicData) : w.dynamic.Quiet w'.dynamic := by
  have outcome := step.dynamic
  cases outcome with
  | passive _ store _ => exact store.quiet
  | cleared _ _ store _ => exact store
  | started isBegin => exact absurd isBegin noBegin
  | completed taken | received taken | failed taken => exact absurd taken.isData noData

/-! ## The protection -/

/-- No frame takes the protection away. -/
theorem frame_guarded (step : FrameStep cfg hmac w exchange w')
    (guarded : w.auth.state = .stateProtected) : w'.auth.state = .stateProtected := by
  have trace := processFrame_trace cfg hmac exchange.env exchange.id exchange.request w true
    fun _ _ => rfl
  rw [step.result] at trace
  obtain ⟨calls, allowed, run⟩ := trace
  refine run.invariant_of (fun core => core.state = .stateProtected) guarded allowed ?_
  rintro core call core' guarded ⟨framed, _⟩ ⟨settings, settings', called⟩
  by_cases silent : call.writesPersistent = false
  · have state := congrArg AuthCore.Persistent.state (AuthCore.step_persistent called silent)
    exact state.trans guarded
  · cases call with
    | setCredential credential nowMs saveErr result =>
      rcases AuthCore.setCredential_cases called with ⟨failed, _⟩ | ⟨_, _, _, _, _, new, _⟩
      · simp [AuthCore.Event.writesPersistent, failed] at silent
      · have activated := congrArg AuthCore.State.state new
        exact activated.trans (by simp [AuthCore.setCredentialActivate])
    | settingsSet | settingsCommit => cases framed
    | _ => exact absurd rfl silent

/-! ## The session -/

theorem processPasswordSet_session
    (active : (processPasswordSet cfg env id request response w).2.auth.sessionActive = true) :
    w.auth.sessionActive = true := by
  rcases processPasswordSet_cases cfg env id request response w with
    ⟨_, _, result⟩ | ⟨c, _, ⟨_, result⟩ | ⟨_, result⟩⟩
  · rw [result] at active
    exact active
  · rw [result] at active
    exact (refreshProtectedSession_subdued cfg env id _ (w.modify id fun _ => c)).session active
  · obtain ⟨err, auth, settings, set, outcome⟩ :=
      commitPasswordSet_cases cfg env id response (w.modify id fun _ => c)
    have left : auth.sessionActive = true := by
      rw [result] at active
      rcases outcome with ⟨_, done⟩ | ⟨_, done⟩ | ⟨_, done⟩ | ⟨_, done⟩
      all_goals
        rw [done] at active
        exact active
    rcases AuthCore.setCredential_cases set with ⟨_, same | expired, _⟩ | ⟨_, _, _, _, _, new, _⟩
    · rw [same] at left
      exact left
    · rw [expired] at left
      exact (Subdued.looked (AuthCore.expireSession_looked _ _)).session left
    · simp [new, AuthCore.setCredentialActivate] at left

theorem dispatch_session (other : opcode ≠ .authProve)
    (active : (dispatch cfg hmac env id opcode request response w).2.auth.sessionActive = true) :
    w.auth.sessionActive = true := by
  have managed : ∀ handler : World → Frame × World, (∀ w, (handler w).2.auth = w.auth) →
      (processManagement cfg env id handler response w).2.auth.sessionActive = true →
      w.auth.sessionActive = true := by
    intro handler kept active
    obtain ⟨auth, looked, ⟨_, _, _, result⟩ | ⟨_, _, result⟩⟩ :=
      processManagement_cases cfg env id handler response w
    · rw [result] at active
      exact (Subdued.looked looked).session active
    · have refreshed := afterHandler_subdued cfg env id (handler (w.withAuth auth))
      rw [kept] at refreshed
      rw [result] at active
      exact (Subdued.looked looked).session (refreshed.session active)
  cases opcode with
  | authProve => exact absurd rfl other
  | list => exact managed _ (fun _ => rfl) active
  | get => exact managed _ (fun _ => rfl) active
  | set => exact managed _ (fun _ => processSet_auth) active
  | clear => exact managed _ (fun _ => processClear_auth) active
  | passwordSet =>
    obtain ⟨auth, looked, ⟨_, _, _, result⟩ | ⟨_, _, result⟩⟩ := managementAccess_cases cfg env id w
    · simp only [dispatch, result] at active
      rw [if_pos (gateStatus_ne_ok _)] at active
      exact (Subdued.looked looked).session active
    · simp only [dispatch, result] at active
      rw [if_neg (by simp)] at active
      exact (Subdued.looked looked).session
        (@processPasswordSet_session _ _ _ _ _ (w.withAuth auth) active)
  | capabilities => exact active
  | dynamicBegin =>
    simp only [dispatch, (processDynamicBegin_only ..).auth] at active
    exact active
  | dynamicData =>
    simp only [dispatch, (processDynamicData_only ..).auth] at active
    exact active
  | dynamicClear =>
    simp only [dispatch, (processDynamicClear_only ..).auth] at active
    exact active
  | authInfo =>
    obtain ⟨answer, auth, looked, result⟩ := processAuthInfo_cases env request response w
    simp only [dispatch, result] at active
    exact (Subdued.looked looked).session active
  | authChallenge =>
    rcases processAuthChallenge_cases cfg env request response w with
      result | ⟨outcome, auth, generated, result⟩
    · simp only [dispatch, result] at active
      exact active
    · simp only [dispatch, result] at active
      cases outcome with
      | error err =>
        exact (Subdued.refused (AuthCore.generateChallenge_error generated)).session active
      | ok nonce =>
        obtain ⟨_, _, _, _, issued⟩ := AuthCore.generateChallenge_ok generated
        rw [issued] at active
        exact (Subdued.looked (AuthCore.expireSession_looked (env.clock .operation) w.auth)).session
          active
  | lock =>
    rcases processLock_cases cfg env id request response w with result | result
    · simp only [dispatch, result] at active
      exact active
    · simp only [dispatch, result] at active
      simp [AuthCore.lock] at active

/-- Only a proof opens a session. -/
theorem frame_session (step : FrameStep cfg hmac w exchange w')
    (other : exchange.opcode ≠ some .authProve) (active : w'.auth.sessionActive = true) :
    w.auth.sessionActive = true := by
  have result := congrArg Prod.snd step.result
  rw [← show _ = w' from result] at active
  have synced : (syncAuthState cfg exchange.env exchange.id w).auth.sessionActive = true →
      w.auth.sessionActive = true := by
    rw [syncAuthState_auth]
    exact (Subdued.looked (observedSession_looked exchange.env w.auth)).session
  cases checked : baseCheck exchange.request with
  | error status =>
    simp only [processFrame, checked] at active
    rcases discardForOpcode_cases cfg exchange.id (exchange.env.clock .cleanup)
      exchange.request.opcode (syncAuthState cfg exchange.env exchange.id w) with
      same | same | same | same
    all_goals
      rw [same] at active
      exact synced active
  | ok opcode =>
    have known : exchange.opcode = some opcode := baseCheck_opcode checked
    simp only [processFrame, checked] at active
    exact synced (dispatch_session (fun same => other (by rw [known, same])) active)

/-- A LOCK that is answered OK has ended it. -/
theorem lock_closes (passed : baseCheck request = .ok .lock)
    (step : FrameStep cfg hmac w ⟨id, env, request, response⟩ w')
    (success : response.status = Status.ok.code) : w'.auth.sessionActive = false := by
  have result := step.result
  simp only [processFrame, passed, dispatch] at result
  rcases processLock_cases cfg env id request (Frame.initResponse (some request))
    (syncAuthState cfg env id w) with refused | locked
  · rw [refused] at result
    have status := congrArg (fun outcome => outcome.1.status) result
    rw [success, Frame.status_setError, Status.code_inj] at status
    cases status
  · rw [locked] at result
    cases result
    simp [AuthCore.lock]

end RuntimeMacro.Source.Protocol
