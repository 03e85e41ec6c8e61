import RuntimeMacro.Source.FrameBoundaries
import RuntimeMacro.Source.PasswordFrames
import RuntimeMacro.Source.WorldRuns

/-!
# What keeps a session alive

runtime_macro_auth.c:387-402; runtime_macro_protocol.c:670-685;
docs/AUTHENTICATION_PROTOCOL.md:358-370. The deadline of a session moves to a
later time on a proof, and on a protected operation that was answered OK. Every
refusal, and every command outside those, leaves it where it was or ends the
session.
-/
namespace RuntimeMacro.Guarantees.SessionWindow
open RuntimeMacro.Source RuntimeMacro.Source.Protocol
open AuthCore (Hmac Looked)

variable {cfg : Config} {hmac : Hmac} {env : Env} {id : ContextId} {request response : Frame}
  {opcode : Opcode} {w w' : World}

/-- The deadline of the session, if there is one. -/
def deadline (core : AuthCore.State) : Option Int :=
  if core.sessionActive then some core.sessionDeadlineMs else none

/-- A session that ends later than before, or that was not there before. -/
def Later : Option Int → Option Int → Prop
  | none, some _ => True
  | some before, some after => before < after
  | _, none => False

/-- The deadline is where it was, or the session has ended. -/
def NotExtended (core core' : AuthCore.State) : Prop :=
  deadline core' = deadline core ∨ deadline core' = none

/-- The protected operations: LIST, GET, SET, CLEAR and a PASSWORD_SET chunk
that does not complete its object. -/
def refreshes (request : Frame) : Opcode → Bool
  | .list | .get | .set | .clear => true
  | .passwordSet => decide (request.offset + request.payloadLength ≠ passwordSetLength)
  | _ => false

/-- The deadline of a session that is renewed at `nowMs`. -/
def renewed (cfg : Config) (nowMs : Int) : Option Int :=
  some (nowMs + (cfg.authSessionTimeout : Int) * 1000)

section NotExtended
variable {core core' core'' : AuthCore.State}

theorem deadline_idle (idle : core.sessionActive = false) : deadline core = none := by
  simp [deadline, idle]

theorem NotExtended.refl (core : AuthCore.State) : NotExtended core core := Or.inl rfl

theorem NotExtended.trans (first : NotExtended core core') (second : NotExtended core' core'') :
    NotExtended core core'' := by
  unfold NotExtended at *
  rcases second with same | gone
  · rw [same]
    exact first
  · exact Or.inr gone

theorem NotExtended.looked (looked : Looked core core') : NotExtended core core' := by
  rcases looked with rfl | ⟨_, rfl⟩
  · exact NotExtended.refl _
  · exact Or.inr rfl

theorem NotExtended.refused {nowMs : Int} (refused : AuthCore.Refused nowMs core core') :
    NotExtended core core' := by
  by_cases active : core'.sessionActive = true
  · obtain ⟨before, same⟩ := refused.session active
    apply Or.inl
    simp [deadline, active, before, same]
  · exact Or.inr (deadline_idle (by simpa using active))

theorem NotExtended.not_later (kept : NotExtended core core') :
    ¬ Later (deadline core) (deadline core') := by
  rcases kept with same | gone
  · rw [same]
    cases deadline core with
    | none => exact id
    | some before => exact Int.lt_irrefl before
  · rw [gone]
    cases deadline core <;> exact id

end NotExtended

/-! ## One frame -/

/-- What a frame of a known opcode does to the deadline of the session. -/
inductive Window (cfg : Config) (env : Env) (opcode : Opcode) (request : Frame)
    (core : AuthCore.State) (response : Frame) (core' : AuthCore.State) : Prop where
  | proved (guarded : core.state = .stateProtected) (accepted : response.status = Status.ok.code)
      (proof : opcode = .authProve)
      (opened : deadline core' = renewed cfg (env.clock .operation))
  | renewed (guarded : core.state = .stateProtected) (accepted : response.status = Status.ok.code)
      (operation : refreshes request opcode = true)
      (moved : deadline core' = renewed cfg (env.clock .refreshSession))
  | kept (kept : NotExtended core core')
      (otherwise : response.status = Status.ok.code → core.state = .stateProtected →
        refreshes request opcode = false)

theorem Window.of_looked {core core' : AuthCore.State} (looked : Looked w.auth core)
    (window : Window cfg env opcode request core response core') :
    Window cfg env opcode request w.auth response core' := by
  have first := NotExtended.looked looked
  cases window with
  | proved guarded accepted proof opened =>
    exact .proved (looked.state.symm.trans guarded) accepted proof opened
  | renewed guarded accepted operation moved =>
    exact .renewed (looked.state.symm.trans guarded) accepted operation moved
  | kept kept otherwise =>
    exact .kept (first.trans kept) fun accepted guarded =>
      otherwise accepted (looked.state.trans guarded)

/-- A frame that is not answered OK and does not extend the session. -/
theorem Window.refused {core core' : AuthCore.State} (kept : NotExtended core core')
    (failed : response.status ≠ Status.ok.code) :
    Window cfg env opcode request core response core' :=
  .kept kept fun accepted => absurd accepted failed

theorem setError_failed {status : Status} (failed : status ≠ .ok) :
    (response.setError status).status ≠ Status.ok.code := by
  rw [Frame.status_setError]
  simpa using failed

/-- The refresh that follows a success renews the session, or takes the success
back. -/
theorem refreshProtectedSession_window (accepted : response.status = Status.ok.code)
    (operation : refreshes request opcode = true) :
    Window cfg env opcode request w.auth (refreshProtectedSession cfg env id response w).1
      (refreshProtectedSession cfg env id response w).2.auth := by
  rcases refreshProtectedSession_cases cfg env id response w with
    ⟨unguarded, auth, looked, result⟩ | ⟨guarded, inTime, result⟩ |
      ⟨_, _, auth, looked, _, result⟩
  · rw [result]
    exact .kept (NotExtended.looked looked) fun _ guarded => absurd guarded unguarded
  · rw [result]
    apply Window.renewed guarded accepted operation
    simp [deadline, inTime.1, SessionWindow.renewed]
  · rw [result]
    exact .refused (NotExtended.looked looked) (setError_failed (by decide))

/-- A handler that does not touch the core leaves the deadline to the refresh
behind it. -/
theorem processManagement_window {handler : World → Frame × World}
    (operation : refreshes request opcode = true)
    (kept : ∀ w, (handler w).2.auth = w.auth) :
    Window cfg env opcode request w.auth (processManagement cfg env id handler response w).1
      (processManagement cfg env id handler response w).2.auth := by
  obtain ⟨auth, looked, ⟨_, _, _, result⟩ | ⟨_, _, result⟩⟩ :=
    processManagement_cases cfg env id handler response w
  · rw [result]
    exact .refused (NotExtended.looked looked) (setError_failed (gateStatus_ne_ok _))
  · have same : auth = (handler (w.withAuth auth)).2.auth := (kept (w.withAuth auth)).symm
    rw [result]
    generalize handler (w.withAuth auth) = handled at same
    apply Window.of_looked looked
    rw [same]
    unfold afterHandler
    split
    next accepted => exact refreshProtectedSession_window accepted operation
    next failed => exact .refused (NotExtended.refl _) failed

/-- The new credential ends the session, so there is no deadline left to
move. -/
theorem commitPasswordSet_window (final : refreshes request opcode = false) :
    Window cfg env opcode request w.auth (commitPasswordSet cfg env id response w).1
      (commitPasswordSet cfg env id response w).2.auth := by
  obtain ⟨err, auth, settings, set, outcome⟩ := commitPasswordSet_cases cfg env id response w
  have kept : NotExtended w.auth auth := by
    rcases AuthCore.setCredential_cases set with
      ⟨_, same | expired, _⟩ | ⟨_, _, _, _, _, replaced, _⟩
    · rw [same]
      exact NotExtended.refl _
    · rw [expired]
      exact NotExtended.looked (AuthCore.expireSession_looked _ _)
    · rw [replaced]
      exact Or.inr rfl
  rcases outcome with ⟨_, result⟩ | ⟨_, result⟩ | ⟨_, result⟩ | ⟨_, result⟩
  all_goals
    rw [result]
    exact .kept kept fun _ _ => final

/-- An incomplete object refreshes the session, a complete one ends it. -/
theorem processPasswordSet_window :
    Window cfg env .passwordSet request w.auth (processPasswordSet cfg env id request response w).1
      (processPasswordSet cfg env id request response w).2.auth := by
  rcases processPasswordSet_cases cfg env id request response w with
    ⟨status, failed, result⟩ | ⟨c, accepted, outcome⟩
  · rw [result]
    exact .refused (NotExtended.refl _) (setError_failed failed)
  · obtain ⟨received, total⟩ := passwordSetAccepted_final accepted
    rcases outcome with ⟨partly, result⟩ | ⟨complete, result⟩
    · have operation : refreshes request .passwordSet = true := by
        rw [received, total] at partly
        simpa [refreshes] using partly
      rw [result]
      exact refreshProtectedSession_window (w := w.modify id fun _ => c)
        (Frame.status_setSuccess ..) operation
    · have final : refreshes request .passwordSet = false := by
        rw [received, total] at complete
        simpa [refreshes] using complete
      rw [result]
      exact commitPasswordSet_window (w := w.modify id fun _ => c) final

theorem processAuthChallenge_notExtended :
    NotExtended w.auth (processAuthChallenge cfg env request response w).2.auth := by
  rcases processAuthChallenge_cases cfg env request response w with
    result | ⟨outcome, auth, generated, result⟩
  · rw [result]
    exact NotExtended.refl _
  · rw [result]
    cases outcome with
    | error err => exact NotExtended.refused (AuthCore.generateChallenge_error generated)
    | ok nonce =>
      obtain ⟨_, _, _, _, issued⟩ := AuthCore.generateChallenge_ok generated
      have looked := NotExtended.looked
        (AuthCore.expireSession_looked (env.clock .operation) w.auth)
      rw [issued]
      exact looked

/-- A proof opens a session with a new deadline, or ends the one there was. -/
theorem processAuthProve_window :
    Window cfg env .authProve request w.auth
      (processAuthProve cfg hmac env id request response w).1
      (processAuthProve cfg hmac env id request response w).2.auth := by
  rcases processAuthProve_cases cfg hmac env id request response w with
    ⟨_, _, result⟩ | ⟨err, auth, verified, result⟩
  · rw [result]
    exact .kept (NotExtended.refl _) fun _ _ => rfl
  · rw [result]
    rcases AuthCore.verifyProof_cases verified with
      ⟨refused, _⟩ | ⟨_, _, _, guarded, _, _, ⟨_, _, left⟩ | ⟨_, _, _, left⟩ | ⟨zero, _, _, left⟩⟩
    · exact .kept (NotExtended.refused refused) fun _ _ => rfl
    · rw [left]
      exact .kept (Or.inr rfl) fun _ _ => rfl
    · rw [left]
      exact .kept (Or.inr rfl) fun _ _ => rfl
    · apply Window.proved guarded
      · simp only [if_pos zero, Frame.status_setSuccess]
      · rfl
      · rw [left]
        rfl

/-- One case an opcode. Four of them refresh, three change the session by their
own means, and the rest at most finds it expired. -/
theorem dispatch_window (cfg : Config) (hmac : Hmac) (env : Env) (id : ContextId)
    (opcode : Opcode) (request response : Frame) (w : World) :
    Window cfg env opcode request w.auth (dispatch cfg hmac env id opcode request response w).1
      (dispatch cfg hmac env id opcode request response w).2.auth := by
  have outside : ∀ {opcode : Opcode} {response' : Frame} {w' : World},
      NotExtended w.auth w'.auth → refreshes request opcode = false →
      Window cfg env opcode request w.auth response' w'.auth :=
    fun kept unlisted => .kept kept fun _ _ => unlisted
  cases opcode with
  | list => exact processManagement_window rfl fun _ => rfl
  | get => exact processManagement_window rfl fun _ => rfl
  | set => exact processManagement_window rfl fun _ => processSet_auth
  | clear => exact processManagement_window rfl fun _ => processClear_auth
  | passwordSet =>
    obtain ⟨auth, looked, ⟨_, _, _, result⟩ | ⟨_, _, result⟩⟩ := managementAccess_cases cfg env id w
    · simp only [dispatch, result]
      rw [if_pos (gateStatus_ne_ok _)]
      exact .refused (NotExtended.looked looked) (setError_failed (gateStatus_ne_ok _))
    · simp only [dispatch, result]
      rw [if_neg (by simp)]
      exact Window.of_looked looked (processPasswordSet_window (w := w.withAuth auth))
  | capabilities => exact outside (NotExtended.refl _) rfl
  | dynamicBegin =>
    apply outside _ rfl
    simp only [dispatch, (processDynamicBegin_only ..).auth]
    exact NotExtended.refl _
  | dynamicData =>
    apply outside _ rfl
    simp only [dispatch, (processDynamicData_only ..).auth]
    exact NotExtended.refl _
  | dynamicClear =>
    apply outside _ rfl
    simp only [dispatch, (processDynamicClear_only ..).auth]
    exact NotExtended.refl _
  | authInfo =>
    obtain ⟨answer, auth, looked, result⟩ := processAuthInfo_cases env request response w
    simp only [dispatch, result]
    exact outside (NotExtended.looked looked) rfl
  | authChallenge => exact outside processAuthChallenge_notExtended rfl
  | authProve => exact processAuthProve_window
  | lock =>
    rcases processLock_cases cfg env id request response w with result | result
    · simp only [dispatch, result]
      exact outside (NotExtended.refl _) rfl
    · simp only [dispatch, result]
      exact outside (Or.inr rfl) rfl

/-- A frame that passes the base validation moves the deadline as its opcode
does; any other is refused and leaves it. -/
theorem processFrame_window (cfg : Config) (hmac : Hmac) (env : Env) (id : ContextId)
    (request : Frame) (w : World) :
    (∃ opcode, Opcode.ofByte request.opcode = some opcode ∧
      Window cfg env opcode request w.auth (processFrame cfg hmac env id request w).1
        (processFrame cfg hmac env id request w).2.auth) ∨
    ((processFrame cfg hmac env id request w).1.status ≠ Status.ok.code ∧
      NotExtended w.auth (processFrame cfg hmac env id request w).2.auth) := by
  have looked : Looked w.auth (syncAuthState cfg env id w).auth := by
    rw [syncAuthState_auth]
    exact observedSession_looked env w.auth
  cases checked : baseCheck request with
  | error status =>
    apply Or.inr
    simp only [processFrame, checked]
    refine ⟨setError_failed (baseCheck_ne_ok checked), (NotExtended.looked looked).trans ?_⟩
    rcases discardForOpcode_cases cfg id (env.clock .cleanup) request.opcode
      (syncAuthState cfg env id w) with same | same | same | same
    all_goals
      rw [same]
      exact NotExtended.refl _
  | ok opcode =>
    apply Or.inl
    rw [processFrame_ok checked]
    exact ⟨opcode, baseCheck_opcode checked, Window.of_looked looked (dispatch_window ..)⟩

/-- The commands that never extend a session. -/
def bystanders : List Opcode :=
  [.authInfo, .authChallenge, .lock, .capabilities, .dynamicBegin, .dynamicData, .dynamicClear]

theorem bystander_not_listed (member : opcode ∈ bystanders) :
    opcode ≠ .authProve ∧ refreshes request opcode = false := by
  cases opcode with
  | list | get | set | clear | passwordSet | authProve => exact absurd member (by decide)
  | _ => exact ⟨by decide, rfl⟩

/-- Only a proof and a successful protected operation move the deadline of
the session to a later time; the operation moves it to the reading of its
refresh plus the timeout; refusals and the other commands leave it or end the
session. -/
theorem session_window (cfg : Config) (hmac : Hmac) (env : Env) (id : ContextId)
    (request : Frame) (w : World) :
    (Later (deadline w.auth) (deadline (processFrame cfg hmac env id request w).2.auth) →
      (processFrame cfg hmac env id request w).1.status = Status.ok.code ∧
        w.auth.state = .stateProtected ∧ ∃ opcode, Opcode.ofByte request.opcode = some opcode ∧
          (opcode = .authProve ∨ refreshes request opcode = true)) ∧
    (∀ opcode, Opcode.ofByte request.opcode = some opcode → refreshes request opcode = true →
      w.auth.state = .stateProtected →
      (processFrame cfg hmac env id request w).1.status = Status.ok.code →
        deadline (processFrame cfg hmac env id request w).2.auth =
          some (env.clock .refreshSession + (cfg.authSessionTimeout : Int) * 1000)) ∧
    (((processFrame cfg hmac env id request w).1.status ≠ Status.ok.code ∨
        ∃ opcode, Opcode.ofByte request.opcode = some opcode ∧ opcode ∈ bystanders) →
      deadline (processFrame cfg hmac env id request w).2.auth = deadline w.auth ∨
        deadline (processFrame cfg hmac env id request w).2.auth = none) := by
  rcases processFrame_window cfg hmac env id request w with
    ⟨opcode, known, window⟩ | ⟨failed, kept⟩
  · have one : ∀ {other}, Opcode.ofByte request.opcode = some other → other = opcode :=
      fun same => Option.some.inj (same.symm.trans known)
    cases window with
    | proved guarded accepted proof opened =>
      refine ⟨fun _ => ⟨accepted, guarded, opcode, known, Or.inl proof⟩, ?_, ?_⟩
      · intro other same operation
        cases (one same).trans proof
        cases operation
      · rintro (failed | ⟨other, same, member⟩)
        · exact absurd accepted failed
        · exact absurd ((one same).trans proof) (@bystander_not_listed request _ member).1
    | renewed guarded accepted operation moved =>
      refine ⟨fun _ => ⟨accepted, guarded, opcode, known, Or.inr operation⟩, fun _ _ _ _ _ => moved,
        ?_⟩
      rintro (failed | ⟨other, same, member⟩)
      · exact absurd accepted failed
      · have unlisted := (@bystander_not_listed request _ member).2
        rw [one same, operation] at unlisted
        cases unlisted
    | kept kept otherwise =>
      refine ⟨fun later => absurd later kept.not_later, ?_, fun _ => kept⟩
      intro other same operation guarded accepted
      have unlisted := otherwise accepted guarded
      rw [one same, unlisted] at operation
      cases operation
  · exact ⟨fun later => absurd later kept.not_later, fun _ _ _ _ accepted =>
      absurd accepted failed, fun _ => kept⟩

/-! ## A LIST frame at 5000 in a session that ends at 6000 -/

def sampleSession : World :=
  let w := World.boot .default .empty
  w.withAuth { w.auth with
    state := .stateProtected
    settingsSeen := true
    sessionActive := true
    sessionDeadlineMs := 6000 }

/-- A LIST one second before the end of the session moves the end to five
minutes from then. -/
theorem session_window_sample :
    deadline (processFrame .default (fun _ _ => Vector.replicate 32 0) (.still 5000) 0
      (.build .list 7 listSlot 0 0 []) sampleSession).2.auth = some 305000 :=
  (session_window .default (fun _ _ => Vector.replicate 32 0) (.still 5000) 0
    (.build .list 7 listSlot 0 0 []) sampleSession).2.1 .list (by decide) rfl rfl
      (by decide +kernel)

end RuntimeMacro.Guarantees.SessionWindow
