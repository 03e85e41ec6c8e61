import RuntimeMacro.Source.ProtocolCases
import RuntimeMacro.Source.ProtocolDynamicCases

/-!
# What one frame can do

runtime_macro_protocol.c:650-685,1288-1425. The handlers put together: which
frames get past the gate, what a frame leaves alone when the gate is shut, and
the calls into the authentication core it makes.
-/
namespace RuntimeMacro.Source.Protocol
open AuthCore (Hmac Looked)
open Foundations.Runs

variable {cfg : Config} {hmac : Hmac} {env : Env} {id : ContextId} {request response : Frame}
  {opcode : Opcode} {w w' w'' : World}

/-! ## Behind the gate -/

/-- LIST, GET, SET, CLEAR and PASSWORD_SET. -/
def manages : Opcode → Bool
  | .list | .get | .set | .clear | .passwordSet => true
  | _ => false

/-- A shut gate answers a management request without a look at anything else in
it. -/
theorem dispatch_shut (cfg : Config) (hmac : Hmac) (id : ContextId) (request response : Frame)
    (shut : ¬ GateOpen env w.auth) (managing : manages opcode = true) :
    ∃ auth, Looked w.auth auth ∧ dispatch cfg hmac env id opcode request response w =
      (response.setError (gateStatus w.auth.state),
        (w.withAuth auth).discard cfg id (env.clock .gateDiscard)) := by
  have refused : ∀ handler, ∃ auth, Looked w.auth auth ∧
      processManagement cfg env id handler response w =
        (response.setError (gateStatus w.auth.state),
          (w.withAuth auth).discard cfg id (env.clock .gateDiscard)) := by
    intro handler
    obtain ⟨auth, looked, ⟨_, _, _, refused⟩ | ⟨opened, _⟩⟩ :=
      processManagement_cases cfg env id handler response w
    · exact ⟨auth, looked, refused⟩
    · exact absurd opened shut
  cases opcode with
  | list | get | set | clear =>
    unfold dispatch
    exact refused _
  | passwordSet =>
    obtain ⟨auth, looked, ⟨_, _, _, refused⟩ | ⟨opened, _⟩⟩ := managementAccess_cases cfg env id w
    · refine ⟨auth, looked, ?_⟩
      unfold dispatch
      simp only [refused]
      rw [if_pos (gateStatus_ne_ok _)]
    · exact absurd opened shut
  | _ => cases managing

/-- The static slots, the settings and the record of storage calls are as they
were. -/
structure StoresKept (w w' : World) : Prop where
  slots : w'.slots = w.slots
  settings : w'.settings = w.settings
  calls : w'.calls = w.calls

theorem StoresKept.refl (w : World) : StoresKept w w := ⟨rfl, rfl, rfl⟩

theorem StoresKept.trans (first : StoresKept w w') (second : StoresKept w' w'') :
    StoresKept w w'' :=
  ⟨second.slots.trans first.slots, second.settings.trans first.settings,
    second.calls.trans first.calls⟩

theorem DynamicOnly.storesKept (only : DynamicOnly w w') : StoresKept w w' :=
  ⟨only.slots, only.settings, only.calls⟩

/-- The commands that are not management commands write no slot and no
setting. -/
theorem dispatch_storesKept (unmanaged : manages opcode = false) :
    StoresKept w (dispatch cfg hmac env id opcode request response w).2 := by
  cases opcode with
  | list | get | set | clear | passwordSet => cases unmanaged
  | capabilities => exact StoresKept.refl w
  | dynamicBegin => exact (processDynamicBegin_only ..).storesKept
  | dynamicData => exact (processDynamicData_only ..).storesKept
  | dynamicClear => exact (processDynamicClear_only ..).storesKept
  | authInfo =>
    obtain ⟨answer, auth, _, result⟩ := processAuthInfo_cases env request response w
    simp only [dispatch, result]
    exact ⟨rfl, rfl, rfl⟩
  | authChallenge =>
    rcases processAuthChallenge_cases cfg env request response w with
      refused | ⟨outcome, auth, _, result⟩
    · simp only [dispatch, refused]
      exact StoresKept.refl w
    · simp only [dispatch, result]
      exact ⟨rfl, rfl, rfl⟩
  | authProve =>
    rcases processAuthProve_cases cfg hmac env id request response w with
      ⟨status, _, refused⟩ | ⟨err, auth, _, result⟩
    · simp only [dispatch, refused]
      exact ⟨rfl, rfl, rfl⟩
    · simp only [dispatch, result]
      exact ⟨rfl, rfl, rfl⟩
  | lock =>
    rcases processLock_cases cfg env id request response w with refused | locked
    · simp only [dispatch, refused]
      exact StoresKept.refl w
    · simp only [dispatch, locked]
      exact ⟨rfl, rfl, rfl⟩

theorem syncAuthState_storesKept : StoresKept w (syncAuthState cfg env id w) :=
  ⟨syncAuthState_slots .., syncAuthState_settings .., syncAuthState_calls ..⟩

theorem discardForOpcode_storesKept (nowMs : Int) (byte : UInt8) :
    StoresKept w (discardForOpcode cfg id nowMs byte w) := by
  rcases discardForOpcode_cases cfg id nowMs byte w with same | same | same | same
  all_goals
    rw [same]
    exact ⟨rfl, rfl, rfl⟩

theorem processFrame_storesKept (cfg : Config) (hmac : Hmac) (env : Env) (id : ContextId)
    (request : Frame) (w : World)
    (guarded : ∀ opcode, baseCheck request = .ok opcode → manages opcode = true →
      ¬ GateOpen env (syncAuthState cfg env id w).auth) :
    StoresKept w (processFrame cfg hmac env id request w).2 := by
  have synced : StoresKept w (syncAuthState cfg env id w) := syncAuthState_storesKept
  refine synced.trans ?_
  cases checked : baseCheck request with
  | error status =>
    simp only [processFrame, checked]
    exact discardForOpcode_storesKept _ _
  | ok opcode =>
    simp only [processFrame, checked]
    by_cases managing : manages opcode = true
    · obtain ⟨auth, _, refused⟩ := dispatch_shut cfg hmac id request
        (Frame.initResponse (some request))
        (guarded opcode checked managing) managing
      rw [refused]
      exact ⟨rfl, rfl, rfl⟩
    · exact dispatch_storesKept (by simpa using managing)

/-! ## The calls into the authentication core -/

/-- One call into the core, whatever the settings. -/
def CoreStep (cfg : Config) (hmac : Hmac) (core : AuthCore.State) (call : AuthCore.Event)
    (core' : AuthCore.State) : Prop :=
  ∃ settings settings', AuthCore.Step cfg hmac ⟨core, settings⟩ call ⟨core', settings'⟩

/-- The entry points the protocol calls. -/
def fromFrame : AuthCore.Event → Bool
  | .settingsSet .. | .settingsCommit | .transportReset => false
  | _ => true

/-- The core went from one state to the other through calls of the protocol.
Only with `writes` may one of them write the persistent part. -/
def CoreTrace (cfg : Config) (hmac : Hmac) (writes : Bool) (core core' : AuthCore.State) : Prop :=
  ∃ calls, (∀ call ∈ calls, fromFrame call = true ∧
      (call.writesPersistent = true → writes = true)) ∧
    Run (CoreStep cfg hmac) core calls core'

section Trace
variable {core core' core'' : AuthCore.State} {writes : Bool}

theorem CoreTrace.refl (core : AuthCore.State) : CoreTrace cfg hmac writes core core :=
  ⟨[], by simp, Run.nil core⟩

theorem CoreTrace.trans (first : CoreTrace cfg hmac writes core core')
    (second : CoreTrace cfg hmac writes core' core'') : CoreTrace cfg hmac writes core core'' := by
  obtain ⟨front, frontAllowed, frontRun⟩ := first
  obtain ⟨back, backAllowed, backRun⟩ := second
  refine ⟨front ++ back, ?_, frontRun.append backRun⟩
  intro call member
  rcases List.mem_append.mp member with early | late
  · exact frontAllowed call early
  · exact backAllowed call late

theorem CoreTrace.single (call : AuthCore.Event) (allowed : fromFrame call = true)
    (silent : call.writesPersistent = true → writes = true)
    (step : CoreStep cfg hmac core call core') : CoreTrace cfg hmac writes core core' :=
  ⟨[call], by simpa using ⟨allowed, silent⟩, Run.single step⟩

theorem CoreTrace.persistent (trace : CoreTrace cfg hmac false core core') :
    core'.persistent = core.persistent := by
  obtain ⟨calls, allowed, run⟩ := trace
  refine run.invariant_of (fun reached => reached.persistent = core.persistent) rfl allowed
    ?_
  rintro _ call _ same ⟨_, silent⟩ ⟨settings, settings', step⟩
  have kept := AuthCore.step_persistent step (by simpa using silent)
  exact kept.trans same

theorem CoreTrace.looked (looked : Looked core core') : CoreTrace cfg hmac writes core core' := by
  rcases looked with rfl | ⟨active, rfl⟩
  · exact CoreTrace.refl _
  · have dropped : AuthCore.expireSession core.sessionDeadlineMs core =
        AuthCore.clearChallenge (AuthCore.clearSession core) := by
      unfold AuthCore.expireSession
      rw [if_neg (by simp [active])]
    refine CoreTrace.single (.getState core.sessionDeadlineMs core.state) rfl
      (by simp [AuthCore.Event.writesPersistent]) ⟨.empty, .empty, ?_, rfl⟩
    unfold AuthCore.getState
    rw [dropped]
    rfl

theorem CoreTrace.refreshed {nowMs : Int} (guarded : core.state = .stateProtected)
    (active : core.sessionActive = true) (alive : nowMs < core.sessionDeadlineMs) :
    CoreTrace cfg hmac writes core { core with
      sessionDeadlineMs := nowMs + (cfg.authSessionTimeout : Int) * 1000 } := by
  refine CoreTrace.single (.refreshSession nowMs 0) rfl
    (by simp [AuthCore.Event.writesPersistent]) ⟨.empty, .empty, ?_, rfl⟩
  unfold AuthCore.refreshSession
  rw [AuthCore.expireSession_of_alive alive]
  dsimp only
  rw [if_neg (by simp [guarded, active])]

end Trace

variable {writes : Bool}

theorem refreshProtectedSession_trace (response : Frame) (w : World) :
    CoreTrace cfg hmac writes w.auth (refreshProtectedSession cfg env id response w).2.auth := by
  rcases refreshProtectedSession_cases cfg env id response w with
    ⟨_, auth, looked, result⟩ | ⟨guarded, inTime, result⟩ | ⟨_, _, auth, looked, _, result⟩
  · rw [result]
    exact CoreTrace.looked looked
  · rw [result]
    exact CoreTrace.refreshed guarded inTime.1 inTime.2.2
  · rw [result]
    exact CoreTrace.looked looked

theorem afterHandler_trace (result : Frame × World) :
    CoreTrace cfg hmac writes result.2.auth (afterHandler cfg env id result).2.auth := by
  unfold afterHandler
  split
  · exact refreshProtectedSession_trace _ _
  · exact CoreTrace.refl _

theorem commitSet_auth (response : Frame) (w : World) :
    (commitSet cfg env id response w).2.auth = w.auth := by
  obtain ⟨err, slots, settings, _, result⟩ := commitSet_eq cfg env id response w
  rw [result]
  rfl

theorem processSet_auth : (processSet cfg env id request response w).2.auth = w.auth := by
  rcases processSet_cases cfg env id request response w with
    ⟨_, _, result⟩ | ⟨_, _, ⟨_, result⟩ | ⟨_, result⟩⟩
  · rw [result]
    rfl
  · rw [result]
    rfl
  · rw [result]
    exact commitSet_auth _ _

theorem processClear_auth : (processClear cfg env request response w).2.auth = w.auth := by
  rcases processClear_cases cfg env request response w with ⟨_, _, _, result⟩ | ⟨_, result⟩
  · rw [result]
  · rw [result]

theorem processPasswordSet_trace (permitted :
      (processPasswordSet cfg env id request response w).1.status = Status.ok.code →
        writes = true) :
    CoreTrace cfg hmac writes w.auth (processPasswordSet cfg env id request response w).2.auth := by
  rcases processPasswordSet_cases cfg env id request response w with
    ⟨_, _, result⟩ | ⟨c, _, ⟨_, result⟩ | ⟨_, result⟩⟩
  · rw [result]
    exact CoreTrace.refl _
  · rw [result]
    exact refreshProtectedSession_trace _ (w.modify id fun _ => c)
  · rw [result] at permitted ⊢
    obtain ⟨err, auth, settings, set, outcome⟩ :=
      commitPasswordSet_cases cfg env id response (w.modify id fun _ => c)
    have answered : err = 0 →
        (commitPasswordSet cfg env id response (w.modify id fun _ => c)).1.status =
          Status.ok.code := by
      rintro rfl
      rcases outcome with ⟨_, result⟩ | ⟨impossible, _⟩ | ⟨impossible, _⟩ | ⟨impossible, _⟩
      · rw [result, Frame.status_setSuccess]
      · rcases impossible with impossible | impossible <;> cases impossible
      · cases impossible
      · exact absurd rfl impossible
    have called : CoreTrace cfg hmac writes w.auth auth := by
      refine CoreTrace.single (.setCredential _ _ _ err) rfl (fun writing => ?_)
        ⟨w.settings, settings, set⟩
      exact permitted (answered (by simpa [AuthCore.Event.writesPersistent] using writing))
    rcases outcome with ⟨_, result⟩ | ⟨_, result⟩ | ⟨_, result⟩ | ⟨_, result⟩
    all_goals
      rw [result]
      exact called

theorem dispatch_trace (permitted : opcode = .passwordSet →
      (dispatch cfg hmac env id opcode request response w).1.status = Status.ok.code →
        writes = true) :
    CoreTrace cfg hmac writes w.auth
      (dispatch cfg hmac env id opcode request response w).2.auth := by
  have managed : ∀ handler : World → Frame × World, (∀ w, (handler w).2.auth = w.auth) →
      CoreTrace cfg hmac writes w.auth
        (processManagement cfg env id handler response w).2.auth := by
    intro handler kept
    obtain ⟨auth, looked, ⟨_, _, _, result⟩ | ⟨_, _, result⟩⟩ :=
      processManagement_cases cfg env id handler response w
    · rw [result]
      exact CoreTrace.looked looked
    · rw [result]
      have refreshed : CoreTrace cfg hmac writes (handler (w.withAuth auth)).2.auth
        (afterHandler cfg env id (handler (w.withAuth auth))).2.auth := afterHandler_trace _
      rw [kept] at refreshed
      exact (CoreTrace.looked looked).trans refreshed
  cases opcode with
  | list => exact managed _ fun _ => rfl
  | get => exact managed _ fun _ => rfl
  | set => exact managed _ fun _ => processSet_auth
  | clear => exact managed _ fun _ => processClear_auth
  | passwordSet =>
    obtain ⟨auth, looked, ⟨_, _, _, result⟩ | ⟨_, _, result⟩⟩ := managementAccess_cases cfg env id w
    · simp only [dispatch, result]
      rw [if_pos (gateStatus_ne_ok _)]
      exact CoreTrace.looked looked
    · have granted : dispatch cfg hmac env id .passwordSet request response w =
          processPasswordSet cfg env id request response (w.withAuth auth) := by
        simp only [dispatch, result]
        rw [if_neg (by simp)]
      rw [granted] at permitted ⊢
      exact (CoreTrace.looked looked).trans
        (processPasswordSet_trace (w := w.withAuth auth) (permitted rfl))
  | capabilities => exact CoreTrace.refl _
  | dynamicBegin =>
    simp only [dispatch, (processDynamicBegin_only ..).auth]
    exact CoreTrace.refl _
  | dynamicData =>
    simp only [dispatch, (processDynamicData_only ..).auth]
    exact CoreTrace.refl _
  | dynamicClear =>
    simp only [dispatch, (processDynamicClear_only ..).auth]
    exact CoreTrace.refl _
  | authInfo =>
    obtain ⟨answer, auth, looked, result⟩ := processAuthInfo_cases env request response w
    simp only [dispatch, result]
    exact CoreTrace.looked looked
  | authChallenge =>
    rcases processAuthChallenge_cases cfg env request response w with
      refused | ⟨outcome, auth, generated, result⟩
    · simp only [dispatch, refused]
      exact CoreTrace.refl _
    · simp only [dispatch, result]
      exact CoreTrace.single (.generateChallenge _ _ _ outcome) rfl
        (by simp [AuthCore.Event.writesPersistent]) ⟨w.settings, w.settings, generated, rfl⟩
  | authProve =>
    rcases processAuthProve_cases cfg hmac env id request response w with
      ⟨status, _, refused⟩ | ⟨err, auth, verified, result⟩
    · simp only [dispatch, refused]
      exact CoreTrace.refl _
    · simp only [dispatch, result]
      exact CoreTrace.single (.verifyProof _ _ _ err) rfl
        (by simp [AuthCore.Event.writesPersistent]) ⟨w.settings, w.settings, verified, rfl⟩
  | lock =>
    rcases processLock_cases cfg env id request response w with refused | locked
    · simp only [dispatch, refused]
      exact CoreTrace.refl _
    · simp only [dispatch, locked]
      exact CoreTrace.single .lock rfl
        (by simp [AuthCore.Event.writesPersistent]) ⟨w.settings, w.settings, rfl, rfl⟩

/-- A frame acts on the core through its entry points only, and replaces the
persistent part only in a PASSWORD_SET answered OK. -/
theorem processFrame_trace (cfg : Config) (hmac : Hmac) (env : Env) (id : ContextId)
    (request : Frame) (w : World) (writes : Bool)
    (permitted : Opcode.ofByte request.opcode = some .passwordSet →
      (processFrame cfg hmac env id request w).1.status = Status.ok.code → writes = true) :
    CoreTrace cfg hmac writes w.auth (processFrame cfg hmac env id request w).2.auth := by
  have synced : CoreTrace cfg hmac writes w.auth (syncAuthState cfg env id w).auth := by
    rw [syncAuthState_auth]
    exact CoreTrace.looked (observedSession_looked env w.auth)
  cases checked : baseCheck request with
  | error status =>
    simp only [processFrame, checked]
    rcases discardForOpcode_cases cfg id (env.clock .cleanup) request.opcode
      (syncAuthState cfg env id w) with same | same | same | same
    all_goals
      rw [same]
      exact synced
  | ok opcode =>
    have known := baseCheck_opcode checked
    simp only [processFrame, checked] at permitted ⊢
    refine synced.trans (dispatch_trace ?_)
    rintro rfl
    exact permitted known

end RuntimeMacro.Source.Protocol
