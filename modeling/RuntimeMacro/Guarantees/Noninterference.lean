import RuntimeMacro.Source.FrameEffects
import RuntimeMacro.Source.WorldRuns

/-!
# Unauthenticated management noninterference

runtime_macro_protocol.c:645-668; docs/AUTHENTICATION_PROTOCOL.md:358-370. A
locked out device stays locked out under every sequence of frames without a
successful proof. Its gate answers every management request alike, nothing the
gate guards changes, and the responses do not depend on the static slots.
-/
namespace RuntimeMacro.Guarantees.Noninterference
open Source Source.Protocol Foundations.Runs
open AuthCore (AuthState Hmac Looked)

variable {cfg : Config} {hmac : Hmac} {now : Int} {w w' w'' : World}

/-- ERROR_LOCKED, or PROTECTED without a session alive at `now`. -/
def LockedOut (now : Int) (core : AuthCore.State) : Prop :=
  core.state = .stateErrorLocked ∨
    (core.state = .stateProtected ∧ (core.sessionActive = false ∨ core.sessionDeadlineMs ≤ now))

/-- No reading of the call is earlier than `now`. -/
def NotBefore (now : Int) (env : Env) : Prop := ∀ site, now ≤ env.clock site

section LockedOut
variable {core core' : AuthCore.State} {env : Env}

theorem LockedOut.of_idle (lockedOut : LockedOut now core)
    (same : core'.persistent = core.persistent) (idle : core'.sessionActive = false) :
    LockedOut now core' := by
  have state : core'.state = core.state := congrArg AuthCore.Persistent.state same
  rcases lockedOut with locked | ⟨guarded, _⟩
  · exact Or.inl (state.trans locked)
  · exact Or.inr ⟨state.trans guarded, Or.inl idle⟩

theorem LockedOut.looked (lockedOut : LockedOut now core) (looked : Looked core core') :
    LockedOut now core' := by
  rcases looked with rfl | ⟨_, rfl⟩
  · exact lockedOut
  · exact lockedOut.of_idle rfl rfl

theorem LockedOut.refused {nowMs : Int} (lockedOut : LockedOut now core)
    (refused : AuthCore.Refused nowMs core core') : LockedOut now core' := by
  have looked := lockedOut.looked (AuthCore.expireSession_looked nowMs core)
  rcases refused with rfl | rfl | rfl
  · exact lockedOut
  · exact looked
  · exact looked

theorem LockedOut.challenged {nonceLength : Option Nat} {nowMs : Int}
    {random : Option AuthCore.Nonce} {outcome : Except Int AuthCore.Nonce}
    (lockedOut : LockedOut now core)
    (generated : AuthCore.generateChallenge cfg nonceLength nowMs random core = (outcome, core')) :
    core'.persistent = core.persistent ∧ LockedOut now core' := by
  cases outcome with
  | error err =>
    have refused := AuthCore.generateChallenge_error generated
    exact ⟨refused.persistent, lockedOut.refused refused⟩
  | ok nonce =>
    obtain ⟨_, _, _, _, issued⟩ := AuthCore.generateChallenge_ok generated
    have looked := AuthCore.expireSession_looked nowMs core
    have still := lockedOut.looked looked
    rw [issued]
    exact ⟨looked.persistent, still⟩

/-- A check that fails leaves no session, whatever there was before. -/
theorem LockedOut.unproved {proof : Option (List UInt8)} {nowMs result : Int} {hmacFails : Bool}
    (lockedOut : LockedOut now core)
    (verified : AuthCore.verifyProof cfg hmac proof nowMs hmacFails core = (result, core'))
    (failed : result ≠ 0) : core'.persistent = core.persistent ∧ LockedOut now core' := by
  rcases AuthCore.verifyProof_cases verified with ⟨refused, _⟩ | ⟨_, _, _, _, _, _, checked⟩
  · exact ⟨refused.persistent, lockedOut.refused refused⟩
  · have same := checked.persistent
    refine ⟨same, lockedOut.of_idle same ?_⟩
    rcases checked with ⟨_, _, left⟩ | ⟨_, _, _, left⟩ | ⟨done, _⟩
    · rw [left]
      rfl
    · rw [left]
      rfl
    · exact absurd done failed

theorem LockedOut.gate_shut (lockedOut : LockedOut now core) (later : NotBefore now env) :
    ¬ GateOpen env core := by
  have reading := later .gateState
  rintro (opened | ⟨guarded, active, early, _⟩)
  · rcases lockedOut with locked | ⟨guarded, _⟩
    · cases opened.symm.trans locked
    · cases opened.symm.trans guarded
  · rcases lockedOut with locked | ⟨_, idle | expired⟩
    · cases guarded.symm.trans locked
    · cases active.symm.trans idle
    · omega

end LockedOut

/-! ## One frame -/

/-- What the gate guards is as it was, and the gate is still shut. -/
structure Untouched (now : Int) (w w' : World) : Prop where
  slots : w'.slots = w.slots
  settings : w'.settings = w.settings
  calls : w'.calls = w.calls
  persistent : w'.auth.persistent = w.auth.persistent
  lockedOut : LockedOut now w'.auth

theorem Untouched.refl (lockedOut : LockedOut now w.auth) : Untouched now w w :=
  ⟨rfl, rfl, rfl, rfl, lockedOut⟩

theorem Untouched.trans (first : Untouched now w w') (second : Untouched now w' w'') :
    Untouched now w w'' :=
  ⟨second.slots.trans first.slots, second.settings.trans first.settings,
    second.calls.trans first.calls, second.persistent.trans first.persistent, second.lockedOut⟩

theorem Untouched.of_dynamic (lockedOut : LockedOut now w.auth) (only : DynamicOnly w w') :
    Untouched now w w' :=
  ⟨only.slots, only.settings, only.calls, by rw [only.auth], by rw [only.auth]; exact lockedOut⟩

theorem Untouched.of_auth (slots : w'.slots = w.slots) (settings : w'.settings = w.settings)
    (calls : w'.calls = w.calls) (lockedOut : LockedOut now w.auth)
    (looked : Looked w.auth w'.auth) : Untouched now w w' :=
  ⟨slots, settings, calls, looked.persistent, lockedOut.looked looked⟩

section OneFrame
variable {env : Env} {id : ContextId} {request response : Frame} {opcode : Opcode}

/-- One case an opcode. What manages is refused at the gate; a proof that
does not succeed opens nothing; the rest has no business with slots or
credential. -/
theorem dispatch_untouched (lockedOut : LockedOut now w.auth) (later : NotBefore now env)
    (unproved : opcode = .authProve →
      (dispatch cfg hmac env id opcode request response w).1.status ≠ Status.ok.code) :
    Untouched now w (dispatch cfg hmac env id opcode request response w).2 := by
  by_cases managing : manages opcode = true
  · obtain ⟨auth, looked, refused⟩ := dispatch_shut cfg hmac id request response
      (lockedOut.gate_shut later) managing
    rw [refused]
    exact Untouched.of_auth rfl rfl rfl lockedOut looked
  · cases opcode with
    | list | get | set | clear | passwordSet => exact absurd rfl managing
    | capabilities => exact Untouched.refl lockedOut
    | dynamicBegin => exact Untouched.of_dynamic lockedOut (processDynamicBegin_only ..)
    | dynamicData => exact Untouched.of_dynamic lockedOut (processDynamicData_only ..)
    | dynamicClear => exact Untouched.of_dynamic lockedOut (processDynamicClear_only ..)
    | authInfo =>
      obtain ⟨answer, auth, looked, result⟩ := processAuthInfo_cases env request response w
      simp only [dispatch, result]
      exact Untouched.of_auth rfl rfl rfl lockedOut looked
    | authChallenge =>
      rcases processAuthChallenge_cases cfg env request response w with
        refused | ⟨outcome, auth, generated, result⟩
      · simp only [dispatch, refused]
        exact Untouched.refl lockedOut
      · simp only [dispatch, result]
        obtain ⟨same, still⟩ := lockedOut.challenged generated
        exact ⟨rfl, rfl, rfl, same, still⟩
    | authProve =>
      rcases processAuthProve_cases cfg hmac env id request response w with
        ⟨status, _, refused⟩ | ⟨err, auth, verified, result⟩
      · simp only [dispatch, refused]
        exact Untouched.of_auth rfl rfl rfl lockedOut (Looked.refl _)
      · have failed : err ≠ 0 := by
          rintro rfl
          apply unproved rfl
          simp [dispatch, result]
        obtain ⟨same, still⟩ := lockedOut.unproved verified failed
        simp only [dispatch, result]
        exact ⟨rfl, rfl, rfl, same, still⟩
    | lock =>
      rcases processLock_cases cfg env id request response w with refused | locked
      · simp only [dispatch, refused]
        exact Untouched.refl lockedOut
      · simp only [dispatch, locked]
        exact ⟨rfl, rfl, rfl, rfl, lockedOut.of_idle rfl rfl⟩

theorem sync_untouched (lockedOut : LockedOut now w.auth) :
    Untouched now w (syncAuthState cfg env id w) :=
  Untouched.of_auth (syncAuthState_slots ..) (syncAuthState_settings ..) (syncAuthState_calls ..)
    lockedOut (by rw [syncAuthState_auth]; exact observedSession_looked env w.auth)

/-- A frame from a locked out state leaves it locked out. -/
theorem processFrame_untouched (cfg : Config) (hmac : Hmac) (id : ContextId) (request : Frame)
    (lockedOut : LockedOut now w.auth) (later : NotBefore now env)
    (unproved : Opcode.ofByte request.opcode = some .authProve →
      (processFrame cfg hmac env id request w).1.status ≠ Status.ok.code) :
    Untouched now w (processFrame cfg hmac env id request w).2 := by
  have synced : Untouched now w (syncAuthState cfg env id w) := sync_untouched lockedOut
  cases checked : baseCheck request with
  | error status =>
    simp only [processFrame, checked]
    refine synced.trans ?_
    rcases discardForOpcode_cases cfg id (env.clock .cleanup) request.opcode
      (syncAuthState cfg env id w) with same | same | same | same
    all_goals
      rw [same]
      exact Untouched.of_auth rfl rfl rfl synced.lockedOut (Looked.refl _)
  | ok opcode =>
    have known := baseCheck_opcode checked
    simp only [processFrame, checked] at unproved ⊢
    refine synced.trans (dispatch_untouched synced.lockedOut later ?_)
    rintro rfl
    exact unproved known

/-- A management request that passes the base checks gets the one answer of the
gate. -/
theorem processFrame_gated (cfg : Config) (hmac : Hmac) (id : ContextId)
    (lockedOut : LockedOut now w.auth) (later : NotBefore now env)
    (passed : baseCheck request = .ok opcode) (managing : manages opcode = true) :
    (processFrame cfg hmac env id request w).1.status = (gateStatus w.auth.state).code := by
  have synced : Untouched now w (syncAuthState cfg env id w) := sync_untouched lockedOut
  have state : (syncAuthState cfg env id w).auth.state = w.auth.state :=
    congrArg AuthCore.Persistent.state synced.persistent
  obtain ⟨auth, _, refused⟩ := dispatch_shut cfg hmac id request
    (Frame.initResponse (some request)) (synced.lockedOut.gate_shut later) managing
  simp only [processFrame, passed, refused, Frame.status_setError, state]

theorem processFrame_management_ne_ok (cfg : Config) (hmac : Hmac) (id : ContextId)
    (lockedOut : LockedOut now w.auth) (later : NotBefore now env)
    (known : Opcode.ofByte request.opcode = some opcode)
    (managing : manages opcode = true) :
    (processFrame cfg hmac env id request w).1.status ≠ Status.ok.code := by
  cases checked : baseCheck request with
  | error status =>
    simp only [processFrame, checked, Frame.status_setError, ne_eq, Status.code_inj]
    exact baseCheck_ne_ok checked
  | ok decoded =>
    have same : decoded = opcode := by
      simpa [known] using (baseCheck_opcode checked).symm
    subst same
    rw [processFrame_gated cfg hmac id lockedOut later checked managing, ne_eq, Status.code_inj]
    exact gateStatus_ne_ok _

end OneFrame

/-! ## The static slots do not show -/

/-- A world with other static texts. -/
def withSlots (slots : SlotStore) (w : World) : World := { w with slots := slots }

/-- The result of a frame, moved to a world with other static texts. -/
def onSlots (slots : SlotStore) (result : Frame × World) : Frame × World :=
  (result.1, withSlots slots result.2)

section Slots
variable {env : Env} {id : ContextId} {request response : Frame} {opcode : Opcode}
  (slots : SlotStore)

theorem syncAuthState_withSlots (w : World) :
    syncAuthState cfg env id (withSlots slots w) =
      withSlots slots (syncAuthState cfg env id w) := by
  unfold syncAuthState
  dsimp only [withSlots, World.withAuth]
  split <;> split <;> rfl

/-- The dynamic handlers do not read the static slots. -/
theorem processDynamicBegin_withSlots (w : World) :
    processDynamicBegin cfg env id request response (withSlots slots w) =
      onSlots slots (processDynamicBegin cfg env id request response w) := by
  unfold processDynamicBegin
  cases Foundations.Checks.firstFailure (beginChecks cfg request) with
  | some status => rfl
  | none =>
    have same : (withSlots slots w).dynamic = w.dynamic := rfl
    simp only [same]
    generalize w.dynamic.beginSlot cfg request.slot.toNat request.totalLength
      (beginTtlSeconds request) (beginConsumes request) (env.clock .operation) = outcome
    by_cases begun : outcome.1 = 0
    · simp only [if_pos begun, refreshDynamicTimeout_fst]
      generalize (if env.rescheduleErr < 0 then env.rescheduleErr else 0) = scheduled
      split <;> rfl
    · simp only [if_neg begun]
      rw [if_pos begun, if_pos begun]
      rfl

theorem processDynamicData_withSlots (w : World) :
    processDynamicData cfg env id request response (withSlots slots w) =
      onSlots slots (processDynamicData cfg env id request response w) := by
  cases checked : Foundations.Checks.firstFailure (dataChecks cfg request (w.contexts id)) with
  | some status =>
    have checked' : Foundations.Checks.firstFailure
        (dataChecks cfg request ((withSlots slots w).contexts id)) = some status := checked
    simp only [processDynamicData, checked, checked']
    rfl
  | none =>
    rw [processDynamicData_of_passed checked,
      processDynamicData_of_passed (w := withSlots slots w) checked]
    have same : dataAppend cfg env request (withSlots slots w) = dataAppend cfg env request w := rfl
    simp only [same, refreshDynamicTimeout_fst]
    by_cases taken : (dataAppend cfg env request w).1 ≠ 0
    · rw [if_pos taken, if_pos taken]
      rfl
    · rw [if_neg taken, if_neg taken]
      have total : ((withSlots slots w).contexts id).dynamicTotalLength =
        (w.contexts id).dynamicTotalLength := rfl
      rw [total]
      split
      · rfl
      · split <;> split <;> rfl

theorem processDynamicClear_withSlots (w : World) :
    processDynamicClear cfg env id request response (withSlots slots w) =
      onSlots slots (processDynamicClear cfg env id request response w) := by
  unfold processDynamicClear
  dsimp only
  split
  · rfl
  · split
    · rfl
    · generalize cleared : w.withDynamic (w.dynamic.clearSlot cfg request.slot.toNat
        (env.clock .rearm)) = w'
      have cleared' : (withSlots slots w).withDynamic ((withSlots slots w).dynamic.clearSlot cfg
          request.slot.toNat (env.clock .rearm)) = withSlots slots w' := by
        rw [← cleared]
        rfl
      have context : (withSlots slots w').contexts id = w'.contexts id := rfl
      simp only [cleared', context]
      split <;> rfl

theorem managementAccess_withSlots (cfg : Config) (env : Env) (id : ContextId) (w : World) :
    managementAccess cfg env id (withSlots slots w) =
      ((managementAccess cfg env id w).1, withSlots slots (managementAccess cfg env id w).2) := by
  unfold managementAccess
  dsimp only [withSlots, World.withAuth]
  split
  · rfl
  · split <;> rfl
  · rfl

/-- One case an opcode. LIST and GET would read the slots, but the gate stops
them first. -/
theorem dispatch_withSlots (lockedOut : LockedOut now w.auth) (later : NotBefore now env) :
    dispatch cfg hmac env id opcode request response (withSlots slots w) =
      onSlots slots (dispatch cfg hmac env id opcode request response w) := by
  have access := managementAccess_withSlots slots cfg env id w
  have shut : (managementAccess cfg env id w).1 ≠ .ok := by
    obtain ⟨auth, _, ⟨_, _, _, refused⟩ | ⟨opened, _⟩⟩ := managementAccess_cases cfg env id w
    · rw [refused]
      exact gateStatus_ne_ok _
    · exact absurd opened (lockedOut.gate_shut later)
  have refused : ∀ handler handler', processManagement cfg env id handler response
      (withSlots slots w) = onSlots slots (processManagement cfg env id handler' response w) := by
    intro handler handler'
    unfold processManagement
    simp only [access]
    rw [if_pos shut, if_pos shut]
    rfl
  cases opcode with
  | list | get | set | clear =>
    unfold dispatch
    exact refused _ _
  | passwordSet =>
    unfold dispatch
    simp only [access]
    rw [if_pos shut, if_pos shut]
    rfl
  | capabilities => rfl
  | dynamicBegin => exact processDynamicBegin_withSlots slots w
  | dynamicData => exact processDynamicData_withSlots slots w
  | dynamicClear => exact processDynamicClear_withSlots slots w
  | authInfo =>
    unfold dispatch processAuthInfo
    dsimp only [withSlots, World.withAuth]
    split
    · rfl
    · split <;> rfl
  | authChallenge =>
    unfold dispatch processAuthChallenge
    dsimp only [withSlots, World.withAuth]
    split
    · rfl
    · split <;> rfl
  | authProve =>
    unfold dispatch processAuthProve
    dsimp only [withSlots, World.withAuth]
    split
    · rfl
    · split
      · rfl
      · split <;> rfl
  | lock =>
    unfold dispatch processLock
    dsimp only
    split <;> rfl

theorem processFrame_withSlots (cfg : Config) (hmac : Hmac) (id : ContextId) (request : Frame)
    (lockedOut : LockedOut now w.auth) (later : NotBefore now env) :
    processFrame cfg hmac env id request (withSlots slots w) =
      onSlots slots (processFrame cfg hmac env id request w) := by
  have synced : Untouched now w (syncAuthState cfg env id w) := sync_untouched lockedOut
  unfold processFrame
  simp only [syncAuthState_withSlots]
  cases baseCheck request with
  | error status =>
    refine congrArg (Prod.mk _) ?_
    dsimp only
    unfold discardForOpcode
    split <;> rfl
  | ok opcode => exact dispatch_withSlots slots synced.lockedOut later

end Slots

/-! ## Every sequence of frames -/

section Sequences
variable {start final : World} {events : List Exchange}

/-- No AUTH_PROVE of the exchange succeeds, and none of its readings is earlier
than `now`. -/
def Unproved (now : Int) (exchange : Exchange) : Prop :=
  NotBefore now exchange.env ∧
    (exchange.opcode = some .authProve → exchange.accepted = false)

theorem accepted_eq_false {exchange : Exchange} :
    exchange.accepted = false ↔ exchange.response.status ≠ Status.ok.code := by
  simp [Exchange.accepted]

theorem step_untouched {exchange : Exchange} (lockedOut : LockedOut now w.auth)
    (unproved : Unproved now exchange) (step : FrameStep cfg hmac w exchange w') :
    Untouched now w w' := by
  have untouched := processFrame_untouched cfg hmac exchange.id exchange.request
    lockedOut unproved.1
  rw [step] at untouched
  exact untouched fun proving => accepted_eq_false.mp (unproved.2 proving)

theorem run_untouched (run : Run (FrameStep cfg hmac) start events final)
    (lockedOut : LockedOut now start.auth)
    (unproved : ∀ exchange ∈ events, Unproved now exchange) : Untouched now start final :=
  run.invariant_of _ (Untouched.refl lockedOut) unproved fun _ _ _ untouched allowed step =>
    untouched.trans (step_untouched untouched.lockedOut allowed step)

/-- The state before an exchange of the run is locked out like the start. -/
theorem around_untouched (run : Run (FrameStep cfg hmac) start events final)
    (lockedOut : LockedOut now start.auth)
    (unproved : ∀ exchange ∈ events, Unproved now exchange) {exchange : Exchange}
    (member : exchange ∈ events) :
    ∃ before after, Untouched now start before ∧ FrameStep cfg hmac before exchange after := by
  obtain ⟨front, back, rfl⟩ := List.append_of_mem member
  obtain ⟨before, after, earlier, step, _⟩ := run.around
  refine ⟨before, after, run_untouched earlier lockedOut fun exchange listed => ?_, step⟩
  exact unproved exchange (List.mem_append_left _ listed)

/-- Along the run the two worlds stay the same up to their slots. -/
theorem same_responses (slots : SlotStore) {final' : World} {events' : List Exchange}
    (run : Run (FrameStep cfg hmac) start events final)
    (run' : Run (FrameStep cfg hmac) (withSlots slots start) events' final')
    (lockedOut : LockedOut now start.auth)
    (unproved : ∀ exchange ∈ events, Unproved now exchange)
    (sameInputs : events.map Exchange.input = events'.map Exchange.input) : events = events' := by
  have related : LockedOut now start.auth ∧ withSlots slots start = withSlots slots start :=
    ⟨lockedOut, rfl⟩
  refine (run.lockstep run' (fun s t => LockedOut now s.auth ∧ t = withSlots slots s)
    related sameInputs unproved ?_).1
  rintro s t first second s' t' ⟨shut, rfl⟩ same allowed step step'
  obtain ⟨id, env, request, response⟩ := first
  obtain ⟨id', env', request', response'⟩ := second
  cases same
  have answered := processFrame_withSlots slots cfg hmac id request shut allowed.1
  rw [step', step] at answered
  cases answered
  exact ⟨rfl, (step_untouched shut allowed step).lockedOut, rfl⟩

/-- From a locked out state, whatever frames follow without a successful proof:
the slots, the settings and the credential stay as they are and no management
frame is answered OK; other texts in the slots give the same responses; and
every management frame that passes the base checks gets one and the same
status. -/
theorem unauthenticated_management (lockedOut : LockedOut now start.auth)
    (run : Run (FrameStep cfg hmac) start events final)
    (unproved : ∀ exchange ∈ events, Unproved now exchange) :
    (final.slots = start.slots ∧ final.settings = start.settings ∧
      final.auth.credential = start.auth.credential ∧
      ∀ exchange ∈ events, ∀ opcode, exchange.opcode = some opcode → manages opcode = true →
        exchange.accepted = false) ∧
    (∀ slots events' final', Run (FrameStep cfg hmac) (withSlots slots start) events' final' →
      events.map Exchange.input = events'.map Exchange.input →
      events.map Exchange.response = events'.map Exchange.response) ∧
    (∀ exchange ∈ events, ∀ opcode, baseCheck exchange.request = .ok opcode →
      manages opcode = true →
      exchange.response.status = (gateStatus start.auth.state).code) := by
  have untouched := run_untouched run lockedOut unproved
  refine ⟨⟨untouched.slots, untouched.settings,
    congrArg AuthCore.Persistent.credential untouched.persistent, ?_⟩, ?_, ?_⟩
  · intro exchange member opcode known managing
    obtain ⟨before, after, reached, step⟩ := around_untouched run lockedOut unproved member
    have refused := processFrame_management_ne_ok cfg hmac exchange.id
      reached.lockedOut (unproved exchange member).1 known managing
    rw [step] at refused
    exact accepted_eq_false.mpr refused
  · intro slots events' final' run' sameInputs
    rw [same_responses slots run run' lockedOut unproved sameInputs]
  · intro exchange member opcode passed managing
    obtain ⟨before, after, reached, step⟩ := around_untouched run lockedOut unproved member
    have gated := processFrame_gated cfg hmac exchange.id
      reached.lockedOut (unproved exchange member).1 passed managing
    rw [step] at gated
    rw [gated, show before.auth.state = start.auth.state from
      congrArg AuthCore.Persistent.state reached.persistent]

end Sequences

/-! ## A stranger at two keyboards -/

/-- A keyboard with a credential and a text in slot 3. -/
def sampleGuarded (text : List UInt8) : World :=
  let boot := World.boot .default .empty
  withSlots (boot.slots.slotReplace 3 text)
    (boot.withAuth (AuthCore.setCredentialActivate AuthCore.sampleCredential .boot))

/-- A login without the key, and then one request of every kind. -/
def sampleRequests : List (Env × Frame) :=
  [(.still 50, .build .authChallenge 1 listSlot 0 0 []),
    (.still 51, .build .authProve 2 listSlot 0 16 (List.replicate 16 0)),
    (.still 52, .build .list 3 listSlot 0 0 []),
    (.still 53, .build .get 4 3 0 0 []),
    (.still 54, .build .set 5 3 0 2 [72, 105]),
    (.still 55, .build .clear 6 3 0 0 []),
    (.still 56, .build .passwordSet 7 listSlot 0 52 (List.replicate 22 1))]

def sampleAnswers (text : List UInt8) : List Frame :=
  (conversation .default AuthCore.sampleHmac 0 sampleRequests
    (sampleGuarded text)).1.map Exchange.response

theorem notBefore_still {nowMs : Int} (later : now ≤ nowMs) : NotBefore now (.still nowMs) :=
  fun _ => later

/-- Whether slot 3 holds a text does not show, and the text stays. -/
theorem unauthenticated_management_sample :
    sampleAnswers [83, 101, 99] = sampleAnswers [] ∧
      (conversation .default AuthCore.sampleHmac 0 sampleRequests
        (sampleGuarded [83, 101, 99])).2.slots = (sampleGuarded [83, 101, 99]).slots := by
  have lockedOut : LockedOut 50 (sampleGuarded [83, 101, 99]).auth := Or.inr ⟨rfl, Or.inl rfl⟩
  have unproved : ∀ exchange ∈ (conversation .default AuthCore.sampleHmac 0 sampleRequests
      (sampleGuarded [83, 101, 99])).1, Unproved 50 exchange := by
    simp only [conversation, sampleRequests, List.forall_mem_cons]
    refine ⟨⟨?_, ?_⟩, ⟨?_, ?_⟩, ⟨?_, ?_⟩, ⟨?_, ?_⟩, ⟨?_, ?_⟩, ⟨?_, ?_⟩, ⟨?_, ?_⟩,
      List.forall_mem_nil _⟩
    all_goals first | exact notBefore_still (by decide) | decide +kernel
  obtain ⟨⟨slots, _⟩, blind, _⟩ := unauthenticated_management lockedOut
    (conversation_run .default AuthCore.sampleHmac 0 sampleRequests (sampleGuarded [83, 101, 99]))
    unproved
  refine ⟨blind _ _ _ (conversation_run .default AuthCore.sampleHmac 0 sampleRequests
    (sampleGuarded [])) ?_, slots⟩
  rw [conversation_inputs, conversation_inputs]

end RuntimeMacro.Guarantees.Noninterference
