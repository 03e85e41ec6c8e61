import RuntimeMacro.Source.FrameUploads
import RuntimeMacro.Source.WorldRuns

/-!
# Separation of the dynamic commands

runtime_macro_protocol.c:341-642. The frames 0x20 to 0x23 act on the dynamic
store, the dynamic upload of their context and its timeout. On a context whose
record is up to date their effect and their answer do not depend on the
authentication core: the whole call is one handler, run beside a core and
records that it never reads.
-/
namespace RuntimeMacro.Guarantees.DynamicSeparation
open Source Source.Protocol Foundations.Runs
open AuthCore (AuthState Hmac Looked)

variable {cfg : Config} {hmac : Hmac} {env : Env} {id other : ContextId}
  {request response : Frame} {w w' w'' : World}

/-- The opcodes of the dynamic commands, 0x20 to 0x23. -/
def dynamicByte (byte : UInt8) : Bool := 0x20 ≤ byte && byte ≤ 0x23

/-- The opcodes that work without a password: the three of an upload, and
CAPABILITIES. -/
def dynamicOpcode : Opcode → Bool
  | .dynamicBegin | .dynamicData | .dynamicClear | .capabilities => true
  | _ => false

theorem dynamicOpcode_of_byte {byte : UInt8} {opcode : Opcode} (inRange : dynamicByte byte = true)
    (known : Opcode.ofByte byte = some opcode) : dynamicOpcode opcode = true := by
  rw [← Opcode.code_of_ofByte known] at inRange
  cases opcode <;> first | rfl | exact absurd inRange (by decide)

/-! ## The call without its observation -/

/-- What follows the observation of the authentication state. -/
def afterSync (cfg : Config) (hmac : Hmac) (env : Env) (id : ContextId) (request : Frame)
    (w : World) : Frame × World :=
  let response := Frame.initResponse (some request)
  match baseCheck request with
  | .error status =>
    (response.setError status, discardForOpcode cfg id (env.clock .cleanup) request.opcode w)
  | .ok opcode => dispatch cfg hmac env id opcode request response w

theorem processFrame_eq (cfg : Config) (hmac : Hmac) (env : Env) (id : ContextId)
    (request : Frame) (w : World) :
    processFrame cfg hmac env id request w =
      afterSync cfg hmac env id request (syncAuthState cfg env id w) := by
  unfold processFrame afterSync
  rfl

/-! ## What stays -/

/-- Nothing but the dynamic store, the timeout and the dynamic upload of the
context changed. -/
structure Confined (id : ContextId) (w w' : World) : Prop where
  only : DynamicOnly w w'
  uploads : ∀ kind, kind ≠ .dynamic →
    (w'.contexts id).upload kind = (w.contexts id).upload kind
  others : ∀ other, other ≠ id → w'.contexts other = w.contexts other

theorem Confined.refl (id : ContextId) (w : World) : Confined id w w :=
  ⟨DynamicOnly.refl w, fun _ _ => rfl, fun _ _ => rfl⟩

theorem Confined.trans (first : Confined id w w') (second : Confined id w' w'') :
    Confined id w w'' := by
  constructor
  · exact ⟨second.only.auth.trans first.only.auth, second.only.settings.trans first.only.settings,
      second.only.slots.trans first.only.slots, second.only.calls.trans first.only.calls⟩
  · intro kind apart
    exact (second.uploads kind apart).trans (first.uploads kind apart)
  · intro other different
    exact (second.others other different).trans (first.others other different)

theorem withDynamic_confined (dynamic : DynamicStore) : Confined id w (w.withDynamic dynamic) :=
  ⟨⟨rfl, rfl, rfl, rfl⟩, fun _ _ => rfl, fun _ _ => rfl⟩

/-- An update of the dynamic fields of the context. -/
theorem modify_confined {f : Context → Context}
    (apart : ∀ c kind, kind ≠ .dynamic → (f c).upload kind = c.upload kind) :
    Confined id w (w.modify id f) := by
  constructor
  · exact ⟨rfl, rfl, rfl, rfl⟩
  · intro kind different
    rw [World.modify_contexts_self]
    exact apart _ kind different
  · intro other different
    exact World.modify_contexts_of_ne id other f w different

theorem clearDynamic_upload (c : Context) (kind : Kind) (apart : kind ≠ .dynamic) :
    c.clearDynamic.upload kind = c.upload kind := by
  cases kind with
  | set | passwordSet => rfl
  | dynamic => exact absurd rfl apart

theorem clearDynamic_confined (nowMs : Int) : Confined id w (w.clearDynamic cfg id nowMs) := by
  constructor
  · exact ⟨rfl, rfl, rfl, rfl⟩
  · intro kind apart
    rw [World.clearDynamic_contexts_self]
    exact clearDynamic_upload _ kind apart
  · intro other different
    exact World.clearDynamic_contexts_of_ne cfg id other nowMs w different

theorem finishDynamic_confined : Confined id w (finishDynamic id w) := by
  constructor
  · exact ⟨rfl, rfl, rfl, rfl⟩
  · intro kind apart
    simp only [finishDynamic, Function.update_self]
    exact clearDynamic_upload _ kind apart
  · intro other different
    simp [finishDynamic, different]

theorem refreshDynamicTimeout_confined : Confined id w (w.refreshDynamicTimeout id env).2 := by
  constructor
  · exact ⟨rfl, rfl, rfl, rfl⟩
  · intro kind apart
    rw [refreshDynamicTimeout_contexts_self]
    cases kind with
    | set | passwordSet => rfl
    | dynamic => exact absurd rfl apart
  · intro other different
    simp [World.refreshDynamicTimeout, World.modify_contexts_of_ne _ _ _ _ different]

theorem begun_confined : Confined id w (begun cfg env id request w) := by
  have started : Confined id (w.withDynamic (w.dynamic.beginSlot cfg request.slot.toNat
      request.totalLength (beginTtlSeconds request) (beginConsumes request)
      (env.clock .operation)).2) _ := modify_confined (f := startDynamic request) ?_
  · exact ((withDynamic_confined _).trans started).trans refreshDynamicTimeout_confined
  · intro c kind apart
    cases kind with
    | set | passwordSet => rfl
    | dynamic => exact absurd rfl apart

theorem dataReceived_confined : Confined id w (dataReceived cfg env id request w) := by
  refine (withDynamic_confined _).trans (modify_confined ?_)
  intro c kind apart
  cases kind with
  | set | passwordSet => rfl
  | dynamic => exact absurd rfl apart

theorem processDynamicBegin_confined :
    Confined id w (processDynamicBegin cfg env id request response w).2 := by
  rcases processDynamicBegin_cases cfg env id request response w with
    ⟨_, _, refused⟩ | ⟨_, _, _, _, failed⟩ | ⟨_, _, started⟩
  · rw [refused]
    exact clearDynamic_confined _
  · rw [failed]
    exact begun_confined.trans (clearDynamic_confined _)
  · rw [started]
    exact begun_confined

/-- DATA works on the store and on the dynamic upload of its context, whichever
way it ends. -/
theorem processDynamicData_confined :
    Confined id w (processDynamicData cfg env id request response w).2 := by
  rcases processDynamicData_cases cfg env id request response w with
    ⟨_, _, refused⟩ | ⟨_, _, _, _, refused⟩ | ⟨_, _, _, finished⟩ | ⟨_, _, _, _, failed⟩ |
    ⟨_, _, _, _, staged⟩
  · rw [refused]
    exact clearDynamic_confined _
  · rw [refused]
    exact (withDynamic_confined _).trans (clearDynamic_confined _)
  · rw [finished]
    exact dataReceived_confined.trans finishDynamic_confined
  · rw [failed]
    exact (dataReceived_confined.trans refreshDynamicTimeout_confined).trans
      (clearDynamic_confined _)
  · rw [staged]
    exact dataReceived_confined.trans refreshDynamicTimeout_confined

theorem processDynamicClear_confined :
    Confined id w (processDynamicClear cfg env id request response w).2 := by
  rcases processDynamicClear_cases cfg env id request response w with
    ⟨_, _, refused⟩ | ⟨_, cleared⟩
  · rw [refused]
    exact Confined.refl id w
  · rw [cleared]
    unfold slotCleared
    dsimp only
    split
    · exact (withDynamic_confined _).trans finishDynamic_confined
    · exact withDynamic_confined _

theorem discardForOpcode_confined {byte : UInt8} (nowMs : Int)
    (inRange : dynamicByte byte = true) :
    Confined id w (discardForOpcode cfg id nowMs byte w) := by
  unfold discardForOpcode
  split
  next known => exact absurd (dynamicOpcode_of_byte inRange known) (by decide)
  next known => exact absurd (dynamicOpcode_of_byte inRange known) (by decide)
  · exact clearDynamic_confined _
  · exact clearDynamic_confined _
  · exact Confined.refl id w

theorem afterSync_confined (inRange : dynamicByte request.opcode = true) :
    Confined id w (afterSync cfg hmac env id request w).2 := by
  unfold afterSync
  dsimp only
  cases checked : baseCheck request with
  | error status => exact discardForOpcode_confined _ inRange
  | ok opcode =>
    have dynamic := dynamicOpcode_of_byte inRange (baseCheck_opcode checked)
    cases opcode with
    | capabilities => exact Confined.refl id w
    | dynamicBegin => exact processDynamicBegin_confined
    | dynamicData => exact processDynamicData_confined
    | dynamicClear => exact processDynamicClear_confined
    | _ => exact absurd dynamic (by decide)

/-- The one change to the core: a session whose deadline a reading of the
observation has passed is dropped, with its challenge. -/
def SessionKept (env : Env) (core core' : AuthCore.State) : Prop :=
  core' = core ∨
    (core.sessionActive = true ∧
      (core.sessionDeadlineMs ≤ env.clock .syncState ∨
        core.sessionDeadlineMs ≤ env.clock .syncSession) ∧
      core' = AuthCore.clearChallenge (AuthCore.clearSession core))

/-- Looking at the session drops it when it has expired, and does nothing
else. -/
theorem observedSession_kept (env : Env) (core : AuthCore.State) :
    SessionKept env core (observedSession env core).2 := by
  unfold observedSession
  dsimp only
  rcases AuthCore.expireSession_cases (env.clock .syncState) core with
    ⟨same, _⟩ | ⟨dropped, active, expired⟩
  · rw [same]
    split
    · unfold AuthCore.isAuthenticated
      dsimp only
      rcases AuthCore.expireSession_cases (env.clock .syncSession) core with
        ⟨same, _⟩ | ⟨dropped, active, expired⟩
      · exact Or.inl same
      · exact Or.inr ⟨active, Or.inr expired, dropped⟩
    · exact Or.inl rfl
  · have idle : AuthCore.expireSession (env.clock .syncSession)
        (AuthCore.clearChallenge (AuthCore.clearSession core)) =
          AuthCore.clearChallenge (AuthCore.clearSession core) := by
      unfold AuthCore.expireSession
      exact if_pos (Or.inl rfl)
    refine Or.inr ⟨active, Or.inl expired, ?_⟩
    rw [dropped]
    split
    · exact idle
    · rfl

/-- What a dynamic frame leaves alone. `calls` lists the store and credential
calls, the only ones that write or delete a setting. -/
structure Separate (env : Env) (id : ContextId) (w w' : World) : Prop where
  slots : w'.slots = w.slots
  settings : w'.settings = w.settings
  calls : w'.calls = w.calls
  credential : w'.auth.credential = w.auth.credential
  failureCount : w'.auth.failureCount = w.auth.failureCount
  cooldown : w'.auth.cooldownDeadlineMs = w.auth.cooldownDeadlineMs
  session : SessionKept env w.auth w'.auth
  uploads : ¬ Stale env w.auth (w.contexts id) → ∀ kind, kind ≠ .dynamic →
    (w'.contexts id).upload kind = (w.contexts id).upload kind
  others : ∀ other, other ≠ id → w'.contexts other = w.contexts other

theorem syncAuthState_others (different : other ≠ id) :
    (syncAuthState cfg env id w).contexts other = w.contexts other := by
  rcases syncAuthState_cases cfg env id w with ⟨_, synced⟩ | ⟨_, synced⟩
  · rw [synced, World.modify_contexts_of_ne _ _ _ _ different,
      World.clearDynamic_contexts_of_ne _ _ _ _ _ different]
    unfold World.clearPasswordSet World.clearSet
    rw [World.modify_contexts_of_ne _ _ _ _ different,
      World.modify_contexts_of_ne _ _ _ _ different]
    rfl
  · rw [synced, World.modify_contexts_of_ne _ _ _ _ different]
    rfl

/-- Everything a frame with such an opcode does: a look at the core, a discard
if the look brought news, and the handler, which is confined to dynamic
things. -/
theorem processFrame_separate (cfg : Config) (hmac : Hmac) (env : Env) (id : ContextId)
    (w : World) (inRange : dynamicByte request.opcode = true) :
    Separate env id w (processFrame cfg hmac env id request w).2 := by
  have confined : Confined id (syncAuthState cfg env id w)
      (processFrame cfg hmac env id request w).2 := by
    rw [processFrame_eq]
    exact afterSync_confined inRange
  have auth := confined.only.auth.trans (syncAuthState_auth cfg env id w)
  have looked := observedSession_looked env w.auth
  constructor
  · exact confined.only.slots.trans (syncAuthState_slots cfg env id w)
  · exact confined.only.settings.trans (syncAuthState_settings cfg env id w)
  · exact confined.only.calls.trans (syncAuthState_calls cfg env id w)
  · rw [auth]
    exact looked.credential
  · rw [auth]
    exact looked.failureCount
  · rw [auth]
    rcases looked with same | ⟨_, dropped⟩
    · rw [same]
    · rw [dropped]
      rfl
  · rw [auth]
    exact observedSession_kept env w.auth
  · intro fresh kind apart
    rw [confined.uploads kind apart]
    rcases syncAuthState_uploads cfg env id w kind with ⟨stale, _⟩ | ⟨_, same⟩
    · exact absurd stale fresh
    · exact same
  · intro other different
    exact (confined.others other different).trans (syncAuthState_others different)

/-- No result of a settings call reaches a dynamic frame. -/
theorem processFrame_storage (cfg : Config) (hmac : Hmac) (env : Env) (id : ContextId) (w : World)
    (inRange : dynamicByte request.opcode = true) (saveErr deleteErr : Int) :
    processFrame cfg hmac { env with saveErr := saveErr, deleteErr := deleteErr } id request w =
      processFrame cfg hmac env id request w := by
  unfold processFrame
  dsimp only
  cases checked : baseCheck request with
  | error status => rfl
  | ok opcode =>
    have dynamic := dynamicOpcode_of_byte inRange (baseCheck_opcode checked)
    cases opcode with
    | capabilities | dynamicBegin | dynamicData | dynamicClear => rfl
    | _ => exact absurd dynamic (by decide)

/-! ## Another core -/

/-- What each context has recorded of the core. -/
abbrev Records := ContextId → Bool × AuthState × Bool

/-- A context with another memory of the core: known, state, session. -/
def withRecord (record : Bool × AuthState × Bool) (c : Context) : Context :=
  { c with authStateKnown := record.1
           authState := record.2.1
           authSessionAuthenticated := record.2.2 }

/-- The same device with another core, and contexts that observed another
one. -/
def recast (auth : AuthCore.State) (records : Records) (w : World) : World :=
  { w with auth := auth, contexts := fun id => withRecord (records id) (w.contexts id) }

/-- The result of a frame, moved to a world with another core and other
memories of it. -/
def onRecast (auth : AuthCore.State) (records : Records) (result : Frame × World) :
    Frame × World :=
  (result.1, recast auth records result.2)

section Recast
variable (auth : AuthCore.State) (records : Records)

theorem recast_recast (auth' : AuthCore.State) (records' : Records) (w : World) :
    recast auth' records' (recast auth records w) = recast auth' records' w := rfl

theorem recast_update (f : Context → Context)
    (commutes : ∀ c record, f (withRecord record c) = withRecord record (f c)) (w : World) :
    Function.update (recast auth records w).contexts id (f ((recast auth records w).contexts id)) =
      fun other => withRecord (records other)
        (Function.update w.contexts id (f (w.contexts id)) other) := by
  funext other
  by_cases same : other = id
  · subst same
    simp only [Function.update_self]
    exact commutes _ _
  · simp only [Function.update_of_ne same]
    rfl

theorem recast_modify (f : Context → Context)
    (commutes : ∀ c record, f (withRecord record c) = withRecord record (f c)) (w : World) :
    (recast auth records w).modify id f = recast auth records (w.modify id f) := by
  unfold World.modify
  rw [recast_update auth records f commutes]
  rfl

theorem recast_clearDynamic (nowMs : Int) (w : World) :
    (recast auth records w).clearDynamic cfg id nowMs =
      recast auth records (w.clearDynamic cfg id nowMs) := by
  unfold World.clearDynamic
  rw [recast_update auth records Context.clearDynamic fun _ _ => rfl]
  rfl

theorem recast_finishDynamic (w : World) :
    finishDynamic id (recast auth records w) = recast auth records (finishDynamic id w) := by
  unfold finishDynamic
  rw [recast_update auth records Context.clearDynamic fun _ _ => rfl]
  rfl

theorem recast_refreshDynamicTimeout (env : Env) (id : ContextId) (w : World) :
    (recast auth records w).refreshDynamicTimeout id env =
      ((w.refreshDynamicTimeout id env).1,
        recast auth records (w.refreshDynamicTimeout id env).2) := by
  unfold World.refreshDynamicTimeout
  dsimp only
  rw [recast_modify auth records _ fun _ _ => rfl]
  rfl

theorem recast_begun (w : World) :
    begun cfg env id request (recast auth records w) =
      recast auth records (begun cfg env id request w) := by
  have started := recast_refreshDynamicTimeout auth records env id
    ((w.withDynamic (w.dynamic.beginSlot cfg request.slot.toNat request.totalLength
      (beginTtlSeconds request) (beginConsumes request) (env.clock .operation)).2).modify id
        (startDynamic request))
  rw [← recast_modify auth records _ fun _ _ => rfl] at started
  exact congrArg Prod.snd started

theorem recast_dataReceived (w : World) :
    dataReceived cfg env id request (recast auth records w) =
      recast auth records (dataReceived cfg env id request w) := by
  unfold dataReceived
  rw [← recast_modify auth records _ fun _ _ => rfl]
  rfl

theorem processDynamicBegin_recast (w : World) :
    processDynamicBegin cfg env id request response (recast auth records w) =
      onRecast auth records (processDynamicBegin cfg env id request response w) := by
  cases checked : Foundations.Checks.firstFailure (beginChecks cfg request) with
  | some status =>
    unfold processDynamicBegin
    simp only [checked, recast_clearDynamic]
    rfl
  | none =>
    rw [processDynamicBegin_of_passed checked, processDynamicBegin_of_passed checked,
      recast_begun, recast_clearDynamic]
    split
    · rfl
    · rfl

/-- The handler reads neither the core nor the memory of it, so it does the
same on a recast world. -/
theorem processDynamicData_recast (w : World) :
    processDynamicData cfg env id request response (recast auth records w) =
      onRecast auth records (processDynamicData cfg env id request response w) := by
  cases checked : Foundations.Checks.firstFailure (dataChecks cfg request (w.contexts id)) with
  | some status =>
    have checked' : Foundations.Checks.firstFailure
        (dataChecks cfg request ((recast auth records w).contexts id)) = some status := checked
    unfold processDynamicData
    simp only [checked, checked', recast_clearDynamic]
    rfl
  | none =>
    have taken : dataAppend cfg env request (recast auth records w) =
      dataAppend cfg env request w := rfl
    have total : ((recast auth records w).contexts id).dynamicTotalLength =
      (w.contexts id).dynamicTotalLength := rfl
    have cancelled : (recast auth records w).withDynamic (dataAppend cfg env request w).2 =
      recast auth records (w.withDynamic (dataAppend cfg env request w).2) := rfl
    rw [processDynamicData_of_passed checked,
      processDynamicData_of_passed (w := recast auth records w) checked]
    simp only [taken, total, cancelled, recast_dataReceived, recast_refreshDynamicTimeout,
      recast_clearDynamic, recast_finishDynamic]
    split
    · rfl
    · split
      · rfl
      · split
        · rfl
        · rfl

theorem processDynamicClear_recast (w : World) :
    processDynamicClear cfg env id request response (recast auth records w) =
      onRecast auth records (processDynamicClear cfg env id request response w) := by
  unfold processDynamicClear
  dsimp only
  split
  · rfl
  · split
    · rfl
    · have cleared : (recast auth records w).withDynamic ((recast auth records w).dynamic.clearSlot
          cfg request.slot.toNat (env.clock .rearm)) = recast auth records (w.withDynamic
            (w.dynamic.clearSlot cfg request.slot.toNat (env.clock .rearm))) := rfl
      rw [cleared, recast_finishDynamic]
      refine congrArg (Prod.mk _) ?_
      exact (apply_ite (recast auth records) _ _ _).symm

theorem discardForOpcode_recast {byte : UInt8} (nowMs : Int) (inRange : dynamicByte byte = true)
    (w : World) :
    discardForOpcode cfg id nowMs byte (recast auth records w) =
      recast auth records (discardForOpcode cfg id nowMs byte w) := by
  unfold discardForOpcode
  split
  next known => exact absurd (dynamicOpcode_of_byte inRange known) (by decide)
  next known => exact absurd (dynamicOpcode_of_byte inRange known) (by decide)
  · exact recast_clearDynamic auth records nowMs w
  · exact recast_clearDynamic auth records nowMs w
  · rfl

/-- After the look at the core nothing depends on it. CAPABILITIES and the
refusals are included. -/
theorem afterSync_recast (inRange : dynamicByte request.opcode = true) (w : World) :
    afterSync cfg hmac env id request (recast auth records w) =
      onRecast auth records (afterSync cfg hmac env id request w) := by
  unfold afterSync
  dsimp only
  cases checked : baseCheck request with
  | error status =>
    refine congrArg (Prod.mk _) ?_
    exact discardForOpcode_recast auth records _ inRange w
  | ok opcode =>
    have dynamic := dynamicOpcode_of_byte inRange (baseCheck_opcode checked)
    cases opcode with
    | capabilities => rfl
    | dynamicBegin => exact processDynamicBegin_recast auth records w
    | dynamicData => exact processDynamicData_recast auth records w
    | dynamicClear => exact processDynamicClear_recast auth records w
    | _ => exact absurd dynamic (by decide)

end Recast

/-- An observation that agrees with the record changes the core and the record
only. -/
theorem syncAuthState_recast (cfg : Config) (fresh : ¬ Stale env w.auth (w.contexts id)) :
    ∃ auth records, syncAuthState cfg env id w = recast auth records w := by
  rcases syncAuthState_cases cfg env id w with ⟨stale, _⟩ | ⟨_, synced⟩
  · exact absurd stale fresh
  · let records : Records := Function.update (fun other => (w.contexts other).record) id
      (true, w.auth.state, (observedSession env w.auth).1)
    have contexts : Function.update w.contexts id
        ((w.contexts id).observe w.auth.state (observedSession env w.auth).1) =
          fun other => withRecord (records other) (w.contexts other) := by
      funext other
      by_cases same : other = id
      · subst same
        simp only [records, Function.update_self]
        rfl
      · simp only [records, Function.update_of_ne same]
        rfl
    refine ⟨(observedSession env w.auth).2, records, ?_⟩
    rw [synced]
    unfold recast World.modify
    rw [← contexts]
    rfl

/-! ## Every sequence of dynamic frames -/

/-- A frame on a context whose record is up to date. -/
def SteadyStep (cfg : Config) (hmac : Hmac) (w : World) (exchange : Exchange) (w' : World) : Prop :=
  FrameStep cfg hmac w exchange w' ∧ ¬ Stale exchange.env w.auth (w.contexts exchange.id)

/-- The answer and the effect of such a frame, beside whatever core and
records. -/
theorem SteadyStep.of_recast {exchange : Exchange} (step : SteadyStep cfg hmac w exchange w')
    (inRange : dynamicByte exchange.request.opcode = true) {auth : AuthCore.State}
    {records : Records} {base : World} (same : w = recast auth records base) :
    ∃ auth' records', (exchange.response, w') = onRecast auth' records'
      (afterSync cfg hmac exchange.env exchange.id exchange.request base) := by
  obtain ⟨taken, fresh⟩ := step
  obtain ⟨auth', records', synced⟩ := syncAuthState_recast cfg fresh
  refine ⟨auth', records', ?_⟩
  rw [← taken, processFrame_eq, synced, same, recast_recast]
  exact afterSync_recast auth' records' inRange base

/-- Two steady runs on the same frames, from states that differ in the core
and the records only, answer alike and end in states that differ in nothing
else. -/
theorem same_uploads {start start' final final' : World} {events events' : List Exchange}
    {auth : AuthCore.State} {records : Records}
    (run : Run (SteadyStep cfg hmac) start events final)
    (run' : Run (SteadyStep cfg hmac) start' events' final')
    (differ : start' = recast auth records start)
    (sameInputs : events.map Exchange.input = events'.map Exchange.input)
    (dynamic : ∀ exchange ∈ events, dynamicByte exchange.request.opcode = true) :
    events = events' ∧ ∃ auth records, final' = recast auth records final := by
  refine run.lockstep run' (fun s t => ∃ auth records, t = recast auth records s)
    ⟨auth, records, differ⟩ sameInputs dynamic ?_
  rintro s t first second s' t' ⟨auth, records, related⟩ same inRange step step'
  obtain ⟨id, env, request, response⟩ := first
  obtain ⟨id', env', request', response'⟩ := second
  cases same
  have unchanged : s = recast s.auth (fun other => (s.contexts other).record) s := rfl
  obtain ⟨auth₁, records₁, left⟩ := step.of_recast inRange unchanged
  obtain ⟨auth₂, records₂, right⟩ := step'.of_recast inRange related
  obtain ⟨answer, world⟩ := Prod.mk.inj left
  obtain ⟨answer', world'⟩ := Prod.mk.inj right
  refine ⟨?_, auth₂, records₂, ?_⟩
  · dsimp only at answer answer'
    rw [answer, answer']
  · rw [world', world, recast_recast]

/-- A frame with an opcode from 0x20 to 0x23, well formed or not, writes
nothing of the static store and of authentication, at most drops a session that
has expired, and keeps the other uploads of its context unless the observation
is news. And two runs of such frames on up to date records, from states that
differ in the core and the records only, give the same responses and leave the
same dynamic store. -/
theorem dynamic_separation (cfg : Config) (hmac : Hmac) :
    (∀ (env : Env) (id : ContextId) (request : Frame) (w : World),
      dynamicByte request.opcode = true →
      Separate env id w (processFrame cfg hmac env id request w).2 ∧
      ∀ saveErr deleteErr,
        processFrame cfg hmac { env with saveErr := saveErr, deleteErr := deleteErr } id request w =
          processFrame cfg hmac env id request w) ∧
    (∀ (start final final' : World) (auth : AuthCore.State) (records : Records)
      (events events' : List Exchange),
      Run (SteadyStep cfg hmac) start events final →
      Run (SteadyStep cfg hmac) (recast auth records start) events' final' →
      (∀ exchange ∈ events, dynamicByte exchange.request.opcode = true) →
      events.map Exchange.input = events'.map Exchange.input →
      events.map Exchange.response = events'.map Exchange.response ∧
        final'.dynamic = final.dynamic) := by
  constructor
  · intro env id request w inRange
    exact ⟨processFrame_separate cfg hmac env id w inRange,
      processFrame_storage cfg hmac env id w inRange⟩
  · intro start final final' auth records events events' run run' dynamic sameInputs
    obtain ⟨same, _, _, related⟩ := same_uploads run run' rfl sameInputs dynamic
    rw [same, related]
    exact ⟨rfl, rfl⟩

def sampleRecast : World → World :=
  recast (AuthCore.setCredentialActivate AuthCore.sampleCredential .boot)
    fun _ => (false, .stateOpen, false)

def sampleBegin : Frame := .build .dynamicBegin 7 1 0 2 []

def sampleData : Frame := .build .dynamicData 7 1 0 2 [72, 105]

def sampleBegun (w : World) : World :=
  (processFrame .default AuthCore.sampleHmac (.still 5) 0 sampleBegin w).2

def sampleEnded (w : World) : World :=
  (processFrame .default AuthCore.sampleHmac (.still 9) 0 sampleData (sampleBegun w)).2

theorem sample_run (w : World) (fresh : ¬ Stale (.still 5) w.auth (w.contexts 0))
    (fresh' : ¬ Stale (.still 9) (sampleBegun w).auth ((sampleBegun w).contexts 0)) :
    Run (SteadyStep .default AuthCore.sampleHmac) w
      ([exchangeOf .default AuthCore.sampleHmac 0 (.still 5) sampleBegin w] ++
        [exchangeOf .default AuthCore.sampleHmac 0 (.still 9) sampleData (sampleBegun w)])
      (sampleEnded w) :=
  (Run.single ⟨exchangeOf_step .., fresh⟩).snoc ⟨exchangeOf_step .., fresh'⟩

/-- A BEGIN and its only DATA, on an OPEN device and on one locked by a
credential. -/
theorem dynamic_separation_sample :
    (sampleEnded (sampleRecast (.boot .default .empty))).dynamic =
      (sampleEnded (.boot .default .empty)).dynamic ∧
    ((sampleEnded (.boot .default .empty)).dynamic.slots 1).committedLength = 2 ∧
    (sampleBegun (sampleRecast (.boot .default .empty))).auth.credential =
      AuthCore.sampleCredential := by
  obtain ⟨frames, runs⟩ := dynamic_separation .default AuthCore.sampleHmac
  have left := sample_run (.boot .default .empty) (by unfold Stale; decide)
    (by unfold Stale; decide)
  have right := sample_run (sampleRecast (.boot .default .empty)) (by unfold Stale; decide)
    (by unfold Stale; decide)
  have same := runs (.boot .default .empty) _ _ _ _ _ _ left right (by decide)
    (by simp only [List.map_append, List.map_cons, List.map_nil, Exchange.input, exchangeOf])
  have separate := (frames (.still 5) 0 sampleBegin (sampleRecast (.boot .default .empty))
    (by decide)).1
  exact ⟨same.2, by decide, separate.credential⟩

end RuntimeMacro.Guarantees.DynamicSeparation
