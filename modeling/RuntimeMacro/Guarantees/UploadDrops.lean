import RuntimeMacro.Source.PasswordFrames
import RuntimeMacro.Source.WorldRuns

/-!
# What drops an unfinished dynamic upload

runtime_macro_protocol.c:162-172,650-710,1104-1264;
docs/DYNAMIC_PROTOCOL.md:344-368. The documented reasons end an upload: its own
frames, LOCK, a successful AUTH_PROVE or PASSWORD_SET, a change of the
authentication state and the deadline of the old text. The context-wide discard
of the error paths ends it as well: when the gate refuses a management frame,
when an AUTH_PROVE fails, and when the settings deny a PASSWORD_SET.
-/
namespace RuntimeMacro.Guarantees.UploadDrops
open Source Source.Protocol Foundations.Runs
open AuthCore (Hmac Looked)

variable {cfg : Config} {hmac : Hmac} {env : Env} {id : ContextId} {slot : Nat}
  {request response : Frame} {w w' w'' : World}

/-! ## The upload and the documented reasons -/

/-- The context and the store are in the middle of an upload to the slot. -/
structure Uploading (id : ContextId) (slot : Nat) (w : World) : Prop where
  active : (w.contexts id).dynamicActive = true
  target : (w.contexts id).dynamicSlot = slot
  staged : w.dynamic.stagingActive = true
  aimed : w.dynamic.stagingSlot = slot

/-- The staging of the store and the identity in the context are as they
were. -/
structure Untouched (id : ContextId) (w w' : World) : Prop where
  staging : w'.dynamic.stagingOf = w.dynamic.stagingOf
  identity : (w'.contexts id).upload .dynamic = (w.contexts id).upload .dynamic

/-- An AUTH_PROVE that reaches the check of its proof. -/
def proofShaped (request : Frame) : Bool :=
  request.slot == listSlot && request.offset == 0 &&
    request.totalLength == AuthCore.proofSize && request.payloadLength == AuthCore.proofSize

/-- The chunk carries the last bytes of a PASSWORD_SET object. -/
def completes (request : Frame) : Bool :=
  request.offset + request.payloadLength == passwordSetLength

/-- The lookups of the session a call can make after its observation and before
a discard. A management frame passes the gate and refreshes the session behind
its handler. The chunk that completes a PASSWORD_SET object has the session
checked by the core and refreshes nothing. -/
def lookups (request : Frame) : List Site :=
  match baseCheck request with
  | .error _ => []
  | .ok .authProve => if proofShaped request then [.operation] else []
  | .ok .passwordSet =>
    if completes request then [.gateState, .gateSession, .operation]
    else [.gateState, .gateSession, .refreshState, .refreshSession]
  | .ok opcode =>
    if manages opcode then [.gateState, .gateSession, .refreshState, .refreshSession] else []

/-- The call finds another state or session than it was last observed: at
its observation, or because the session it observed lapses before a later
lookup. -/
def ObservesChange (env : Env) (id : ContextId) (request : Frame) (w : World) : Prop :=
  Stale env w.auth (w.contexts id) ∨
    ((observedSession env w.auth).1 = true ∧
      ∃ site ∈ lookups request, w.auth.sessionDeadlineMs ≤ env.clock site)

/-- The readings of the clock by which a call clears what is due: every discard
has one of its own, and so have the operations of the store. -/
def expirySites (request : Frame) : List Site :=
  match Opcode.ofByte request.opcode with
  | some .dynamicBegin | some .dynamicData => [.syncDiscard, .operation, .cleanup]
  | some .authProve | some .lock => [.syncDiscard, .cleanup]
  | some .passwordSet => [.syncDiscard, .gateDiscard, .cleanup, .refreshDiscard]
  | some .list | some .get | some .set | some .clear =>
    [.syncDiscard, .gateDiscard, .refreshDiscard]
  | _ => [.syncDiscard]

/-- The old text of the slot reached its deadline, by a reading of the call. -/
def OldTextDue (env : Env) (slot : Nat) (request : Frame) (w : World) : Prop :=
  ∃ site ∈ expirySites request,
    DynamicStore.due (env.clock site) (w.dynamic.slots slot) = true

/-- The reasons for which the protocol lets a frame drop the upload. -/
inductive Documented (env : Env) (id : ContextId) (slot : Nat) (w : World)
    (request response : Frame) : Prop
  | begin (known : Opcode.ofByte request.opcode = some .dynamicBegin)
  | data (known : Opcode.ofByte request.opcode = some .dynamicData)
  | clear (known : Opcode.ofByte request.opcode = some .dynamicClear)
      (aimed : request.slot.toNat = slot) (accepted : response.status = Status.ok.code)
  | lock (known : Opcode.ofByte request.opcode = some .lock)
      (accepted : response.status = Status.ok.code)
  | prove (known : Opcode.ofByte request.opcode = some .authProve)
      (accepted : response.status = Status.ok.code)
  | passwordSet (known : Opcode.ofByte request.opcode = some .passwordSet)
      (accepted : response.status = Status.ok.code)
      (complete : completes request = true)
  | observed (changed : ObservesChange env id request w)
  | expired (due : OldTextDue env slot request w)

/-! ## The discards beyond them -/

/-- A management frame meets a gate that was shut already when the call
observed it. -/
def GateRefuses (env : Env) (request : Frame) (w : World) : Prop :=
  w.auth.state ≠ .stateOpen ∧ (observedSession env w.auth).1 = false ∧
    ∃ opcode, baseCheck request = .ok opcode ∧ manages opcode = true

/-- What an AUTH_PROVE has to satisfy, against the core as the call observed
it. -/
structure ProofHolds (hmac : Hmac) (env : Env) (request : Frame) (core : AuthCore.State) :
    Prop where
  shaped : proofShaped request = true
  guarded : core.state = .stateProtected
  pending : (AuthCore.expireSession (env.clock .operation) core).challengeActive = true
  inTime : env.clock .operation < core.challengeDeadlineMs
  primitive : env.hmacFails = false
  proof : AuthCore.expectedProof hmac core.credential.key core.challenge =
    request.payload AuthCore.proofSize

/-- An AUTH_PROVE that passes the base check and whose proof is not
accepted. -/
def ProofFails (hmac : Hmac) (env : Env) (request : Frame) (w : World) : Prop :=
  baseCheck request = .ok .authProve ∧ ¬ ProofHolds hmac env request (observedSession env w.auth).2

/-- The frame completes a PASSWORD_SET object that is a credential, and the
settings answer its save with -EACCES. -/
def SaveDenied (env : Env) (id : ContextId) (request : Frame) (w : World) : Prop :=
  baseCheck request = .ok .passwordSet ∧ env.saveErr = -eacces ∧
    ∃ c, PasswordSetAccepted request (w.contexts id) c ∧
      c.passwordSetReceivedLength = c.passwordSetTotalLength ∧
      AuthCore.credentialIsValid (stagedCredential c.passwordSetStaging) = true

/-! ## Frames that leave the upload alone -/

theorem Untouched.refl (id : ContextId) (w : World) : Untouched id w w := ⟨rfl, rfl⟩

theorem Untouched.trans (first : Untouched id w w') (second : Untouched id w' w'') :
    Untouched id w w'' :=
  ⟨second.staging.trans first.staging, second.identity.trans first.identity⟩

theorem modify_untouched {f : Context → Context}
    (apart : (f (w.contexts id)).upload .dynamic = (w.contexts id).upload .dynamic) :
    Untouched id w (w.modify id f) :=
  ⟨rfl, by rw [World.modify_contexts_self]; exact apart⟩

theorem syncAuthState_untouched (cfg : Config) (fresh : ¬ Stale env w.auth (w.contexts id)) :
    Untouched id w (syncAuthState cfg env id w) := by
  rcases syncAuthState_cases cfg env id w with ⟨stale, _⟩ | ⟨_, synced⟩
  · exact absurd stale fresh
  · rw [synced]
    refine ⟨rfl, ?_⟩
    rw [World.modify_contexts_self]
    rfl

theorem setAccepted_upload {c c' : Context} (accepted : SetAccepted cfg request c c') :
    c'.upload .dynamic = c.upload .dynamic := by
  obtain ⟨_, ⟨_, rfl⟩ | ⟨_, rfl⟩⟩ := accepted
  · rfl
  · rfl

theorem passwordSetAccepted_upload {c c' : Context} (accepted : PasswordSetAccepted request c c') :
    c'.upload .dynamic = c.upload .dynamic := by
  obtain ⟨_, ⟨_, rfl⟩ | ⟨_, rfl⟩⟩ := accepted
  · rfl
  · rfl

/-- A SET works on its own transaction and on the static slots. -/
theorem processSet_untouched :
    Untouched id w (processSet cfg env id request response w).2 := by
  rcases processSet_cases cfg env id request response w with
    ⟨_, _, result⟩ | ⟨c, accepted, ⟨_, result⟩ | ⟨_, result⟩⟩
  · rw [result]
    exact modify_untouched (f := .clearSet cfg) rfl
  · rw [result]
    exact modify_untouched (f := fun _ => c) (setAccepted_upload accepted)
  · have staged : Untouched id w (w.modify id fun _ => c) :=
      modify_untouched (f := fun _ => c) (setAccepted_upload accepted)
    obtain ⟨err, slots, settings, _, committed⟩ :=
      commitSet_eq cfg env id response (w.modify id fun _ => c)
    rw [result, committed]
    refine staged.trans ⟨rfl, ?_⟩
    rw [World.clearSet_contexts_self]
    rfl

theorem processClear_untouched :
    Untouched id w (processClear cfg env request response w).2 := by
  rcases processClear_cases cfg env request response w with ⟨_, _, _, result⟩ | ⟨_, result⟩
  · rw [result]
    exact Untouched.refl id w
  · rw [result]
    exact ⟨rfl, rfl⟩

/-- Clearing another slot leaves an upload alone, unless the old text of its
slot is due just then. -/
theorem processDynamicClear_untouched (uploading : Uploading id slot w)
    (elsewhere : request.slot.toNat ≠ slot) :
    Untouched id w (processDynamicClear cfg env id request response w).2 := by
  rcases processDynamicClear_cases cfg env id request response w with ⟨_, _, result⟩ | ⟨_, result⟩
  · rw [result]
    exact Untouched.refl id w
  · have other : ¬ ((w.contexts id).dynamicActive = true ∧
        (w.contexts id).dynamicSlot = request.slot.toNat) := by
      rintro ⟨_, same⟩
      exact elsewhere (same.symm.trans uploading.target)
    have unaimed : ¬ (w.dynamic.stagingActive = true ∧
        w.dynamic.stagingSlot = request.slot.toNat) := by
      rintro ⟨_, same⟩
      exact elsewhere (same.symm.trans uploading.aimed)
    rw [result]
    unfold slotCleared
    dsimp only
    split
    next hit => exact absurd hit other
    · refine ⟨?_, rfl⟩
      rw [World.withDynamic_dynamic]
      unfold DynamicStore.clearSlot
      split
      · rfl
      · rw [DynamicStore.rearmTtl_staging]
        unfold DynamicStore.expireSlot
        dsimp only
        split
        next hit => exact absurd hit unaimed
        · rfl

/-! ## A session that holds for the call -/

/-- The session the call observed outlives the readings. -/
def Holds (env : Env) (core : AuthCore.State) (sites : List Site) : Prop :=
  core.sessionActive = true ∧ ∀ site ∈ sites, env.clock site < core.sessionDeadlineMs

/-- Without a change the session observed on a protected device is there at
every lookup. -/
theorem holds_of_unchanged (unchanged : ¬ ObservesChange env id request w)
    (observed : (observedSession env w.auth).1 = true) :
    Holds env (observedSession env w.auth).2 (lookups request) := by
  have active : (observedSession env w.auth).2.sessionActive = true := by
    rw [observedSession_fst, Bool.and_eq_true] at observed
    exact observed.2
  have same := (observedSession_looked env w.auth).of_session active
  refine ⟨active, fun site member => ?_⟩
  rw [same]
  by_cases lapsed : w.auth.sessionDeadlineMs ≤ env.clock site
  · exact absurd (Or.inr ⟨observed, site, member, lapsed⟩) unchanged
  · omega

theorem lookups_gate {opcode : Opcode} {site : Site} (passed : baseCheck request = .ok opcode)
    (managing : manages opcode = true) (listed : site ∈ [Site.gateState, .gateSession]) :
    site ∈ lookups request := by
  simp only [List.mem_cons, List.not_mem_nil, or_false] at listed
  unfold lookups
  rw [passed]
  cases opcode <;> first | exact absurd managing (by decide) | skip
  case passwordSet =>
    dsimp only
    split <;> rcases listed with rfl | rfl <;> simp
  all_goals
    rcases listed with rfl | rfl <;> simp [manages]

theorem lookups_refresh {opcode : Opcode} {site : Site} (passed : baseCheck request = .ok opcode)
    (managing : manages opcode = true)
    (partly : opcode = .passwordSet → completes request = false)
    (listed : site ∈ [Site.refreshState, .refreshSession]) : site ∈ lookups request := by
  simp only [List.mem_cons, List.not_mem_nil, or_false] at listed
  unfold lookups
  rw [passed]
  cases opcode <;> first | exact absurd managing (by decide) | skip
  case passwordSet =>
    simp only [partly rfl]
    rcases listed with rfl | rfl <;> simp
  all_goals
    rcases listed with rfl | rfl <;> simp [manages]

theorem lookups_completing (passed : baseCheck request = .ok .passwordSet)
    (complete : completes request = true) : .operation ∈ lookups request := by
  unfold lookups
  simp [passed, complete]

theorem observed_of_unrefused {opcode : Opcode} (passed : baseCheck request = .ok opcode)
    (managing : manages opcode = true) (unrefused : ¬ GateRefuses env request w)
    (guarded : w.auth.state ≠ .stateOpen) : (observedSession env w.auth).1 = true := by
  cases seen : (observedSession env w.auth).1 with
  | true => rfl
  | false => exact absurd ⟨guarded, seen, opcode, passed, managing⟩ unrefused

/-- A session that was observed on a protected device is there at every
lookup. -/
theorem session_of_unrefused {opcode : Opcode} {site : Site}
    (passed : baseCheck request = .ok opcode) (managing : manages opcode = true)
    (unrefused : ¬ GateRefuses env request w) (unchanged : ¬ ObservesChange env id request w)
    (listed : site ∈ lookups request)
    (guarded : (observedSession env w.auth).2.state = .stateProtected) :
    (AuthCore.expireSession (env.clock site) (observedSession env w.auth).2).sessionActive =
      true := by
  have state := (observedSession_looked env w.auth).state
  have notOpen : w.auth.state ≠ .stateOpen := by
    rw [← state, guarded]
    decide
  have seen := observed_of_unrefused passed managing unrefused notOpen
  obtain ⟨active, alive⟩ := holds_of_unchanged unchanged seen
  rw [AuthCore.expireSession_of_alive (alive site listed)]
  exact active

/-- A management frame the observation lets in meets an open gate, and the
refresh behind its handler is in time unless the device is unprotected. -/
theorem gate_and_refresh {opcode : Opcode} (passed : baseCheck request = .ok opcode)
    (managing : manages opcode = true) (unrefused : ¬ GateRefuses env request w)
    (unchanged : ¬ ObservesChange env id request w) :
    GateOpen env (observedSession env w.auth).2 ∧
      ((opcode = .passwordSet → completes request = false) →
        (observedSession env w.auth).2.state = .stateProtected →
        RefreshInTime env (observedSession env w.auth).2) := by
  have state := (observedSession_looked env w.auth).state
  by_cases unprotected : w.auth.state = .stateOpen
  · refine ⟨Or.inl (state.trans unprotected), fun _ guarded => ?_⟩
    cases guarded.symm.trans (state.trans unprotected)
  · have observed := observed_of_unrefused passed managing unrefused unprotected
    have guarded : w.auth.state = .stateProtected := by
      rw [observedSession_fst, Bool.and_eq_true, decide_eq_true_eq] at observed
      exact observed.1
    obtain ⟨active, alive⟩ := holds_of_unchanged unchanged observed
    refine ⟨Or.inr ⟨state.trans guarded, active, ?_, ?_⟩, fun partly _ => ⟨active, ?_, ?_⟩⟩
    · exact alive .gateState (lookups_gate passed managing (by simp))
    · exact alive .gateSession (lookups_gate passed managing (by simp))
    · exact alive .refreshState (lookups_refresh passed managing partly (by simp))
    · exact alive .refreshSession (lookups_refresh passed managing partly (by simp))

theorem refreshProtectedSession_untouched
    (inTime : w.auth.state = .stateProtected → RefreshInTime env w.auth) :
    Untouched id w (refreshProtectedSession cfg env id response w).2 := by
  rcases refreshProtectedSession_cases cfg env id response w with
    ⟨_, _, _, result⟩ | ⟨_, _, result⟩ | ⟨guarded, lapsed, _⟩
  · rw [result]
    exact ⟨rfl, rfl⟩
  · rw [result]
    exact ⟨rfl, rfl⟩
  · exact absurd (inTime guarded) lapsed

/-- The core behind an open gate: the one in front of it if the device
is protected. -/
theorem inTime_behind {core auth : AuthCore.State} (looked : Looked core auth)
    (same : core.state = .stateProtected → auth = core)
    (inTime : core.state = .stateProtected → RefreshInTime env core) :
    auth.state = .stateProtected → RefreshInTime env auth := by
  intro guarded
  have before : core.state = .stateProtected := looked.state.symm.trans guarded
  rw [same before]
  exact inTime before

/-- Behind an open gate, and with the refresh in time, only the handler can
touch the upload. -/
theorem processManagement_untouched {handler : World → Frame × World}
    (opened : GateOpen env w.auth)
    (inTime : w.auth.state = .stateProtected → RefreshInTime env w.auth)
    (kept : ∀ w, Untouched id w (handler w).2) (apart : ∀ w, (handler w).2.auth = w.auth) :
    Untouched id w (processManagement cfg env id handler response w).2 := by
  obtain ⟨auth, looked, ⟨shut, _⟩ | ⟨_, same, result⟩⟩ :=
    processManagement_cases cfg env id handler response w
  · exact absurd opened shut
  · have handled : Untouched id w (handler (w.withAuth auth)).2 :=
      ⟨(kept (w.withAuth auth)).staging, (kept (w.withAuth auth)).identity⟩
    rw [result]
    unfold afterHandler
    split
    · apply handled.trans
      apply refreshProtectedSession_untouched
      rw [apart]
      exact inTime_behind looked same inTime
    · exact handled

/-! ## PASSWORD_SET -/

/-- -EACCES comes from a session that is gone, or from the save of a credential
that returned it. -/
theorem setCredential_denied {credential : AuthCore.Credential} {nowMs saveErr : Int}
    {core core' : AuthCore.State} {settings settings' : Settings}
    (set : AuthCore.setCredential (some credential) nowMs saveErr core settings =
      (-eacces, core', settings')) :
    (core.state = .stateProtected ∧ (AuthCore.expireSession nowMs core).sessionActive = false) ∨
      (saveErr = -eacces ∧ AuthCore.credentialIsValid credential = true) := by
  unfold AuthCore.setCredential at set
  dsimp only at set
  split at set
  · cases set
  next valid =>
    cases authorised : AuthCore.setCredentialAuthorise nowMs core with
    | mk err checked =>
      obtain ⟨_, outcome⟩ := AuthCore.setCredentialAuthorise_cases authorised
      simp only [authorised] at set
      split at set
      next refused =>
        cases set
        rcases outcome with ⟨locked, _⟩ | ⟨_, guarded, idle⟩ | ⟨granted, _⟩
        · cases locked
        · exact Or.inl ⟨guarded, idle⟩
        · cases granted
      next granted =>
        split at set
        next failed =>
          cases set
          exact Or.inr ⟨rfl, by simpa using valid⟩
        · cases set

/-- An accepted chunk completes the staged object exactly when it carries its
last bytes. -/
theorem passwordSetAccepted_completes {c c' : Context}
    (accepted : PasswordSetAccepted request c c') :
    completes request = true ↔ c'.passwordSetReceivedLength = c'.passwordSetTotalLength := by
  obtain ⟨received, total⟩ := passwordSetAccepted_final accepted
  rw [completes, beq_iff_eq, received, total]

/-- A PASSWORD_SET leaves the upload, unless a look at the session or the save
makes it discard the context. -/
theorem processPasswordSet_untouched
    (inTime : completes request = false →
      w.auth.state = .stateProtected → RefreshInTime env w.auth)
    (session : completes request = true → w.auth.state = .stateProtected →
      (AuthCore.expireSession (env.clock .operation) w.auth).sessionActive = true)
    (saved : ¬ (env.saveErr = -eacces ∧ ∃ c, PasswordSetAccepted request (w.contexts id) c ∧
      c.passwordSetReceivedLength = c.passwordSetTotalLength ∧
      AuthCore.credentialIsValid (stagedCredential c.passwordSetStaging) = true)) :
    Untouched id w (processPasswordSet cfg env id request response w).2 ∨
      ((processPasswordSet cfg env id request response w).1.status = Status.ok.code ∧
        completes request = true) := by
  rcases processPasswordSet_cases cfg env id request response w with
    ⟨_, _, result⟩ | ⟨c, accepted, ⟨unfinished, result⟩ | ⟨complete, result⟩⟩
  · rw [result]
    exact Or.inl (modify_untouched (f := .clearPasswordSet) rfl)
  · have staged : Untouched id w (w.modify id fun _ => c) :=
      modify_untouched (f := fun _ => c) (passwordSetAccepted_upload accepted)
    have partly : completes request = false := by
      rw [← Bool.not_eq_true, passwordSetAccepted_completes accepted]
      exact unfinished
    rw [result]
    exact Or.inl (staged.trans (refreshProtectedSession_untouched (inTime partly)))
  · have staged : Untouched id w (w.modify id fun _ => c) :=
      modify_untouched (f := fun _ => c) (passwordSetAccepted_upload accepted)
    have final := (passwordSetAccepted_completes accepted).2 complete
    obtain ⟨err, auth, settings, set, outcome⟩ :=
      commitPasswordSet_cases cfg env id response (w.modify id fun _ => c)
    have done : Untouched id (w.modify id fun _ => c)
        (passwordSetDone id err auth settings (w.modify id fun _ => c)) := by
      refine ⟨rfl, ?_⟩
      unfold passwordSetDone
      rw [World.clearPasswordSet_contexts_self]
      rfl
    rcases outcome with ⟨_, committed⟩ | ⟨_, committed⟩ | ⟨denied, _⟩ | ⟨_, committed⟩
    · rw [result, committed, Frame.status_setSuccess]
      exact Or.inr ⟨rfl, final⟩
    · rw [result, committed]
      exact Or.inl (staged.trans done)
    · rw [World.modify_contexts_self, denied] at set
      rcases setCredential_denied set with ⟨guarded, idle⟩ | ⟨unsaved, valid⟩
      · exact absurd ((session final guarded).symm.trans idle) (by decide)
      · exact absurd ⟨unsaved, c, accepted, complete, valid⟩ saved
    · rw [result, committed]
      exact Or.inl (staged.trans done)

/-- The recorded observation plays no part in a PASSWORD_SET chunk. -/
theorem passwordSetAccepted_observe {c c' : Context} {state : AuthCore.AuthState}
    {authenticated : Bool}
    (accepted : PasswordSetAccepted request (c.observe state authenticated) c') :
    ∃ before, PasswordSetAccepted request c before ∧ c' = before.observe state authenticated := by
  obtain ⟨valid, ⟨first, rfl⟩ | ⟨continues, rfl⟩⟩ := accepted
  · exact ⟨startPasswordSet request c, ⟨valid, Or.inl ⟨first, rfl⟩⟩, rfl⟩
  · have before : PasswordSetContinues request c :=
      ⟨continues.later, continues.active, continues.requestId, continues.total, continues.received⟩
    exact ⟨extendPasswordSet request c, ⟨valid, Or.inr ⟨before, rfl⟩⟩, rfl⟩

theorem syncAuthState_context (cfg : Config) (fresh : ¬ Stale env w.auth (w.contexts id)) :
    (syncAuthState cfg env id w).contexts id =
      (w.contexts id).observe w.auth.state (observedSession env w.auth).1 := by
  rcases syncAuthState_cases cfg env id w with ⟨stale, _⟩ | ⟨_, synced⟩
  · exact absurd stale fresh
  · rw [synced, World.modify_contexts_self]
    rfl

/-! ## The handlers -/

/-- A proof that holds is accepted: its challenge is alive and the HMAC
agrees. -/
theorem processAuthProve_holds (holds : ProofHolds hmac env request w.auth) :
    (processAuthProve cfg hmac env id request response w).1.status = Status.ok.code := by
  have shaped := holds.shaped
  simp only [proofShaped, Bool.and_eq_true, beq_iff_eq] at shaped
  obtain ⟨⟨⟨slot, offset⟩, total⟩, payload⟩ := shaped
  have alive := AuthCore.expireSession_of_challenge holds.pending
  have pending := holds.pending
  rw [alive] at pending
  have sized : (request.payload AuthCore.proofSize).length = AuthCore.proofSize :=
    Frame.payload_length _ (by decide)
  have verified : (AuthCore.verifyProof cfg hmac (some (request.payload AuthCore.proofSize))
      (env.clock .operation) env.hmacFails w.auth).1 = 0 := by
    unfold AuthCore.verifyProof
    dsimp only
    rw [if_neg (by simp [sized]), alive, if_neg (by simp [holds.guarded]),
      if_neg (by simp [holds.guarded]), if_neg (by simp [pending, holds.inTime]),
      if_neg (by simp [holds.primitive]), if_neg (by simp [holds.proof])]
  unfold processAuthProve
  dsimp only
  rw [if_neg (by simp [slot]), if_neg (by simp [offset, total, payload]),
    if_neg (by simp [verified]), Frame.status_setSuccess]

/-- Without a pending challenge no proof verifies. -/
theorem verifyProof_idle {proof : Option (List UInt8)} {nowMs : Int} {hmacFails : Bool}
    {core : AuthCore.State}
    (idle : (AuthCore.expireSession nowMs core).challengeActive = false) :
    (AuthCore.verifyProof cfg hmac proof nowMs hmacFails core).1 ≠ 0 := by
  unfold AuthCore.verifyProof
  cases proof with
  | none => exact (by decide : (-einval : Int) ≠ 0)
  | some bytes =>
    dsimp only
    split
    · exact (by decide : (-einval : Int) ≠ 0)
    · split
      · exact (by decide : (-enodata : Int) ≠ 0)
      · split
        · exact (by decide : (-eperm : Int) ≠ 0)
        · rw [if_pos (Or.inl idle)]
          exact (by decide : (-enoent : Int) ≠ 0)

/-- An AUTH_PROVE answered OK carried a proof that holds, for the challenge
that was outstanding. -/
theorem proofHolds_of_accepted
    (accepted : (processAuthProve cfg hmac env id request response w).1.status =
      Status.ok.code) : ProofHolds hmac env request w.auth := by
  unfold processAuthProve at accepted
  dsimp only at accepted
  split at accepted
  · rw [Frame.status_setError] at accepted
    cases accepted
  next slot =>
    split at accepted
    · rw [Frame.status_setError] at accepted
      cases accepted
    next shape =>
      split at accepted
      next failed =>
        rw [Frame.status_setError, Status.code_inj] at accepted
        exact absurd accepted (mapProofError_ne_ok _)
      next verified =>
        simp only [ne_eq, not_or, Decidable.not_not] at slot shape verified
        obtain ⟨offset, total, payload⟩ := shape
        have pending : (AuthCore.expireSession (env.clock .operation) w.auth).challengeActive =
            true := by
          cases active : (AuthCore.expireSession (env.clock .operation) w.auth).challengeActive with
          | true => rfl
          | false => exact absurd verified (verifyProof_idle active)
        cases outcome : AuthCore.verifyProof cfg hmac (some (request.payload AuthCore.proofSize))
          (env.clock .operation) env.hmacFails w.auth with
        | mk err auth =>
          rw [outcome] at verified
          dsimp only at verified
          rcases AuthCore.verifyProof_cases outcome with
            ⟨_, failed, _⟩ | ⟨bytes, same, _, guarded, _, inTime, checked⟩
          · exact absurd verified failed
          · cases same
            rcases checked with ⟨failed, _⟩ | ⟨failed, _⟩ | ⟨_, primitive, proof, _⟩
            · cases verified.symm.trans failed
            · cases verified.symm.trans failed
            · exact ⟨by simp [proofShaped, slot, offset, total, payload], guarded, pending,
                inTime, primitive, proof⟩

/-! ## Frames without a further discard -/

theorem discardForOpcode_untouched {byte : UInt8} (nowMs : Int)
    (foreign : Opcode.ofByte byte ≠ some .dynamicBegin ∧ Opcode.ofByte byte ≠ some .dynamicData) :
    Untouched id w (discardForOpcode cfg id nowMs byte w) := by
  unfold discardForOpcode
  split
  · exact modify_untouched (f := .clearSet cfg) rfl
  · exact modify_untouched (f := .clearPasswordSet) rfl
  next known => exact absurd known foreign.1
  next known => exact absurd known foreign.2
  · exact Untouched.refl id w

/-- What the handler of a frame does to the upload when the call neither
observes a change nor meets one of the further discards. -/
theorem dispatch_spared (cfg : Config) (hmac : Hmac) (env : Env) (response : Frame)
    (start : World) {opcode : Opcode} (uploading : Uploading id slot w)
    (passed : baseCheck request = .ok opcode)
    (opened : manages opcode = true → GateOpen env w.auth ∧
      ((opcode = .passwordSet → completes request = false) →
        w.auth.state = .stateProtected → RefreshInTime env w.auth))
    (session : opcode = .passwordSet → completes request = true →
      w.auth.state = .stateProtected →
      (AuthCore.expireSession (env.clock .operation) w.auth).sessionActive = true)
    (saved : opcode = .passwordSet → ¬ (env.saveErr = -eacces ∧
      ∃ c, PasswordSetAccepted request (w.contexts id) c ∧
        c.passwordSetReceivedLength = c.passwordSetTotalLength ∧
        AuthCore.credentialIsValid (stagedCredential c.passwordSetStaging) = true))
    (proven : opcode = .authProve → ProofHolds hmac env request w.auth) :
    Untouched id w (dispatch cfg hmac env id opcode request response w).2 ∨
      Documented env id slot start request
        (dispatch cfg hmac env id opcode request response w).1 := by
  have known := baseCheck_opcode passed
  cases opcode with
  | capabilities => exact Or.inl (Untouched.refl id w)
  | dynamicBegin => exact Or.inr (.begin known)
  | dynamicData => exact Or.inr (.data known)
  | dynamicClear =>
    by_cases aimed : request.slot.toNat = slot
    · rcases processDynamicClear_cases cfg env id request response w with
        ⟨_, _, result⟩ | ⟨_, result⟩
      · simp only [dispatch, result]
        exact Or.inl (Untouched.refl id w)
      · simp only [dispatch, result]
        exact Or.inr (.clear known aimed (Frame.status_setSuccess ..))
    · exact Or.inl (processDynamicClear_untouched uploading aimed)
  | authInfo =>
    obtain ⟨_, _, _, result⟩ := processAuthInfo_cases env request response w
    simp only [dispatch, result]
    exact Or.inl ⟨rfl, rfl⟩
  | authChallenge =>
    rcases processAuthChallenge_cases cfg env request response w with result | ⟨_, _, _, result⟩
    · simp only [dispatch, result]
      exact Or.inl (Untouched.refl id w)
    · simp only [dispatch, result]
      exact Or.inl ⟨rfl, rfl⟩
  | authProve => exact Or.inr (.prove known (processAuthProve_holds (proven rfl)))
  | lock =>
    rcases processLock_cases cfg env id request response w with result | result
    · simp only [dispatch, result]
      exact Or.inl (Untouched.refl id w)
    · simp only [dispatch, result]
      exact Or.inr (.lock known (Frame.status_setSuccess ..))
  | list =>
    obtain ⟨gate, inTime⟩ := opened rfl
    exact Or.inl (processManagement_untouched gate (inTime (by simp))
      (fun w => Untouched.refl id w) fun _ => rfl)
  | get =>
    obtain ⟨gate, inTime⟩ := opened rfl
    exact Or.inl (processManagement_untouched gate (inTime (by simp))
      (fun w => Untouched.refl id w) fun _ => rfl)
  | set =>
    obtain ⟨gate, inTime⟩ := opened rfl
    exact Or.inl (processManagement_untouched gate (inTime (by simp))
      (fun _ => processSet_untouched) fun _ => processSet_auth)
  | clear =>
    obtain ⟨gate, inTime⟩ := opened rfl
    exact Or.inl (processManagement_untouched gate (inTime (by simp))
      (fun _ => processClear_untouched) fun _ => processClear_auth)
  | passwordSet =>
    obtain ⟨gate, inTime⟩ := opened rfl
    obtain ⟨auth, looked, ⟨shut, _⟩ | ⟨_, same, result⟩⟩ := managementAccess_cases cfg env id w
    · exact absurd gate shut
    · have granted : dispatch cfg hmac env id .passwordSet request response w =
          processPasswordSet cfg env id request response (w.withAuth auth) := by
        simp only [dispatch, result]
        rw [if_neg (by simp)]
      have behind : completes request = true → auth.state = .stateProtected →
          (AuthCore.expireSession (env.clock .operation) auth).sessionActive = true := by
        intro complete guarded
        have before : w.auth.state = .stateProtected := looked.state.symm.trans guarded
        rw [same before]
        exact session rfl complete before
      have refreshes (partly : completes request = false) :=
        inTime_behind looked same (inTime fun _ => partly)
      rw [granted]
      rcases processPasswordSet_untouched (w := w.withAuth auth) refreshes behind (saved rfl) with
        kept | ⟨accepted, complete⟩
      · exact Or.inl ⟨kept.staging, kept.identity⟩
      · exact Or.inr (.passwordSet known accepted complete)

/-- Without a change and a further discard, an upload that a frame does not
leave alone ends for a documented reason. -/
theorem processFrame_spared (cfg : Config) (uploading : Uploading id slot w)
    (unchanged : ¬ ObservesChange env id request w) (unrefused : ¬ GateRefuses env request w)
    (proven : ¬ ProofFails hmac env request w) (saved : ¬ SaveDenied env id request w) :
    Untouched id w (processFrame cfg hmac env id request w).2 ∨
      Documented env id slot w request (processFrame cfg hmac env id request w).1 := by
  have fresh : ¬ Stale env w.auth (w.contexts id) := fun stale => unchanged (Or.inl stale)
  have synced := syncAuthState_untouched cfg fresh
  have observed := syncAuthState_context cfg fresh
  unfold processFrame
  dsimp only
  cases checked : baseCheck request with
  | error status =>
    by_cases begins : Opcode.ofByte request.opcode = some .dynamicBegin
    · exact Or.inr (.begin begins)
    · by_cases sends : Opcode.ofByte request.opcode = some .dynamicData
      · exact Or.inr (.data sends)
      · exact Or.inl (synced.trans (discardForOpcode_untouched _ ⟨begins, sends⟩))
  | ok opcode =>
    have uploading' : Uploading id slot (syncAuthState cfg env id w) := by
      constructor
      · rw [observed]
        exact uploading.active
      · rw [observed]
        exact uploading.target
      · exact (congrArg DynamicStore.Staging.active synced.staging).trans uploading.staged
      · exact (congrArg DynamicStore.Staging.slot synced.staging).trans uploading.aimed
    have core := syncAuthState_auth cfg env id w
    have handled := dispatch_spared cfg hmac env (Frame.initResponse (some request)) w uploading'
      checked ?_ ?_ ?_ ?_
    · rcases handled with kept | documented
      · exact Or.inl (synced.trans kept)
      · exact Or.inr documented
    · intro managing
      rw [core]
      exact gate_and_refresh checked managing unrefused unchanged
    · rintro rfl complete
      rw [core]
      exact session_of_unrefused checked rfl unrefused unchanged
        (lookups_completing checked complete)
    · rintro rfl ⟨denied, c, accepted, complete, valid⟩
      rw [observed] at accepted
      obtain ⟨before, taken, rfl⟩ := passwordSetAccepted_observe accepted
      exact saved ⟨checked, denied, before, taken, complete, valid⟩
    · rintro rfl
      rw [core]
      by_cases holds : ProofHolds hmac env request (observedSession env w.auth).2
      · exact holds
      · exact absurd ⟨checked, holds⟩ proven

/-! ## The further discards -/

/-- The context holds no upload, and the frame was not answered OK. -/
def Dropped (id : ContextId) (result : Frame × World) : Prop :=
  result.1.status ≠ Status.ok.code ∧ (result.2.contexts id).dynamicActive = false

theorem discarded {nowMs : Int} {status : Status} (failed : status ≠ .ok) :
    Dropped id (response.setError status, w.discard cfg id nowMs) := by
  constructor
  · simpa using failed
  · rw [World.discard_contexts_self]
    rfl

/-- A frame that is refused at the gate discards its context, whatever upload
is in it. -/
theorem dropped_of_gate (cfg : Config) (hmac : Hmac) (id : ContextId)
    (refused : GateRefuses env request w) :
    Dropped id (processFrame cfg hmac env id request w) := by
  obtain ⟨guarded, observed, opcode, checked, managing⟩ := refused
  have shut : ¬ GateOpen env (syncAuthState cfg env id w).auth := by
    rw [syncAuthState_auth]
    have state := (observedSession_looked env w.auth).state
    rw [observedSession_fst] at observed
    rintro (unprotected | ⟨there, active, _⟩)
    · exact guarded (state.symm.trans unprotected)
    · rw [active, Bool.and_true, decide_eq_false_iff_not] at observed
      exact observed (state.symm.trans there)
  obtain ⟨auth, _, result⟩ := dispatch_shut cfg hmac id request
    (Frame.initResponse (some request)) shut managing
  unfold processFrame
  simp only [checked, result]
  exact discarded (gateStatus_ne_ok _)

/-- So does a proof that is not accepted. -/
theorem dropped_of_proof (cfg : Config) (id : ContextId) (failing : ProofFails hmac env request w) :
    Dropped id (processFrame cfg hmac env id request w) := by
  obtain ⟨checked, unproven⟩ := failing
  have core := syncAuthState_auth cfg env id w
  rw [← core] at unproven
  unfold processFrame
  simp only [checked]
  constructor
  · intro accepted
    exact unproven (proofHolds_of_accepted accepted)
  · rcases processAuthProve_cases cfg hmac env id request (Frame.initResponse (some request))
      (syncAuthState cfg env id w) with ⟨_, _, result⟩ | ⟨_, _, _, result⟩
    · simp only [dispatch, result, World.discard_contexts_self]
      rfl
    · simp only [dispatch, result, World.discard_contexts_self]
      rfl

theorem passwordSetAccepted_observed {c c' : Context} (state : AuthCore.AuthState)
    (authenticated : Bool) (accepted : PasswordSetAccepted request c c') :
    PasswordSetAccepted request (c.observe state authenticated)
      (c'.observe state authenticated) := by
  obtain ⟨valid, ⟨first, rfl⟩ | ⟨continues, rfl⟩⟩ := accepted
  · exact ⟨valid, Or.inl ⟨first, rfl⟩⟩
  · exact ⟨valid, Or.inr ⟨⟨continues.later, continues.active, continues.requestId, continues.total,
      continues.received⟩, rfl⟩⟩

/-- The chunk that completes the object commits it. -/
theorem processPasswordSet_completes {c : Context}
    (accepted : PasswordSetAccepted request (w.contexts id) c)
    (complete : c.passwordSetReceivedLength = c.passwordSetTotalLength) :
    processPasswordSet cfg env id request response w =
      commitPasswordSet cfg env id response (w.modify id fun _ => c) := by
  rw [processPasswordSet_of_accepted accepted]
  rcases finishPasswordSet_cases cfg env id response w c with ⟨partly, _⟩ | ⟨_, result⟩
  · exact absurd complete partly
  · exact result

theorem commitPasswordSet_denied
    (denied : (AuthCore.setCredential (some (stagedCredential (w.contexts id).passwordSetStaging))
      (env.clock .operation) env.saveErr w.auth w.settings).1 = -eacces) :
    Dropped id (commitPasswordSet cfg env id response w) := by
  unfold commitPasswordSet
  dsimp only
  rw [denied, if_neg (by decide), if_neg (by decide), if_pos rfl]
  exact discarded (by decide)

/-- A save that is denied is answered AUTH_REQUIRED, and discards the context
like a missing session. -/
theorem dropped_of_save (cfg : Config) (hmac : Hmac) (unchanged : ¬ ObservesChange env id request w)
    (unrefused : ¬ GateRefuses env request w) (denied : SaveDenied env id request w) :
    Dropped id (processFrame cfg hmac env id request w) := by
  obtain ⟨checked, failed, c, accepted, complete, valid⟩ := denied
  have fresh : ¬ Stale env w.auth (w.contexts id) := fun stale => unchanged (Or.inl stale)
  have core := syncAuthState_auth cfg env id w
  have gate := (gate_and_refresh checked rfl unrefused unchanged).1
  rw [← core] at gate
  obtain ⟨auth, looked, ⟨shut, _⟩ | ⟨_, same, result⟩⟩ :=
    managementAccess_cases cfg env id (syncAuthState cfg env id w)
  · exact absurd gate shut
  · have taken := passwordSetAccepted_observed w.auth.state (observedSession env w.auth).1 accepted
    rw [← syncAuthState_context cfg fresh] at taken
    have unlocked : auth.state ≠ .stateErrorLocked := by
      rw [looked.state]
      rcases gate with unprotected | ⟨guarded, _⟩
      · rw [unprotected]
        decide
      · rw [guarded]
        decide
    have session : auth.state = .stateProtected →
        (AuthCore.expireSession (env.clock .operation) auth).sessionActive = true := by
      intro guarded
      have before := looked.state.symm.trans guarded
      rw [same before, core]
      rw [core] at before
      exact session_of_unrefused checked rfl unrefused unchanged
        (lookups_completing checked ((passwordSetAccepted_completes accepted).2 complete)) before
    unfold processFrame
    simp only [checked, dispatch, result]
    rw [if_neg (by simp), processPasswordSet_completes (w := World.withAuth auth _)
      (c := c.observe w.auth.state (observedSession env w.auth).1) taken complete]
    apply commitPasswordSet_denied
    rw [World.modify_contexts_self]
    have passed := AuthCore.setCredential_saved (syncAuthState cfg env id w).settings env.saveErr
      valid unlocked session
    exact passed.trans failed

/-- An upload that the frame drops is dropped as documented: the frame meets no
further discard, or a documented reason stands beside it. -/
def Spared (hmac : Hmac) (env : Env) (id : ContextId) (slot : Nat) (request : Frame)
    (w : World) : Prop :=
  (¬ GateRefuses env request w ∧ ¬ ProofFails hmac env request w ∧
      ¬ SaveDenied env id request w) ∨
    ObservesChange env id request w ∨ OldTextDue env slot request w

/-- A dropped upload is not as it was, and of the documented reasons only the
two that do not ask for an answer of OK or for a dynamic frame can account for
it. -/
theorem undocumented_of_dropped {result : Frame × World} {opcode : Opcode}
    (uploading : Uploading id slot w) (dropped : Dropped id result)
    (passed : baseCheck request = .ok opcode)
    (foreign : opcode ≠ .dynamicBegin ∧ opcode ≠ .dynamicData)
    (unchanged : ¬ ObservesChange env id request w) (kept : ¬ OldTextDue env slot request w) :
    ¬ (Untouched id w result.2 ∨ Documented env id slot w request result.1) := by
  have known := baseCheck_opcode passed
  obtain ⟨refused, idle⟩ := dropped
  rintro (untouched | documented)
  · have active := congrArg Upload.active untouched.identity
    exact absurd (idle.symm.trans (active.trans uploading.active)) (by decide)
  · cases documented with
    | begin known' => exact foreign.1 (Option.some.inj (known.symm.trans known'))
    | data known' => exact foreign.2 (Option.some.inj (known.symm.trans known'))
    | clear _ _ accepted => exact refused accepted
    | lock _ accepted => exact refused accepted
    | prove _ accepted => exact refused accepted
    | passwordSet _ accepted => exact refused accepted
    | observed changed => exact unchanged changed
    | expired due => exact kept due

/-- A frame leaves an unfinished upload alone or ends it for a documented
reason exactly when it meets none of the further discards, or such a reason is
there anyway. -/
theorem upload_dropped_as_documented (cfg : Config) (hmac : Hmac) (env : Env) (id : ContextId)
    (request : Frame) (w : World) (slot : Nat) (uploading : Uploading id slot w) :
    (Untouched id w (processFrame cfg hmac env id request w).2 ∨
      Documented env id slot w request (processFrame cfg hmac env id request w).1) ↔
        Spared hmac env id slot request w := by
  constructor
  · intro meets
    by_cases unchanged : ObservesChange env id request w
    · exact Or.inr (Or.inl unchanged)
    · by_cases kept : OldTextDue env slot request w
      · exact Or.inr (Or.inr kept)
      · have unrefused : ¬ GateRefuses env request w := by
          intro refused
          have dropped := dropped_of_gate cfg hmac id refused
          obtain ⟨_, _, opcode, passed, managing⟩ := refused
          refine undocumented_of_dropped uploading dropped passed ?_ unchanged kept meets
          cases opcode <;> first | decide | exact absurd managing (by decide)
        have proven : ¬ ProofFails hmac env request w := by
          intro failing
          have dropped := dropped_of_proof cfg id failing
          exact undocumented_of_dropped uploading dropped failing.1 (by decide) unchanged kept meets
        refine Or.inl ⟨unrefused, proven, fun denied => ?_⟩
        have dropped := dropped_of_save cfg hmac unchanged unrefused denied
        exact undocumented_of_dropped uploading dropped denied.1 (by decide) unchanged kept meets
  · rintro (⟨unrefused, proven, saved⟩ | changed | due)
    · by_cases unchanged : ObservesChange env id request w
      · exact Or.inr (.observed unchanged)
      · exact processFrame_spared cfg uploading unchanged unrefused proven saved
    · exact Or.inr (.observed changed)
    · exact Or.inr (.expired due)

/-! ## An upload on a protected device -/

def sampleSystem : AuthCore.System :=
  let outcome := AuthCore.setCredential (some AuthCore.sampleCredential) 0 0 .boot .empty
  ⟨outcome.2.1, outcome.2.2⟩

def sampleLocked : World := (World.boot .default .empty).withAuthSystem sampleSystem

def sampleBegin : Frame := .build .dynamicBegin 7 1 0 2 []

def sampleUploading : World :=
  (processFrame .default AuthCore.sampleHmac (.still 5) 0 sampleBegin sampleLocked).2

def sampleList : Frame := .build .list 8 listSlot 0 0 []

/-- An AUTH_PROVE that carries no proof. -/
def sampleProve : Frame := .build .authProve 9 listSlot 0 0 []

theorem sample_reachable :
    Run (WorldStep .default AuthCore.sampleHmac) (.boot .default .empty)
      ([.auth (.setCredential (some AuthCore.sampleCredential) 0 0 0)] ++
        [.frame (exchangeOf .default AuthCore.sampleHmac 0 (.still 5) sampleBegin sampleLocked)])
      sampleUploading := by
  have protects : WorldStep .default AuthCore.sampleHmac (.boot .default .empty)
      (.auth (.setCredential (some AuthCore.sampleCredential) 0 0 0)) sampleLocked :=
    ⟨sampleSystem, Prod.ext (by decide) rfl, rfl⟩
  have begins : WorldStep .default AuthCore.sampleHmac sampleLocked
      (.frame (exchangeOf .default AuthCore.sampleHmac 0 (.still 5) sampleBegin sampleLocked))
      sampleUploading := exchangeOf_step ..
  exact (Run.single protects).snoc begins

theorem sample_uploading : Uploading 0 1 sampleUploading := by
  constructor <;> decide

theorem sample_unchanged {request : Frame} :
    ¬ ObservesChange (.still 9) 0 request sampleUploading := by
  rintro (stale | ⟨observed, _⟩)
  · revert stale
    unfold Stale
    decide
  · revert observed
    decide

theorem sample_text_kept {request : Frame} :
    ¬ OldTextDue (.still 9) 1 request sampleUploading := by
  rintro ⟨site, _, due⟩
  revert due
  cases site <;> decide

/-- A LIST without a session and an AUTH_PROVE of the wrong length, in the
middle of an upload that needs neither. -/
theorem refused_frames_drop_upload :
    (∃ events, Run (WorldStep .default AuthCore.sampleHmac) (.boot .default .empty) events
      sampleUploading) ∧ Uploading 0 1 sampleUploading ∧
    ¬ (Untouched 0 sampleUploading
        (processFrame .default AuthCore.sampleHmac (.still 9) 0 sampleList sampleUploading).2 ∨
      Documented (.still 9) 0 1 sampleUploading sampleList
        (processFrame .default AuthCore.sampleHmac (.still 9) 0 sampleList sampleUploading).1) ∧
    ¬ (Untouched 0 sampleUploading
        (processFrame .default AuthCore.sampleHmac (.still 9) 0 sampleProve sampleUploading).2 ∨
      Documented (.still 9) 0 1 sampleUploading sampleProve
        (processFrame .default AuthCore.sampleHmac (.still 9) 0 sampleProve
          sampleUploading).1) := by
  refine ⟨⟨_, sample_reachable⟩, sample_uploading, ?_, ?_⟩
  · have refused : GateRefuses (.still 9) sampleList sampleUploading :=
      ⟨by decide, by decide, .list, rfl, rfl⟩
    have passed : baseCheck sampleList = .ok .list := rfl
    exact undocumented_of_dropped sample_uploading (dropped_of_gate _ _ _ refused) passed
      (by decide) sample_unchanged sample_text_kept
  · have failing : ProofFails AuthCore.sampleHmac (.still 9) sampleProve sampleUploading := by
      refine ⟨rfl, fun holds => ?_⟩
      have shaped := holds.shaped
      revert shaped
      decide
    exact undocumented_of_dropped sample_uploading (dropped_of_proof _ _ failing) failing.1
      (by decide) sample_unchanged sample_text_kept

/-- A look at the authentication state in the middle of the same upload. -/
theorem upload_dropped_as_documented_sample :
    let request := Frame.build .authInfo 8 listSlot 0 0 []
    let result := processFrame .default AuthCore.sampleHmac (.still 9) 0 request sampleUploading
    Untouched 0 sampleUploading result.2 ∨
      Documented (.still 9) 0 1 sampleUploading request result.1 := by
  intro request result
  refine (upload_dropped_as_documented .default AuthCore.sampleHmac (.still 9) 0 request
    sampleUploading 1 sample_uploading).mpr (Or.inl ⟨?_, ?_, ?_⟩)
  · rintro ⟨_, _, opcode, passed, managing⟩
    have known : baseCheck request = .ok .authInfo := rfl
    cases known.symm.trans passed
    cases managing
  · rintro ⟨passed, _⟩
    have known : baseCheck request = .ok .authInfo := rfl
    cases known.symm.trans passed
  · rintro ⟨passed, _⟩
    have known : baseCheck request = .ok .authInfo := rfl
    cases known.symm.trans passed

end RuntimeMacro.Guarantees.UploadDrops
