import RuntimeMacro.Source.DynamicFrames
import RuntimeMacro.Source.FrameBoundaries
import RuntimeMacro.Source.WorldAuth

/-!
# No upload crosses an authentication boundary

runtime_macro_protocol.c:687-710; docs/AUTHENTICATION_PROTOCOL.md:358-370.
Between the first accepted frame of an upload and the frame that commits it
nothing happened that ends sessions. The record of the context is compared with
the core once a frame only, so the invariant says more of an upload that a
boundary has passed by: the record is out of date in a way that no later call
can heal.
-/
namespace RuntimeMacro.Guarantees.AuthBoundaries
open Source Source.Protocol Foundations.Runs
open AuthCore (Hmac)

variable {cfg : Config} {hmac : Hmac} {id : ContextId} {kind : Kind} {w w' : World}
  {past : List (Moment World WorldEvent)} {moment : Moment World WorldEvent}
  {exchange : Exchange} {core core' : AuthCore.State} {c c' : Context}

/-- Frames on the context, its transport reset and the settings reload. -/
def involved (id : ContextId) : WorldEvent → Bool
  | .frame exchange => exchange.id == id
  | .transportReset owner _ => owner == id
  | .auth (.settingsSet ..) | .auth .settingsCommit => true
  | _ => false

/-- The acceptance of the first frame of an upload. -/
def starts (kind : Kind) (moment : Moment World WorldEvent) : Bool :=
  match moment.event with
  | .frame exchange => startsUpload exchange.request kind && exchange.accepted
  | _ => false

/-- A proof that succeeded or consumed a challenge, a lock, a new credential,
a transport reset, a change of the persistent state, or the loss of the
session. -/
inductive Boundary (moment : Moment World WorldEvent) : Prop
  | proof (exchange : Exchange) (framed : moment.event = .frame exchange)
      (passed : baseCheck exchange.request = .ok .authProve)
      (checked : exchange.accepted = true ∨ (moment.before.auth.challengeActive = true ∧
        moment.after.auth.challengeActive = false))
  | lock (exchange : Exchange) (framed : moment.event = .frame exchange)
      (locking : exchange.opcode = some .lock) (accepted : exchange.accepted = true)
  | password (exchange : Exchange) (credential : AuthCore.Credential)
      (framed : moment.event = .frame exchange) (replacing : exchange.opcode = some .passwordSet)
      (replaced : moment.after.calls = moment.before.calls ++ [.setCredential credential 0])
  | reset (owner : ContextId) (env : Env) (resetting : moment.event = .transportReset owner env)
  | state (changed : moment.after.auth.state ≠ moment.before.auth.state)
  | expiry (active : moment.before.auth.sessionActive = true)
      (gone : moment.after.auth.sessionActive = false)

/-- The frame hands the upload over: to the slot API, to `set_credential`, or
to a slot. -/
def Commits (moment : Moment World WorldEvent) (exchange : Exchange) : Kind → Prop
  | .set => exchange.opcode = some .set ∧ ∃ slot text err,
      moment.after.calls = moment.before.calls ++ [.slotSet slot text err]
  | .passwordSet => exchange.opcode = some .passwordSet ∧ ∃ credential err,
      moment.after.calls = moment.before.calls ++ [.setCredential credential err]
  | .dynamic => exchange.opcode = some .dynamicData ∧ ∃ slot,
      (moment.after.dynamic.slots slot).committedValid = true ∧
        moment.after.dynamic.slots slot ≠ moment.before.dynamic.slots slot

/-! ## The invariant -/

/-- The record is out of date for good: the state has closed further, or the
recorded session is over and only a proof, which discards the context, brings
another. -/
def Doomed (c : Context) (core : AuthCore.State) : Prop :=
  rank c.authState < rank core.state ∨
    (c.authSessionAuthenticated = true ∧ core.sessionActive = false)

/-- What is known of a transaction under way. The frame that started it is in
the history; a boundary after that frame leaves it doomed, because the
context's memory of the core is then out of date. -/
structure Alive (kind : Kind) (past : List (Moment World WorldEvent)) (c : Context)
    (core : AuthCore.State) : Prop where
  known : c.authStateKnown = true
  ordered : rank c.authState ≤ rank core.state
  session : c.authSessionAuthenticated = false → core.sessionActive = false
  origin : ∃ front first since, past = front ++ first :: since ∧ starts kind first = true ∧
    (∀ later ∈ since, starts kind later = false) ∧
      ((∃ later ∈ since, Boundary later) → Doomed c core)

theorem observedSession_of_idle (env : Env) (idle : core.sessionActive = false) :
    (observedSession env core).1 = false := by
  have same := (observedSession_looked env core).of_idle idle
  rw [observedSession_fst, same, idle, Bool.and_false]

/-- A doomed record is noticed at the next frame. -/
theorem Doomed.stale (doomed : Doomed c core) (known : c.authStateKnown = true) (env : Env) :
    Stale env core c := by
  refine ⟨known, ?_⟩
  rcases doomed with closed | ⟨recorded, idle⟩
  · refine Or.inl fun same => ?_
    rw [same] at closed
    exact Nat.lt_irrefl _ closed
  · rw [recorded, observedSession_of_idle env idle]
    exact Or.inr (by decide)

/-- A record that is not stale has its session observed alive. -/
theorem Alive.observed (alive : Alive kind past c core) {env : Env} (fresh : ¬ Stale env core c) :
    (observedSession env core).2 = core := by
  rcases observedSession_looked env core with same | ⟨active, dropped⟩
  · exact same
  · exfalso
    have lost : (observedSession env core).1 = false := by
      rw [observedSession_fst, dropped]
      exact Bool.and_false _
    apply fresh
    refine ⟨alive.known, Or.inr fun same => ?_⟩
    rw [lost] at same
    exact absurd (active.symm.trans (alive.session same)) (by decide)

/-- An upload whose record is not stale has met no boundary. -/
theorem Alive.uncrossed (alive : Alive kind past c core) {env : Env}
    (fresh : ¬ Stale env core c) :
    ∃ front first since, past = front ++ first :: since ∧ starts kind first = true ∧
      ∀ later ∈ since, starts kind later = false ∧ ¬ Boundary later := by
  obtain ⟨front, first, since, split, started, quiet, doomed⟩ := alive.origin
  refine ⟨front, first, since, split, started, fun later member => ⟨quiet later member, ?_⟩⟩
  intro boundary
  exact fresh ((doomed ⟨later, member, boundary⟩).stale alive.known env)

/-! ## One event -/

/-- A frame that leaves an upload active has either started it or found it
alive, and what it learned of the core it has written into the context. -/
theorem Alive.frame (sound : CoreSound w.auth)
    (alive : ∀ kind, ((w.contexts id).upload kind).active = true →
      Alive kind past (w.contexts id) w.auth)
    (owned : exchange.id = id) (step : FrameStep cfg hmac w exchange w')
    (active : ((w'.contexts id).upload kind).active = true) :
    Alive kind (past ++ [⟨w, .frame exchange, w'⟩]) (w'.contexts id) w'.auth := by
  subst owned
  have result : processFrame cfg hmac exchange.env exchange.id exchange.request w =
    (exchange.response, w') := step
  have active' := active
  have harm := active
  rw [show w' = (processFrame cfg hmac exchange.env exchange.id exchange.request w).2 from
    congrArg Prod.snd result.symm] at active' harm
  obtain ⟨record, origin⟩ := processFrame_active active'
  obtain ⟨subdued, noProof, noLock, noPassword⟩ := processFrame_harmless harm
  rw [result] at record origin subdued noLock noPassword
  simp only [Context.record, Prod.mk.injEq] at record
  obtain ⟨known, state, session⟩ := record
  have looked := observedSession_looked exchange.env w.auth
  have sameState : w'.auth.state = w.auth.state := subdued.state.trans looked.state
  refine ⟨known, by rw [state, sameState], fun unrecorded => ?_, ?_⟩
  · rw [session] at unrecorded
    by_contra regained
    rw [Bool.not_eq_false] at regained
    have survived := subdued.session regained
    have before := looked.of_session survived
    rw [before] at survived
    rw [observedSession_fst, before, survived, Bool.and_true, decide_eq_false_iff_not] at unrecorded
    exact unrecorded (sound.guarded survived)
  · rcases origin with ⟨started, okay⟩ | ⟨notStarted, fresh, before⟩
    · refine ⟨past, _, [], rfl, ?_, by simp, by simp⟩
      simp only [starts, started, Bool.true_and, Exchange.accepted, beq_iff_eq]
      exact okay
    · have earlier := alive kind before
      obtain ⟨front, first, since, split, started, quiet⟩ := earlier.uncrossed fresh
      refine ⟨front, first, since ++ [⟨w, .frame exchange, w'⟩], by rw [split]; simp, started,
        ?_, ?_⟩
      · intro later member
        rcases List.mem_append.mp member with old | last
        · exact (quiet later old).1
        · rw [List.mem_singleton.mp last]
          simp [starts, notStarted]
      · rintro ⟨later, member, boundary⟩
        rcases List.mem_append.mp member with old | last
        · exact absurd boundary (quiet later old).2
        · rw [List.mem_singleton.mp last] at boundary
          cases boundary with
          | proof other framed passed checked =>
            cases framed
            exact absurd passed noProof
          | lock other framed locking accepted =>
            cases framed
            exact absurd (by simpa [Exchange.accepted] using accepted) (noLock locking)
          | password other credential framed replacing replaced =>
            cases framed
            exact absurd replaced (noPassword replacing credential)
          | reset owner env resetting => cases resetting
          | state changed => exact absurd sameState changed
          | expiry had gone =>
            refine Or.inr ⟨?_, gone⟩
            have had' : w.auth.sessionActive = true := had
            rw [session, observedSession_fst, earlier.observed fresh, had', Bool.and_true,
              decide_eq_true_eq]
            exact sound.guarded had'

/-- A reload closes the state further or leaves it, and gives no session.
Either keeps the order between the context's memory and the core. -/
theorem Alive.reload {call : AuthCore.Event} {system : AuthCore.System}
    (sound : CoreSound w.auth) (alive : Alive kind past (w.contexts id) w.auth)
    (called : AuthCore.Step cfg hmac w.authSystem call system)
    (reloading : involved id (.auth call) = true) :
    Alive kind (past ++ [⟨w, .auth call, w.withAuthSystem system⟩]) (w.contexts id)
      system.core := by
  have ordered : rank w.auth.state ≤ rank system.core.state := step_rank called sound
  have session : system.core.sessionActive = true → w.auth.sessionActive = true := by
    intro active
    rcases AuthCore.step_session called active with ⟨proof, nowMs, rfl, _⟩ | kept
    · cases reloading
    · exact kept.1
  have lost : w.auth.sessionActive = false → system.core.sessionActive = false := by
    intro idle
    by_contra active
    rw [Bool.not_eq_false] at active
    exact absurd ((session active).symm.trans idle) (by decide)
  obtain ⟨front, first, since, split, started, quiet, doomed⟩ := alive.origin
  refine ⟨alive.known, alive.ordered.trans ordered, fun recorded => lost (alive.session recorded),
    front, first, since ++ [⟨w, .auth call, w.withAuthSystem system⟩], by rw [split]; simp,
    started, ?_, ?_⟩
  · intro later member
    rcases List.mem_append.mp member with old | last
    · exact quiet later old
    · rw [List.mem_singleton.mp last]
      rfl
  · rintro ⟨later, member, boundary⟩
    rcases List.mem_append.mp member with old | last
    · rcases doomed ⟨later, old, boundary⟩ with closed | ⟨recorded, idle⟩
      · exact Or.inl (Nat.lt_of_lt_of_le closed ordered)
      · exact Or.inr ⟨recorded, lost idle⟩
    · rw [List.mem_singleton.mp last] at boundary
      cases boundary with
      | proof _ framed | lock _ framed | password _ _ framed => cases framed
      | reset _ _ resetting => cases resetting
      | state changed =>
        exact Or.inl (Nat.lt_of_le_of_lt alive.ordered (rank_lt_of_ne ordered changed))
      | expiry had gone =>
        refine Or.inr ⟨?_, gone⟩
        by_contra unrecorded
        rw [Bool.not_eq_true] at unrecorded
        exact absurd (Eq.symm had |>.trans (alive.session unrecorded)) (by decide)

/-- Of every active upload of the context. -/
def AllAlive (id : ContextId) (past : List (Moment World WorldEvent)) (w : World) : Prop :=
  ∀ kind, ((w.contexts id).upload kind).active = true → Alive kind past (w.contexts id) w.auth

/-- One case for each kind of event. Those of other contexts leave this one
alone. -/
theorem AllAlive.step {event : WorldEvent} (sound : CoreSound w.auth)
    (alive : AllAlive id past w) (within : involved id event = true)
    (step : WorldStep cfg hmac w event w') : AllAlive id (past ++ [⟨w, event, w'⟩]) w' := by
  intro kind active
  cases event with
  | frame exchange => exact Alive.frame sound alive (by simpa [involved] using within) step active
  | transportReset owner env =>
    have owned : owner = id := by simpa [involved] using within
    subst owned
    have dropped : w'.contexts owner = .zero cfg := by
      rw [show w' = w.transportReset cfg owner env from step]
      exact World.discard_contexts_self _ _ _ _
    rw [dropped] at active
    exact absurd (active.symm.trans (Context.zero_allDropped cfg kind)) (by decide)
  | auth call =>
    obtain ⟨system, called, rfl⟩ := step
    exact (alive kind active).reload sound called within
  | timeoutWork | ttlWork | execute | executorWork | clearAll => cases within

theorem run_alive {settings : Settings}
    (run : Run (Traced (WorldStep cfg hmac)) (.boot cfg settings) past w)
    (within : ∀ moment ∈ past, involved id moment.event = true) :
    CoreSound w.auth ∧ AllAlive id past w := by
  refine run.history_of (fun past w => CoreSound w.auth ∧ AllAlive id past w)
    (fun past => ∀ moment ∈ past, involved id moment.event = true) within ?_
    ⟨CoreSound.boot, fun kind active => ?_⟩ ?_
  · exact fun past moment within other member => within other (List.mem_append_left _ member)
  · exact absurd (active.symm.trans (Context.zero_allDropped cfg kind)) (by decide)
  · rintro past w ⟨before, event, after⟩ w' within _ ⟨sound, alive⟩ step
    obtain ⟨rfl, rfl, stepped⟩ := step
    exact ⟨sound.world stepped, alive.step sound (within ⟨before, event, after⟩ (by simp)) stepped⟩

/-! ## The committing frame -/

/-- A SET that commits is the first chunk, or it found the upload active after
`sync_auth_state` had compared the memory of the context with the core. -/
theorem commit_set (step : FrameStep cfg hmac w exchange w')
    (commits : Commits ⟨w, .frame exchange, w'⟩ exchange .set) :
    startsUpload exchange.request .set = true ∨
      (¬ Stale exchange.env w.auth (w.contexts exchange.id) ∧
        ((w.contexts exchange.id).upload .set).active = true) := by
  obtain ⟨known, slot, text, err, called⟩ := commits
  have outcome := processFrame_set cfg hmac exchange.env exchange.id known w
  rw [step.result] at outcome
  have silent : ¬ StoresKept w w' := by
    intro kept
    have same := kept.calls
    rw [show w'.calls = w.calls ++ [_] from called] at same
    simp at same
  cases outcome with
  | refused status dropped kept => exact absurd kept silent
  | staged c status sized accepted holding kept => exact absurd kept silent
  | committed c err sized accepted complete set called dropped answered =>
    obtain ⟨_, ⟨first, _⟩ | ⟨continued, _⟩⟩ := accepted
    · have opcode : Opcode.ofByte exchange.request.opcode = some .set := known
      exact Or.inl (by simp [startsUpload, opcode, first])
    · exact Or.inr (active_of_synced continued.active)

theorem processPasswordSet_called (request response : Frame) (env : Env) (w : World)
    {credential : AuthCore.Credential} {err : Int}
    (called : (processPasswordSet cfg env id request response w).2.calls =
      w.calls ++ [.setCredential credential err]) :
    ∃ c, PasswordSetAccepted request (w.contexts id) c := by
  rcases processPasswordSet_cases cfg env id request response w with
    ⟨_, _, result⟩ | ⟨c, accepted, _⟩
  · rw [result] at called
    simp at called
  · exact ⟨c, accepted⟩

/-- The same for PASSWORD_SET. -/
theorem commit_passwordSet (step : FrameStep cfg hmac w exchange w')
    (commits : Commits ⟨w, .frame exchange, w'⟩ exchange .passwordSet) :
    startsUpload exchange.request .passwordSet = true ∨
      (¬ Stale exchange.env w.auth (w.contexts exchange.id) ∧
        ((w.contexts exchange.id).upload .passwordSet).active = true) := by
  obtain ⟨known, credential, err, called⟩ := commits
  have opcode : Opcode.ofByte exchange.request.opcode = some .passwordSet := known
  have result : processFrame cfg hmac exchange.env exchange.id exchange.request w =
    (exchange.response, w') := step
  have calls : (processFrame cfg hmac exchange.env exchange.id exchange.request w).2.calls =
      (syncAuthState cfg exchange.env exchange.id w).calls ++ [.setCredential credential err] := by
    rw [result, syncAuthState_calls]
    exact called
  cases checked : baseCheck exchange.request with
  | error status =>
    simp only [processFrame, checked] at calls
    rw [(discardForOpcode_storesKept _ _).calls] at calls
    simp at calls
  | ok passed =>
    cases Option.some.inj ((baseCheck_opcode checked).symm.trans opcode)
    simp only [processFrame, checked, dispatch] at calls
    obtain ⟨auth, _, ⟨_, _, _, gated⟩ | ⟨_, _, gated⟩⟩ :=
      managementAccess_cases cfg exchange.env exchange.id
        (syncAuthState cfg exchange.env exchange.id w)
    · simp only [gated] at calls
      rw [if_pos (gateStatus_ne_ok _)] at calls
      simp at calls
    · simp only [gated] at calls
      rw [if_neg (by simp)] at calls
      obtain ⟨c, _, ⟨first, _⟩ | ⟨continued, _⟩⟩ := processPasswordSet_called _ _ _
        ((syncAuthState cfg exchange.env exchange.id w).withAuth auth) calls
      · exact Or.inl (by simp [startsUpload, opcode, first])
      · exact Or.inr (active_of_synced continued.active)

/-- A DATA is never the first frame, so it found the upload active. -/
theorem commit_dynamic (step : FrameStep cfg hmac w exchange w')
    (commits : Commits ⟨w, .frame exchange, w'⟩ exchange .dynamic) :
    ¬ Stale exchange.env w.auth (w.contexts exchange.id) ∧
      ((w.contexts exchange.id).upload .dynamic).active = true := by
  obtain ⟨known, slot, valid, changed⟩ := commits
  have outcome := processFrame_dynamic cfg hmac exchange.env exchange.id exchange.request w
  rw [step.result] at outcome
  have silent : ¬ DynamicStore.Quiet w.dynamic w'.dynamic := by
    intro quiet
    rcases quiet.slots slot with same | removed
    · exact changed same
    · exact absurd (valid.symm.trans removed) (by decide)
  cases outcome with
  | passive refused store upload => exact absurd store.quiet silent
  | cleared isClear status store upload => exact absurd store silent
  | started isBegin => cases isBegin.symm.trans known
  | completed data | received data | failed data => exact ⟨data.fresh, data.valid.active⟩

theorem commit_continues (step : FrameStep cfg hmac w exchange w')
    (commits : Commits ⟨w, .frame exchange, w'⟩ exchange kind) :
    startsUpload exchange.request kind = true ∨
      (¬ Stale exchange.env w.auth (w.contexts exchange.id) ∧
        ((w.contexts exchange.id).upload kind).active = true) := by
  cases kind with
  | set => exact commit_set step commits
  | passwordSet => exact commit_passwordSet step commits
  | dynamic => exact Or.inr (commit_dynamic step commits)

/-- A frame that commits an upload is its first frame, or nothing since the
acceptance of the first frame was an authentication boundary, and the
committing frame observes no expiry. -/
theorem no_boundary_crossed {settings : Settings}
    (run : Run (Traced (WorldStep cfg hmac)) (.boot cfg settings) (past ++ [moment]) w)
    (within : ∀ other ∈ past ++ [moment], involved id other.event = true)
    (framed : moment.event = .frame exchange) (commits : Commits moment exchange kind) :
    startsUpload exchange.request kind = true ∨
      ((∃ front first since, past = front ++ first :: since ∧ starts kind first = true ∧
          ∀ later ∈ since, starts kind later = false ∧ ¬ Boundary later) ∧
        (syncAuthState cfg exchange.env id moment.before).auth = moment.before.auth) := by
  obtain ⟨middle, earlier, rfl, rfl, step⟩ := run.snoc_inv
  obtain ⟨sound, alive⟩ := run_alive earlier fun other member =>
    within other (List.mem_append_left _ member)
  have owned : exchange.id = id := by
    have last := within moment (by simp)
    rw [framed] at last
    simpa [involved] using last
  subst owned
  obtain ⟨before, event, after⟩ := moment
  have isFrame : event = .frame exchange := framed
  subst isFrame
  rcases commit_continues step commits with first | ⟨fresh, active⟩
  · exact Or.inl first
  · have upload := alive kind active
    refine Or.inr ⟨upload.uncrossed fresh, ?_⟩
    rw [syncAuthState_auth]
    exact upload.observed fresh

/-- One frame on a default keyboard, as a moment of a history. -/
def frameMoment (env : Env) (request : Frame) (w : World) : Moment World WorldEvent :=
  ⟨w, .frame (exchangeOf .default AuthCore.sampleHmac 0 env request w),
    (processFrame .default AuthCore.sampleHmac env 0 request w).2⟩

def sampleStart : Moment World WorldEvent :=
  frameMoment (.still 0) (.build .set 7 3 0 3 [72, 105]) (.boot .default .empty)

def sampleCommit : Moment World WorldEvent :=
  frameMoment (.still 9) (.build .set 7 3 2 3 [33]) sampleStart.after

/-- The second chunk of a SET completes it. The first is in the history, with
no boundary behind it. -/
theorem no_boundary_crossed_sample :
    ∃ front first since, [sampleStart] = front ++ first :: since ∧ starts .set first = true ∧
      ∀ later ∈ since, starts .set later = false ∧ ¬ Boundary later := by
  have run : Run (Traced (WorldStep .default AuthCore.sampleHmac)) (.boot .default .empty)
      ([sampleStart] ++ [sampleCommit]) sampleCommit.after :=
    (Run.single ⟨rfl, rfl, exchangeOf_step ..⟩).snoc ⟨rfl, rfl, exchangeOf_step ..⟩
  have commits : Commits sampleCommit (exchangeOf .default AuthCore.sampleHmac 0 (.still 9)
      (.build .set 7 3 2 3 [33]) sampleStart.after) .set :=
    ⟨by decide, 3, [72, 105, 33], 0, by decide⟩
  have within : ∀ other ∈ [sampleStart] ++ [sampleCommit], involved 0 other.event = true := by
    simp [sampleStart, sampleCommit, frameMoment, involved, exchangeOf]
  rcases no_boundary_crossed run within rfl commits with first | ⟨crossed, _⟩
  · exact absurd first (by decide)
  · exact crossed

end RuntimeMacro.Guarantees.AuthBoundaries
