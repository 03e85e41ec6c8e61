import RuntimeMacro.Source.ManagedFrames
import RuntimeMacro.Source.WorldRuns

/-!
# Error responses are atomic, with four exceptions

runtime_macro_protocol.c:670-685,847-993; runtime_macro_dynamic.c:231-268.

An answer other than OK and STORAGE_ERROR comes from a call that wrote nothing,
unless the session runs out between the gate and the refresh of a SET that has
stored its text, storage answers such a SET with the error a refused text has,
the session runs out behind a CLEAR that has deleted, or a chunk commits the
staging of another upload and the upload timeout cannot be scheduled. `Breaks`
lists the four, the first two under one constructor. No other call breaks the
atomicity of its error answer.
-/
namespace RuntimeMacro.Guarantees.ErrorAtomicity
open Source Source.Protocol Foundations.Runs
open AuthCore (Hmac)

variable {cfg : Config} {hmac : Hmac} {env : Env} {id : ContextId} {request response : Frame}
  {w w' : World}

/-- No static slot and no credential changed, no update of the settings
succeeded, and of the dynamic texts only some that were due are gone. -/
structure Atomic (env : Env) (w w' : World) : Prop where
  slots : w'.slots = w.slots
  settings : w.settings.Unwritten w'.settings
  credential : w'.auth.credential = w.auth.credential
  dynamic : DynamicStore.OnlyExpired env.latest w.dynamic.slots w'.dynamic.slots

/-- An error answer other than STORAGE_ERROR leaves slots, credential and
dynamic texts alone. -/
def ErrorAtomic (exchange : Exchange) (w w' : World) : Prop :=
  exchange.response.status ≠ Status.ok.code →
    exchange.response.status ≠ Status.storageError.code → Atomic exchange.env w w'

/-- The frame writes, and is answered neither OK nor STORAGE_ERROR. -/
inductive Breaks (cfg : Config) (env : Env) (id : ContextId) (request : Frame) (w : World) : Prop
  | set (passed : baseCheck request = .ok .set) (gate : GateOpen env w.auth)
      (writes : SetWrites cfg env id request w)
      (failing : (env.saveErr = 0 ∧ SessionOver env w.auth) ∨
        (env.saveErr = -einval ∧ w.slots.slotReplace request.slot.toNat
          (completedText request (w.contexts id)) ≠ w.slots))
  | clear (passed : baseCheck request = .ok .clear) (gate : GateOpen env w.auth)
      (valid : ClearValid cfg request) (deleted : env.deleteErr = 0)
      (ended : SessionOver env w.auth)
  | data (strays : DataStrays cfg env id request w)

/-! ## The static slots and the settings -/

theorem afterHandler_storesKept (cfg : Config) (env : Env) (id : ContextId)
    (result : Frame × World) : StoresKept result.2 (afterHandler cfg env id result).2 := by
  unfold afterHandler
  by_cases success : result.1.status = Status.ok.code
  · obtain ⟨_, _, _, refreshed, kept, _⟩ := refresh_outcome cfg env id result.1 result.2
    rw [if_pos success, refreshed]
    exact kept
  · rw [if_neg success]
    exact StoresKept.refl _

/-- The static slots are as they were, and no update of the settings
succeeded. -/
def NothingStored (w w' : World) : Prop :=
  w'.slots = w.slots ∧ w.settings.Unwritten w'.settings

theorem NothingStored.of_kept (kept : StoresKept w w') : NothingStored w w' :=
  ⟨kept.slots, Settings.Unwritten.of_calls (congrArg Settings.calls kept.settings)⟩

/-- A SET that is refused without being one of the cases has not called the
store. Either a check stopped it, or the store refused the arguments. -/
theorem set_stores_nothing (hmac : Hmac) (ordered : env.Ordered)
    (passed : baseCheck request = .ok .set) (gate : GateOpen env w.auth)
    (unbroken : ¬ Breaks cfg env id request w)
    (notOk : (processFrame cfg hmac env id request w).1.status ≠ Status.ok.code)
    (notStorage : (processFrame cfg hmac env id request w).1.status ≠ Status.storageError.code) :
    NothingStored w (processFrame cfg hmac env id request w).2 := by
  by_cases writes : SetWrites cfg env id request w
  · obtain ⟨slots, ⟨name, value, calls⟩, answered⟩ :=
      setFrame_written hmac ordered passed gate writes
    rcases answered with ⟨saved, ended, _⟩ | ⟨_, _, status⟩ | ⟨unsaved, status⟩
    · exact absurd (.set passed gate writes (Or.inl ⟨saved, ended⟩)) unbroken
    · exact absurd status notOk
    · by_cases invalid : env.saveErr = -einval
      · by_cases same : w.slots.slotReplace request.slot.toNat
            (completedText request (w.contexts id)) = w.slots
        · refine ⟨slots.trans same, (Settings.unwritten_iff calls).mpr ?_⟩
          simpa [SettingsCall.succeeded] using unsaved
        · exact absurd (.set passed gate writes (Or.inr ⟨invalid, same⟩)) unbroken
      · rw [if_neg invalid] at status
        exact absurd status notStorage
  · cases processFrame_set cfg hmac env id (baseCheck_opcode passed) w with
    | refused _ _ kept => exact NothingStored.of_kept kept
    | staged _ status => exact absurd status notOk
    | committed c err _ accepted complete set =>
      rcases SlotStore.slotSet_cases cfg c.setSlot c.setStaging c.setTotalLength env.saveErr w.slots
        w.settings with refused | ⟨_, _, alphabet, _⟩
      · rw [refused] at set
        simp only [Prod.mk.injEq] at set
        obtain ⟨_, slots, settings⟩ := set
        exact ⟨slots.symm, Settings.Unwritten.of_calls (congrArg Settings.calls settings.symm)⟩
      · exact absurd (SetWrites.of_accepted passed accepted complete alphabet) writes

/-- The same for CLEAR. -/
theorem clear_stores_nothing (hmac : Hmac) (ordered : env.Ordered)
    (passed : baseCheck request = .ok .clear) (gate : GateOpen env w.auth)
    (unbroken : ¬ Breaks cfg env id request w)
    (notOk : (processFrame cfg hmac env id request w).1.status ≠ Status.ok.code)
    (notStorage : (processFrame cfg hmac env id request w).1.status ≠ Status.storageError.code) :
    NothingStored w (processFrame cfg hmac env id request w).2 := by
  by_cases valid : ClearValid cfg request
  · obtain ⟨_, answered⟩ := clearFrame_written hmac ordered passed gate valid
    rcases answered with ⟨deleted, ended, _⟩ | ⟨_, _, status⟩ | ⟨_, status⟩
    · exact absurd (.clear passed gate valid deleted ended) unbroken
    · exact absurd status notOk
    · exact absurd status notStorage
  · obtain ⟨auth, managed, _⟩ := processManagement_open cfg id ordered gate
      (processClear cfg env request (Frame.initResponse (some request)))
      (Frame.initResponse (some request))
    have kept := afterHandler_storesKept cfg env id
      (processClear cfg env request (Frame.initResponse (some request))
        ((syncAuthState cfg env id w).withAuth auth))
    rw [processClear_refused cfg env _ _ valid] at kept
    have synced : StoresKept w (syncAuthState cfg env id w) := syncAuthState_storesKept
    simp only [processFrame, passed, dispatch]
    rw [managed]
    exact NothingStored.of_kept (synced.trans ⟨kept.slots, kept.settings, kept.calls⟩)

/-- A PASSWORD_SET that is refused has not saved. The credential is saved
before the core is touched, and a save that fails leaves storage as it was. -/
theorem passwordSet_stores_nothing (cfg : Config) (hmac : Hmac) (id : ContextId)
    (passed : baseCheck request = .ok .passwordSet)
    (gate : GateOpen env (syncAuthState cfg env id w).auth)
    (notOk : (processFrame cfg hmac env id request w).1.status ≠ Status.ok.code) :
    NothingStored w (processFrame cfg hmac env id request w).2 := by
  have granted : ∃ auth, processFrame cfg hmac env id request w =
      processPasswordSet cfg env id request (Frame.initResponse (some request))
        ((syncAuthState cfg env id w).withAuth auth) := by
    obtain ⟨auth, _, ⟨shut, _⟩ | ⟨_, _, access⟩⟩ :=
      managementAccess_cases cfg env id (syncAuthState cfg env id w)
    · exact absurd gate shut
    · refine ⟨auth, ?_⟩
      simp only [processFrame, passed, dispatch, access]
      rw [if_neg (by decide)]
  obtain ⟨auth, result⟩ := granted
  rw [result] at notOk ⊢
  have slots := processPasswordSet_slots cfg env id request (Frame.initResponse (some request))
    ((syncAuthState cfg env id w).withAuth auth)
  have settings := processPasswordSet_unwritten cfg env id request
    (Frame.initResponse (some request)) ((syncAuthState cfg env id w).withAuth auth) notOk
  rw [World.withAuth_slots, syncAuthState_slots] at slots
  rw [World.withAuth_settings, syncAuthState_settings] at settings
  exact ⟨slots, settings⟩

theorem reads_store_nothing (cfg : Config) (id : ContextId) (ordered : env.Ordered)
    (gate : GateOpen env w.auth) (handler : World → Frame × World) (response : Frame)
    (reads : ∀ w, (handler w).2 = w) :
    StoresKept w
      (processManagement cfg env id handler response (syncAuthState cfg env id w)).2 := by
  obtain ⟨auth, managed, _⟩ := processManagement_open cfg id ordered gate handler response
  have kept := afterHandler_storesKept cfg env id
    (handler ((syncAuthState cfg env id w).withAuth auth))
  rw [reads] at kept
  have synced : StoresKept w (syncAuthState cfg env id w) := syncAuthState_storesKept
  rw [managed]
  exact synced.trans ⟨kept.slots, kept.settings, kept.calls⟩

/-- Only three opcodes can write settings, and each of them stored nothing. -/
theorem frame_stores_nothing (hmac : Hmac) (ordered : env.Ordered)
    (unbroken : ¬ Breaks cfg env id request w)
    (notOk : (processFrame cfg hmac env id request w).1.status ≠ Status.ok.code)
    (notStorage : (processFrame cfg hmac env id request w).1.status ≠ Status.storageError.code) :
    NothingStored w (processFrame cfg hmac env id request w).2 := by
  by_cases open' : ∃ opcode, baseCheck request = .ok opcode ∧ manages opcode = true ∧
      GateOpen env (syncAuthState cfg env id w).auth
  · obtain ⟨opcode, passed, managing, synced⟩ := open'
    have gate : GateOpen env w.auth := (gateOpen_synced ordered).mp synced
    cases opcode with
    | list =>
      simp only [processFrame, passed, dispatch]
      exact NothingStored.of_kept (reads_store_nothing cfg id ordered gate _ _ fun _ => rfl)
    | get =>
      simp only [processFrame, passed, dispatch]
      exact NothingStored.of_kept (reads_store_nothing cfg id ordered gate _ _ fun _ => rfl)
    | set => exact set_stores_nothing hmac ordered passed gate unbroken notOk notStorage
    | clear => exact clear_stores_nothing hmac ordered passed gate unbroken notOk notStorage
    | passwordSet => exact passwordSet_stores_nothing cfg hmac id passed synced notOk
    | _ => cases managing
  · refine NothingStored.of_kept (processFrame_storesKept cfg hmac env id request w ?_)
    intro opcode passed managing gate
    exact open' ⟨opcode, passed, managing, gate⟩

/-! ## The credential and the dynamic texts -/

theorem credential_kept (cfg : Config) (hmac : Hmac) (env : Env) (id : ContextId)
    (request : Frame) (w : World)
    (notOk : (processFrame cfg hmac env id request w).1.status ≠ Status.ok.code) :
    (processFrame cfg hmac env id request w).2.auth.credential = w.auth.credential := by
  have trace : CoreTrace cfg hmac false w.auth (processFrame cfg hmac env id request w).2.auth :=
    processFrame_trace cfg hmac env id request w false fun _ accepted => absurd accepted notOk
  exact congrArg AuthCore.Persistent.credential trace.persistent

/-- Outside the four cases an error answer is atomic: the frame left the slots
and the settings as they were, and the only dynamic texts it removed were due
by its own readings. -/
theorem errorAtomic_of_unbroken (hmac : Hmac) (ordered : env.Ordered)
    (unbroken : ¬ Breaks cfg env id request w)
    (notOk : (processFrame cfg hmac env id request w).1.status ≠ Status.ok.code)
    (notStorage : (processFrame cfg hmac env id request w).1.status ≠ Status.storageError.code) :
    Atomic env w (processFrame cfg hmac env id request w).2 := by
  obtain ⟨slots, settings⟩ := frame_stores_nothing hmac ordered unbroken notOk notStorage
  exact ⟨slots, settings, credential_kept cfg hmac env id request w notOk,
    (refused_expired cfg hmac id (fun strays => unbroken (.data strays)) notOk).onlyExpired
      ordered⟩

/-! ## The exceptions -/

/-- Each of the cases does what it says: an error other than STORAGE_ERROR, and
a text that has changed. -/
theorem breaks_not_atomic (hmac : Hmac) (ordered : env.Ordered)
    (breaks : Breaks cfg env id request w) :
    (processFrame cfg hmac env id request w).1.status ≠ Status.ok.code ∧
      (processFrame cfg hmac env id request w).1.status ≠ Status.storageError.code ∧
      ¬ Atomic env w (processFrame cfg hmac env id request w).2 := by
  cases breaks with
  | set passed gate writes failing =>
    obtain ⟨slots, ⟨name, value, calls⟩, answered⟩ :=
      setFrame_written hmac ordered passed gate writes
    rcases failing with ⟨saved, ended⟩ | ⟨invalid, changed⟩
    · rcases answered with ⟨_, _, status⟩ | ⟨_, alive, _⟩ | ⟨unsaved, _⟩
      · rw [status]
        refine ⟨by decide, by decide, fun atomic => ?_⟩
        have failed := (Settings.unwritten_iff calls).mp atomic.settings
        simp [SettingsCall.succeeded, saved] at failed
      · exact absurd ended alive
      · exact absurd saved unsaved
    · have failed : env.saveErr ≠ 0 := by
        rw [invalid]
        decide
      rcases answered with ⟨saved, _⟩ | ⟨saved, _⟩ | ⟨_, status⟩
      · exact absurd saved failed
      · exact absurd saved failed
      · rw [if_pos invalid] at status
        rw [status]
        exact ⟨by decide, by decide, fun atomic => changed (slots.symm.trans atomic.slots)⟩
  | clear passed gate valid deleted ended =>
    obtain ⟨⟨name, calls⟩, answered⟩ := clearFrame_written hmac ordered passed gate valid
    rcases answered with ⟨_, _, status⟩ | ⟨_, alive, _⟩ | ⟨undeleted, _⟩
    · rw [status]
      refine ⟨by decide, by decide, fun atomic => ?_⟩
      have failed := (Settings.unwritten_iff calls).mp atomic.settings
      simp [SettingsCall.succeeded, deleted] at failed
    · exact absurd ended alive
    · exact absurd deleted undeleted
  | data strays =>
    obtain ⟨status, store⟩ := dataFrame_strays hmac strays
    rw [status]
    refine ⟨by decide, by decide, fun atomic => ?_⟩
    have onlyExpired := atomic.dynamic
    rw [store] at onlyExpired
    exact strays_changes strays fun slot => (onlyExpired slot).imp_right And.right

/-! ## Over runs -/

/-- Whatever ran before: a frame whose clock does not run back is error atomic
exactly when it is none of the four cases: a SET whose session runs out behind
its write, a SET whose save storage answers as invalid, a CLEAR whose session
runs out behind its delete, a chunk that commits foreign staging and cannot arm
the timeout. -/
theorem errors_atomic_iff {settings : Settings} {moments : List (Moment World WorldEvent)}
    (run : Run (Traced (WorldStep cfg hmac)) (.boot cfg settings) moments w) :
    ∀ moment ∈ moments, ∀ exchange : Exchange, moment.event = .frame exchange →
      exchange.env.Ordered →
      (ErrorAtomic exchange moment.before moment.after ↔
        ¬ Breaks cfg exchange.env exchange.id exchange.request moment.before) := by
  intro moment member exchange framed ordered
  have step : FrameStep cfg hmac moment.before exchange moment.after := by
    have taken := run.moment_step moment member
    rw [framed] at taken
    exact taken
  have result : processFrame cfg hmac exchange.env exchange.id exchange.request moment.before =
    (exchange.response, moment.after) := step
  constructor
  · intro atomic breaks
    obtain ⟨notOk, notStorage, changed⟩ := breaks_not_atomic hmac ordered breaks
    rw [result] at notOk notStorage changed
    exact changed (atomic notOk notStorage)
  · intro unbroken notOk notStorage
    have atomic := errorAtomic_of_unbroken (w := moment.before) hmac ordered unbroken
    rw [result] at atomic
    exact atomic notOk notStorage

/-- A CLEAR of a slot that does not exist. -/
def sampleRefused : Exchange :=
  exchangeOf .default AuthCore.sampleHmac 0 (.still 5) (.build .clear 7 99 0 0 [])
    (.boot .default .empty)

/-- A CLEAR of a slot that does not exist is none of the four cases, and
changes nothing. -/
theorem errors_atomic_iff_sample :
    ErrorAtomic sampleRefused (.boot .default .empty)
      (processFrame .default AuthCore.sampleHmac (.still 5) 0 (.build .clear 7 99 0 0 [])
        (.boot .default .empty)).2 := by
  have run : Run (Traced (WorldStep .default AuthCore.sampleHmac)) (.boot .default .empty)
      [⟨.boot .default .empty, .frame sampleRefused, _⟩] _ :=
    Run.single ⟨rfl, rfl, exchangeOf_step ..⟩
  refine (errors_atomic_iff run _ (List.mem_singleton.mpr rfl) sampleRefused rfl
    (fun _ _ _ => Int.le_refl _)).mpr ?_
  intro breaks
  cases breaks with
  | set passed => exact absurd passed (by decide)
  | clear _ _ valid => exact absurd valid.slot (by decide)
  | data strays => exact absurd strays.passed (by decide)

/-! ## A session that runs out during the call -/

/-- The stored credential, as the settings subsystem loads it. -/
def loadEvent : AuthCore.Event :=
  .settingsSet (some (ascii "auth/credential")) 53
    (some fun _ => (53, AuthCore.serializeCredential AuthCore.sampleCredential)) 0

/-- A keyboard that has loaded a password. -/
def loaded : World :=
  (World.boot .default .empty).withAuth (AuthCore.settingsSet (some (ascii "auth/credential")) 53
    (some fun _ => (53, AuthCore.serializeCredential AuthCore.sampleCredential)) .boot).2

def challengeRequest : Frame := .build .authChallenge 1 listSlot 0 0 []

/-- It has been asked for a nonce. -/
def challenged : World :=
  (processFrame .default AuthCore.sampleHmac (.still 1000) 0 challengeRequest loaded).2

def proveRequest : Frame := .build .authProve 2 listSlot 0 16 (List.replicate 16 7)

/-- The proof for the nonce was right, and a session is open. -/
def loggedIn : World :=
  (processFrame .default AuthCore.sampleHmac (.still 2000) 0 proveRequest challenged).2

/-- The last millisecond of the session passes between the gate and the
refresh. -/
def lapsing : Env :=
  { Env.still 0 with clock := fun site => if site.rank < 11 then 301999 else 302000 }

/-- A whole text in one frame, for the slot of index 3. -/
def setRequest : Frame := .build .set 3 3 0 2 [72, 105]

/-- The session runs out between the gate and the refresh. -/
def lapsed : Exchange := exchangeOf .default AuthCore.sampleHmac 0 lapsing setRequest loggedIn

def lapsedWorld : World :=
  (processFrame .default AuthCore.sampleHmac lapsing 0 setRequest loggedIn).2

/-- A SET within the session is answered AUTH_REQUIRED, with its text in the
slot and in storage. -/
theorem lapsed_not_atomic :
    ∃ events, Run (WorldStep .default AuthCore.sampleHmac) (.boot .default .empty) events
        loggedIn ∧ FrameStep .default AuthCore.sampleHmac loggedIn lapsed lapsedWorld ∧
      lapsing.Ordered ∧ lapsed.response.status = Status.authRequired.code ∧
      (lapsedWorld.slots.slots 3).length = 2 ∧ (loggedIn.slots.slots 3).length = 0 ∧
      ¬ ErrorAtomic lapsed loggedIn lapsedWorld := by
  have load : WorldStep .default AuthCore.sampleHmac (.boot .default .empty) (.auth loadEvent)
      loaded := ⟨⟨loaded.auth, .empty⟩, ⟨by decide, rfl⟩, rfl⟩
  have asked : WorldStep .default AuthCore.sampleHmac loaded (.frame (exchangeOf .default
      AuthCore.sampleHmac 0 (.still 1000) challengeRequest loaded)) challenged :=
    exchangeOf_step ..
  have proved : WorldStep .default AuthCore.sampleHmac challenged (.frame (exchangeOf .default
      AuthCore.sampleHmac 0 (.still 2000) proveRequest challenged)) loggedIn :=
    exchangeOf_step ..
  have ordered : lapsing.Ordered := by
    intro first second early
    by_cases before : second.rank < 11
    · have both : first.rank < 11 := by omega
      simp [lapsing, before, both]
    · simp only [lapsing, if_neg before]
      split
      · decide
      · decide
  have status : lapsed.response.status = Status.authRequired.code := by decide
  refine ⟨_, ((Run.single load).snoc asked).snoc proved, exchangeOf_step .., ordered, status,
    by decide, by decide, ?_⟩
  intro atomic
  have slots := (atomic (by rw [status]; decide) (by rw [status]; decide)).slots
  have same : (lapsedWorld.slots.slots 3).length = (loggedIn.slots.slots 3).length :=
    congrArg (fun store : SlotStore => (store.slots 3).length) slots
  exact absurd same (by decide)

end RuntimeMacro.Guarantees.ErrorAtomicity
