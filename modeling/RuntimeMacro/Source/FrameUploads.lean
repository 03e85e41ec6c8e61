import RuntimeMacro.Source.FrameEffects
import RuntimeMacro.Source.WorldRuns

/-!
# The uploads of a context

runtime_macro_protocol.c:141-172,259-274. A context stages three kinds of
upload. A frame of another kind keeps an upload or drops it, together with the
recorded authentication state, and a frame on another context does not touch
it.
-/
namespace RuntimeMacro.Source
open AuthCore (AuthState Hmac Looked)

/-- SET, PASSWORD_SET and the dynamic upload. -/
inductive Kind where
  | set | passwordSet | dynamic
  deriving DecidableEq, Repr

/-- What a context holds of an upload. The bytes of a dynamic upload are in the
store. -/
structure Upload where
  active : Bool
  requestId : UInt8
  slot : Nat
  totalLength : Nat
  receivedLength : Nat
  staging : List UInt8

namespace Context

/-- The three transactions of a context seen as one kind of thing. A password
is for no slot. -/
def upload (c : Context) : Kind → Upload
  | .set => ⟨c.setActive, c.setRequestId, c.setSlot, c.setTotalLength, c.setReceivedLength,
      c.setStaging⟩
  | .passwordSet => ⟨c.passwordSetActive, c.passwordSetRequestId, 0, c.passwordSetTotalLength,
      c.passwordSetReceivedLength, c.passwordSetStaging⟩
  | .dynamic => ⟨c.dynamicActive, c.dynamicRequestId, c.dynamicSlot, c.dynamicTotalLength,
      c.dynamicReceivedLength, []⟩

/-- The recorded authentication state. -/
def record (c : Context) : Bool × AuthState × Bool :=
  (c.authStateKnown, c.authState, c.authSessionAuthenticated)

/-- The upload is as it was, or dropped. -/
def KeepsOrDrops (kind : Kind) (c c' : Context) : Prop :=
  c'.upload kind = c.upload kind ∨ (c'.upload kind).active = false

/-- No transaction is under way. -/
def AllDropped (c : Context) : Prop := ∀ kind, (c.upload kind).active = false

/-- Outside the touched kinds the record and the uploads are as they were or
dropped. -/
def Carried (touched : Kind → Bool) (c c' : Context) : Prop :=
  (c'.record = c.record ∧ ∀ kind, touched kind = false → KeepsOrDrops kind c c') ∨ AllDropped c'

variable {touched : Kind → Bool} {kind : Kind} {cfg : Config} {c c' c'' : Context}

theorem KeepsOrDrops.refl (kind : Kind) (c : Context) : KeepsOrDrops kind c c := Or.inl rfl

theorem KeepsOrDrops.trans (first : KeepsOrDrops kind c c') (second : KeepsOrDrops kind c' c'') :
    KeepsOrDrops kind c c'' := by
  rcases second with kept | dropped
  · rcases first with before | before
    · exact Or.inl (kept.trans before)
    · exact Or.inr (by rw [kept]; exact before)
  · exact Or.inr dropped

theorem Carried.refl (touched : Kind → Bool) (c : Context) : Carried touched c c :=
  Or.inl ⟨rfl, fun kind _ => KeepsOrDrops.refl kind c⟩

theorem Carried.trans (first : Carried touched c c')
    (second : Carried (fun _ => false) c' c'') : Carried touched c c'' := by
  rcases second with ⟨record, kept⟩ | dropped
  · rcases first with ⟨before, earlier⟩ | before
    · exact Or.inl ⟨record.trans before, fun kind free => (earlier kind free).trans (kept kind rfl)⟩
    · refine Or.inr fun kind => ?_
      rcases kept kind rfl with same | dropped
      · rw [same]
        exact before kind
      · exact dropped
  · exact Or.inr dropped

theorem Carried.keepsOrDrops (carried : Carried touched c c') (free : touched kind = false) :
    KeepsOrDrops kind c c' := by
  rcases carried with ⟨_, kept⟩ | dropped
  · exact kept kind free
  · exact Or.inr (dropped kind)

/-- An upload alive after a step that does not touch it was there before, with
the record. -/
theorem Carried.of_active (carried : Carried touched c c') (free : touched kind = false)
    (active : (c'.upload kind).active = true) :
    c'.record = c.record ∧ c'.upload kind = c.upload kind := by
  rcases carried with ⟨record, kept⟩ | dropped
  · rcases kept kind free with same | dropped
    · exact ⟨record, same⟩
    · exact absurd (active.symm.trans dropped) (by decide)
  · exact absurd (active.symm.trans (dropped kind)) (by decide)

theorem Carried.record_of_active (carried : Carried touched c c')
    (active : (c'.upload kind).active = true) : c'.record = c.record := by
  rcases carried with ⟨record, _⟩ | dropped
  · exact record
  · exact absurd (active.symm.trans (dropped kind)) (by decide)

theorem zero_allDropped (cfg : Config) : AllDropped (.zero cfg) := by
  intro kind
  cases kind <;> rfl

theorem clearSet_carried (c : Context) : Carried touched c (c.clearSet cfg) := by
  refine Or.inl ⟨rfl, fun kind _ => ?_⟩
  cases kind with
  | set => exact Or.inr rfl
  | passwordSet | dynamic => exact Or.inl rfl

theorem clearPasswordSet_carried (c : Context) : Carried touched c c.clearPasswordSet := by
  refine Or.inl ⟨rfl, fun kind _ => ?_⟩
  cases kind with
  | passwordSet => exact Or.inr rfl
  | set | dynamic => exact Or.inl rfl

theorem clearDynamic_carried (c : Context) : Carried touched c c.clearDynamic := by
  refine Or.inl ⟨rfl, fun kind _ => ?_⟩
  cases kind with
  | dynamic => exact Or.inr rfl
  | set | passwordSet => exact Or.inl rfl

end Context

namespace Protocol
open Context

variable {cfg : Config} {hmac : Hmac} {env : Env} {id other : ContextId}
  {request response : Frame} {opcode : Opcode} {w : World} {touched : Kind → Bool}

/-! ## Other contexts -/

theorem finishDynamic_contexts_of_ne (different : other ≠ id) :
    (finishDynamic id w).contexts other = w.contexts other := by
  simp [finishDynamic, different]

theorem refreshDynamicTimeout_contexts_of_ne (different : other ≠ id) :
    (w.refreshDynamicTimeout id env).2.contexts other = w.contexts other := by
  simp [World.refreshDynamicTimeout, World.modify_contexts_of_ne _ _ _ _ different]

theorem begun_contexts_of_ne (different : other ≠ id) :
    (begun cfg env id request w).contexts other = w.contexts other := by
  unfold begun
  rw [refreshDynamicTimeout_contexts_of_ne different, World.modify_contexts_of_ne _ _ _ _ different]
  rfl

theorem dataReceived_contexts_of_ne (different : other ≠ id) :
    (dataReceived cfg env id request w).contexts other = w.contexts other := by
  unfold dataReceived
  rw [World.modify_contexts_of_ne _ _ _ _ different]
  rfl

theorem refreshProtectedSession_contexts_of_ne (different : other ≠ id) :
    (refreshProtectedSession cfg env id response w).2.contexts other = w.contexts other := by
  rcases refreshProtectedSession_cases cfg env id response w with
    ⟨_, auth, _, result⟩ | ⟨_, _, result⟩ | ⟨_, _, auth, _, _, result⟩
  · rw [result]
    rfl
  · rw [result]
    rfl
  · rw [result, World.discard_contexts_of_ne _ _ _ _ _ different]
    rfl

theorem processSet_contexts_of_ne (different : other ≠ id) :
    (processSet cfg env id request response w).2.contexts other = w.contexts other := by
  rcases processSet_cases cfg env id request response w with
    ⟨_, _, result⟩ | ⟨c, _, ⟨_, result⟩ | ⟨_, result⟩⟩
  · rw [result]
    exact World.modify_contexts_of_ne _ _ _ _ different
  · simp only [result, World.modify_contexts_of_ne _ _ _ _ different]
  · obtain ⟨err, slots, settings, _, committed⟩ :=
      commitSet_eq cfg env id response (w.modify id fun _ => c)
    rw [result, committed]
    simp only [World.clearSet, World.modify_contexts_of_ne _ _ _ _ different]

theorem processPasswordSet_contexts_of_ne (different : other ≠ id) :
    (processPasswordSet cfg env id request response w).2.contexts other = w.contexts other := by
  rcases processPasswordSet_cases cfg env id request response w with
    ⟨_, _, result⟩ | ⟨c, _, ⟨_, result⟩ | ⟨_, result⟩⟩
  · rw [result]
    exact World.modify_contexts_of_ne _ _ _ _ different
  · rw [result, refreshProtectedSession_contexts_of_ne different]
    exact World.modify_contexts_of_ne _ _ _ _ different
  · rw [result]
    obtain ⟨err, auth, settings, _, outcome⟩ :=
      commitPasswordSet_cases cfg env id response (w.modify id fun _ => c)
    have done : (passwordSetDone id err auth settings (w.modify id fun _ => c)).contexts other =
        w.contexts other := by
      simp only [passwordSetDone, World.clearPasswordSet,
        World.modify_contexts_of_ne _ _ _ _ different]
    rcases outcome with ⟨_, result⟩ | ⟨_, result⟩ | ⟨_, result⟩ | ⟨_, result⟩
    · rw [result, World.discard_contexts_of_ne _ _ _ _ _ different, done]
    · rw [result, done]
    · rw [result, World.discard_contexts_of_ne _ _ _ _ _ different, done]
    · rw [result, done]

theorem afterHandler_contexts_of_ne (result : Frame × World) (different : other ≠ id) :
    (afterHandler cfg env id result).2.contexts other = result.2.contexts other := by
  unfold afterHandler
  split
  · exact refreshProtectedSession_contexts_of_ne different
  · rfl

theorem processDynamicBegin_contexts_of_ne (different : other ≠ id) :
    (processDynamicBegin cfg env id request response w).2.contexts other = w.contexts other := by
  rcases processDynamicBegin_cases cfg env id request response w with
    ⟨_, _, result⟩ | ⟨_, _, _, _, result⟩ | ⟨_, _, result⟩
  all_goals
    simp only [result, World.clearDynamic_contexts_of_ne _ _ _ _ _ different,
      begun_contexts_of_ne different]

theorem processDynamicData_contexts_of_ne (different : other ≠ id) :
    (processDynamicData cfg env id request response w).2.contexts other = w.contexts other := by
  rcases processDynamicData_cases cfg env id request response w with
    ⟨_, _, result⟩ | ⟨_, _, _, _, result⟩ | ⟨_, _, _, result⟩ | ⟨_, _, _, _, result⟩ |
    ⟨_, _, _, _, result⟩
  all_goals
    simp only [result, World.clearDynamic_contexts_of_ne _ _ _ _ _ different,
      World.withDynamic_contexts, finishDynamic_contexts_of_ne different,
      refreshDynamicTimeout_contexts_of_ne different, dataReceived_contexts_of_ne different]

theorem processDynamicClear_contexts_of_ne (different : other ≠ id) :
    (processDynamicClear cfg env id request response w).2.contexts other = w.contexts other := by
  rcases processDynamicClear_cases cfg env id request response w with ⟨_, _, result⟩ | ⟨_, result⟩
  · rw [result]
  · rw [result]
    unfold slotCleared
    dsimp only
    split
    · rw [finishDynamic_contexts_of_ne different]
      rfl
    · rfl

theorem dispatch_contexts_of_ne (different : other ≠ id) :
    (dispatch cfg hmac env id opcode request response w).2.contexts other = w.contexts other := by
  have managed : ∀ handler : World → Frame × World,
      (∀ w, (handler w).2.contexts other = w.contexts other) →
      (processManagement cfg env id handler response w).2.contexts other = w.contexts other := by
    intro handler kept
    obtain ⟨auth, _, ⟨_, _, _, result⟩ | ⟨_, _, result⟩⟩ :=
      processManagement_cases cfg env id handler response w
    · rw [result, World.discard_contexts_of_ne _ _ _ _ _ different]
      rfl
    · rw [result, afterHandler_contexts_of_ne _ different, kept]
      rfl
  cases opcode with
  | list | get => exact managed _ fun _ => rfl
  | set => exact managed _ fun _ => processSet_contexts_of_ne different
  | clear =>
    refine managed _ fun w => ?_
    rcases processClear_cases cfg env request response w with ⟨_, _, _, result⟩ | ⟨_, result⟩
    · rw [result]
    · rw [result]
  | passwordSet =>
    obtain ⟨auth, _, ⟨_, _, _, result⟩ | ⟨_, _, result⟩⟩ := managementAccess_cases cfg env id w
    · simp only [dispatch, result]
      rw [if_pos (gateStatus_ne_ok _), World.discard_contexts_of_ne _ _ _ _ _ different]
      rfl
    · simp only [dispatch, result]
      rw [if_neg (by simp), processPasswordSet_contexts_of_ne different]
      rfl
  | capabilities => rfl
  | dynamicBegin => exact processDynamicBegin_contexts_of_ne different
  | dynamicData => exact processDynamicData_contexts_of_ne different
  | dynamicClear => exact processDynamicClear_contexts_of_ne different
  | authInfo =>
    obtain ⟨answer, auth, _, result⟩ := processAuthInfo_cases env request response w
    simp only [dispatch, result, World.withAuth_contexts]
  | authChallenge =>
    rcases processAuthChallenge_cases cfg env request response w with
      result | ⟨outcome, auth, _, result⟩
    · simp only [dispatch, result]
    · simp only [dispatch, result, World.withAuth_contexts]
  | authProve =>
    rcases processAuthProve_cases cfg hmac env id request response w with
      ⟨_, _, result⟩ | ⟨_, auth, _, result⟩
    · simp only [dispatch, result, World.discard_contexts_of_ne _ _ _ _ _ different]
    · simp only [dispatch, result, World.discard_contexts_of_ne _ _ _ _ _ different,
        World.withAuth_contexts]
  | lock =>
    rcases processLock_cases cfg env id request response w with result | result
    · simp only [dispatch, result]
    · simp only [dispatch, result, World.discard_contexts_of_ne _ _ _ _ _ different,
        World.withAuth_contexts]

theorem syncAuthState_contexts_of_ne (different : other ≠ id) :
    (syncAuthState cfg env id w).contexts other = w.contexts other := by
  rcases syncAuthState_cases cfg env id w with ⟨_, synced⟩ | ⟨_, synced⟩
  · simp only [synced, World.clearSet, World.clearPasswordSet,
      World.modify_contexts_of_ne _ _ _ _ different,
      World.clearDynamic_contexts_of_ne _ _ _ _ _ different, World.withAuth_contexts]
  · simp only [synced, World.modify_contexts_of_ne _ _ _ _ different, World.withAuth_contexts]

/-- A frame touches its own context only. -/
theorem processFrame_contexts_of_ne (cfg : Config) (hmac : Hmac) (env : Env) (request : Frame)
    (w : World) (different : other ≠ id) :
    (processFrame cfg hmac env id request w).2.contexts other = w.contexts other := by
  cases checked : baseCheck request with
  | error status =>
    simp only [processFrame, checked]
    rcases discardForOpcode_cases cfg id (env.clock .cleanup) request.opcode
      (syncAuthState cfg env id w) with same | same | same | same
    all_goals
      simp only [same, World.clearSet, World.clearPasswordSet,
        World.modify_contexts_of_ne _ _ _ _ different,
        World.clearDynamic_contexts_of_ne _ _ _ _ _ different,
        syncAuthState_contexts_of_ne different]
  | ok opcode =>
    simp only [processFrame, checked, dispatch_contexts_of_ne different,
      syncAuthState_contexts_of_ne different]

/-! ## The context of the frame -/

/-- The uploads the handler of an opcode may start or continue. -/
def touches : Opcode → Kind → Bool
  | .set, .set | .passwordSet, .passwordSet | .dynamicBegin, .dynamic | .dynamicData, .dynamic =>
    true
  | _, _ => false

theorem discard_carried {w' : World} (nowMs : Int) (c : Context) :
    Carried touched c ((w'.discard cfg id nowMs).contexts id) := by
  rw [World.discard_contexts_self]
  exact Or.inr (zero_allDropped cfg)

theorem refreshProtectedSession_carried (cfg : Config) (env : Env) (id : ContextId)
    (response : Frame) (w : World) :
    Carried touched (w.contexts id)
      ((refreshProtectedSession cfg env id response w).2.contexts id) := by
  rcases refreshProtectedSession_cases cfg env id response w with
    ⟨_, auth, _, result⟩ | ⟨_, _, result⟩ | ⟨_, _, auth, _, _, result⟩
  · rw [result]
    exact Carried.refl _ _
  · rw [result]
    exact Carried.refl _ _
  · rw [result]
    exact discard_carried _ _

theorem finishDynamic_carried :
    Carried touched (w.contexts id) ((finishDynamic id w).contexts id) := by
  simp only [finishDynamic, Function.update_self]
  exact clearDynamic_carried _

theorem afterHandler_carried (result : Frame × World) :
    Carried touched (result.2.contexts id) ((afterHandler cfg env id result).2.contexts id) := by
  unfold afterHandler
  split
  · exact refreshProtectedSession_carried _ _ _ _ _
  · exact Carried.refl _ _

theorem SetAccepted.carried {c c' : Context} (accepted : SetAccepted cfg request c c') :
    Carried (touches .set) c c' := by
  obtain ⟨_, ⟨_, rfl⟩ | ⟨_, rfl⟩⟩ := accepted
  all_goals
    refine Or.inl ⟨rfl, fun kind free => ?_⟩
    cases kind with
    | set => cases free
    | passwordSet | dynamic => exact Or.inl rfl

theorem PasswordSetAccepted.carried {c c' : Context} (accepted : PasswordSetAccepted request c c') :
    Carried (touches .passwordSet) c c' := by
  obtain ⟨_, ⟨_, rfl⟩ | ⟨_, rfl⟩⟩ := accepted
  all_goals
    refine Or.inl ⟨rfl, fun kind free => ?_⟩
    cases kind with
    | passwordSet => cases free
    | set | dynamic => exact Or.inl rfl

theorem processSet_carried : Carried (touches .set) (w.contexts id)
    ((processSet cfg env id request response w).2.contexts id) := by
  rcases processSet_cases cfg env id request response w with
    ⟨_, _, result⟩ | ⟨c, accepted, ⟨_, result⟩ | ⟨_, result⟩⟩
  · rw [result, World.clearSet_contexts_self]
    exact clearSet_carried _
  · simp only [result, World.modify_contexts_self]
    exact accepted.carried
  · obtain ⟨err, slots, settings, _, committed⟩ :=
      commitSet_eq cfg env id response (w.modify id fun _ => c)
    simp only [result, committed, World.clearSet_contexts_self, World.modify_contexts_self]
    exact accepted.carried.trans (clearSet_carried c)

theorem processPasswordSet_carried : Carried (touches .passwordSet) (w.contexts id)
    ((processPasswordSet cfg env id request response w).2.contexts id) := by
  rcases processPasswordSet_cases cfg env id request response w with
    ⟨_, _, result⟩ | ⟨c, accepted, ⟨_, result⟩ | ⟨_, result⟩⟩
  · rw [result, World.clearPasswordSet_contexts_self]
    exact clearPasswordSet_carried _
  · rw [result]
    have staged : (w.modify id fun _ => c).contexts id = c := World.modify_contexts_self _ _ _
    have refreshed : Carried (fun _ => false) ((w.modify id fun _ => c).contexts id) _ :=
      refreshProtectedSession_carried cfg env id
        (response.setSuccess c.passwordSetReceivedLength c.passwordSetTotalLength) _
    rw [staged] at refreshed
    exact accepted.carried.trans refreshed
  · rw [result]
    obtain ⟨err, auth, settings, _, outcome⟩ :=
      commitPasswordSet_cases cfg env id response (w.modify id fun _ => c)
    have done : (passwordSetDone id err auth settings (w.modify id fun _ => c)).contexts id =
        c.clearPasswordSet := by
      simp only [passwordSetDone, World.clearPasswordSet_contexts_self, World.modify_contexts_self]
    have dropped : Carried (touches .passwordSet) (w.contexts id) c.clearPasswordSet :=
      accepted.carried.trans (clearPasswordSet_carried c)
    rcases outcome with ⟨_, result⟩ | ⟨_, result⟩ | ⟨_, result⟩ | ⟨_, result⟩
    · rw [result]
      exact discard_carried _ _
    · rw [result, done]
      exact dropped
    · rw [result]
      exact discard_carried _ _
    · rw [result, done]
      exact dropped

/-- Whatever a dynamic handler does to its context happens to the dynamic
upload. -/
theorem dynamic_carried {c c' : Context} (touching : touched .dynamic = true)
    (record : c'.record = c.record) (set : c'.upload .set = c.upload .set)
    (passwordSet : c'.upload .passwordSet = c.upload .passwordSet) : Carried touched c c' := by
  refine Or.inl ⟨record, fun kind free => ?_⟩
  cases kind with
  | set => exact Or.inl set
  | passwordSet => exact Or.inl passwordSet
  | dynamic => exact absurd (touching.symm.trans free) (by decide)

theorem processDynamicBegin_carried : Carried (touches .dynamicBegin) (w.contexts id)
    ((processDynamicBegin cfg env id request response w).2.contexts id) := by
  have started : (begun cfg env id request w).contexts id =
      { startDynamic request (w.contexts id) with
        dynamicDeadlineMs :=
          env.clock .timeout + (dynamicTransactionTimeoutSeconds : Int) * 1000 } := by
    simp [begun, World.refreshDynamicTimeout]
  rcases processDynamicBegin_cases cfg env id request response w with
    ⟨_, _, result⟩ | ⟨_, _, _, _, result⟩ | ⟨_, _, result⟩
  · rw [result, World.clearDynamic_contexts_self]
    exact clearDynamic_carried _
  · rw [result, World.clearDynamic_contexts_self, started]
    exact dynamic_carried rfl rfl rfl rfl
  · rw [result, started]
    exact dynamic_carried rfl rfl rfl rfl

theorem dataReceived_contexts_self : (dataReceived cfg env id request w).contexts id =
    { w.contexts id with
      dynamicReceivedLength := request.offset + request.payloadLength } := by
  unfold dataReceived
  rw [World.modify_contexts_self]
  rfl

theorem refreshDynamicTimeout_contexts_self :
    (w.refreshDynamicTimeout id env).2.contexts id = { w.contexts id with
      dynamicDeadlineMs :=
        env.clock .timeout + (dynamicTransactionTimeoutSeconds : Int) * 1000 } := by
  simp [World.refreshDynamicTimeout]

theorem processDynamicData_carried : Carried (touches .dynamicData) (w.contexts id)
    ((processDynamicData cfg env id request response w).2.contexts id) := by
  rcases processDynamicData_cases cfg env id request response w with
    ⟨_, _, result⟩ | ⟨_, _, _, _, result⟩ | ⟨_, _, _, result⟩ | ⟨_, _, _, _, result⟩ |
    ⟨_, _, _, _, result⟩
  · rw [result, World.clearDynamic_contexts_self]
    exact clearDynamic_carried _
  · rw [result, World.clearDynamic_contexts_self]
    exact clearDynamic_carried _
  · simp only [result, finishDynamic, Function.update_self, dataReceived_contexts_self]
    exact dynamic_carried rfl rfl rfl rfl
  · simp only [result, World.clearDynamic_contexts_self, refreshDynamicTimeout_contexts_self,
      dataReceived_contexts_self]
    exact dynamic_carried rfl rfl rfl rfl
  · simp only [result, refreshDynamicTimeout_contexts_self, dataReceived_contexts_self]
    exact dynamic_carried rfl rfl rfl rfl

theorem dispatch_carried : Carried (touches opcode) (w.contexts id)
    ((dispatch cfg hmac env id opcode request response w).2.contexts id) := by
  have managed : ∀ (handler : World → Frame × World) (touched : Kind → Bool),
      (∀ w, Carried touched (w.contexts id) ((handler w).2.contexts id)) →
      Carried touched (w.contexts id)
        ((processManagement cfg env id handler response w).2.contexts id) := by
    intro handler touched handled
    obtain ⟨auth, _, ⟨_, _, _, result⟩ | ⟨_, _, result⟩⟩ :=
      processManagement_cases cfg env id handler response w
    · rw [result]
      exact discard_carried _ _
    · rw [result]
      exact (handled (w.withAuth auth)).trans (afterHandler_carried _)
  cases opcode with
  | list | get => exact managed _ _ fun _ => Carried.refl _ _
  | set => exact managed _ _ fun _ => processSet_carried
  | clear =>
    refine managed _ _ fun w => ?_
    rcases processClear_cases cfg env request response w with ⟨_, _, _, result⟩ | ⟨_, result⟩
    · rw [result]
      exact Carried.refl _ _
    · rw [result]
      exact Carried.refl _ _
  | passwordSet =>
    obtain ⟨auth, _, ⟨_, _, _, result⟩ | ⟨_, _, result⟩⟩ := managementAccess_cases cfg env id w
    · simp only [dispatch, result]
      rw [if_pos (gateStatus_ne_ok _)]
      exact discard_carried _ _
    · simp only [dispatch, result]
      rw [if_neg (by simp)]
      exact processPasswordSet_carried (w := w.withAuth auth)
  | capabilities => exact Carried.refl _ _
  | dynamicBegin => exact processDynamicBegin_carried
  | dynamicData => exact processDynamicData_carried
  | dynamicClear =>
    rcases processDynamicClear_cases cfg env id request response w with
      ⟨_, _, result⟩ | ⟨_, result⟩
    · simp only [dispatch, result]
      exact Carried.refl _ _
    · simp only [dispatch, result]
      unfold slotCleared
      dsimp only
      split
      · exact finishDynamic_carried (w := w.withDynamic _)
      · exact Carried.refl _ _
  | authInfo =>
    obtain ⟨answer, auth, _, result⟩ := processAuthInfo_cases env request response w
    simp only [dispatch, result]
    exact Carried.refl _ _
  | authChallenge =>
    rcases processAuthChallenge_cases cfg env request response w with
      result | ⟨outcome, auth, _, result⟩
    · simp only [dispatch, result]
      exact Carried.refl _ _
    · simp only [dispatch, result]
      exact Carried.refl _ _
  | authProve =>
    rcases processAuthProve_cases cfg hmac env id request response w with
      ⟨_, _, result⟩ | ⟨_, auth, _, result⟩
    · simp only [dispatch, result]
      exact discard_carried _ _
    · simp only [dispatch, result]
      exact discard_carried _ _
  | lock =>
    rcases processLock_cases cfg env id request response w with result | result
    · simp only [dispatch, result]
      exact Carried.refl _ _
    · simp only [dispatch, result]
      exact discard_carried _ _

/-- The discard of a refused frame drops the upload of its opcode. -/
theorem discardForOpcode_carried (touched : Kind → Bool) (nowMs : Int) (byte : UInt8) :
    Carried touched (w.contexts id) ((discardForOpcode cfg id nowMs byte w).contexts id) := by
  rcases discardForOpcode_cases cfg id nowMs byte w with same | same | same | same
  · rw [same]
    exact Carried.refl _ _
  · rw [same, World.clearSet_contexts_self]
    exact clearSet_carried _
  · rw [same, World.clearPasswordSet_contexts_self]
    exact clearPasswordSet_carried _
  · rw [same, World.clearDynamic_contexts_self]
    exact clearDynamic_carried _

/-- The synchronised context: a stale record costs it all uploads. -/
theorem syncAuthState_uploads (cfg : Config) (env : Env) (id : ContextId) (w : World)
    (kind : Kind) :
    (Stale env w.auth (w.contexts id) ∧
      (((syncAuthState cfg env id w).contexts id).upload kind).active = false) ∨
    (¬ Stale env w.auth (w.contexts id) ∧
      ((syncAuthState cfg env id w).contexts id).upload kind = (w.contexts id).upload kind) := by
  rcases syncAuthState_cases cfg env id w with ⟨stale, synced⟩ | ⟨fresh, synced⟩
  · refine Or.inl ⟨stale, ?_⟩
    simp only [synced, World.modify_contexts_self, World.clearDynamic_contexts_self,
      World.clearPasswordSet_contexts_self, World.clearSet_contexts_self, World.withAuth_contexts]
    cases kind <;> rfl
  · refine Or.inr ⟨fresh, ?_⟩
    simp only [synced, World.modify_contexts_self, World.withAuth_contexts]
    cases kind <;> rfl

theorem syncAuthState_record :
    ((syncAuthState cfg env id w).contexts id).record =
      (true, w.auth.state, (observedSession env w.auth).1) := by
  rcases syncAuthState_cases cfg env id w with ⟨_, synced⟩ | ⟨_, synced⟩
  · simp only [synced, World.modify_contexts_self]
    rfl
  · simp only [synced, World.modify_contexts_self]
    rfl

theorem syncAuthState_keepsOrDrops (kind : Kind) :
    KeepsOrDrops kind (w.contexts id) ((syncAuthState cfg env id w).contexts id) := by
  rcases syncAuthState_uploads cfg env id w kind with
    ⟨_, dropped⟩ | ⟨_, same⟩
  · exact Or.inr dropped
  · exact Or.inl same

/-- An upload active after the observation was active before, on a record that
was not stale. -/
theorem active_of_synced {kind : Kind}
    (active : (((syncAuthState cfg env id w).contexts id).upload kind).active = true) :
    ¬ Stale env w.auth (w.contexts id) ∧ ((w.contexts id).upload kind).active = true := by
  rcases syncAuthState_uploads cfg env id w kind with ⟨_, dropped⟩ | ⟨fresh, same⟩
  · exact absurd (active.symm.trans dropped) (by decide)
  · exact ⟨fresh, same ▸ active⟩

/-- A frame whose opcode is not about the kind keeps the upload or drops it. -/
theorem processFrame_keepsOrDrops {kind : Kind}
    (free : ∀ opcode, Opcode.ofByte request.opcode = some opcode → touches opcode kind = false) :
    KeepsOrDrops kind (w.contexts id) ((processFrame cfg hmac env id request w).2.contexts id) := by
  have synced : KeepsOrDrops kind (w.contexts id) ((syncAuthState cfg env id w).contexts id) :=
    syncAuthState_keepsOrDrops kind
  refine synced.trans ?_
  cases checked : baseCheck request with
  | error status =>
    simp only [processFrame, checked]
    exact (discardForOpcode_carried (fun _ => false) _ _).keepsOrDrops rfl
  | ok opcode =>
    simp only [processFrame, checked]
    exact dispatch_carried.keepsOrDrops (free opcode (baseCheck_opcode checked))

end Protocol

namespace FrameStep

variable {cfg : Config} {hmac : AuthCore.Hmac} {id : ContextId} {kind : Kind} {w w' : World}
  {exchange : Exchange}

theorem contexts_of_ne (step : FrameStep cfg hmac w exchange w') (elsewhere : exchange.id ≠ id) :
    w'.contexts id = w.contexts id := by
  have same := Protocol.processFrame_contexts_of_ne cfg hmac exchange.env exchange.request w
    (Ne.symm elsewhere)
  rw [step.result] at same
  exact same

/-- An exchange on another context, or not about the kind, keeps the upload or
drops it. -/
theorem keepsOrDrops (step : FrameStep cfg hmac w exchange w')
    (free : exchange.id = id → ∀ opcode, exchange.opcode = some opcode →
      Protocol.touches opcode kind = false) :
    Context.KeepsOrDrops kind (w.contexts id) (w'.contexts id) := by
  by_cases own : exchange.id = id
  · subst own
    have kept : Context.KeepsOrDrops kind (w.contexts exchange.id)
        ((Protocol.processFrame cfg hmac exchange.env exchange.id exchange.request w).2.contexts
          exchange.id) := Protocol.processFrame_keepsOrDrops (free rfl)
    rw [step.result] at kept
    exact kept
  · rw [step.contexts_of_ne own]
    exact Context.KeepsOrDrops.refl kind _

end FrameStep

end RuntimeMacro.Source
