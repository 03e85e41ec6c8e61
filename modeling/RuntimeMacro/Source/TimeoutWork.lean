import RuntimeMacro.Source.ContextShapes

/-!
# The timeout work of dynamic uploads

One work item serves all contexts, through the pointer to its owner. Every
frame either leaves the upload without an end, or leaves its deadline and its
work item alone, or is an accepted BEGIN or DATA and re-arms the item for the
new deadline (runtime_macro_protocol.c:60-138, 455-642).
-/
namespace RuntimeMacro.Source
open Protocol
open AuthCore (Hmac)

variable {cfg : Config} {hmac : Hmac} {env : Env} {id : ContextId} {request response : Frame}
  {w w' w'' : World} {nowMs : Int} {c c' : Context}

/-- An upload that is active afterwards was active before, with the same
deadline, and a work item that it owned is scheduled as it was. -/
structure WorkKept (id : ContextId) (w w' : World) : Prop where
  kept (active : (w'.contexts id).dynamicActive = true) : (w.contexts id).dynamicActive = true ∧
    (w'.contexts id).dynamicDeadlineMs = (w.contexts id).dynamicDeadlineMs ∧
    (w.timeoutOwner = some id → w'.timeoutOwner = some id ∧ w'.timeoutWork = w.timeoutWork)

namespace WorkKept

theorem refl (id : ContextId) (w : World) : WorkKept id w w :=
  ⟨fun active => ⟨active, rfl, fun owned => ⟨owned, rfl⟩⟩⟩

theorem trans (first : WorkKept id w w') (second : WorkKept id w' w'') : WorkKept id w w'' := by
  constructor
  intro active
  obtain ⟨active', deadline', work'⟩ := second.kept active
  obtain ⟨before, deadline, work⟩ := first.kept active'
  refine ⟨before, deadline'.trans deadline, fun owned => ?_⟩
  obtain ⟨owned', same⟩ := work owned
  obtain ⟨owned'', same'⟩ := work' owned'
  exact ⟨owned'', same'.trans same⟩

theorem of_dropped (gone : (w'.contexts id).dynamicActive = false) : WorkKept id w w' :=
  ⟨fun active => absurd (gone.symm.trans active) (by decide)⟩

/-- The dynamic part of the context and the work item are as they were. -/
theorem of_same (active : (w'.contexts id).dynamicActive = (w.contexts id).dynamicActive)
    (deadline : (w'.contexts id).dynamicDeadlineMs = (w.contexts id).dynamicDeadlineMs)
    (owner : w'.timeoutOwner = w.timeoutOwner) (work : w'.timeoutWork = w.timeoutWork) :
    WorkKept id w w' :=
  ⟨fun staged => ⟨active.symm.trans staged, deadline, fun owned => ⟨owner.trans owned, work⟩⟩⟩

theorem withAuth (id : ContextId) (auth : AuthCore.State) (w : World) :
    WorkKept id w (w.withAuth auth) :=
  of_same rfl rfl rfl rfl

theorem modify {f : Context → Context}
    (active : (f (w.contexts id)).dynamicActive = (w.contexts id).dynamicActive)
    (deadline : (f (w.contexts id)).dynamicDeadlineMs = (w.contexts id).dynamicDeadlineMs) :
    WorkKept id w (w.modify id f) := by
  apply of_same
  · rw [World.modify_contexts_self]
    exact active
  · rw [World.modify_contexts_self]
    exact deadline
  · rfl
  · rfl

theorem clearDynamic_any (cfg : Config) (id other : ContextId) (nowMs : Int) (w : World) :
    WorkKept id w (w.clearDynamic cfg other nowMs) := by
  by_cases same : id = other
  · subst same
    apply of_dropped
    rw [World.clearDynamic_contexts_self]
    rfl
  · constructor
    intro active
    have apart := World.clearDynamic_contexts_of_ne cfg other id nowMs w same
    rw [apart] at active ⊢
    refine ⟨active, rfl, fun owned => ?_⟩
    have foreign : ¬ w.timeoutOwner = some other := fun theirs =>
      same (Option.some.inj (owned.symm.trans theirs))
    simp only [World.clearDynamic, foreign, if_false]
    exact ⟨owned, trivial⟩

theorem discard_any (cfg : Config) (id other : ContextId) (nowMs : Int) (w : World) :
    WorkKept id w (w.discard cfg other nowMs) := by
  by_cases same : id = other
  · subst same
    apply of_dropped
    rw [World.discard_contexts_self]
    rfl
  · apply (clearDynamic_any cfg id other nowMs w).trans
    apply of_same
    · rw [World.discard, World.modify_contexts_of_ne _ _ _ _ same]
    · rw [World.discard, World.modify_contexts_of_ne _ _ _ _ same]
    · rfl
    · rfl

end WorkKept

/-! ## Frames that are no uploads -/

theorem syncAuthState_work (cfg : Config) (env : Env) (id : ContextId) (w : World) :
    WorkKept id w (syncAuthState cfg env id w) := by
  rcases syncAuthState_cases cfg env id w with ⟨_, synced⟩ | ⟨_, synced⟩
  · rw [synced]
    apply WorkKept.of_dropped
    rw [World.modify_contexts_self]
    simp only [Context.observe, World.clearDynamic_contexts_self]
    rfl
  · rw [synced]
    exact (WorkKept.withAuth id _ w).trans (.modify rfl rfl)

theorem discardForOpcode_work (cfg : Config) (id : ContextId) (nowMs : Int) (byte : UInt8)
    (w : World) : WorkKept id w (discardForOpcode cfg id nowMs byte w) := by
  rcases discardForOpcode_cases cfg id nowMs byte w with same | same | same | same
  · rw [same]
    exact .refl id w
  · rw [same]
    exact .modify rfl rfl
  · rw [same]
    exact .modify rfl rfl
  · rw [same]
    exact .clearDynamic_any ..

theorem refreshProtectedSession_work (cfg : Config) (env : Env) (id : ContextId)
    (response : Frame) (w : World) :
    WorkKept id w (refreshProtectedSession cfg env id response w).2 := by
  rcases refreshProtectedSession_cases cfg env id response w with
    ⟨_, auth, _, result⟩ | ⟨_, _, result⟩ | ⟨_, _, auth, _, _, result⟩
  · rw [result]
    exact .withAuth ..
  · rw [result]
    exact .withAuth ..
  · rw [result]
    exact (WorkKept.withAuth ..).trans (.discard_any ..)

theorem afterHandler_work {result : Frame × World} (kept : WorkKept id w result.2) :
    WorkKept id w (afterHandler cfg env id result).2 := by
  unfold afterHandler
  split
  · exact kept.trans (refreshProtectedSession_work ..)
  · exact kept

theorem processManagement_work {handler : World → Frame × World}
    (handled : ∀ w, WorkKept id w (handler w).2) :
    WorkKept id w (processManagement cfg env id handler response w).2 := by
  obtain ⟨auth, _, ⟨_, _, _, refused⟩ | ⟨_, _, passed⟩⟩ :=
    processManagement_cases cfg env id handler response w
  · rw [refused]
    exact (WorkKept.withAuth ..).trans (.discard_any ..)
  · rw [passed]
    exact afterHandler_work ((WorkKept.withAuth id auth w).trans (handled _))

theorem setAccepted_timed (accepted : SetAccepted cfg request c c') :
    c'.dynamicActive = c.dynamicActive ∧ c'.dynamicDeadlineMs = c.dynamicDeadlineMs := by
  obtain ⟨_, ⟨_, rfl⟩ | ⟨_, rfl⟩⟩ := accepted
  · exact ⟨rfl, rfl⟩
  · exact ⟨rfl, rfl⟩

theorem passwordSetAccepted_timed (accepted : PasswordSetAccepted request c c') :
    c'.dynamicActive = c.dynamicActive ∧ c'.dynamicDeadlineMs = c.dynamicDeadlineMs := by
  obtain ⟨_, ⟨_, rfl⟩ | ⟨_, rfl⟩⟩ := accepted
  · exact ⟨rfl, rfl⟩
  · exact ⟨rfl, rfl⟩

theorem processSet_work (w : World) :
    WorkKept id w (processSet cfg env id request response w).2 := by
  rcases processSet_cases cfg env id request response w with
    ⟨_, _, refused⟩ | ⟨c', accepted, ⟨_, staged⟩ | ⟨_, complete⟩⟩
  · rw [refused]
    exact .modify rfl rfl
  · obtain ⟨active, deadline⟩ := setAccepted_timed accepted
    have kept : WorkKept id w (w.modify id fun _ => c') := .modify active deadline
    rw [staged]
    exact kept
  · obtain ⟨active, deadline⟩ := setAccepted_timed accepted
    obtain ⟨err, slots, settings, _, result⟩ :=
      commitSet_eq cfg env id response (w.modify id fun _ => c')
    have kept : WorkKept id w (w.modify id fun _ => c') :=
      .modify active deadline
    rw [complete, result]
    apply kept.trans
    apply WorkKept.of_same
    · rw [World.clearSet_contexts_self]
      rfl
    · rw [World.clearSet_contexts_self]
      rfl
    · rfl
    · rfl

theorem processPasswordSet_work (w : World) :
    WorkKept id w (processPasswordSet cfg env id request response w).2 := by
  rcases processPasswordSet_cases cfg env id request response w with
    ⟨_, _, refused⟩ | ⟨c', accepted, ⟨_, staged⟩ | ⟨_, complete⟩⟩
  · rw [refused]
    exact .modify rfl rfl
  · obtain ⟨active, deadline⟩ := passwordSetAccepted_timed accepted
    rw [staged]
    exact (WorkKept.modify active deadline).trans
      (refreshProtectedSession_work ..)
  · obtain ⟨active, deadline⟩ := passwordSetAccepted_timed accepted
    obtain ⟨err, auth, settings, _, outcome⟩ :=
      commitPasswordSet_cases cfg env id response (w.modify id fun _ => c')
    have kept : WorkKept id w (w.modify id fun _ => c') :=
      .modify active deadline
    have done : WorkKept id w (passwordSetDone id err auth settings (w.modify id fun _ => c')) := by
      apply kept.trans
      apply WorkKept.of_same
      · rw [passwordSetDone, World.clearPasswordSet_contexts_self]
        rfl
      · rw [passwordSetDone, World.clearPasswordSet_contexts_self]
        rfl
      · rfl
      · rfl
    rw [complete]
    rcases outcome with ⟨_, result⟩ | ⟨_, result⟩ | ⟨_, result⟩ | ⟨_, result⟩
    · rw [result]
      exact done.trans (.discard_any ..)
    · rw [result]
      exact done
    · rw [result]
      exact done.trans (.discard_any ..)
    · rw [result]
      exact done

theorem processDynamicClear_work (w : World) :
    WorkKept id w (processDynamicClear cfg env id request response w).2 := by
  rcases processDynamicClear_cases cfg env id request response w with
    ⟨_, _, refused⟩ | ⟨_, cleared⟩
  · rw [refused]
    exact .refl id w
  · rw [cleared]
    unfold slotCleared
    dsimp only
    split
    · apply WorkKept.of_dropped
      simp only [finishDynamic, Function.update_self]
      rfl
    · exact .of_same rfl rfl rfl rfl

theorem dispatch_work {opcode : Opcode} (notBegin : opcode ≠ .dynamicBegin)
    (notData : opcode ≠ .dynamicData) :
    WorkKept id w (dispatch cfg hmac env id opcode request response w).2 := by
  cases opcode with
  | capabilities => exact .refl id w
  | dynamicBegin => exact absurd rfl notBegin
  | dynamicData => exact absurd rfl notData
  | dynamicClear => exact processDynamicClear_work w
  | authInfo =>
    obtain ⟨answer, auth, _, result⟩ := processAuthInfo_cases env request response w
    simp only [dispatch, result]
    exact .withAuth ..
  | authChallenge =>
    rcases processAuthChallenge_cases cfg env request response w with
      refused | ⟨_, auth, _, result⟩
    · simp only [dispatch, refused]
      exact .refl id w
    · simp only [dispatch, result]
      exact .withAuth ..
  | authProve =>
    rcases processAuthProve_cases cfg hmac env id request response w with
      ⟨_, _, refused⟩ | ⟨_, _, _, result⟩
    · simp only [dispatch, refused]
      exact .discard_any ..
    · simp only [dispatch, result]
      exact (WorkKept.withAuth ..).trans (.discard_any ..)
  | lock =>
    rcases processLock_cases cfg env id request response w with refused | locked
    · simp only [dispatch, refused]
      exact .refl id w
    · simp only [dispatch, locked]
      exact (WorkKept.withAuth ..).trans (.discard_any ..)
  | list => exact processManagement_work fun w => .refl id w
  | get => exact processManagement_work fun w => .refl id w
  | set => exact processManagement_work processSet_work
  | clear =>
    apply processManagement_work
    intro w
    rcases processClear_cases cfg env request response w with ⟨_, _, _, refused⟩ | ⟨_, cleared⟩
    · rw [refused]
      exact .refl id w
    · rw [cleared]
      exact .of_same rfl rfl rfl rfl
  | passwordSet =>
    obtain ⟨auth, _, ⟨_, _, _, refused⟩ | ⟨_, _, granted⟩⟩ := managementAccess_cases cfg env id w
    · simp only [dispatch, refused]
      rw [if_pos (gateStatus_ne_ok _)]
      exact (WorkKept.withAuth ..).trans (.discard_any ..)
    · simp only [dispatch, granted]
      rw [if_neg (by simp)]
      exact (WorkKept.withAuth ..).trans (processPasswordSet_work _)

/-! ## The whole frame -/

/-- A BEGIN or DATA frame. -/
def aboutUpload (request : Frame) : Prop :=
  Opcode.ofByte request.opcode = some .dynamicBegin ∨
    Opcode.ofByte request.opcode = some .dynamicData

/-- What a frame does to the timeout of its context. -/
inductive FrameWork (env : Env) (id : ContextId) (request response : Frame) (w w' : World) : Prop
  | dropped (gone : (w'.contexts id).dynamicActive = false)
  | kept (silent : aboutUpload request → response.status ≠ Status.ok.code)
      (work : WorkKept id w w')
  | rearmed (upload : aboutUpload request) (accepted : response.status = Status.ok.code)
      (deadline : (w'.contexts id).dynamicDeadlineMs = env.clock .timeout + 30000)
      (owner : w'.timeoutOwner = some id)
      (work : w'.timeoutWork = some (env.clock .timeout + 30000))

theorem refreshDynamicTimeout_rearms (schedulable : 0 ≤ env.rescheduleErr) (w : World) :
    ((w.refreshDynamicTimeout id env).2.contexts id).dynamicDeadlineMs =
      env.clock .timeout + 30000 ∧
    (w.refreshDynamicTimeout id env).2.timeoutOwner = some id ∧
    (w.refreshDynamicTimeout id env).2.timeoutWork = some (env.clock .timeout + 30000) := by
  have scheduled : ¬ env.rescheduleErr < 0 := by omega
  refine ⟨?_, rfl, if_neg scheduled⟩
  rw [refreshDynamicTimeout_contexts_self]
  rfl

theorem clearDynamic_gone (cfg : Config) (id : ContextId) (nowMs : Int) (w : World) :
    ((w.clearDynamic cfg id nowMs).contexts id).dynamicActive = false := by
  rw [World.clearDynamic_contexts_self]
  rfl

theorem processDynamicBegin_work (schedulable : 0 ≤ env.rescheduleErr) (w₀ w : World)
    (isBegin : Opcode.ofByte request.opcode = some .dynamicBegin) :
    FrameWork env id request (processDynamicBegin cfg env id request response w).1 w₀
      (processDynamicBegin cfg env id request response w).2 := by
  rcases processDynamicBegin_cases cfg env id request response w with
    ⟨_, _, result⟩ | ⟨_, _, _, _, result⟩ | ⟨_, _, result⟩
  · rw [result]
    exact .dropped (clearDynamic_gone ..)
  · rw [result]
    exact .dropped (clearDynamic_gone ..)
  · rw [result]
    obtain ⟨deadline, owner, work⟩ := @refreshDynamicTimeout_rearms env id schedulable _
    exact .rearmed (Or.inl isBegin) (Frame.status_setSuccess ..) deadline owner work

theorem processDynamicData_work (schedulable : 0 ≤ env.rescheduleErr) (w₀ w : World)
    (isData : Opcode.ofByte request.opcode = some .dynamicData) :
    FrameWork env id request (processDynamicData cfg env id request response w).1 w₀
      (processDynamicData cfg env id request response w).2 := by
  rcases processDynamicData_cases cfg env id request response w with
    ⟨_, _, result⟩ | ⟨_, _, _, _, result⟩ | ⟨_, _, _, result⟩ | ⟨_, _, _, _, result⟩ |
    ⟨_, _, _, _, result⟩
  · rw [result]
    exact .dropped (clearDynamic_gone ..)
  · rw [result]
    exact .dropped (clearDynamic_gone ..)
  · rw [result]
    apply FrameWork.dropped
    simp only [finishDynamic, Function.update_self]
    rfl
  · rw [result]
    exact .dropped (clearDynamic_gone ..)
  · rw [result]
    obtain ⟨deadline, owner, work⟩ := @refreshDynamicTimeout_rearms env id schedulable _
    exact .rearmed (Or.inr isData) (Frame.status_setSuccess ..) deadline owner work

theorem processFrame_work (cfg : Config) (hmac : Hmac) (id : ContextId)
    (schedulable : 0 ≤ env.rescheduleErr) (request : Frame) (w : World) :
    FrameWork env id request (processFrame cfg hmac env id request w).1 w
      (processFrame cfg hmac env id request w).2 := by
  have synced := syncAuthState_work cfg env id w
  cases checked : baseCheck request with
  | error status =>
    have bad := baseCheck_ne_ok checked
    simp only [processFrame, checked]
    exact .kept (fun _ => by simpa using bad) (synced.trans (discardForOpcode_work ..))
  | ok opcode =>
    have known := baseCheck_opcode checked
    simp only [processFrame, checked]
    by_cases isBegin : opcode = .dynamicBegin
    · subst isBegin
      exact processDynamicBegin_work schedulable w _ known
    · by_cases isData : opcode = .dynamicData
      · subst isData
        exact processDynamicData_work schedulable w _ known
      · apply FrameWork.kept _ (synced.trans (dispatch_work isBegin isData))
        rintro (aimed | aimed)
        · exact absurd (Option.some.inj (known.symm.trans aimed)) isBegin
        · exact absurd (Option.some.inj (known.symm.trans aimed)) isData

end RuntimeMacro.Source
