import RuntimeMacro.Source.FrameUploads

/-!
# SET frames

runtime_macro_protocol.c:650-685,846-967. A SET frame from end to end, with the
gate before the handler and the refresh after it.
-/
namespace RuntimeMacro.Source.Protocol
open AuthCore (Hmac)

variable {cfg : Config} {hmac : Hmac} {id : ContextId} {w w' : World}

/-- The answers to a completed upload: OK with the whole length, AUTH_REQUIRED
when the session lapsed meanwhile, or the error of the slot call. -/
def AnswersCommit (response : Frame) (total : Nat) (err : Int) : Prop :=
  (err = 0 ∧ ((response.status = Status.ok.code ∧ response.offset = total ∧
      response.totalLength = total) ∨ response.status = Status.authRequired.code)) ∨
  (err = -einval ∧ response.status = Status.invalidText.code) ∨
  (err ≠ 0 ∧ err ≠ -einval ∧ response.status = Status.storageError.code)

/-- The frame is refused, stages its chunk, or completes the upload and sets
the slot. -/
inductive SetOutcome (cfg : Config) (env : Env) (id : ContextId) (request : Frame) (w : World)
    (response : Frame) (w' : World) : Prop
  | refused (status : response.status ≠ Status.ok.code)
      (dropped : (w'.contexts id).upload .set = (Context.zero cfg).upload .set)
      (kept : StoresKept w w')
  | staged (c : Context) (status : response.status = Status.ok.code)
      (sized : request.payloadLength ≤ payloadSize)
      (accepted : SetAccepted cfg request ((syncAuthState cfg env id w).contexts id) c)
      (holding : (w'.contexts id).upload .set = c.upload .set) (kept : StoresKept w w')
      (partly : response.offset ≠ response.totalLength)
  | committed (c : Context) (err : Int) (sized : request.payloadLength ≤ payloadSize)
      (accepted : SetAccepted cfg request ((syncAuthState cfg env id w).contexts id) c)
      (complete : c.setReceivedLength = c.setTotalLength)
      (set : w.slots.slotSet cfg c.setSlot c.setStaging c.setTotalLength env.saveErr w.settings =
        (err, w'.slots, w'.settings))
      (called : w'.calls = w.calls ++
        [.slotSet c.setSlot (c.setStaging.take c.setTotalLength) err])
      (dropped : (w'.contexts id).upload .set = (Context.zero cfg).upload .set)
      (answered : AnswersCommit response c.setTotalLength err)

/-- The refresh after a success keeps the answer, or replaces it by
AUTH_REQUIRED and discards the context. -/
theorem refresh_outcome (cfg : Config) (env : Env) (id : ContextId) (response : Frame)
    (w : World) :
    ∃ answer auth w', refreshProtectedSession cfg env id response w = (answer, w') ∧
      StoresKept w w' ∧
      ((answer = response ∧ w' = w.withAuth auth) ∨
        (answer = response.setError .authRequired ∧ w'.contexts id = .zero cfg)) := by
  rcases refreshProtectedSession_cases cfg env id response w with
    ⟨_, auth, _, result⟩ | ⟨_, _, result⟩ | ⟨_, _, auth, _, _, result⟩
  · exact ⟨_, auth, _, result, ⟨rfl, rfl, rfl⟩, Or.inl ⟨rfl, rfl⟩⟩
  · exact ⟨_, _, _, result, ⟨rfl, rfl, rfl⟩, Or.inl ⟨rfl, rfl⟩⟩
  · exact ⟨_, auth, _, result, ⟨rfl, rfl, rfl⟩, Or.inr ⟨rfl, World.discard_contexts_self _ _ _ _⟩⟩

theorem total_lt {request : Frame} {c c' : Context} (accepted : SetAccepted cfg request c c') :
    c'.setTotalLength = request.totalLength ∧ c'.setTotalLength < 65536 := by
  have bound := request.totalLength_lt
  obtain ⟨_, ⟨_, rfl⟩ | ⟨continued, rfl⟩⟩ := accepted
  · exact ⟨rfl, bound⟩
  · have same : (extendSet request c).setTotalLength = request.totalLength := continued.total
    exact ⟨same, same ▸ bound⟩

/-- The answer to a chunk that is not the last names the next offset, which is
not the total. -/
theorem staged_partly {request : Frame} {c c' : Context} (response : Frame)
    (accepted : SetAccepted cfg request c c')
    (open' : c'.setReceivedLength ≠ c'.setTotalLength) :
    (response.setSuccess c'.setReceivedLength c'.setTotalLength).offset ≠
      (response.setSuccess c'.setReceivedLength c'.setTotalLength).totalLength := by
  have fits := (total_lt accepted).2
  have inside : c'.setReceivedLength ≤ c'.setTotalLength := by
    obtain ⟨valid, ⟨first, rfl⟩ | ⟨continued, rfl⟩⟩ := accepted
    · have payload := valid.payload
      simp only [startSet]
      omega
    · have payload := valid.payload
      have offset := valid.offset
      have total := continued.total
      have received := continued.received
      simp only [extendSet]
      omega
  rw [Frame.offset_setSuccess _ _ _ (by omega), Frame.totalLength_setSuccess _ _ _ fits]
  exact open'

section Commit
variable {env : Env} {request response : Frame} {c : Context}

/-- The call of the slot API and what follows it. -/
theorem commit_outcome (env : Env) (response : Frame) (synced : World)
    (accepted : SetAccepted cfg request (synced.contexts id) c)
    (complete : c.setReceivedLength = c.setTotalLength) :
    ∃ err, (synced.slots.slotSet cfg c.setSlot c.setStaging c.setTotalLength env.saveErr
        synced.settings).1 = err ∧
      let result := afterHandler cfg env id
        (commitSet cfg env id response (synced.modify id fun _ => c))
      synced.slots.slotSet cfg c.setSlot c.setStaging c.setTotalLength env.saveErr
        synced.settings = (err, result.2.slots, result.2.settings) ∧
      result.2.calls = synced.calls ++
        [.slotSet c.setSlot (c.setStaging.take c.setTotalLength) err] ∧
      (result.2.contexts id).upload .set = (Context.zero cfg).upload .set ∧
      AnswersCommit result.1 c.setTotalLength err := by
  obtain ⟨err, slots, settings, set, committed⟩ :=
    commitSet_eq cfg env id response (synced.modify id fun _ => c)
  simp only [World.modify_contexts_self, World.modify_slots, World.modify_settings,
    World.modify_calls] at set committed
  refine ⟨err, by rw [set], ?_⟩
  rw [set, committed]
  dsimp only
  have fits := (total_lt accepted).2
  by_cases success : err = 0
  · -- Only a success goes on to the refresh.
    have answer : commitSetAnswer response c err =
        response.setSuccess c.setTotalLength c.setTotalLength := by
      rw [commitSetAnswer, if_pos success, complete]
    rw [answer, afterHandler, if_pos (by simp)]
    obtain ⟨final, auth, w', refreshed, kept, ⟨same, rfl⟩ | ⟨lapsed, discarded⟩⟩ :=
      refresh_outcome cfg env id
        (response.setSuccess c.setTotalLength c.setTotalLength) _
    · rw [refreshed]
      refine ⟨rfl, rfl, ?_, Or.inl ⟨success, Or.inl ?_⟩⟩
      · simp only [World.withAuth_contexts, World.clearSet_contexts_self]
        rfl
      · rw [same]
        exact ⟨Frame.status_setSuccess .., Frame.offset_setSuccess _ _ _ fits,
          Frame.totalLength_setSuccess _ _ _ fits⟩
    · rw [refreshed]
      refine ⟨by rw [kept.slots, kept.settings]; rfl, by rw [kept.calls]; rfl, ?_,
        Or.inl ⟨success, Or.inr ?_⟩⟩
      · rw [discarded]
      · rw [lapsed, Frame.status_setError]
  · have refused : (commitSetAnswer response c err).status ≠ Status.ok.code ∧
        AnswersCommit (commitSetAnswer response c err) c.setTotalLength err := by
      unfold commitSetAnswer AnswersCommit
      rw [if_neg success]
      by_cases invalid : err = -einval
      · simp [invalid]
      · simp [invalid, success]
    rw [afterHandler, if_neg refused.1]
    refine ⟨rfl, rfl, ?_, refused.2⟩
    simp only [World.clearSet_contexts_self]
    rfl

theorem processFrame_set (cfg : Config) (hmac : Hmac) (env : Env) (id : ContextId)
    (isSet : Opcode.ofByte request.opcode = some .set) (w : World) :
    SetOutcome cfg env id request w (processFrame cfg hmac env id request w).1
      (processFrame cfg hmac env id request w).2 := by
  have synced : StoresKept w (syncAuthState cfg env id w) := syncAuthState_storesKept
  cases checked : baseCheck request with
  | error status =>
    simp only [processFrame, checked]
    refine SetOutcome.refused (by simpa using baseCheck_ne_ok checked) ?_
      (synced.trans (discardForOpcode_storesKept _ _))
    simp only [discardForOpcode, isSet, World.clearSet_contexts_self]
    rfl
  | ok opcode =>
    have same : opcode = .set := by
      simpa [isSet] using (baseCheck_opcode checked).symm
    subst same
    simp only [processFrame, checked, dispatch]
    generalize Frame.initResponse (some request) = response
    obtain ⟨auth, _, ⟨_, _, _, result⟩ | ⟨_, _, result⟩⟩ := processManagement_cases cfg env id
      (processSet cfg env id request response) response (syncAuthState cfg env id w)
    · rw [result]
      refine SetOutcome.refused (by simpa using gateStatus_ne_ok _) ?_
        (synced.trans ⟨rfl, rfl, rfl⟩)
      rw [World.discard_contexts_self]
    · rw [result]
      rcases processSet_cases cfg env id request response
        ((syncAuthState cfg env id w).withAuth auth) with
        ⟨status, bad, refused⟩ | ⟨c, accepted, ⟨partly, staged⟩ | ⟨complete, committed⟩⟩
      · rw [refused, afterHandler, if_neg (by simpa using bad)]
        refine SetOutcome.refused (by simpa using bad) ?_ (synced.trans ⟨rfl, rfl, rfl⟩)
        rw [World.clearSet_contexts_self]
        rfl
      · rw [staged, afterHandler, if_pos (by simp)]
        obtain ⟨final, auth', w', refreshed, kept, ⟨same, rfl⟩ | ⟨lapsed, discarded⟩⟩ :=
          refresh_outcome cfg env id
            (response.setSuccess c.setReceivedLength c.setTotalLength) _
        · rw [refreshed]
          refine SetOutcome.staged c ?_ (baseCheck_payload checked) accepted ?_
            (synced.trans ⟨rfl, rfl, rfl⟩) ?_
          · rw [same, Frame.status_setSuccess]
          · simp only [World.withAuth_contexts, World.modify_contexts_self]
          · rw [same]
            exact staged_partly response accepted partly
        · rw [refreshed]
          refine SetOutcome.refused ?_ ?_ (synced.trans ⟨kept.slots, kept.settings, kept.calls⟩)
          · rw [lapsed, Frame.status_setError]
            decide
          · rw [discarded]
      · obtain ⟨err, _, set, called, dropped, answered⟩ := commit_outcome env response
          ((syncAuthState cfg env id w).withAuth auth) accepted complete
        rw [committed]
        refine SetOutcome.committed c err (baseCheck_payload checked) accepted complete ?_ ?_
          dropped answered
        · rw [← synced.slots, ← synced.settings]
          exact set
        · rw [← synced.calls]
          exact called

end Commit

theorem sync_upload {env : Env}
    (active : ((syncAuthState cfg env id w).contexts id).setActive = true) :
    ((syncAuthState cfg env id w).contexts id).upload .set = (w.contexts id).upload .set := by
  rcases syncAuthState_uploads cfg env id w .set with
    ⟨_, dropped⟩ | ⟨_, same⟩
  · exact absurd (active.symm.trans dropped) (by decide)
  · exact same

end RuntimeMacro.Source.Protocol
