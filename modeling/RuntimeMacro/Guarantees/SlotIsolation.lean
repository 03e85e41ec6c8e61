import RuntimeMacro.Guarantees.DynamicCommit
import RuntimeMacro.Source.ManagedFrames
import RuntimeMacro.Source.TextRuns

/-!
# Dynamic slots are isolated, with one exception

runtime_macro_dynamic.c:119-268,331-340. An operation aimed at one dynamic slot
takes from the others no more than the texts that are due, a refused or
cancelled upload takes no more from its own, and an upload to another slot goes
on. The exception is the chunk that fills a staging begun on another context
when the upload timeout cannot be scheduled: its commit stays although the
frame is refused.
-/
namespace RuntimeMacro.Guarantees.SlotIsolation
open Source Source.Protocol Foundations.Runs
open AuthCore (Hmac)
open DynamicStore (due expiredSlots slotIsValid)
open DynamicCommit (Delivery uploadOf delivery_commits)

variable {cfg : Config} {hmac : Hmac} {env : Env} {id : ContextId} {request response : Frame}
  {w w' : World} {slot target : Nat} {event : WorldEvent} {exchange : Exchange}

/-- DYNAMIC_BEGIN, DYNAMIC_DATA and DYNAMIC_CLEAR, by their opcode byte. -/
def aboutSlot (exchange : Exchange) : Prop :=
  exchange.opcode = some .dynamicBegin ∨ exchange.opcode = some .dynamicData ∨
    exchange.opcode = some .dynamicClear

/-- The operations and the slot each is aimed at. A timeout, a transport reset
or another frame can only cancel the staging, whatever slot that is for. -/
inductive Aimed (slot : Nat) : WorldEvent → Env → Prop
  | frame {exchange : Exchange} (aimed : aboutSlot exchange → exchange.request.slot.toNat = slot) :
      Aimed slot (.frame exchange) exchange.env
  | execute (env : Env) (result : Int) : Aimed slot (.execute slot env result) env
  | timeout (env : Env) : Aimed slot (.timeoutWork env) env
  | cancelled (id : ContextId) (env : Env) : Aimed slot (.transportReset id env) env

/-- The upload is refused or cancelled: neither a DATA that was answered OK nor
a clear nor an execution. -/
def Drops : WorldEvent → Prop
  | .frame exchange => exchange.response.status ≠ Status.ok.code ∨
      (exchange.opcode ≠ some .dynamicData ∧ exchange.opcode ≠ some .dynamicClear)
  | .timeoutWork _ | .transportReset .. => True
  | _ => False

/-- A DYNAMIC_CLEAR whose observation is the recorded one, or an execution when
the old text of `other` is not due. -/
def Spares (w : World) (other : Nat) : WorldEvent → Prop
  | .frame exchange => exchange.opcode = some .dynamicClear ∧
      ¬ Stale exchange.env w.auth (w.contexts exchange.id)
  | .execute _ env _ => due (env.clock .operation) (w.dynamic.slots other) = false
  | _ => False

/-- The upload of a context to a slot, unfinished in the context and in the
store. -/
structure Unfinished (id : ContextId) (slot : Nat) (w : World) : Prop where
  context : (w.contexts id).dynamicActive = true
  contextSlot : (w.contexts id).dynamicSlot = slot
  store : w.dynamic.stagingActive = true
  storeSlot : w.dynamic.stagingSlot = slot

/-- The upload is as it was, with its timeout. -/
structure Untouched (id : ContextId) (w w' : World) : Prop where
  upload : uploadOf id w' = uploadOf id w
  deadline : (w'.contexts id).dynamicDeadlineMs = (w.contexts id).dynamicDeadlineMs
  timeout : w.timeoutOwner = some id →
    w'.timeoutOwner = some id ∧ w'.timeoutWork = w.timeoutWork

/-- From here on the DATA frames of the plan lead to its commit. -/
def Continues (cfg : Config) (hmac : Hmac) (id : ContextId) (w w' : World) : Prop :=
  ∀ (plan : Plan) (sent : List UInt8) (left : List (List UInt8)) (last : Exchange) (end' : World),
    plan.Legal cfg → Underway plan sent id w → sent ++ left.flatten = plan.text →
    (∀ chunk ∈ left, chunk ∈ plan.chunks) → Delivery cfg hmac id plan sent left w' last end' →
    last.accepted = true ∧ HoldsText plan.beginFrame plan.text (last.env.clock .commit)
      (end'.dynamic.slots plan.slot.toNat)

/-- The text of a slot is as it was, or it was due at a reading of the call and
is gone. -/
def Retained (env : Env) (entry entry' : DynamicSlot) : Prop :=
  entry' = entry ∨
    ∃ site, due (env.clock site) entry = true ∧ entry' = DynamicStore.clearedSlot entry

/-- What an event about one slot leaves alone: the texts of the other slots,
all texts when the event drops an upload or names no slot, and the unfinished
uploads to other slots that it spares. -/
structure Isolated (cfg : Config) (hmac : Hmac) (slot : Nat) (event : WorldEvent) (env : Env)
    (w w' : World) : Prop where
  others : ∀ other, other ≠ slot →
    Retained env (w.dynamic.slots other) (w'.dynamic.slots other)
  dropped : Drops event → ∀ each, Retained env (w.dynamic.slots each) (w'.dynamic.slots each)
  outside : slotIsValid cfg slot = false →
    ∀ each, Retained env (w.dynamic.slots each) (w'.dynamic.slots each)
  continues : ∀ id other, other ≠ slot → Unfinished id other w → Spares w other event →
    Untouched id w w' ∧ Continues cfg hmac id w w'

/-! ## The frames -/

/-- A DATA the store takes changes no slot but its own. -/
theorem dataAppend_elsewhere (data : DataTaken cfg env id request w)
    (different : slot ≠ request.slot.toNat) :
    (dataAppend cfg env request w).2.slots slot =
      expiredSlots cfg (env.clock .operation) w.dynamic slot := by
  obtain ⟨valid, result⟩ := DynamicStore.appendSlot_taken data.taken
  rw [dataAppend, result, ← DynamicStore.expireDue_slots]
  split
  · have staged : (DynamicStore.appended request.offset (request.payload request.payloadLength)
        (w.dynamic.expireDue cfg (env.clock .operation))).stagingSlot = request.slot.toNat :=
      valid.slot.symm
    rw [DynamicStore.commit_slots, staged, Function.update_of_ne different]
    rfl
  · rfl

theorem Retained.trans {entry entry' entry'' : DynamicSlot} (first : Retained env entry entry')
    (second : Retained env entry' entry'') : Retained env entry entry'' := by
  have early : Expired env (fun _ => entry) (fun _ => entry') := fun _ => first
  have late : Expired env (fun _ => entry') (fun _ => entry'') := fun _ => second
  exact early.trans late 0

theorem retained_expired (cfg : Config) (env : Env) (site : Site) (s : DynamicStore) (slot : Nat) :
    Retained env (s.slots slot) (expiredSlots cfg (env.clock site) s slot) :=
  expiredSlots_expired cfg site s slot

/-- A DYNAMIC_CLEAR clears its slot after the observation, or does nothing more
and is refused. -/
theorem processFrame_clear (cfg : Config) (hmac : Hmac) (env : Env) (id : ContextId) (w : World)
    (known : Opcode.ofByte request.opcode = some .dynamicClear) :
    ((processFrame cfg hmac env id request w).2 = syncAuthState cfg env id w ∧
        (processFrame cfg hmac env id request w).1.status ≠ Status.ok.code) ∨
      (slotIsValid cfg request.slot.toNat = true ∧ (processFrame cfg hmac env id request w).2 =
        slotCleared cfg env id request.slot.toNat (syncAuthState cfg env id w)) := by
  cases checked : baseCheck request with
  | error status =>
    apply Or.inl
    simp only [processFrame, checked, discardForOpcode, known, Frame.status_setError]
    simpa using baseCheck_ne_ok checked
  | ok opcode =>
    cases Option.some.inj ((baseCheck_opcode checked).symm.trans known)
    simp only [processFrame, checked, dispatch]
    rcases processDynamicClear_cases cfg env id request (Frame.initResponse (some request))
      (syncAuthState cfg env id w) with ⟨status, failed, result⟩ | ⟨valid, result⟩
    · rw [result]
      exact Or.inl ⟨rfl, by simpa using failed⟩
    · rw [result]
      exact Or.inr ⟨valid, rfl⟩

theorem slotCleared_dynamic (cfg : Config) (env : Env) (id : ContextId) (slot : Nat) (w : World) :
    (slotCleared cfg env id slot w).dynamic =
      w.dynamic.clearSlot cfg slot (env.clock .rearm) := by
  unfold slotCleared
  dsimp only
  split <;> rfl

/-- An accepted DYNAMIC_CLEAR leaves nothing in its slot. -/
theorem clear_gone (step : FrameStep cfg hmac w exchange w')
    (known : exchange.opcode = some .dynamicClear)
    (status : exchange.response.status = Status.ok.code) :
    (w'.dynamic.slots exchange.request.slot.toNat).committedValid = false := by
  have result := step.result
  rcases processFrame_clear cfg hmac exchange.env exchange.id w known with
    ⟨_, refused⟩ | ⟨valid, cleared⟩
  · rw [result] at refused
    exact absurd status refused
  · rw [result] at cleared
    rw [show w' = _ from cleared, slotCleared_dynamic, DynamicStore.clearSlot,
      if_neg (by simp [valid]), DynamicStore.rearmTtl_slots, expireSlot_slots_self]
    rfl

theorem clearSlot_elsewhere (nowMs : Int) (s : DynamicStore) (different : slot ≠ target) :
    (s.clearSlot cfg target nowMs).slots slot = s.slots slot := by
  unfold DynamicStore.clearSlot
  split
  · rfl
  · rw [DynamicStore.rearmTtl_slots]
    exact expireSlot_slots_of_ne different s

/-- A clear of another slot leaves the staging. -/
theorem clearSlot_stagingOf (nowMs : Int) (s : DynamicStore) (different : s.stagingSlot ≠ target) :
    (s.clearSlot cfg target nowMs).stagingOf = s.stagingOf := by
  unfold DynamicStore.clearSlot
  split
  · rfl
  · rw [DynamicStore.rearmTtl_staging]
    unfold DynamicStore.expireSlot
    dsimp only
    rw [if_neg]
    · rfl
    · exact fun aimed => different aimed.2

/-- What a frame leaves of a slot it is not aimed at: the text, unless it was
due. A commit goes to the slot of the frame, because a DATA is checked against
the staged one. -/
theorem frame_others (step : FrameStep cfg hmac w exchange w')
    (aimed : aboutSlot exchange → exchange.request.slot.toNat = slot)
    (different : target ≠ slot) :
    Retained exchange.env (w.dynamic.slots target) (w'.dynamic.slots target) := by
  have result := step.result
  have taken : DataTaken cfg exchange.env exchange.id exchange.request w →
      Retained exchange.env (w.dynamic.slots target)
        ((dataAppend cfg exchange.env exchange.request w).2.slots target) := by
    intro data
    have away : target ≠ exchange.request.slot.toNat := by
      rw [aimed (Or.inr (Or.inl data.isData))]
      exact different
    rw [dataAppend_elsewhere data away]
    exact retained_expired _ _ _ _ _
  cases FrameStep.dynamic step with
  | passive _ store => exact store.slots target
  | started _ _ _ _ slots => exact slots target
  | cleared isClear =>
    have synced := (syncAuthState_passive cfg exchange.env exchange.id w).slots target
    rcases processFrame_clear cfg hmac exchange.env exchange.id w isClear with
      ⟨same, _⟩ | ⟨_, same⟩
    · rw [result] at same
      rw [show w' = _ from same]
      exact synced
    · rw [result] at same
      have away : target ≠ exchange.request.slot.toNat := by
        rw [aimed (Or.inr (Or.inr isClear))]
        exact different
      rw [show w' = _ from same, slotCleared_dynamic, clearSlot_elsewhere _ _ away]
      exact synced
  | completed data _ _ _ store =>
    rw [store]
    exact taken data
  | received data _ _ store =>
    rw [store]
    exact taken data
  | failed data _ _ _ store =>
    rw [store, DynamicStore.cancelStagingNow_slots]
    exact (taken data).trans (retained_expired _ _ _ _ _)

/-- The one way a refused frame leaves more than it found. -/
def Strays (cfg : Config) (w : World) : WorldEvent → Prop
  | .frame exchange => DataStrays cfg exchange.env exchange.id exchange.request w
  | _ => False

/-- A frame that is refused changes no text but those that were due, if it is
no stray DATA. -/
theorem frame_dropped (step : FrameStep cfg hmac w exchange w') (dropped : Drops (.frame exchange))
    (unstrayed : ¬ Strays cfg w (.frame exchange)) :
    Expired exchange.env w.dynamic.slots w'.dynamic.slots := by
  by_cases refused : exchange.response.status ≠ Status.ok.code
  · have notOk : (processFrame cfg hmac exchange.env exchange.id exchange.request w).1.status ≠
        Status.ok.code := by
      rw [step.result]
      exact refused
    have expired := refused_expired cfg hmac exchange.id unstrayed notOk
    rw [step.result] at expired
    exact expired
  · obtain ⟨notData, notClear⟩ := dropped.resolve_left refused
    cases FrameStep.dynamic step with
    | passive _ store => exact store.slots
    | started _ _ _ _ slots => exact slots
    | cleared isClear => exact absurd isClear notClear
    | completed data | received data | failed data => exact absurd data.isData notData

/-- A slot number out of range keeps a frame from every committed text. -/
theorem frame_outside (step : FrameStep cfg hmac w exchange w')
    (aimed : aboutSlot exchange → exchange.request.slot.toNat = slot)
    (outside : slotIsValid cfg slot = false) :
    Expired exchange.env w.dynamic.slots w'.dynamic.slots := by
  have untaken : ¬ DataTaken cfg exchange.env exchange.id exchange.request w := by
    intro data
    have inside := data.valid.slotValid
    rw [aimed (Or.inr (Or.inl data.isData)), outside] at inside
    cases inside
  cases FrameStep.dynamic step with
  | passive _ store => exact store.slots
  | started _ _ _ _ slots => exact slots
  | cleared isClear =>
    have synced := (syncAuthState_passive cfg exchange.env exchange.id w).slots
    rcases processFrame_clear cfg hmac exchange.env exchange.id w isClear with
      ⟨same, _⟩ | ⟨inside, _⟩
    · rw [step.result] at same
      rw [show w' = _ from same]
      exact synced
    · rw [aimed (Or.inr (Or.inr isClear)), outside] at inside
      cases inside
  | completed data | received data | failed data => exact absurd data untaken

/-! ## The upload to another slot -/

theorem Untouched.of_same (contexts : w'.contexts id = w.contexts id)
    (staging : w'.dynamic.stagingOf = w.dynamic.stagingOf)
    (timeout : w.timeoutOwner = some id →
      w'.timeoutOwner = some id ∧ w'.timeoutWork = w.timeoutWork) : Untouched id w w' := by
  refine ⟨?_, by rw [contexts], timeout⟩
  unfold uploadOf
  rw [contexts, staging]

theorem Untouched.trans {w'' : World} (first : Untouched id w w') (second : Untouched id w' w'') :
    Untouched id w w'' := by
  refine ⟨second.upload.trans first.upload, second.deadline.trans first.deadline, fun own => ?_⟩
  obtain ⟨owner, work⟩ := first.timeout own
  obtain ⟨owner', work'⟩ := second.timeout owner
  exact ⟨owner', work'.trans work⟩

/-- An upload left as it was leads to the commit it would have led to. -/
theorem Untouched.continues (untouched : Untouched id w w') : Continues cfg hmac id w w' := by
  intro plan sent left last end' legal underway split cut delivery
  obtain ⟨accepted, _, holds⟩ := delivery_commits legal delivery
    (DynamicCommit.Underway.congr underway untouched.upload) split cut
  exact ⟨accepted, holds⟩

/-- An observation that finds the record up to date leaves every upload. -/
theorem syncAuthState_untouched {own : ContextId} (fresh : ¬ Stale env w.auth (w.contexts own))
    (id : ContextId) : Untouched id w (syncAuthState cfg env own w) := by
  rcases syncAuthState_cases cfg env own w with ⟨stale, _⟩ | ⟨_, synced⟩
  · exact absurd stale fresh
  · rw [synced]
    by_cases same : id = own
    · subst same
      have context := World.modify_contexts_self id
        (Context.observe w.auth.state (observedSession env w.auth).1)
        (w.withAuth (observedSession env w.auth).2)
      refine ⟨?_, ?_, fun owner => ⟨owner, rfl⟩⟩
      · unfold uploadOf
        rw [context]
        rfl
      · rw [context]
        rfl
    · apply Untouched.of_same
      · rw [World.modify_contexts_of_ne _ _ _ _ same]
        rfl
      · rfl
      · exact fun owner => ⟨owner, rfl⟩

/-- Clearing one slot cancels the staging only if it is for this slot. -/
theorem slotCleared_untouched (cfg : Config) (env : Env) (own : ContextId) {other : Nat}
    (unfinished : Unfinished id other w) (different : other ≠ slot) :
    Untouched id w (slotCleared cfg env own slot w) := by
  have staging : (w.dynamic.clearSlot cfg slot (env.clock .rearm)).stagingOf =
      w.dynamic.stagingOf := by
    apply clearSlot_stagingOf
    rw [unfinished.storeSlot]
    exact different
  unfold slotCleared
  dsimp only
  split
  next finishes =>
    have apart : id ≠ own := by
      rintro rfl
      exact different (unfinished.contextSlot.symm.trans finishes.2)
    apply Untouched.of_same
    · simp only [finishDynamic, Function.update_of_ne apart, World.withDynamic_contexts]
    · exact staging
    · intro owner
      have foreign : w.timeoutOwner ≠ some own := by
        rw [owner]
        simpa using apart
      exact ⟨(if_neg foreign).trans owner, if_neg foreign⟩
  · exact .of_same rfl staging fun owner => ⟨owner, rfl⟩

theorem Unfinished.congr {other : Nat} (unfinished : Unfinished id other w)
    (untouched : Untouched id w w') : Unfinished id other w' := by
  have upload := untouched.upload
  simp only [uploadOf, Prod.mk.injEq] at upload
  obtain ⟨context, staging⟩ := upload
  have active := congrArg Upload.active context
  have slot := congrArg Upload.slot context
  have stagingActive := congrArg DynamicStore.Staging.active staging
  have stagingSlot := congrArg DynamicStore.Staging.slot staging
  exact ⟨active.trans unfinished.context, slot.trans unfinished.contextSlot,
    stagingActive.trans unfinished.store, stagingSlot.trans unfinished.storeSlot⟩

/-- A DYNAMIC_CLEAR of another slot leaves the upload. -/
theorem clear_untouched {other : Nat} (step : FrameStep cfg hmac w exchange w')
    (known : exchange.opcode = some .dynamicClear)
    (fresh : ¬ Stale exchange.env w.auth (w.contexts exchange.id))
    (unfinished : Unfinished id other w) (different : other ≠ exchange.request.slot.toNat) :
    Untouched id w w' := by
  have synced : Untouched id w (syncAuthState cfg exchange.env exchange.id w) :=
    syncAuthState_untouched fresh id
  have result := step.result
  rcases processFrame_clear cfg hmac exchange.env exchange.id w known with ⟨same, _⟩ | ⟨_, same⟩
  · rw [result] at same
    rw [show w' = _ from same]
    exact synced
  · rw [result] at same
    rw [show w' = _ from same]
    exact synced.trans (slotCleared_untouched cfg _ _ (unfinished.congr synced) different)

/-! ## Executions -/

/-- An execution changes its own slot only, and lets what is due expire. -/
theorem executeSlot_slots (cfg : Config) (target : Nat) (nowMs rearmMs scheduled : Int)
    (s : DynamicStore) (executor : Executor) (kept : slot ≠ target ∨
      slotIsValid cfg target = false) :
    (s.executeSlot cfg target nowMs rearmMs scheduled executor).2.1.slots slot =
      expiredSlots cfg nowMs s slot := by
  unfold DynamicStore.executeSlot
  dsimp only
  split
  · rw [DynamicStore.expireDue_slots]
  next inside =>
  have different := kept.resolve_right inside
  split
  · rw [DynamicStore.expireDue_slots]
  · split
    · simp [DynamicStore.clearCommitted, different]
    · rw [DynamicStore.expireDue_slots]

theorem executeSlot_stagingOf (cfg : Config) (target : Nat) (nowMs rearmMs scheduled : Int)
    (s : DynamicStore) (executor : Executor) :
    (s.executeSlot cfg target nowMs rearmMs scheduled executor).2.1.stagingOf =
      (s.expireDue cfg nowMs).stagingOf := by
  unfold DynamicStore.executeSlot
  dsimp only
  split
  · rfl
  · split
    · rfl
    · split
      · rfl
      · rfl

theorem execute_untouched {other : Nat} {result : Int}
    (step : WorldStep cfg hmac w (.execute slot env result) w')
    (unfinished : Unfinished id other w)
    (early : due (env.clock .operation) (w.dynamic.slots other) = false) :
    Untouched id w w' := by
  have left : w' = (w.executeSlot cfg slot env).2 := (congrArg Prod.snd step).symm
  have alone : DynamicStore.stagingDue cfg (env.clock .operation) w.dynamic = false := by
    simp [DynamicStore.stagingDue, unfinished.storeSlot, early]
  rw [left]
  apply Untouched.of_same
  · rfl
  · exact (executeSlot_stagingOf ..).trans (DynamicStore.expireDue_stagingOf alone)
  · exact fun owner => ⟨owner, rfl⟩

/-! ## All operations -/

theorem timeout_expired (cfg : Config) (env : Env) (w : World) :
    Expired env w.dynamic.slots (w.dynamicTimeoutWorkHandler cfg env).dynamic.slots := by
  unfold World.dynamicTimeoutWorkHandler
  split
  · exact Expired.refl _ _
  · dsimp only
    split
    · exact Expired.refl _ _
    · split
      · exact Expired.refl _ _
      · exact (cancelStagingNow_passive cfg .cleanup _).slots

/-- One case for each kind of event. Only a DATA that is refused after its
commit is left out. -/
theorem isolated_of_unstrayed (aimed : Aimed slot event env)
    (step : WorldStep cfg hmac w event w') (unstrayed : ¬ Strays cfg w event) :
    Isolated cfg hmac slot event env w w' := by
  cases aimed with
  | @frame exchange aimed =>
    refine ⟨fun other different => frame_others step aimed different,
      fun dropped => frame_dropped step dropped unstrayed, frame_outside step aimed, ?_⟩
    intro id other different unfinished ⟨known, fresh⟩
    have away : other ≠ exchange.request.slot.toNat := by
      rw [aimed (Or.inr (Or.inr known))]
      exact different
    have untouched := clear_untouched step known fresh unfinished away
    exact ⟨untouched, untouched.continues⟩
  | execute env result =>
    have left : w' = (w.executeSlot cfg slot env).2 := (congrArg Prod.snd step).symm
    have slots : ∀ each, each ≠ slot ∨ slotIsValid cfg slot = false →
        Retained env (w.dynamic.slots each) (w'.dynamic.slots each) := by
      intro each kept
      have same : w'.dynamic.slots each =
          expiredSlots cfg (env.clock .operation) w.dynamic each := by
        rw [left]
        exact executeSlot_slots cfg slot _ _ _ _ _ kept
      rw [same]
      exact retained_expired _ _ _ _ _
    refine ⟨fun other different => slots other (Or.inl different), False.elim,
      fun outside each => slots each (Or.inr outside), ?_⟩
    intro id other _ unfinished early
    have untouched := execute_untouched step unfinished early
    exact ⟨untouched, untouched.continues⟩
  | timeout env =>
    have expired : Expired env w.dynamic.slots w'.dynamic.slots := by
      rw [show w' = _ from step]
      exact timeout_expired cfg env w
    exact ⟨fun other _ => expired other, fun _ => expired, fun _ => expired,
      fun _ _ _ _ => False.elim⟩
  | cancelled id env =>
    have expired : Expired env w.dynamic.slots w'.dynamic.slots := by
      rw [show w' = _ from step]
      exact (cancelStagingNow_passive cfg .cleanup _).slots
    exact ⟨fun other _ => expired other, fun _ => expired, fun _ => expired,
      fun _ _ _ _ => False.elim⟩

/-- The stray DATA is refused, and has replaced a text. -/
theorem strays_not_isolated (step : WorldStep cfg hmac w event w') (strays : Strays cfg w event) :
    ¬ Isolated cfg hmac slot event env w w' := by
  cases event with
  | frame exchange =>
    intro isolated
    obtain ⟨status, store⟩ := dataFrame_strays hmac strays
    rw [FrameStep.result step] at status store
    apply strays_changes strays
    intro each
    rw [← store]
    have refused : Drops (.frame exchange) := by
      apply Or.inl
      rw [show exchange.response.status = _ from status]
      decide
    exact (isolated.dropped refused each).imp_right fun ⟨_, _, emptied⟩ => emptied
  | _ => cases strays

/-- In every run an operation aimed at a slot leaves the others, and what it
may not touch of its own, exactly when it is not the DATA that commits the
staging of another context and is then refused. -/
theorem slots_isolated_iff {settings : Settings} {moments : List (Moment World WorldEvent)}
    (run : Run (Traced (WorldStep cfg hmac)) (.boot cfg settings) moments w) :
    ∀ moment ∈ moments, ∀ slot env, Aimed slot moment.event env →
      (Isolated cfg hmac slot moment.event env moment.before moment.after ↔
        ¬ Strays cfg moment.before moment.event) := by
  intro moment member slot env aimed
  have step := run.moment_step moment member
  constructor
  · intro isolated strays
    exact strays_not_isolated step strays isolated
  · exact isolated_of_unstrayed aimed step

/-! ## A clear of slot 2 between the frames of an upload to slot 1 -/

def sampleFrame (id : ContextId) (env : Env) (request : Frame) (w : World) : Exchange × World :=
  (exchangeOf .default AuthCore.sampleHmac id env request w,
    (processFrame .default AuthCore.sampleHmac env id request w).2)

theorem sampleFrame_step (id : ContextId) (env : Env) (request : Frame) (w : World) :
    Traced (WorldStep .default AuthCore.sampleHmac) w
      ⟨w, .frame (sampleFrame id env request w).1, (sampleFrame id env request w).2⟩
      (sampleFrame id env request w).2 := ⟨rfl, rfl, exchangeOf_step ..⟩

/-- Context 0 announces four bytes for slot 1 and sends two. -/
def halfway : World :=
  let w := (sampleFrame 0 (.still 5) (.build .dynamicBegin 7 1 0 4 []) (.boot .default .empty)).2
  (sampleFrame 0 (.still 5) (.build .dynamicData 7 1 0 4 [97, 98]) w).2

theorem halfway_run : ∃ moments,
    Run (Traced (WorldStep .default AuthCore.sampleHmac)) (.boot .default .empty) moments
      halfway :=
  ⟨_, (Run.single (sampleFrame_step ..)).snoc (sampleFrame_step ..)⟩

def sampleClear : Exchange × World :=
  sampleFrame 0 (.still 6) (.build .dynamicClear 8 2 0 0 []) halfway

/-- A CLEAR of slot 2 in the middle of an upload to slot 1. The frame is no
stray DATA, so the upload goes on. -/
theorem slots_isolated_iff_sample : Untouched 0 halfway sampleClear.2 := by
  obtain ⟨moments, run⟩ := halfway_run
  have aimed : Aimed 2 (.frame sampleClear.1) (.still 6) :=
    @Aimed.frame 2 sampleClear.1 fun _ => by decide
  have isolated := (slots_isolated_iff (run.snoc (sampleFrame_step ..)) _
    (List.mem_append_right _ (List.mem_singleton.mpr rfl)) 2 (.still 6) aimed).mpr
      fun strays => absurd strays.passed (by decide)
  have unfinished : Unfinished 0 1 halfway :=
    ⟨by decide, by decide, by decide, by decide⟩
  exact (isolated.continues 0 1 (by decide) unfinished ⟨by decide, by unfold Stale; decide⟩).1

/-! ## A refused chunk that commits -/

/-- Context 1 restarts the staging of slot 1 with three bytes and sends two. -/
def restarted : World :=
  let w := (sampleFrame 1 (.still 5) (.build .dynamicBegin 9 1 0 3 []) halfway).2
  (sampleFrame 1 (.still 5) (.build .dynamicData 9 1 0 3 [120, 121]) w).2

/-- The timeout of the upload cannot be scheduled. -/
def unscheduled : Env := { Env.still 6 with rescheduleErr := -einval }

/-- Context 0 goes on with its own upload, of which a byte is still to come. -/
def strayed : Exchange × World :=
  sampleFrame 0 unscheduled (.build .dynamicData 7 1 2 4 [99]) restarted

/-- The timer cannot be armed for the DATA of the other context, and the answer
is INTERNAL. Its bytes have by then completed the staged upload, which is
committed in slot 1. -/
theorem refused_chunk_commits :
    strayed.1.response.status = Status.internal.code ∧
      (restarted.dynamic.slots 1).committedValid = false ∧
      (strayed.2.dynamic.slots 1).committedValid = true ∧
      (strayed.2.dynamic.slots 1).committed.take 3 = [120, 121, 99] ∧
      ∃ moments, Run (Traced (WorldStep .default AuthCore.sampleHmac)) (.boot .default .empty)
          moments restarted ∧
        WorldStep .default AuthCore.sampleHmac restarted (.frame strayed.1) strayed.2 ∧
        Aimed 1 (.frame strayed.1) unscheduled ∧
        ¬ Isolated .default AuthCore.sampleHmac 1 (.frame strayed.1) unscheduled restarted
          strayed.2 := by
  obtain ⟨moments, run⟩ := halfway_run
  have before : (restarted.dynamic.slots 1).committedValid = false := by decide +kernel
  have after : (strayed.2.dynamic.slots 1).committedValid = true := by decide +kernel
  have refused : strayed.1.response.status = Status.internal.code := by decide +kernel
  refine ⟨refused, before, after, by decide +kernel, _,
    (run.snoc (sampleFrame_step ..)).snoc (sampleFrame_step ..),
    (sampleFrame_step 0 unscheduled _ restarted).2.2,
    @Aimed.frame 1 strayed.1 fun _ => by decide, ?_⟩
  intro isolated
  have dropped : Drops (.frame strayed.1) := by
    apply Or.inl
    rw [refused]
    decide
  rcases isolated.dropped dropped 1 with same | ⟨_, _, emptied⟩
  · rw [same, before] at after
    cases after
  · rw [emptied] at after
    cases after

end RuntimeMacro.Guarantees.SlotIsolation
