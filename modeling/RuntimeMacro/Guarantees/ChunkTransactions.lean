import RuntimeMacro.Foundations.Transactions
import RuntimeMacro.Guarantees.DynamicCommit
import RuntimeMacro.Source.SetChunks
import RuntimeMacro.Source.Station

/-!
# The chunks of a transaction on the firmware

runtime_macro_protocol.c:487-605,868-967. What the firmware commits while it
serves the chunks of one text, in any order in which they may arrive: a chunk
that continues meets a staging of this text or none.
-/
namespace RuntimeMacro.Guarantees.ChunkTransactions
open Source Source.Protocol Foundations.Links Foundations.Runs
open DynamicCommit (Replaced not_replaced_of_expired)
open AuthCore (Hmac)
open Relation

variable {cfg : Config} {hmac : Hmac} {id : ContextId} {permits : Env → World → Prop}
  {env : Env} {request response : Frame} {w w' : World} {s s' : Station} {slot offset : Nat}
  {data : List UInt8}

/-- What a frame commits, to the static slots and to the dynamic ones. -/
structure CommitsOnly (cfg : Config) (static : Nat → List UInt8 → Prop)
    (dynamic : Env → Nat → DynamicSlot → Prop) (moment : Moment World Exchange) : Prop where
  static : (moment.after.calls = moment.before.calls ∧ moment.after.slots = moment.before.slots) ∨
    ∃ place text err, static place text ∧
      moment.after.calls = moment.before.calls ++ [.slotSet place text err] ∧
      moment.before.slots.slotSet cfg place text text.length moment.event.env.saveErr
        moment.before.settings = (err, moment.after.slots, moment.after.settings)
  dynamic : ∀ place, Replaced (moment.before.dynamic.slots place)
    (moment.after.dynamic.slots place) →
      dynamic moment.event.env place (moment.after.dynamic.slots place)

/-! ## Static texts -/

/-- The context stages the front of the text, or nothing. -/
def Owned (id : ContextId) (slot : Nat) (data : List UInt8) (w : World) : Prop :=
  (w.contexts id).setActive = true → StagesText slot data (w.contexts id)

/-- A chunk that completes an accepted text and is answered OK went to the slot
API. There is no other way to that answer. -/
theorem processFrame_set_complete {c : Context} (passed : baseCheck request = .ok .set)
    (result : processFrame cfg hmac env id request w = (response, w'))
    (success : response.status = Status.ok.code)
    (accepted : SetAccepted cfg request ((syncAuthState cfg env id w).contexts id) c)
    (complete : c.setReceivedLength = c.setTotalLength) :
    ∃ text err, w'.calls = w.calls ++ [.slotSet c.setSlot text err] := by
  have synced : StoresKept w (syncAuthState cfg env id w) := syncAuthState_storesKept
  simp only [processFrame, passed, dispatch] at result
  obtain ⟨auth, _, ⟨_, _, _, shut⟩ | ⟨_, _, granted⟩⟩ := processManagement_cases cfg env id
    (processSet cfg env id request (Frame.initResponse (some request)))
    (Frame.initResponse (some request)) (syncAuthState cfg env id w)
  · rw [shut] at result
    have status := congrArg (fun outcome => outcome.1.status) result
    rw [success, Frame.status_setError, Status.code_inj] at status
    exact absurd status (gateStatus_ne_ok _)
  · have handled : processSet cfg env id request (Frame.initResponse (some request))
        ((syncAuthState cfg env id w).withAuth auth) =
        finishSet cfg env id (Frame.initResponse (some request))
          (((syncAuthState cfg env id w).withAuth auth).modify id fun _ => c) :=
      processSet_finished accepted
    rw [granted, handled] at result
    rcases finishSet_cases cfg env id (Frame.initResponse (some request))
      ((syncAuthState cfg env id w).withAuth auth) c with ⟨partly, _⟩ | ⟨_, done⟩
    · exact absurd complete partly
    · obtain ⟨err, _, _, called, _⟩ := commit_outcome env (Frame.initResponse (some request))
        ((syncAuthState cfg env id w).withAuth auth) accepted complete
      rw [done] at result
      rw [result, World.withAuth_calls, synced.calls] at called
      exact ⟨c.setStaging.take c.setTotalLength, err, called⟩

/-- A chunk leaves the front of the text staged or nothing, and commits nothing
but the text. -/
theorem setChunk_step (chunk : ChunkOf .set slot data offset request)
    (before : Owned id slot data w ∨ request.offset = 0)
    (step : FrameStep cfg hmac w ⟨id, env, request, response⟩ w') :
    Owned id slot data w' ∧
      CommitsOnly cfg (fun place text => place = slot ∧ text = data) (fun _ _ _ => False)
        ⟨w, ⟨id, env, request, response⟩, w'⟩ ∧
      (response.status = Status.ok.code → offset + request.payloadLength = data.length →
        w'.calls = w.calls ++ [.slotSet slot data 0] ∧
          w'.slots = w.slots.slotReplace slot data) := by
  have known := baseCheck_opcode chunk.passed
  have unreplaced : ∀ place, ¬ Replaced (w.dynamic.slots place) (w'.dynamic.slots place) := by
    intro place
    have outcome := step.dynamic
    cases outcome with
    | passive _ store _ => exact not_replaced_of_expired store.slots place
    | cleared isClear => cases known.symm.trans isClear
    | started isBegin => cases known.symm.trans isBegin
    | completed taken | received taken | failed taken => cases known.symm.trans taken.isData
  -- The staging that a continuing chunk finds is that of the record before the observation.
  have found : ∀ {c}, SetAccepted cfg request ((syncAuthState cfg env id w).contexts id) c →
      StagesText slot data c ∧ c.setReceivedLength = offset + request.payloadLength := by
    intro c accepted
    apply accepted.stages chunk
    rcases before with mine | first
    · refine Or.inr fun active => ?_
      have same := sync_upload active
      have still : (w.contexts id).setActive = true :=
        (congrArg Upload.active same).symm.trans active
      exact (mine still).congr same
    · exact Or.inl (chunk.place.symm.trans first)
  have outcome := processFrame_set cfg hmac env id known w
  rw [step.result] at outcome
  cases outcome with
  | refused status dropped kept =>
    refine ⟨fun active => ?_, ⟨Or.inl ⟨kept.calls, kept.slots⟩, fun place replaced =>
      absurd replaced (unreplaced place)⟩, fun success => absurd success status⟩
    have none : (w'.contexts id).setActive = false := congrArg Upload.active dropped
    exact absurd (active.symm.trans none) (by decide)
  | staged c status sized accepted holding kept =>
    obtain ⟨stages, received⟩ := found accepted
    refine ⟨fun _ => stages.congr holding, ⟨Or.inl ⟨kept.calls, kept.slots⟩,
      fun place replaced => absurd replaced (unreplaced place)⟩, fun success whole => ?_⟩
    obtain ⟨text, err, called⟩ := processFrame_set_complete chunk.passed step.result success
      accepted (received.trans (whole.trans stages.total.symm))
    have same := congrArg List.length (called.symm.trans kept.calls)
    simp at same
  | committed c err sized accepted complete set called dropped answered =>
    obtain ⟨stages, received⟩ := found accepted
    have bytes := stages.bytes
    rw [complete, stages.total, List.take_length] at bytes
    rw [SlotStore.slotSet_take, stages.slot, stages.total, bytes] at set
    rw [stages.slot, stages.total, bytes] at called
    refine ⟨fun active => ?_, ⟨Or.inr ⟨slot, data, err, ⟨rfl, rfl⟩, called, set⟩,
      fun place replaced => absurd replaced (unreplaced place)⟩, fun success _ => ?_⟩
    · have none : (w'.contexts id).setActive = false := congrArg Upload.active dropped
      exact absurd (active.symm.trans none) (by decide)
    · obtain rfl : err = 0 := by
        rcases answered with ⟨same, _⟩ | ⟨_, status⟩ | ⟨_, _, status⟩
        · exact same
        · exact absurd (status.symm.trans success) (by decide)
        · exact absurd (status.symm.trans success) (by decide)
      refine ⟨called, ?_⟩
      rcases SlotStore.slotSet_cases cfg slot data data.length env.saveErr w.slots w.settings with
        refused | ⟨_, _, _, accepted⟩
      · rw [refused] at set
        have impossible : -einval = 0 := congrArg Prod.fst set
        exact absurd impossible (by decide)
      · rw [accepted] at set
        have replaced := congrArg (fun result => result.2.1) set
        rw [List.take_length] at replaced
        exact replaced.symm

/-! ## Dynamic uploads -/

/-- What a dynamic slot is to hold, and what becomes of it. -/
structure DynamicText where
  slot : Nat
  data : List UInt8
  ttlSeconds : Nat
  consume : Bool

namespace DynamicText

/-- The text was committed at `nowMs` with its TTL and policy. -/
structure Stored (upload : DynamicText) (nowMs : Int) (entry : DynamicSlot) : Prop where
  valid : entry.committedValid = true
  length : entry.committedLength = upload.data.length
  text : entry.committed.take entry.committedLength = upload.data
  deadline : entry.ttlDeadlineMs = nowMs + (upload.ttlSeconds : Int) * 1000
  policy : entry.committedConsumeOnAccept = upload.consume

/-- The frame that opens this upload: an accepted BEGIN with its slot, length,
TTL and policy. -/
structure BeginOf (upload : DynamicText) (request : Frame) : Prop where
  passed : baseCheck request = .ok .dynamicBegin
  slot : request.slot.toNat = upload.slot
  total : request.totalLength = upload.data.length
  ttl : beginTtlSeconds request = upload.ttlSeconds
  policy : beginConsumes request = upload.consume

/-- The store stages the front of the upload, or nothing. -/
def Mine (upload : DynamicText) (w : World) : Prop :=
  w.dynamic.stagingActive = true → ∃ begin sent, upload.BeginOf begin ∧
    sent ≤ upload.data.length ∧ Stages begin (upload.data.take sent) w.dynamic

variable {upload : DynamicText} {begin : Frame}

theorem Mine.of_quiet (mine : upload.Mine w) (quiet : w.dynamic.Quiet w'.dynamic) :
    upload.Mine w' := by
  intro active
  rcases quiet.staging with kept | gone
  · have still := congrArg DynamicStore.Staging.active kept
    obtain ⟨begin, sent, opened, inside, stages⟩ := mine (still.symm.trans active)
    exact ⟨begin, sent, opened, inside, stages.congr kept⟩
  · exact absurd (active.symm.trans gone) (by decide)

theorem Stored.of_holds {nowMs : Int} {entry : DynamicSlot} (opened : upload.BeginOf begin)
    (holds : HoldsText begin upload.data nowMs entry) : upload.Stored nowMs entry := by
  constructor
  · exact holds.valid
  · exact holds.length
  · exact holds.text
  · rw [holds.deadline, opened.ttl]
  · rw [holds.policy, opened.policy]

/-- A frame of an upload commits only what the upload says. -/
def Only (cfg : Config) (upload : DynamicText) (moment : Moment World Exchange) : Prop :=
  CommitsOnly cfg (fun _ _ => False) (fun env place entry =>
    place = upload.slot ∧ upload.Stored (env.clock .commit) entry) moment

/-- A BEGIN leaves the upload staged when it is answered OK, and commits
nothing in any case. -/
theorem begin_step (opened : upload.BeginOf request)
    (step : FrameStep cfg hmac w ⟨id, env, request, response⟩ w') :
    (upload.Mine w → upload.Mine w') ∧ upload.Only cfg ⟨w, ⟨id, env, request, response⟩, w'⟩ ∧
      (response.status = Status.ok.code → upload.Mine w') := by
  have known := baseCheck_opcode opened.passed
  have kept : StoresKept w w' := by
    have stores := processFrame_storesKept cfg hmac env id request w fun opcode passed manages => by
      cases opened.passed.symm.trans passed
      cases manages
    rw [step.result] at stores
    exact stores
  have nothing : ∀ {slots}, Expired env w.dynamic.slots slots → w'.dynamic.slots = slots →
      upload.Only cfg ⟨w, ⟨id, env, request, response⟩, w'⟩ := by
    intro slots expired same
    refine ⟨Or.inl ⟨kept.calls, kept.slots⟩, fun place replaced => ?_⟩
    rw [same] at replaced
    exact absurd replaced (not_replaced_of_expired expired place)
  have outcome := step.dynamic
  cases outcome with
  | passive refused store _ =>
    exact ⟨fun mine => mine.of_quiet store.quiet, nothing store.slots rfl,
      fun success => absurd success (refused (Or.inl known))⟩
  | cleared isClear => cases known.symm.trans isClear
  | completed taken | received taken | failed taken => cases known.symm.trans taken.isData
  | started _ _ _ staging slots _ =>
    have mine : upload.Mine w' := by
      intro _
      simp only [DynamicStore.stagingOf, DynamicStore.Staging.mk.injEq] at staging
      obtain ⟨_, slot, expected, received, _, ttl, policy⟩ := staging
      exact ⟨request, 0, opened, Nat.zero_le _, slot, expected, ttl, policy, received, rfl⟩
    exact ⟨fun _ => mine, nothing slots rfl, fun _ => mine⟩

/-- A frame about neither the static nor the dynamic slots. It may drop the
upload, but it commits nothing. -/
theorem other_step {opcode : Opcode} (passed : baseCheck request = .ok opcode)
    (apart : aboutDynamic opcode = false) (unmanaged : manages opcode = false)
    (step : FrameStep cfg hmac w ⟨id, env, request, response⟩ w') :
    (upload.Mine w → upload.Mine w') ∧ upload.Only cfg ⟨w, ⟨id, env, request, response⟩, w'⟩ := by
  have known := baseCheck_opcode passed
  have kept : StoresKept w w' := by
    have stores := processFrame_storesKept cfg hmac env id request w fun other again manages => by
      cases passed.symm.trans again
      exact absurd manages (by simp [unmanaged])
    rw [step.result] at stores
    exact stores
  have outcome := step.dynamic
  cases outcome with
  | passive _ store _ =>
    refine ⟨fun mine => mine.of_quiet store.quiet, Or.inl ⟨kept.calls, kept.slots⟩,
      fun place replaced => absurd replaced (not_replaced_of_expired store.slots place)⟩
  | cleared isClear =>
    cases known.symm.trans isClear
    cases apart
  | started isBegin =>
    cases known.symm.trans isBegin
    cases apart
  | completed taken | received taken | failed taken =>
    cases known.symm.trans taken.isData
    cases apart

/-- A DATA chunk on a staging of this upload or none commits at most the whole
upload. The cases are those of `append_locked`; the chunk that completes it is
the only one that commits. -/
theorem data_step (chunk : ChunkOf .dynamicData upload.slot upload.data offset request)
    (mine : upload.Mine w) (step : FrameStep cfg hmac w ⟨id, env, request, response⟩ w') :
    upload.Mine w' ∧ upload.Only cfg ⟨w, ⟨id, env, request, response⟩, w'⟩ ∧
      (response.status = Status.ok.code → offset + request.payloadLength = upload.data.length →
        Replaced (w.dynamic.slots upload.slot) (w'.dynamic.slots upload.slot) ∧
          upload.Stored (env.clock .commit) (w'.dynamic.slots upload.slot)) := by
  have known := baseCheck_opcode chunk.passed
  have kept : StoresKept w w' := by
    have stores := processFrame_storesKept cfg hmac env id request w fun opcode passed manages => by
      cases chunk.passed.symm.trans passed
      cases manages
    rw [step.result] at stores
    exact stores
  have nothing : ∀ {slots}, Expired env w.dynamic.slots slots → w'.dynamic.slots = slots →
      upload.Only cfg ⟨w, ⟨id, env, request, response⟩, w'⟩ := by
    intro slots expired same
    refine ⟨Or.inl ⟨kept.calls, kept.slots⟩, fun place replaced => ?_⟩
    rw [same] at replaced
    exact absurd replaced (not_replaced_of_expired expired place)
  -- The store takes a chunk behind the front of the upload it stages.
  have taking : DataTaken cfg env id request w → ∃ begin s, upload.BeginOf begin ∧
      s.slots = DynamicStore.expiredSlots cfg (env.clock .operation) w.dynamic ∧
      Stages begin (upload.data.take (offset + request.payloadLength)) s ∧
      (dataAppend cfg env request w).2 =
        if offset + request.payloadLength = upload.data.length then
          DynamicStore.commit cfg (env.clock .commit) (env.clock .rearm) s else s := by
    intro taken
    obtain ⟨begin, sent, opened, inside, stages⟩ := mine taken.stagingActive
    obtain ⟨s, slots, _, held, placed, appended⟩ := dataAppend_of_stages taken stages
    have length : (upload.data.take sent).length = sent := by
      rw [List.length_take, Nat.min_eq_left inside]
    have same : sent = offset := by
      rw [← length, ← placed, chunk.place]
    have after := held.appended (request.payload request.payloadLength)
    subst same
    rw [chunk.take_append] at after
    rw [length] at appended after
    rw [opened.total] at appended
    exact ⟨begin, DynamicStore.appended sent (request.payload request.payloadLength) s, opened,
      slots, after, appended⟩
  have ends := chunk.end_le
  have outcome := step.dynamic
  cases outcome with
  | passive refused store _ =>
    exact ⟨mine.of_quiet store.quiet, nothing store.slots rfl,
      fun success => absurd success (refused (Or.inr known))⟩
  | cleared isClear => cases known.symm.trans isClear
  | started isBegin => cases known.symm.trans isBegin
  | received taken _ partly store _ =>
    obtain ⟨begin, s, opened, slots, stages, appended⟩ := taking taken
    have unfinished : offset + request.payloadLength ≠ upload.data.length := by
      rw [← chunk.place, ← chunk.total]
      exact partly
    rw [if_neg unfinished] at appended
    have left : w'.dynamic = s := store.trans appended
    have expired : Expired env w.dynamic.slots w'.dynamic.slots := by
      rw [left, slots]
      exact expiredSlots_expired cfg .operation w.dynamic
    refine ⟨fun _ => ?_, nothing expired rfl, fun _ whole => absurd whole unfinished⟩
    rw [left]
    exact ⟨begin, _, opened, ends, stages⟩
  | failed taken status partly _ store _ =>
    obtain ⟨begin, s, opened, slots, stages, appended⟩ := taking taken
    have unfinished : offset + request.payloadLength ≠ upload.data.length := by
      rw [← chunk.place, ← chunk.total]
      exact partly
    rw [if_neg unfinished] at appended
    have left : w'.dynamic = s.cancelStagingNow cfg (env.clock .cleanup) := by
      rw [store, appended]
    have expired : Expired env w.dynamic.slots w'.dynamic.slots := by
      have first : Expired env w.dynamic.slots s.slots := by
        rw [slots]
        exact expiredSlots_expired cfg .operation w.dynamic
      rw [left]
      exact first.trans (cancelStagingNow_passive cfg .cleanup s).slots
    refine ⟨fun active => ?_, nothing expired rfl, fun success => absurd success status⟩
    rw [left] at active
    cases active
  | completed taken _ _ complete store _ =>
    obtain ⟨begin, s, opened, slots, stages, appended⟩ := taking taken
    have whole : offset + request.payloadLength = upload.data.length := by
      rw [← chunk.place, ← chunk.total]
      exact complete
    rw [if_pos whole] at appended
    have left := store.trans appended
    rw [whole, List.take_length] at stages
    have target : s.stagingSlot = upload.slot := stages.slot.trans opened.slot
    have stored : ∀ entry, upload.Stored (env.clock .commit)
        (DynamicStore.committedSlot (env.clock .commit) entry s) := fun entry =>
      .of_holds opened (stages.committed opened.total.symm (env.clock .commit) entry)
    refine ⟨fun active => ?_, ⟨Or.inl ⟨kept.calls, kept.slots⟩, fun place replaced => ?_⟩,
      fun _ _ => ?_⟩
    · rw [left] at active
      cases active
    · rw [left, DynamicStore.commit_slots, target, slots] at replaced ⊢
      by_cases same : place = upload.slot
      · refine ⟨same, ?_⟩
        rw [same, Function.update_self]
        exact stored _
      · rw [Function.update_of_ne same] at replaced
        exact absurd replaced (not_replaced_of_expired
          (expiredSlots_expired cfg .operation w.dynamic) place)
    · rw [left, DynamicStore.commit_slots, target, Function.update_self]
      refine ⟨⟨rfl, fun same => ?_⟩, stored _⟩
      have generation := congrArg DynamicSlot.ttlGeneration same
      simp only [DynamicStore.committedSlot, slots] at generation
      rcases DynamicStore.expiredSlots_onlyExpired cfg (env.clock .operation) w.dynamic
        upload.slot with unchanged | ⟨_, emptied⟩
      · rw [unchanged] at generation
        simp at generation
      · rw [emptied, DynamicStore.clearedSlot] at generation
        have numbers := congrArg UInt32.toNat generation
        rw [UInt32.toNat_add, UInt32.toNat_add] at numbers
        have one : UInt32.toNat 1 = 1 := rfl
        omega

end DynamicText

end RuntimeMacro.Guarantees.ChunkTransactions
