import RuntimeMacro.Source.CredentialRecord
import RuntimeMacro.Source.DynamicUploads

/-!
# Uploading a text

tools/runtime_macro_cli.py:766-807; docs/DYNAMIC_PROTOCOL.md:238-308. The
frames a host sends to upload a text: a BEGIN, and one DATA frame for every
chunk. While nothing disturbs the upload every one of them is accepted.
-/
namespace RuntimeMacro.Source
open Foundations.Checks
open Protocol
open AuthCore (Hmac)

variable {cfg : Config} {hmac : Hmac} {id : ContextId} {w w' : World} {env : Env}

/-- What a BEGIN may ask for beyond its slot and length. -/
structure BeginOptions where
  ttlSeconds : Option Nat
  keep : Option Bool

/-- The options of a BEGIN on the wire: four octets of TTL, then the flags. -/
def BeginOptions.payload (options : BeginOptions) : List UInt8 :=
  options.ttlSeconds.elim [] putU32 ++
    options.keep.elim [] fun keep => [if keep then keepAfterExecuteFlag else 0]

/-- A text to upload, cut into the chunks of its DATA frames. -/
structure Plan where
  requestId : UInt8
  slot : UInt8
  options : BeginOptions
  chunks : List (List UInt8)

namespace Plan

/-- The text that the chunks make up. -/
def text (plan : Plan) : List UInt8 := plan.chunks.flatten

/-- The frame that announces the text. -/
def beginFrame (plan : Plan) : Frame :=
  .build .dynamicBegin plan.requestId plan.slot 0 plan.text.length plan.options.payload

/-- The DATA frame with `chunk` when `sent` bytes are on their way already. -/
def dataFrame (plan : Plan) (sent chunk : List UInt8) : Frame :=
  .build .dynamicData plan.requestId plan.slot sent.length plan.text.length chunk

/-- What the firmware asks of an upload: a dynamic slot, a typeable text that
fits, chunks that fit a frame, and a TTL in its range. -/
structure Legal (cfg : Config) (plan : Plan) : Prop where
  slot : DynamicStore.slotIsValid cfg plan.slot.toNat = true
  nonempty : plan.text.length ≠ 0
  fits : plan.text.length ≤ dynamicSlotMaxTextLen
  alphabet : ∀ byte ∈ plan.text, Ascii.byteIsValid byte = true
  sized : ∀ chunk ∈ plan.chunks, chunk.length ≠ 0 ∧ chunk.length ≤ payloadSize
  ttl : ∀ seconds, plan.options.ttlSeconds = some seconds →
    dynamicMinTtlSeconds ≤ seconds ∧ seconds ≤ dynamicMaxTtlSeconds

end Plan

theorem options_length (options : BeginOptions) :
    options.payload.length = 0 ∨ options.payload.length = 1 ∨ options.payload.length = 4 ∨
      options.payload.length = 5 := by
  obtain ⟨ttl, keep⟩ := options
  cases ttl <;> cases keep <;> simp [BeginOptions.payload, putU32, AuthCore.putLe32]

theorem options_sized (options : BeginOptions) : options.payload.length ≤ payloadSize := by
  have lengths := options_length options
  unfold payloadSize
  omega

variable {plan : Plan}

theorem beginFrame_payload (plan : Plan) :
    plan.beginFrame.payload plan.beginFrame.payloadLength = plan.options.payload ∧
      plan.beginFrame.payloadLength = plan.options.payload.length := by
  have length := Frame.payloadLength_build .dynamicBegin plan.requestId plan.slot 0
    plan.text.length plan.options.payload (options_sized plan.options)
  refine ⟨?_, length⟩
  rw [show plan.beginFrame.payloadLength = _ from length]
  exact Frame.payload_build _ _ _ _ _ _ (options_sized plan.options)

/-- What the firmware reads from a BEGIN payload. -/
theorem beginTtlSeconds_of_options {request : Frame} {options : BeginOptions}
    (carried : request.payload request.payloadLength = options.payload)
    (length : request.payloadLength = options.payload.length)
    (bound : ∀ seconds, options.ttlSeconds = some seconds → seconds ≤ dynamicMaxTtlSeconds) :
    beginTtlSeconds request = options.ttlSeconds.getD dynamicDefaultTtlSeconds := by
  unfold beginTtlSeconds
  rw [carried, length]
  obtain ⟨ttl, keep⟩ := options
  cases ttl with
  | none => cases keep <;> rfl
  | some seconds =>
    have small : seconds < 2 ^ 32 := by
      have atMost := bound seconds rfl
      unfold dynamicMaxTtlSeconds at atMost
      omega
    cases keep with
    | none =>
      have word := AuthCore.getLe32_putLe32 seconds small []
      rw [List.append_nil] at word
      exact word
    | some keep => exact AuthCore.getLe32_putLe32 seconds small _

theorem beginFlags_of_options {request : Frame} {options : BeginOptions}
    (carried : request.payload request.payloadLength = options.payload)
    (length : request.payloadLength = options.payload.length) :
    beginFlags request = if options.keep.getD false then keepAfterExecuteFlag else 0 := by
  unfold beginFlags
  rw [carried, length]
  obtain ⟨ttl, keep⟩ := options
  cases ttl <;> cases keep <;> rfl

theorem beginConsumes_of_options {request : Frame} {options : BeginOptions}
    (carried : request.payload request.payloadLength = options.payload)
    (length : request.payloadLength = options.payload.length) :
    beginConsumes request = !options.keep.getD false := by
  unfold beginConsumes
  rw [beginFlags_of_options carried length]
  cases options.keep.getD false <;> rfl

theorem beginFrame_ttl (legal : plan.Legal cfg) :
    beginTtlSeconds plan.beginFrame = plan.options.ttlSeconds.getD dynamicDefaultTtlSeconds := by
  obtain ⟨payload, length⟩ := beginFrame_payload plan
  exact beginTtlSeconds_of_options payload length fun seconds asked => (legal.ttl seconds asked).2

theorem beginFrame_flags (plan : Plan) :
    beginFlags plan.beginFrame =
      if plan.options.keep.getD false then keepAfterExecuteFlag else 0 := by
  obtain ⟨payload, length⟩ := beginFrame_payload plan
  exact beginFlags_of_options payload length

theorem beginFrame_consumes (plan : Plan) :
    beginConsumes plan.beginFrame = !plan.options.keep.getD false := by
  obtain ⟨payload, length⟩ := beginFrame_payload plan
  exact beginConsumes_of_options payload length

theorem text_lt (legal : plan.Legal cfg) : plan.text.length < 65536 := by
  have fits := legal.fits
  unfold dynamicSlotMaxTextLen at fits
  omega

theorem beginFrame_passes (legal : plan.Legal cfg) :
    firstFailure (beginChecks cfg plan.beginFrame) = none := by
  have slot : plan.beginFrame.slot = plan.slot := Frame.slot_build ..
  have offset : plan.beginFrame.offset = 0 := Frame.offset_build _ _ _ _ _ _ (by decide)
  have total : plan.beginFrame.totalLength = plan.text.length :=
    Frame.totalLength_build _ _ _ _ _ _ (text_lt legal)
  have ttl : dynamicMinTtlSeconds ≤ beginTtlSeconds plan.beginFrame ∧
      beginTtlSeconds plan.beginFrame ≤ dynamicMaxTtlSeconds := by
    rw [beginFrame_ttl legal]
    cases asked : plan.options.ttlSeconds with
    | none => decide
    | some seconds => exact legal.ttl seconds asked
  have lengths : ¬ (plan.beginFrame.payloadLength ≠ 0 ∧ plan.beginFrame.payloadLength ≠ 1 ∧
      plan.beginFrame.payloadLength ≠ 4 ∧ plan.beginFrame.payloadLength ≠ 5) := by
    have lengths := options_length plan.options
    rw [(beginFrame_payload plan).2]
    omega
  have flags : beginFlags plan.beginFrame &&& ~~~keepAfterExecuteFlag = 0 := by
    rw [beginFrame_flags]
    cases plan.options.keep.getD false <;> rfl
  simp only [beginChecks, firstFailure_cons_eq_none, firstFailure_nil, Bool.not_eq_false',
    decide_eq_false_iff_not, and_true]
  have nonempty := legal.nonempty
  have fits := legal.fits
  rw [slot, offset, total]
  refine ⟨legal.slot, by simp, by omega, lengths, by simp [flags], by omega⟩

/-- The upload stands in the context and in the store after `sent`. -/
structure Underway (plan : Plan) (sent : List UInt8) (id : ContextId) (w : World) : Prop where
  upload : (w.contexts id).upload .dynamic =
    ⟨true, plan.requestId, plan.slot.toNat, plan.text.length, sent.length, []⟩
  active : w.dynamic.stagingActive = true
  stages : Stages plan.beginFrame sent w.dynamic

theorem processFrame_begin (hmac : Hmac) (id : ContextId) (legal : plan.Legal cfg)
    (scheduled : 0 ≤ env.rescheduleErr)
    (w : World) :
    Underway plan [] id (processFrame cfg hmac env id plan.beginFrame w).2 := by
  have outcome := processFrame_dynamic cfg hmac env id plan.beginFrame w
  have known : Opcode.ofByte plan.beginFrame.opcode = some .dynamicBegin := by
    rw [Plan.beginFrame, Frame.opcode_build, Opcode.ofByte_code]
  have passed : baseCheck plan.beginFrame = .ok .dynamicBegin :=
    baseCheck_build _ _ _ _ _ _ (options_sized plan.options)
  have accepted : (processFrame cfg hmac env id plan.beginFrame w).1.status =
      Status.ok.code := by
    simp only [processFrame, passed, dispatch]
    rw [processDynamicBegin_of_passed (beginFrame_passes legal), if_neg (by omega)]
    exact Frame.status_setSuccess ..
  have total : plan.beginFrame.totalLength = plan.text.length :=
    Frame.totalLength_build _ _ _ _ _ _ (text_lt legal)
  cases outcome with
  | passive refused => exact absurd accepted (refused (Or.inl known))
  | cleared isClear => cases isClear.symm.trans known
  | completed data | received data | failed data => cases data.isData.symm.trans known
  | started isBegin status valid staging slots upload =>
    simp only [DynamicStore.stagingOf, DynamicStore.Staging.mk.injEq] at staging
    obtain ⟨_, slot, expected, received, active, ttl, policy⟩ := staging
    refine ⟨?_, active, slot, expected, ttl, policy, received, rfl⟩
    rw [upload, total]
    simp [Plan.beginFrame]

/-! ## DATA frames -/

/-- The call finds the record of the context up to date and the slot's old text
not due. -/
def Undisturbed (cfg : Config) (env : Env) (id : ContextId) (w : World) : Prop :=
  ¬ Stale env w.auth (w.contexts id) ∧
    DynamicStore.stagingDue cfg (env.clock .operation) w.dynamic = false

/-- `chunk` is a piece of the text right behind `sent`. -/
structure Piece (plan : Plan) (sent chunk : List UInt8) : Prop where
  nonempty : chunk.length ≠ 0
  sized : chunk.length ≤ payloadSize
  inside : sent.length + chunk.length ≤ plan.text.length
  alphabet : ∀ byte ∈ chunk, Ascii.byteIsValid byte = true

section Data
variable {sent chunk : List UInt8}

theorem dataFrame_payloadLength (piece : Piece plan sent chunk) :
    (plan.dataFrame sent chunk).payloadLength = chunk.length :=
  Frame.payloadLength_build _ _ _ _ _ _ piece.sized

theorem dataFrame_payload (piece : Piece plan sent chunk) :
    (plan.dataFrame sent chunk).payload (plan.dataFrame sent chunk).payloadLength = chunk := by
  rw [dataFrame_payloadLength piece]
  exact Frame.payload_build _ _ _ _ _ _ piece.sized

theorem dataFrame_offset (legal : plan.Legal cfg) (piece : Piece plan sent chunk) :
    (plan.dataFrame sent chunk).offset = sent.length := by
  have fits := text_lt legal
  have inside := piece.inside
  exact Frame.offset_build _ _ _ _ _ _ (by omega)

theorem dataFrame_total (legal : plan.Legal cfg) (sent chunk : List UInt8) :
    (plan.dataFrame sent chunk).totalLength = plan.text.length :=
  Frame.totalLength_build _ _ _ _ _ _ (text_lt legal)

theorem dataFrame_valid (legal : plan.Legal cfg) (piece : Piece plan sent chunk)
    {c : Context} (upload : c.upload .dynamic =
      ⟨true, plan.requestId, plan.slot.toNat, plan.text.length, sent.length, []⟩) :
    firstFailure (dataChecks cfg (plan.dataFrame sent chunk) c) = none := by
  simp only [Context.upload, Upload.mk.injEq] at upload
  obtain ⟨active, requestId, slot, total, received, _⟩ := upload
  have alphabet : (plan.dataFrame sent chunk).setPayloadIsValid chunk.length = true := by
    have payload := dataFrame_payload piece
    rw [dataFrame_payloadLength piece] at payload
    rw [Frame.setPayloadIsValid, payload, List.all_eq_true]
    exact piece.alphabet
  have aimed : (plan.dataFrame sent chunk).slot = plan.slot := Frame.slot_build ..
  have identity : (plan.dataFrame sent chunk).requestId = plan.requestId := Frame.requestId_build ..
  have nonempty := piece.nonempty
  have inside := piece.inside
  have bound := legal.nonempty
  have fits := legal.fits
  simp only [dataChecks, firstFailure_cons_eq_none, firstFailure_nil, Bool.not_eq_false',
    decide_eq_false_iff_not, and_true, active, requestId, slot, total, received, alphabet, aimed,
    identity, dataFrame_offset legal piece, dataFrame_total legal, dataFrame_payloadLength piece]
  refine ⟨by simp [legal.slot], by omega, by omega, by omega, by simp, by simp⟩

theorem appendSlot_accepted (legal : plan.Legal cfg) (piece : Piece plan sent chunk)
    (underway : Underway plan sent id w)
    (apart : DynamicStore.stagingDue cfg (env.clock .operation) w.dynamic = false) :
    (dataAppend cfg env (plan.dataFrame sent chunk) w).1 = 0 := by
  have kept := DynamicStore.expireDue_stagingOf apart
  have stages := underway.stages.congr kept
  have active : (w.dynamic.expireDue cfg (env.clock .operation)).stagingActive = true := by
    have same := congrArg DynamicStore.Staging.active kept
    exact same.trans underway.active
  have inside := piece.inside
  have expected : (w.dynamic.expireDue cfg (env.clock .operation)).stagingExpectedLength =
      plan.text.length := by
    rw [stages.expected]
    exact Frame.totalLength_build _ _ _ _ _ _ (text_lt legal)
  have received := stages.received
  have valid : DynamicStore.AppendValid cfg plan.slot.toNat sent.length chunk
      (w.dynamic.expireDue cfg (env.clock .operation)) := by
    refine ⟨active, legal.slot, ?_, piece.nonempty, received.symm, by omega, by omega, ?_⟩
    · rw [stages.slot, Plan.beginFrame, Frame.slot_build]
    · rw [List.all_eq_true]
      exact piece.alphabet
  have aimed : (plan.dataFrame sent chunk).slot = plan.slot := Frame.slot_build ..
  unfold dataAppend DynamicStore.appendSlot
  rw [dataFrame_payload piece, dataFrame_offset legal piece, aimed,
    DynamicStore.appendLocked_of_valid valid]

/-- An undisturbed DATA frame is answered OK. -/
theorem dataFrame_accepted (hmac : Hmac) (legal : plan.Legal cfg) (piece : Piece plan sent chunk)
    (underway : Underway plan sent id w) (undisturbed : Undisturbed cfg env id w)
    (scheduled : sent.length + chunk.length = plan.text.length ∨ 0 ≤ env.rescheduleErr) :
    (processFrame cfg hmac env id (plan.dataFrame sent chunk) w).1.status = Status.ok.code := by
  have passed : baseCheck (plan.dataFrame sent chunk) = .ok .dynamicData :=
    baseCheck_build _ _ _ _ _ _ piece.sized
  obtain ⟨fresh, apart⟩ := undisturbed
  have synced : syncAuthState cfg env id w = (w.withAuth (observedSession env w.auth).2).modify id
      (.observe w.auth.state (observedSession env w.auth).1) := by
    rcases syncAuthState_cases cfg env id w with ⟨stale, _⟩ | ⟨_, synced⟩
    · exact absurd stale fresh
    · exact synced
  have upload : ((syncAuthState cfg env id w).contexts id).upload .dynamic =
      ⟨true, plan.requestId, plan.slot.toNat, plan.text.length, sent.length, []⟩ := by
    rw [← underway.upload, synced, World.modify_contexts_self, World.withAuth_contexts]
    rfl
  have taken : (dataAppend cfg env (plan.dataFrame sent chunk)
      (syncAuthState cfg env id w)).1 = 0 := by
    rw [dataAppend_congr (w := w) (by rw [synced]; rfl)]
    exact appendSlot_accepted legal piece underway apart
  simp only [processFrame, passed, dispatch]
  rw [processDynamicData_of_passed (dataFrame_valid legal piece upload),
    if_neg (by simpa using taken)]
  have total := congrArg Upload.totalLength upload
  by_cases complete :
      (plan.dataFrame sent chunk).offset + (plan.dataFrame sent chunk).payloadLength =
        ((syncAuthState cfg env id w).contexts id).dynamicTotalLength
  · rw [if_pos complete]
    exact Frame.status_setSuccess ..
  · have left : ¬ sent.length + chunk.length = plan.text.length := by
      rw [dataFrame_offset legal piece, dataFrame_payloadLength piece] at complete
      exact fun whole => complete (whole.trans total.symm)
    have works : ¬ env.rescheduleErr < 0 := by
      rcases scheduled with whole | works
      · exact absurd whole left
      · omega
    rw [if_neg complete, refreshDynamicTimeout_fst, if_neg works, if_neg (by decide)]
    exact Frame.status_setSuccess ..

theorem dataFrame_known (plan : Plan) (sent chunk : List UInt8) :
    Opcode.ofByte (plan.dataFrame sent chunk).opcode = some .dynamicData := by
  rw [Plan.dataFrame, Frame.opcode_build, Opcode.ofByte_code]

/-- A chunk that leaves some of the text goes behind the staged bytes. -/
theorem processFrame_next (hmac : Hmac) (legal : plan.Legal cfg) (piece : Piece plan sent chunk)
    (underway : Underway plan sent id w) (undisturbed : Undisturbed cfg env id w)
    (scheduled : 0 ≤ env.rescheduleErr) (left : sent.length + chunk.length ≠ plan.text.length) :
    Underway plan (sent ++ chunk) id
      (processFrame cfg hmac env id (plan.dataFrame sent chunk) w).2 := by
  have accepted := dataFrame_accepted hmac legal piece underway undisturbed (Or.inr scheduled)
  have known := dataFrame_known plan sent chunk
  have offset := dataFrame_offset legal piece
  have length := dataFrame_payloadLength piece
  have total := dataFrame_total legal sent chunk
  cases processFrame_dynamic cfg hmac env id (plan.dataFrame sent chunk) w with
  | passive refused => exact absurd accepted (refused (Or.inr known))
  | cleared isClear => cases isClear.symm.trans known
  | started isBegin => cases isBegin.symm.trans known
  | failed data status => exact absurd accepted status
  | completed data status answer complete =>
    rw [offset, length, total] at complete
    exact absurd complete left
  | received data status partly store upload =>
    have begun : plan.beginFrame.totalLength = plan.text.length :=
      Frame.totalLength_build _ _ _ _ _ _ (text_lt legal)
    obtain ⟨s, _, active, stages, _, result⟩ := dataAppend_of_stages data underway.stages
    rw [dataFrame_payload piece, length, begun, if_neg left] at result
    have appended := stages.appended chunk
    rw [← result, ← store] at appended
    refine ⟨?_, ?_, appended⟩
    · rw [upload, underway.upload, offset, length, List.length_append]
    · rw [store, result]
      exact active

/-- The chunk that completes the text commits it. -/
theorem processFrame_last (hmac : Hmac) (legal : plan.Legal cfg) (piece : Piece plan sent chunk)
    (underway : Underway plan sent id w) (undisturbed : Undisturbed cfg env id w)
    (whole : sent.length + chunk.length = plan.text.length) :
    HoldsText plan.beginFrame (sent ++ chunk) (env.clock .commit)
      ((processFrame cfg hmac env id (plan.dataFrame sent chunk) w).2.dynamic.slots
        plan.slot.toNat) := by
  have accepted := dataFrame_accepted hmac legal piece underway undisturbed (Or.inl whole)
  have known := dataFrame_known plan sent chunk
  have offset := dataFrame_offset legal piece
  have length := dataFrame_payloadLength piece
  have total := dataFrame_total legal sent chunk
  cases processFrame_dynamic cfg hmac env id (plan.dataFrame sent chunk) w with
  | passive refused => exact absurd accepted (refused (Or.inr known))
  | cleared isClear => cases isClear.symm.trans known
  | started isBegin => cases isBegin.symm.trans known
  | failed data status => exact absurd accepted status
  | received data status partly =>
    rw [offset, length, total] at partly
    exact absurd whole partly
  | completed data status answer complete store =>
    have begun : plan.beginFrame.totalLength = plan.text.length :=
      Frame.totalLength_build _ _ _ _ _ _ (text_lt legal)
    obtain ⟨s, _, _, stages, _, result⟩ := dataAppend_of_stages data underway.stages
    rw [dataFrame_payload piece, length, begun, if_pos whole] at result
    have appended := stages.appended chunk
    have all : (sent ++ chunk).length = plan.beginFrame.totalLength := by
      rw [List.length_append, whole, begun]
    have slot : (DynamicStore.appended sent.length chunk s).stagingSlot = plan.slot.toNat := by
      rw [appended.slot, Plan.beginFrame, Frame.slot_build]
    rw [store, result, DynamicStore.commit_slots, slot, Function.update_self]
    exact appended.committed all _ _

end Data

end RuntimeMacro.Source
