import RuntimeMacro.Foundations.Transfers
import RuntimeMacro.Source.Device
import RuntimeMacro.Source.SetFrames
import RuntimeMacro.Source.WorldRuns

/-!
# Static SET is all-or-nothing

runtime_macro_protocol.c:846-967; docs/PROTOCOL.md:120-159. The SET staging of
a context against the history of its accepted SET frames: what is staged is
what those frames carried since the last accepted one at offset 0, and a slot
changes only at the frame that completes it.
-/
namespace RuntimeMacro.Guarantees.SetCommit
open Source Source.Protocol Foundations.Runs Foundations.Transfers
open AuthCore (Hmac)

variable {cfg : Config} {hmac : Hmac} {id : ContextId} {w w' start : World}
  {exchange : Exchange} {past : List Exchange}

/-- An accepted SET at offset 0 on the context. -/
def opens (id : ContextId) (exchange : Exchange) : Bool :=
  exchange.id == id && exchange.opcode == some .set && exchange.accepted &&
    exchange.request.offset == 0

/-- An accepted SET past offset 0 on the context. -/
def continues (id : ContextId) (exchange : Exchange) : Bool :=
  exchange.id == id && exchange.opcode == some .set && exchange.accepted &&
    exchange.request.offset != 0

/-- The context holds what the frames of the upload carried. -/
structure Holds (c : Context) (upload : List Exchange) : Prop where
  requestId : ∀ exchange ∈ upload, exchange.request.requestId = c.setRequestId
  slot : ∀ exchange ∈ upload, exchange.request.slot.toNat = c.setSlot
  total : ∀ exchange ∈ upload, exchange.request.totalLength = c.setTotalLength
  received : c.setReceivedLength = (uploadText upload).length
  bytes : c.setStaging.take c.setReceivedLength = uploadText upload

/-- An active staging holds the upload the history of the context is in. -/
def Tracks (id : ContextId) (past : List Exchange) (c : Context) : Prop :=
  c.setActive = true → ∃ upload, latest (opens id) (continues id) past = some upload ∧
    Holds c upload.events

/-! ## One SET frame -/

theorem Holds.opened (sized : exchange.request.payloadLength ≤ payloadSize) (c : Context) :
    Holds (startSet cfg exchange.request c) [exchange] := by
  have carried : uploadText [exchange] = exchange.chunk := by simp [uploadText]
  have length := Exchange.chunk_length sized
  refine ⟨by simp [startSet], by simp [startSet], by simp [startSet], ?_, ?_⟩
  · rw [carried, length]
    rfl
  · rw [carried]
    have taken := Foundations.ByteBuffer.write_take_zero (c.clearSet cfg).setStaging
      exchange.chunk
    rw [length] at taken
    exact taken

/-- A chunk that continues the transaction is copied behind the bytes received
so far. -/
theorem Holds.extend (sized : exchange.request.payloadLength ≤ payloadSize) {c : Context}
    {upload : List Exchange} (holds : Holds c upload)
    (continued : SetContinues exchange.request c) :
    Holds (extendSet exchange.request c) (upload ++ [exchange]) := by
  have length := Exchange.chunk_length sized
  have all : ∀ {field : Exchange → Nat} {value : Nat}, (∀ e ∈ upload, field e = value) →
      field exchange = value → ∀ e ∈ upload ++ [exchange], field e = value := by
    intro field value before last e member
    rcases List.mem_append.mp member with early | late
    · exact before e early
    · rw [List.mem_singleton.mp late]
      exact last
  refine ⟨?_, all holds.slot continued.slot.symm, all holds.total continued.total.symm, ?_, ?_⟩
  · intro e member
    rcases List.mem_append.mp member with early | late
    · exact holds.requestId e early
    · rw [List.mem_singleton.mp late]
      exact continued.requestId.symm
  · rw [uploadText_append, List.length_append, ← holds.received, length]
    rfl
  · have taken := Foundations.ByteBuffer.write_take c.setStaging exchange.request.offset
      exchange.chunk
    rw [length, continued.received, holds.bytes] at taken
    rw [uploadText_append, ← taken]
    simp only [extendSet, continued.received]
    rfl

/-- The upload a SET frame is the last chunk of, if it is accepted. -/
def IsUpload (id : ContextId) (past : List Exchange) (exchange : Exchange)
    (upload : List Exchange) : Prop :=
  (exchange.request.offset = 0 ∧ upload = [exchange]) ∨
  (exchange.request.offset ≠ 0 ∧ ∃ front first since, past = front ++ first :: since ∧
    opens id first = true ∧ (∀ e ∈ since, opens id e = false) ∧
    upload = first :: since.filter (continues id) ++ [exchange])

/-- An accepted chunk makes the context hold the upload with that chunk at
its end. A first chunk starts a new upload, any other extends the one that
the context tracks. -/
theorem accepted_holds (tracks : Tracks id past (w.contexts id)) {c c' : Context}
    (sized : exchange.request.payloadLength ≤ payloadSize)
    (synced : c.setActive = true → c.upload .set = (w.contexts id).upload .set)
    (accepted : SetAccepted cfg exchange.request c c') :
    ∃ upload, IsUpload id past exchange upload ∧ Holds c' upload ∧
      (exchange.request.offset = 0 → upload = [exchange]) ∧
      (exchange.request.offset ≠ 0 → ∃ before, latest (opens id) (continues id) past =
        some before ∧ upload = before.events ++ [exchange]) := by
  obtain ⟨_, ⟨first, rfl⟩ | ⟨continued, rfl⟩⟩ := accepted
  · exact ⟨[exchange], Or.inl ⟨first, rfl⟩, Holds.opened sized c, fun _ => rfl,
      fun later => absurd first later⟩
  · have same := synced continued.active
    simp only [Context.upload, Upload.mk.injEq] at same
    obtain ⟨active, requestId, slot, total, received, staging⟩ := same
    obtain ⟨before, isBefore, holds⟩ := tracks (active.symm.trans continued.active)
    have held : Holds c before.events := by
      refine ⟨?_, ?_, ?_, ?_, ?_⟩
      · rw [requestId]
        exact holds.requestId
      · rw [slot]
        exact holds.slot
      · rw [total]
        exact holds.total
      · rw [received]
        exact holds.received
      · rw [received, staging]
        exact holds.bytes
    obtain ⟨front, since, split, opened, quiet, parts⟩ := latest_split isBefore
    refine ⟨before.events ++ [exchange], Or.inr ⟨continued.later, front, before.first, since,
      split, opened, quiet, ?_⟩, held.extend sized continued,
      fun first => absurd first continued.later, fun _ => ⟨before, isBefore, rfl⟩⟩
    rw [← parts]
    rfl

/-! ## Every history -/

theorem opens_iff : opens id exchange = true ↔ exchange.id = id ∧ exchange.opcode = some .set ∧
    exchange.accepted = true ∧ exchange.request.offset = 0 := by
  simp [opens, and_assoc]

theorem continues_iff : continues id exchange = true ↔ exchange.id = id ∧
    exchange.opcode = some .set ∧ exchange.accepted = true ∧ exchange.request.offset ≠ 0 := by
  simp [continues, and_assoc]

/-- Frames that are no accepted SET on the context leave its upload history
alone. -/
theorem latest_of_silent (silent : exchange.id ≠ id ∨ exchange.opcode ≠ some .set) :
    latest (opens id) (continues id) (past ++ [exchange]) =
      latest (opens id) (continues id) past := by
  have notOpened : opens id exchange = false := by
    rw [← Bool.not_eq_true, opens_iff]
    tauto
  have notContinued : continues id exchange = false := by
    rw [← Bool.not_eq_true, continues_iff]
    tauto
  exact latest_of_other notOpened notContinued

/-- What the context tracks is read off its SET transaction alone. -/
theorem Tracks.congr {c c' : Context} (tracks : Tracks id past c)
    (same : c'.upload .set = c.upload .set) : Tracks id past c' := by
  simp only [Context.upload, Upload.mk.injEq] at same
  obtain ⟨active, requestId, slot, total, received, staging⟩ := same
  intro alive
  obtain ⟨upload, isLatest, holds⟩ := tracks (active.symm.trans alive)
  refine ⟨upload, isLatest, ?_, ?_, ?_, ?_, ?_⟩
  · rw [requestId]
    exact holds.requestId
  · rw [slot]
    exact holds.slot
  · rw [total]
    exact holds.total
  · rw [received]
    exact holds.received
  · rw [received, staging]
    exact holds.bytes

theorem Tracks.of_dropped {c : Context} (dropped : (c.upload .set).active = false) :
    Tracks id past c := fun alive => absurd (alive.symm.trans dropped) (by decide)

/-- A frame extends, starts or drops the upload of its own context, and leaves
those of the others. -/
theorem Tracks.step (tracks : ∀ id, Tracks id past (w.contexts id))
    (step : FrameStep cfg hmac w exchange w') (id : ContextId) :
    Tracks id (past ++ [exchange]) (w'.contexts id) := by
  have result := step.result
  by_cases mine : exchange.id = id ∧ exchange.opcode = some .set
  · obtain ⟨rfl, isSet⟩ := mine
    have outcome := processFrame_set cfg hmac exchange.env exchange.id isSet w
    rw [result] at outcome
    cases outcome with
    | refused status dropped kept => exact Tracks.of_dropped (by rw [dropped]; rfl)
    | committed c err sized accepted complete set called dropped answered =>
      exact Tracks.of_dropped (by rw [dropped]; rfl)
    | staged c status sized accepted holding kept =>
      obtain ⟨upload, _, holds, first, later⟩ :=
        accepted_holds (tracks exchange.id) sized sync_upload accepted
      have okay : exchange.accepted = true := by
        simpa [Exchange.accepted] using status
      refine Tracks.congr (c := c) (fun _ => ?_) holding
      by_cases atStart : exchange.request.offset = 0
      · refine ⟨_, latest_of_opens (opens_iff.mpr ⟨rfl, isSet, okay, atStart⟩), ?_⟩
        rw [first atStart] at holds
        exact holds
      · obtain ⟨before, isBefore, rfl⟩ := later atStart
        have notOpened : opens exchange.id exchange = false := by
          rw [← Bool.not_eq_true, opens_iff]
          exact fun opened => atStart opened.2.2.2
        exact ⟨_, latest_of_continues isBefore notOpened
          (continues_iff.mpr ⟨rfl, isSet, okay, atStart⟩), holds⟩
  · have kept : Context.KeepsOrDrops .set (w.contexts id) (w'.contexts id) := by
      apply step.keepsOrDrops
      intro own opcode known
      cases opcode with
      | set => exact absurd ⟨own, known⟩ mine
      | _ => rfl
    unfold Tracks
    rw [latest_of_silent (not_and_or.mp mine)]
    rcases kept with same | dropped
    · exact (tracks id).congr same
    · exact Tracks.of_dropped dropped

theorem run_tracks (fresh : ∀ id, (start.contexts id).setActive = false)
    (run : Run (FrameStep cfg hmac) start past w) (id : ContextId) :
    Tracks id past (w.contexts id) := by
  have all : ∀ id, Tracks id past (w.contexts id) := by
    refine run.history (fun past w => ∀ id, Tracks id past (w.contexts id)) ?_ ?_
    · exact fun id => Tracks.of_dropped (fresh id)
    · exact fun _ _ _ _ _ tracks step => Tracks.step tracks step
  exact all id

/-- The answer is that to a final chunk: OK, with the next offset at the total
length (docs/PROTOCOL.md:149-152). -/
def AnsweredFinal (exchange : Exchange) : Prop :=
  exchange.accepted = true ∧ exchange.response.offset = exchange.response.totalLength

/-- The frame is the last chunk of the upload: the chunks agree on what they
are parts of, and together they are the whole text. -/
structure Completes (id : ContextId) (past : List Exchange) (exchange : Exchange)
    (upload : List Exchange) : Prop where
  isUpload : IsUpload id past exchange upload
  same : ∀ other ∈ upload, other.request.requestId = exchange.request.requestId ∧
    other.request.slot = exchange.request.slot ∧
    other.request.totalLength = exchange.request.totalLength
  whole : (uploadText upload).length = exchange.request.totalLength

/-- Exactly one call of the slot API, with the slot and the total length of the
frame, is made in the step; `err` is what it returns. -/
structure CallsSlotSet (cfg : Config) (exchange : Exchange) (text : List UInt8) (err : Int)
    (w w' : World) : Prop where
  set : w.slots.slotSet cfg exchange.request.slot.toNat text exchange.request.totalLength
    exchange.env.saveErr w.settings = (err, w'.slots, w'.settings)
  called : w'.calls = w.calls ++ [.slotSet exchange.request.slot.toNat text err]

/-- What a SET frame does to the slots: it completes an upload and makes the
call, or it leaves them and the settings alone. -/
theorem set_outcome (fresh : ∀ id, (start.contexts id).setActive = false)
    (run : Run (FrameStep cfg hmac) start past w) (step : FrameStep cfg hmac w exchange w')
    (isSet : exchange.opcode = some .set) :
    (∃ upload err, Completes exchange.id past exchange upload ∧
      CallsSlotSet cfg exchange (uploadText upload) err w w' ∧
      AnswersCommit exchange.response exchange.request.totalLength err ∧
      (w'.contexts exchange.id).upload .set = (Context.zero cfg).upload .set) ∨
    (StoresKept w w' ∧ ¬ AnsweredFinal exchange ∧ (exchange.accepted = false →
      (w'.contexts exchange.id).upload .set = (Context.zero cfg).upload .set)) := by
  have outcome := processFrame_set cfg hmac exchange.env exchange.id isSet w
  have result := step.result
  rw [result] at outcome
  cases outcome with
  | refused status dropped kept =>
    refine Or.inr ⟨kept, fun final => status ?_, fun _ => dropped⟩
    simpa [Exchange.accepted] using final.1
  | staged c status sized accepted holding kept partly =>
    refine Or.inr ⟨kept, fun final => partly final.2, fun refused => ?_⟩
    simp only [Exchange.accepted, beq_eq_false_iff_ne] at refused
    exact absurd status refused
  | committed c err sized accepted complete set called dropped answered =>
    obtain ⟨upload, isUpload, holds, _, _⟩ := accepted_holds
      (run_tracks fresh run exchange.id) sized sync_upload accepted
    have self : exchange ∈ upload := by
      rcases isUpload with ⟨_, rfl⟩ | ⟨_, _, _, _, _, _, _, rfl⟩ <;> simp
    have slot : c.setSlot = exchange.request.slot.toNat := (holds.slot _ self).symm
    have total : c.setTotalLength = exchange.request.totalLength := (holds.total _ self).symm
    have whole : c.setStaging.take c.setTotalLength = uploadText upload := by
      rw [← complete, holds.bytes]
    refine Or.inl ⟨upload, err, ⟨isUpload, fun other member => ⟨?_, ?_, ?_⟩, ?_⟩, ⟨?_, ?_⟩, ?_,
      dropped⟩
    · exact (holds.requestId other member).trans (holds.requestId _ self).symm
    · exact UInt8.toNat_inj.mp ((holds.slot other member).trans slot)
    · exact (holds.total other member).trans total
    · rw [← holds.received, complete, total]
    · rw [← slot, ← total, ← whole, ← SlotStore.slotSet_take]
      exact set
    · rw [← slot, ← whole]
      exact called
    · rw [← total]
      exact answered

/-- The answer OK is given to a completed upload only as the answer to its
final chunk, and the call has then returned 0. -/
theorem answersCommit_final {total : Nat} {err : Int}
    (answers : AnswersCommit exchange.response total err) (accepted : exchange.accepted = true) :
    err = 0 ∧ AnsweredFinal exchange := by
  have ok : exchange.response.status = Status.ok.code := by
    simpa [Exchange.accepted] using accepted
  rcases answers with ⟨none, ⟨_, offset, whole⟩ | lapsed⟩ | ⟨_, invalid⟩ | ⟨_, _, storage⟩
  · exact ⟨none, accepted, offset.trans whole.symm⟩
  · exact absurd (ok.symm.trans lapsed) (by decide)
  · exact absurd (ok.symm.trans invalid) (by decide)
  · exact absurd (ok.symm.trans storage) (by decide)

/-- A SET frame after any history. One that is answered as a final chunk
completes an upload and makes exactly one call of the slot API, which succeeds.
One that is accepted otherwise leaves every slot and the settings alone. A
rejected one leaves no staging, and leaves the slots and the settings alone as
well, unless it completes an upload and makes the one call; a call that failed
with an error other than -EINVAL is answered STORAGE_ERROR. -/
theorem set_all_or_nothing (fresh : ∀ id, (start.contexts id).setActive = false)
    (run : Run (FrameStep cfg hmac) start past w) (step : FrameStep cfg hmac w exchange w')
    (isSet : exchange.opcode = some .set) :
    (AnsweredFinal exchange → ∃ upload, Completes exchange.id past exchange upload ∧
      CallsSlotSet cfg exchange (uploadText upload) 0 w w') ∧
    (exchange.accepted = true → ¬ AnsweredFinal exchange → StoresKept w w') ∧
    (exchange.accepted = false →
      (w'.contexts exchange.id).upload .set = (Context.zero cfg).upload .set ∧
      (StoresKept w w' ∨ ∃ upload err, Completes exchange.id past exchange upload ∧
        CallsSlotSet cfg exchange (uploadText upload) err w w' ∧
        (err ≠ 0 → err ≠ -einval → exchange.response.status = Status.storageError.code))) := by
  rcases set_outcome fresh run step isSet with
    ⟨upload, err, completes, calls, answers, dropped⟩ | ⟨kept, open', dropped⟩
  · refine ⟨fun final => ?_, fun accepted open' => ?_, fun _ => ⟨dropped, Or.inr ?_⟩⟩
    · obtain ⟨rfl, _⟩ := answersCommit_final answers final.1
      exact ⟨upload, completes, calls⟩
    · exact absurd (answersCommit_final answers accepted).2 open'
    · refine ⟨upload, err, completes, calls, fun failed valid => ?_⟩
      rcases answers with ⟨none, _⟩ | ⟨invalid, _⟩ | ⟨_, _, storage⟩
      · exact absurd none failed
      · exact absurd invalid valid
      · exact storage
  · exact ⟨fun final => absurd final open', fun _ _ => kept,
      fun rejected => ⟨dropped rejected, Or.inl kept⟩⟩

def sampleFirst : Exchange :=
  exchangeOf .default AuthCore.sampleHmac 0 (.still 0) (.build .set 7 3 0 3 [72, 105])
    (.boot .default .empty)

def sampleMiddle : World :=
  (processFrame .default AuthCore.sampleHmac (.still 0) 0 (.build .set 7 3 0 3 [72, 105])
    (.boot .default .empty)).2

def sampleSecond : Exchange :=
  exchangeOf .default AuthCore.sampleHmac 0 (.still 9) (.build .set 7 3 2 3 [33]) sampleMiddle

def sampleFinal : World :=
  (processFrame .default AuthCore.sampleHmac (.still 9) 0 (.build .set 7 3 2 3 [33])
    sampleMiddle).2

/-- The second of two chunks is answered as the final one. -/
theorem set_all_or_nothing_sample :
    ∃ upload, Completes 0 [sampleFirst] sampleSecond upload ∧
      sampleFinal.calls = [.slotSet 3 (uploadText upload) 0] := by
  have run : Run (FrameStep .default AuthCore.sampleHmac) (.boot .default .empty) [sampleFirst]
      sampleMiddle := Run.single (exchangeOf_step ..)
  have step : FrameStep .default AuthCore.sampleHmac sampleMiddle sampleSecond sampleFinal :=
    exchangeOf_step ..
  obtain ⟨upload, completes, calls⟩ :=
    (set_all_or_nothing (fun _ => rfl) run step (by decide)).1 ⟨by decide, by decide⟩
  exact ⟨upload, completes, calls.called⟩

/-! ## A save that fails -/

/-- Storage is full. -/
def fullEnv : Env := { Env.still 0 with saveErr := -28 }

/-- A whole text in one frame for a keyboard whose settings are full. -/
def unsavedRequest : Frame := .build .set 7 3 0 2 [72, 105]

/-- The store call fails, and the answer says STORAGE_ERROR. -/
def unsaved : Exchange :=
  exchangeOf .default AuthCore.sampleHmac 0 fullEnv unsavedRequest (.boot .default .empty)

def unsavedWorld : World :=
  (processFrame .default AuthCore.sampleHmac fullEnv 0 unsavedRequest (.boot .default .empty)).2

/-- A SET frame that is rejected with STORAGE_ERROR has changed its slot: the
text stays in RAM. -/
theorem rejected_set_changes_slot :
    FrameStep .default AuthCore.sampleHmac (.boot .default .empty) unsaved unsavedWorld ∧
      unsaved.opcode = some .set ∧ unsaved.accepted = false ∧ ¬ AnsweredFinal unsaved ∧
      unsaved.response.status = Status.storageError.code ∧
      SlotStore.textOf unsavedWorld.slots 3 = [72, 105] ∧
      SlotStore.textOf (World.boot .default .empty).slots 3 = [] ∧
      ¬ StoresKept (.boot .default .empty) unsavedWorld := by
  have rejected : unsaved.accepted = false := by decide
  have before : SlotStore.textOf (World.boot .default .empty).slots 3 = [] := by decide
  have after : SlotStore.textOf unsavedWorld.slots 3 = [72, 105] := by decide
  refine ⟨exchangeOf_step .., by decide, rejected, fun final => ?_, by decide, after, before,
    fun kept => ?_⟩
  · cases rejected.symm.trans final.1
  · rw [kept.slots, before] at after
    cases after

end RuntimeMacro.Guarantees.SetCommit
