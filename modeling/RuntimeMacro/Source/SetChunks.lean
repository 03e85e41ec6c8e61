import RuntimeMacro.Source.ManagedFrames
import RuntimeMacro.Source.PasswordFrames

/-!
# The chunks of one text

runtime_macro_protocol.c:846-967. A SET that carries the chunk of a text at an
offset, against a context that stages the front of that text. While the device
is open or the session lives, the next chunk is answered OK, and the last one
replaces the slot.
-/
namespace RuntimeMacro.Source.Protocol
open AuthCore (Hmac Looked)
open Foundations

variable {cfg : Config} {hmac : Hmac} {env : Env} {id : ContextId} {request response : Frame}
  {w w' : World} {c c' : Context} {opcode : Opcode} {slot offset : Nat}
  {object text : List UInt8} {state : AuthCore.AuthState}

/-! ## Chunks -/

/-- The request carries the chunk of an object at an offset. -/
structure ChunkOf (opcode : Opcode) (slot : Nat) (object : List UInt8) (offset : Nat)
    (request : Frame) : Prop where
  passed : baseCheck request = .ok opcode
  slot : request.slot.toNat = slot
  total : request.totalLength = object.length
  place : request.offset = offset
  inside : offset ≤ object.length
  length : request.payloadLength = min payloadSize (object.length - offset)
  carried : request.payload request.payloadLength = (object.drop offset).take payloadSize

theorem chunkOf_build (opcode : Opcode) (requestId : UInt8) (small : slot ≤ 0xFF)
    (fits : object.length < 65536) (inside : offset ≤ object.length) :
    ChunkOf opcode slot object offset (.build opcode requestId (UInt8.ofNat slot) offset
      object.length ((object.drop offset).take payloadSize)) := by
  have sized : ((object.drop offset).take payloadSize).length ≤ payloadSize :=
    List.length_take_le _ _
  have length := Frame.payloadLength_build opcode requestId (UInt8.ofNat slot) offset
    object.length _ sized
  constructor
  · exact baseCheck_build _ _ _ _ _ _ sized
  · rw [Frame.slot_build, UInt8.toNat_ofNat']
    omega
  · exact Frame.totalLength_build _ _ _ _ _ _ fits
  · exact Frame.offset_build _ _ _ _ _ _ (by omega)
  · exact inside
  · rw [length, List.length_take, List.length_drop]
  · rw [length]
    exact Frame.payload_build _ _ _ _ _ _ sized

namespace ChunkOf

theorem sized (chunk : ChunkOf opcode slot object offset request) :
    request.payloadLength ≤ payloadSize :=
  baseCheck_payload chunk.passed

theorem end_le (chunk : ChunkOf opcode slot object offset request) :
    offset + request.payloadLength ≤ object.length := by
  have inside := chunk.inside
  have length := chunk.length
  omega

/-- The front of the object, one chunk longer. -/
theorem take_append (chunk : ChunkOf opcode slot object offset request) :
    object.take offset ++ request.payload request.payloadLength =
      object.take (offset + request.payloadLength) := by
  rw [chunk.carried, List.take_add, chunk.length]
  apply congrArg (object.take offset ++ ·)
  rw [← List.length_drop, ← List.take_take, List.take_length]

theorem payload_length (chunk : ChunkOf opcode slot object offset request) :
    (request.payload request.payloadLength).length = request.payloadLength :=
  Frame.payload_length _ chunk.sized

/-- The chunk is empty only behind the end of the object. -/
theorem nonempty (chunk : ChunkOf opcode slot object offset request)
    (before : offset < object.length) : request.payloadLength ≠ 0 := by
  rw [chunk.length]
  unfold payloadSize
  omega

end ChunkOf

/-! ## The staging of a text -/

/-- The context stages the front of a text for a slot. -/
structure StagesText (slot : Nat) (text : List UInt8) (c : Context) : Prop where
  slot : c.setSlot = slot
  total : c.setTotalLength = text.length
  fits : c.setReceivedLength ≤ text.length
  bytes : c.setStaging.take c.setReceivedLength = text.take c.setReceivedLength

theorem StagesText.congr (stages : StagesText slot text c)
    (same : c'.upload .set = c.upload .set) : StagesText slot text c' := by
  simp only [Context.upload, Upload.mk.injEq] at same
  obtain ⟨_, _, slot, total, received, staging⟩ := same
  constructor
  · rw [slot, stages.slot]
  · rw [total, stages.total]
  · rw [received]
    exact stages.fits
  · rw [received, staging]
    exact stages.bytes

/-- An accepted chunk leaves the front of its text staged. -/
theorem SetAccepted.stages (accepted : SetAccepted cfg request c c')
    (chunk : ChunkOf .set slot text offset request)
    (before : offset = 0 ∨ (c.setActive = true → StagesText slot text c)) :
    StagesText slot text c' ∧ c'.setReceivedLength = offset + request.payloadLength := by
  have ends := chunk.end_le
  have front := chunk.take_append
  have length := chunk.payload_length
  obtain ⟨_, ⟨first, rfl⟩ | ⟨continued, rfl⟩⟩ := accepted
  · have start : offset = 0 := chunk.place.symm.trans first
    subst start
    rw [Nat.zero_add] at ends front ⊢
    refine ⟨⟨chunk.slot, chunk.total, ends, ?_⟩, rfl⟩
    have taken := ByteBuffer.write_take_zero (c.clearSet cfg).setStaging
      (request.payload request.payloadLength)
    rw [length] at taken
    rw [List.take_zero, List.nil_append] at front
    exact taken.trans front
  · have later : offset ≠ 0 := by
      rw [← chunk.place]
      exact continued.later
    have stages := before.resolve_left later continued.active
    have received : c.setReceivedLength = offset := continued.received.symm.trans chunk.place
    have reached : (extendSet request c).setReceivedLength = offset + request.payloadLength := by
      simp only [extendSet, received]
    refine ⟨⟨stages.slot, stages.total, by rw [reached]; exact ends, ?_⟩, reached⟩
    have taken := ByteBuffer.write_take c.setStaging offset
      (request.payload request.payloadLength)
    have bytes := stages.bytes
    rw [received] at bytes
    rw [length, bytes, front] at taken
    rw [reached]
    simp only [extendSet, chunk.place]
    exact taken

/-! ## While the device is open or the session lives -/

/-- The device is open, or a session lives. -/
def Admits (core : AuthCore.State) : Prop :=
  core.state = .stateOpen ∨ (core.state = .stateProtected ∧ core.sessionActive = true)

theorem Ready.admits {core : AuthCore.State} (ready : Ready env core) : Admits core := by
  rcases ready with unguarded | ⟨guarded, active, _⟩
  · exact Or.inl unguarded
  · exact Or.inr ⟨guarded, active⟩

theorem Ready.managed (cfg : Config) (id : ContextId) (ready : Ready env w.auth)
    (handler : World → Frame × World) (response : Frame) :
    ∃ auth, Ready env auth ∧ auth.state = w.auth.state ∧
      processManagement cfg env id handler response (syncAuthState cfg env id w) =
        afterHandler cfg env id (handler ((syncAuthState cfg env id w).withAuth auth)) := by
  obtain ⟨auth, still, state, _, granted⟩ := ready.granted cfg id
  refine ⟨auth, still, state, ?_⟩
  unfold processManagement afterHandler
  simp only [granted]
  rw [if_neg (by simp)]

/-- The refresh changes the deadline of the session only. -/
theorem Ready.after (cfg : Config) (id : ContextId) (ready : Ready env w.auth)
    (response : Frame) :
    ∃ auth, Admits auth ∧ auth.state = w.auth.state ∧
      afterHandler cfg env id (response, w) = (response, w.withAuth auth) := by
  unfold afterHandler
  dsimp only
  split
  · rcases refreshProtectedSession_cases cfg env id response w with
      ⟨unguarded, auth, looked, result⟩ | ⟨guarded, inTime, result⟩ | ⟨guarded, late, _⟩
    · refine ⟨auth, Or.inl ?_, looked.state, result⟩
      rcases ready with isOpen | ⟨guarded, _⟩
      · exact looked.state.trans isOpen
      · exact absurd guarded unguarded
    · refine ⟨_, ?_, ?_, result⟩
      · exact Or.inr ⟨guarded, inTime.1⟩
      · rfl
    · rcases ready with unguarded | ⟨_, active, alive⟩
      · exact absurd (unguarded.symm.trans guarded) (by decide)
      · exact absurd ⟨active, alive _, alive _⟩ late
  · exact ⟨w.auth, ready.admits, rfl, rfl⟩

/-- The context has received the text up to an offset, and its record is up to
date. -/
structure Receives (requestId : UInt8) (slot : Nat) (text : List UInt8) (offset : Nat)
    (state : AuthCore.AuthState) (c : Context) : Prop where
  stages : StagesText slot text c
  active : c.setActive = true
  requestId : c.setRequestId = requestId
  received : c.setReceivedLength = offset
  record : c.record = (true, state, decide (state = .stateProtected))

theorem Receives.congr {requestId : UInt8} (receives : Receives requestId slot text offset state c)
    (same : c'.upload .set = c.upload .set) (record : c'.record = c.record) :
    Receives requestId slot text offset state c' := by
  have stages := receives.stages.congr same
  simp only [Context.upload, Upload.mk.injEq] at same
  obtain ⟨active, requestId, _, _, received, _⟩ := same
  constructor
  · exact stages
  · exact active.trans receives.active
  · exact requestId.trans receives.requestId
  · exact received.trans receives.received
  · exact record.trans receives.record

/-- The next chunk is accepted, and received behind the ones before it. -/
theorem Receives.accepted (cfg : Config) (id : ContextId) (ready : Ready env w.auth)
    (chunk : ChunkOf .set slot text offset request)
    (before : offset = 0 ∨
      Receives request.requestId slot text offset w.auth.state (w.contexts id))
    (valid : SlotStore.slotIsValid cfg slot = true) (fits : text.length ≤ cfg.maxTextLen)
    (alphabet : SlotStore.textIsValid text = true)
    (remaining : text.length ≠ 0 → offset < text.length) :
    ∃ c, SetAccepted cfg request ((syncAuthState cfg env id w).contexts id) c ∧
      Receives request.requestId slot text (offset + request.payloadLength) w.auth.state c := by
  have record : ((syncAuthState cfg env id w).contexts id).record =
      (true, w.auth.state, decide (w.auth.state = .stateProtected)) := by
    rw [syncAuthState_record, (ready.observed cfg id).1]
  have chunkValid : SetChunkValid cfg request := by
    have ends := chunk.end_le
    have total := chunk.total
    have place := chunk.place
    constructor
    · rw [chunk.slot]
      exact valid
    · omega
    · omega
    · omega
    · intro positive
      exact chunk.nonempty (remaining (total ▸ positive))
    · unfold Frame.setPayloadIsValid SlotStore.textIsValid at *
      rw [chunk.carried, List.all_eq_true]
      rw [List.all_eq_true] at alphabet
      exact fun byte member =>
        alphabet byte (List.mem_of_mem_drop (List.mem_of_mem_take member))
  by_cases first : offset = 0
  · have accepted : SetAccepted cfg request ((syncAuthState cfg env id w).contexts id)
        (startSet cfg request ((syncAuthState cfg env id w).contexts id)) :=
      ⟨chunkValid, Or.inl ⟨chunk.place.trans first, rfl⟩⟩
    obtain ⟨stages, received⟩ := accepted.stages chunk (Or.inl first)
    exact ⟨_, accepted, stages, rfl, rfl, received, record⟩
  · have receives := before.resolve_left first
    -- The record is the one the last chunk left, so the observation drops nothing.
    have fresh : ¬ Stale env w.auth (w.contexts id) := by
      rintro ⟨_, differs⟩
      have same := receives.record
      simp only [Context.record, Prod.mk.injEq] at same
      rw [(ready.observed cfg id).1, same.2.1, same.2.2] at differs
      simp at differs
    have kept : ((syncAuthState cfg env id w).contexts id).upload .set =
        (w.contexts id).upload .set := by
      rcases syncAuthState_uploads cfg env id w .set with ⟨stale, _⟩ | ⟨_, same⟩
      · exact absurd stale fresh
      · exact same
    have synced := receives.congr kept (record.trans receives.record.symm)
    have continues : SetContinues request ((syncAuthState cfg env id w).contexts id) := by
      constructor
      · rw [chunk.place]
        exact first
      · exact synced.active
      · exact synced.requestId
      · rw [synced.stages.slot, chunk.slot]
      · rw [synced.stages.total, chunk.total]
      · rw [synced.received, chunk.place]
    have accepted : SetAccepted cfg request ((syncAuthState cfg env id w).contexts id)
        (extendSet request ((syncAuthState cfg env id w).contexts id)) :=
      ⟨chunkValid, Or.inr ⟨continues, rfl⟩⟩
    obtain ⟨stages, received⟩ := accepted.stages chunk (Or.inr fun _ => synced.stages)
    exact ⟨_, accepted, stages, synced.active, synced.requestId, received, record⟩

/-- What a chunk of a text does while the device is open or the session lives,
with storage succeeding: the last one replaces the slot, any other is
received. -/
theorem setChunk_ready (cfg : Config) (hmac : Hmac) (id : ContextId) (ready : Ready env w.auth)
    (saved : env.saveErr = 0) (chunk : ChunkOf .set slot text offset request)
    (before : offset = 0 ∨
      Receives request.requestId slot text offset w.auth.state (w.contexts id))
    (valid : SlotStore.slotIsValid cfg slot = true) (fits : text.length ≤ cfg.maxTextLen)
    (alphabet : SlotStore.textIsValid text = true)
    (remaining : text.length ≠ 0 → offset < text.length)
    (result : processFrame cfg hmac env id request w = (response, w')) :
    response.status = Status.ok.code ∧ Admits w'.auth ∧
      ((offset + request.payloadLength ≠ text.length ∧ w'.slots = w.slots ∧
          Receives request.requestId slot text (offset + request.payloadLength) w'.auth.state
            (w'.contexts id)) ∨
        (offset + request.payloadLength = text.length ∧
          w'.slots = w.slots.slotReplace slot text)) := by
  obtain ⟨c, accepted, receives⟩ :=
    Receives.accepted cfg id ready chunk before valid fits alphabet remaining
  obtain ⟨auth, still, state, managed⟩ := ready.managed cfg id
    (processSet cfg env id request (Frame.initResponse (some request)))
    (Frame.initResponse (some request))
  simp only [processFrame, chunk.passed, dispatch, managed] at result
  have handled : processSet cfg env id request (Frame.initResponse (some request))
      ((syncAuthState cfg env id w).withAuth auth) =
      finishSet cfg env id (Frame.initResponse (some request))
        (((syncAuthState cfg env id w).withAuth auth).modify id fun _ => c) :=
    processSet_finished accepted
  rw [handled] at result
  have total := receives.stages.total
  have received := receives.received
  rcases finishSet_cases cfg env id (Frame.initResponse (some request))
    ((syncAuthState cfg env id w).withAuth auth) c with ⟨partly, done⟩ | ⟨complete, done⟩
  · rw [total, received] at partly
    rw [done] at result
    obtain ⟨core, admits, sameState, after⟩ := Ready.after cfg id
      (w := ((syncAuthState cfg env id w).withAuth auth).modify id fun _ => c) still
      ((Frame.initResponse (some request)).setSuccess c.setReceivedLength c.setTotalLength)
    rw [after] at result
    cases result
    refine ⟨Frame.status_setSuccess .., admits, Or.inl ⟨partly, ?_, ?_⟩⟩
    · simp
    · have mode : core.state = w.auth.state := sameState.trans state
      simp only [World.withAuth_contexts, World.modify_contexts_self, World.withAuth_auth, mode]
      exact receives
  · rw [total, received] at complete
    have whole : c.setStaging.take c.setTotalLength = text := by
      have bytes := receives.stages.bytes
      rw [received, complete, List.take_length] at bytes
      rw [total]
      exact bytes
    have slotValid : SlotStore.slotIsValid cfg c.setSlot = true := by
      rw [receives.stages.slot]
      exact valid
    have small : c.setTotalLength ≤ cfg.maxTextLen := by
      rw [total]
      exact fits
    have spelled : SlotStore.textIsValid (c.setStaging.take c.setTotalLength) = true := by
      rw [whole]
      exact alphabet
    have set := SlotStore.slotSet_of_valid env.saveErr w.slots w.settings slotValid small spelled
    obtain ⟨err, slots, settings, called, committed⟩ := commitSet_eq cfg env id
      (Frame.initResponse (some request))
      (((syncAuthState cfg env id w).withAuth auth).modify id fun _ => c)
    simp only [World.modify_contexts_self, World.modify_slots, World.modify_settings,
      World.withAuth_slots, World.withAuth_settings, syncAuthState_slots,
      syncAuthState_settings] at called committed
    rw [set, whole, receives.stages.slot] at called
    obtain ⟨rfl, rfl, rfl⟩ : env.saveErr = err ∧ w.slots.slotReplace slot text = slots ∧ _ := by
      simpa only [Prod.mk.injEq] using called
    rw [commitSetAnswer, if_pos saved] at committed
    rw [done] at result
    rcases stored : commitSet cfg env id (Frame.initResponse (some request))
      (((syncAuthState cfg env id w).withAuth auth).modify id fun _ => c) with ⟨answer, w₁⟩
    rw [stored] at committed result
    obtain ⟨sameAnswer, sameWorld⟩ := Prod.mk.inj committed
    have core : w₁.auth = auth := by
      rw [sameWorld]
      rfl
    obtain ⟨_, admits, _, after⟩ := Ready.after cfg id (w := w₁) (core ▸ still) answer
    rw [after] at result
    cases result
    refine ⟨?_, admits, Or.inr ⟨complete, ?_⟩⟩
    · rw [sameAnswer]
      exact Frame.status_setSuccess ..
    · rw [World.withAuth_slots, sameWorld]
      rfl

end RuntimeMacro.Source.Protocol
