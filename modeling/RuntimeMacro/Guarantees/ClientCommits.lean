import RuntimeMacro.Guarantees.ChunkTransactions
import RuntimeMacro.Guarantees.RoundTrip
import RuntimeMacro.Source.LossyCalls

/-!
# What the client's uploads commit on a lossy link

tools/runtime_macro_cli.py:766-863,1179-1226. `set_slot` and `upload_dynamic`
against the firmware, with any loss and delay of requests and responses. Chunks
of earlier attempts may arrive among those of later ones; whatever they
complete is the text of the call, and a call that returns has seen its last
chunk commit it.
-/
namespace RuntimeMacro.Guarantees.ClientCommits
open Source Source.Protocol Source.RuntimeMacroClient Foundations.Links Foundations.Runs
open Foundations.Dialogues Foundations.Dialogues.Dialogue Foundations.Dialogues.Procedure
open ChunkTransactions
open DynamicCommit (Replaced)
open AuthCore (Hmac)
open Relation

variable {cfg : Config} {hmac : Hmac} {id : ContextId} {opcode : Opcode} {name : String}
  {slot offset : Nat} {data : List UInt8} {next requestId : UInt8}
  {t : Delayed Station Frame × Talk} {Sends Opens : Frame → Prop} {Sound Mine : Station → Prop}

/-- The delayed link with nothing asked of the environments or of the
requests. -/
abbrev link (cfg : Config) (hmac : Hmac) (id : ContextId) :
    Partner (Delayed Station Frame × Talk) Frame Answer :=
  delayedLink cfg hmac id (fun _ _ => True) fun _ _ => True

/-- The last request of the talk is the final chunk, it was served last, and it
committed. -/
def LastCommits (id : ContextId) (opcode : Opcode) (slot : Nat) (data : List UInt8)
    (commits : Moment World Exchange → Prop) (served : List (Moment World Exchange))
    (talk : Talk) : Prop :=
  ∃ earlier past moment offset, served = earlier ++ [moment] ∧
    talk = past ++ [(moment.event.request, .ok moment.event.response)] ∧
    moment.event.id = id ∧ ChunkOf opcode slot data offset moment.event.request ∧
    offset + moment.event.request.payloadLength = data.length ∧
    moment.event.response.status = Status.ok.code ∧ commits moment

/-! ## Chunks -/

/-- The body of the loops of `_set_once` and `_upload_dynamic_once`. -/
def chunkCall (opcode : Opcode) (name : String) (slot : Nat) (data : List UInt8)
    (requestId : UInt8) (offset : Nat) : Client Unit := do
  let chunk := slice data offset (offset + payloadSize)
  let request ← fromExcept (buildFrame opcode requestId slot chunk offset data.length)
  let response ← call request
  validateChunkAck response name (offset + chunk.length) data.length

/-- A chunk that was acknowledged under the id of its transaction. -/
structure ChunkAcknowledged (cfg : Config) (hmac : Hmac) (id : ContextId) (Opens : Frame → Prop)
    (Sound Mine : Station → Prop) (opcode : Opcode) (slot : Nat) (data : List UInt8)
    (requestId : UInt8) (offset : Nat) (t t' : Delayed Station Frame × Talk)
    (request response : Frame) (before after : Station) : Prop where
  chunk : ChunkOf opcode slot data offset request
  acknowledged : Acknowledged cfg hmac id Opens Sound Mine t t' request response before after
  identified : request.requestId = requestId

/-- What serving an acknowledged chunk does is what the call has done, because
nothing was left waiting behind it. -/
theorem ChunkAcknowledged.done {commits : Moment World Exchange → Prop}
    {t' : Delayed Station Frame × Talk} {request response : Frame} {before after : Station}
    (acknowledged : ChunkAcknowledged cfg hmac id Opens Sound Mine opcode slot data requestId
      offset t t' request response before after)
    (transaction : Transaction (device cfg hmac id) Sends Opens Sound Mine)
    (step : ∀ env w', FrameStep cfg hmac before.world ⟨id, env, request, response⟩ w' →
      Mine (before.serve ⟨id, env, request, response⟩ w') ∧
        (response.status = Status.ok.code → offset + request.payloadLength = data.length →
          commits ⟨before.world, ⟨id, env, request, response⟩, w'⟩)) :
    Mine t'.1.state ∧ (offset + request.payloadLength = data.length →
      LastCommits id opcode slot data commits t'.1.state.served t'.2) := by
  obtain ⟨chunk, ⟨status, talk, served, _⟩, _⟩ := acknowledged
  obtain ⟨env, w', _, step', left⟩ := served.serves
  obtain ⟨mine, committed⟩ := step env w' step'
  constructor
  · rw [← left] at mine
    exact (transaction.rests served.rested).2 mine
  · intro whole
    refine ⟨before.served, t.2, ⟨before.world, ⟨id, env, request, response⟩, w'⟩, offset, ?_,
      talk, rfl, chunk, whole, status, committed status whole⟩
    rw [rests_served served.rested, left]
    rfl

/-- One chunk of a transaction that is guarded: it is acknowledged in its turn,
or it fails and the guard stays. -/
theorem meets_chunkCall
    (transaction : Transaction (device cfg hmac id) Sends Opens Sound Mine)
    (inside : offset ≤ data.length)
    (sends : ∀ request, ChunkOf opcode slot data offset request → Sends request)
    (guarded : Guarded Sends Opens Sound Mine t.1)
    (covered : ∀ request, ChunkOf opcode slot data offset request →
      Mine t.1.state ∨ Opens request)
    (keyed : Keyed requestId t.1) :
    (chunkCall opcode name slot data requestId offset).Meets (link cfg hmac id)
      (fun _ next' t' => next' = next ∧ Guarded Sends Opens Sound Mine t'.1 ∧
        ∃ request response before after, ChunkAcknowledged cfg hmac id Opens Sound Mine opcode
          slot data requestId offset t t' request response before after)
      (fun error next' t' => next' = next ∧ Guarded Sends Opens Sound Mine t'.1 ∧
        (restarts error = true → t'.1.key = requestId)) next t := by
  unfold chunkCall
  dsimp only
  rw [slice_chunk]
  rcases buildFrame_cases opcode requestId slot ((data.drop offset).take payloadSize) offset
    data.length with ⟨message, failed⟩ | ⟨small, _, _, fits, built⟩
  · rw [failed, meets_bind, meets_fromExcept_error]
    exact ⟨rfl, guarded, fun impossible => by cases impossible⟩
  rw [built, meets_bind, meets_fromExcept_ok]
  have chunk := chunkOf_build opcode requestId small (by omega) inside
  have identified : (Frame.build opcode requestId (UInt8.ofNat slot) offset data.length
      ((data.drop offset).take payloadSize)).requestId = requestId := Frame.requestId_build ..
  generalize Frame.build opcode requestId (UInt8.ofNat slot) offset data.length
    ((data.drop offset).take payloadSize) = request at chunk identified
  rw [← identified] at keyed
  rw [meets_bind]
  apply (meets_sent transaction guarded keyed trivial chunk.passed (sends request chunk)
    (covered request chunk)).mono
  · rintro response next' t' ⟨rfl, still, before, after, acknowledged⟩
    have key := acknowledged.key.trans identified
    apply meets_require_of
    · exact ⟨rfl, still, request, response, before, after, chunk, acknowledged, identified⟩
    · exact fun error => ⟨rfl, still, fun _ => key⟩
  · rintro error next' t' ⟨rfl, still, key, _⟩
    exact ⟨rfl, still, fun _ => key.trans identified⟩

/-- The chunks of an object: when the last one was acknowledged the object is
`Done`. The offset of the loop is the invariant, and each chunk continues what
the one before it left. -/
theorem meets_chunkCalls {Done : Delayed Station Frame × Talk → Prop}
    (transaction : Transaction (device cfg hmac id) Sends Opens Sound Mine)
    (sends : ∀ offset request, ChunkOf opcode slot data offset request → Sends request)
    (positive : data.length ≠ 0)
    (done : ∀ {offset t t' request response before after},
      ChunkAcknowledged cfg hmac id Opens Sound Mine opcode slot data requestId offset t t'
        request response before after →
      Mine t'.1.state ∧ (offset + request.payloadLength = data.length → Done t'))
    (guarded : Guarded Sends Opens Sound Mine t.1) (keyed : Keyed requestId t.1)
    (covered : ∀ request, ChunkOf opcode slot data 0 request → Mine t.1.state ∨ Opens request) :
    ((chunkOffsets data.length).forM (chunkCall opcode name slot data requestId)).Meets
      (link cfg hmac id) (fun _ next' t' => next' = next ∧ Guarded Sends Opens Sound Mine t'.1 ∧
        Done t')
      (fun error next' t' => next' = next ∧ Guarded Sends Opens Sound Mine t'.1 ∧
        (restarts error = true → t'.1.key = requestId)) next t := by
  apply (meets_chunks data.length (fun sent next' t' => next' = next ∧
    Guarded Sends Opens Sound Mine t'.1 ∧ Keyed requestId t'.1 ∧
    (sent = 0 ∨ Mine t'.1.state) ∧
    (sent = 0 → ∀ request, ChunkOf opcode slot data 0 request →
      Mine t'.1.state ∨ Opens request) ∧
    (sent = data.length → Done t')) _ _).mono
    (fun _ _ _ ⟨same, guarded, _, _, _, done⟩ => ⟨same, guarded, done rfl⟩) fun _ _ _ raised =>
      raised
  · rintro sent next' t' before ⟨rfl, guarded, keyed, mine, first, _⟩
    apply (meets_chunkCall transaction (by omega) (sends sent) guarded _ keyed).mono _
      fun _ _ _ raised => raised
    · intro request chunk
      rcases mine with rfl | mine
      · exact first rfl request chunk
      · exact Or.inl mine
    · rintro _ next'' t'' ⟨same, still, request, response, before', after, acknowledged⟩
      obtain ⟨holds, complete⟩ := done acknowledged
      have length := acknowledged.chunk.length
      have key := acknowledged.acknowledged.key.trans acknowledged.identified
      refine ⟨same, still, Or.inr ⟨acknowledged.acknowledged.served.answered, key.symm⟩,
        Or.inr holds, fun _ _ _ => Or.inl holds, fun ends => complete ?_⟩
      omega
  · exact ⟨rfl, guarded, keyed, Or.inl rfl, fun _ => covered, fun none => absurd none.symm positive⟩

/-! ## Static texts -/

/-- A served frame commits nothing but the text to the slot. -/
def StaticOnly (cfg : Config) (slot : Nat) (data : List UInt8) (moment : Moment World Exchange) :
    Prop :=
  CommitsOnly cfg (fun place text => place = slot ∧ text = data) (fun _ _ _ => False) moment

/-- The moment at which exactly this text goes into the slot: one store call,
answered 0, and RAM changed by it. -/
def Stored (slot : Nat) (data : List UInt8) (moment : Moment World Exchange) : Prop :=
  moment.after.calls = moment.before.calls ++ [.slotSet slot data 0] ∧
    moment.after.slots = moment.before.slots.slotReplace slot data

/-- The frames of a SET call as a transaction of the device. Each of them
leaves the staging of the call, or none. -/
theorem setTransaction (cfg : Config) (hmac : Hmac) (id : ContextId) (slot : Nat)
    (data : List UInt8) :
    Transaction (device cfg hmac id)
      (fun request => ∃ offset, ChunkOf .set slot data offset request)
      (fun request => request.offset = 0) (Kept (StaticOnly cfg slot data))
      (fun s => Owned id slot data s.world) := by
  constructor
  · intro s s' rested
    refine ⟨fun kept => kept.rests rested, fun mine active => ?_⟩
    have same := (rests_quietKept (.single rested)).set id
    have still : (s.world.contexts id).setActive = true :=
      (congrArg Upload.active same).symm.trans active
    exact (mine still).congr same
  · rintro s request response s' ⟨env, w', _, step, rfl⟩ ⟨offset, chunk⟩ kept before
    obtain ⟨mine, only, _⟩ := setChunk_step chunk before step
    exact ⟨kept.serve only, fun _ => mine⟩

theorem set_done {t' : Delayed Station Frame × Talk} {request response : Frame}
    {before after : Station}
    (acknowledged : ChunkAcknowledged cfg hmac id (fun request => request.offset = 0)
      (Kept (StaticOnly cfg slot data)) (fun s => Owned id slot data s.world) .set slot data
      requestId offset t t' request response before after) :
    Owned id slot data t'.1.state.world ∧ (offset + request.payloadLength = data.length →
      LastCommits id .set slot data (Stored slot data) t'.1.state.served t'.2) := by
  apply acknowledged.done (setTransaction cfg hmac id slot data)
  intro env w' step
  obtain ⟨owned, _, stored⟩ :=
    setChunk_step acknowledged.chunk acknowledged.acknowledged.served.covered step
  exact ⟨owned, stored⟩

/-- `set_slot` as a transaction: what the acknowledgement of the last chunk
shows is `Done`. -/
theorem meets_setTransaction {Done : Delayed Station Frame × Talk → Prop}
    (transaction : Transaction (device cfg hmac id)
      (fun request => ∃ offset, ChunkOf .set slot data offset request)
      (fun request => request.offset = 0) Sound (fun s => Owned id slot data s.world))
    (done : ∀ {requestId offset t t' request response before after},
      ChunkAcknowledged cfg hmac id (fun request => request.offset = 0) Sound
        (fun s => Owned id slot data s.world) .set slot data requestId offset t t' request
        response before after →
      Owned id slot data t'.1.state.world ∧
        (offset + request.payloadLength = data.length → Done t'))
    (retries : Nat)
    (guarded : Guarded (fun request => ∃ offset, ChunkOf .set slot data offset request)
      (fun request => request.offset = 0) Sound (fun s => Owned id slot data s.world) t.1)
    (keyed : next = t.1.key + 1) :
    (setSlot retries slot data).Meets (link cfg hmac id)
      (fun _ next' t' => next' = t'.1.key + 1 ∧ Sound t'.1.state ∧ Done t')
      (fun _ _ t' => Sound t'.1.state) next t := by
  unfold setSlot
  rw [meets_bind]
  apply meets_fromExcept_of _ fun _ _ => guarded.sound
  intro _ _
  rw [meets_bind]
  apply meets_fromExcept_of _ fun _ _ => guarded.sound
  intro _ _
  apply meets_attempts fun next (t : Delayed Station Frame × Talk) =>
    Guarded (fun request => ∃ offset, ChunkOf .set slot data offset request)
      (fun request => request.offset = 0) Sound (fun s => Owned id slot data s.world) t.1 ∧
      next = t.1.key + 1
  · rintro next t ⟨guarded, keyed⟩
    rw [meets_bind, meets_requestId]
    unfold setOnce
    have fresh : Keyed next t.1 := Or.inl keyed
    by_cases empty : data.length = 0
    · have single : [0].forM (setChunk slot data next) =
          (chunkCall .set "SET" slot data next 0 >>= fun _ => pure ()) := rfl
      rw [if_pos empty, single, meets_bind]
      apply (meets_chunkCall transaction (Nat.zero_le _) (fun _ chunk => ⟨0, chunk⟩) guarded
        (fun _ chunk => Or.inr chunk.place) fresh).mono
      · rintro _ next' t' ⟨rfl, still, request, response, before, after, acknowledged⟩
        have length := acknowledged.chunk.length
        have key := acknowledged.acknowledged.key.trans acknowledged.identified
        exact ⟨by rw [key], still.sound, (done acknowledged).2 (by omega)⟩
      · rintro error next' t' ⟨rfl, still, key⟩
        exact ⟨still.sound, fun again => ⟨still, by rw [key again]⟩⟩
    · have ended : ∀ {offset t t' request response before after},
          ChunkAcknowledged cfg hmac id (fun request => request.offset = 0) Sound
            (fun s => Owned id slot data s.world) .set slot data next offset t t' request
            response before after →
          Owned id slot data t'.1.state.world ∧ (offset + request.payloadLength = data.length →
            t'.1.key = next ∧ Done t') := by
        intro offset t t' request response before after acknowledged
        have key := acknowledged.acknowledged.key.trans acknowledged.identified
        exact (done acknowledged).imp_right fun complete whole => ⟨key, complete whole⟩
      rw [if_neg empty]
      apply (meets_chunkCalls transaction (fun offset _ chunk => ⟨offset, chunk⟩) empty ended
        guarded fresh fun _ chunk => Or.inr chunk.place).mono
      · rintro _ next' t' ⟨rfl, still, key, complete⟩
        exact ⟨by rw [key], still.sound, complete⟩
      · rintro error next' t' ⟨rfl, still, key⟩
        exact ⟨still.sound, fun again => ⟨still, by rw [key again]⟩⟩
  · exact ⟨guarded, keyed⟩

theorem meets_setSlot (retries : Nat) (slot : Nat) (data : List UInt8)
    (guarded : Guarded (fun request => ∃ offset, ChunkOf .set slot data offset request)
      (fun request => request.offset = 0) (Kept (StaticOnly cfg slot data))
      (fun s => Owned id slot data s.world) t.1) (keyed : next = t.1.key + 1) :
    (setSlot retries slot data).Meets (link cfg hmac id)
      (fun _ _ t' => Kept (StaticOnly cfg slot data) t'.1.state ∧
        LastCommits id .set slot data (Stored slot data) t'.1.state.served t'.2)
      (fun _ _ t' => Kept (StaticOnly cfg slot data) t'.1.state) next t :=
  (meets_setTransaction (setTransaction cfg hmac id slot data)
    (fun acknowledged => set_done acknowledged) retries guarded keyed).mono
    (fun _ _ _ ⟨_, kept, committed⟩ => ⟨kept, committed⟩) fun _ _ _ left => left

/-! ## Dynamic texts -/

/-- The frames of `upload_dynamic`. -/
def UploadSends (text : DynamicText) (request : Frame) : Prop :=
  baseCheck request = .ok .capabilities ∨ text.BeginOf request ∨
    ∃ offset, ChunkOf .dynamicData text.slot text.data offset request

/-- Those that do not continue a staging. -/
def UploadOpens (request : Frame) : Prop := baseCheck request ≠ .ok .dynamicData

/-- The moment at which exactly this upload replaces what the dynamic slot
held. -/
def UploadStored (text : DynamicText) (moment : Moment World Exchange) : Prop :=
  Replaced (moment.before.dynamic.slots text.slot) (moment.after.dynamic.slots text.slot) ∧
    text.Stored (moment.event.env.clock .commit) (moment.after.dynamic.slots text.slot)

/-- The frames of an upload as a transaction of the device. -/
theorem uploadTransaction (cfg : Config) (hmac : Hmac) (id : ContextId) (text : DynamicText) :
    Transaction (device cfg hmac id) (UploadSends text) UploadOpens (Kept (text.Only cfg))
      (fun s => text.Mine s.world) := by
  constructor
  · intro s s' rested
    refine ⟨fun kept => kept.rests rested, fun mine => ?_⟩
    obtain ⟨event, w', quiet, step, rfl⟩ := rested
    have other : event.exchange? = none := by
      cases event with
      | frame => cases quiet
      | _ => rfl
    exact mine.of_quiet (quiet_of_event step other id).1
  · rintro s request response s' ⟨env, w', _, step, rfl⟩ sends kept before
    rcases sends with passed | opened | ⟨offset, chunk⟩
    · obtain ⟨mine, only⟩ := @DynamicText.other_step _ _ _ _ _ _ _ _ text _ passed rfl rfl step
      exact ⟨kept.serve only, mine⟩
    · obtain ⟨mine, only, _⟩ := DynamicText.begin_step opened step
      exact ⟨kept.serve only, mine⟩
    · have mine := before.resolve_right fun opens => opens chunk.passed
      obtain ⟨still, only, _⟩ := DynamicText.data_step chunk mine step
      exact ⟨kept.serve only, fun _ => still⟩

/-- An upload as the client asks for it. -/
def asked (slot : Nat) (data : List UInt8) (ttlSeconds : Option Nat) (keepAfterExecute : Bool) :
    DynamicText where
  slot := slot
  data := data
  ttlSeconds := ttlSeconds.getD Source.dynamicDefaultTtlSeconds
  consume := !keepAfterExecute

section Upload
variable {ttlSeconds : Option Nat} {keepAfterExecute : Bool}

theorem ttlPayload_options (ttlSeconds : Option Nat) (keepAfterExecute : Bool) :
    ttlPayload ttlSeconds keepAfterExecute =
      BeginOptions.payload ⟨ttlSeconds, if keepAfterExecute then some true else none⟩ := by
  unfold ttlPayload BeginOptions.payload
  congr 1
  · cases ttlSeconds with
    | none => rfl
    | some seconds => exact (AuthCore.putLe32_eq seconds).symm
  · cases keepAfterExecute with
    | false => rfl
    | true => rfl

/-- The BEGIN that the tool builds asks for this upload, with the defaults of
the firmware where the tool leaves an option out. -/
theorem asked_begin (requestId : UInt8) (small : slot ≤ 0xFF) (fits : data.length < 65536)
    (bound : ∀ seconds, ttlSeconds = some seconds → seconds ≤ Source.dynamicMaxTtlSeconds) :
    (asked slot data ttlSeconds keepAfterExecute).BeginOf
      (.build .dynamicBegin requestId (UInt8.ofNat slot) 0 data.length
        (ttlPayload ttlSeconds keepAfterExecute)) := by
  rw [ttlPayload_options]
  generalize chosen : (⟨ttlSeconds, if keepAfterExecute then some true else none⟩ :
    BeginOptions) = options
  have sized := options_sized options
  have length := Frame.payloadLength_build .dynamicBegin requestId (UInt8.ofNat slot) 0
    data.length options.payload sized
  have carried := Frame.payload_build .dynamicBegin requestId (UInt8.ofNat slot) 0
    data.length options.payload sized
  rw [← length] at carried
  constructor
  · exact baseCheck_build _ _ _ _ _ _ sized
  · rw [Frame.slot_build, UInt8.toNat_ofNat']
    exact Nat.mod_eq_of_lt (by omega)
  · exact Frame.totalLength_build _ _ _ _ _ _ fits
  · rw [beginTtlSeconds_of_options carried length (by rw [← chosen]; exact bound), ← chosen]
    rfl
  · rw [beginConsumes_of_options carried length, ← chosen]
    cases keepAfterExecute with
    | false => rfl
    | true => rfl

theorem upload_done {t' : Delayed Station Frame × Talk} {request response : Frame}
    {before after : Station} {text : DynamicText}
    (acknowledged : ChunkAcknowledged cfg hmac id UploadOpens (Kept (text.Only cfg))
      (fun s => text.Mine s.world) .dynamicData text.slot text.data requestId offset t t' request
      response before after) :
    text.Mine t'.1.state.world ∧ (offset + request.payloadLength = text.data.length →
      LastCommits id .dynamicData text.slot text.data (UploadStored text) t'.1.state.served
        t'.2) := by
  apply acknowledged.done (uploadTransaction cfg hmac id text)
  intro env w' step
  have mine := acknowledged.acknowledged.served.covered.resolve_right
    fun opens => opens acknowledged.chunk.passed
  obtain ⟨still, _, stored⟩ := DynamicText.data_step acknowledged.chunk mine step
  exact ⟨still, stored⟩

/-- CAPABILITIES among the requests of a transaction: it may be late, and it
changes nothing. -/
theorem meets_getCapabilities
    (transaction : Transaction (device cfg hmac id) Sends Opens Sound Mine)
    (sends : ∀ request, baseCheck request = .ok .capabilities → Sends request ∧ Opens request)
    (retries : Nat) (guarded : Guarded Sends Opens Sound Mine t.1) (keyed : next = t.1.key + 1) :
    (getCapabilities retries).Meets (link cfg hmac id)
      (fun capabilities next' t' => capabilities = decodeCapabilities (capabilityPayload cfg) ∧
        Guarded Sends Opens Sound Mine t'.1 ∧ next' = t'.1.key + 1)
      (fun _ _ t' => Sound t'.1.state) next t := by
  apply meets_attempts fun next (t : Delayed Station Frame × Talk) =>
    Guarded Sends Opens Sound Mine t.1 ∧ next = t.1.key + 1
  · rintro next t ⟨guarded, keyed⟩
    have built := buildFrame_ok .capabilities next (by decide : dynamicCapabilitySlot ≤ 0xFF)
      (by decide : ([] : List UInt8).length ≤ payloadSize) (by decide : 0 ≤ 0xFFFF)
      (by decide : 0 ≤ 0xFFFF)
    have passed := baseCheck_build .capabilities next (UInt8.ofNat dynamicCapabilitySlot) 0 0 []
      (by decide)
    have identified := Frame.requestId_build .capabilities next (UInt8.ofNat dynamicCapabilitySlot)
      0 0 []
    unfold dynamicCapabilitiesOnce
    simp only [meets_bind, meets_requestId, built, meets_fromExcept_ok, meets_tryCatch]
    generalize Frame.build .capabilities next (UInt8.ofNat dynamicCapabilitySlot) 0 0 [] = request
      at passed identified
    have fresh : Keyed request.requestId t.1 := Or.inl (identified.trans keyed)
    obtain ⟨sent, opens⟩ := sends request passed
    apply (meets_sent transaction guarded fresh trivial passed sent (Or.inr opens)).mono
    · rintro response next' t' ⟨rfl, still, before, after, acknowledged⟩
      have ready : next + 1 = t'.1.key + 1 := by rw [acknowledged.key, identified]
      obtain ⟨env, w', step, _⟩ := served_last acknowledged.served
      have payload : response.payload dynamicCapabilitiesSize = capabilityPayload cfg := by
        rcases processFrame_forms passed step.result with
          ⟨status, bad, rfl⟩ | ⟨data, place, total, _, _, _, ⟨bytes, _⟩, rfl⟩
        · have success := acknowledged.status
          rw [status_errorFrame, Status.code_inj] at success
          exact absurd success bad
        · rw [bytes]
          exact payload_okFrame request (capabilityPayload cfg) place total (le_of_eq rfl)
      apply meets_require_of _ fun _ => ⟨still.sound, fun _ => ⟨still, ready⟩⟩
      rw [payload]
      apply meets_require_of _ fun _ => ⟨still.sound, fun _ => ⟨still, ready⟩⟩
      exact ⟨rfl, still, ready⟩
    · rintro error next' t' ⟨rfl, still, key, _⟩
      have ready : next + 1 = t'.1.key + 1 := by rw [key, identified]
      exact ⟨still.sound, fun _ => ⟨still, ready⟩⟩
  · exact ⟨guarded, keyed⟩

/-- `upload_dynamic` as a transaction: what the acknowledgement of the last
chunk shows is `Done`. -/
theorem meets_uploadTransaction {Done : Delayed Station Frame × Talk → Prop} {text : DynamicText}
    (called : text = asked slot data ttlSeconds keepAfterExecute)
    (transaction : Transaction (device cfg hmac id) Sends UploadOpens Sound
      fun s => text.Mine s.world)
    (sends : ∀ request, UploadSends text request → Sends request)
    (done : ∀ {requestId offset t t' request response before after},
      ChunkAcknowledged cfg hmac id UploadOpens Sound (fun s => text.Mine s.world) .dynamicData
        text.slot text.data requestId offset t t' request response before after →
      text.Mine t'.1.state.world ∧ (offset + request.payloadLength = text.data.length → Done t'))
    (retries : Nat)
    (guarded : Guarded Sends UploadOpens Sound (fun s => text.Mine s.world) t.1)
    (keyed : next = t.1.key + 1) :
    (uploadDynamic retries slot data ttlSeconds keepAfterExecute).Meets (link cfg hmac id)
      (fun _ next' t' => next' = t'.1.key + 1 ∧ Sound t'.1.state ∧ Done t')
      (fun _ _ t' => Sound t'.1.state) next t := by
  have target : text.slot = slot ∧ text.data = data := by
    rw [called]
    exact ⟨rfl, rfl⟩
  unfold uploadDynamic
  rw [meets_bind]
  apply meets_fromExcept_of _ fun _ _ => guarded.sound
  intro place valid
  obtain ⟨rfl, small⟩ : place = slot ∧ slot ≤ 0xFF := by
    unfold validateDynamicSlot at valid
    split at valid
    next inside =>
      cases valid
      unfold dynamicObjectCountMax at inside
      exact ⟨rfl, by omega⟩
    · cases valid
  rw [meets_bind]
  apply meets_fromExcept_of _ fun _ _ => guarded.sound
  intro checked passed
  obtain ⟨rfl, nonempty, short, bound⟩ := validateDynamicInput_ok passed
  unfold RuntimeMacroClient.dynamicMaxLength at short
  rw [meets_bind]
  apply (meets_getCapabilities transaction _ retries guarded keyed).mono _
    fun _ _ _ failed => failed
  · exact fun request passed =>
      ⟨sends request (Or.inl passed), fun other => by cases passed.symm.trans other⟩
  rintro capabilities next' t' ⟨_, guarded, keyed⟩
  rw [meets_bind]
  apply meets_require_of _ fun _ => guarded.sound
  apply meets_attempts fun next (t : Delayed Station Frame × Talk) =>
    Guarded Sends UploadOpens Sound (fun s => text.Mine s.world) t.1 ∧ next = t.1.key + 1
  · rintro next t ⟨guarded, keyed⟩
    have opened := @asked_begin place checked ttlSeconds keepAfterExecute next small (by omega)
      fun seconds same => (bound seconds same).2
    have built : buildFrame .dynamicBegin next place (ttlPayload ttlSeconds keepAfterExecute) 0
        checked.length = .ok (.build .dynamicBegin next (UInt8.ofNat place) 0 checked.length
          (ttlPayload ttlSeconds keepAfterExecute)) := by
      exact buildFrame_ok .dynamicBegin next small (ttlPayload_sized ttlSeconds keepAfterExecute)
        (by omega) (by omega)
    have identified := Frame.requestId_build .dynamicBegin next (UInt8.ofNat place) 0
      checked.length (ttlPayload ttlSeconds keepAfterExecute)
    unfold uploadDynamicOnce
    simp only [meets_bind, meets_requestId, built, meets_fromExcept_ok]
    rw [← called] at opened
    generalize Frame.build .dynamicBegin next (UInt8.ofNat place) 0 checked.length
      (ttlPayload ttlSeconds keepAfterExecute) = request at opened identified
    have fresh : Keyed request.requestId t.1 := Or.inl (identified.trans keyed)
    have opens : UploadOpens request := fun other => by cases opened.passed.symm.trans other
    apply (meets_sent transaction guarded fresh trivial opened.passed
      (sends request (Or.inr (Or.inl opened))) (Or.inr opens)).mono
    · rintro response next' t' ⟨rfl, still, before, after, acknowledged⟩
      have key := acknowledged.key.trans identified
      have ready : next + 1 = t'.1.key + 1 := by rw [key]
      apply meets_require_of _ fun _ => ⟨still.sound, fun _ => ⟨still, ready⟩⟩
      have mine : text.Mine t'.1.state.world := by
        obtain ⟨env, w', _, step, left⟩ := acknowledged.served.serves
        have staged := (DynamicText.begin_step opened step).2.2 acknowledged.status
        have world : after.world = w' := by rw [left]; rfl
        rw [← world] at staged
        exact (transaction.rests acknowledged.served.rested).2 staged
      obtain ⟨rfl, rfl⟩ := target
      have ended : ∀ {offset t t' request response before after},
          ChunkAcknowledged cfg hmac id UploadOpens Sound (fun s => text.Mine s.world)
            .dynamicData text.slot text.data next offset t t' request response before after →
          text.Mine t'.1.state.world ∧ (offset + request.payloadLength = text.data.length →
            t'.1.key = next ∧ Done t') := by
        intro offset t t' request response before after acknowledged
        have key := acknowledged.acknowledged.key.trans acknowledged.identified
        exact (done acknowledged).imp_right fun complete whole => ⟨key, complete whole⟩
      apply (meets_chunkCalls transaction
        (fun offset request chunk => sends request (Or.inr (Or.inr ⟨offset, chunk⟩))) nonempty
        ended still (Or.inr ⟨acknowledged.served.answered, key.symm⟩) fun _ _ => Or.inl mine).mono
      · rintro _ next'' t'' ⟨rfl, still, key, complete⟩
        exact ⟨by rw [key], still.sound, complete⟩
      · rintro error next'' t'' ⟨rfl, still, key⟩
        exact ⟨still.sound, fun again => ⟨still, by rw [key again]⟩⟩
    · rintro error next' t' ⟨rfl, still, key, _⟩
      exact ⟨still.sound, fun _ => ⟨still, by rw [key, identified]⟩⟩
  · exact ⟨guarded, keyed⟩

/-- The rounds of `upload_dynamic`, each with a BEGIN of its own. What an
earlier round left waiting belongs to the same upload. -/
theorem meets_uploadDynamic (retries : Nat) (slot : Nat) (data : List UInt8)
    (ttlSeconds : Option Nat) (keepAfterExecute : Bool) {text : DynamicText}
    (called : text = asked slot data ttlSeconds keepAfterExecute)
    (guarded : Guarded (UploadSends text) UploadOpens (Kept (text.Only cfg))
      (fun s => text.Mine s.world) t.1) (keyed : next = t.1.key + 1) :
    (uploadDynamic retries slot data ttlSeconds keepAfterExecute).Meets (link cfg hmac id)
      (fun _ _ t' => Kept (text.Only cfg) t'.1.state ∧
        LastCommits id .dynamicData slot data (UploadStored text) t'.1.state.served t'.2)
      (fun _ _ t' => Kept (text.Only cfg) t'.1.state) next t := by
  have target : text.slot = slot ∧ text.data = data := by
    rw [called]
    exact ⟨rfl, rfl⟩
  obtain ⟨rfl, rfl⟩ := target
  exact (meets_uploadTransaction called (uploadTransaction cfg hmac id text)
    (fun _ sent => sent) (fun acknowledged => upload_done acknowledged) retries guarded
    keyed).mono (fun _ _ _ ⟨_, kept, committed⟩ => ⟨kept, committed⟩) fun _ _ _ left => left

end Upload

/-! ## The guarantee -/

/-- What a call ensures from a guarded start holds of its executions on an
empty link, which is guarded because nothing waits in it. -/
theorem ends_of_meets {procedure : Client Unit} {Only commits : Moment World Exchange → Prop}
    {w : World} {talk : Talk} {outcome : Except ClientError Unit × UInt8}
    {final : Link Station Frame Frame} {issued : Nat}
    (meets : procedure.Meets (link cfg hmac id)
      (fun _ _ t => Kept Only t.1.state ∧
        LastCommits id opcode slot data commits t.1.state.served t.2)
      (fun _ _ t => Kept Only t.1.state) next (⟨.fresh w, [], next - 1, false⟩, []))
    (runs : Runs (lossy (device cfg hmac id)).answers (procedure.dialogue next)
      ⟨.fresh w, [], [], issued⟩ talk outcome final) :
    Kept Only final.state ∧
      (outcome.1 = .ok () → LastCommits id opcode slot data commits final.state.served talk) := by
  have simulated := ensures_lossy meets
    (represents_empty (device cfg hmac id) (Station.fresh w) issued (next - 1))
  obtain ⟨_, d, represents, ended⟩ := (Ensures.recorded simulated runs).1
  rw [List.nil_append] at ended
  rw [← represents.state]
  obtain ⟨value | error, next'⟩ := outcome
  · exact ⟨ended, fun impossible => by cases impossible⟩
  · exact ⟨ended.1, fun _ => ended.2⟩

/-- Whatever the link loses or delays, the frames of one call commit nothing
but its text to its slot; and when the call returns, its last final chunk has
committed it. -/
theorem client_commits (cfg : Config) (hmac : Hmac) (id : ContextId) (w : World) (next : UInt8)
    (issued retries slot : Nat) (data : List UInt8) :
    (∀ talk outcome final, Runs (lossy (device cfg hmac id)).answers
        ((setSlot retries slot data).dialogue next) ⟨.fresh w, [], [], issued⟩ talk outcome final →
      Kept (StaticOnly cfg slot data) final.state ∧
        (outcome.1 = .ok () →
          LastCommits id .set slot data (Stored slot data) final.state.served talk)) ∧
    ∀ ttlSeconds keepAfterExecute talk outcome final, Runs (lossy (device cfg hmac id)).answers
        ((uploadDynamic retries slot data ttlSeconds keepAfterExecute).dialogue next)
        ⟨.fresh w, [], [], issued⟩ talk outcome final →
      Kept ((asked slot data ttlSeconds keepAfterExecute).Only cfg) final.state ∧
        (outcome.1 = .ok () → LastCommits id .dynamicData slot data
          (UploadStored (asked slot data ttlSeconds keepAfterExecute)) final.state.served
          talk) := by
  have keyed : next = next - 1 + 1 := by simp
  constructor
  · intro talk outcome final runs
    exact ends_of_meets (meets_setSlot retries slot data (.initially (.fresh w)) keyed) runs
  · intro ttlSeconds keepAfterExecute talk outcome final runs
    exact ends_of_meets (meets_uploadDynamic retries slot data ttlSeconds keepAfterExecute rfl
      (.initially (.fresh w)) keyed) runs

/-- A text of three chunks. The answer to the second one is lost, and the
upload starts over. -/
def sampleCall : Talk × (Except ClientError Unit × UInt8) × (Station × List Fate) :=
  ((setSlot 1 0 RoundTrip.sampleText).dialogue 7).drive
    (stumbling (Station.answer .default AuthCore.sampleHmac 0 (.still 0)) .timeoutError)
    (.fresh RoundTrip.sampleDevice, [.answered, .answerLost])

/-- A text of three chunks whose second answer is lost. The tool starts over,
and of the five frames the last one has committed the text. -/
theorem client_commits_sample :
    ∃ talk outcome final, Runs (lossy (device .default AuthCore.sampleHmac 0)).answers
      ((setSlot 1 0 RoundTrip.sampleText).dialogue 7) ⟨.fresh RoundTrip.sampleDevice, [], [], 0⟩
      talk outcome final ∧ talk.length = 5 ∧
      LastCommits 0 .set 0 RoundTrip.sampleText (Stored 0 RoundTrip.sampleText)
        final.state.served talk := by
  obtain ⟨issued, runs⟩ := runs_stumbling (@Station.answer_direct .default AuthCore.sampleHmac 0
    (fun _ _ => True) (.still 0) (fun _ => True) fun _ => trivial) .timeoutError
    ((setSlot 1 0 RoundTrip.sampleText).dialogue 7) (.fresh RoundTrip.sampleDevice)
    [.answered, .answerLost] 0
  have returned : sampleCall.2.1.1 = .ok () := by
    decide +kernel
  have turns : sampleCall.1.length = 5 := by
    decide +kernel
  exact ⟨_, _, _, runs, turns, ((client_commits .default AuthCore.sampleHmac 0
    RoundTrip.sampleDevice 7 0 1 0 RoundTrip.sampleText).1 _ _ _ runs).2 returned⟩

end RuntimeMacro.Guarantees.ClientCommits
