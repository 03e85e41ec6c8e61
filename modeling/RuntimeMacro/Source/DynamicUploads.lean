import RuntimeMacro.Foundations.Transfers
import RuntimeMacro.Source.DynamicFrames
import RuntimeMacro.Source.WorldRuns

/-!
# Dynamic uploads

runtime_macro_protocol.c:385-605; runtime_macro_dynamic.c:173-268. The identity
of a dynamic upload is in its context, its bytes are in the shared store, and
either side can be cancelled alone. Two invariants tie them to the history: an
active context describes the BEGIN accepted last on it and the DATA frames
accepted on it since, and an active staging holds the bytes of the BEGIN
accepted last on any context and of the DATA frames accepted on any context
since. With one context both speak of the same frames.
-/
namespace RuntimeMacro.Source
open Foundations Foundations.Runs Foundations.Transfers
open AuthCore (Hmac)
open Protocol (beginTtlSeconds beginConsumes BeginValid DataValid dataAppend DynamicOutcome)
open Context (KeepsOrDrops)

variable {cfg : Config} {hmac : Hmac} {id : ContextId} {w w' : World} {begin : Exchange}
  {chunks : List Exchange} {exchange : Exchange} {history : List WorldEvent}
  {s s' : DynamicStore} {c c' : Context} {bytes : List UInt8}

/-- The exchange of a frame event. -/
def WorldEvent.exchange? : WorldEvent → Option Exchange
  | .frame exchange => some exchange
  | _ => none

/-- The frames of a history with their answers. -/
def exchanges (history : List WorldEvent) : List Exchange :=
  history.filterMap WorldEvent.exchange?

/-- Frames arrive on the one context. -/
def onContext (id : ContextId) : WorldEvent → Bool
  | .frame exchange => exchange.id == id
  | _ => true

/-- A BEGIN that was accepted. -/
def begins (exchange : Exchange) : Bool :=
  exchange.opcode == some .dynamicBegin && exchange.accepted

/-- A DATA that was accepted. -/
def appends (exchange : Exchange) : Bool :=
  exchange.opcode == some .dynamicData && exchange.accepted

/-- The context describes the upload of `begin` after `chunks`. -/
structure Describes (begin : Exchange) (chunks : List Exchange) (c : Context) : Prop where
  upload : c.upload .dynamic = ⟨true, begin.request.requestId, begin.request.slot.toNat,
    begin.request.totalLength, (uploadText chunks).length, []⟩
  same : ∀ chunk ∈ chunks, chunk.request.requestId = begin.request.requestId ∧
    chunk.request.slot = begin.request.slot ∧
    chunk.request.totalLength = begin.request.totalLength

/-- The staging holds `bytes` for the upload of `begin`. -/
structure Stages (begin : Frame) (bytes : List UInt8) (s : DynamicStore) : Prop where
  slot : s.stagingSlot = begin.slot.toNat
  expected : s.stagingExpectedLength = begin.totalLength
  ttl : s.stagingTtlSeconds = beginTtlSeconds begin
  policy : s.stagingConsumeOnAccept = beginConsumes begin
  received : s.stagingReceived = bytes.length
  bytes : s.staging.take bytes.length = bytes

/-- The frames on one context. -/
def exchangesOn (id : ContextId) (past : List Exchange) : List Exchange :=
  past.filter fun exchange => exchange.id == id

/-- A context that is active describes the upload of the frames on it. -/
def Identifies (id : ContextId) (past : List Exchange) (c : Context) : Prop :=
  c.dynamicActive = true → ∃ own, latest begins appends (exchangesOn id past) = some own ∧
    Describes own.first own.parts c

/-- A staging that is active holds the upload of the frames on all contexts. -/
def Composed (past : List Exchange) (s : DynamicStore) : Prop :=
  s.stagingActive = true → ∃ source, latest begins appends past = some source ∧
    Stages source.first.request (uploadText source.parts) s

/-- The upload of a context that all frames are on. -/
def Tracks (id : ContextId) (past : List Exchange) (w : World) : Prop :=
  (w.contexts id).dynamicActive = true → ∃ begin chunks,
    latest begins appends past = some ⟨begin, chunks⟩ ∧ Describes begin chunks (w.contexts id) ∧
    (w.dynamic.stagingActive = true → Stages begin.request (uploadText chunks) w.dynamic)

/-! ## The store -/

theorem Stages.congr {begin : Frame} (stages : Stages begin bytes s)
    (same : s'.stagingOf = s.stagingOf) : Stages begin bytes s' := by
  simp only [DynamicStore.stagingOf, DynamicStore.Staging.mk.injEq] at same
  obtain ⟨staging, slot, expected, received, _, ttl, policy⟩ := same
  exact ⟨slot.trans stages.slot, expected.trans stages.expected, ttl.trans stages.ttl,
    policy.trans stages.policy, received.trans stages.received, by rw [staging, stages.bytes]⟩

/-- The staging after an append holds the bytes with the data behind them. -/
theorem Stages.appended {begin : Frame} (stages : Stages begin bytes s) (data : List UInt8) :
    Stages begin (bytes ++ data) (DynamicStore.appended bytes.length data s) := by
  refine ⟨stages.slot, stages.expected, stages.ttl, stages.policy, ?_, ?_⟩
  · have received : s.stagingReceived = bytes.length := stages.received
    simp only [DynamicStore.appended, received, List.length_append]
  · have taken := ByteBuffer.write_take s.staging bytes.length data
    rw [stages.bytes] at taken
    rw [List.length_append]
    exact taken

/-- What a slot holds once the upload of `begin` was committed to it at
`nowMs`. -/
structure HoldsText (begin : Frame) (text : List UInt8) (nowMs : Int) (entry : DynamicSlot) :
    Prop where
  valid : entry.committedValid = true
  length : entry.committedLength = text.length
  text : entry.committed.take entry.committedLength = text
  deadline : entry.ttlDeadlineMs = nowMs + (beginTtlSeconds begin : Int) * 1000
  policy : entry.committedConsumeOnAccept = beginConsumes begin

theorem Stages.committed {begin : Frame} (stages : Stages begin bytes s)
    (whole : bytes.length = begin.totalLength) (nowMs : Int) (entry : DynamicSlot) :
    HoldsText begin bytes nowMs (DynamicStore.committedSlot nowMs entry s) := by
  have expected : s.stagingExpectedLength = bytes.length := stages.expected.trans whole.symm
  refine ⟨rfl, expected, ?_, ?_, stages.policy⟩
  · have copied : (ByteBuffer.write entry.committed 0 bytes).take bytes.length = bytes :=
      ByteBuffer.write_take_zero _ _
    have inside : bytes.length ≤ (ByteBuffer.write entry.committed 0 bytes).length := by
      have shorter := congrArg List.length copied
      rw [List.length_take] at shorter
      omega
    simp only [DynamicStore.committedSlot, expected, stages.bytes]
    rw [ByteBuffer.write_take_before _ _ _ inside, copied]
  · simp only [DynamicStore.committedSlot, stages.ttl]

/-! ## Events that keep or drop the upload -/

theorem Describes.congr (describes : Describes begin chunks c)
    (same : c'.upload .dynamic = c.upload .dynamic) : Describes begin chunks c' :=
  ⟨same.trans describes.upload, describes.same⟩

theorem Identifies.of_keepsOrDrops {past : List Exchange} (identifies : Identifies id past c)
    (upload : KeepsOrDrops .dynamic c c') : Identifies id past c' := by
  intro active
  rcases upload with same | dropped
  · have stillActive := congrArg Upload.active same
    obtain ⟨own, current, describes⟩ := identifies (stillActive.symm.trans active)
    exact ⟨own, current, describes.congr same⟩
  · exact absurd (active.symm.trans dropped) (by decide)

theorem Identifies.of_dropped {past : List Exchange}
    (dropped : (c.upload .dynamic).active = false) : Identifies id past c :=
  fun active => absurd (active.symm.trans dropped) (by decide)

theorem Composed.of_quiet {past : List Exchange} (composed : Composed past s)
    (quiet : s.Quiet s') : Composed past s' := by
  intro active
  rcases quiet.staging with kept | gone
  · have stillActive := congrArg DynamicStore.Staging.active kept
    obtain ⟨source, current, stages⟩ := composed (stillActive.symm.trans active)
    exact ⟨source, current, stages.congr kept⟩
  · exact absurd (active.symm.trans gone) (by decide)

theorem Composed.of_idle {past : List Exchange} (idle : s.stagingActive = false) :
    Composed past s :=
  fun active => absurd (active.symm.trans idle) (by decide)

/-- Everything but a frame leaves the store quiet and keeps the upload or drops
it. -/
theorem quiet_of_event {event : WorldEvent} (step : WorldStep cfg hmac w event w')
    (other : event.exchange? = none) (id : ContextId) :
    w.dynamic.Quiet w'.dynamic ∧
      KeepsOrDrops .dynamic (w.contexts id) (w'.contexts id) := by
  have cleared : ∀ owner nowMs, w.dynamic.Quiet (w.clearDynamic cfg owner nowMs).dynamic ∧
      KeepsOrDrops .dynamic (w.contexts id) ((w.clearDynamic cfg owner nowMs).contexts id) := by
    intro owner nowMs
    refine ⟨DynamicStore.cancelStagingNow_quiet cfg nowMs w.dynamic, ?_⟩
    by_cases owned : id = owner
    · subst owned
      rw [World.clearDynamic_contexts_self]
      exact Or.inr rfl
    · rw [World.clearDynamic_contexts_of_ne _ _ _ _ _ owned]
      exact KeepsOrDrops.refl _ _
  cases event with
  | frame => cases other
  | transportReset owner env =>
    cases step
    refine ⟨DynamicStore.cancelStagingNow_quiet cfg _ w.dynamic, ?_⟩
    by_cases owned : id = owner
    · subst owned
      rw [World.transportReset, World.discard_contexts_self]
      exact Or.inr rfl
    · rw [World.transportReset, World.discard_contexts_of_ne _ _ _ _ _ owned]
      exact KeepsOrDrops.refl _ _
  | auth call =>
    obtain ⟨system, _, rfl⟩ := step
    exact ⟨DynamicStore.Quiet.refl _, KeepsOrDrops.refl _ _⟩
  | timeoutWork env =>
    cases step
    unfold World.dynamicTimeoutWorkHandler
    split
    · exact ⟨DynamicStore.Quiet.refl _, KeepsOrDrops.refl _ _⟩
    next owner _ =>
      dsimp only
      split
      · exact ⟨DynamicStore.Quiet.refl _, KeepsOrDrops.refl _ _⟩
      · split
        · exact ⟨DynamicStore.Quiet.refl _, KeepsOrDrops.refl _ _⟩
        · exact cleared owner _
  | ttlWork env =>
    cases step
    exact ⟨DynamicStore.ttlWorkHandler_quiet cfg _ _ _, KeepsOrDrops.refl _ _⟩
  | execute slot env result =>
    have executed : w' = (w.executeSlot cfg slot env).2 := (congrArg Prod.snd step).symm
    subst executed
    exact ⟨DynamicStore.executeSlot_quiet cfg slot _ _ _ _ _, KeepsOrDrops.refl _ _⟩
  | executorWork env =>
    cases step
    exact ⟨DynamicStore.Quiet.refl _, KeepsOrDrops.refl _ _⟩
  | clearAll env =>
    cases step
    exact ⟨DynamicStore.clearAll_quiet cfg _ _, KeepsOrDrops.refl _ _⟩

/-! ## Frames -/

/-- A DATA frame the store takes goes behind the bytes staged so far. -/
theorem dataAppend_of_stages {env : Env} {request begin : Frame}
    (data : Protocol.DataTaken cfg env id request w) (stages : Stages begin bytes w.dynamic) :
    ∃ s, s.slots = DynamicStore.expiredSlots cfg (env.clock .operation) w.dynamic ∧
      s.stagingActive = true ∧ Stages begin bytes s ∧ request.offset = bytes.length ∧
      (dataAppend cfg env request w).2 =
        if bytes.length + request.payloadLength = begin.totalLength then
          DynamicStore.commit cfg (env.clock .commit) (env.clock .rearm)
            (DynamicStore.appended bytes.length (request.payload request.payloadLength) s)
        else DynamicStore.appended bytes.length (request.payload request.payloadLength) s := by
  have carried : (request.payload request.payloadLength).length = request.payloadLength :=
    request.payload_length data.sized
  have valid := data.appendValid
  have result := (DynamicStore.appendSlot_taken data.taken).2
  have held := stages.congr (DynamicStore.expireDue_staging valid.active)
  have offset : request.offset = bytes.length := valid.placed.trans held.received
  refine ⟨w.dynamic.expireDue cfg (env.clock .operation), DynamicStore.expireDue_slots,
    valid.active, held, offset, ?_⟩
  have progress : (DynamicStore.appended bytes.length (request.payload request.payloadLength)
      (w.dynamic.expireDue cfg (env.clock .operation))).stagingReceived =
        bytes.length + request.payloadLength := by
    simp only [DynamicStore.appended, held.received, carried]
  rw [dataAppend, result, offset, progress, held.expected]

/-- The append of a DATA frame on a context that describes the staged
upload. -/
theorem dataAppend_of_tracked {env : Env} {request : Frame}
    (data : Protocol.DataTaken cfg env id request w)
    (describes : Describes begin chunks (w.contexts id))
    (staged : w.dynamic.stagingActive = true →
      Stages begin.request (uploadText chunks) w.dynamic) :
    ∃ s, s.slots = DynamicStore.expiredSlots cfg (env.clock .operation) w.dynamic ∧
      Stages begin.request (uploadText chunks) s ∧ request.offset = (uploadText chunks).length ∧
      request.totalLength = begin.request.totalLength ∧
      (dataAppend cfg env request w).2 =
        if request.offset + request.payloadLength = request.totalLength then
          DynamicStore.commit cfg (env.clock .commit) (env.clock .rearm)
            (DynamicStore.appended request.offset (request.payload request.payloadLength) s)
        else DynamicStore.appended request.offset (request.payload request.payloadLength) s := by
  have total := congrArg Upload.totalLength describes.upload
  have whole : request.totalLength = begin.request.totalLength := data.valid.total.symm.trans total
  obtain ⟨s, slots, _, stages, offset, result⟩ :=
    dataAppend_of_stages data (staged data.stagingActive)
  refine ⟨s, slots, stages, offset, whole, ?_⟩
  rw [offset, whole]
  exact result

/-- A DATA frame that does not complete its tracked upload commits nothing. -/
theorem dataAppend_partly {env : Env} {request : Frame} {past : List Exchange}
    (tracks : Tracks id past w) (data : Protocol.DataTaken cfg env id request w)
    (partly : request.offset + request.payloadLength ≠ request.totalLength) :
    Protocol.Expired env w.dynamic.slots (dataAppend cfg env request w).2.slots := by
  obtain ⟨begin, chunks, _, describes, staged⟩ := tracks data.valid.active
  obtain ⟨s, slots, _, _, _, result⟩ := dataAppend_of_tracked data describes staged
  have same : (dataAppend cfg env request w).2.slots = s.slots := by
    rw [result, if_neg partly]
    rfl
  rw [same, slots]
  exact Protocol.expiredSlots_expired cfg .operation w.dynamic

theorem exchanges_append (past : List WorldEvent) (event : WorldEvent) :
    exchanges (past ++ [event]) = exchanges past ++ event.exchange?.toList := by
  unfold exchanges
  rw [List.filterMap_append]
  cases found : event.exchange? <;> simp [found]

theorem begins_iff : begins exchange = true ↔
    exchange.opcode = some .dynamicBegin ∧ exchange.accepted = true := by
  simp [begins]

theorem appends_iff : appends exchange = true ↔
    exchange.opcode = some .dynamicData ∧ exchange.accepted = true := by
  simp [appends]

theorem Describes.opened (started : c.upload .dynamic = ⟨true, begin.request.requestId,
    begin.request.slot.toNat, begin.request.totalLength, 0, []⟩) : Describes begin [] c :=
  ⟨started, by simp⟩

theorem Describes.extended (describes : Describes begin chunks c)
    (valid : DataValid cfg exchange.request c)
    (sized : exchange.request.payloadLength ≤ payloadSize)
    (upload : c'.upload .dynamic = { c.upload .dynamic with
      receivedLength := exchange.request.offset + exchange.request.payloadLength }) :
    Describes begin (chunks ++ [exchange]) c' := by
  have before := describes.upload
  have fields := before
  simp only [Context.upload, Upload.mk.injEq] at fields
  obtain ⟨_, requestId, slot, total, received, _⟩ := fields
  refine ⟨?_, ?_⟩
  · rw [upload, before, uploadText_append, List.length_append, Exchange.chunk_length sized,
      valid.received, received]
  · intro chunk member
    rcases List.mem_append.mp member with early | last
    · exact describes.same chunk early
    · rw [List.mem_singleton.mp last]
      exact ⟨valid.requestId.symm.trans requestId,
        UInt8.toNat_inj.mp (valid.slot.trans slot), valid.total.symm.trans total⟩

theorem begins_of_data (isData : exchange.opcode = some .dynamicData) :
    begins exchange = false := by
  simp [begins, isData]

theorem silent_of_clear (isClear : exchange.opcode = some .dynamicClear) :
    begins exchange = false ∧ appends exchange = false := by
  simp [begins, appends, isClear]

theorem accepted_iff : exchange.accepted = true ↔ exchange.response.status = Status.ok.code := by
  simp [Exchange.accepted]

theorem exchangesOn_own {past : List Exchange} (owned : exchange.id = id) :
    exchangesOn id (past ++ [exchange]) = exchangesOn id past ++ [exchange] := by
  simp [exchangesOn, owned]

theorem exchangesOn_other {past : List Exchange} (different : exchange.id ≠ id) :
    exchangesOn id (past ++ [exchange]) = exchangesOn id past := by
  simp [exchangesOn, different]

theorem FrameStep.dynamic (step : FrameStep cfg hmac w exchange w') :
    DynamicOutcome cfg exchange.env exchange.id exchange.request w exchange.response w' := by
  have outcome := Protocol.processFrame_dynamic cfg hmac exchange.env exchange.id
    exchange.request w
  rw [step.result] at outcome
  exact outcome

/-- An accepted DATA frame was taken by its context and by the store. -/
theorem appends_taken (step : FrameStep cfg hmac w exchange w')
    (appended : appends exchange = true) :
    Protocol.DataTaken cfg exchange.env exchange.id exchange.request w := by
  obtain ⟨isData, accepted⟩ := appends_iff.mp appended
  have ok := accepted_iff.mp accepted
  cases step.dynamic with
  | passive refused => exact absurd ok (refused (Or.inr isData))
  | cleared isClear => cases isClear.symm.trans isData
  | started isBegin => cases isBegin.symm.trans isData
  | completed data => exact data
  | received data => exact data
  | failed _ status => exact absurd ok status

/-- A frame that opens and appends nothing leaves the current upload as it
is. -/
theorem silent_of_refused (refused : exchange.opcode = some .dynamicBegin ∨
      exchange.opcode = some .dynamicData → exchange.response.status ≠ Status.ok.code) :
    begins exchange = false ∧ appends exchange = false := by
  constructor
  · rw [← Bool.not_eq_true, begins_iff]
    rintro ⟨isBegin, accepted⟩
    exact refused (Or.inl isBegin) (accepted_iff.mp accepted)
  · rw [← Bool.not_eq_true, appends_iff]
    rintro ⟨isData, accepted⟩
    exact refused (Or.inr isData) (accepted_iff.mp accepted)

/-- A frame keeps the description of every context true. -/
theorem Identifies.frame {past : List Exchange} (identifies : Identifies id past (w.contexts id))
    (step : FrameStep cfg hmac w exchange w') :
    Identifies id (past ++ [exchange]) (w'.contexts id) := by
  by_cases owned : exchange.id = id
  · subst owned
    have silent : begins exchange = false → appends exchange = false →
        KeepsOrDrops .dynamic (w.contexts exchange.id) (w'.contexts exchange.id) →
        Identifies exchange.id (past ++ [exchange]) (w'.contexts exchange.id) := by
      intro notBegun notAppended upload
      unfold Identifies
      rw [exchangesOn_own rfl, latest_of_other notBegun notAppended]
      exact identifies.of_keepsOrDrops upload
    cases step.dynamic with
    | passive refused _ upload =>
      obtain ⟨notBegun, notAppended⟩ := silent_of_refused refused
      exact silent notBegun notAppended upload
    | cleared isClear _ _ upload =>
      obtain ⟨notBegun, notAppended⟩ := silent_of_clear isClear
      exact silent notBegun notAppended upload
    | started isBegin status _ _ _ upload =>
      intro _
      have begun : begins exchange = true := begins_iff.mpr ⟨isBegin, accepted_iff.mpr status⟩
      refine ⟨⟨exchange, []⟩, ?_, Describes.opened upload⟩
      rw [exchangesOn_own rfl, latest_of_opens begun]
    | completed _ _ _ _ _ dropped => exact Identifies.of_dropped dropped
    | failed _ _ _ _ _ dropped => exact Identifies.of_dropped dropped
    | received data status _ _ upload =>
      intro _
      obtain ⟨own, current, describes⟩ := identifies data.valid.active
      have notBegun : begins exchange = false := begins_of_data data.isData
      have appended : appends exchange = true :=
        appends_iff.mpr ⟨data.isData, accepted_iff.mpr status⟩
      refine ⟨own.extend exchange, ?_, describes.extended data.valid data.sized upload⟩
      rw [exchangesOn_own rfl, latest_of_continues current notBegun appended]
  · unfold Identifies
    rw [exchangesOn_other owned, step.contexts_of_ne owned]
    exact identifies

/-- A frame on any context keeps the staging what the frames so far made of
it. -/
theorem Composed.frame {past : List Exchange} (composed : Composed past w.dynamic)
    (step : FrameStep cfg hmac w exchange w') : Composed (past ++ [exchange]) w'.dynamic := by
  have silent : begins exchange = false → appends exchange = false →
      w.dynamic.Quiet w'.dynamic → Composed (past ++ [exchange]) w'.dynamic := by
    intro notBegun notAppended quiet
    unfold Composed
    rw [latest_of_other notBegun notAppended]
    exact composed.of_quiet quiet
  have taken : ∀ data : Protocol.DataTaken cfg exchange.env exchange.id exchange.request w,
      exchange.response.status = Status.ok.code →
      w'.dynamic = (dataAppend cfg exchange.env exchange.request w).2 →
      Composed (past ++ [exchange]) w'.dynamic := by
    intro data status store active
    obtain ⟨source, current, stages⟩ := composed data.stagingActive
    have notBegun : begins exchange = false := begins_of_data data.isData
    have appended : appends exchange = true :=
      appends_iff.mpr ⟨data.isData, accepted_iff.mpr status⟩
    refine ⟨source.extend exchange, latest_of_continues current notBegun appended, ?_⟩
    obtain ⟨s, _, _, held, _, result⟩ := dataAppend_of_stages data stages
    rw [store, result] at active ⊢
    split at active
    · cases active
    next partly =>
      rw [if_neg partly]
      have after := held.appended exchange.chunk
      rw [← uploadText_append] at after
      exact after
  cases step.dynamic with
  | passive refused store =>
    obtain ⟨notBegun, notAppended⟩ := silent_of_refused refused
    exact silent notBegun notAppended store.quiet
  | cleared isClear _ store =>
    obtain ⟨notBegun, notAppended⟩ := silent_of_clear isClear
    exact silent notBegun notAppended store
  | started isBegin status _ staging =>
    intro _
    have begun : begins exchange = true := begins_iff.mpr ⟨isBegin, accepted_iff.mpr status⟩
    refine ⟨⟨exchange, []⟩, latest_of_opens begun, ?_⟩
    simp only [DynamicStore.stagingOf, DynamicStore.Staging.mk.injEq] at staging
    obtain ⟨_, slot, expected, received, _, ttl, policy⟩ := staging
    exact ⟨slot, expected, ttl, policy, received, rfl⟩
  | completed data status _ _ store => exact taken data status store
  | received data status _ store => exact taken data status store
  | failed _ _ _ _ store =>
    rw [store]
    exact Composed.of_idle rfl

/-! ## Runs -/

section Runs
variable {settings : Settings}

theorem run_composed (run : Run (WorldStep cfg hmac) (.boot cfg settings) history w) :
    Composed (exchanges history) w.dynamic := by
  refine run.history (fun past w => Composed (exchanges past) w.dynamic) ?_ ?_
  · exact Composed.of_idle rfl
  · intro past w event w' _ composed step
    rw [exchanges_append]
    cases event with
    | frame exchange => exact composed.frame step
    | _ => simpa [WorldEvent.exchange?] using composed.of_quiet (quiet_of_event step rfl 0).1

theorem run_identifies (run : Run (WorldStep cfg hmac) (.boot cfg settings) history w)
    (id : ContextId) : Identifies id (exchanges history) (w.contexts id) := by
  refine run.history (fun past w => Identifies id (exchanges past) (w.contexts id)) ?_ ?_
  · exact Identifies.of_dropped rfl
  · intro past w event w' _ identifies step
    rw [exchanges_append]
    cases event with
    | frame exchange => exact identifies.frame step
    | _ =>
      simpa [WorldEvent.exchange?] using
        identifies.of_keepsOrDrops (quiet_of_event step rfl id).2

theorem exchangesOn_of_within (within : ∀ event ∈ history, onContext id event = true) :
    exchangesOn id (exchanges history) = exchanges history := by
  refine List.filter_eq_self.mpr fun exchange member => ?_
  obtain ⟨event, ofHistory, isFrame⟩ := List.mem_filterMap.mp member
  have owned := within event ofHistory
  cases event with
  | frame other =>
    cases isFrame
    exact owned
  | _ => cases isFrame

theorem run_tracks_dynamic (run : Run (WorldStep cfg hmac) (.boot cfg settings) history w)
    (within : ∀ event ∈ history, onContext id event = true) :
    Tracks id (exchanges history) w := by
  intro active
  obtain ⟨own, current, describes⟩ := run_identifies run id active
  rw [exchangesOn_of_within within] at current
  refine ⟨own.first, own.parts, current, describes, fun staging => ?_⟩
  obtain ⟨source, isSource, stages⟩ := run_composed run staging
  cases isSource.symm.trans current
  exact stages

end Runs

end RuntimeMacro.Source
