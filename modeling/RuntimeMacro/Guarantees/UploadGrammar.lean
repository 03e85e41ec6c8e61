import Mathlib.Data.List.GetD
import RuntimeMacro.Guarantees.ContextInvariant
import RuntimeMacro.Source.CredentialRecord

/-!
# Which BEGIN and DATA frames are accepted

runtime_macro_protocol.c:385-605; docs/DYNAMIC_PROTOCOL.md:238-308. A frame is
validated by the common checks, a handler, its context and the store. On one
context together they accept the documented frames and no others, and whatever
they refuse leaves no upload behind, neither in the context nor in the store.
-/
namespace RuntimeMacro.Guarantees.UploadGrammar
open Source Source.Protocol Foundations.Checks Foundations.Runs Foundations.Transfers
open AuthCore (Hmac)
open ContextInvariant (ContextEvent ContextStep OneContext run_shape sampleBegin sampleData
  sampleFrame sampleStart)
open Foundations.LittleEndian (leValue)

variable {cfg : Config} {hmac : Hmac} {env : Env} {id : ContextId} {request response : Frame}
  {w w' : World} {nowMs : Int}

/-! ## The documented frames -/

/-- The common frame validation of a known opcode. -/
structure Framed (request : Frame) : Prop where
  version : request.version = 2
  status : request.status = 0
  payload : request.payloadLength ≤ 22
  tail : ∀ place (inside : place < 32), 10 + request.payloadLength ≤ place → request[place] = 0

/-- The TTL and the flag byte in the payload of a BEGIN. -/
inductive BeginPayload (request : Frame) : Nat → UInt8 → Prop
  | none (length : request.payloadLength = 0) : BeginPayload request 300 0
  | flags (length : request.payloadLength = 1) : BeginPayload request 300 request[10]
  | ttl (length : request.payloadLength = 4) :
    BeginPayload request (leValue [request[10], request[11], request[12], request[13]]) 0
  | both (length : request.payloadLength = 5) :
    BeginPayload request (leValue [request[10], request[11], request[12], request[13]]) request[14]

/-- DYNAMIC_BEGIN. -/
structure BeginGrammar (cfg : Config) (request : Frame) : Prop extends Framed request where
  slot : request.slot.toNat < cfg.dynamicSlotCount
  offset : request.offset = 0
  total : 1 ≤ request.totalLength ∧ request.totalLength ≤ 512
  policy : ∃ ttl flags, BeginPayload request ttl flags ∧ 1 ≤ ttl ∧ ttl ≤ 86400 ∧
    flags &&& ~~~1 = 0

/-- DYNAMIC_DATA, to the upload that `begin` opened and that has received
`received` bytes. -/
structure DataGrammar (begin : Frame) (received : Nat) (request : Frame) : Prop
    extends Framed request where
  slot : request.slot = begin.slot
  requestId : request.requestId = begin.requestId
  total : request.totalLength = begin.totalLength
  offset : request.offset = received
  nonempty : 1 ≤ request.payloadLength
  fits : request.payloadLength ≤ request.totalLength - request.offset
  alphabet : ∀ byte ∈ request.payload request.payloadLength, Ascii.byteIsValid byte = true

/-- Once the frame has observed the authentication state, the upload is active
and, at the due expirations, so is its staging. -/
structure Live (cfg : Config) (env : Env) (id : ContextId) (w : World) : Prop where
  context : ((syncAuthState cfg env id w).contexts id).dynamicActive = true
  store : ((syncAuthState cfg env id w).dynamic.expireDue cfg (env.clock .operation)).stagingActive
    = true

/-- No upload is active in the context or in the store. -/
structure Idle (id : ContextId) (w : World) : Prop where
  context : (w.contexts id).dynamicActive = false
  store : w.dynamic.stagingActive = false

/-! ## Reading a frame -/

/-- The loop over the tail of the payload, as a statement about each byte
behind it. -/
theorem tail_iff (request : Frame) (length : Nat) : request.payloadTailIsZero length = true ↔
    ∀ place (inside : place < 32), 10 + length ≤ place → request[place] = 0 := by
  simp only [Frame.payloadTailIsZero, List.all_eq_true, beq_iff_eq]
  constructor
  · intro zeros place inside behind
    apply zeros
    rw [List.mem_iff_getElem]
    refine ⟨place - (10 + length), ?_, ?_⟩
    · rw [List.length_drop, Vector.length_toList]
      omega
    · have at' : 10 + length + (place - (10 + length)) = place := by omega
      simp only [List.getElem_drop, at', Vector.getElem_toList]
  · intro zeros byte member
    obtain ⟨place, inside, rfl⟩ := List.mem_iff_getElem.mp member
    rw [List.length_drop, Vector.length_toList] at inside
    rw [List.getElem_drop, Vector.getElem_toList]
    exact zeros _ (by omega) (by omega)

/-- The base check passes exactly the frames that are well formed for a known
opcode. -/
theorem baseCheck_iff {opcode : Opcode} (known : Opcode.ofByte request.opcode = some opcode) :
    baseCheck request = .ok opcode ↔ Framed request := by
  unfold baseCheck
  rw [known]
  dsimp only
  constructor
  · intro passed
    repeat' split at passed
    all_goals cases passed
    next version status payload tail =>
      rw [Bool.not_eq_false] at tail
      exact ⟨not_not.mp version, not_not.mp status, Nat.not_lt.mp payload,
        (tail_iff request _).mp tail⟩
  · intro framed
    have version : ¬ request.version ≠ protocolVersion := not_not.mpr framed.version
    have short : ¬ request.payloadLength > payloadSize := Nat.not_lt.mpr framed.payload
    have tail : request.payloadTailIsZero request.payloadLength = true :=
      (tail_iff request _).mpr framed.tail
    rw [if_neg version, if_neg (not_not.mpr framed.status), if_neg short, if_neg (by simp [tail])]

theorem payload_getD (request : Frame) {length place : Nat} (inside : place < length)
    (sized : length ≤ 22) (bounded : 10 + place < 32) :
    (request.payload length).getD place 0 = request[10 + place] := by
  have short : place < (request.payload length).length := by
    rw [Frame.payload, List.length_take, List.length_drop, Vector.length_toList]
    omega
  rw [List.getD_eq_getElem _ _ short]
  simp only [Frame.payload, List.getElem_take, List.getElem_drop, Vector.getElem_toList]

theorem getU32_payload (request : Frame) {length : Nat} (four : 4 ≤ length) (sized : length ≤ 22) :
    getU32 (request.payload length) =
      leValue [request[10], request[11], request[12], request[13]] := by
  rw [← AuthCore.getLe32_eq _ _ _ _ []]
  unfold getU32 AuthCore.getLe32
  have byte : ∀ place, (below : place < 4) →
      (request.payload length).getD place 0 = request[10 + place] := fun place below =>
    payload_getD request (by omega) sized (by omega)
  rw [byte 0 (by decide), byte 1 (by decide), byte 2 (by decide), byte 3 (by decide)]
  rfl

/-- The handler reads the payload as documented, whatever its length. -/
theorem beginPayload_read {ttl : Nat} {flags : UInt8} (payload : BeginPayload request ttl flags) :
    beginTtlSeconds request = ttl ∧ beginFlags request = flags := by
  unfold beginTtlSeconds beginFlags
  cases payload with
  | none length => simp [length, dynamicDefaultTtlSeconds]
  | flags length =>
    rw [if_neg (by omega), if_pos length, length]
    exact ⟨rfl, payload_getD request (by decide) (by decide) (by decide)⟩
  | ttl length =>
    rw [if_pos (Or.inl length), if_neg (by omega), if_neg (by omega), length]
    exact ⟨getU32_payload request (by decide) (by decide), rfl⟩
  | both length =>
    rw [if_pos (Or.inr length), if_neg (by omega), if_pos length, length]
    exact ⟨getU32_payload request (by decide) (by decide),
      payload_getD request (by decide) (by decide) (by decide)⟩

/-- The checks of a BEGIN pass exactly the frames that its grammar
describes. -/
theorem beginChecks_iff (framed : Framed request) :
    firstFailure (beginChecks cfg request) = none ↔ BeginGrammar cfg request := by
  simp only [beginChecks, firstFailure_cons_eq_none, firstFailure_nil, Bool.not_eq_false',
    decide_eq_false_iff_not, not_or, Nat.not_lt, gt_iff_lt, ne_eq, Decidable.not_not, and_true,
    DynamicStore.slotIsValid, decide_eq_true_eq]
  constructor
  · rintro ⟨slot, offset, ⟨positive, fits⟩, length, flags, atLeast, atMost⟩
    refine ⟨framed, slot, offset, ⟨Nat.pos_of_ne_zero positive, fits⟩, beginTtlSeconds request,
      beginFlags request, ?_, atLeast, atMost, flags⟩
    have lengths : request.payloadLength = 0 ∨ request.payloadLength = 1 ∨
        request.payloadLength = 4 ∨ request.payloadLength = 5 := by
      omega
    have read : ∀ {ttl flags}, BeginPayload request ttl flags →
        BeginPayload request (beginTtlSeconds request) (beginFlags request) := by
      intro ttl flags payload
      obtain ⟨sameTtl, sameFlags⟩ := beginPayload_read payload
      rw [sameTtl, sameFlags]
      exact payload
    rcases lengths with length | length | length | length
    · exact read (.none length)
    · exact read (.flags length)
    · exact read (.ttl length)
    · exact read (.both length)
  · intro grammar
    obtain ⟨ttl, flags, payload, atLeast, atMost, known⟩ := grammar.policy
    obtain ⟨sameTtl, sameFlags⟩ := beginPayload_read payload
    obtain ⟨positive, fits⟩ := grammar.total
    rw [sameTtl, sameFlags]
    refine ⟨grammar.slot, grammar.offset, ⟨by omega, fits⟩, ?_, known, atLeast, atMost⟩
    cases payload <;> omega

/-! ## The handlers -/

theorem begin_ok_iff (schedulable : 0 ≤ env.rescheduleErr) :
    (processDynamicBegin cfg env id request response w).1.status = Status.ok.code ↔
      firstFailure (beginChecks cfg request) = none := by
  cases checked : firstFailure (beginChecks cfg request) with
  | none =>
    rw [processDynamicBegin_of_passed checked, if_neg (by omega)]
    simp
  | some status =>
    have bad : status ≠ .ok := firstFailure_ne checked (by simp [beginChecks])
    unfold processDynamicBegin
    simp [checked, bad]

/-- The store takes what the context takes: the two halves of the upload agree
on slot, length and offset. -/
theorem append_taken (shape : ContextShape cfg id w) (sized : request.payloadLength ≤ payloadSize)
    (valid : DataValid cfg request (w.contexts id))
    (live : (w.dynamic.expireDue cfg (env.clock .operation)).stagingActive = true) :
    (dataAppend cfg env request w).1 = 0 := by
  have agrees : Agrees ((w.contexts id).upload .dynamic)
      (w.dynamic.expireDue cfg (env.clock .operation)) := shape.store.expired _
  obtain ⟨_, slot, total, received⟩ := agrees live
  dsimp only [Context.upload] at slot total received
  have length := payload_length sized
  have nonempty := valid.nonempty
  have inside := valid.inside
  have fits := valid.fits
  have whole := valid.total
  have accepted : DynamicStore.AppendValid cfg request.slot.toNat request.offset
      (request.payload request.payloadLength)
      (w.dynamic.expireDue cfg (env.clock .operation)) := by
    refine ⟨live, valid.slotValid, valid.slot.trans slot.symm, by omega,
      valid.received.trans received.symm, by omega, by omega, valid.alphabet⟩
  unfold dataAppend DynamicStore.appendSlot
  rw [DynamicStore.appendLocked_of_valid accepted]

/-- A DATA is answered OK exactly when its checks pass and the staging is still
active after what is due has expired. -/
theorem data_ok_iff (shape : ContextShape cfg id w) (sized : request.payloadLength ≤ payloadSize)
    (schedulable : 0 ≤ env.rescheduleErr) :
    (processDynamicData cfg env id request response w).1.status = Status.ok.code ↔
      DataValid cfg request (w.contexts id) ∧
        (w.dynamic.expireDue cfg (env.clock .operation)).stagingActive = true := by
  cases checked : firstFailure (dataChecks cfg request (w.contexts id)) with
  | some status =>
    have bad : status ≠ .ok := firstFailure_ne checked (by simp [dataChecks])
    have refused : ¬ DataValid cfg request (w.contexts id) := fun valid => by
      cases checked.symm.trans (dataChecks_eq_none.mpr valid)
    unfold processDynamicData
    simp [checked, bad, refused]
  | none =>
    have valid := dataChecks_eq_none.mp checked
    rw [processDynamicData_of_passed checked]
    by_cases taken : (dataAppend cfg env request w).1 = 0
    · have live := (DynamicStore.appendSlot_taken taken).1.active
      have scheduled : ¬ env.rescheduleErr < 0 := by omega
      rw [if_neg (not_not.mpr taken), refreshDynamicTimeout_fst, if_neg scheduled,
        if_neg (not_not.mpr rfl)]
      split
      · simp [valid, live]
      · simp [valid, live]
    · have dead : ¬ (w.dynamic.expireDue cfg (env.clock .operation)).stagingActive = true :=
        fun live => taken (append_taken shape sized valid live)
      have bad := dynamicError_ne_ok (dataAppend cfg env request w).1 (-enoent) .badRequest
        (by decide)
      rw [if_pos taken]
      simp [bad, dead]

/-- On a context with the shape the handler's checks say what is documented.
The context describes the upload of the frames so far, which is where its
offset comes from. -/
theorem dataValid_iff {begin : Exchange} {chunks : List Exchange} (shape : ContextShape cfg id w)
    (framed : Framed request) (describes : Describes begin chunks (w.contexts id)) :
    DataValid cfg request (w.contexts id) ↔
      DataGrammar begin.request (uploadText chunks).length request := by
  have upload := describes.upload
  simp only [Context.upload, Upload.mk.injEq] at upload
  obtain ⟨active, requestId, slot, total, received, _⟩ := upload
  constructor
  · intro valid
    have nonempty := valid.nonempty
    exact ⟨framed, UInt8.toNat_inj.mp (valid.slot.trans slot),
      valid.requestId.symm.trans requestId, valid.total.symm.trans total,
      valid.received.trans received, by omega, valid.fits,
      List.all_eq_true.mp valid.alphabet⟩
  · intro grammar
    have nonempty := grammar.nonempty
    have fits := grammar.fits
    have same := congrArg UInt8.toNat grammar.slot
    cases shape.dynamic with
    | active _ inside partly short _ _ =>
      dsimp only [Context.upload] at inside partly short
      have whole := grammar.total
      have placed := grammar.offset
      refine ⟨decide_eq_true (by omega), active, same.trans slot.symm, ?_, by omega, by omega,
        fits, requestId.trans grammar.requestId.symm, total.trans whole.symm,
        placed.trans received.symm, List.all_eq_true.mpr grammar.alphabet⟩
      have bound : request.totalLength ≤ 512 := by omega
      exact bound
    | idle gone => exact absurd (gone.symm.trans active) (by decide)

/-! ## The whole frame -/

theorem clearDynamic_idle (cfg : Config) (id : ContextId) (nowMs : Int) (w : World) :
    Idle id (w.clearDynamic cfg id nowMs) := by
  refine ⟨?_, rfl⟩
  rw [World.clearDynamic_contexts_self]
  rfl

/-- A BEGIN or DATA that is not answered OK leaves no upload behind, neither in
the context nor in the store. -/
theorem refused_idle {opcode : Opcode} (known : Opcode.ofByte request.opcode = some opcode)
    (about : opcode = .dynamicBegin ∨ opcode = .dynamicData)
    (refused : (processFrame cfg hmac env id request w).1.status ≠ Status.ok.code) :
    Idle id (processFrame cfg hmac env id request w).2 := by
  cases checked : baseCheck request with
  | error status =>
    have discarded : discardForOpcode cfg id (env.clock .cleanup) request.opcode
        (syncAuthState cfg env id w) =
        (syncAuthState cfg env id w).clearDynamic cfg id (env.clock .cleanup) := by
      unfold discardForOpcode
      rw [known]
      rcases about with rfl | rfl
      · rfl
      · rfl
    simp only [processFrame, checked]
    rw [discarded]
    exact clearDynamic_idle ..
  | ok passed =>
    cases Option.some.inj (known.symm.trans (baseCheck_opcode checked))
    simp only [processFrame, checked] at refused ⊢
    rcases about with rfl | rfl
    · simp only [dispatch] at refused ⊢
      rcases processDynamicBegin_cases cfg env id request (Frame.initResponse (some request))
        (syncAuthState cfg env id w) with
        ⟨_, _, result⟩ | ⟨_, _, _, _, result⟩ | ⟨_, _, result⟩
      · rw [result]
        exact clearDynamic_idle ..
      · rw [result]
        exact clearDynamic_idle ..
      · rw [result] at refused
        exact absurd (Frame.status_setSuccess ..) refused
    · simp only [dispatch] at refused ⊢
      rcases processDynamicData_cases cfg env id request (Frame.initResponse (some request))
        (syncAuthState cfg env id w) with
        ⟨_, _, result⟩ | ⟨_, _, _, _, result⟩ | ⟨_, _, _, result⟩ |
        ⟨_, _, _, _, result⟩ | ⟨_, _, _, _, result⟩
      · rw [result]
        exact clearDynamic_idle ..
      · rw [result]
        exact clearDynamic_idle ..
      · rw [result] at refused
        exact absurd (Frame.status_setSuccess ..) refused
      · rw [result]
        exact clearDynamic_idle ..
      · rw [result] at refused
        exact absurd (Frame.status_setSuccess ..) refused

/-- The common checks come first. -/
theorem processFrame_ok_iff {opcode : Opcode} (known : Opcode.ofByte request.opcode = some opcode) :
    (processFrame cfg hmac env id request w).1.status = Status.ok.code ↔ Framed request ∧
      (dispatch cfg hmac env id opcode request (Frame.initResponse (some request))
        (syncAuthState cfg env id w)).1.status = Status.ok.code := by
  rw [← baseCheck_iff known]
  cases checked : baseCheck request with
  | error status =>
    have bad := baseCheck_ne_ok checked
    simp [processFrame, checked, bad]
  | ok passed =>
    cases Option.some.inj (known.symm.trans (baseCheck_opcode checked))
    simp [processFrame, checked]

/-! ## Runs -/

/-- The frame of a step. -/
def exchange? : ContextEvent → Option Exchange
  | .world event => event.exchange?
  | _ => none

/-- The context describes the upload of the frames so far. What is no frame
leaves it or drops it. -/
theorem run_identified {events : List ContextEvent}
    (run : Run (ContextStep cfg hmac) (w.discard cfg id nowMs) events w') :
    Identifies id (events.filterMap exchange?) (w'.contexts id) := by
  apply run.history fun past w => Identifies id (past.filterMap exchange?) (w.contexts id)
  · apply Identifies.of_dropped
    rw [World.discard_contexts_self]
    rfl
  · intro past w event w' _ identifies step
    rw [List.filterMap_append]
    have silent : exchange? event = none → Context.KeepsOrDrops .dynamic (w.contexts id)
        (w'.contexts id) →
        Identifies id (past.filterMap exchange? ++ [event].filterMap exchange?)
          (w'.contexts id) := by
      intro none kept
      rw [List.filterMap_cons_none none, List.filterMap_nil, List.append_nil]
      exact identifies.of_keepsOrDrops kept
    cases event with
    | world event =>
      have world : WorldStep cfg hmac w event w' := step
      cases event with
      | frame exchange => exact identifies.frame world
      | _ => exact silent rfl (quiet_of_event world rfl id).2
    | discard owner nowMs =>
      apply silent rfl
      by_cases same : id = owner
      · subst same
        rw [step, World.discard_contexts_self]
        exact Or.inr rfl
      · rw [step, World.discard_contexts_of_ne _ _ _ _ _ same]
        exact Context.KeepsOrDrops.refl _ _
    | checkExpiry nowMs rearmMs =>
      apply silent rfl
      rw [step]
      exact Context.KeepsOrDrops.refl _ _

/-- With one context all frames are its own. -/
theorem exchangesOn_all {events : List ContextEvent}
    (allowed : ∀ event ∈ events, OneContext id event) :
    exchangesOn id (events.filterMap exchange?) = events.filterMap exchange? := by
  apply List.filter_eq_self.mpr
  intro exchange member
  obtain ⟨event, listed, isFrame⟩ := List.mem_filterMap.mp member
  have own := allowed event listed
  cases event with
  | world event =>
    cases event with
    | frame other =>
      cases isFrame
      exact beq_iff_eq.mpr own.1
    | _ => cases isFrame
  | _ => cases isFrame

/-- On one context, in every reachable state, exactly the documented frames are
answered OK, if the timeout work can be scheduled. What is not answered OK
leaves no upload. -/
theorem upload_frames_follow_grammar {events : List ContextEvent}
    (run : Run (ContextStep cfg hmac) (w.discard cfg id nowMs) events w')
    (allowed : ∀ event ∈ events, OneContext id event) (env : Env) (request : Frame) :
    (request.opcode = 0x20 → 0 ≤ env.rescheduleErr →
      ((processFrame cfg hmac env id request w').1.status = Status.ok.code ↔
        BeginGrammar cfg request)) ∧
    (request.opcode = 0x21 → 0 ≤ env.rescheduleErr →
      ((processFrame cfg hmac env id request w').1.status = Status.ok.code ↔
        Live cfg env id w' ∧ ∃ begin chunks,
          latest begins appends (events.filterMap exchange?) = some ⟨begin, chunks⟩ ∧
          DataGrammar begin.request (uploadText chunks).length request)) ∧
    (request.opcode = 0x20 ∨ request.opcode = 0x21 →
      (processFrame cfg hmac env id request w').1.status ≠ Status.ok.code →
      Idle id (processFrame cfg hmac env id request w').2) := by
  have synced : ContextShape cfg id (syncAuthState cfg env id w') :=
    (syncAuthState_shape (run_shape run allowed)).1
  have known : ∀ opcode : Opcode, request.opcode = opcode.code →
      Opcode.ofByte request.opcode = some opcode := fun opcode same => by
    rw [same]
    exact Opcode.ofByte_code opcode
  refine ⟨?_, ?_, ?_⟩
  · intro isBegin schedulable
    rw [processFrame_ok_iff (known .dynamicBegin isBegin)]
    simp only [dispatch]
    rw [begin_ok_iff schedulable]
    constructor
    · rintro ⟨framed, passed⟩
      exact (beginChecks_iff framed).mp passed
    · intro grammar
      exact ⟨grammar.toFramed, (beginChecks_iff grammar.toFramed).mpr grammar⟩
  · intro isData schedulable
    have identified : Identifies id (events.filterMap exchange?)
        ((syncAuthState cfg env id w').contexts id) :=
      (run_identified run).of_keepsOrDrops (syncAuthState_keepsOrDrops .dynamic)
    rw [processFrame_ok_iff (known .dynamicData isData)]
    simp only [dispatch]
    constructor
    · rintro ⟨framed, accepted⟩
      obtain ⟨valid, live⟩ := (data_ok_iff synced framed.payload schedulable).mp accepted
      obtain ⟨⟨begin, chunks⟩, current, describes⟩ := identified valid.active
      rw [exchangesOn_all allowed] at current
      exact ⟨⟨valid.active, live⟩, begin, chunks, current,
        (dataValid_iff synced framed describes).mp valid⟩
    · rintro ⟨live, begin, chunks, current, grammar⟩
      obtain ⟨own, latest, describes⟩ := identified live.context
      rw [exchangesOn_all allowed] at latest
      cases latest.symm.trans current
      have valid := (dataValid_iff synced grammar.toFramed describes).mpr grammar
      exact ⟨grammar.toFramed,
        (data_ok_iff synced grammar.payload schedulable).mpr ⟨valid, live.store⟩⟩
  · rintro (isBegin | isData) refused
    · exact refused_idle (known .dynamicBegin isBegin) (Or.inl rfl) refused
    · exact refused_idle (known .dynamicData isData) (Or.inr rfl) refused

/-! ## A restart, a chunk and a chunk at a wrong offset, after a BEGIN -/

def sampleWorld : World := sampleFrame 1 sampleBegin sampleStart

/-- A DATA that goes on behind what the context has received. -/
def sampleStray : Frame := .build .dynamicData 4 1 3 5 [99, 100]

/-- A BEGIN is accepted, a DATA continues it, and a DATA at the wrong offset
ends the upload. -/
theorem upload_frames_follow_grammar_sample : BeginGrammar .default sampleBegin ∧
    Live .default (.still 2) 0 sampleWorld ∧
    Idle 0 (processFrame .default AuthCore.sampleHmac (.still 2) 0 sampleStray sampleWorld).2 := by
  have framed : ContextStep .default AuthCore.sampleHmac sampleStart
      (.world (.frame (exchangeOf .default AuthCore.sampleHmac 0 (.still 1) sampleBegin
        sampleStart))) sampleWorld := rfl
  have allowed : ∀ event ∈ [ContextEvent.world (.frame (exchangeOf .default AuthCore.sampleHmac 0
      (.still 1) sampleBegin sampleStart))], OneContext 0 event := by
    simp [OneContext, exchangeOf, Env.still]
  have follows := upload_frames_follow_grammar (Run.single framed) allowed (.still 2)
  refine ⟨?_, ?_, ?_⟩
  · exact ((follows sampleBegin).1 (by decide) (by decide)).mp (by decide +kernel)
  · exact (((follows sampleData).2.1 (by decide) (by decide)).mp (by decide +kernel)).1
  · exact (follows sampleStray).2.2 (by decide) (by decide +kernel)

end RuntimeMacro.Guarantees.UploadGrammar
