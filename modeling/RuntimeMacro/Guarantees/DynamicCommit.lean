import RuntimeMacro.Source.UploadPlan

/-!
# Dynamic uploads commit what was uploaded

runtime_macro_dynamic.c:184-268; runtime_macro_protocol.c:385-605. A text of a
dynamic slot is replaced only by the DATA frame that completes an upload, with
the bytes of that upload; and an upload that nothing cancels is committed,
however its text is cut into chunks.
-/
namespace RuntimeMacro.Guarantees.DynamicCommit
open Source Source.Protocol Foundations.Runs Foundations.Transfers
open AuthCore (Hmac)

variable {cfg : Config} {hmac : Hmac} {id : ContextId} {w w' w'' : World}
  {history : List WorldEvent} {event : WorldEvent} {exchange : Exchange} {env : Env}

/-! ## What a replaced text is -/

/-- A text is in the slot that was not there before. -/
def Replaced (entry entry' : DynamicSlot) : Prop :=
  entry'.committedValid = true ∧ entry' ≠ entry

theorem replaced_of_empty {entry entry' : DynamicSlot} (empty : entry.committedValid = false)
    (valid : entry'.committedValid = true) : Replaced entry entry' := by
  refine ⟨valid, fun same => ?_⟩
  rw [same, empty] at valid
  cases valid

theorem not_replaced_of_quiet (quiet : w.dynamic.Quiet w'.dynamic) (slot : Nat) :
    ¬ Replaced (w.dynamic.slots slot) (w'.dynamic.slots slot) := by
  rintro ⟨valid, changed⟩
  rcases quiet.slots slot with same | removed
  · exact changed same
  · exact absurd (valid.symm.trans removed) (by decide)

theorem not_replaced_of_expired {slots slots' : Nat → DynamicSlot}
    (expired : Expired env slots slots') (slot : Nat) : ¬ Replaced (slots slot) (slots' slot) := by
  rintro ⟨valid, changed⟩
  rcases expired slot with same | ⟨_, _, emptied⟩
  · exact changed same
  · rw [emptied] at valid
    cases valid

/-- A text that an append puts in a slot is that of the staged upload, the
append included. -/
theorem replaced_of_append (data : DataTaken cfg exchange.env exchange.id exchange.request w)
    {begin : Exchange} {chunks : List Exchange} {slot : Nat}
    (stages : Stages begin.request (uploadText chunks) w.dynamic)
    (replaced : Replaced (w.dynamic.slots slot)
      ((dataAppend cfg exchange.env exchange.request w).2.slots slot)) :
    (uploadText (chunks ++ [exchange])).length = begin.request.totalLength ∧
      slot = begin.request.slot.toNat ∧
      HoldsText begin.request (uploadText (chunks ++ [exchange])) (exchange.env.clock .commit)
        ((dataAppend cfg exchange.env exchange.request w).2.slots slot) := by
  obtain ⟨s, kept, _, held, _, result⟩ := dataAppend_of_stages data stages
  rw [show exchange.request.payload exchange.request.payloadLength = exchange.chunk from rfl]
    at result
  have expired : Expired exchange.env _ _ := expiredSlots_expired cfg .operation w.dynamic
  have all := uploadText_append chunks exchange
  have length : (uploadText (chunks ++ [exchange])).length =
      (uploadText chunks).length + exchange.request.payloadLength := by
    rw [all, List.length_append, Exchange.chunk_length data.sized]
  have after := held.appended exchange.chunk
  rw [← all] at after
  by_cases whole : (uploadText chunks).length + exchange.request.payloadLength =
      begin.request.totalLength
  · rw [if_pos whole] at result
    rw [result, DynamicStore.commit_slots, after.slot] at replaced ⊢
    refine ⟨length.trans whole, ?_⟩
    by_cases target : slot = begin.request.slot.toNat
    · refine ⟨target, ?_⟩
      rw [target, Function.update_self]
      exact after.committed (length.trans whole) _ _
    · rw [Function.update_of_ne target] at replaced
      have unchanged : (DynamicStore.appended (uploadText chunks).length exchange.chunk s).slots =
          s.slots := rfl
      rw [unchanged, kept] at replaced
      exact absurd replaced (not_replaced_of_expired expired slot)
  · rw [if_neg whole] at result
    have unchanged : (dataAppend cfg exchange.env exchange.request w).2.slots = s.slots := by
      rw [result]
      rfl
    rw [unchanged, kept] at replaced
    exact absurd replaced (not_replaced_of_expired expired slot)

/-- The upload that `exchange` completes: the last accepted BEGIN of the
history and the accepted DATA frames since. -/
structure Completes (history : List WorldEvent) (begin : Exchange) (chunks : List Exchange)
    (exchange : Exchange) : Prop where
  position : ∃ front since, exchanges history = front ++ begin :: since ∧ begins begin = true ∧
    (∀ later ∈ since, begins later = false) ∧ chunks = since.filter appends ++ [exchange]
  final : appends exchange = true
  answer : exchange.response.offset = exchange.request.totalLength ∧
    exchange.response.totalLength = exchange.request.totalLength
  same : ∀ chunk ∈ chunks, chunk.request.requestId = begin.request.requestId ∧
    chunk.request.slot = begin.request.slot ∧
    chunk.request.totalLength = begin.request.totalLength
  whole : (uploadText chunks).length = begin.request.totalLength

/-- A text that is replaced was completed by a DATA of this context. The
context tracks its upload, so that is the one of the last BEGIN and the chunks
since. -/
theorem replaced_by_upload (tracks : Tracks id (exchanges history) w)
    (step : WorldStep cfg hmac w event w') (own : onContext id event = true) {slot : Nat}
    (replaced : Replaced (w.dynamic.slots slot) (w'.dynamic.slots slot)) :
    ∃ exchange begin chunks, event = .frame exchange ∧
      Completes history begin chunks exchange ∧ slot = begin.request.slot.toNat ∧
      HoldsText begin.request (uploadText chunks) (exchange.env.clock .commit)
        (w'.dynamic.slots slot) := by
  cases event with
  | frame exchange =>
    have owned : exchange.id = id := by simpa [onContext] using own
    subst owned
    cases FrameStep.dynamic step with
    | passive refused store upload =>
      exact absurd replaced (not_replaced_of_quiet store.quiet slot)
    | cleared isClear status store upload =>
      exact absurd replaced (not_replaced_of_quiet store slot)
    | started isBegin status valid staging slots upload =>
      exact absurd replaced (not_replaced_of_expired slots slot)
    | received data status partly store upload =>
      have expired := dataAppend_partly tracks data partly
      rw [← show w'.dynamic = _ from store] at expired
      exact absurd replaced (not_replaced_of_expired expired slot)
    | failed data status partly _ store dropped =>
      have expired := (dataAppend_partly tracks data partly).trans
        (cancelStagingNow_passive cfg .cleanup _).slots
      rw [← show w'.dynamic = _ from store] at expired
      exact absurd replaced (not_replaced_of_expired expired slot)
    | completed data status answer complete store dropped =>
      obtain ⟨begin, chunks, current, describes, staged⟩ := tracks data.valid.active
      have stages := staged data.stagingActive
      rw [show w'.dynamic = _ from store] at replaced ⊢
      obtain ⟨whole, target, holds⟩ := replaced_of_append data stages replaced
      have accepted : appends exchange = true :=
        appends_iff.mpr ⟨data.isData, accepted_iff.mpr status⟩
      obtain ⟨front, since, split, opened, quiet, parts⟩ := latest_split current
      have extended : Describes begin (chunks ++ [exchange]) { w.contexts exchange.id with
          dynamicReceivedLength := exchange.request.offset + exchange.request.payloadLength } :=
        describes.extended data.valid data.sized rfl
      have same : chunks = since.filter appends := parts
      refine ⟨exchange, begin, chunks ++ [exchange], rfl, ⟨⟨front, since, split, opened, quiet, ?_⟩,
        accepted, answer, extended.same, whole⟩, target, holds⟩
      rw [← same]
  | _ => exact absurd replaced (not_replaced_of_quiet (quiet_of_event step rfl id).1 slot)

/-! ## An upload nothing cancels -/

/-- What the context and the store hold of the upload. -/
def uploadOf (id : ContextId) (w : World) : Upload × DynamicStore.Staging :=
  ((w.contexts id).upload .dynamic, w.dynamic.stagingOf)

/-- The DATA frames of the plan from `sent` on, with events before them that
leave the upload as it is. `exchange` is the last of them. -/
inductive Delivery (cfg : Config) (hmac : Hmac) (id : ContextId) (plan : Plan) :
    List UInt8 → List (List UInt8) → World → Exchange → World → Prop
  | wait {sent : List UInt8} {left : List (List UInt8)} {w w' w'' : World} {event : WorldEvent}
      {exchange : Exchange} (step : WorldStep cfg hmac w event w')
      (kept : uploadOf id w' = uploadOf id w)
      (rest : Delivery cfg hmac id plan sent left w' exchange w'') :
      Delivery cfg hmac id plan sent left w exchange w''
  | next {sent chunk : List UInt8} {left : List (List UInt8)} {w w' w'' : World}
      {first exchange : Exchange} (step : FrameStep cfg hmac w first w') (owned : first.id = id)
      (request : first.request = plan.dataFrame sent chunk)
      (undisturbed : Undisturbed cfg first.env id w) (scheduled : 0 ≤ first.env.rescheduleErr)
      (rest : Delivery cfg hmac id plan (sent ++ chunk) left w' exchange w'') :
      Delivery cfg hmac id plan sent (chunk :: left) w exchange w''
  | last {sent chunk : List UInt8} {w w' : World} {exchange : Exchange}
      (step : FrameStep cfg hmac w exchange w') (owned : exchange.id = id)
      (request : exchange.request = plan.dataFrame sent chunk)
      (undisturbed : Undisturbed cfg exchange.env id w) :
      Delivery cfg hmac id plan sent [chunk] w exchange w'

theorem Delivery.left_ne_nil {plan : Plan} {sent : List UInt8} {left : List (List UInt8)}
    (delivery : Delivery cfg hmac id plan sent left w exchange w') : left ≠ [] := by
  induction delivery with
  | wait _ _ _ ih => exact ih
  | next => exact List.cons_ne_nil _ _
  | last => exact List.cons_ne_nil _ _

theorem Underway.congr {plan : Plan} {sent : List UInt8} (underway : Underway plan sent id w)
    (kept : uploadOf id w' = uploadOf id w) : Underway plan sent id w' := by
  simp only [uploadOf, Prod.mk.injEq] at kept
  obtain ⟨upload, staging⟩ := kept
  refine ⟨upload.trans underway.upload, ?_, underway.stages.congr staging⟩
  have active := congrArg DynamicStore.Staging.active staging
  exact active.trans underway.active

theorem piece_of_plan {plan : Plan} {sent chunk : List UInt8} {left : List (List UInt8)}
    (legal : plan.Legal cfg) (split : sent ++ (chunk :: left).flatten = plan.text)
    (cut : ∀ other ∈ chunk :: left, other ∈ plan.chunks) : Piece plan sent chunk := by
  obtain ⟨nonempty, sized⟩ := legal.sized chunk (cut chunk (by simp))
  refine ⟨nonempty, sized, ?_, fun byte member => legal.alphabet byte ?_⟩
  · rw [← split]
    simp only [List.flatten_cons, List.length_append]
    omega
  · rw [← split]
    simp [member]

/-- From any point of an undisturbed delivery to the commit at its end. By
induction on the frames of the delivery; what has been sent is staged, in the
context and in the store. -/
theorem delivery_commits {plan : Plan} {sent : List UInt8} {left : List (List UInt8)}
    (legal : plan.Legal cfg) (delivery : Delivery cfg hmac id plan sent left w exchange w')
    (underway : Underway plan sent id w) (split : sent ++ left.flatten = plan.text)
    (cut : ∀ chunk ∈ left, chunk ∈ plan.chunks) :
    exchange.accepted = true ∧ exchange.opcode = some .dynamicData ∧
      HoldsText plan.beginFrame plan.text (exchange.env.clock .commit)
        (w'.dynamic.slots plan.slot.toNat) := by
  induction delivery with
  | wait step kept rest ih => exact ih (Underway.congr underway kept) split cut
  | @next sent chunk left w w' w'' first exchange step owned request undisturbed scheduled rest
      ih =>
    subst owned
    have piece := piece_of_plan legal split cut
    have behind : sent.length + chunk.length ≠ plan.text.length := by
      obtain ⟨next, others, rfl⟩ := List.exists_cons_of_ne_nil rest.left_ne_nil
      have nonempty := (legal.sized next (cut next (by simp))).1
      have lengths := congrArg List.length split
      simp only [List.length_append, List.flatten_cons] at lengths
      omega
    have after := processFrame_next hmac legal piece underway undisturbed scheduled behind
    rw [← request, step.result] at after
    refine ih after ?_ fun other member => cut other (List.mem_cons_of_mem _ member)
    rw [← split, List.flatten_cons, List.append_assoc]
  | @last sent chunk w w' exchange step owned request undisturbed =>
    subst owned
    have piece := piece_of_plan legal split cut
    rw [List.flatten_singleton] at split
    have whole : sent.length + chunk.length = plan.text.length := by
      rw [← split, List.length_append]
    have answered := dataFrame_accepted hmac legal piece underway undisturbed (Or.inl whole)
    have committed := processFrame_last hmac legal piece underway undisturbed whole
    rw [← request, step.result] at answered committed
    rw [split] at committed
    refine ⟨by simpa [Exchange.accepted] using answered, ?_, committed⟩
    rw [Exchange.opcode, request]
    exact dataFrame_known plan sent chunk

/-- On every run of one context a replaced text is that of the upload its DATA
frame completes; and the upload of a legal text, in chunks of any sizes, is
committed when nothing cancels it. -/
theorem dynamic_commit_exact (cfg : Config) (hmac : Hmac) (id : ContextId) :
    (∀ settings history w event w' slot, Run (WorldStep cfg hmac) (.boot cfg settings) history w →
      (∀ other ∈ history ++ [event], onContext id other = true) →
      WorldStep cfg hmac w event w' →
      Replaced (w.dynamic.slots slot) (w'.dynamic.slots slot) →
      ∃ exchange begin chunks, event = .frame exchange ∧
        Completes history begin chunks exchange ∧ slot = begin.request.slot.toNat ∧
        HoldsText begin.request (uploadText chunks) (exchange.env.clock .commit)
          (w'.dynamic.slots slot)) ∧
    (∀ (plan : Plan) w begin w' last w'', plan.Legal cfg → FrameStep cfg hmac w begin w' →
      begin.id = id → begin.request = plan.beginFrame → 0 ≤ begin.env.rescheduleErr →
      Delivery cfg hmac id plan [] plan.chunks w' last w'' →
      last.accepted = true ∧ last.opcode = some .dynamicData ∧
        let entry := w''.dynamic.slots plan.slot.toNat
        entry.committedValid = true ∧ entry.committedLength = plan.text.length ∧
          entry.committed.take entry.committedLength = plan.text ∧
          entry.ttlDeadlineMs = last.env.clock .commit +
            (plan.options.ttlSeconds.getD dynamicDefaultTtlSeconds : Int) * 1000 ∧
          entry.committedConsumeOnAccept = !plan.options.keep.getD false) := by
  constructor
  · intro settings history w event w' slot run within step replaced
    have tracks := run_tracks_dynamic run fun other member =>
      within other (List.mem_append_left _ member)
    exact replaced_by_upload tracks step (within event (by simp)) replaced
  · intro plan w begin w' last w'' legal step owned request scheduled delivery
    subst owned
    have underway := processFrame_begin hmac begin.id legal scheduled w
    rw [← request, step.result] at underway
    obtain ⟨accepted, known, holds⟩ := delivery_commits legal delivery underway rfl
      fun chunk member => member
    refine ⟨accepted, known, holds.valid, holds.length, holds.text, ?_, ?_⟩
    · rw [holds.deadline, beginFrame_ttl legal]
    · rw [holds.policy, beginFrame_consumes]

def samplePlan : Plan where
  requestId := 7
  slot := 1
  options := ⟨none, some true⟩
  chunks := [[72], [105, 33]]

def sampleFrame (nowMs : Int) (request : Frame) (w : World) : Exchange × World :=
  (exchangeOf .default AuthCore.sampleHmac 0 (.still nowMs) request w,
    (processFrame .default AuthCore.sampleHmac (.still nowMs) 0 request w).2)

def sampleBegin : Exchange × World := sampleFrame 0 samplePlan.beginFrame (.boot .default .empty)

def sampleData : Exchange × World := sampleFrame 5 (samplePlan.dataFrame [] [72]) sampleBegin.2

def sampleLast : Exchange × World :=
  sampleFrame 9 (samplePlan.dataFrame [72] [105, 33]) sampleData.2

/-- An upload in two chunks. Both directions are used: the commit is that of
its BEGIN and its chunks, and the plan, which nothing disturbs, is committed
with its deadline. -/
theorem dynamic_commit_exact_sample :
    (∃ begin chunks, Completes [.frame sampleBegin.1, .frame sampleData.1] begin chunks
      sampleLast.1 ∧ uploadText chunks = [72, 105, 33]) ∧
    (sampleLast.2.dynamic.slots 1).ttlDeadlineMs = 300009 := by
  obtain ⟨forward, backward⟩ := dynamic_commit_exact .default AuthCore.sampleHmac 0
  have legal : samplePlan.Legal .default :=
    ⟨by decide, by decide, by decide, by decide +kernel, by decide, nofun⟩
  have began : FrameStep .default AuthCore.sampleHmac (.boot .default .empty) sampleBegin.1
      sampleBegin.2 := exchangeOf_step ..
  have sent : FrameStep .default AuthCore.sampleHmac sampleBegin.2 sampleData.1 sampleData.2 :=
    exchangeOf_step ..
  have ended : FrameStep .default AuthCore.sampleHmac sampleData.2 sampleLast.1 sampleLast.2 :=
    exchangeOf_step ..
  have atFirst : Undisturbed .default (.still 5) 0 sampleBegin.2 :=
    ⟨by unfold Stale; decide, by decide⟩
  have atLast : Undisturbed .default (.still 9) 0 sampleData.2 :=
    ⟨by unfold Stale; decide, by decide⟩
  have delivery : Delivery .default AuthCore.sampleHmac 0 samplePlan [] samplePlan.chunks
      sampleBegin.2 sampleLast.1 sampleLast.2 :=
    .next sent rfl rfl atFirst (by decide) (.last ended rfl rfl atLast)
  obtain ⟨_, _, valid, length, text, deadline, _⟩ := backward samplePlan (.boot .default .empty)
    sampleBegin.1 sampleBegin.2 sampleLast.1 sampleLast.2 legal began rfl rfl (by decide) delivery
  refine ⟨?_, deadline⟩
  have first : WorldStep .default AuthCore.sampleHmac (.boot .default .empty)
      (.frame sampleBegin.1) sampleBegin.2 := began
  have second : WorldStep .default AuthCore.sampleHmac sampleBegin.2 (.frame sampleData.1)
      sampleData.2 := sent
  have run : Run (WorldStep .default AuthCore.sampleHmac) (.boot .default .empty)
      ([.frame sampleBegin.1] ++ [.frame sampleData.1]) sampleData.2 :=
    (Run.single first).snoc second
  have replaced : Replaced (sampleData.2.dynamic.slots 1) (sampleLast.2.dynamic.slots 1) :=
    replaced_of_empty (by decide) valid
  obtain ⟨exchange, begin, chunks, isFrame, completes, _, holds⟩ := forward .empty _ sampleData.2
    (.frame sampleLast.1) sampleLast.2 1 run (by decide) ended replaced
  cases isFrame
  exact ⟨begin, chunks, completes, holds.text.symm.trans text⟩

end RuntimeMacro.Guarantees.DynamicCommit
