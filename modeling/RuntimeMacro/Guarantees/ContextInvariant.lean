import RuntimeMacro.Guarantees.StoreInvariant
import RuntimeMacro.Source.ContextShapes

/-!
# What every state of a protocol context looks like

runtime_macro_protocol.c:71-172,1283-1286. From
`zmk_runtime_macro_protocol_init` on, whatever frames, timeouts, expiries and
clears follow, the context keeps its shape and agrees with the store. The
counts it keeps across frames bound every copy to a staging.
-/
namespace RuntimeMacro.Guarantees.ContextInvariant
open Source Source.Protocol Foundations Foundations.Checks Foundations.Runs
open AuthCore (Hmac)
open StoreInvariant (appendCopies)

variable {cfg : Config} {hmac : Hmac} {env : Env} {id : ContextId} {request : Frame}
  {w w' : World} {nowMs : Int}

/-! ## Copies -/

/-- A `memcpy` to `length` cells from `offset` on of a staging with `capacity`
cells. -/
structure StagingCopy where
  capacity : Nat
  offset : Nat
  length : Nat

/-- The copies to the SET staging that a frame makes, none if a check refuses
it. -/
def setCopies (cfg : Config) (request : Frame) (c : Context) : List StagingCopy :=
  match firstFailure (setChecks cfg request) with
  | some _ => []
  | none =>
    if request.offset = 0 then [⟨cfg.maxTextLen, 0, request.payloadLength⟩]
    else
      match firstFailure (setContinueChecks request c) with
      | some _ => []
      | none => [⟨cfg.maxTextLen, request.offset, request.payloadLength⟩]

/-- The same for the staging of PASSWORD_SET. -/
def passwordSetCopies (request : Frame) (c : Context) : List StagingCopy :=
  match firstFailure (passwordSetChecks request) with
  | some _ => []
  | none =>
    if request.offset = 0 then [⟨passwordSetLength, 0, request.payloadLength⟩]
    else
      match firstFailure (passwordSetContinueChecks request c) with
      | some _ => []
      | none => [⟨passwordSetLength, request.offset, request.payloadLength⟩]

/-- The copies of a DATA are those of its append. -/
def dataCopies (cfg : Config) (env : Env) (request : Frame) (c : Context) (s : DynamicStore) :
    List StagingCopy :=
  match firstFailure (dataChecks cfg request c) with
  | some _ => []
  | none =>
    (appendCopies cfg request.slot.toNat request.offset (request.payload request.payloadLength)
      (s.expireDue cfg (env.clock .operation))).map fun copy =>
        ⟨dynamicSlotMaxTextLen, copy.offset, copy.length⟩

/-- All copies to a staging or a slot that the processing of a frame makes. -/
def frameCopies (cfg : Config) (env : Env) (id : ContextId) (request : Frame) (w : World) :
    List StagingCopy :=
  let w := syncAuthState cfg env id w
  match baseCheck request with
  | .ok .set =>
    let (access, w) := managementAccess cfg env id w
    if access ≠ .ok then [] else setCopies cfg request (w.contexts id)
  | .ok .passwordSet =>
    let (access, w) := managementAccess cfg env id w
    if access ≠ .ok then [] else passwordSetCopies request (w.contexts id)
  | .ok .dynamicData => dataCopies cfg env request (w.contexts id) w.dynamic
  | _ => []

/-! ## The copies of a frame -/

/-- Every copy ends inside the array it goes to. -/
def Inside (copies : List StagingCopy) : Prop :=
  ∀ copy ∈ copies, copy.offset + copy.length ≤ copy.capacity

theorem Inside.none : Inside [] := nofun

theorem Inside.single {copy : StagingCopy} (inside : copy.offset + copy.length ≤ copy.capacity) :
    Inside [copy] := by
  intro other member
  rw [List.mem_singleton] at member
  rw [member]
  exact inside

/-- The checks of a SET bound the copy: offset and length inside the total, the
total inside the staging. -/
theorem setCopies_inside (c : Context) : Inside (setCopies cfg request c) := by
  unfold setCopies
  split
  · exact .none
  next checked =>
    have valid := setChecks_eq_none.mp checked
    have fits := valid.total
    have inside := valid.offset
    have short := valid.payload
    split
    · apply Inside.single
      dsimp only
      omega
    · split
      · exact .none
      · apply Inside.single
        dsimp only
        omega

/-- The same for the 52 bytes of a PASSWORD_SET. -/
theorem passwordSetCopies_inside (c : Context) : Inside (passwordSetCopies request c) := by
  unfold passwordSetCopies
  split
  · exact .none
  next checked =>
    have valid := passwordSetChecks_eq_none.mp checked
    have whole := valid.total
    have inside := valid.offset
    have short := valid.payload
    split
    · apply Inside.single
      dsimp only
      omega
    · split
      · exact .none
      · apply Inside.single
        dsimp only
        omega

/-- The store half copies inside its buffers because the context half bounds
its counts. -/
theorem dataCopies_inside (shape : ContextShape cfg id w) :
    Inside (dataCopies cfg env request (w.contexts id) w.dynamic) := by
  have agrees : Agrees ((w.contexts id).upload .dynamic)
      (w.dynamic.expireDue cfg (env.clock .operation)) := shape.store.expired _
  unfold dataCopies
  split
  · exact .none
  · intro copy member
    obtain ⟨made, inCopies, rfl⟩ := List.mem_map.mp member
    dsimp only
    unfold appendCopies at inCopies
    split at inCopies
    · cases inCopies
    next staged =>
    rw [Bool.not_eq_false] at staged
    obtain ⟨active, _, total, _⟩ := agrees staged
    have fits : ((w.contexts id).upload .dynamic).totalLength ≤ dynamicSlotMaxTextLen := by
      cases shape.dynamic with
      | active _ _ _ fits _ _ => exact fits
      | idle gone => exact absurd (gone.symm.trans active) (by decide)
    split at inCopies
    · cases inCopies
    · split at inCopies
      · cases inCopies
      next placed =>
      split at inCopies
      · cases inCopies
      · split at inCopies
        · simp only [List.mem_cons, List.not_mem_nil, or_false] at inCopies
          rcases inCopies with rfl | rfl
          · dsimp only
            omega
          · dsimp only
            omega
        · rw [List.mem_singleton] at inCopies
          subst inCopies
          dsimp only
          omega

theorem frameCopies_inside (shape : ContextShape cfg id w) (env : Env) (request : Frame) :
    Inside (frameCopies cfg env id request w) := by
  have both : ContextShape cfg id (syncAuthState cfg env id w) ∧ _ := syncAuthState_shape shape
  unfold frameCopies
  dsimp only
  split
  · split
    · exact .none
    · exact setCopies_inside _
  · split
    · exact .none
    · exact passwordSetCopies_inside _
  · exact dataCopies_inside both.1
  · exact .none

/-! ## Runs -/

/-- What can happen to the context and to the store behind it. -/
inductive ContextEvent where
  | world (event : WorldEvent)
  | discard (owner : ContextId) (nowMs : Int)
  | checkExpiry (nowMs rearmMs : Int)

/-- Any step of the firmware, a discard of any context, and the expiry check,
which others may call. -/
def ContextStep (cfg : Config) (hmac : Hmac) (w : World) : ContextEvent → World → Prop
  | .world event, w' => WorldStep cfg hmac w event w'
  | .discard owner nowMs, w' => w' = w.discard cfg owner nowMs
  | .checkExpiry nowMs rearmMs, w' =>
    w' = w.withDynamic (w.dynamic.checkExpiry cfg nowMs rearmMs)

/-- All frames arrive on the context, and the clock counts from boot. -/
def OneContext (id : ContextId) : ContextEvent → Prop
  | .world (.frame exchange) => exchange.id = id ∧ ∀ site, 0 ≤ exchange.env.clock site
  | _ => True

/-- The timeout handler zeroes the upload of its owner, or leaves everything
and re-arms. -/
theorem timeoutWork_shape (shape : ContextShape cfg id w) (env : Env) :
    ContextShape cfg id (w.dynamicTimeoutWorkHandler cfg env) := by
  unfold World.dynamicTimeoutWorkHandler
  split
  · exact shape
  next owner owned =>
  dsimp only
  split
  next ended =>
    -- The upload of the context is not the one that has ended.
    refine ⟨shape.set, shape.passwordSet, ?_, shape.store⟩
    cases shape.dynamic with
    | active staged _ _ _ _ mine =>
      have same : owner = id := Option.some.inj (owned.symm.trans mine)
      subst same
      exact absurd (ended.symm.trans staged) (by decide)
    | idle staged requestId slot total received timed =>
      exact .idle staged requestId slot total received timed
  · split
    · exact ⟨shape.set, shape.passwordSet, shape.dynamic, shape.store⟩
    · exact shape.clearDynamic_any owner _

/-- One case for each kind of event. A frame is the long one, and has
its lemma; the rest leave the context or discard it. -/
theorem step_shape {event : ContextEvent} (shape : ContextShape cfg id w)
    (allowed : OneContext id event) (step : ContextStep cfg hmac w event w') :
    ContextShape cfg id w' := by
  cases event with
  | discard owner nowMs =>
    rw [step]
    exact shape.discard_any owner nowMs
  | checkExpiry nowMs rearmMs =>
    rw [step]
    exact shape.kept rfl rfl ((DynamicStore.expireDue_quiet ..).trans
      (DynamicStore.rearmTtl_quiet ..))
  | world event =>
    cases event with
    | frame exchange =>
      obtain ⟨rfl, counted⟩ := allowed
      have left : w' = (processFrame cfg hmac exchange.env exchange.id exchange.request w).2 := by
        rw [FrameStep.result step]
      rw [left]
      exact processFrame_shape shape (counted .timeout)
    | transportReset owner env =>
      rw [step]
      exact (shape.withAuth _).discard_any owner _
    | auth event =>
      obtain ⟨system, _, rfl⟩ := step
      exact shape.kept rfl rfl (.refl _)
    | timeoutWork env =>
      rw [step]
      exact timeoutWork_shape shape env
    | ttlWork env =>
      rw [step]
      exact shape.kept rfl rfl (DynamicStore.ttlWorkHandler_quiet ..)
    | execute slot env result =>
      have left : w' = (w.executeSlot cfg slot env).2 := by
        rw [step]
      rw [left]
      exact shape.kept rfl rfl (DynamicStore.executeSlot_quiet ..)
    | executorWork env =>
      rw [step]
      exact shape.kept rfl rfl (.refl _)
    | clearAll env =>
      rw [step]
      exact shape.kept rfl rfl (DynamicStore.clearAll_quiet ..)

/-- `zmk_runtime_macro_protocol_init` is a discard. From there on every
reachable state has the shape. -/
theorem run_shape {events : List ContextEvent}
    (run : Run (ContextStep cfg hmac) (w.discard cfg id nowMs) events w')
    (allowed : ∀ event ∈ events, OneContext id event) : ContextShape cfg id w' := by
  apply run.invariant_of (ContextShape cfg id) (discard_shape ..) allowed
  intro w event w' shape allowed step
  exact step_shape shape allowed step

/-- In every reachable state any frame that comes next copies only inside the
stagings. -/
theorem context_keeps_shape {events : List ContextEvent}
    (run : Run (ContextStep cfg hmac) (w.discard cfg id nowMs) events w')
    (allowed : ∀ event ∈ events, OneContext id event) :
    ContextShape cfg id w' ∧ ∀ env request, Inside (frameCopies cfg env id request w') := by
  have shape : ContextShape cfg id w' := run_shape run allowed
  exact ⟨shape, frameCopies_inside shape⟩

/-! ## A SET and a dynamic upload under way -/

def sampleSet : Frame := .build .set 3 2 0 4 [97, 98]

def sampleBegin : Frame := .build .dynamicBegin 4 1 0 5 []

def sampleData : Frame := .build .dynamicData 4 1 0 5 [99, 100]

def sampleFrame (nowMs : Int) (request : Frame) (w : World) : World :=
  (processFrame .default AuthCore.sampleHmac (.still nowMs) 0 request w).2

def sampleStart : World := (World.boot .default .empty).discard .default 0 0

def sampleWorld : World :=
  sampleFrame 3 sampleData (sampleFrame 2 sampleBegin (sampleFrame 1 sampleSet sampleStart))

/-- A SET and a dynamic upload under way in one context at the same time, two
bytes each. -/
theorem context_keeps_shape_sample : ContextShape .default 0 sampleWorld ∧
    (sampleWorld.contexts 0).setReceivedLength = 2 ∧
    (sampleWorld.contexts 0).dynamicReceivedLength = 2 ∧
      sampleWorld.dynamic.stagingReceived = 2 := by
  have framed : ∀ nowMs request w, ContextStep .default AuthCore.sampleHmac w
      (.world (.frame (exchangeOf .default AuthCore.sampleHmac 0 (.still nowMs) request w)))
      (sampleFrame nowMs request w) := fun _ _ _ => rfl
  have run := ((Run.single (framed 1 sampleSet sampleStart)).snoc (framed 2 sampleBegin _)).snoc
    (framed 3 sampleData _)
  refine ⟨(context_keeps_shape run ?_).1, by decide +kernel⟩
  simp [OneContext, exchangeOf, Env.still]

end RuntimeMacro.Guarantees.ContextInvariant
