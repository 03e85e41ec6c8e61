import RuntimeMacro.Source.Protocol
import RuntimeMacro.Source.DynamicCases

/-!
# What the dynamic handlers can do

runtime_macro_protocol.c:385-642. Inversion lemmas for BEGIN, DATA and
DYNAMIC_CLEAR.
-/
namespace RuntimeMacro.Source.Protocol
open Foundations.Checks

variable {cfg : Config} {env : Env} {id : ContextId} {request response : Frame} {w : World}

/-! ## BEGIN -/

/-- What the checks of a BEGIN let pass. -/
structure BeginValid (cfg : Config) (request : Frame) : Prop where
  slot : DynamicStore.slotIsValid cfg request.slot.toNat = true
  offset : request.offset = 0
  positive : request.totalLength ≠ 0
  fits : request.totalLength ≤ dynamicSlotMaxTextLen
  atLeast : dynamicMinTtlSeconds ≤ beginTtlSeconds request
  atMost : beginTtlSeconds request ≤ dynamicMaxTtlSeconds

/-- The world once the store and the context have taken the BEGIN and the
timeout was scheduled. -/
def begun (cfg : Config) (env : Env) (id : ContextId) (request : Frame) (w : World) : World :=
  (((w.withDynamic (w.dynamic.beginSlot cfg request.slot.toNat request.totalLength
    (beginTtlSeconds request) (beginConsumes request) (env.clock .operation)).2).modify id
      (startDynamic request)).refreshDynamicTimeout id env).2

theorem refreshDynamicTimeout_fst (id : ContextId) (env : Env) (w : World) :
    (w.refreshDynamicTimeout id env).1 = if env.rescheduleErr < 0 then env.rescheduleErr else 0 :=
  rfl

theorem dynamicError_ne_ok (err expected : Int) (status : Status) (bad : status ≠ .ok) :
    (if err = expected then status else .internal) ≠ .ok := by
  split
  · exact bad
  · decide

theorem beginValid_of_checks (passed : firstFailure (beginChecks cfg request) = none) :
    BeginValid cfg request := by
  simp only [beginChecks, firstFailure_cons_eq_none, firstFailure_nil, Bool.not_eq_false',
    decide_eq_false_iff_not, not_or, Nat.not_lt, gt_iff_lt, ne_eq, Decidable.not_not] at passed
  obtain ⟨slot, offset, ⟨positive, fits⟩, _, _, ⟨atLeast, atMost⟩, _⟩ := passed
  exact ⟨slot, offset, positive, fits, atLeast, atMost⟩

theorem processDynamicBegin_of_passed (passed : firstFailure (beginChecks cfg request) = none) :
    processDynamicBegin cfg env id request response w =
      if env.rescheduleErr < 0 then
        (response.setError (if env.rescheduleErr = -einval then .badLength else .internal),
          (begun cfg env id request w).clearDynamic cfg id (env.clock .cleanup))
      else (response.setSuccess 0 request.totalLength, begun cfg env id request w) := by
  have valid := beginValid_of_checks passed
  have accepted : (w.dynamic.beginSlot cfg request.slot.toNat request.totalLength
      (beginTtlSeconds request) (beginConsumes request) (env.clock .operation)).1 = 0 := by
    rw [DynamicStore.beginSlot_of_valid valid.slot valid.positive valid.fits valid.atLeast
      valid.atMost]
  unfold processDynamicBegin
  simp only [passed]
  rw [if_pos accepted]
  by_cases scheduled : env.rescheduleErr < 0
  · have failed : ¬ env.rescheduleErr = 0 := by omega
    rw [if_pos scheduled, refreshDynamicTimeout_fst, if_pos scheduled, if_pos failed]
    rfl
  · rw [if_neg scheduled, refreshDynamicTimeout_fst, if_neg scheduled, if_neg (by decide)]
    rfl

/-- A BEGIN is refused and drops the upload, fails because the timeout cannot
be scheduled, or starts an upload. -/
theorem processDynamicBegin_cases (cfg : Config) (env : Env) (id : ContextId)
    (request response : Frame) (w : World) :
    (∃ status, status ≠ .ok ∧ processDynamicBegin cfg env id request response w =
      (response.setError status, w.clearDynamic cfg id (env.clock .cleanup))) ∨
    (BeginValid cfg request ∧ env.rescheduleErr < 0 ∧ ∃ status, status ≠ .ok ∧
      processDynamicBegin cfg env id request response w = (response.setError status,
        (begun cfg env id request w).clearDynamic cfg id (env.clock .cleanup))) ∨
    (BeginValid cfg request ∧ 0 ≤ env.rescheduleErr ∧
      processDynamicBegin cfg env id request response w =
        (response.setSuccess 0 request.totalLength, begun cfg env id request w)) := by
  cases checked : firstFailure (beginChecks cfg request) with
  | some status =>
    refine Or.inl ⟨status, firstFailure_ne checked (by simp [beginChecks]), ?_⟩
    unfold processDynamicBegin
    simp only [checked]
  | none =>
    have valid := beginValid_of_checks checked
    rw [processDynamicBegin_of_passed checked]
    by_cases scheduled : env.rescheduleErr < 0
    · rw [if_pos scheduled]
      exact Or.inr (Or.inl ⟨valid, scheduled, _, dynamicError_ne_ok _ _ _ (by decide), rfl⟩)
    · rw [if_neg scheduled]
      exact Or.inr (Or.inr ⟨valid, by omega, rfl⟩)

/-! ## DATA -/

/-- What the checks of a DATA let pass. -/
structure DataValid (cfg : Config) (request : Frame) (c : Context) : Prop where
  slotValid : DynamicStore.slotIsValid cfg request.slot.toNat = true
  active : c.dynamicActive = true
  slot : request.slot.toNat = c.dynamicSlot
  bounded : request.totalLength ≤ dynamicSlotMaxTextLen
  inside : request.offset ≤ request.totalLength
  nonempty : request.payloadLength ≠ 0
  fits : request.payloadLength ≤ request.totalLength - request.offset
  requestId : c.dynamicRequestId = request.requestId
  total : c.dynamicTotalLength = request.totalLength
  received : request.offset = c.dynamicReceivedLength
  alphabet : request.setPayloadIsValid request.payloadLength = true

/-- The append a valid DATA makes. -/
def dataAppend (cfg : Config) (env : Env) (request : Frame) (w : World) : Int × DynamicStore :=
  w.dynamic.appendSlot cfg request.slot.toNat request.offset
    (request.payload request.payloadLength) (env.clock .operation) (env.clock .commit)
    (env.clock .rearm)

/-- The world once the store has taken the DATA. -/
def dataReceived (cfg : Config) (env : Env) (id : ContextId) (request : Frame) (w : World) :
    World :=
  (w.withDynamic (dataAppend cfg env request w).2).modify id fun c =>
    { c with dynamicReceivedLength := request.offset + request.payloadLength }

theorem dataChecks_eq_none {c : Context} :
    firstFailure (dataChecks cfg request c) = none ↔ DataValid cfg request c := by
  simp only [dataChecks, firstFailure_cons_eq_none, firstFailure_nil, Bool.not_eq_false',
    decide_eq_false_iff_not, not_or, not_and, Bool.not_eq_false, Nat.not_lt, gt_iff_lt, ne_eq,
    Decidable.not_not]
  constructor
  · rintro ⟨⟨slotValid, aimed⟩, ⟨_, bounded⟩, inside, ⟨nonempty, fits⟩,
      ⟨active, requestId, total⟩, received, alphabet, _⟩
    exact ⟨slotValid, active, aimed active, bounded, inside, nonempty, fits, requestId, total,
      received, alphabet⟩
  · intro valid
    have nonempty := valid.nonempty
    have fits := valid.fits
    exact ⟨⟨valid.slotValid, fun _ => valid.slot⟩, ⟨by omega, valid.bounded⟩, valid.inside,
      ⟨nonempty, fits⟩, ⟨valid.active, valid.requestId, valid.total⟩, valid.received,
      valid.alphabet, trivial⟩

theorem processDynamicData_of_passed
    (passed : firstFailure (dataChecks cfg request (w.contexts id)) = none) :
    processDynamicData cfg env id request response w =
      if (dataAppend cfg env request w).1 ≠ 0 then
        (response.setError (if (dataAppend cfg env request w).1 = -enoent then .badRequest
            else .internal),
          (w.withDynamic (dataAppend cfg env request w).2).clearDynamic cfg id
            (env.clock .cleanup))
      else if request.offset + request.payloadLength = (w.contexts id).dynamicTotalLength then
        (response.setSuccess (request.offset + request.payloadLength) request.totalLength,
          finishDynamic id (dataReceived cfg env id request w))
      else if ((dataReceived cfg env id request w).refreshDynamicTimeout id env).1 ≠ 0 then
        (response.setError .internal,
          ((dataReceived cfg env id request w).refreshDynamicTimeout id env).2.clearDynamic cfg id
            (env.clock .cleanup))
      else (response.setSuccess (request.offset + request.payloadLength) request.totalLength,
        ((dataReceived cfg env id request w).refreshDynamicTimeout id env).2) := by
  unfold processDynamicData
  simp only [passed]
  rfl

/-- A DATA is refused by the context, refused by the store, completes the
upload, fails because the timeout cannot be scheduled, or is staged. -/
theorem processDynamicData_cases (cfg : Config) (env : Env) (id : ContextId)
    (request response : Frame) (w : World) :
    (∃ status, status ≠ .ok ∧ processDynamicData cfg env id request response w =
      (response.setError status, w.clearDynamic cfg id (env.clock .cleanup))) ∨
    (DataValid cfg request (w.contexts id) ∧ (dataAppend cfg env request w).1 ≠ 0 ∧
      ∃ status, status ≠ .ok ∧ processDynamicData cfg env id request response w =
        (response.setError status, (w.withDynamic (dataAppend cfg env request w).2).clearDynamic
          cfg id (env.clock .cleanup))) ∨
    (DataValid cfg request (w.contexts id) ∧ (dataAppend cfg env request w).1 = 0 ∧
      request.offset + request.payloadLength = request.totalLength ∧
      processDynamicData cfg env id request response w =
        (response.setSuccess request.totalLength request.totalLength,
          finishDynamic id (dataReceived cfg env id request w))) ∨
    (DataValid cfg request (w.contexts id) ∧ (dataAppend cfg env request w).1 = 0 ∧
      request.offset + request.payloadLength ≠ request.totalLength ∧ env.rescheduleErr < 0 ∧
      processDynamicData cfg env id request response w = (response.setError .internal,
        ((dataReceived cfg env id request w).refreshDynamicTimeout id env).2.clearDynamic cfg id
          (env.clock .cleanup))) ∨
    (DataValid cfg request (w.contexts id) ∧ (dataAppend cfg env request w).1 = 0 ∧
      request.offset + request.payloadLength ≠ request.totalLength ∧ 0 ≤ env.rescheduleErr ∧
      processDynamicData cfg env id request response w =
        (response.setSuccess (request.offset + request.payloadLength) request.totalLength,
          ((dataReceived cfg env id request w).refreshDynamicTimeout id env).2)) := by
  cases checked : firstFailure (dataChecks cfg request (w.contexts id)) with
  | some status =>
    refine Or.inl ⟨status, firstFailure_ne checked (by simp [dataChecks]), ?_⟩
    unfold processDynamicData
    simp only [checked]
  | none =>
    have valid := dataChecks_eq_none.mp checked
    rw [processDynamicData_of_passed checked]
    by_cases taken : (dataAppend cfg env request w).1 = 0
    · rw [if_neg (by simpa using taken)]
      by_cases complete : request.offset + request.payloadLength = request.totalLength
      · rw [if_pos (complete.trans valid.total.symm), complete]
        exact Or.inr (Or.inr (Or.inl ⟨valid, taken, rfl, rfl⟩))
      · rw [if_neg fun whole => complete (whole.trans valid.total)]
        by_cases scheduled : env.rescheduleErr < 0
        · rw [if_pos (by rw [refreshDynamicTimeout_fst, if_pos scheduled]; omega)]
          exact Or.inr (Or.inr (Or.inr (Or.inl ⟨valid, taken, complete, scheduled, rfl⟩)))
        · rw [if_neg (by rw [refreshDynamicTimeout_fst, if_neg scheduled]; decide)]
          exact Or.inr (Or.inr (Or.inr (Or.inr ⟨valid, taken, complete, by omega, rfl⟩)))
    · rw [if_pos taken]
      exact Or.inr (Or.inl ⟨valid, taken, _, dynamicError_ne_ok _ _ _ (by decide), rfl⟩)

/-! ## DYNAMIC_CLEAR -/

/-- The world once the slot of a DYNAMIC_CLEAR is cleared. -/
def slotCleared (cfg : Config) (env : Env) (id : ContextId) (slot : Nat) (w : World) : World :=
  let w := w.withDynamic (w.dynamic.clearSlot cfg slot (env.clock .rearm))
  if (w.contexts id).dynamicActive ∧ (w.contexts id).dynamicSlot = slot then finishDynamic id w
  else w

theorem processDynamicClear_cases (cfg : Config) (env : Env) (id : ContextId)
    (request response : Frame) (w : World) :
    (∃ status, status ≠ .ok ∧
      processDynamicClear cfg env id request response w = (response.setError status, w)) ∨
    (DynamicStore.slotIsValid cfg request.slot.toNat = true ∧
      processDynamicClear cfg env id request response w =
        (response.setSuccess 0 0, slotCleared cfg env id request.slot.toNat w)) := by
  unfold processDynamicClear
  dsimp only
  split
  · exact Or.inl ⟨.badSlot, by decide, rfl⟩
  next valid =>
  split
  · exact Or.inl ⟨.badRequest, by decide, rfl⟩
  · exact Or.inr ⟨by simpa using valid, rfl⟩

/-! ## What the dynamic handlers keep -/

/-- Nothing but the dynamic store, the timeout and the contexts changed. -/
structure DynamicOnly (w w' : World) : Prop where
  auth : w'.auth = w.auth
  settings : w'.settings = w.settings
  slots : w'.slots = w.slots
  calls : w'.calls = w.calls

theorem DynamicOnly.refl (w : World) : DynamicOnly w w := ⟨rfl, rfl, rfl, rfl⟩

theorem processDynamicBegin_only (cfg : Config) (env : Env) (id : ContextId)
    (request response : Frame) (w : World) :
    DynamicOnly w (processDynamicBegin cfg env id request response w).2 := by
  rcases processDynamicBegin_cases cfg env id request response w with
    ⟨_, _, refused⟩ | ⟨_, _, _, _, failed⟩ | ⟨_, _, started⟩
  · rw [refused]
    exact ⟨rfl, rfl, rfl, rfl⟩
  · rw [failed]
    exact ⟨rfl, rfl, rfl, rfl⟩
  · rw [started]
    exact ⟨rfl, rfl, rfl, rfl⟩

theorem processDynamicData_only (cfg : Config) (env : Env) (id : ContextId)
    (request response : Frame) (w : World) :
    DynamicOnly w (processDynamicData cfg env id request response w).2 := by
  rcases processDynamicData_cases cfg env id request response w with
    ⟨_, _, result⟩ | ⟨_, _, _, _, result⟩ | ⟨_, _, _, result⟩ | ⟨_, _, _, _, result⟩ |
    ⟨_, _, _, _, result⟩
  all_goals
    rw [result]
    exact ⟨rfl, rfl, rfl, rfl⟩

theorem slotCleared_only (cfg : Config) (env : Env) (id : ContextId) (slot : Nat) (w : World) :
    DynamicOnly w (slotCleared cfg env id slot w) := by
  unfold slotCleared
  dsimp only
  split
  · exact ⟨rfl, rfl, rfl, rfl⟩
  · exact ⟨rfl, rfl, rfl, rfl⟩

theorem processDynamicClear_only (cfg : Config) (env : Env) (id : ContextId)
    (request response : Frame) (w : World) :
    DynamicOnly w (processDynamicClear cfg env id request response w).2 := by
  rcases processDynamicClear_cases cfg env id request response w with
    ⟨_, _, refused⟩ | ⟨_, cleared⟩
  · rw [refused]
    exact DynamicOnly.refl w
  · rw [cleared]
    exact slotCleared_only cfg env id _ w

end RuntimeMacro.Source.Protocol
