import RuntimeMacro.Foundations.Runs
import RuntimeMacro.Source.DynamicCases

/-!
# Runs of the dynamic store and the executor

runtime_macro_dynamic.c:150-431; runtime_macro_executor.c:99-191. The public
functions of the store, its work handler and the executor behind it, called in
any order. `step_slot` says once what a call can do to the text of a slot. The
legacy functions are those on the first slot; a start that is not the store's
is a static execution.
-/
namespace RuntimeMacro.Source
open Foundations.Runs
open DynamicStore (clearedSlot due expireDue expiredSlots slotIsValid)

/-- The store of the dynamic slots and the executor behind it. -/
structure Texts where
  dynamic : DynamicStore
  executor : Executor

/-- Both at power-up. -/
def Texts.boot : Texts := ⟨.boot, .idle⟩

/-- The calls of runtime_macro_dynamic.c with their arguments, clock readings
and results, and what else reaches the executor. -/
inductive TextEvent where
  | beginSlot (slot totalLength ttlSeconds : Nat) (consumeOnAccept : Bool) (nowMs result : Int)
  | beginWithOptions (totalLength ttlSeconds : Nat) (consumeOnAccept : Bool) (nowMs result : Int)
  | appendSlot (slot offset : Nat) (data : List UInt8) (nowMs commitMs rearmMs result : Int)
  | cancelStaging (nowMs : Int)
  | clearSlot (slot : Nat) (rearmMs : Int)
  | clearAll (rearmMs : Int)
  | checkExpiry (nowMs rearmMs : Int)
  | executeSlot (slot : Nat) (nowMs rearmMs scheduled result : Int)
  | reset
  | ttlWork (nowMs rearmMs : Int)
  | executorStart (text : List UInt8) (length : Nat) (scheduled result : Int)
  | executorWork (scheduled : Int)

namespace TextEvent

/-- The clock readings of a call, in order. -/
def readings : TextEvent → List Int
  | .beginSlot _ _ _ _ nowMs _ | .beginWithOptions _ _ _ nowMs _ | .cancelStaging nowMs => [nowMs]
  | .appendSlot _ _ _ nowMs commitMs rearmMs _ => [nowMs, commitMs, rearmMs]
  | .clearSlot _ rearmMs | .clearAll rearmMs => [rearmMs]
  | .checkExpiry nowMs rearmMs | .executeSlot _ nowMs rearmMs _ _ | .ttlWork nowMs rearmMs =>
    [nowMs, rearmMs]
  | .reset | .executorStart .. | .executorWork _ => []

/-- The reading at which a call expires what is due. -/
def expiryMs : TextEvent → Option Int
  | .beginSlot _ _ _ _ nowMs _ | .beginWithOptions _ _ _ nowMs _ | .cancelStaging nowMs
  | .appendSlot _ _ _ nowMs _ _ _ | .checkExpiry nowMs _ | .executeSlot _ nowMs _ _ _
  | .ttlWork nowMs _ => some nowMs
  | _ => none

/-- The call asks for the slot to be emptied. -/
def clears (cfg : Config) (slot : Nat) : TextEvent → Bool
  | .clearSlot target _ => target == slot && slotIsValid cfg slot
  | .clearAll _ | .reset => slotIsValid cfg slot
  | _ => false

end TextEvent

/-- `k_uptime_get` counts from boot and never goes back. -/
def Uptime (events : List TextEvent) : Prop :=
  (events.flatMap TextEvent.readings).Pairwise (· ≤ ·) ∧
    ∀ reading ∈ events.flatMap TextEvent.readings, 0 ≤ reading

theorem Uptime.front {front back : List TextEvent} (uptime : Uptime (front ++ back)) :
    Uptime front := by
  obtain ⟨ordered, counted⟩ := uptime
  rw [List.flatMap_append] at ordered counted
  exact ⟨(List.pairwise_append.mp ordered).1, fun reading read =>
    counted reading (List.mem_append_left _ read)⟩

/-- One call: its answer and its effect are those of the entry point. -/
def TextStep (cfg : Config) (s : Texts) : TextEvent → Texts → Prop
  | .beginSlot slot totalLength ttlSeconds consume nowMs result, s' =>
    s.dynamic.beginSlot cfg slot totalLength ttlSeconds consume nowMs = (result, s'.dynamic) ∧
      s'.executor = s.executor
  | .beginWithOptions totalLength ttlSeconds consume nowMs result, s' =>
    s.dynamic.beginWithOptions cfg totalLength ttlSeconds consume nowMs = (result, s'.dynamic) ∧
      s'.executor = s.executor
  | .appendSlot slot offset data nowMs commitMs rearmMs result, s' =>
    s.dynamic.appendSlot cfg slot offset data nowMs commitMs rearmMs = (result, s'.dynamic) ∧
      s'.executor = s.executor
  | .cancelStaging nowMs, s' => s' = { s with dynamic := s.dynamic.cancelStagingNow cfg nowMs }
  | .clearSlot slot rearmMs, s' => s' = { s with dynamic := s.dynamic.clearSlot cfg slot rearmMs }
  | .clearAll rearmMs, s' => s' = { s with dynamic := s.dynamic.clearAll cfg rearmMs }
  | .checkExpiry nowMs rearmMs, s' =>
    s' = { s with dynamic := s.dynamic.checkExpiry cfg nowMs rearmMs }
  | .executeSlot slot nowMs rearmMs scheduled result, s' =>
    s.dynamic.executeSlot cfg slot nowMs rearmMs scheduled s.executor =
      (result, s'.dynamic, s'.executor)
  | .reset, s' => s' = { s with dynamic := s.dynamic.reset cfg }
  | .ttlWork nowMs rearmMs, s' =>
    s' = { s with dynamic := s.dynamic.ttlWorkHandler cfg nowMs rearmMs }
  | .executorStart text length scheduled result, s' =>
    s.executor.start text length scheduled = (result, s'.executor) ∧ s'.dynamic = s.dynamic
  | .executorWork scheduled, s' => s' = { s with executor := (s.executor.workHandler scheduled).2 }

/-- The state after a call on the store that gave the recorded answer. -/
def storeAnswered (result : Int) (s : Texts) (outcome : Int × DynamicStore) : Option Texts :=
  if outcome.1 = result then some { s with dynamic := outcome.2 } else none

/-- `TextStep`, executed. -/
def textNext (cfg : Config) (s : Texts) : TextEvent → Option Texts
  | .beginSlot slot totalLength ttlSeconds consume nowMs result =>
    storeAnswered result s (s.dynamic.beginSlot cfg slot totalLength ttlSeconds consume nowMs)
  | .beginWithOptions totalLength ttlSeconds consume nowMs result =>
    storeAnswered result s (s.dynamic.beginWithOptions cfg totalLength ttlSeconds consume nowMs)
  | .appendSlot slot offset data nowMs commitMs rearmMs result =>
    storeAnswered result s (s.dynamic.appendSlot cfg slot offset data nowMs commitMs rearmMs)
  | .cancelStaging nowMs => some { s with dynamic := s.dynamic.cancelStagingNow cfg nowMs }
  | .clearSlot slot rearmMs => some { s with dynamic := s.dynamic.clearSlot cfg slot rearmMs }
  | .clearAll rearmMs => some { s with dynamic := s.dynamic.clearAll cfg rearmMs }
  | .checkExpiry nowMs rearmMs =>
    some { s with dynamic := s.dynamic.checkExpiry cfg nowMs rearmMs }
  | .executeSlot slot nowMs rearmMs scheduled result =>
    let (err, dynamic, executor) :=
      s.dynamic.executeSlot cfg slot nowMs rearmMs scheduled s.executor
    if err = result then some ⟨dynamic, executor⟩ else none
  | .reset => some { s with dynamic := s.dynamic.reset cfg }
  | .ttlWork nowMs rearmMs =>
    some { s with dynamic := s.dynamic.ttlWorkHandler cfg nowMs rearmMs }
  | .executorStart text length scheduled result =>
    let (err, executor) := s.executor.start text length scheduled
    if err = result then some { s with executor := executor } else none
  | .executorWork scheduled => some { s with executor := (s.executor.workHandler scheduled).2 }

theorem storeAnswered_some {result : Int} {s s' : Texts} {outcome : Int × DynamicStore}
    (accepted : storeAnswered result s outcome = some s') :
    outcome = (result, s'.dynamic) ∧ s'.executor = s.executor := by
  unfold storeAnswered at accepted
  split at accepted
  next same =>
    cases accepted
    exact ⟨Prod.ext same rfl, rfl⟩
  · cases accepted

theorem textNext_sound (cfg : Config) (s : Texts) (event : TextEvent) (s' : Texts)
    (executed : textNext cfg s event = some s') : TextStep cfg s event s' := by
  cases event with
  | beginSlot | beginWithOptions | appendSlot => exact storeAnswered_some executed
  | executeSlot slot nowMs rearmMs scheduled result =>
    simp only [textNext] at executed
    split at executed
    next same =>
      cases executed
      exact Prod.ext same rfl
    · cases executed
  | executorStart text length scheduled result =>
    simp only [textNext] at executed
    split at executed
    next same =>
      cases executed
      exact ⟨Prod.ext same rfl, rfl⟩
    · cases executed
  | _ =>
    cases executed
    rfl

/-- The state a call that can give the recorded answer leads to. -/
def textAfter (cfg : Config) (s : Texts) (event : TextEvent)
    (executed : (textNext cfg s event).isSome) : Texts :=
  (textNext cfg s event).get executed

theorem textAfter_step (cfg : Config) (s : Texts) (event : TextEvent)
    (executed : (textNext cfg s event).isSome) :
    TextStep cfg s event (textAfter cfg s event executed) :=
  textNext_sound cfg s event _ (Option.some_get executed).symm

/-! ## Commits and hand-overs -/

/-- A committed text, without its bytes. -/
structure Commit where
  slot : Nat
  length : Nat
  atMs : Int
  ttlSeconds : Nat
  consumeOnAccept : Bool
  deriving DecidableEq

/-- The text expires when its time to live is over. -/
def Commit.deadlineMs (commit : Commit) : Int := commit.atMs + (commit.ttlSeconds : Int) * 1000

/-- The commit an accepted append makes, when it completes the staged text. -/
def commitOf (cfg : Config) (s : Texts) : TextEvent → Option Commit
  | .appendSlot slot _ data nowMs commitMs _ result =>
    let staged := expireDue cfg nowMs s.dynamic
    if result = 0 ∧ staged.stagingReceived + data.length = staged.stagingExpectedLength then
      some ⟨slot, staged.stagingExpectedLength, commitMs, staged.stagingTtlSeconds,
        staged.stagingConsumeOnAccept⟩
    else none
  | _ => none

/-- The call commits a text to the slot. -/
def Commits (cfg : Config) (slot : Nat) (s : Texts) (event : TextEvent) : Prop :=
  ∃ commit, commitOf cfg s event = some commit ∧ commit.slot = slot

/-- The text an execution hands to `zmk_runtime_macro_executor_start`. -/
def handedOver (cfg : Config) (s : Texts) : TextEvent → Option DynamicSlot
  | .executeSlot slot nowMs _ _ _ =>
    let entry := (expireDue cfg nowMs s.dynamic).slots slot
    if slotIsValid cfg slot = false ∨ entry.committedValid = false ∨ entry.committedLength = 0 then
      none
    else some entry
  | _ => none

/-- The executor accepts the text of the slot. -/
def accepts (cfg : Config) (s : Texts) (slot : Nat) : TextEvent → Bool
  | .executeSlot target nowMs rearmMs scheduled result =>
    target == slot && result == 0 &&
      (handedOver cfg s (.executeSlot target nowMs rearmMs scheduled result)).isSome
  | _ => false

/-- What a commit leaves in its slot. -/
structure Holds (commit : Commit) (entry : DynamicSlot) : Prop where
  valid : entry.committedValid = true
  length : entry.committedLength = commit.length
  deadline : entry.ttlDeadlineMs = commit.deadlineMs
  policy : entry.committedConsumeOnAccept = commit.consumeOnAccept

/-- The text is gone: its bytes are zero, and there is no deadline. -/
structure Emptied (entry : DynamicSlot) : Prop where
  bytes : entry.committed = DynamicStore.zeroBuffer
  length : entry.committedLength = 0
  valid : entry.committedValid = false
  deadline : entry.ttlDeadlineMs = 0

theorem clearedSlot_emptied (entry : DynamicSlot) : Emptied (clearedSlot entry) :=
  ⟨rfl, rfl, rfl, rfl⟩

/-- All a call can do to the text of one slot. -/
inductive SlotEffect (cfg : Config) (s : Texts) (event : TextEvent) (slot : Nat) :
    DynamicSlot → Prop
  | kept : SlotEffect cfg s event slot (s.dynamic.slots slot)
  | expired {reading : Int} {entry : DynamicSlot} (read : event.expiryMs = some reading)
      (late : due reading (s.dynamic.slots slot) = true) (emptied : Emptied entry) :
      SlotEffect cfg s event slot entry
  | cleared {entry : DynamicSlot} (asked : event.clears cfg slot = true) (emptied : Emptied entry) :
      SlotEffect cfg s event slot entry
  | consumed {entry : DynamicSlot} (accepted : accepts cfg s slot event = true)
      (policy : (s.dynamic.slots slot).committedConsumeOnAccept = true) (emptied : Emptied entry) :
      SlotEffect cfg s event slot entry
  | committed {commit : Commit} {entry : DynamicSlot} (made : commitOf cfg s event = some commit)
      (here : commit.slot = slot) (holds : Holds commit entry) : SlotEffect cfg s event slot entry

section Steps
variable {cfg : Config} {s s' : Texts} {event : TextEvent} {events : List TextEvent} {slot : Nat}
  {reading : Int}

theorem SlotEffect.of_expiry {entry : DynamicSlot} (read : event.expiryMs = some reading)
    (slots : entry = expiredSlots cfg reading s.dynamic slot) :
    SlotEffect cfg s event slot entry := by
  rw [slots]
  rcases DynamicStore.expiredSlots_onlyExpired cfg reading s.dynamic slot with
    same | ⟨late, emptied⟩
  · rw [same]
    exact .kept
  · rw [emptied]
    exact .expired read late (clearedSlot_emptied _)

theorem beginLocked_slots (cfg : Config) (slot total maxLength ttl : Nat) (consume : Bool)
    (d : DynamicStore) :
    (DynamicStore.beginLocked cfg slot total maxLength ttl consume d).2.slots = d.slots := by
  unfold DynamicStore.beginLocked
  split <;> rfl

theorem clearCommitted_fold_slots (order : List Nat) (d : DynamicStore) (slot : Nat) :
    (order.foldl (fun d slot => DynamicStore.clearCommitted slot d) d).slots slot = d.slots slot ∨
      (slot ∈ order ∧
        Emptied ((order.foldl (fun d slot => DynamicStore.clearCommitted slot d) d).slots
          slot)) := by
  induction order generalizing d with
  | nil => exact Or.inl rfl
  | cons head tail ih =>
    rw [List.foldl_cons]
    rcases ih (DynamicStore.clearCommitted head d) with same | ⟨member, emptied⟩
    · by_cases atHead : slot = head
      · subst atHead
        refine Or.inr ⟨List.mem_cons_self, ?_⟩
        rw [same]
        simpa [DynamicStore.clearCommitted] using clearedSlot_emptied _
      · refine Or.inl (same.trans ?_)
        simp [DynamicStore.clearCommitted, atHead]
    · exact Or.inr ⟨List.mem_cons_of_mem _ member, emptied⟩

theorem expireSlot_slots_of_ne {target : Nat} (different : slot ≠ target) (d : DynamicStore) :
    (DynamicStore.expireSlot target d).slots slot = d.slots slot := by
  unfold DynamicStore.expireSlot DynamicStore.clearCommitted DynamicStore.cancelStaging
  dsimp only
  split <;> simp [different]

theorem expireSlot_slots_self (d : DynamicStore) :
    (DynamicStore.expireSlot slot d).slots slot = clearedSlot (d.slots slot) := by
  unfold DynamicStore.expireSlot DynamicStore.clearCommitted DynamicStore.cancelStaging
  dsimp only
  split <;> simp

/-- A text that is still there after the expiry in a call is as it was. -/
theorem expiredSlots_of_valid {d : DynamicStore}
    (valid : (expiredSlots cfg reading d slot).committedValid = true) :
    expiredSlots cfg reading d slot = d.slots slot := by
  rcases DynamicStore.expiredSlots_onlyExpired cfg reading d slot with same | ⟨_, emptied⟩
  · exact same
  · rw [emptied] at valid
    cases valid

/-- All an execution can do: expire, hand over a text and, if it is accepted,
consume it. -/
theorem executeSlot_cases {target : Nat} {nowMs rearmMs scheduled result : Int}
    (step : TextStep cfg s (.executeSlot target nowMs rearmMs scheduled result) s') :
    (handedOver cfg s (.executeSlot target nowMs rearmMs scheduled result) = none ∧
      s'.dynamic = expireDue cfg nowMs s.dynamic ∧ s'.executor = s.executor ∧
      (slotIsValid cfg target = true → result = 0)) ∨
    (∃ entry, handedOver cfg s (.executeSlot target nowMs rearmMs scheduled result) = some entry ∧
      entry = s.dynamic.slots target ∧ entry.committedValid = true ∧
      expiredSlots cfg nowMs s.dynamic target = entry ∧
      s.executor.start entry.committed entry.committedLength scheduled = (result, s'.executor) ∧
      ((result = 0 ∧ entry.committedConsumeOnAccept = true ∧
          s'.dynamic = DynamicStore.rearmTtl cfg rearmMs
            (DynamicStore.clearCommitted target (expireDue cfg nowMs s.dynamic))) ∨
        ((result ≠ 0 ∨ entry.committedConsumeOnAccept = false) ∧
          s'.dynamic = expireDue cfg nowMs s.dynamic))) := by
  have executed : s.dynamic.executeSlot cfg target nowMs rearmMs scheduled s.executor =
    (result, s'.dynamic, s'.executor) := step
  unfold DynamicStore.executeSlot at executed
  unfold handedOver
  dsimp only at executed ⊢
  by_cases outside : slotIsValid cfg target = false
  · rw [if_pos outside] at executed
    simp only [Prod.mk.injEq] at executed
    refine Or.inl ⟨if_pos (Or.inl outside), executed.2.1.symm, executed.2.2.symm, fun valid => ?_⟩
    cases outside.symm.trans valid
  · rw [if_neg outside] at executed
    by_cases empty : ((expireDue cfg nowMs s.dynamic).slots target).committedValid = false ∨
        ((expireDue cfg nowMs s.dynamic).slots target).committedLength = 0
    · rw [if_pos empty] at executed
      simp only [Prod.mk.injEq] at executed
      exact Or.inl ⟨if_pos (Or.inr empty), executed.2.1.symm, executed.2.2.symm,
        fun _ => executed.1.symm⟩
    · rw [if_neg empty] at executed
      have present := (not_or.mp empty).1
      rw [Bool.not_eq_false, DynamicStore.expireDue_slots] at present
      have same := expiredSlots_of_valid present
      refine Or.inr ⟨_, if_neg (not_or.mpr ⟨outside, empty⟩), ?_, ?_, ?_, ?_⟩
      · rw [DynamicStore.expireDue_slots, same]
      · rw [DynamicStore.expireDue_slots]
        exact present
      · rw [DynamicStore.expireDue_slots]
      · split at executed
        next granted =>
          simp only [Prod.mk.injEq] at executed
          obtain ⟨rfl, dynamic, executor⟩ := executed
          exact ⟨Prod.ext rfl executor, Or.inl ⟨granted.1, granted.2, dynamic.symm⟩⟩
        next denied =>
          simp only [Prod.mk.injEq] at executed
          obtain ⟨rfl, dynamic, executor⟩ := executed
          refine ⟨Prod.ext rfl executor, Or.inr ⟨?_, dynamic.symm⟩⟩
          by_cases accepted : (s.executor.start
              ((expireDue cfg nowMs s.dynamic).slots target).committed
              ((expireDue cfg nowMs s.dynamic).slots target).committedLength scheduled).1 = 0
          · refine Or.inr ?_
            rw [← Bool.not_eq_true]
            exact fun policy => denied ⟨accepted, policy⟩
          · exact Or.inl accepted

/-- An append expires what is due and may complete the staged text. -/
theorem appendSlot_effect {target offset : Nat} {data : List UInt8}
    {nowMs commitMs rearmMs result : Int}
    (step : TextStep cfg s (.appendSlot target offset data nowMs commitMs rearmMs result) s')
    (slot : Nat) :
    SlotEffect cfg s (.appendSlot target offset data nowMs commitMs rearmMs result) slot
      (s'.dynamic.slots slot) := by
  have read : (TextEvent.appendSlot target offset data nowMs commitMs rearmMs result).expiryMs =
      some nowMs := rfl
  have appended : s.dynamic.appendSlot cfg target offset data nowMs commitMs rearmMs =
      (result, s'.dynamic) := step.1
  by_cases taken : result = 0
  · obtain ⟨valid, made⟩ :=
      DynamicStore.appendSlot_taken ((congrArg Prod.fst appended).trans taken)
    rw [appended] at made
    split at made
    next complete =>
      rw [show s'.dynamic = _ from made, DynamicStore.commit_slots]
      have staged : (DynamicStore.appended offset data
          (expireDue cfg nowMs s.dynamic)).stagingSlot = target := valid.slot.symm
      rw [staged]
      by_cases here : slot = target
      · rw [here, Function.update_self]
        refine .committed (if_pos ⟨taken, complete⟩) rfl ?_
        exact ⟨rfl, rfl, rfl, rfl⟩
      · rw [Function.update_of_ne here]
        refine .of_expiry read ?_
        rw [DynamicStore.appended, DynamicStore.expireDue_slots]
    next partly =>
      refine .of_expiry read ?_
      rw [show s'.dynamic = _ from made, DynamicStore.appended, DynamicStore.expireDue_slots]
  · have refused : (s.dynamic.appendSlot cfg target offset data nowMs commitMs rearmMs).1 ≠ 0 := by
      rw [appended]
      exact taken
    refine .of_expiry read ?_
    rcases DynamicStore.appendSlot_refused refused with kept | cancelled
    · rw [appended] at kept
      rw [show s'.dynamic = _ from kept, DynamicStore.expireDue_slots]
    · rw [appended] at cancelled
      rw [show s'.dynamic = _ from cancelled, DynamicStore.cancelStaging_slots,
        DynamicStore.expireDue_slots]

theorem step_slot (step : TextStep cfg s event s') (slot : Nat) :
    SlotEffect cfg s event slot (s'.dynamic.slots slot) := by
  cases event with
  | beginSlot target total ttl consume nowMs result =>
    have slots := DynamicStore.beginSlot_slots cfg target total ttl consume nowMs s.dynamic
    rw [step.1] at slots
    exact .of_expiry rfl (congrFun slots slot)
  | beginWithOptions total ttl consume nowMs result =>
    have slots := beginLocked_slots cfg dynamicLegacySlot total dynamicMaxTextLen ttl consume
      (expireDue cfg nowMs s.dynamic)
    have begun : DynamicStore.beginLocked cfg dynamicLegacySlot total dynamicMaxTextLen ttl consume
        (expireDue cfg nowMs s.dynamic) = (result, s'.dynamic) := step.1
    rw [begun, DynamicStore.expireDue_slots] at slots
    exact .of_expiry rfl (congrFun slots slot)
  | appendSlot target offset data nowMs commitMs rearmMs result => exact appendSlot_effect step slot
  | cancelStaging nowMs =>
    rw [step]
    exact .of_expiry rfl (congrFun DynamicStore.cancelStagingNow_slots slot)
  | clearSlot target rearmMs =>
    rw [step]
    change SlotEffect _ _ _ _ ((s.dynamic.clearSlot cfg target rearmMs).slots slot)
    unfold DynamicStore.clearSlot
    split
    · exact .kept
    next valid =>
      rw [DynamicStore.rearmTtl_slots]
      by_cases same : slot = target
      · subst same
        rw [expireSlot_slots_self]
        exact .cleared (by simpa [TextEvent.clears] using valid) (clearedSlot_emptied _)
      · rw [expireSlot_slots_of_ne same]
        exact .kept
  | clearAll rearmMs =>
    rw [step]
    change SlotEffect _ _ _ _ ((s.dynamic.clearAll cfg rearmMs).slots slot)
    unfold DynamicStore.clearAll
    dsimp only
    rw [DynamicStore.rearmTtl_slots, DynamicStore.cancelStaging_slots]
    rcases clearCommitted_fold_slots (List.range cfg.dynamicSlotCount) s.dynamic slot with
      same | ⟨member, emptied⟩
    · rw [same]
      exact .kept
    · exact .cleared (by simpa [TextEvent.clears, slotIsValid] using member) emptied
  | checkExpiry nowMs rearmMs =>
    rw [step]
    exact .of_expiry rfl (congrFun DynamicStore.expireDue_slots slot)
  | executeSlot target nowMs rearmMs scheduled result =>
    have read : (TextEvent.executeSlot target nowMs rearmMs scheduled result).expiryMs =
        some nowMs := rfl
    rcases executeSlot_cases step with
      ⟨_, left, _⟩ | ⟨entry, handed, same, _, kept, _, ⟨accepted, policy, left⟩ | ⟨_, left⟩⟩
    · refine .of_expiry read ?_
      rw [left, DynamicStore.expireDue_slots]
    · rw [left, DynamicStore.rearmTtl_slots]
      by_cases here : slot = target
      · subst here
        refine .consumed ?_ (by rw [← same]; exact policy) ?_
        · subst accepted
          rw [accepts, handed]
          simp
        · simpa [DynamicStore.clearCommitted] using clearedSlot_emptied _
      · refine .of_expiry read ?_
        simp [DynamicStore.clearCommitted, here]
    · refine .of_expiry read ?_
      rw [left, DynamicStore.expireDue_slots]
  | reset =>
    rw [step]
    change SlotEffect _ _ _ _ ((s.dynamic.reset cfg).slots slot)
    by_cases valid : slotIsValid cfg slot = true
    · refine .cleared valid ?_
      simp only [DynamicStore.reset, DynamicStore.cancelStaging_slots, valid, if_true]
      exact ⟨rfl, rfl, rfl, rfl⟩
    · have same : (s.dynamic.reset cfg).slots slot = s.dynamic.slots slot := by
        simp [DynamicStore.reset, DynamicStore.cancelStaging_slots, valid]
      rw [same]
      exact .kept
  | ttlWork nowMs rearmMs =>
    rw [step]
    change SlotEffect _ _ _ _ ((s.dynamic.ttlWorkHandler cfg nowMs rearmMs).slots slot)
    unfold DynamicStore.ttlWorkHandler
    dsimp only
    rw [DynamicStore.rearmTtl_slots]
    split
    · exact .of_expiry rfl (congrFun DynamicStore.expireDue_slots slot)
    · exact .kept
  | executorStart text length scheduled result =>
    rw [step.2]
    exact .kept
  | executorWork scheduled =>
    rw [step]
    exact .kept

/-- Until its slot is committed to again, a text is there as it was or gone for
good. -/
theorem step_keeps_or_empties {entry : DynamicSlot}
    (here : s.dynamic.slots slot = entry ∨ Emptied (s.dynamic.slots slot))
    (uncommitted : ¬ Commits cfg slot s event) (step : TextStep cfg s event s') :
    s'.dynamic.slots slot = entry ∨ Emptied (s'.dynamic.slots slot) := by
  have effect := step_slot step slot
  generalize s'.dynamic.slots slot = left at effect
  cases effect with
  | kept => exact here
  | expired _ _ emptied | cleared _ emptied | consumed _ _ emptied => exact Or.inr emptied
  | committed made target => exact absurd ⟨_, made, target⟩ uncommitted

theorem Emptied.step (emptied : Emptied (s.dynamic.slots slot))
    (uncommitted : ¬ Commits cfg slot s event) (step : TextStep cfg s event s') :
    Emptied (s'.dynamic.slots slot) := by
  rcases step_keeps_or_empties (Or.inl rfl) uncommitted step with same | gone
  · rw [same]
    exact emptied
  · exact gone

/-! ## What every run keeps -/

/-- An upload that is under way has passed the checks of its begin. -/
def Staged (d : DynamicStore) : Prop :=
  d.stagingActive = true → 1 ≤ d.stagingTtlSeconds ∧ d.stagingExpectedLength ≤ executorMaxTextLen

theorem Staged.of_idle {d : DynamicStore} (idle : d.stagingActive = false) : Staged d := by
  intro active
  cases idle.symm.trans active

theorem Staged.quiet {d d' : DynamicStore} (staged : Staged d) (quiet : d.Quiet d') :
    Staged d' := by
  intro active
  rcases quiet.staging with same | idle
  · have before : d.stagingActive = true := by
      have kept := congrArg DynamicStore.Staging.active same
      exact kept.symm.trans active
    obtain ⟨ttl, fits⟩ := staged before
    have sameTtl : d'.stagingTtlSeconds = d.stagingTtlSeconds :=
      congrArg DynamicStore.Staging.ttlSeconds same
    have sameLength : d'.stagingExpectedLength = d.stagingExpectedLength :=
      congrArg DynamicStore.Staging.expectedLength same
    rw [sameTtl, sameLength]
    exact ⟨ttl, fits⟩
  · cases idle.symm.trans active

theorem Staged.begin (cfg : Config) (slot total ttl : Nat) (consume : Bool) (d : DynamicStore)
    {maxLength : Nat} (fits : maxLength ≤ executorMaxTextLen) :
    Staged (DynamicStore.beginLocked cfg slot total maxLength ttl consume d).2 := by
  unfold DynamicStore.beginLocked
  split
  · exact .of_idle rfl
  next checked =>
    simp only [not_or, Nat.not_lt, dynamicMinTtlSeconds] at checked
    exact fun _ => ⟨checked.2.2.2.1, Nat.le_trans checked.2.2.1 fits⟩

theorem Staged.step (staged : Staged s.dynamic) (step : TextStep cfg s event s') :
    Staged s'.dynamic := by
  cases event with
  | beginSlot target total ttl consume nowMs result =>
    have begun : DynamicStore.beginLocked cfg target total dynamicSlotMaxTextLen ttl consume
        (expireDue cfg nowMs s.dynamic) = (result, s'.dynamic) := step.1
    have checked := Staged.begin cfg target total ttl consume (expireDue cfg nowMs s.dynamic)
      (Nat.le_refl dynamicSlotMaxTextLen)
    rw [begun] at checked
    exact checked
  | beginWithOptions total ttl consume nowMs result =>
    have begun : DynamicStore.beginLocked cfg dynamicLegacySlot total dynamicMaxTextLen ttl consume
        (expireDue cfg nowMs s.dynamic) = (result, s'.dynamic) := step.1
    have checked := Staged.begin cfg dynamicLegacySlot total ttl consume
      (expireDue cfg nowMs s.dynamic) (show dynamicMaxTextLen ≤ executorMaxTextLen by decide)
    rw [begun] at checked
    exact checked
  | appendSlot target offset data nowMs commitMs rearmMs result =>
    have expired := staged.quiet (DynamicStore.expireDue_quiet cfg nowMs s.dynamic)
    have appended : s.dynamic.appendSlot cfg target offset data nowMs commitMs rearmMs =
        (result, s'.dynamic) := step.1
    by_cases taken : (s.dynamic.appendSlot cfg target offset data nowMs commitMs rearmMs).1 = 0
    · obtain ⟨valid, made⟩ := DynamicStore.appendSlot_taken taken
      rw [appended] at made
      rw [show s'.dynamic = _ from made]
      split
      · exact .of_idle rfl
      · exact fun _ => expired valid.active
    · rcases DynamicStore.appendSlot_refused taken with kept | cancelled
      · rw [appended] at kept
        rw [show s'.dynamic = _ from kept]
        exact expired
      · rw [appended] at cancelled
        rw [show s'.dynamic = _ from cancelled]
        exact .of_idle rfl
  | cancelStaging nowMs =>
    rw [step]
    exact .of_idle rfl
  | clearSlot target rearmMs =>
    rw [step]
    exact staged.quiet (DynamicStore.clearSlot_quiet ..)
  | clearAll rearmMs =>
    rw [step]
    exact staged.quiet (DynamicStore.clearAll_quiet ..)
  | checkExpiry nowMs rearmMs =>
    rw [step]
    exact staged.quiet ((DynamicStore.expireDue_quiet ..).trans (DynamicStore.rearmTtl_quiet ..))
  | executeSlot target nowMs rearmMs scheduled result =>
    have quiet := DynamicStore.executeSlot_quiet cfg target nowMs rearmMs scheduled s.dynamic
      s.executor
    have executed : s.dynamic.executeSlot cfg target nowMs rearmMs scheduled s.executor =
      (result, s'.dynamic, s'.executor) := step
    rw [executed] at quiet
    exact staged.quiet quiet
  | reset =>
    rw [step]
    exact .of_idle rfl
  | ttlWork nowMs rearmMs =>
    rw [step]
    exact staged.quiet (DynamicStore.ttlWorkHandler_quiet ..)
  | executorStart text length scheduled result =>
    rw [step.2]
    exact staged
  | executorWork scheduled =>
    rw [step]
    exact staged

theorem commitOf_sound {commit : Commit} (staged : Staged s.dynamic)
    (step : TextStep cfg s event s') (made : commitOf cfg s event = some commit) :
    1 ≤ commit.ttlSeconds ∧ commit.length ≤ executorMaxTextLen ∧
      commit.atMs ∈ event.readings := by
  cases event with
  | appendSlot target offset data nowMs commitMs rearmMs result =>
    simp only [commitOf, Option.ite_none_right_eq_some, Option.some.injEq] at made
    obtain ⟨⟨rfl, complete⟩, rfl⟩ := made
    have expired := staged.quiet (DynamicStore.expireDue_quiet cfg nowMs s.dynamic)
    obtain ⟨valid, _⟩ := DynamicStore.appendSlot_taken (congrArg Prod.fst step.1)
    obtain ⟨ttl, fits⟩ := expired valid.active
    exact ⟨ttl, fits, by simp [TextEvent.readings]⟩
  | _ => cases made

theorem commit_holds {commit : Commit} (step : TextStep cfg s event s')
    (made : commitOf cfg s event = some commit) :
    Holds commit (s'.dynamic.slots commit.slot) := by
  cases event with
  | appendSlot target offset data nowMs commitMs rearmMs result =>
    simp only [commitOf, Option.ite_none_right_eq_some, Option.some.injEq] at made
    obtain ⟨⟨rfl, complete⟩, rfl⟩ := made
    have appended : s.dynamic.appendSlot cfg target offset data nowMs commitMs rearmMs =
        (0, s'.dynamic) := step.1
    obtain ⟨valid, result⟩ := DynamicStore.appendSlot_taken (congrArg Prod.fst appended)
    have staged : (DynamicStore.appended offset data
        (expireDue cfg nowMs s.dynamic)).stagingSlot = target := valid.slot.symm
    have whole : (DynamicStore.appended offset data
        (expireDue cfg nowMs s.dynamic)).stagingReceived =
          (expireDue cfg nowMs s.dynamic).stagingExpectedLength := complete
    rw [if_pos whole, appended] at result
    rw [show s'.dynamic = _ from result, DynamicStore.commit_slots, staged, Function.update_self]
    exact ⟨rfl, rfl, rfl, rfl⟩
  | _ => cases made

/-- Every text fits the executor and has a deadline. -/
structure Bounded (d : DynamicStore) : Prop where
  fits : ∀ slot, (d.slots slot).committedLength ≤ executorMaxTextLen
  timed : ∀ slot, (d.slots slot).committedValid = true → 0 < (d.slots slot).ttlDeadlineMs

theorem Bounded.step (bounded : Bounded s.dynamic) (staged : Staged s.dynamic)
    (uptime : ∀ reading ∈ event.readings, 0 ≤ reading) (step : TextStep cfg s event s') :
    Bounded s'.dynamic := by
  have emptied : ∀ entry, Emptied entry → entry.committedLength ≤ executorMaxTextLen ∧
      (entry.committedValid = true → 0 < entry.ttlDeadlineMs) := by
    intro entry gone
    rw [gone.length, gone.valid]
    exact ⟨Nat.zero_le _, fun impossible => by cases impossible⟩
  have both : ∀ slot, (s'.dynamic.slots slot).committedLength ≤ executorMaxTextLen ∧
      ((s'.dynamic.slots slot).committedValid = true →
        0 < (s'.dynamic.slots slot).ttlDeadlineMs) := by
    intro slot
    have effect := step_slot step slot
    generalize s'.dynamic.slots slot = entry at effect
    cases effect with
    | kept => exact ⟨bounded.fits slot, bounded.timed slot⟩
    | expired _ _ gone | cleared _ gone | consumed _ _ gone => exact emptied _ gone
    | committed made _ holds =>
      obtain ⟨ttl, fits, read⟩ := commitOf_sound staged step made
      have early := uptime _ read
      rw [holds.length, holds.deadline]
      refine ⟨fits, fun _ => ?_⟩
      unfold Commit.deadlineMs
      omega
  exact ⟨fun slot => (both slot).1, fun slot => (both slot).2⟩

theorem run_bounded (run : Run (TextStep cfg) .boot events s) (uptime : Uptime events) :
    Staged s.dynamic ∧ Bounded s.dynamic := by
  have allowed : ∀ event ∈ events, ∀ reading ∈ event.readings, 0 ≤ reading := by
    intro event member reading read
    exact uptime.2 reading (List.mem_flatMap.mpr ⟨event, member, read⟩)
  refine run.invariant_of (fun s => Staged s.dynamic ∧ Bounded s.dynamic)
    ⟨.of_idle rfl, ?_⟩ allowed ?_
  · exact ⟨fun _ => Nat.zero_le _, fun _ valid => by cases valid⟩
  · intro _ _ _ sound uptime step
    exact ⟨sound.1.step step, sound.2.step sound.1 uptime step⟩

end Steps

end RuntimeMacro.Source
