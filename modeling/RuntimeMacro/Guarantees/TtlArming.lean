import RuntimeMacro.Guarantees.StoreInvariant
import RuntimeMacro.Source.TtlWork

/-!
# The work item is always armed in time

runtime_macro_dynamic.c:68-169. Only some of the calls that remove or replace
deadlines re-arm the work item, and others expire texts silently. Its pending
time never lies after the earliest deadline all the same.
-/
namespace RuntimeMacro.Guarantees.TtlArming
open Source Foundations.Runs StoreInvariant
open DynamicStore (Committed Earliest InTime Timed)

variable {cfg : Config} {s s' : Armament}

namespace ArmEvent

/-- The call a step makes; the pending time coming is none. -/
def call? : ArmEvent → Option TextEvent
  | .call event => some event
  | .fire => none
  | .handler nowMs rearmMs => some (.ttlWork nowMs rearmMs)

end ArmEvent

/-- The clock counts from boot. -/
def Counted (step : ArmEvent) : Prop :=
  ∀ event, ArmEvent.call? step = some event → ∀ reading ∈ event.readings, 0 ≤ reading

/-- The step re-arms the work item. -/
def Rearms (cfg : Config) (s : Armament) (step : ArmEvent) : Prop :=
  ∃ event, ArmEvent.call? step = some event ∧ (rearmedMs cfg s.texts event).isSome = true

theorem timed_of_shape {d : DynamicStore} (shape : StoreShape cfg d) : d.Timed cfg := by
  intro slot committed
  cases shape.slots slot committed.1 with
  | valid _ _ _ _ deadline => exact deadline
  | invalid gone => exact absurd (gone.symm.trans committed.2) (by decide)

theorem reset_uncommitted (d : DynamicStore) (slot : Nat) : ¬ (d.reset cfg).Committed cfg slot := by
  rintro ⟨inside, valid⟩
  have entry : (d.reset cfg).slots slot =
      { DynamicStore.clearedSlot (d.slots slot) with ttlGeneration := 0 } :=
    if_pos (by simpa [DynamicStore.slotIsValid] using inside)
  rw [entry] at valid
  cases valid

/-- The store keeps its shape, and with no run waiting the work item is in
time. -/
structure Armed (cfg : Config) (s : Armament) : Prop where
  shape : StoreShape cfg s.texts.dynamic
  inTime : s.waiting = 0 → s.texts.dynamic.InTime cfg s.armedMs

/-- A call that re-arms schedules the item for the earliest deadline; one that
does not leaves the item and brings no text. -/
theorem calls_armed {event : TextEvent} {waiting : Nat} (shape : StoreShape cfg s.texts.dynamic)
    (inTime : waiting = 0 → (rearmedMs cfg s.texts event).isSome = true ∨
      s.texts.dynamic.InTime cfg s.armedMs)
    (counted : ∀ reading ∈ event.readings, 0 ≤ reading) (calls : Calls cfg s waiting event s') :
    Armed cfg s' := by
  obtain ⟨step, last, waits⟩ := calls
  have shape' := step_shape shape counted step
  refine ⟨shape', fun none => ?_⟩
  cases step_work step with
  | kept unarmed notReset work fewer =>
    have same : s'.waiting = waiting := by
      rcases waits with same | ⟨_, _, reset | rearmed⟩
      · exact same
      · exact absurd reset notReset
      · simp [unarmed] at rearmed
    rw [unarmed] at last
    rcases inTime (same ▸ none) with rearmed | before
    · simp [unarmed] at rearmed
    · rw [last]
      exact before.fewer work fewer
  | @rearmed nowMs before at' left =>
    rw [at'] at last
    rw [left] at shape' ⊢
    rw [last]
    have after := timed_of_shape shape'
    have timed : before.Timed cfg := after
    exact (DynamicStore.rearmTtl_inTime timed nowMs).1
  | reset isReset left =>
    rw [left]
    intro slot committed
    exact absurd committed (reset_uncommitted _ slot)

/-- A call, the timer running out, or the handler, which re-arms in any
case. -/
theorem step_armed {event : ArmEvent} (armed : Armed cfg s) (counted : Counted event)
    (step : ArmStep cfg s event s') : Armed cfg s' := by
  cases event with
  | call event =>
    have inTime : s.waiting = 0 → (rearmedMs cfg s.texts event).isSome = true ∨ _ :=
      fun none => Or.inr (armed.inTime none)
    exact calls_armed armed.shape inTime (counted event rfl) step.2
  | fire =>
    obtain ⟨_, rfl⟩ := step
    refine ⟨⟨armed.shape.slots, ?_⟩, fun none => absurd none (Nat.succ_ne_zero _)⟩
    cases armed.shape.staging with
    | active staged slot received fits ttl typed =>
      exact .active staged slot received fits ttl typed
    | idle staged bytes slot expected received ttl policy =>
      exact .idle staged bytes slot expected received ttl policy
  | handler nowMs rearmMs =>
    obtain ⟨others, _, calls⟩ := step
    exact calls_armed armed.shape (fun _ => Or.inl rfl) (counted _ rfl) calls

/-- A call that re-arms and leaves no text leaves the work item unscheduled. -/
theorem calls_unscheduled {event : TextEvent} {waiting : Nat}
    (shape : StoreShape cfg s.texts.dynamic) (counted : ∀ reading ∈ event.readings, 0 ≤ reading)
    (calls : Calls cfg s waiting event s') (rearms : (rearmedMs cfg s.texts event).isSome = true)
    (empty : ∀ slot, ¬ s'.texts.dynamic.Committed cfg slot) :
    s'.texts.dynamic.ttlWork = none := by
  have shape' := step_shape shape counted calls.1
  cases step_work calls.1 with
  | kept unarmed => simp [unarmed] at rearms
  | @rearmed nowMs before _ left =>
    rw [left] at shape' empty ⊢
    have after := timed_of_shape shape'
    have timed : before.Timed cfg := after
    exact (DynamicStore.rearmTtl_inTime timed nowMs).2 empty
  | reset _ left =>
    rw [left]
    rfl

/-- Whenever no run of the handler waits and a text is there, the work item is
scheduled no later than the earliest deadline, or at most a millisecond after
its last arming when that deadline had passed by then; a step that re-arms and
leaves no text leaves it unscheduled. -/
theorem work_armed_in_time {store : DynamicStore} {executor : Executor} {armedMs : Int}
    {events : List ArmEvent}
    (run : Run (ArmStep cfg) ⟨⟨store.reset cfg, executor⟩, 0, armedMs⟩ events s)
    (counted : ∀ event ∈ events, Counted event) :
    (s.waiting = 0 → ∀ slot, s.texts.dynamic.Committed cfg slot →
      ∃ earliest atMs, s.texts.dynamic.Earliest cfg earliest ∧
        s.texts.dynamic.ttlWork = some atMs ∧
        (atMs ≤ earliest ∨ (earliest ≤ s.armedMs ∧ atMs ≤ s.armedMs + 1))) ∧
    ∀ event s', Counted event → ArmStep cfg s event s' → Rearms cfg s event →
      (∀ slot, ¬ s'.texts.dynamic.Committed cfg slot) → s'.texts.dynamic.ttlWork = none := by
  have armed : Armed cfg s := by
    apply run.invariant_of (Armed cfg) _ counted
    · intro s event s' armed counted step
      exact step_armed armed counted step
    · exact ⟨reset_shape store, fun _ slot committed =>
        absurd committed (reset_uncommitted store slot)⟩
  constructor
  · intro none slot committed
    rcases DynamicStore.earliestDeadline_cases (timed_of_shape armed.shape) with
      ⟨_, empty⟩ | ⟨_, earliest⟩
    · exact absurd committed (empty slot)
    · obtain ⟨first, there, attained⟩ := earliest.attained
      obtain ⟨atMs, scheduled, inTime⟩ := armed.inTime none first there
      rw [attained] at inTime
      exact ⟨_, atMs, earliest, scheduled, inTime⟩
  · intro event s' counted step rearms empty
    obtain ⟨called, same, rearms⟩ := rearms
    cases event with
    | call event =>
      cases same
      exact calls_unscheduled armed.shape (counted _ rfl) step.2 rearms empty
    | fire => cases same
    | handler nowMs rearmMs =>
      cases same
      obtain ⟨_, _, calls⟩ := step
      exact calls_unscheduled armed.shape (counted _ rfl) calls rearms empty

/-! ## A text replaced by one with a shorter life, and a late run of the handler -/

def sampleStart : Armament := ⟨⟨DynamicStore.boot.reset .default, .idle⟩, 0, 0⟩

/-- A call that leaves every waiting run alone. -/
def called (s : Armament) (event : TextEvent)
    (executed : (textNext .default s.texts event).isSome) : Armament :=
  ⟨textAfter .default s.texts event executed, s.waiting,
    (rearmedMs .default s.texts event).getD s.armedMs⟩

theorem called_step (s : Armament) (event : TextEvent)
    (executed : (textNext .default s.texts event).isSome)
    (entry : ∀ nowMs rearmMs, event ≠ .ttlWork nowMs rearmMs) :
    ArmStep .default s (.call event) (called s event executed) :=
  ⟨entry, textAfter_step .default s.texts event executed, rfl, Or.inl rfl⟩

def sampleBegin (ttlSeconds : Nat) (nowMs : Int) : TextEvent :=
  .beginSlot 1 1 ttlSeconds false nowMs 0

def sampleAppend (byte : UInt8) (nowMs : Int) : TextEvent :=
  .appendSlot 1 0 [byte] nowMs (nowMs + 1) (nowMs + 2) 0

def sampleLong : Armament :=
  called (called sampleStart (sampleBegin 60 0) (by decide +kernel)) (sampleAppend 97 1)
    (by decide +kernel)

def sampleShort : Armament :=
  called (called sampleLong (sampleBegin 5 10) (by decide +kernel)) (sampleAppend 98 11)
    (by decide +kernel)

/-- Two uploads to slot 1, the second with an earlier deadline. -/
def sampleEvents : List TextEvent :=
  [sampleBegin 60 0, sampleAppend 97 1, sampleBegin 5 10, sampleAppend 98 11]

theorem sample_run :
    Run (ArmStep .default) sampleStart (sampleEvents.map .call) sampleShort := by
  have begin : ∀ s ttlSeconds nowMs executed,
      ArmStep .default s (.call (sampleBegin ttlSeconds nowMs))
        (called s (sampleBegin ttlSeconds nowMs) executed) := fun s _ _ executed =>
    called_step s _ executed (by unfold sampleBegin; exact fun _ _ => nofun)
  have append : ∀ s byte nowMs executed,
      ArmStep .default s (.call (sampleAppend byte nowMs))
        (called s (sampleAppend byte nowMs) executed) := fun s _ _ executed =>
    called_step s _ executed (by unfold sampleAppend; exact fun _ _ => nofun)
  exact .cons (begin ..) (.cons (append ..) (.cons (begin ..) (.single (append ..))))

/-- The second commit moves the work item forward to the deadline of its own
text. -/
theorem work_armed_in_time_sample : ∃ earliest atMs,
    sampleShort.texts.dynamic.Earliest .default earliest ∧
      sampleShort.texts.dynamic.ttlWork = some atMs ∧
      (atMs ≤ earliest ∨ (earliest ≤ sampleShort.armedMs ∧ atMs ≤ sampleShort.armedMs + 1)) := by
  apply (work_armed_in_time sample_run ?_).1 rfl 1
  · exact ⟨by decide, by decide +kernel⟩
  · have counted : ∀ event ∈ sampleEvents, ∀ reading ∈ event.readings, 0 ≤ reading := by
      decide
    intro event member text same
    obtain ⟨inner, listed, rfl⟩ := List.mem_map.mp member
    cases same
    exact counted text listed

end RuntimeMacro.Guarantees.TtlArming
