import RuntimeMacro.Source.SlotThreads

/-!
# Concurrent slot updates

runtime_macro.c:111-177. However the calls of any number of threads interleave:
RAM holds the text of the update that changed it last, a copy is the text of
one update, and while nobody is in an update the stored text of a slot is that
of RAM when its last update returned 0.
-/
namespace RuntimeMacro.Guarantees.UpdateOrder
open Source Source.SlotThreads Foundations Foundations.Runs
open SlotStore (slotIsValid)

variable {cfg : Config} {initial : Nat → List UInt8} {start final : Machine}
  {events : List ThreadEvent} {slot : Nat}

/-- The text an event puts in the slot. -/
def puts (slot : Nat) : ThreadEvent → Option (List UInt8)
  | .changeRam _ update => if update.slot = slot then some update.text else none
  | _ => none

/-- The result of an update of the slot that ends with the event. -/
def returns (slot : Nat) : ThreadEvent → Option Int
  | .unlock _ update err => if update.slot = slot then some err else none
  | _ => none

/-- The text of the latest update that has passed its RAM step, or the one the
slot had. -/
def ramText (initial : Nat → List UInt8) (slot : Nat) (events : List ThreadEvent) : List UInt8 :=
  ((events.filterMap (puts slot)).getLast?).getD (initial slot)

/-- The result of the last update of the slot, in the order of the update
mutex. -/
def lastResult (slot : Nat) (events : List ThreadEvent) : Option Int :=
  (events.filterMap (returns slot)).getLast?

theorem latestValue_seen (slot : Nat) (events : List ThreadEvent) :
    WriteThrough.latestValue slot (events.filterMap seen) =
      (events.filterMap (puts slot)).getLast? := by
  have same : (fun event => (seen event).bind (WriteThrough.publishes slot)) = puts slot := by
    funext event
    cases event <;> rfl
  rw [WriteThrough.latestValue, List.filterMap_filterMap, same]

theorem latestOutcome_seen (slot : Nat) (events : List ThreadEvent) :
    WriteThrough.latestOutcome slot (events.filterMap seen) =
      (lastResult slot events).map fun err => decide (err = 0) := by
  have same : (fun event => (seen event).bind (WriteThrough.finishes slot)) =
      fun event => (returns slot event).map fun err => decide (err = 0) := by
    funext event
    cases event with
    | unlock thread update err =>
      by_cases here : update.slot = slot
      · simp [seen, WriteThrough.finishes, returns, Update.write, here]
      · simp [seen, WriteThrough.finishes, returns, Update.write, here]
    | _ => rfl
  rw [WriteThrough.latestOutcome, List.filterMap_filterMap, same, lastResult,
    ← List.getLast?_map, List.map_filterMap]

/-- RAM after any run. -/
theorem run_holds (settled : Settled cfg initial start)
    (run : Run (ThreadStep cfg) start events final) (valid : slotIsValid cfg slot = true) :
    SlotStore.HoldsText final.store slot (ramText initial slot events) := by
  obtain ⟨s, abstract, represents⟩ := run_writesThrough settled run
  have memory := WriteThrough.run_memory abstract rfl slot
  rw [latestValue_seen] at memory
  have holds := represents.memory slot valid
  rw [memory] at holds
  exact holds

theorem run_stored (settled : Settled cfg initial start)
    (run : Run (ThreadStep cfg) start events final) (free : final.owner = none)
    (valid : slotIsValid cfg slot = true) (succeeded : lastResult slot events = some 0) :
    storedText final.settings slot = ramText initial slot events := by
  obtain ⟨s, abstract, represents⟩ := run_writesThrough settled run
  have outcome : WriteThrough.latestOutcome slot (events.filterMap seen) = some true := by
    rw [latestOutcome_seen, succeeded]
    rfl
  have memory := WriteThrough.run_memory abstract rfl slot
  rw [latestValue_seen] at memory
  rw [represents.storage slot valid,
    WriteThrough.run_agreed abstract rfl (represents.free free) outcome, memory]
  rfl

/-- A copy hands out the text with its terminator, and its length. -/
theorem slotCopy_of_holds {store : SlotStore} {text bytes : List UInt8} {textSize length : Nat}
    (copied : store.slotCopy cfg slot textSize = .ok (bytes, length)) :
    slotIsValid cfg slot = true ∧ (SlotStore.HoldsText store slot text →
      bytes = text ++ [0] ∧ length = text.length) := by
  unfold SlotStore.slotCopy at copied
  split at copied
  · cases copied
  next inside =>
    dsimp only at copied
    split at copied
    · cases copied
    · cases copied
      refine ⟨by simpa using inside, fun holds => ⟨?_, holds.length⟩⟩
      rw [holds.length]
      exact holds.bytes

theorem slotGetLength_of_holds {store : SlotStore} {text : List UInt8} {length : Nat}
    (read : store.slotGetLength cfg slot = .ok length) :
    slotIsValid cfg slot = true ∧
      (SlotStore.HoldsText store slot text → length = text.length) := by
  unfold SlotStore.slotGetLength at read
  split at read
  · cases read
  next inside =>
    cases read
    exact ⟨by simpa using inside, SlotStore.HoldsText.length⟩

/-- The text in RAM. -/
def textOf (store : SlotStore) (slot : Nat) : List UInt8 :=
  (store.slots slot).text.take (store.slots slot).length

theorem textOf_of_holds {store : SlotStore} {text : List UInt8}
    (holds : SlotStore.HoldsText store slot text) : textOf store slot = text := by
  have front := congrArg (List.take text.length) holds.bytes
  rw [List.take_take, Nat.min_eq_left (Nat.le_succ _), List.take_left] at front
  rw [textOf, holds.length]
  exact front

/-- The whole text of one update of the slot in the history, or the one it had
before any. -/
def OfOne (initial : Nat → List UInt8) (slot : Nat) (events : List ThreadEvent)
    (text : List UInt8) : Prop :=
  (∃ thread update, .changeRam thread update ∈ events ∧ update.slot = slot ∧
      text = update.text) ∨
    (text = initial slot ∧ ∀ event ∈ events, puts slot event = none)

/-- The text of a slot is that of one single update, or the initial one. -/
theorem ramText_ofOne (initial : Nat → List UInt8) (slot : Nat) (events : List ThreadEvent) :
    OfOne initial slot events (ramText initial slot events) := by
  unfold ramText
  cases last : (events.filterMap (puts slot)).getLast? with
  | none =>
    apply Or.inr
    refine ⟨rfl, fun event member => ?_⟩
    rw [List.getLast?_eq_none_iff] at last
    exact List.filterMap_eq_nil_iff.mp last event member
  | some text =>
    apply Or.inl
    obtain ⟨event, member, put⟩ := List.mem_filterMap.mp (List.mem_of_getLast? last)
    cases event with
    | changeRam thread update =>
      simp only [puts, Option.ite_none_right_eq_some, Option.some.injEq] at put
      exact ⟨thread, update, member, put.1, put.2.symm⟩
    | _ => cases put

/-- Whenever the update mutex is free, the stored text of a slot whose last
update returned 0 is the one in RAM; RAM holds the text of the latest update
that has passed its RAM step; a copy and a length query answer with the text of
one single update, the latest. -/
theorem updates_agree (settled : Settled cfg initial start)
    (run : Run (ThreadStep cfg) start events final) :
    (final.owner = none → ∀ slot, slotIsValid cfg slot = true → lastResult slot events = some 0 →
      storedText final.settings slot = textOf final.store slot) ∧
    (∀ slot, slotIsValid cfg slot = true →
      textOf final.store slot = ramText initial slot events ∧
        (final.store.slots slot).length = (ramText initial slot events).length) ∧
    (∀ front back slot textSize bytes length,
      events = front ++ .copy slot textSize (.ok (bytes, length)) :: back →
        OfOne initial slot front (ramText initial slot front) ∧
          bytes = ramText initial slot front ++ [0] ∧
          length = (ramText initial slot front).length) ∧
    ∀ front back slot length, events = front ++ .getLength slot (.ok length) :: back →
      length = (ramText initial slot front).length := by
  refine ⟨?_, ?_, ?_, ?_⟩
  · intro free slot valid succeeded
    rw [textOf_of_holds (run_holds settled run valid)]
    exact run_stored settled run free valid succeeded
  · intro slot valid
    have holds := run_holds settled run valid
    exact ⟨textOf_of_holds holds, holds.length⟩
  · rintro front back slot textSize bytes length rfl
    obtain ⟨before, after, earlier, ⟨copied, _⟩, _⟩ := run.around
    obtain ⟨valid, same⟩ := slotCopy_of_holds copied
    exact ⟨ramText_ofOne initial slot front, same (run_holds settled earlier valid)⟩
  · rintro front back slot length rfl
    obtain ⟨before, after, earlier, ⟨read, _⟩, _⟩ := run.around
    obtain ⟨valid, same⟩ := slotGetLength_of_holds read
    exact same (run_holds settled earlier valid)

/-! ## A clear that waits for a set of the same slot -/

def sampleStart : Machine := ⟨.boot .default, .empty, none, fun _ => .idle⟩

theorem sampleStart_settled : Settled .default (fun _ => []) sampleStart := by
  refine ⟨SlotStore.boot_sized _, fun slot _ => ⟨?_, rfl⟩, rfl, fun _ => rfl⟩
  exact List.take_replicate ..

/-- A SET and a CLEAR of slot 1 by two threads. The first to get the mutex
cannot save its text. -/
def sampleEvents : List ThreadEvent :=
  [.call 0 (.set 1 [97, 98]), .call 1 (.clear 1), .lock 0 (.set 1 [97, 98]),
    .changeRam 0 (.set 1 [97, 98]), .copy 1 65 (.ok ([97, 98, 0], 2)),
    .persist 0 (.set 1 [97, 98]) (-eio), .unlock 0 (.set 1 [97, 98]) (-eio),
    .lock 1 (.clear 1), .changeRam 1 (.clear 1), .persist 1 (.clear 1) 0, .unlock 1 (.clear 1) 0]

theorem sample_run : ∃ final, Run (ThreadStep .default) sampleStart sampleEvents final ∧
    final.owner = none := by
  refine ⟨_, .cons ⟨rfl, by decide, rfl⟩ <| .cons ⟨rfl, by decide, rfl⟩ <|
    .cons ⟨rfl, rfl, rfl⟩ <| .cons ⟨rfl, rfl⟩ <| .cons ⟨?_, rfl⟩ <| .cons ⟨_, rfl, rfl⟩ <|
    .cons ⟨rfl, rfl⟩ <| .cons ⟨rfl, rfl, rfl⟩ <| .cons ⟨rfl, rfl⟩ <| .cons ⟨_, rfl, rfl⟩ <|
    .single ⟨rfl, rfl⟩, rfl⟩
  rfl

/-- The SET fails to be stored and the CLEAR behind it succeeds, so the empty
text is on both sides. -/
theorem updates_agree_sample : ∃ final, Run (ThreadStep .default) sampleStart sampleEvents final ∧
    storedText final.settings 1 = textOf final.store 1 := by
  obtain ⟨final, run, free⟩ := sample_run
  exact ⟨final, run, (updates_agree sampleStart_settled run).1 free 1 (by decide) (by decide)⟩

end RuntimeMacro.Guarantees.UpdateOrder
