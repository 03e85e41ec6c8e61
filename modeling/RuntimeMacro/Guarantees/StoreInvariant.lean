import RuntimeMacro.Source.TextRuns

/-!
# What every state of the dynamic store looks like

runtime_macro_dynamic.c:102-204. Five pieces of code clear the staging or a
slot. Each leaves the same shape behind, so no byte of a text outlives it, and
the counts bound every copy.
-/
namespace RuntimeMacro.Guarantees.StoreInvariant
open Source Foundations Foundations.Runs
open DynamicStore (clearedSlot expireDue expiredSlots slotIsValid zeroBuffer)

/-- Bytes of the alphabet below `length`, zero bytes from there to the end. -/
abbrev Typed (length : Nat) (buffer : List UInt8) : Prop :=
  ByteBuffer.Padded (fun byte => Ascii.byteIsValid byte = true) 0 512 length buffer

/-- A committed text with a length, valid bytes and a deadline, or an empty
slot with zeros in all its bytes. -/
inductive SlotShape (entry : DynamicSlot) : Prop
  | valid (committed : entry.committedValid = true) (positive : 1 ≤ entry.committedLength)
      (fits : entry.committedLength ≤ 512) (typed : Typed entry.committedLength entry.committed)
      (deadline : 0 < entry.ttlDeadlineMs)
  | invalid (committed : entry.committedValid = false) (bytes : entry.committed = zeroBuffer)
      (length : entry.committedLength = 0) (deadline : entry.ttlDeadlineMs = 0)
      (policy : entry.committedConsumeOnAccept = true)

/-- An upload that is short of its length and has only valid bytes, or none
with zeros in the staging. -/
inductive StagingShape (cfg : Config) (s : DynamicStore) : Prop
  | active (staged : s.stagingActive = true) (slot : s.stagingSlot < cfg.dynamicSlotCount)
      (received : s.stagingReceived < s.stagingExpectedLength)
      (fits : s.stagingExpectedLength ≤ 512)
      (ttl : 1 ≤ s.stagingTtlSeconds ∧ s.stagingTtlSeconds ≤ 86400)
      (typed : Typed s.stagingReceived s.staging)
  | idle (staged : s.stagingActive = false) (bytes : s.staging = zeroBuffer)
      (slot : s.stagingSlot = 0) (expected : s.stagingExpectedLength = 0)
      (received : s.stagingReceived = 0) (ttl : s.stagingTtlSeconds = 0)
      (policy : s.stagingConsumeOnAccept = true)

/-- Every slot and the staging have their shape. -/
structure StoreShape (cfg : Config) (s : DynamicStore) : Prop where
  slots : ∀ slot, slot < cfg.dynamicSlotCount → SlotShape (s.slots slot)
  staging : StagingShape cfg s

/-! ## Copies -/

/-- A `memcpy` to `length` cells of a 512-byte buffer from `offset` on. -/
structure Copy where
  offset : Nat
  length : Nat

/-- The copies of `runtime_macro_dynamic_append_locked`: the chunk to the
staging and, when it completes the text, the staging to the slot. -/
def appendCopies (cfg : Config) (slot offset : Nat) (data : List UInt8) (s : DynamicStore) :
    List Copy :=
  if s.stagingActive = false then []
  else if slotIsValid cfg slot = false ∨ slot ≠ s.stagingSlot then []
  else if data.length = 0 ∨ offset ≠ s.stagingReceived ∨ offset > s.stagingExpectedLength ∨
      data.length > s.stagingExpectedLength - offset then []
  else if data.all Ascii.byteIsValid = false then []
  else if s.stagingReceived + data.length = s.stagingExpectedLength then
    [⟨offset, data.length⟩, ⟨0, s.stagingExpectedLength⟩]
  else [⟨offset, data.length⟩]

/-- The copies a call makes. Only appends copy into the store. -/
def copies (cfg : Config) (s : Texts) : TextEvent → List Copy
  | .appendSlot slot offset data nowMs _ _ _ =>
    appendCopies cfg slot offset data (expireDue cfg nowMs s.dynamic)
  | _ => []

variable {cfg : Config}

/-- An append copies exactly when it succeeds, since every check comes before
the copy. -/
theorem appendCopies_eq_nil_iff (slot offset : Nat) (data : List UInt8) (commitMs rearmMs : Int)
    (s : DynamicStore) : appendCopies cfg slot offset data s = [] ↔
      (s.appendLocked cfg slot offset data commitMs rearmMs).1 ≠ 0 := by
  unfold appendCopies DynamicStore.appendLocked
  split
  · simp [enoent]
  · split
    · simp [einval]
    · split
      · simp [einval]
      · split
        · simp [einval]
        · dsimp only
          split
          · simp
          · simp

/-! ## Slots -/

theorem clearedSlot_shape (entry : DynamicSlot) : SlotShape (clearedSlot entry) :=
  .invalid rfl rfl rfl rfl rfl

theorem SlotShape.size {entry : DynamicSlot} (shape : SlotShape entry) :
    entry.committed.length = 512 := by
  cases shape with
  | valid _ _ _ typed _ => exact typed.length
  | invalid _ bytes _ _ _ =>
    rw [bytes]
    exact List.length_replicate

section Store
variable {s s' : DynamicStore}

/-- Expiring a slot is a clear and maybe a cancelled staging, so the shape is
kept slot by slot. -/
theorem StoreShape.expireDue (shape : StoreShape cfg s) (nowMs : Int) :
    StoreShape cfg (DynamicStore.expireDue cfg nowMs s) := by
  constructor
  · intro slot inside
    rw [DynamicStore.expireDue_slots]
    rcases DynamicStore.expiredSlots_onlyExpired cfg nowMs s slot with same | ⟨_, emptied⟩
    · rw [same]
      exact shape.slots slot inside
    · rw [emptied]
      exact clearedSlot_shape _
  · rw [DynamicStore.expireDue_eq]
    split
    · exact .idle rfl rfl rfl rfl rfl rfl rfl
    · cases shape.staging with
      | active staged slot received fits ttl typed =>
        exact .active staged slot received fits ttl typed
      | idle staged bytes slot expected received ttl policy =>
        exact .idle staged bytes slot expected received ttl policy

theorem StoreShape.cancelStaging (shape : StoreShape cfg s) :
    StoreShape cfg s.cancelStaging :=
  ⟨shape.slots, .idle rfl rfl rfl rfl rfl rfl rfl⟩

theorem StoreShape.rearmTtl (shape : StoreShape cfg s) (nowMs : Int) :
    StoreShape cfg (s.rearmTtl cfg nowMs) := by
  refine ⟨shape.slots, ?_⟩
  cases shape.staging with
  | active staged slot received fits ttl typed =>
    exact .active staged slot received fits ttl typed
  | idle staged bytes slot expected received ttl policy =>
    exact .idle staged bytes slot expected received ttl policy

theorem StoreShape.update (shape : StoreShape cfg s) {slot : Nat} {entry : DynamicSlot}
    (slotShape : SlotShape entry) :
    StoreShape cfg { s with slots := Function.update s.slots slot entry } := by
  constructor
  · intro other inside
    by_cases same : other = slot
    · subst same
      simpa using slotShape
    · simpa [same] using shape.slots other inside
  · cases shape.staging with
    | active staged slot received fits ttl typed =>
      exact .active staged slot received fits ttl typed
    | idle staged bytes slot expected received ttl policy =>
      exact .idle staged bytes slot expected received ttl policy

theorem StoreShape.clearCommitted (shape : StoreShape cfg s) (slot : Nat) :
    StoreShape cfg (DynamicStore.clearCommitted slot s) :=
  shape.update (clearedSlot_shape _)

theorem StoreShape.expireSlot (shape : StoreShape cfg s) (slot : Nat) :
    StoreShape cfg (DynamicStore.expireSlot slot s) := by
  unfold DynamicStore.expireSlot
  dsimp only
  split
  · exact (shape.clearCommitted slot).cancelStaging
  · exact shape.clearCommitted slot

theorem StoreShape.clearSlot (shape : StoreShape cfg s) (slot : Nat) (rearmMs : Int) :
    StoreShape cfg (s.clearSlot cfg slot rearmMs) := by
  unfold DynamicStore.clearSlot
  split
  · exact shape
  · exact (shape.expireSlot slot).rearmTtl rearmMs

theorem StoreShape.clearAll (shape : StoreShape cfg s) (rearmMs : Int) :
    StoreShape cfg (s.clearAll cfg rearmMs) := by
  have cleared : ∀ (order : List Nat) (s : DynamicStore), StoreShape cfg s →
      StoreShape cfg (order.foldl (fun s slot => DynamicStore.clearCommitted slot s) s) := by
    intro order
    induction order with
    | nil => exact fun s shape => shape
    | cons slot order ih => exact fun s shape => ih _ (shape.clearCommitted slot)
  unfold DynamicStore.clearAll
  exact (cleared _ s shape).cancelStaging.rearmTtl rearmMs

/-- `reset` needs nothing of the state before. -/
theorem reset_shape (s : DynamicStore) : StoreShape cfg (s.reset cfg) := by
  constructor
  · intro slot inside
    have valid : slotIsValid cfg slot = true := by simpa [slotIsValid] using inside
    have emptied : (s.reset cfg).slots slot =
        { clearedSlot (s.slots slot) with ttlGeneration := 0 } := if_pos valid
    rw [emptied]
    exact .invalid rfl rfl rfl rfl rfl
  · exact .idle rfl rfl rfl rfl rfl rfl rfl

theorem StoreShape.begin (shape : StoreShape cfg s) (slot total ttl : Nat) (consume : Bool)
    {maxLength : Nat} (fits : maxLength ≤ 512) :
    StoreShape cfg (s.beginLocked cfg slot total maxLength ttl consume).2 := by
  unfold DynamicStore.beginLocked
  split
  · exact shape.cancelStaging
  next checked =>
    simp only [not_or, Nat.not_lt, Bool.not_eq_false, slotIsValid, decide_eq_true_eq,
      dynamicMinTtlSeconds, dynamicMaxTtlSeconds] at checked
    obtain ⟨inside, positive, short, atLeast, atMost⟩ := checked
    exact ⟨shape.slots, .active rfl inside (Nat.pos_of_ne_zero positive)
      (Nat.le_trans short fits) ⟨atLeast, atMost⟩ (.empty _ _ _)⟩

/-! ## Appends -/

/-- What an append that is taken finds: its slot exists, and the counts leave
room for it. -/
theorem StoreShape.room (shape : StoreShape cfg s) {slot offset : Nat} {data : List UInt8}
    (valid : DynamicStore.AppendValid cfg slot offset data s) :
    s.stagingExpectedLength ≤ 512 ∧ offset + data.length ≤ s.stagingExpectedLength ∧
      s.stagingSlot < cfg.dynamicSlotCount ∧ 1 ≤ s.stagingTtlSeconds ∧
      s.stagingTtlSeconds ≤ 86400 ∧ Typed offset s.staging := by
  cases shape.staging with
  | active staged slot received fits ttl typed =>
    rw [← valid.placed] at typed
    have inside := valid.inside
    have short := valid.fits
    exact ⟨fits, by omega, slot, ttl.1, ttl.2, typed⟩
  | idle staged => exact absurd (staged.symm.trans valid.active) (by decide)

theorem appended_typed (shape : StoreShape cfg s) {slot offset : Nat} {data : List UInt8}
    (valid : DynamicStore.AppendValid cfg slot offset data s) :
    Typed (s.stagingReceived + data.length) (s.appended offset data).staging := by
  obtain ⟨fits, inside, _, _, _, typed⟩ := shape.room valid
  have alphabet : ∀ byte ∈ data, Ascii.byteIsValid byte = true := by
    simpa using valid.alphabet
  rw [← valid.placed]
  exact typed.write (by omega) alphabet

theorem StoreShape.appended (shape : StoreShape cfg s) {slot offset : Nat} {data : List UInt8}
    (valid : DynamicStore.AppendValid cfg slot offset data s)
    (partly : (s.appended offset data).stagingReceived ≠ s.stagingExpectedLength) :
    StoreShape cfg (s.appended offset data) := by
  obtain ⟨fits, inside, target, atLeast, atMost, _⟩ := shape.room valid
  refine ⟨shape.slots, .active valid.active target ?_ fits ⟨atLeast, atMost⟩
    (appended_typed shape valid)⟩
  have placed := valid.placed
  change s.stagingReceived + data.length ≠ s.stagingExpectedLength at partly
  change s.stagingReceived + data.length < s.stagingExpectedLength
  omega

/-- A completed text replaces all bytes of the slot, because what is behind it
is blanked. -/
theorem StoreShape.commit (shape : StoreShape cfg s) {slot offset : Nat} {data : List UInt8}
    (valid : DynamicStore.AppendValid cfg slot offset data s)
    (complete : (s.appended offset data).stagingReceived = s.stagingExpectedLength)
    {commitMs : Int} (nonneg : 0 ≤ commitMs) (rearmMs : Int) :
    StoreShape cfg ((s.appended offset data).commit cfg commitMs rearmMs) := by
  obtain ⟨fits, inside, target, atLeast, _, _⟩ := shape.room valid
  have typed := appended_typed shape valid
  have whole : s.stagingReceived + data.length = s.stagingExpectedLength := complete
  rw [whole] at typed
  have nonempty := valid.nonempty
  unfold DynamicStore.commit
  apply StoreShape.rearmTtl
  refine ⟨?_, .idle rfl rfl rfl rfl rfl rfl rfl⟩
  have length : ((s.appended offset data).staging.take s.stagingExpectedLength).length =
      s.stagingExpectedLength := by
    rw [List.length_take, typed.length]
    omega
  have overwritten := @ByteBuffer.Padded.overwrite _ _ 0 _ _ _
    (shape.slots s.stagingSlot target).size (by rw [length]; exact fits) typed.front
  rw [length] at overwritten
  have entry : SlotShape (DynamicStore.committedSlot commitMs (s.slots s.stagingSlot)
      (s.appended offset data)) := by
    apply SlotShape.valid
    · rfl
    · change 1 ≤ s.stagingExpectedLength
      omega
    · exact fits
    · exact overwritten
    · change 0 < commitMs + (s.stagingTtlSeconds : Int) * 1000
      omega
  intro other here
  by_cases same : other = s.stagingSlot
  · subst same
    simpa [DynamicStore.appended] using entry
  · simpa [DynamicStore.appended, same] using shape.slots other here

theorem StoreShape.append (shape : StoreShape cfg s) (slot offset : Nat) (data : List UInt8)
    {commitMs : Int} (nonneg : 0 ≤ commitMs) (rearmMs : Int) :
    StoreShape cfg (s.appendLocked cfg slot offset data commitMs rearmMs).2 := by
  rcases DynamicStore.appendLocked_cases cfg slot offset data commitMs rearmMs s with
    ⟨_, _, kept | cancelled⟩ | ⟨valid, ⟨partly, left⟩ | ⟨complete, left⟩⟩
  · rw [kept]
    exact shape
  · rw [cancelled]
    exact shape.cancelStaging
  · rw [left]
    exact shape.appended valid partly
  · rw [left]
    exact shape.commit valid complete nonneg rearmMs

/-- The copy ends at the announced length at most, which the BEGIN has bounded
by 512. -/
theorem appendCopies_inside (shape : StoreShape cfg s) (slot offset : Nat) (data : List UInt8) :
    ∀ copy ∈ appendCopies cfg slot offset data s, copy.offset + copy.length ≤ 512 := by
  intro copy member
  by_cases valid : DynamicStore.AppendValid cfg slot offset data s
  · obtain ⟨fits, inside, _⟩ := shape.room valid
    unfold appendCopies at member
    split at member
    · cases member
    · split at member
      · cases member
      · split at member
        · cases member
        · split at member
          · cases member
          · split at member
            · simp only [List.mem_cons, List.not_mem_nil, or_false] at member
              rcases member with rfl | rfl
              · exact Nat.le_trans inside fits
              · simpa using fits
            · simp only [List.mem_cons, List.not_mem_nil, or_false] at member
              subst member
              exact Nat.le_trans inside fits
  · -- A refused append copies nothing.
    have refused : (s.appendLocked cfg slot offset data 0 0).1 ≠ 0 := by
      rcases DynamicStore.appendLocked_cases cfg slot offset data 0 0 s with
        ⟨err, bad, left | left⟩ | ⟨accepted, _⟩
      · rw [left]
        exact bad
      · rw [left]
        exact bad
      · exact absurd accepted valid
    rw [(appendCopies_eq_nil_iff slot offset data 0 0 s).mpr refused] at member
    cases member

theorem StoreShape.executeSlot (shape : StoreShape cfg s) (slot : Nat)
    (nowMs rearmMs scheduled : Int) (executor : Executor) :
    StoreShape cfg (s.executeSlot cfg slot nowMs rearmMs scheduled executor).2.1 := by
  have expired := shape.expireDue nowMs
  unfold DynamicStore.executeSlot
  dsimp only
  split
  · exact expired
  · split
    · exact expired
    · split
      · exact (expired.clearCommitted slot).rearmTtl rearmMs
      · exact expired

end Store

/-! ## Runs -/

section Runs
variable {s s' : Texts} {event : TextEvent} {events : List TextEvent}

/-- One case a call, by the lemma about its effect on the store. -/
theorem step_shape (shape : StoreShape cfg s.dynamic)
    (uptime : ∀ reading ∈ event.readings, 0 ≤ reading) (step : TextStep cfg s event s') :
    StoreShape cfg s'.dynamic := by
  cases event with
  | beginSlot slot total ttl consume nowMs result =>
    have begun := (shape.expireDue nowMs).begin slot total ttl consume
      (show dynamicSlotMaxTextLen ≤ 512 by decide)
    have left : s'.dynamic = (s.dynamic.beginSlot cfg slot total ttl consume nowMs).2 := by
      rw [step.1]
    rw [left]
    exact begun
  | beginWithOptions total ttl consume nowMs result =>
    have begun := (shape.expireDue nowMs).begin dynamicLegacySlot total ttl consume
      (show dynamicMaxTextLen ≤ 512 by decide)
    have left : s'.dynamic = (s.dynamic.beginWithOptions cfg total ttl consume nowMs).2 := by
      rw [step.1]
    rw [left]
    exact begun
  | appendSlot slot offset data nowMs commitMs rearmMs result =>
    have nonneg : 0 ≤ commitMs := uptime commitMs (by simp [TextEvent.readings])
    have appended := (shape.expireDue nowMs).append slot offset data nonneg rearmMs
    have left : s'.dynamic =
        (s.dynamic.appendSlot cfg slot offset data nowMs commitMs rearmMs).2 := by
      rw [step.1]
    rw [left]
    exact appended
  | cancelStaging nowMs =>
    rw [step]
    exact (shape.expireDue nowMs).cancelStaging
  | clearSlot slot rearmMs =>
    rw [step]
    exact shape.clearSlot slot rearmMs
  | clearAll rearmMs =>
    rw [step]
    exact shape.clearAll rearmMs
  | checkExpiry nowMs rearmMs =>
    rw [step]
    exact (shape.expireDue nowMs).rearmTtl rearmMs
  | executeSlot slot nowMs rearmMs scheduled result =>
    have executed := shape.executeSlot slot nowMs rearmMs scheduled s.executor
    have left : s'.dynamic =
        (s.dynamic.executeSlot cfg slot nowMs rearmMs scheduled s.executor).2.1 := by
      rw [step]
    rw [left]
    exact executed
  | reset =>
    rw [step]
    exact reset_shape s.dynamic
  | ttlWork nowMs rearmMs =>
    rw [step]
    unfold DynamicStore.ttlWorkHandler
    apply StoreShape.rearmTtl
    split
    · exact shape.expireDue nowMs
    · exact shape
  | executorStart text length scheduled result =>
    rw [step.2]
    exact shape
  | executorWork scheduled =>
    rw [step]
    exact shape

theorem copies_inside (shape : StoreShape cfg s.dynamic) (event : TextEvent) :
    ∀ copy ∈ copies cfg s event, copy.offset + copy.length ≤ 512 := by
  cases event with
  | appendSlot slot offset data nowMs commitMs rearmMs result =>
    exact appendCopies_inside (shape.expireDue nowMs) slot offset data
  | _ => nofun

theorem run_shape {store : DynamicStore} {executor : Executor}
    (run : Run (TextStep cfg) ⟨store.reset cfg, executor⟩ events s) (uptime : Uptime events) :
    StoreShape cfg s.dynamic := by
  have allowed : ∀ event ∈ events, ∀ reading ∈ event.readings, 0 ≤ reading := by
    intro event member reading read
    exact uptime.2 reading (List.mem_flatMap.mpr ⟨event, member, read⟩)
  apply run.invariant_of (fun s => StoreShape cfg s.dynamic) (reset_shape store) allowed
  intro s event s' shape counted step
  exact step_shape shape counted step

/-- After a reset every reachable state has the shape, and the next call copies
only inside the buffers. -/
theorem store_keeps_shape {store : DynamicStore} {executor : Executor}
    (run : Run (TextStep cfg) ⟨store.reset cfg, executor⟩ events s) (uptime : Uptime events) :
    StoreShape cfg s.dynamic ∧
      ∀ event, ∀ copy ∈ copies cfg s event, copy.offset + copy.length ≤ 512 :=
  ⟨run_shape run uptime, copies_inside (run_shape run uptime)⟩

end Runs

/-! ## A text replaced by a shorter one -/

def sampleStart : Texts := ⟨DynamicStore.boot.reset .default, .idle⟩

/-- Three bytes in two chunks, and then one byte for the same slot. -/
def sampleEvents : List TextEvent :=
  [.beginSlot 1 3 60 false 0 0, .appendSlot 1 0 [97, 98] 1 1 1 0, .appendSlot 1 2 [99] 2 3 4 0,
    .beginSlot 1 1 5 true 10 0, .appendSlot 1 0 [100] 11 12 13 0]

theorem sample_executes : (execute (textNext .default) sampleStart sampleEvents).isSome = true := by
  decide +kernel

def sampleFinal : Texts :=
  (execute (textNext .default) sampleStart sampleEvents).get sample_executes

/-- Behind the one byte committed last, the slot has zeros and nothing of the
longer text. -/
theorem store_keeps_shape_sample : Typed 1 (sampleFinal.dynamic.slots 1).committed := by
  have run : Run (TextStep .default) sampleStart sampleEvents sampleFinal :=
    Run.of_execute (textNext_sound .default) (Option.some_get sample_executes).symm
  have uptime : Uptime sampleEvents := by
    unfold Uptime
    decide
  have shape := (store_keeps_shape run uptime).1.slots 1 (by decide)
  cases shape with
  | valid _ _ _ typed _ =>
    have length : (sampleFinal.dynamic.slots 1).committedLength = 1 := by decide +kernel
    rw [length] at typed
    exact typed
  | invalid gone =>
    have present : (sampleFinal.dynamic.slots 1).committedValid = true := by decide +kernel
    exact absurd (gone.symm.trans present) (by decide)

end RuntimeMacro.Guarantees.StoreInvariant
