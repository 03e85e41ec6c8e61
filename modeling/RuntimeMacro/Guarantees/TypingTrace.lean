import RuntimeMacro.Source.ExecutorRuns

/-!
# Every accepted text is typed as one block

runtime_macro_executor.c:99-191. The key events of any run are the blocks of
its accepted starts, in order, and no key stays down once the executor is idle,
whichever call could not be scheduled.
-/
namespace RuntimeMacro.Guarantees.TypingTrace
open Source Foundations.Runs

variable {cfg : Config} {s s' : Typing} {event : TypingEvent} {store : SlotStore}
  {settings : Settings} {blocks : List Block} {moments : List (Moment Typing TypingEvent)}

/-- The key that is pressed and not yet released. -/
def down (e : Executor) : List (Nat × Bool) :=
  if e.busy = true ∧ e.phase = .release then [(e.encoded, true)] else []

/-- A block under way: whole keys, and the next key of the text if it is
down. -/
def UnderWay (e : Executor) (block : Block) : Prop :=
  block.scheduleFailed = false ∧ ∃ codes, codes ++ (down e).map Prod.fst <+: keycodes block.text ∧
    block.raised = strokes codes ++ down e

theorem underWay_of_running {block : Block} {e : Executor} {codes : List Nat}
    (running : block.Running e codes) (busy : e.busy = true) : UnderWay e block := by
  refine ⟨running.unfailed, codes, ?_⟩
  cases phase : e.phase with
  | press =>
    obtain ⟨typed, raised⟩ := running.pressing phase
    have up : down e = [] := if_neg (by simp [phase])
    rw [up, List.append_nil, List.map_nil, List.append_nil, typed]
    exact ⟨List.prefix_append _ _, raised⟩
  | release =>
    obtain ⟨typed, raised⟩ := running.releasing phase
    have held : down e = [(e.encoded, true)] := if_pos ⟨busy, phase⟩
    rw [held, typed, List.append_cons]
    exact ⟨List.prefix_append _ _, raised⟩

/-! ## One event -/

/-- The slots keep their size in every step. -/
theorem step_sized (sized : SlotStore.Sized cfg s.store) (step : TypingStep cfg s event s') :
    SlotStore.Sized cfg s'.store := by
  cases event with
  | start | execute =>
    rw [step.2.1]
    exact sized
  | slotSet slot text length saveErr result =>
    have set := sized.slotSet slot text length saveErr s.settings
    rw [step.1] at set
    exact set
  | slotClear slot deleteErr result =>
    have erased := sized.slotClear slot deleteErr s.settings
    rw [step.1] at erased
    exact erased
  | work =>
    rw [step.2.2.1]
    exact sized

/-- Key events are raised in the newest block only. -/
theorem record_raised (tracks : TracksBlocks s.executor blocks) (step : TypingStep cfg s event s') :
    (record blocks ⟨s, event, s'⟩).reverse.flatMap Block.raised =
      blocks.reverse.flatMap Block.raised ++ keyEvents [⟨s, event, s'⟩] := by
  cases event with
  | start text scheduled result | execute slot scheduled result =>
    simp only [record]
    split <;> simp [keyEvents]
  | slotSet | slotClear => simp [record, keyEvents]
  | work scheduled raised =>
    cases tracks with
    | idle _ unscheduled => cases unscheduled.symm.trans step.1
    | busy => simp [record, keyEvents, Block.extend]

/-- A busy executor refuses every start and changes nothing. -/
theorem busy_refuses {text : List UInt8} {length : Nat} {scheduled result : Int} {e e' : Executor}
    (busy : e.busy = true) (started : e.start text length scheduled = (result, e')) :
    e' = e ∧ result = if executorMaxTextLen < length then -einval else -ebusy := by
  rcases start_cases started with ⟨long, rfl, rfl⟩ | ⟨short, _, rfl, rfl⟩ | ⟨_, idle, _⟩
  · exact ⟨rfl, (if_pos long).symm⟩
  · exact ⟨rfl, (if_neg (Nat.not_lt.mpr short)).symm⟩
  · cases idle.symm.trans busy

/-- A busy executor refuses a slot that is there with -EBUSY, and a slot that
is not with -EINVAL as ever. -/
theorem busy_refuses_execute {slot : Nat} {scheduled result : Int}
    (sized : SlotStore.Sized cfg s.store) (busy : s.executor.busy = true)
    (step : TypingStep cfg s (.execute slot scheduled result) s') :
    s' = s ∧ result = if SlotStore.slotIsValid cfg slot = true then -ebusy else -einval := by
  obtain ⟨executed, sameStore, sameSettings⟩ := step
  have both : s'.executor = s.executor ∧
      result = if SlotStore.slotIsValid cfg slot = true then -ebusy else -einval := by
    obtain ⟨_, short⟩ := sized slot
    unfold Typing.execute SlotStore.slotCopy at executed
    dsimp only at executed
    rw [if_neg (by omega : ¬ cfg.maxTextLen + 1 ≤ (s.store.slots slot).length)] at executed
    by_cases valid : SlotStore.slotIsValid cfg slot = true
    · rw [if_neg (by simp [valid])] at executed
      obtain ⟨same, refused⟩ := busy_refuses busy executed
      have fits : ¬ executorMaxTextLen < (s.store.slots slot).length := by
        have bound := cfg.maxTextLen_range.2
        unfold executorMaxTextLen
        omega
      rw [if_neg fits] at refused
      exact ⟨same, by rw [if_pos valid, refused]⟩
    · rw [if_pos (by simpa using valid)] at executed
      obtain ⟨rfl, same⟩ := Prod.mk.inj executed
      exact ⟨same.symm, by rw [if_neg valid]⟩
  exact ⟨Typing.ext both.1 sameStore sameSettings, both.2⟩

/-! ## Whole runs -/

/-- The executor is where the list of accepted texts says it is, and has raised
what belongs to those. -/
structure Sound (cfg : Config) (past : List (Moment Typing TypingEvent)) (s : Typing) : Prop where
  tracks : TracksBlocks s.executor (blocksOf past)
  sized : SlotStore.Sized cfg s.store
  raised : keyEvents past = (blocksOf past).reverse.flatMap Block.raised

theorem run_sound (sized : SlotStore.Sized cfg store)
    (run : Run (Traced (TypingStep cfg)) ⟨.idle, store, settings⟩ moments s) :
    Sound cfg moments s := by
  refine run.history (Sound cfg) ⟨.idle rfl rfl ⟨rfl, rfl, rfl, rfl⟩ ?_, sized, rfl⟩ ?_
  · intro block member
    cases member
  · intro past before moment after _ sound step
    obtain ⟨before', event, after'⟩ := moment
    obtain ⟨rfl, rfl, step⟩ := step
    refine ⟨?_, step_sized sound.sized step, ?_⟩
    · rw [blocksOf_snoc]
      exact sound.tracks.step sound.sized step
    · rw [blocksOf_snoc, record_raised sound.tracks step, ← sound.raised]
      exact List.flatMap_append

theorem ended_strokes (ended : ∀ block ∈ blocks, block.Ended) :
    ∃ codes, blocks.reverse.flatMap Block.raised = strokes codes := by
  induction blocks with
  | nil => exact ⟨[], rfl⟩
  | cons newest older ih =>
    obtain ⟨front, earlier⟩ := ih fun block member => ended block (List.mem_cons_of_mem _ member)
    obtain ⟨codes, _, raised, _⟩ := ended newest List.mem_cons_self
    refine ⟨front ++ codes, ?_⟩
    rw [List.reverse_cons, List.flatMap_append, earlier, strokes_append, ← raised]
    simp

/-- The key events of a run are its blocks in order: a block that is over has
typed whole keys, all of them unless the work could not be scheduled, and the
block under way has at most one key down. A busy executor refuses every start,
and an idle one holds nothing. -/
theorem typed_in_blocks (sized : SlotStore.Sized cfg store)
    (run : Run (Traced (TypingStep cfg)) ⟨.idle, store, settings⟩ moments s) :
    keyEvents moments = (blocksOf moments).reverse.flatMap Block.raised ∧
    (∃ codes, keyEvents moments = strokes codes ++ down s.executor) ∧
    (s.executor.busy = false → s.executor.Zeroed ∧ ∀ block ∈ blocksOf moments, block.Ended) ∧
    (s.executor.busy = true → ∃ newest older, blocksOf moments = newest :: older ∧
      UnderWay s.executor newest ∧ ∀ block ∈ older, block.Ended) ∧
    ∀ moment ∈ moments, moment.before.executor.busy = true →
      (∀ text scheduled result, moment.event = .start text scheduled result →
        moment.after = moment.before ∧
          result = if executorMaxTextLen < text.length then -einval else -ebusy) ∧
      ∀ slot scheduled result, moment.event = .execute slot scheduled result →
        moment.after = moment.before ∧
          result = if SlotStore.slotIsValid cfg slot = true then -ebusy else -einval := by
  obtain ⟨tracks, _, raised⟩ := run_sound sized run
  refine ⟨raised, ?_, ?_, ?_, ?_⟩
  · rw [raised]
    generalize blocksOf moments = blocks at tracks
    cases tracks with
    | idle idle _ _ ended =>
      obtain ⟨codes, typed⟩ := ended_strokes ended
      have up : down s.executor = [] := if_neg (by simp [idle])
      exact ⟨codes, by rw [up, List.append_nil, typed]⟩
    | busy busy _ running ended =>
      obtain ⟨front, earlier⟩ := ended_strokes ended
      obtain ⟨_, codes, _, typed⟩ := underWay_of_running running busy
      refine ⟨front ++ codes, ?_⟩
      rw [List.reverse_cons, List.flatMap_append, earlier, strokes_append, List.append_assoc,
        ← typed]
      simp
  · intro idle
    generalize blocksOf moments = blocks at tracks
    cases tracks with
    | idle _ _ zeroed ended => exact ⟨zeroed, ended⟩
    | busy busy => cases idle.symm.trans busy
  · intro busy
    generalize blocksOf moments = blocks at tracks
    cases tracks with
    | idle idle => cases idle.symm.trans busy
    | busy _ _ running ended => exact ⟨_, _, rfl, underWay_of_running running busy, ended⟩
  · intro moment member busy
    obtain ⟨front, back, rfl⟩ := List.append_of_mem member
    obtain ⟨_, _, earlier, ⟨rfl, rfl, step⟩, _⟩ := run.around
    have before := run_sound sized earlier
    constructor
    · intro text scheduled result event
      rw [event] at step
      obtain ⟨started, sameStore, sameSettings⟩ := step
      obtain ⟨same, refused⟩ := busy_refuses busy started
      exact ⟨Typing.ext same sameStore sameSettings, refused⟩
    · intro slot scheduled result event
      rw [event] at step
      exact busy_refuses_execute before.sized busy step

/-! ## The letter H, a refused start, and two texts that show the limits -/

def sampleStart : Typing := ⟨.idle, .boot .default, .empty⟩

def sampleExecutor (text : List UInt8) : Executor := (Executor.idle.start text text.length 0).2

def samplePressed : Executor := ((sampleExecutor [72]).workHandler 0).2

def sampleReleased : Executor := (samplePressed.workHandler 0).2

def sampleRun : List (Moment Typing TypingEvent) :=
  [⟨sampleStart, .start [72] 0 0, { sampleStart with executor := sampleExecutor [72] }⟩,
    ⟨{ sampleStart with executor := sampleExecutor [72] }, .start [105] 0 (-ebusy),
      { sampleStart with executor := sampleExecutor [72] }⟩,
    ⟨{ sampleStart with executor := sampleExecutor [72] }, .work 0 [(Ascii.asciiMap 72, true)],
      { sampleStart with executor := samplePressed }⟩,
    ⟨{ sampleStart with executor := samplePressed }, .work 0 [(Ascii.asciiMap 72, false)],
      { sampleStart with executor := sampleReleased }⟩]

theorem sampleRun_taken : Run (Traced (TypingStep .default)) sampleStart sampleRun
    { sampleStart with executor := sampleReleased } :=
  .cons ⟨rfl, rfl, rfl, rfl, rfl⟩ <| .cons ⟨rfl, rfl, rfl, rfl, rfl⟩ <|
    .cons ⟨rfl, rfl, rfl, rfl, rfl, rfl⟩ <| .cons ⟨rfl, rfl, rfl, rfl, rfl, rfl⟩ <| .nil _

/-- One letter is pressed and released, with a refused start in between. The
executor is zeroed at the end and the block is over. -/
theorem typed_in_blocks_sample :
    sampleReleased.Zeroed ∧ ∀ block ∈ blocksOf sampleRun, block.Ended := by
  obtain ⟨_, _, idle, _⟩ := typed_in_blocks (SlotStore.boot_sized .default) sampleRun_taken
  exact idle rfl

/-- One byte more than the executor has room for. -/
def longText : List UInt8 := List.replicate 513 72

/-- The long text is refused and the one under way goes on. -/
def longRun : List (Moment Typing TypingEvent) :=
  [⟨sampleStart, .start [72] 0 0, { sampleStart with executor := sampleExecutor [72] }⟩,
    ⟨{ sampleStart with executor := sampleExecutor [72] }, .start longText 0 (-einval),
      { sampleStart with executor := sampleExecutor [72] }⟩]

/-- A byte without a key ends the text before the bytes that follow it. -/
def cutRun : List (Moment Typing TypingEvent) :=
  [⟨sampleStart, .start [0, 72] 0 0, { sampleStart with executor := sampleExecutor [0, 72] }⟩,
    ⟨{ sampleStart with executor := sampleExecutor [0, 72] }, .work 0 [],
      { sampleStart with executor := ((sampleExecutor [0, 72]).workHandler 0).2 }⟩]

/-- A start that is too long is refused as invalid before the executor looks
whether it is busy, and a text ends before its first byte outside the alphabet,
with nothing left to schedule. -/
theorem busy_and_complete_fail :
    (∃ moments s, Run (Traced (TypingStep .default)) sampleStart moments s ∧
      ∃ moment ∈ moments, moment.before.executor.busy = true ∧
        ∃ text scheduled result, moment.event = .start text scheduled result ∧
          result ≠ -ebusy) ∧
    ∃ moments s, Run (Traced (TypingStep .default)) sampleStart moments s ∧
      s.executor.busy = false ∧
      ∃ block ∈ blocksOf moments, block.scheduleFailed = false ∧
        block.raised.length ≠ 2 * block.text.length := by
  have refused : (sampleExecutor [72]).start longText longText.length 0 =
      (-einval, sampleExecutor [72]) := by
    have long : longText.length > executorMaxTextLen := by
      rw [longText, List.length_replicate, executorMaxTextLen]
      decide
    exact if_pos long
  constructor
  · refine ⟨longRun, _, .cons ⟨rfl, rfl, rfl, rfl, rfl⟩ <|
      .cons ⟨rfl, rfl, refused, rfl, rfl⟩ <| .nil _, _,
      List.mem_cons_of_mem _ List.mem_cons_self, rfl, longText, 0, -einval, rfl, by decide⟩
  · refine ⟨cutRun, _, .cons ⟨rfl, rfl, rfl, rfl, rfl⟩ <|
      .cons ⟨rfl, rfl, rfl, rfl, rfl, rfl⟩ <| .nil _, rfl, _, List.mem_cons_self, rfl, by decide⟩

end RuntimeMacro.Guarantees.TypingTrace
