import RuntimeMacro.Foundations.Runs
import RuntimeMacro.Source.Executor
import RuntimeMacro.Source.SlotStore

/-!
# Runs of the executor

runtime_macro_executor.c:99-191. The executor together with the static slots it
types from. The work handler runs when it is scheduled and at no other time;
what a listener answers to a key event is only logged. The key events of a run
are cut into one block for each accepted start.
-/
namespace RuntimeMacro.Source
open Foundations Foundations.Runs

/-- The executor with the static slots it types from. -/
@[ext]
structure Typing where
  executor : Executor
  store : SlotStore
  settings : Settings

/-- The calls that reach the executor or the slots, and a run of the work item
with what it raised. -/
inductive TypingEvent where
  | start (text : List UInt8) (scheduled result : Int)
  | execute (slot : Nat) (scheduled result : Int)
  | slotSet (slot : Nat) (text : List UInt8) (length : Nat) (saveErr result : Int)
  | slotClear (slot : Nat) (deleteErr result : Int)
  | work (scheduled : Int) (raised : List (Nat × Bool))

/-- `zmk_runtime_macro_execute`. -/
def Typing.execute (cfg : Config) (slot : Nat) (scheduled : Int) (s : Typing) : Int × Executor :=
  match s.store.slotCopy cfg slot (cfg.maxTextLen + 1) with
  | .error err => (err, s.executor)
  | .ok (snapshot, length) => s.executor.start snapshot length scheduled

/-- The text of a static slot. -/
def Typing.slotText (s : Typing) (slot : Nat) : List UInt8 :=
  (s.store.slots slot).text.take (s.store.slots slot).length

/-- One call or one run of the work handler. -/
def TypingStep (cfg : Config) (s : Typing) : TypingEvent → Typing → Prop
  | .start text scheduled result, s' =>
    s.executor.start text text.length scheduled = (result, s'.executor) ∧
      s'.store = s.store ∧ s'.settings = s.settings
  | .execute slot scheduled result, s' =>
    s.execute cfg slot scheduled = (result, s'.executor) ∧
      s'.store = s.store ∧ s'.settings = s.settings
  | .slotSet slot text length saveErr result, s' =>
    s.store.slotSet cfg slot text length saveErr s.settings = (result, s'.store, s'.settings) ∧
      s'.executor = s.executor
  | .slotClear slot deleteErr result, s' =>
    s.store.slotClear cfg slot deleteErr s.settings = (result, s'.store, s'.settings) ∧
      s'.executor = s.executor
  | .work scheduled raised, s' =>
    s.executor.work = true ∧ s.executor.workHandler scheduled = (raised, s'.executor) ∧
      s'.store = s.store ∧ s'.settings = s.settings

/-! ## Blocks -/

/-- The keycodes of a text, up to the first byte outside the alphabet. -/
def keycodes : List UInt8 → List Nat
  | [] => []
  | byte :: rest =>
    match Ascii.asciiToKeycode byte with
    | .ok encoded => encoded :: keycodes rest
    | .error _ => []

theorem keycodes_cons_ok {byte : UInt8} {rest : List UInt8} {encoded : Nat}
    (known : Ascii.asciiToKeycode byte = .ok encoded) :
    keycodes (byte :: rest) = encoded :: keycodes rest := by
  rw [keycodes, known]

theorem keycodes_cons_error {byte : UInt8} {rest : List UInt8} {err : Int}
    (unknown : Ascii.asciiToKeycode byte = .error err) : keycodes (byte :: rest) = [] := by
  rw [keycodes, unknown]

/-- Each key is pressed and released before the next. -/
def strokes (codes : List Nat) : List (Nat × Bool) :=
  codes.flatMap fun code => [(code, true), (code, false)]

theorem strokes_append (front back : List Nat) :
    strokes (front ++ back) = strokes front ++ strokes back :=
  List.flatMap_append

/-- The key events of an accepted start. -/
structure Block where
  text : List UInt8
  raised : List (Nat × Bool)
  scheduleFailed : Bool

/-- The block under way after a run of the work handler. -/
def Block.extend (block : Block) (e : Executor) (scheduled : Int) (raised : List (Nat × Bool)) :
    Block :=
  { block with
    raised := block.raised ++ raised
    scheduleFailed := block.scheduleFailed || (e.reschedules && decide (scheduled < 0)) }

/-- The blocks after one more event, the newest first. -/
def record (blocks : List Block) (moment : Moment Typing TypingEvent) : List Block :=
  match moment.event with
  | .start text _ result => if result = 0 then ⟨text, [], false⟩ :: blocks else blocks
  | .execute slot _ result =>
    if result = 0 then ⟨moment.before.slotText slot, [], false⟩ :: blocks else blocks
  | .work scheduled raised =>
    match blocks with
    | [] => []
    | newest :: older => newest.extend moment.before.executor scheduled raised :: older
  | .slotSet .. | .slotClear .. => blocks

/-- The texts accepted so far, the last one first. -/
def blocksOf (moments : List (Moment Typing TypingEvent)) : List Block := moments.foldl record []

/-- The key events of a run, in order. -/
def keyEvents (moments : List (Moment Typing TypingEvent)) : List (Nat × Bool) :=
  moments.flatMap fun moment =>
    match moment.event with
    | .work _ raised => raised
    | _ => []

theorem blocksOf_snoc (past : List (Moment Typing TypingEvent))
    (moment : Moment Typing TypingEvent) :
    blocksOf (past ++ [moment]) = record (blocksOf past) moment := by
  rw [blocksOf, List.foldl_append]
  rfl

/-! ## What a block holds -/

/-- A block that is over: whole keys only, and all of them unless the work
could not be scheduled. -/
def Block.Ended (block : Block) : Prop :=
  ∃ codes, codes <+: keycodes block.text ∧ block.raised = strokes codes ∧
    (block.scheduleFailed = false → codes = keycodes block.text)

/-- A block under way, `codes` typed: what is left of the text is left of its
keycodes, and the key that is down is the next of them. -/
structure Block.Running (block : Block) (e : Executor) (codes : List Nat) : Prop where
  capacity : e.text.length = executorMaxTextLen + 1
  length : block.text.length = e.length
  fits : e.length ≤ executorMaxTextLen
  inside : e.index < e.length
  text : e.text.take e.length = block.text
  unfailed : block.scheduleFailed = false
  pressing : e.phase = .press →
    keycodes block.text = codes ++ keycodes (block.text.drop e.index) ∧
      block.raised = strokes codes
  releasing : e.phase = .release →
    keycodes block.text = codes ++ e.encoded :: keycodes (block.text.drop (e.index + 1)) ∧
      block.raised = strokes codes ++ [(e.encoded, true)]

/-- The executor and the blocks of its past, the newest first. -/
inductive TracksBlocks (e : Executor) : List Block → Prop
  | idle {blocks : List Block} (idle : e.busy = false) (unscheduled : e.work = false)
      (zeroed : e.Zeroed) (ended : ∀ block ∈ blocks, block.Ended) : TracksBlocks e blocks
  | busy {newest : Block} {older : List Block} {codes : List Nat} (busy : e.busy = true)
      (scheduled : e.work = true) (running : newest.Running e codes)
      (ended : ∀ block ∈ older, block.Ended) : TracksBlocks e (newest :: older)

section Steps
variable {cfg : Config} {e e' : Executor} {blocks older : List Block} {newest : Block}
  {codes : List Nat} {scheduled result : Int} {raised : List (Nat × Bool)}

theorem TracksBlocks.finish (unscheduled : e.work = false) (ended : ∀ block ∈ blocks, block.Ended) :
    TracksBlocks e.finish blocks :=
  .idle rfl unscheduled e.finish_zeroed ended

/-- What a start answers and does, by the checks it makes. -/
theorem start_cases {text : List UInt8} {length : Nat}
    (started : e.start text length scheduled = (result, e')) :
    (executorMaxTextLen < length ∧ result = -einval ∧ e' = e) ∨
    (length ≤ executorMaxTextLen ∧ e.busy = true ∧ result = -ebusy ∧ e' = e) ∨
    (length ≤ executorMaxTextLen ∧ e.busy = false ∧
      ((length = 0 ∧ result = 0 ∧ e' = Executor.finish { e with busy := true }) ∨
      (0 < length ∧ scheduled < 0 ∧ result = scheduled ∧
        ∃ started : Executor, started.work = e.work ∧ e' = started.finish) ∨
      (0 < length ∧ result = 0 ∧ e' =
        { e with
          busy := true
          text := ByteBuffer.write (ByteBuffer.write e.text 0 (text.take length)) length [0]
          length := length
          index := 0
          phase := .press
          work := true }))) := by
  unfold Executor.start at started
  split at started
  next long =>
    obtain ⟨rfl, rfl⟩ := Prod.mk.inj started
    exact Or.inl ⟨long, rfl, rfl⟩
  next short =>
    rw [gt_iff_lt, Nat.not_lt] at short
    split at started
    next busy =>
      obtain ⟨rfl, rfl⟩ := Prod.mk.inj started
      exact Or.inr (Or.inl ⟨short, busy, rfl, rfl⟩)
    next idle =>
      rw [Bool.not_eq_true] at idle
      refine Or.inr (Or.inr ⟨short, idle, ?_⟩)
      dsimp only at started
      split at started
      next empty =>
        obtain ⟨rfl, rfl⟩ := Prod.mk.inj started
        exact Or.inl ⟨empty, rfl, rfl⟩
      next nonempty =>
        have positive := Nat.pos_of_ne_zero nonempty
        split at started
        next failed =>
          obtain ⟨rfl, rfl⟩ := Prod.mk.inj started
          exact Or.inr (Or.inl ⟨positive, failed, rfl, _, rfl, rfl⟩)
        next =>
          obtain ⟨rfl, rfl⟩ := Prod.mk.inj started
          exact Or.inr (Or.inr ⟨positive, rfl, rfl⟩)

theorem TracksBlocks.start {text : List UInt8} {length : Nat} (tracks : TracksBlocks e blocks)
    (enough : length ≤ text.length)
    (started : e.start text length scheduled = (result, e')) :
    TracksBlocks e' (if result = 0 then ⟨text.take length, [], false⟩ :: blocks else blocks) := by
  rcases start_cases started with
    ⟨_, rfl, rfl⟩ | ⟨_, _, rfl, rfl⟩ | ⟨fits, idle, accepted⟩
  · exact tracks
  · exact tracks
  · cases tracks with
    | busy busy => cases idle.symm.trans busy
    | idle _ unscheduled zeroed ended =>
      have opened : ∀ block ∈ (⟨[], [], false⟩ : Block) :: blocks, block.Ended := by
        intro block member
        rcases List.mem_cons.mp member with rfl | member
        · exact ⟨[], List.nil_prefix, rfl, fun _ => rfl⟩
        · exact ended block member
      rcases accepted with ⟨rfl, rfl, rfl⟩ | ⟨_, failed, rfl, _, same, rfl⟩ | ⟨positive, rfl, rfl⟩
      · rw [if_pos rfl, List.take_zero]
        exact .finish unscheduled opened
      · rw [if_neg (by omega)]
        exact .finish (same.trans unscheduled) ended
      · rw [if_pos rfl]
        have taken : (text.take length).length = length := List.length_take_of_le enough
        have capacity : e.text.length = executorMaxTextLen + 1 := by
          rw [zeroed.text, List.length_replicate]
        have fitting : (text.take length).length ≤ executorMaxTextLen := by omega
        have held := Executor.start_text capacity fitting
        rw [taken] at held
        refine @TracksBlocks.busy _ _ _ [] rfl rfl ?_ ended
        exact {
          capacity := held.2
          length := taken
          fits := fits
          inside := positive
          text := held.1
          unfailed := rfl
          pressing := fun _ => ⟨rfl, rfl⟩
          releasing := fun impossible => by cases impossible }

/-- The byte under way is the next of the text. -/
theorem Block.Running.next (running : newest.Running e codes) :
    newest.text.drop e.index = e.text.getD e.index 0 :: newest.text.drop (e.index + 1) := by
  have inText : e.index < newest.text.length := by
    rw [running.length]
    exact running.inside
  have inBuffer : e.index < e.text.length := by
    have inside := running.inside
    have fits := running.fits
    rw [running.capacity]
    omega
  rw [List.drop_eq_getElem_cons inText]
  congr 1
  have same : newest.text[e.index]? = e.text[e.index]? := by
    rw [← running.text, List.getElem?_take_of_lt running.inside]
  rw [List.getElem?_eq_getElem inText, List.getElem?_eq_getElem inBuffer, Option.some.injEq] at same
  rw [same, List.getD_eq_getElem?_getD, List.getElem?_eq_getElem inBuffer, Option.getD_some]

/-- Whatever has been typed, the block can be closed after whole keys: the text
is complete, or the work could not be scheduled. -/
theorem Block.ended_of {block : Block} {rest : List Nat}
    (typed : keycodes block.text = codes ++ rest) (whole : block.raised = strokes codes)
    (complete : block.scheduleFailed = false → rest = []) : block.Ended := by
  refine ⟨codes, ⟨rest, typed.symm⟩, whole, fun unfailed => ?_⟩
  rw [typed, complete unfailed, List.append_nil]

/-- A press: the next byte goes down, or the text ends before a byte outside
the alphabet. -/
theorem Block.Running.press (running : newest.Running e codes) (busy : e.busy = true)
    (phase : e.phase = .press) (ended : ∀ block ∈ older, block.Ended)
    (worked : e.workHandler scheduled = (raised, e')) :
    TracksBlocks e' (newest.extend e scheduled raised :: older) := by
  obtain ⟨typed, whole⟩ := running.pressing phase
  have next := running.next
  rw [next] at typed
  unfold Executor.workHandler at worked
  simp only [busy, phase, Bool.true_eq_false, if_false] at worked
  have closed : ∀ {rest : List Nat} {typedNow : List Nat},
      keycodes newest.text = typedNow ++ rest →
      newest.raised ++ raised = strokes typedNow →
      ((e.reschedules && decide (scheduled < 0)) = false → rest = []) →
      ∀ block ∈ newest.extend e scheduled raised :: older, block.Ended := by
    intro rest typedNow typed whole complete block member
    rcases List.mem_cons.mp member with rfl | member
    · refine Block.ended_of typed whole fun unfailed => ?_
      rw [Block.extend, running.unfailed, Bool.false_or] at unfailed
      exact complete unfailed
    · exact ended block member
  cases known : Ascii.asciiToKeycode (e.text.getD e.index 0) with
  | error err =>
    rw [keycodes_cons_error known] at typed
    simp only [known] at worked
    obtain ⟨rfl, rfl⟩ := Prod.mk.inj worked
    refine .finish rfl (closed typed ?_ fun _ => rfl)
    rw [List.append_nil, whole]
  | ok encoded =>
    rw [keycodes_cons_ok known] at typed
    simp only [known] at worked
    have accepted : e.reschedules = true := by
      simp only [Executor.reschedules, busy, phase, Ascii.byteIsValid, known, Bool.and_self]
    split at worked
    next failed =>
      obtain ⟨rfl, rfl⟩ := Prod.mk.inj worked
      have pressed : keycodes newest.text =
          (codes ++ [encoded]) ++ keycodes (newest.text.drop (e.index + 1)) := by
        rw [typed, List.append_assoc]
        rfl
      refine .finish rfl (closed pressed ?_ fun unfailed => ?_)
      · rw [whole, strokes_append]
        rfl
      · rw [accepted, decide_eq_true failed] at unfailed
        cases unfailed
    next scheduled =>
      obtain ⟨rfl, rfl⟩ := Prod.mk.inj worked
      refine @TracksBlocks.busy _ _ _ codes rfl rfl ?_ ended
      exact {
        capacity := running.capacity
        length := running.length
        fits := running.fits
        inside := running.inside
        text := running.text
        unfailed := by
          rw [Block.extend, running.unfailed, accepted, decide_eq_false scheduled]
          rfl
        pressing := fun impossible => by cases impossible
        releasing := fun _ => ⟨typed, congrArg (· ++ [(encoded, true)]) whole⟩ }

/-- A release: the key that is down goes up, and the text ends or goes on. -/
theorem Block.Running.release (running : newest.Running e codes) (busy : e.busy = true)
    (phase : e.phase = .release) (ended : ∀ block ∈ older, block.Ended)
    (worked : e.workHandler scheduled = (raised, e')) :
    TracksBlocks e' (newest.extend e scheduled raised :: older) := by
  obtain ⟨typed, whole⟩ := running.releasing phase
  unfold Executor.workHandler at worked
  simp only [busy, phase, Bool.true_eq_false, if_false] at worked
  have pressed : keycodes newest.text =
      (codes ++ [e.encoded]) ++ keycodes (newest.text.drop (e.index + 1)) := by
    rw [typed, List.append_assoc]
    rfl
  have stroke : newest.raised ++ [(e.encoded, false)] = strokes (codes ++ [e.encoded]) := by
    rw [whole, strokes_append, List.append_assoc]
    rfl
  have closed : raised = [(e.encoded, false)] →
      ((e.reschedules && decide (scheduled < 0)) = false →
        keycodes (newest.text.drop (e.index + 1)) = []) →
      ∀ block ∈ newest.extend e scheduled raised :: older, block.Ended := by
    intro same complete block member
    rcases List.mem_cons.mp member with rfl | member
    · subst same
      refine Block.ended_of pressed stroke fun unfailed => ?_
      rw [Block.extend, running.unfailed, Bool.false_or] at unfailed
      exact complete unfailed
    · exact ended block member
  split at worked
  next last =>
    obtain ⟨rfl, rfl⟩ := Prod.mk.inj worked
    refine .finish rfl (closed rfl fun _ => ?_)
    rw [List.drop_eq_nil_of_le (by rw [running.length]; exact last)]
    rfl
  next more =>
    rw [ge_iff_le, Nat.not_le] at more
    have accepted : e.reschedules = true := by
      simp [Executor.reschedules, busy, phase, more]
    split at worked
    next failed =>
      obtain ⟨rfl, rfl⟩ := Prod.mk.inj worked
      refine .finish rfl (closed rfl fun unfailed => ?_)
      rw [accepted, decide_eq_true failed] at unfailed
      cases unfailed
    next scheduled =>
      obtain ⟨rfl, rfl⟩ := Prod.mk.inj worked
      refine @TracksBlocks.busy _ _ _ (codes ++ [e.encoded]) rfl rfl ?_ ended
      exact {
        capacity := running.capacity
        length := running.length
        fits := running.fits
        inside := more
        text := running.text
        unfailed := by
          rw [Block.extend, running.unfailed, accepted, decide_eq_false scheduled]
          rfl
        pressing := fun _ => ⟨pressed, stroke⟩
        releasing := fun impossible => by cases impossible }

theorem TracksBlocks.step {s s' : Typing} {event : TypingEvent}
    (tracks : TracksBlocks s.executor blocks) (sized : SlotStore.Sized cfg s.store)
    (step : TypingStep cfg s event s') :
    TracksBlocks s'.executor (record blocks ⟨s, event, s'⟩) := by
  cases event with
  | start text scheduled result =>
    have started := tracks.start (Nat.le_refl _) step.1
    rw [List.take_length] at started
    exact started
  | execute slot scheduled result =>
    have executed := step.1
    unfold Typing.execute at executed
    split at executed
    next err refused =>
      obtain ⟨rfl, same⟩ := Prod.mk.inj executed
      have nonzero : err ≠ 0 := by
        unfold SlotStore.slotCopy at refused
        dsimp only at refused
        split at refused
        · cases refused
          decide
        · split at refused
          · cases refused
            decide
          · cases refused
      simp only [record, if_neg nonzero]
      rw [← same]
      exact tracks
    next snapshot length copied =>
      obtain ⟨capacity, fits⟩ := sized slot
      unfold SlotStore.slotCopy at copied
      dsimp only at copied
      rw [if_neg (by omega : ¬ cfg.maxTextLen + 1 ≤ (s.store.slots slot).length)] at copied
      split at copied
      · cases copied
      · simp only [Except.ok.injEq, Prod.mk.injEq] at copied
        obtain ⟨rfl, rfl⟩ := copied
        have started := tracks.start (by rw [List.length_take]; omega) executed
        rw [List.take_take, Nat.min_eq_left (Nat.le_succ _)] at started
        exact started
  | slotSet | slotClear =>
    rw [step.2]
    exact tracks
  | work scheduled raised =>
    obtain ⟨pending, worked, _⟩ := step
    cases tracks with
    | idle _ unscheduled => cases unscheduled.symm.trans pending
    | busy busy _ running ended =>
      cases phase : s.executor.phase with
      | press => exact running.press busy phase ended worked
      | release => exact running.release busy phase ended worked

end Steps

end RuntimeMacro.Source
