import RuntimeMacro.Source.SlotBoots
import RuntimeMacro.Foundations.WriteThrough

/-!
# Updates of the static slots by several threads

runtime_macro.c:100-177. zmk_runtime_macro_slot_set and
zmk_runtime_macro_slot_clear, cut where the two mutexes cut them: take the
update mutex, change RAM under the slots mutex, ask storage, give the update
mutex back. A copy or a length query is one step under the slots mutex.
`SlotStore.slotSet` and `SlotStore.slotClear` are these calls without another
thread in between.
-/
namespace RuntimeMacro.Source.SlotThreads
open Foundations Foundations.Runs SlotStore

abbrev ThreadId := Nat

/-- A call and its arguments; `text` is the `length` bytes at the pointer. -/
inductive Update where
  | set (slot : Nat) (text : List UInt8)
  | clear (slot : Nat)
  deriving DecidableEq

namespace Update

/-- The slot an update is for. -/
def slot : Update → Nat
  | .set slot _ | .clear slot => slot

/-- The text the slot has after the update. -/
def text : Update → List UInt8
  | .set _ text => text
  | .clear _ => []

/-- The checks on the arguments, made before any mutex is taken. -/
def accepted (cfg : Config) : Update → Bool
  | .set slot text =>
    slotIsValid cfg slot && decide (text.length ≤ cfg.maxTextLen) && textIsValid text
  | .clear slot => slotIsValid cfg slot

/-- The region under the slots mutex. -/
def changeRam (cfg : Config) : Update → SlotStore → SlotStore
  | .set slot text, s => slotReplace slot text s
  | .clear slot, s => slotErase cfg slot s

/-- The bytes the region copies to the caller's stack: `persisted_value` of a
set. -/
def copied : Update → SlotStore → List UInt8
  | .set slot text, s => ((slotReplace slot text s).slots slot).text.take text.length
  | .clear _, _ => []

/-- The storage call, with the bytes copied before. -/
def persist (update : Update) (bytes : List UInt8) (err : Int) (settings : Settings) : Settings :=
  match update with
  | .set slot _ => settingsSaveOne (slotSettingName slot) bytes err settings
  | .clear slot => settingsDelete (slotSettingName slot) err settings

end Update

/-- Where a thread stands in an update. -/
inductive Phase where
  | idle
  | waiting (update : Update)
  | holding (update : Update)
  | changed (update : Update) (bytes : List UInt8)
  | persisted (update : Update) (err : Int)

/-- The RAM texts, the settings, the owner of the update mutex and the
threads. -/
structure Machine where
  store : SlotStore
  settings : Settings
  owner : Option ThreadId
  phase : ThreadId → Phase

/-- One thread moves on. -/
def Machine.setPhase (thread : ThreadId) (phase : Phase) (m : Machine) : Machine :=
  { m with phase := Function.update m.phase thread phase }

/-- The steps of the update calls, each with its thread, and the two calls that
only read. -/
inductive ThreadEvent where
  | refuse (thread : ThreadId) (update : Update)
  | call (thread : ThreadId) (update : Update)
  | lock (thread : ThreadId) (update : Update)
  | changeRam (thread : ThreadId) (update : Update)
  | persist (thread : ThreadId) (update : Update) (err : Int)
  | unlock (thread : ThreadId) (update : Update) (err : Int)
  | copy (slot textSize : Nat) (outcome : Except Int (List UInt8 × Nat))
  | getLength (slot : Nat) (outcome : Except Int Nat)

/-- One step of one thread in runtime_macro.c:111-177. `unlock` returns `err`,
and `refuse` returns the -EINVAL of the checks before the mutex. -/
def ThreadStep (cfg : Config) (m : Machine) : ThreadEvent → Machine → Prop
  | .refuse thread update, m' =>
    m.phase thread = .idle ∧ update.accepted cfg = false ∧ m' = m
  | .call thread update, m' =>
    m.phase thread = .idle ∧ update.accepted cfg = true ∧ m' = m.setPhase thread (.waiting update)
  | .lock thread update, m' =>
    m.phase thread = .waiting update ∧ m.owner = none ∧
      m' = { m with owner := some thread }.setPhase thread (.holding update)
  | .changeRam thread update, m' =>
    m.phase thread = .holding update ∧
      m' = { m with store := update.changeRam cfg m.store }.setPhase thread
        (.changed update (update.copied m.store))
  | .persist thread update err, m' =>
    ∃ bytes, m.phase thread = .changed update bytes ∧
      m' = { m with settings := update.persist bytes err m.settings }.setPhase thread
        (.persisted update err)
  | .unlock thread update err, m' =>
    m.phase thread = .persisted update err ∧
      m' = { m with owner := none }.setPhase thread .idle
  | .copy slot textSize outcome, m' => m.store.slotCopy cfg slot textSize = outcome ∧ m' = m
  | .getLength slot outcome, m' => m.store.slotGetLength cfg slot = outcome ∧ m' = m

/-! ## The calls on their own -/

section Alone
variable {cfg : Config} {m : Machine} {thread : ThreadId} {update : Update} {err : Int}

/-- What the call does when no other thread is in between. -/
def Update.whole (cfg : Config) (update : Update) (err : Int) (s : SlotStore)
    (settings : Settings) : Int × SlotStore × Settings :=
  match update with
  | .set slot text => s.slotSet cfg slot text text.length err settings
  | .clear slot => s.slotClear cfg slot err settings

theorem whole_of_accepted (accepted : update.accepted cfg = true) (err : Int) (s : SlotStore)
    (settings : Settings) :
    update.whole cfg err s settings = (err, update.changeRam cfg s,
      update.persist (update.copied s) err settings) := by
  cases update with
  | set slot text =>
    simp only [Update.accepted, Bool.and_eq_true, decide_eq_true_eq] at accepted
    obtain ⟨⟨valid, fits⟩, alphabet⟩ := accepted
    have whole := slotSet_of_valid err s settings valid fits
      (by rw [List.take_length]; exact alphabet)
    rw [List.take_length] at whole
    exact whole
  | clear slot => exact slotClear_of_valid err s settings accepted

/-- The steps of a call in a row are the sequential function. -/
theorem call_alone (idle : m.phase thread = .idle) (free : m.owner = none)
    (accepted : update.accepted cfg = true) (err : Int) :
    Run (ThreadStep cfg) m [.call thread update, .lock thread update, .changeRam thread update,
        .persist thread update err, .unlock thread update err]
      { m with
        store := (update.whole cfg err m.store m.settings).2.1
        settings := (update.whole cfg err m.store m.settings).2.2 } := by
  have back : Function.update m.phase thread .idle = m.phase := by
    rw [← idle]
    exact Function.update_eq_self ..
  rw [whole_of_accepted accepted]
  apply Run.cons ⟨idle, accepted, rfl⟩
  apply Run.cons ⟨Function.update_self .., free, rfl⟩
  apply Run.cons ⟨Function.update_self .., rfl⟩
  apply Run.cons ⟨_, Function.update_self .., rfl⟩
  apply Run.single
  refine ⟨Function.update_self .., ?_⟩
  simp [Machine.setPhase, back, free]

end Alone

/-! ## The threads write through -/

/-- The update as a write of its slot. -/
def Update.write (update : Update) : WriteThrough.Write Nat (List UInt8) :=
  ⟨update.slot, update.text⟩

/-- What the write-through model sees of a step. -/
def seen : ThreadEvent → Option (WriteThrough.Event ThreadId Nat (List UInt8))
  | .lock thread update => some (.take thread update.write)
  | .changeRam thread update => some (.publish thread update.write)
  | .persist thread update err => some (.store thread update.write (decide (err = 0)))
  | .unlock thread update err => some (.release thread update.write (decide (err = 0)))
  | _ => none

/-- The stored text of a slot: an absent key and an empty value both mean the
empty text. -/
def storedText (settings : Settings) (slot : Nat) : List UInt8 :=
  (settings.values (slotSettingName slot)).getD []

/-- The stage of the owner of the update mutex. -/
inductive Stands : Phase → WriteThrough.Stage Nat (List UInt8) → Prop
  | holding (update : Update) : Stands (.holding update) (.taken update.write)
  | changed (update : Update) : Stands (.changed update update.text) (.published update.write)
  | persisted (update : Update) (err : Int) :
      Stands (.persisted update err) (.stored update.write (decide (err = 0)))

/-- A thread outside the update mutex. -/
def Outside : Phase → Prop
  | .idle | .waiting _ => True
  | _ => False

/-- The update a thread is in the middle of. -/
def Phase.update? : Phase → Option Update
  | .idle => none
  | .waiting update | .holding update | .changed update _ | .persisted update _ => some update

/-- The machine as a write-through memory of the texts. -/
structure Represents (cfg : Config) (m : Machine)
    (s : WriteThrough.State ThreadId Nat (List UInt8)) : Prop where
  sized : Sized cfg m.store
  memory : ∀ slot, slotIsValid cfg slot = true → SlotStore.HoldsText m.store slot (s.memory slot)
  storage : ∀ slot, slotIsValid cfg slot = true → storedText m.settings slot = s.storage slot
  accepted : ∀ thread update, (m.phase thread).update? = some update →
    update.accepted cfg = true
  others : ∀ thread, m.owner ≠ some thread → Outside (m.phase thread)
  free : m.owner = none → s.lock = none
  held : ∀ thread, m.owner = some thread →
    ∃ stage, s.lock = some (thread, stage) ∧ Stands (m.phase thread) stage

section Simulation
variable {cfg : Config} {m m' : Machine} {s s' : WriteThrough.State ThreadId Nat (List UInt8)}
  {event : ThreadEvent} {thread : ThreadId} {update : Update} {slot : Nat} {text : List UInt8}

theorem holdsText_congr {store store' : SlotStore} (same : store'.slots slot = store.slots slot)
    (holds : SlotStore.HoldsText store slot text) : SlotStore.HoldsText store' slot text := by
  constructor
  · rw [same]
    exact holds.bytes
  · rw [same]
    exact holds.length

theorem slotErase_holds (cfg : Config) (slot : Nat) (store : SlotStore) :
    SlotStore.HoldsText (slotErase cfg slot store) slot [] := by
  constructor
  · simp [slotErase, List.replicate_succ]
  · simp [slotErase]

theorem changeRam_sized {store : SlotStore} (sized : Sized cfg store)
    (accepted : update.accepted cfg = true) : Sized cfg (update.changeRam cfg store) := by
  cases update with
  | set slot text =>
    simp only [Update.accepted, Bool.and_eq_true, decide_eq_true_eq] at accepted
    exact sized.slotReplace slot accepted.1.2
  | clear slot => exact sized.slotErase slot

theorem changeRam_holds {store : SlotStore} (sized : Sized cfg store)
    (accepted : update.accepted cfg = true) :
    SlotStore.HoldsText (update.changeRam cfg store) update.slot update.text := by
  cases update with
  | set slot text =>
    simp only [Update.accepted, Bool.and_eq_true, decide_eq_true_eq] at accepted
    exact slotReplace_holds sized accepted.1.2
  | clear slot => exact slotErase_holds cfg slot store

theorem changeRam_of_ne {store : SlotStore} (different : slot ≠ update.slot) :
    (update.changeRam cfg store).slots slot = store.slots slot := by
  cases update with
  | set target text => exact slotReplace_of_ne different
  | clear target => exact Function.update_of_ne different ..

/-- The bytes on the caller's stack are the text. -/
theorem copied_eq {store : SlotStore} (sized : Sized cfg store)
    (accepted : update.accepted cfg = true) : update.copied store = update.text := by
  cases update with
  | set slot text =>
    have holds : SlotStore.HoldsText (slotReplace slot text store) slot text :=
      changeRam_holds sized accepted
    have front := congrArg (List.take text.length) holds.bytes
    rw [List.take_take, Nat.min_eq_left (Nat.le_succ _), List.take_left] at front
    exact front
  | clear slot => rfl

/-- A storage call that succeeds leaves the text of the update, any other the
old one. -/
theorem persist_storedText (update : Update) (err : Int) (settings : Settings) (slot : Nat) :
    storedText (update.persist update.text err settings) slot =
      if err = 0 ∧ slot = update.slot then update.text else storedText settings slot := by
  have apart : slot ≠ update.slot → slotSettingName slot ≠ slotSettingName update.slot :=
    slotSettingName_injective.ne
  unfold storedText
  by_cases succeeded : err = 0
  · by_cases here : slot = update.slot
    · rw [if_pos ⟨succeeded, here⟩]
      cases update with
      | set target text => simp [Update.persist, settingsSaveOne, succeeded, here, Update.slot]
      | clear target => simp [Update.persist, settingsDelete, succeeded, here, Update.slot,
          Update.text]
    · rw [if_neg fun both => here both.2]
      cases update with
      | set target text =>
        have other : slotSettingName slot ≠ slotSettingName target := apart here
        simp only [Update.persist, settingsSaveOne, if_pos succeeded]
        rw [Function.update_of_ne other]
      | clear target =>
        have other : slotSettingName slot ≠ slotSettingName target := apart here
        simp only [Update.persist, settingsDelete, if_pos succeeded]
        rw [Function.update_of_ne other]
  · rw [if_neg fun both => succeeded both.1]
    cases update with
    | set target text => simp [Update.persist, settingsSaveOne, succeeded]
    | clear target => simp [Update.persist, settingsDelete, succeeded]

/-- The owner of the update mutex is the only thread inside. -/
theorem Represents.stage (represents : Represents cfg m s) {phase : Phase}
    (stands : m.phase thread = phase) (inside : ¬ Outside phase) :
    m.owner = some thread ∧ ∃ stage, s.lock = some (thread, stage) ∧ Stands phase stage := by
  have owner : m.owner = some thread := by
    by_contra other
    have outside := represents.others thread other
    rw [stands] at outside
    exact inside outside
  obtain ⟨stage, held, at'⟩ := represents.held thread owner
  rw [stands] at at'
  exact ⟨owner, stage, held, at'⟩

/-- The phases after one thread has moved on: its update is a checked one, and
the others stand where they stood. -/
theorem accepted_moved (represents : Represents cfg m s) {phase : Phase}
    (moved : m'.phase = Function.update m.phase thread phase)
    (known : ∀ update, phase.update? = some update → update.accepted cfg = true) :
    ∀ other update, (m'.phase other).update? = some update → update.accepted cfg = true := by
  intro other update stands
  rw [moved] at stands
  by_cases same : other = thread
  · subst same
    rw [Function.update_self] at stands
    exact known update stands
  · rw [Function.update_of_ne same] at stands
    exact represents.accepted other update stands

theorem others_moved (represents : Represents cfg m s) {phase : Phase}
    (moved : m'.phase = Function.update m.phase thread phase)
    (alone : ∀ other, other ≠ thread → m.owner ≠ some other)
    (own : m'.owner ≠ some thread → Outside phase) :
    ∀ other, m'.owner ≠ some other → Outside (m'.phase other) := by
  intro other foreign
  rw [moved]
  by_cases same : other = thread
  · subst same
    rw [Function.update_self]
    exact own foreign
  · rw [Function.update_of_ne same]
    exact represents.others other (alone other same)

/-- The owner moves on, or a thread becomes the owner. -/
theorem Represents.moves (represents : Represents cfg m s) {phase : Phase}
    {stage : WriteThrough.Stage Nat (List UInt8)}
    (alone : ∀ other, other ≠ thread → m.owner ≠ some other)
    (moved : m'.phase = Function.update m.phase thread phase) (owner : m'.owner = some thread)
    (known : ∀ update, phase.update? = some update → update.accepted cfg = true)
    (lock : s'.lock = some (thread, stage)) (stands : Stands phase stage)
    (sized : Sized cfg m'.store)
    (memory : ∀ slot, slotIsValid cfg slot = true →
      SlotStore.HoldsText m'.store slot (s'.memory slot))
    (storage : ∀ slot, slotIsValid cfg slot = true →
      storedText m'.settings slot = s'.storage slot) : Represents cfg m' s' := by
  refine ⟨sized, memory, storage, accepted_moved represents moved known,
    others_moved represents moved alone fun other => absurd owner other, ?_, ?_⟩
  · intro free
    cases free.symm.trans owner
  · intro other held
    cases owner.symm.trans held
    refine ⟨stage, lock, ?_⟩
    rw [moved, Function.update_self]
    exact stands

/-- Only the owner is kept out of the way of the owner. -/
theorem alone_of_owner (owner : m.owner = some thread) (other : ThreadId)
    (different : other ≠ thread) : m.owner ≠ some other := by
  rw [owner]
  simpa using Ne.symm different

theorem known_of_stands (represents : Represents cfg m s) {phase : Phase}
    (stands : m.phase thread = phase) (before : phase.update? = some update) :
    update.accepted cfg = true := by
  apply represents.accepted thread
  rw [stands]
  exact before

theorem Represents.step (represents : Represents cfg m s) (step : ThreadStep cfg m event m') :
    ∃ s', Represents cfg m' s' ∧
      (seen event).elim (s' = s) fun event' => WriteThrough.Step s event' s' := by
  cases event with
  | refuse thread update =>
    obtain ⟨_, _, rfl⟩ := step
    exact ⟨s, represents, rfl⟩
  | copy slot textSize outcome =>
    obtain ⟨_, rfl⟩ := step
    exact ⟨s, represents, rfl⟩
  | getLength slot outcome =>
    obtain ⟨_, rfl⟩ := step
    exact ⟨s, represents, rfl⟩
  | call thread update =>
    obtain ⟨idle, accepted, rfl⟩ := step
    have foreign : m.owner ≠ some thread := by
      intro owner
      obtain ⟨stage, _, stands⟩ := represents.held thread owner
      rw [idle] at stands
      cases stands
    refine ⟨s, ⟨represents.sized, represents.memory, represents.storage,
      accepted_moved represents rfl ?_, ?_, represents.free, ?_⟩, rfl⟩
    · rintro _ ⟨⟩
      exact accepted
    · intro other outside
      by_cases same : other = thread
      · subst same
        simp [Machine.setPhase, Outside]
      · simpa [Machine.setPhase, same] using represents.others other outside
    · intro other owner
      obtain ⟨stage, held, stands⟩ := represents.held other owner
      have different : other ≠ thread := by
        rintro rfl
        exact foreign owner
      exact ⟨stage, held, by simpa [Machine.setPhase, different] using stands⟩
  | lock thread update =>
    obtain ⟨waits, free, rfl⟩ := step
    have accepted := known_of_stands represents waits rfl
    refine ⟨{ s with lock := some (thread, .taken update.write) }, ?_, represents.free free, rfl⟩
    refine represents.moves ?_ rfl rfl ?_ rfl (.holding update) represents.sized
      represents.memory represents.storage
    · intro other _
      rw [free]
      simp
    · rintro _ ⟨⟩
      exact accepted
  | changeRam thread update =>
    obtain ⟨stands, rfl⟩ := step
    have accepted := known_of_stands represents stands rfl
    obtain ⟨owner, stage, held, at'⟩ := represents.stage stands id
    cases at'
    refine ⟨{ s with
      memory := Function.update s.memory update.slot update.text
      lock := some (thread, .published update.write) }, ?_, held, rfl⟩
    refine represents.moves (alone_of_owner owner) rfl owner ?_ rfl ?_
      (changeRam_sized represents.sized accepted) ?_ represents.storage
    · rintro _ ⟨⟩
      exact accepted
    · rw [copied_eq represents.sized accepted]
      exact .changed update
    · intro slot valid
      change SlotStore.HoldsText (update.changeRam cfg m.store) slot
        (Function.update s.memory update.slot update.text slot)
      by_cases here : slot = update.slot
      · subst here
        rw [Function.update_self]
        exact changeRam_holds represents.sized accepted
      · rw [Function.update_of_ne here]
        exact holdsText_congr (changeRam_of_ne here) (represents.memory slot valid)
  | persist thread update err =>
    obtain ⟨bytes, stands, rfl⟩ := step
    have accepted := known_of_stands represents stands rfl
    obtain ⟨owner, stage, held, at'⟩ := represents.stage stands id
    cases at'
    refine ⟨{ s with
      storage := if decide (err = 0) then Function.update s.storage update.slot update.text
        else s.storage
      lock := some (thread, .stored update.write (decide (err = 0))) }, ?_, held, rfl⟩
    refine represents.moves (alone_of_owner owner) rfl owner ?_ rfl (.persisted update err)
      represents.sized represents.memory ?_
    · rintro _ ⟨⟩
      exact accepted
    · intro slot valid
      have written := persist_storedText update err m.settings slot
      refine written.trans ?_
      rw [represents.storage slot valid]
      by_cases succeeded : err = 0
      · by_cases here : slot = update.slot
        · subst here
          simp [succeeded]
        · simp [succeeded, here]
      · simp [succeeded]
  | unlock thread update err =>
    obtain ⟨stands, rfl⟩ := step
    obtain ⟨owner, stage, held, at'⟩ := represents.stage stands id
    cases at'
    refine ⟨{ s with lock := none }, ⟨represents.sized, represents.memory, represents.storage,
      accepted_moved represents rfl ?_,
      others_moved represents rfl (alone_of_owner owner) fun _ => trivial, fun _ => rfl, ?_⟩,
      held, rfl⟩
    · rintro _ ⟨⟩
    · intro other taken
      cases taken

end Simulation

/-- Every thread idle, the update mutex free, and a text in every slot. -/
structure Settled (cfg : Config) (initial : Nat → List UInt8) (m : Machine) : Prop where
  sized : Sized cfg m.store
  holds : ∀ slot, slotIsValid cfg slot = true → SlotStore.HoldsText m.store slot (initial slot)
  free : m.owner = none
  idle : ∀ thread, m.phase thread = .idle

/-- A settled machine as a write-through memory. -/
def Machine.initially (initial : Nat → List UInt8) (m : Machine) :
    WriteThrough.State ThreadId Nat (List UInt8) where
  memory := initial
  storage := storedText m.settings
  lock := none

theorem Settled.represents {cfg : Config} {initial : Nat → List UInt8} {m : Machine}
    (settled : Settled cfg initial m) : Represents cfg m (m.initially initial) := by
  refine ⟨settled.sized, settled.holds, fun _ _ => rfl, ?_, ?_, fun _ => rfl, ?_⟩
  · intro thread update stands
    rw [settled.idle] at stands
    cases stands
  · intro thread _
    rw [settled.idle]
    trivial
  · intro thread owner
    cases settled.free.symm.trans owner

/-- Every run of the threads is a run of the write-through memory. -/
theorem run_writesThrough {cfg : Config} {initial : Nat → List UInt8} {m m' : Machine}
    {events : List ThreadEvent} (settled : Settled cfg initial m)
    (run : Run (ThreadStep cfg) m events m') :
    ∃ s', Run WriteThrough.Step (m.initially initial) (events.filterMap seen) s' ∧
      Represents cfg m' s' :=
  run.refines (Represents cfg) settled.represents fun _ _ _ _ represents step =>
    represents.step step

end RuntimeMacro.Source.SlotThreads
