import RuntimeMacro.Source.Device
import RuntimeMacro.Source.ExecutorRuns

/-!
# Static slots under any settings input

runtime_macro.c:42-58,129-153,209-328. A text comes into a slot from a settings
callback, from the defaults or from `slot_set`. Each of these routes has its
own checks of length and alphabet. The executor, which types what a slot holds,
relies on all of them.
-/
namespace RuntimeMacro.Guarantees.WellFormedSlots
open Source Foundations Foundations.Runs
open SlotStore (slotIsValid textIsValid slotReplace defaultText decimal)

variable {cfg : Config}

/-- A text over the alphabet and its terminator, inside the buffer of a
slot. -/
structure WellFormed (cfg : Config) (slot : Slot) : Prop where
  capacity : slot.text.length = cfg.maxTextLen + 1
  fits : slot.length ≤ cfg.maxTextLen
  alphabet : ∀ byte ∈ slot.text.take slot.length, Ascii.byteIsValid byte = true
  terminator : slot.text[slot.length]? = some 0

/-- Every static slot is well formed. -/
def Shaped (cfg : Config) (s : SlotStore) : Prop := ∀ slot, WellFormed cfg (s.slots slot)

/-! ## One text -/

theorem WellFormed.zeroed : WellFormed cfg ⟨List.replicate (cfg.maxTextLen + 1) 0, 0⟩ where
  capacity := List.length_replicate
  fits := Nat.zero_le _
  alphabet := by simp
  terminator := by simp

theorem Shaped.boot : Shaped cfg (.boot cfg) := fun _ => .zeroed

theorem Shaped.congr {s s' : SlotStore} (shaped : Shaped cfg s) (same : s'.slots = s.slots) :
    Shaped cfg s' := by
  intro slot
  rw [same]
  exact shaped slot

theorem Shaped.slotReplace {s : SlotStore} (shaped : Shaped cfg s) (slot : Nat)
    {text : List UInt8} (fits : text.length ≤ cfg.maxTextLen)
    (alphabet : textIsValid text = true) : Shaped cfg (s.slotReplace slot text) := by
  have sized : SlotStore.Sized cfg s := fun other => ⟨(shaped other).capacity, (shaped other).fits⟩
  intro other
  by_cases same : other = slot
  · subst same
    obtain ⟨capacity, inside⟩ := sized.slotReplace other fits other
    have spelled := SlotStore.textOf_slotReplace other text s
    have copied : text.length ≤ (ByteBuffer.write (s.slots other).text 0 text).length := by
      rw [ByteBuffer.write_length _ _ _ (by rw [(shaped other).capacity]; omega),
        (shaped other).capacity]
      omega
    refine ⟨capacity, inside, fun byte member => ?_, ?_⟩
    · rw [SlotStore.textOf] at spelled
      rw [spelled] at member
      exact List.all_eq_true.mp alphabet byte member
    · simp only [SlotStore.slotReplace, Function.update_self]
      exact ByteBuffer.write_getElem?_start _ _ _ _ copied
  · rw [SlotStore.slotReplace_of_ne same]
    exact shaped other

theorem Shaped.slotErase {s : SlotStore} (shaped : Shaped cfg s) (slot : Nat) :
    Shaped cfg (s.slotErase cfg slot) := by
  intro other
  by_cases same : other = slot
  · subst same
    simp only [SlotStore.slotErase, Function.update_self]
    exact .zeroed
  · simp only [SlotStore.slotErase, Function.update_of_ne same]
    exact shaped other

/-! ## One settings callback -/

/-- A callback refuses its key and leaves the texts, or puts one text into the
slot its key names. -/
inductive CallbackEffect (cfg : Config) (name : Option Name) (s s' : SlotStore) : Int → Prop
  | kept {result : Int} (same : s'.slots = s.slots) : CallbackEffect cfg name s s' result
  | loaded (slot : Nat) (text : List UInt8)
      (named : name = some (ascii "slot" ++ 0x2F :: decimal slot))
      (fits : text.length ≤ cfg.maxTextLen) (alphabet : textIsValid text = true)
      (same : s'.slots = (s.slotReplace slot text).slots) : CallbackEffect cfg name s s' 0

theorem settingsSetSlot_effect (slot length : Nat) (readCb : Option SettingsReadCb)
    (s : SlotStore) :
    CallbackEffect cfg (some (ascii "slot" ++ 0x2F :: decimal slot)) s
      (SlotStore.settingsSetSlot cfg slot length readCb s).2
      (SlotStore.settingsSetSlot cfg slot length readCb s).1 := by
  unfold SlotStore.settingsSetSlot
  dsimp only
  split
  · exact .kept rfl
  · split
    · exact .kept rfl
    next fits =>
      split
      · exact .kept rfl
      · split
        · exact .kept rfl
        · split
          · exact .kept rfl
          next alphabet =>
            refine .loaded slot _ rfl ?_ (by simpa using alphabet) rfl
            rw [List.length_take]
            omega

theorem settingsSet_effect (name : Option Name) (length : Nat) (readCb : Option SettingsReadCb)
    (auth : AuthCore.State) (s : SlotStore) :
    CallbackEffect cfg name s (SlotStore.settingsSet cfg name length readCb auth s).2.2
      (SlotStore.settingsSet cfg name length readCb auth s).1 := by
  unfold SlotStore.settingsSet
  split
  · exact .kept rfl
  next name =>
    dsimp only
    split
    · exact .kept rfl
    · split
      next next _ =>
        apply CallbackEffect.kept
        unfold SlotStore.settingsSetDefaults
        split
        · rfl
        · dsimp only
          split
          · rfl
          · split
            · rfl
            · split
              · rfl
              · rfl
      · split
        · exact .kept rfl
        next next matched =>
          split
          · exact .kept rfl
          next slot parsed =>
            have digits := SlotStore.parseSlot_ok parsed
            subst digits
            rw [SlotStore.settingsNameSteq_some matched]
            exact settingsSetSlot_effect slot length readCb s

theorem CallbackEffect.shaped {name : Option Name} {s s' : SlotStore} {result : Int}
    (effect : CallbackEffect cfg name s s' result) (shaped : Shaped cfg s) : Shaped cfg s' := by
  cases effect with
  | kept same => exact shaped.congr same
  | loaded slot text named fits alphabet same =>
    exact (shaped.slotReplace slot fits alphabet).congr same

theorem Shaped.commitDefaults {s : SlotStore} (shaped : Shaped cfg s) (saveErr : Name → Int)
    (settings : Settings) : Shaped cfg (SlotStore.commitDefaults cfg saveErr s settings).1 := by
  apply SlotStore.commitDefaults_keeps _ _ shaped
  · intro s s' same shaped
    exact shaped.congr same
  · intro s slot _ shaped
    exact shaped.slotReplace slot (SlotStore.defaultText_fits cfg slot)
      (SlotStore.defaultText_valid cfg slot)

/-! ## The executor -/

/-- The text under way is inside the buffer and over the alphabet. -/
structure Typeable (e : Executor) : Prop where
  capacity : e.text.length = executorMaxTextLen + 1
  fits : e.busy = true → e.index < e.length ∧ e.length ≤ executorMaxTextLen
  alphabet : e.busy = true → ∀ byte ∈ e.text.take e.length, Ascii.byteIsValid byte = true

theorem Typeable.idle : Typeable .idle := ⟨List.length_replicate, nofun, nofun⟩

theorem Typeable.finish (e : Executor) : Typeable e.finish := ⟨List.length_replicate, nofun, nofun⟩

theorem Typeable.start {e e' : Executor} {text : List UInt8} {length : Nat}
    {scheduled result : Int} (typeable : Typeable e) (enough : length ≤ text.length)
    (alphabet : textIsValid (text.take length) = true)
    (started : e.start text length scheduled = (result, e')) : Typeable e' := by
  rcases start_cases started with
    ⟨_, _, rfl⟩ | ⟨_, _, _, rfl⟩ |
      ⟨fits, _, ⟨_, _, rfl⟩ | ⟨_, _, _, _, _, rfl⟩ | ⟨positive, _, rfl⟩⟩
  · exact typeable
  · exact typeable
  · exact .finish _
  · exact .finish _
  · have taken : (text.take length).length = length := List.length_take_of_le enough
    have fitting : (text.take length).length ≤ executorMaxTextLen := by omega
    have held := Executor.start_text typeable.capacity fitting
    rw [taken] at held
    refine ⟨held.2, fun _ => ⟨positive, fits⟩, fun _ byte member => ?_⟩
    rw [held.1] at member
    exact List.all_eq_true.mp alphabet byte member

/-- The byte the handler reads is one of the text. -/
theorem Typeable.read {e : Executor} (typeable : Typeable e) (busy : e.busy = true) :
    Ascii.byteIsValid (e.text.getD e.index 0) = true := by
  obtain ⟨inside, fits⟩ := typeable.fits busy
  have capacity := typeable.capacity
  have here : e.index < e.text.length := by omega
  apply typeable.alphabet busy
  rw [List.getD_eq_getElem?_getD, List.getElem?_eq_getElem here, Option.getD_some]
  exact List.mem_take_iff_getElem.mpr ⟨e.index, by omega, rfl⟩

theorem Typeable.workHandler {e : Executor} (typeable : Typeable e) (scheduled : Int) :
    Typeable (e.workHandler scheduled).2 := by
  unfold Executor.workHandler
  dsimp only
  split
  next idle => exact ⟨typeable.capacity, typeable.fits, typeable.alphabet⟩
  · split
    · split
      · exact .finish _
      · split
        · exact .finish _
        · exact ⟨typeable.capacity, typeable.fits, typeable.alphabet⟩
    · split
      · exact .finish _
      next more =>
        split
        · exact .finish _
        · exact ⟨typeable.capacity,
            fun busy => ⟨Nat.not_le.mp more, (typeable.fits busy).2⟩, typeable.alphabet⟩

/-- The branch of the handler for a byte that has no keycode. -/
def Rejects (e : Executor) : Prop :=
  e.busy = true ∧ e.phase = .press ∧
    ∃ err, Ascii.asciiToKeycode (e.text.getD e.index 0) = .error err

theorem Typeable.accepts {e : Executor} (typeable : Typeable e) : ¬ Rejects e := by
  rintro ⟨busy, _, err, unknown⟩
  have known := typeable.read busy
  rw [Ascii.byteIsValid, unknown] at known
  cases known

/-! ## The slots and the executor -/

/-- The executor, the slots and their storage, and the authentication core,
which sees every key first. -/
structure Keyboard where
  typing : Typing
  auth : AuthCore.State

/-- `auth` is whatever else happens to the authentication core. -/
inductive KeyboardEvent where
  | settingsSet (name : Option Name) (length : Nat) (readCb : Option SettingsReadCb) (result : Int)
  | settingsCommit (saveErr : Name → Int)
  | call (event : TypingEvent)
  | auth (auth : AuthCore.State)

/-- The other callers of the executor are the dynamic slots, which hold texts
over the alphabet only. -/
def Spells : TypingEvent → Prop
  | .start text _ _ => textIsValid text = true
  | _ => True

/-- The steps a keyboard of static slots takes: loading, commands, and
typing. -/
inductive KeyboardStep (cfg : Config) (s : Keyboard) : KeyboardEvent → Keyboard → Prop
  | settingsSet {name : Option Name} {length : Nat} {readCb : Option SettingsReadCb} {result : Int}
      {auth : AuthCore.State} {store : SlotStore}
      (called : SlotStore.settingsSet cfg name length readCb s.auth s.typing.store =
        (result, auth, store)) :
      KeyboardStep cfg s (.settingsSet name length readCb result)
        ⟨{ s.typing with store := store }, auth⟩
  | settingsCommit {saveErr : Name → Int} {auth : AuthCore.State} {store : SlotStore}
      {settings : Settings}
      (called : SlotStore.settingsCommit cfg saveErr s.auth s.typing.store s.typing.settings =
        (auth, store, settings)) :
      KeyboardStep cfg s (.settingsCommit saveErr)
        ⟨{ s.typing with store := store, settings := settings }, auth⟩
  | call {event : TypingEvent} {typing : Typing} (spells : Spells event)
      (step : TypingStep cfg s.typing event typing) :
      KeyboardStep cfg s (.call event) ⟨typing, s.auth⟩
  | auth {auth : AuthCore.State} : KeyboardStep cfg s (.auth auth) ⟨s.typing, auth⟩

variable {s s' : Keyboard} {event : KeyboardEvent}
  {moments : List (Moment Keyboard KeyboardEvent)}

/-- The slots have their form, and the executor holds nothing it could not
type. -/
structure Sound (cfg : Config) (s : Keyboard) : Prop where
  slots : Shaped cfg s.typing.store
  executor : Typeable s.typing.executor

theorem typing_sound {t t' : Typing} {event : TypingEvent} (shaped : Shaped cfg t.store)
    (typeable : Typeable t.executor) (spells : Spells event) (step : TypingStep cfg t event t') :
    Shaped cfg t'.store ∧ Typeable t'.executor := by
  cases event with
  | start text scheduled result =>
    obtain ⟨started, store, _⟩ := step
    rw [store]
    refine ⟨shaped, typeable.start (Nat.le_refl _) ?_ started⟩
    rw [List.take_length]
    exact spells
  | execute slot scheduled result =>
    obtain ⟨executed, store, _⟩ := step
    rw [store]
    refine ⟨shaped, ?_⟩
    unfold Typing.execute at executed
    split at executed
    · have executor : t.executor = t'.executor := congrArg Prod.snd executed
      rw [← executor]
      exact typeable
    next snapshot length copied =>
      have whole := shaped slot
      have capacity := whole.capacity
      have fits := whole.fits
      unfold SlotStore.slotCopy at copied
      dsimp only at copied
      rw [if_neg (by omega : ¬ cfg.maxTextLen + 1 ≤ (t.store.slots slot).length)] at copied
      split at copied
      · cases copied
      · simp only [Except.ok.injEq, Prod.mk.injEq] at copied
        obtain ⟨rfl, rfl⟩ := copied
        apply typeable.start _ _ executed
        · rw [List.length_take]
          omega
        · rw [List.take_take, Nat.min_eq_left (Nat.le_succ _)]
          exact List.all_eq_true.mpr whole.alphabet
  | slotSet slot text length saveErr result =>
    obtain ⟨set, executor⟩ := step
    rw [executor]
    refine ⟨?_, typeable⟩
    rcases SlotStore.slotSet_cases cfg slot text length saveErr t.store t.settings with
      refused | ⟨_, fits, alphabet, accepted⟩
    · rw [refused] at set
      have store : t.store = t'.store := congrArg (fun outcome => outcome.2.1) set
      rw [← store]
      exact shaped
    · rw [accepted] at set
      have store : t.store.slotReplace slot (text.take length) = t'.store :=
        congrArg (fun outcome => outcome.2.1) set
      rw [← store]
      apply shaped.slotReplace slot _ alphabet
      rw [List.length_take]
      omega
  | slotClear slot deleteErr result =>
    obtain ⟨cleared, executor⟩ := step
    rw [executor]
    refine ⟨?_, typeable⟩
    have store : (t.store.slotClear cfg slot deleteErr t.settings).2.1 = t'.store :=
      congrArg (fun outcome => outcome.2.1) cleared
    rw [← store]
    unfold SlotStore.slotClear
    split
    · exact shaped
    · exact shaped.slotErase slot
  | work scheduled raised =>
    obtain ⟨_, worked, store, _⟩ := step
    have executor : (t.executor.workHandler scheduled).2 = t'.executor :=
      congrArg Prod.snd worked
    rw [store, ← executor]
    exact ⟨shaped, typeable.workHandler scheduled⟩

theorem Sound.step (sound : Sound cfg s) (step : KeyboardStep cfg s event s') : Sound cfg s' := by
  cases step with
  | @settingsSet name length readCb result auth store called =>
    have effect := @settingsSet_effect cfg name length readCb s.auth s.typing.store
    rw [called] at effect
    exact ⟨effect.shaped sound.slots, sound.executor⟩
  | @settingsCommit saveErr auth store settings called =>
    have committed := sound.slots.commitDefaults saveErr s.typing.settings
    have left : (SlotStore.commitDefaults cfg saveErr s.typing.store s.typing.settings).1 = store :=
      congrArg (fun outcome => outcome.2.1) called
    rw [left] at committed
    exact ⟨committed, sound.executor⟩
  | call spells step =>
    obtain ⟨slots, executor⟩ := typing_sound sound.slots sound.executor spells step
    exact ⟨slots, executor⟩
  | auth => exact ⟨sound.slots, sound.executor⟩

/-- From boot on, any sequence of settings callbacks, commits, updates and
executions. -/
theorem run_sound {settings : Settings} {auth : AuthCore.State}
    (run : Run (Traced (KeyboardStep cfg)) ⟨⟨.idle, .boot cfg, settings⟩, auth⟩ moments s) :
    Sound cfg s := by
  refine run.invariant (Sound cfg) ⟨.boot, .idle⟩ ?_
  rintro before moment after sound ⟨rfl, rfl, step⟩
  exact sound.step step

theorem CallbackEffect.refused {name : Option Name} {s s' : SlotStore} {result : Int}
    (effect : CallbackEffect cfg name s s' result) (error : result ≠ 0) : s'.slots = s.slots := by
  cases effect with
  | kept same => exact same
  | loaded => exact absurd rfl error

theorem CallbackEffect.unnamed {name : Option Name} {s s' : SlotStore} {result : Int}
    (effect : CallbackEffect cfg name s s' result)
    (other : ∀ slot, name ≠ some (ascii "slot" ++ 0x2F :: decimal slot)) : s'.slots = s.slots := by
  cases effect with
  | kept same => exact same
  | loaded slot _ named => exact absurd named (other slot)

/-- A callback that returns an error, and one whose key is no slot's, leaves
every text and length; one for the key of a slot leaves those of the others. -/
theorem settingsSet_frame {name : Option Name} {length : Nat} {readCb : Option SettingsReadCb}
    {result : Int} (step : KeyboardStep cfg s (.settingsSet name length readCb result) s') :
    (result ≠ 0 → s'.typing.store.slots = s.typing.store.slots) ∧
      ((∀ slot, name ≠ some (ascii "slot" ++ 0x2F :: decimal slot)) →
        s'.typing.store.slots = s.typing.store.slots) ∧
      ∀ slot, slotIsValid cfg slot = true →
        name = some (ascii "slot" ++ 0x2F :: decimal slot) → ∀ other, other ≠ slot →
          s'.typing.store.slots other = s.typing.store.slots other := by
  cases step with
  | @settingsSet _ _ _ _ auth store called =>
    have effect := @settingsSet_effect cfg name length readCb s.auth s.typing.store
    rw [called] at effect
    refine ⟨effect.refused, effect.unnamed, ?_⟩
    rintro slot valid rfl other different
    have left : (SlotStore.settingsSet cfg (some (ascii "slot" ++ 0x2F :: decimal slot)) length
        readCb s.auth s.typing.store).2.2 = store := congrArg (fun outcome => outcome.2.2) called
    rw [SlotStore.settingsSet_slot valid] at left
    dsimp only
    rw [← left]
    exact (SlotStore.settingsSetSlot_of_ne different length readCb).1

/-- In every state each slot holds a text over the alphabet with its
terminator. A settings callback that returns an error leaves the slots, and one
that returns 0 for the key of a slot leaves the others. No run of the
executor's work meets a byte outside the alphabet or leaves the executor's
buffer. -/
theorem slots_well_formed {settings : Settings} {auth : AuthCore.State}
    (run : Run (Traced (KeyboardStep cfg)) ⟨⟨.idle, .boot cfg, settings⟩, auth⟩ moments s) :
    (∀ slot, WellFormed cfg (s.typing.store.slots slot)) ∧
    (∀ moment ∈ moments, ∀ name length readCb result,
      moment.event = .settingsSet name length readCb result →
        (result ≠ 0 → moment.after.typing.store.slots = moment.before.typing.store.slots) ∧
        ((∀ slot, name ≠ some (ascii "slot" ++ 0x2F :: decimal slot)) →
          moment.after.typing.store.slots = moment.before.typing.store.slots) ∧
        ∀ slot, slotIsValid cfg slot = true →
          name = some (ascii "slot" ++ 0x2F :: decimal slot) → ∀ other, other ≠ slot →
            moment.after.typing.store.slots other = moment.before.typing.store.slots other) ∧
    s.typing.executor.text.length = executorMaxTextLen + 1 ∧
    ∀ moment ∈ moments, ∀ scheduled raised, moment.event = .call (.work scheduled raised) →
      ¬ Rejects moment.before.typing.executor ∧
        (moment.before.typing.executor.busy = true →
          moment.before.typing.executor.index < moment.before.typing.executor.text.length) := by
  have sound := run_sound run
  refine ⟨sound.slots, ?_, sound.executor.capacity, ?_⟩
  · intro moment member name length readCb result called
    have step := run.moment_step moment member
    rw [called] at step
    exact settingsSet_frame step
  · intro moment member scheduled raised _
    obtain ⟨front, back, split⟩ := List.append_of_mem member
    rw [split] at run
    obtain ⟨before, after, earlier, ⟨rfl, rfl, _⟩, _⟩ := run.around
    have typeable := (run_sound earlier).executor
    refine ⟨typeable.accepts, fun busy => ?_⟩
    obtain ⟨inside, fits⟩ := typeable.fits busy
    have capacity := typeable.capacity
    omega

def sampleStart : Keyboard := ⟨⟨.idle, .boot .default, .empty⟩, .boot⟩

/-- A stored value is delivered to a slot. -/
def Keyboard.loading (name : Name) (length : Nat) (bytes : List UInt8) (s : Keyboard) : Keyboard :=
  ⟨{ s.typing with store := (SlotStore.settingsSet .default (some name) length
      (some fun _ => (bytes.length, bytes)) s.auth s.typing.store).2.2 }, s.auth⟩

def sampleLoaded : Keyboard :=
  (sampleStart.loading (ascii "slot/0") 2 [72, 105]).loading (ascii "slot/1") 3 [72, 105]

def sampleTyping : Keyboard :=
  ⟨{ sampleLoaded.typing with executor := (sampleLoaded.typing.execute .default 0 0).2 }, .boot⟩

/-- One more run of the executor. -/
def Keyboard.typingOn (s : Keyboard) : Keyboard :=
  ⟨{ s.typing with executor := (s.typing.executor.workHandler 0).2 }, s.auth⟩

/-- The event of such a delivery, with what the callback returned. -/
def loadEvent (name : Name) (length : Nat) (bytes : List UInt8) (result : Int) : KeyboardEvent :=
  .settingsSet (some name) length (some fun _ => (bytes.length, bytes)) result

/-- A text of slot 0 is loaded, one of slot 1 is cut short by storage, and slot
0 is typed up to the release of its first key. -/
def sampleEvents : List KeyboardEvent :=
  [loadEvent (ascii "slot/0") 2 [72, 105] 0, loadEvent (ascii "slot/1") 3 [72, 105] (-eio),
    .call (.execute 0 0 0), .call (.work 0 [(0x207000B, true)]),
    .call (.work 0 [(0x207000B, false)])]

theorem sample_run :
    Run (KeyboardStep .default) sampleStart sampleEvents sampleTyping.typingOn.typingOn := by
  have loaded : KeyboardStep .default sampleStart (loadEvent (ascii "slot/0") 2 [72, 105] 0)
      (sampleStart.loading (ascii "slot/0") 2 [72, 105]) := .settingsSet rfl
  have refused : KeyboardStep .default (sampleStart.loading (ascii "slot/0") 2 [72, 105])
      (loadEvent (ascii "slot/1") 3 [72, 105] (-eio)) sampleLoaded := .settingsSet rfl
  have typing : KeyboardStep .default sampleLoaded (.call (.execute 0 0 0)) sampleTyping :=
    .call trivial ⟨rfl, rfl, rfl⟩
  have press : KeyboardStep .default sampleTyping (.call (.work 0 [(0x207000B, true)]))
      sampleTyping.typingOn := .call trivial ⟨rfl, rfl, rfl, rfl⟩
  have release : KeyboardStep .default sampleTyping.typingOn
      (.call (.work 0 [(0x207000B, false)])) sampleTyping.typingOn.typingOn :=
    .call trivial ⟨rfl, rfl, rfl, rfl⟩
  exact .cons loaded (.cons refused (.cons typing (.cons press (.single release))))

/-- At the first run of the work item the executor holds the loaded text, whose
bytes all have keys. -/
theorem slots_well_formed_sample : ∃ moments,
    Run (Traced (KeyboardStep .default)) sampleStart moments sampleTyping.typingOn.typingOn ∧
      moments.map Moment.event = sampleEvents ∧
      (WellFormed .default (sampleTyping.typingOn.typingOn.typing.store.slots 0) ∧
        (sampleTyping.typing.store.slots 0).length = 2) ∧
      ∃ moment ∈ moments, moment.event = .call (.work 0 [(0x207000B, true)]) ∧
        ¬ Rejects moment.before.typing.executor := by
  obtain ⟨moments, events, traced⟩ := sample_run.traced
  obtain ⟨wellFormed, _, _, accepts⟩ := slots_well_formed traced
  have typed : KeyboardEvent.call (.work 0 [(0x207000B, true)]) ∈ moments.map Moment.event := by
    rw [events]
    simp [sampleEvents]
  obtain ⟨moment, member, event⟩ := List.mem_map.mp typed
  exact ⟨moments, traced, events, ⟨wellFormed 0, by decide +kernel⟩, moment, member, event,
    (accepts moment member _ _ event).1⟩

end RuntimeMacro.Guarantees.WellFormedSlots
