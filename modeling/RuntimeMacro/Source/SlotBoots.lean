import RuntimeMacro.Foundations.Scans
import RuntimeMacro.Source.SlotSettings

/-!
# Boots and slot updates

runtime_macro.c:129-177,209-328. A boot zeroes RAM, hands every stored key to
the settings handler, in an order of the backend's choice, and commits. Between
boots the slots are set and cleared. Every storage call may fail.
-/
namespace RuntimeMacro.Source
open Foundations Foundations.Runs
open Foundations.Scans (foldl_reaches)

/-- What a power cycle touches: the core, the slots in RAM, and the settings
that stay. -/
structure Device where
  auth : AuthCore.State
  store : SlotStore
  settings : Settings

/-- The backend reads a stored value from its start. -/
def readerOf (value : List UInt8) : SettingsReadCb := fun size =>
  (min size value.length, value.take size)

/-- The callback of one stored key, under the name behind the subtree. -/
def deliverKey (cfg : Config) (settings : Settings) (loaded : AuthCore.State × SlotStore)
    (key : Name) : AuthCore.State × SlotStore :=
  match settings.values key, settingsNameSteq key (ascii "runtime_macro") with
  | some value, some name =>
    (SlotStore.settingsSet cfg name value.length (some (readerOf value)) loaded.1 loaded.2).2
  | _, _ => loaded

/-- Every stored key delivered to the callbacks, in the order the backend
chooses. -/
def loadKeys (cfg : Config) (settings : Settings) (order : List Name) :
    AuthCore.State × SlotStore :=
  order.foldl (deliverKey cfg settings) (.boot, .boot cfg)

/-- A power-up: RAM as the linker set it, the stored keys, the commit. -/
def Device.boot (cfg : Config) (order : List Name) (saveErr : Name → Int) (settings : Settings) :
    Device :=
  let loaded := loadKeys cfg settings order
  let (auth, store, settings) := SlotStore.settingsCommit cfg saveErr loaded.1 loaded.2 settings
  ⟨auth, store, settings⟩

/-- Every stored key once. -/
structure StoredKeys (settings : Settings) (order : List Name) : Prop where
  once : order.Nodup
  all : ∀ key, key ∈ order ↔ (settings.values key).isSome = true

/-- Power-ups, and the two calls that change a slot. -/
inductive StorageEvent where
  | boot (order : List Name) (saveErr : Name → Int)
  | slotSet (slot : Nat) (text : List UInt8) (saveErr result : Int)
  | slotClear (slot : Nat) (deleteErr result : Int)

/-- The step relation of a device that is switched off and on at any time. -/
def StorageStep (cfg : Config) (d : Device) : StorageEvent → Device → Prop
  | .boot order saveErr, d' =>
    StoredKeys d.settings order ∧ d' = .boot cfg order saveErr d.settings
  | .slotSet slot text saveErr result, d' =>
    d.store.slotSet cfg slot text text.length saveErr d.settings =
      (result, d'.store, d'.settings) ∧ d'.auth = d.auth
  | .slotClear slot deleteErr result, d' =>
    d.store.slotClear cfg slot deleteErr d.settings = (result, d'.store, d'.settings) ∧
      d'.auth = d.auth

/-- The call changes the slot: it names it and passes the checks on its
arguments. -/
def StorageEvent.updates (cfg : Config) (slot : Nat) : StorageEvent → Bool
  | .boot .. => false
  | .slotSet target text _ _ =>
    target == slot && decide (text.length ≤ cfg.maxTextLen) && SlotStore.textIsValid text
  | .slotClear target _ _ => target == slot

namespace SlotStore

/-- The slot holds the text, and a stored key is known for it. -/
structure HoldsText (s : SlotStore) (slot : Nat) (text : List UInt8) : Prop where
  bytes : (s.slots slot).text.take (text.length + 1) = text ++ [0]
  length : (s.slots slot).length = text.length

section Loading
variable {cfg : Config} {s : SlotStore} {settings : Settings} {slot : Nat} {text : List UInt8}
  {order : List Name}

theorem slotReplace_holds (sized : Sized cfg s) (fits : text.length ≤ cfg.maxTextLen) :
    HoldsText (slotReplace slot text s) slot text := by
  have capacity := (sized slot).1
  have copied : (ByteBuffer.write (s.slots slot).text 0 text).length = cfg.maxTextLen + 1 := by
    rw [ByteBuffer.write_length _ _ _ (by omega), capacity]
  constructor
  · simp only [slotReplace, Function.update_self]
    have ended :=
      ByteBuffer.write_take (ByteBuffer.write (s.slots slot).text 0 text) text.length [0]
    rw [List.length_singleton] at ended
    rw [ended, ByteBuffer.write_take_zero]
  · simp only [slotReplace, Function.update_self]

theorem slotReplace_of_ne {other : Nat} (different : slot ≠ other) :
    (slotReplace other text s).slots slot = s.slots slot := by
  simp [slotReplace, different]

/-- The slot branch remembers the key and replaces the text, if its value is
well formed. -/
theorem settingsSetSlot_cases (cfg : Config) (slot length : Nat) (readCb : Option SettingsReadCb)
    (s : SlotStore) :
    ∃ flagged : SlotStore, flagged.slots = s.slots ∧
      flagged.hasPersistedSetting = Function.update s.hasPersistedSetting slot true ∧
      ((settingsSetSlot cfg slot length readCb s).2 = flagged ∨
        ∃ value : List UInt8, value.length ≤ cfg.maxTextLen ∧
          (settingsSetSlot cfg slot length readCb s).2 = slotReplace slot value flagged) := by
  refine ⟨{ s with hasPersistedSetting := Function.update s.hasPersistedSetting slot true }, rfl,
    rfl, ?_⟩
  unfold settingsSetSlot
  dsimp only
  split
  · exact Or.inl rfl
  · split
    · exact Or.inl rfl
    next fits =>
      split
      · exact Or.inl rfl
      · split
        · exact Or.inl rfl
        · split
          · exact Or.inl rfl
          · refine Or.inr ⟨_, ?_, rfl⟩
            rw [List.length_take]
            omega

theorem settingsSetSlot_of_ne {other : Nat} (different : slot ≠ other) (length : Nat)
    (readCb : Option SettingsReadCb) :
    (settingsSetSlot cfg other length readCb s).2.slots slot = s.slots slot ∧
      (settingsSetSlot cfg other length readCb s).2.hasPersistedSetting slot =
        s.hasPersistedSetting slot := by
  obtain ⟨flagged, slots, flags, same | ⟨value, _, same⟩⟩ :=
    settingsSetSlot_cases cfg other length readCb s
  · rw [same, slots, flags]
    exact ⟨rfl, Function.update_of_ne different ..⟩
  · rw [same, slotReplace_of_ne different, slots]
    refine ⟨rfl, ?_⟩
    change flagged.hasPersistedSetting slot = s.hasPersistedSetting slot
    rw [flags]
    exact Function.update_of_ne different ..

theorem settingsSetSlot_flag (length : Nat) (readCb : Option SettingsReadCb) :
    (settingsSetSlot cfg slot length readCb s).2.hasPersistedSetting slot = true := by
  obtain ⟨flagged, _, flags, same | ⟨value, _, same⟩⟩ :=
    settingsSetSlot_cases cfg slot length readCb s
  · rw [same, flags]
    exact Function.update_self ..
  · rw [same]
    change flagged.hasPersistedSetting slot = true
    rw [flags]
    exact Function.update_self ..

theorem settingsSetSlot_sized (sized : Sized cfg s) (length : Nat)
    (readCb : Option SettingsReadCb) : Sized cfg (settingsSetSlot cfg slot length readCb s).2 := by
  obtain ⟨flagged, slots, _, same | ⟨value, fits, same⟩⟩ :=
    settingsSetSlot_cases cfg slot length readCb s
  · rw [same]
    intro other
    rw [slots]
    exact sized other
  · rw [same]
    refine Sized.slotReplace (fun other => ?_) slot fits
    rw [slots]
    exact sized other

/-- A stored text of the slot is read back whole. -/
theorem settingsSetSlot_reads (sized : Sized cfg s) (fits : text.length ≤ cfg.maxTextLen)
    (alphabet : textIsValid text = true) :
    HoldsText (settingsSetSlot cfg slot text.length (some (readerOf text)) s).2 slot text := by
  have short : ¬ text.length > cfg.maxTextLen := Nat.not_lt.mpr fits
  have read : readerOf text text.length = ((text.length : Int), text) := by
    simp [readerOf]
  have nonneg : ¬ (text.length : Int) < 0 := by omega
  simp only [settingsSetSlot, if_neg short, read, if_neg nonneg, ne_eq, not_true_eq_false,
    if_false, List.take_length, alphabet, Bool.true_eq_false]
  exact slotReplace_holds (s := { s with hasPersistedSetting := _ }) sized fits

/-- What the callback of a key does to the slots. -/
theorem deliverKey_cases (cfg : Config) (settings : Settings) (loaded : AuthCore.State × SlotStore)
    (key : Name) :
    (deliverKey cfg settings loaded key).2 = loaded.2 ∨
    (deliverKey cfg settings loaded key).2 = { loaded.2 with defaultsInitialized := true } ∨
    ∃ slot value, key = slotSettingName slot ∧ settings.values key = some value ∧
      (deliverKey cfg settings loaded key).2 =
        (settingsSetSlot cfg slot value.length (some (readerOf value)) loaded.2).2 := by
  unfold deliverKey
  split
  next value name stored behind =>
    rcases settingsSet_store cfg name value.length (some (readerOf value)) loaded.1 loaded.2 with
      same | marked | ⟨slot, rfl, set⟩
    · exact Or.inl same
    · exact Or.inr (Or.inl marked)
    · refine Or.inr (Or.inr ⟨slot, value, ?_, stored, set⟩)
      rw [settingsNameSteq_some behind, slotSettingName_eq]
  · exact Or.inl rfl

theorem deliverKey_slot {value : List UInt8} (valid : slotIsValid cfg slot = true)
    (stored : settings.values (slotSettingName slot) = some value)
    (loaded : AuthCore.State × SlotStore) :
    (deliverKey cfg settings loaded (slotSettingName slot)).2 =
      (settingsSetSlot cfg slot value.length (some (readerOf value)) loaded.2).2 := by
  have behind : settingsNameSteq (slotSettingName slot) (ascii "runtime_macro") =
      some (some (ascii "slot" ++ 0x2F :: decimal slot)) := by
    rw [slotSettingName_eq]
    rfl
  simp only [deliverKey, stored, behind]
  exact settingsSet_slot valid ..

/-- A key that is not the slot's leaves the slot alone. -/
theorem deliverKey_of_ne {key : Name} (settings : Settings) (loaded : AuthCore.State × SlotStore)
    (other : key ≠ slotSettingName slot) :
    (deliverKey cfg settings loaded key).2.slots slot = loaded.2.slots slot ∧
      (deliverKey cfg settings loaded key).2.hasPersistedSetting slot =
        loaded.2.hasPersistedSetting slot := by
  rcases deliverKey_cases cfg settings loaded key with same | marked | ⟨owner, _, named, _, set⟩
  · rw [same]
    exact ⟨rfl, rfl⟩
  · rw [marked]
    exact ⟨rfl, rfl⟩
  · have different : slot ≠ owner := by
      rintro rfl
      exact other named
    rw [set]
    exact settingsSetSlot_of_ne different ..

theorem deliverKey_sized {loaded : AuthCore.State × SlotStore} (sized : Sized cfg loaded.2)
    (key : Name) : Sized cfg (deliverKey cfg settings loaded key).2 := by
  rcases deliverKey_cases cfg settings loaded key with same | marked | ⟨_, _, _, _, set⟩
  · rw [same]
    exact sized
  · rw [marked]
    exact sized
  · rw [set]
    exact settingsSetSlot_sized sized _ _

/-- A key that was delivered stays known for the rest of the load. -/
theorem deliverKey_flag {loaded : AuthCore.State × SlotStore}
    (flag : loaded.2.hasPersistedSetting slot = true) (key : Name) :
    (deliverKey cfg settings loaded key).2.hasPersistedSetting slot = true := by
  rcases deliverKey_cases cfg settings loaded key with same | marked | ⟨other, _, _, _, set⟩
  · rw [same]
    exact flag
  · rw [marked]
    exact flag
  · rw [set]
    by_cases same : slot = other
    · rw [same]
      exact settingsSetSlot_flag ..
    · rw [(settingsSetSlot_of_ne same ..).2]
      exact flag

/-- No other key touches the text of a slot. -/
theorem deliverKey_holds {loaded : AuthCore.State × SlotStore} (sized : Sized cfg loaded.2)
    (stored : settings.values (slotSettingName slot) = some text)
    (fits : text.length ≤ cfg.maxTextLen) (alphabet : textIsValid text = true)
    (holds : HoldsText loaded.2 slot text) (key : Name) :
    HoldsText (deliverKey cfg settings loaded key).2 slot text := by
  rcases deliverKey_cases cfg settings loaded key with
    same | marked | ⟨other, value, named, at', set⟩
  · rw [same]
    exact holds
  · rw [marked]
    exact ⟨holds.bytes, holds.length⟩
  · rw [set]
    by_cases same : slot = other
    · subst same
      rw [named, stored, Option.some.injEq] at at'
      subst at'
      exact settingsSetSlot_reads sized fits alphabet
    · constructor
      · rw [(settingsSetSlot_of_ne same ..).1]
        exact holds.bytes
      · rw [(settingsSetSlot_of_ne same ..).1]
        exact holds.length

theorem loadKeys_sized (cfg : Config) (settings : Settings) (order : List Name) :
    Sized cfg (loadKeys cfg settings order).2 := by
  unfold loadKeys
  induction order using List.reverseRecOn with
  | nil => exact boot_sized cfg
  | append_singleton order key ih =>
    rw [List.foldl_append]
    exact deliverKey_sized ih key

theorem loadKeys_flag (valid : slotIsValid cfg slot = true) (stored : StoredKeys settings order)
    (delivered : slotSettingName slot ∈ order) :
    (loadKeys cfg settings order).2.hasPersistedSetting slot = true := by
  obtain ⟨value, at'⟩ := Option.isSome_iff_exists.mp ((stored.all _).mp delivered)
  refine foldl_reaches (fun _ => True) (fun loaded : AuthCore.State × SlotStore =>
    loaded.2.hasPersistedSetting slot = true) delivered trivial (fun _ _ _ => trivial) ?_ ?_
  · intro loaded _
    rw [deliverKey_slot valid at']
    exact settingsSetSlot_flag ..
  · exact fun loaded key _ flag => deliverKey_flag flag key

theorem loadKeys_holds (valid : slotIsValid cfg slot = true) (fits : text.length ≤ cfg.maxTextLen)
    (alphabet : textIsValid text = true)
    (stored : settings.values (slotSettingName slot) = some text)
    (delivered : slotSettingName slot ∈ order) :
    HoldsText (loadKeys cfg settings order).2 slot text := by
  refine foldl_reaches (fun loaded : AuthCore.State × SlotStore => Sized cfg loaded.2)
    (fun loaded => HoldsText loaded.2 slot text) delivered (boot_sized cfg)
    (fun _ key sized => deliverKey_sized sized key) ?_ ?_
  · intro loaded sized
    rw [deliverKey_slot valid stored]
    exact settingsSetSlot_reads sized fits alphabet
  · exact fun loaded key sized holds => deliverKey_holds sized stored fits alphabet holds key

/-- The key of the defaults marker, as the handler tells it from the others. -/
def namesMarker (key : Name) : Bool :=
  match settingsNameSteq key (ascii "runtime_macro") with
  | some (some name) => settingsNameSteq name defaultsSettingName == some none
  | _ => false

theorem settingsSetSlot_marked (length : Nat) (readCb : Option SettingsReadCb) :
    (settingsSetSlot cfg slot length readCb s).2.defaultsInitialized = s.defaultsInitialized := by
  unfold settingsSetSlot
  dsimp only
  split
  · rfl
  · split
    · rfl
    · split
      · rfl
      · split
        · rfl
        · split <;> rfl

theorem settingsSetDefaults_marked {next : Option Name} {value : List UInt8} :
    (settingsSetDefaults next value.length (some (readerOf value)) s).2.defaultsInitialized =
        true ↔
      s.defaultsInitialized = true ∨ (next = none ∧ value = [defaultsMarker]) := by
  unfold settingsSetDefaults
  dsimp only
  split
  next refused =>
    have other : ¬ (next = none ∧ value = [defaultsMarker]) := by
      rintro ⟨rfl, rfl⟩
      simp at refused
    simp only [other, or_false]
  next taken =>
    obtain ⟨unnamed, single⟩ : next = none ∧ value.length = 1 := by
      simpa only [not_or, not_not] using taken
    obtain ⟨byte, rfl⟩ := List.length_eq_one_iff.mp single
    have read : readerOf [byte] 1 = (1, [byte]) := rfl
    rw [read]
    by_cases marker : byte = defaultsMarker
    · simp [unnamed, marker]
    · simp [unnamed, marker]

/-- The handler of a key of the authentication core leaves the slots alone. -/
theorem nameMatches_unmarked {name : Name} (matched : AuthCore.nameMatches (some name) = true) :
    settingsNameSteq name defaultsSettingName = none ∧
      settingsNameSteq name (ascii "slot") = none := by
  unfold AuthCore.nameMatches at matched
  dsimp only at matched
  split at matched
  next next behind =>
    rw [settingsNameSteq_some behind]
    exact ⟨rfl, rfl⟩
  · cases matched

theorem settingsSet_marked {name : Name} {value : List UInt8} {auth : AuthCore.State} :
    (settingsSet cfg (some name) value.length (some (readerOf value)) auth
        s).2.2.defaultsInitialized = true ↔
      s.defaultsInitialized = true ∨
        (settingsNameSteq name defaultsSettingName = some none ∧ value = [defaultsMarker]) := by
  unfold settingsSet
  dsimp only
  by_cases matched : AuthCore.nameMatches (some name) = true
  · obtain ⟨unmarked, unslotted⟩ := nameMatches_unmarked matched
    rw [unmarked, unslotted]
    split <;> simp
  · have passed : AuthCore.settingsSet (some name) value.length (some (readerOf value)) auth =
        (-enoent, auth) := by
      rw [AuthCore.settingsSet, if_pos (by simpa using matched)]
    rw [passed]
    simp only [ne_eq, not_true_eq_false, if_false]
    split
    next next marker =>
      rw [settingsSetDefaults_marked, marker, Option.some.injEq]
    next other =>
      rw [other]
      split
      · simp
      · split
        · simp
        · simp [settingsSetSlot_marked]

theorem deliverKey_marked (cfg : Config) (settings : Settings)
    (loaded : AuthCore.State × SlotStore) (key : Name) :
    (deliverKey cfg settings loaded key).2.defaultsInitialized = true ↔
      loaded.2.defaultsInitialized = true ∨
        (namesMarker key = true ∧ settings.values key = some [defaultsMarker]) := by
  unfold deliverKey namesMarker
  split
  next value name stored behind =>
    rw [stored, behind]
    cases name with
    | none => simp [settingsSet]
    | some name => simp [settingsSet_marked]
  next unread =>
    have other : ¬ (namesMarker key = true ∧ settings.values key = some [defaultsMarker]) := by
      rintro ⟨named, stored⟩
      unfold namesMarker at named
      split at named
      next behind => exact unread _ _ stored behind
      · cases named
    rw [namesMarker] at other
    simp only [other, or_false]

/-- A load finds the marker exactly when storage holds it. -/
theorem loadKeys_marked (stored : StoredKeys settings order) :
    (loadKeys cfg settings order).2.defaultsInitialized = true ↔
      ∃ key, namesMarker key = true ∧ settings.values key = some [defaultsMarker] := by
  have folded : ∀ order : List Name,
      (loadKeys cfg settings order).2.defaultsInitialized = true ↔
        ∃ key ∈ order, namesMarker key = true ∧ settings.values key = some [defaultsMarker] := by
    intro order
    unfold loadKeys
    induction order using List.reverseRecOn with
    | nil => simp [boot]
    | append_singleton order key ih =>
      rw [List.foldl_append, List.foldl_cons, List.foldl_nil, deliverKey_marked, ih]
      simp [or_and_right, exists_or]
  rw [folded]
  constructor
  · rintro ⟨key, _, marker⟩
    exact ⟨key, marker⟩
  · rintro ⟨key, named, value⟩
    refine ⟨key, ?_, named, value⟩
    rw [stored.all, value]
    rfl

/-- A slot without a stored key comes out of the load as RAM started. -/
theorem loadKeys_absent (absent : settings.values (slotSettingName slot) = none) :
    (loadKeys cfg settings order).2.slots slot = (boot cfg).slots slot ∧
      (loadKeys cfg settings order).2.hasPersistedSetting slot = false := by
  unfold loadKeys
  induction order using List.reverseRecOn with
  | nil => exact ⟨rfl, rfl⟩
  | append_singleton order key ih =>
    rw [List.foldl_append, List.foldl_cons, List.foldl_nil]
    generalize order.foldl (deliverKey cfg settings) (.boot, boot cfg) = loaded at ih
    by_cases own : key = slotSettingName slot
    · have skipped : deliverKey cfg settings loaded key = loaded := by
        rw [own, deliverKey, absent]
      rw [skipped]
      exact ih
    · obtain ⟨text, flag⟩ := deliverKey_of_ne settings loaded own
      rw [text, flag]
      exact ih

end Loading

/-! ## The commit -/

section Commit
variable {cfg : Config} {saveErr : Name → Int} {d d' : Defaults} {slot other : Nat}

/-- One slot of the commit: passed over, or written under its own key. -/
theorem commitDefault_cases (cfg : Config) (saveErr : Name → Int) (d : Defaults) (slot : Nat) :
    (d.store.hasPersistedSetting slot = true ∧ commitDefault cfg saveErr d slot = d) ∨
    (d.store.hasPersistedSetting slot = false ∧
      (commitDefault cfg saveErr d slot).store.slots =
        (slotReplace slot (defaultText cfg slot) d.store).slots ∧
      (∀ other, d.store.hasPersistedSetting other = true →
        (commitDefault cfg saveErr d slot).store.hasPersistedSetting other = true) ∧
      (commitDefault cfg saveErr d slot).settings =
        settingsSaveOne (slotSettingName slot) (defaultText cfg slot)
          (saveErr (slotSettingName slot)) d.settings) := by
  unfold commitDefault
  by_cases flag : d.store.hasPersistedSetting slot = true
  · exact Or.inl ⟨flag, if_pos flag⟩
  · rw [if_neg flag]
    rw [Bool.not_eq_true] at flag
    dsimp only
    refine Or.inr ⟨flag, ?_⟩
    split
    · exact ⟨rfl, fun _ known => known, rfl⟩
    · refine ⟨rfl, fun other known => ?_, rfl⟩
      by_cases same : other = slot
      · rw [same]
        exact Function.update_self ..
      · exact (Function.update_of_ne same ..).trans known

theorem commitDefault_flag (cfg : Config) (saveErr : Name → Int) (slot : Nat)
    (known : d.store.hasPersistedSetting other = true) :
    (commitDefault cfg saveErr d slot).store.hasPersistedSetting other = true := by
  rcases commitDefault_cases cfg saveErr d slot with ⟨_, same⟩ | ⟨_, _, kept, _⟩
  · rw [same]
    exact known
  · exact kept other known

/-- A slot with a stored key keeps its text and its stored value. -/
structure Spared (slot : Nat) (d d' : Defaults) : Prop where
  text : d'.store.slots slot = d.store.slots slot
  value : d'.settings.values (slotSettingName slot) = d.settings.values (slotSettingName slot)

theorem commitDefault_spares (known : d.store.hasPersistedSetting other = true) :
    Spared other d (commitDefault cfg saveErr d slot) := by
  rcases commitDefault_cases cfg saveErr d slot with ⟨_, same⟩ | ⟨unknown, slots, _, settings⟩
  · rw [same]
    exact ⟨rfl, rfl⟩
  · have different : other ≠ slot := by
      intro same
      rw [same, unknown] at known
      cases known
    constructor
    · rw [slots, slotReplace_of_ne different]
    · have names := slotSettingName_injective.ne different
      rw [settings, settingsSaveOne]
      split
      · exact Function.update_of_ne names ..
      · rfl

theorem commitDefaults_fold_spares (slots : List Nat)
    (known : d.store.hasPersistedSetting other = true) :
    Spared other d (slots.foldl (commitDefault cfg saveErr) d) := by
  induction slots generalizing d with
  | nil => exact ⟨rfl, rfl⟩
  | cons slot slots ih =>
    rw [List.foldl_cons]
    have first : Spared other d (commitDefault cfg saveErr d slot) := commitDefault_spares known
    have rest := ih (commitDefault_flag cfg saveErr slot known)
    exact ⟨rest.text.trans first.text, rest.value.trans first.value⟩

/-- The loop saves defaults only, and only under keys that were not known. -/
theorem commitDefaults_fold_calls (cfg : Config) (saveErr : Name → Int) (slots : List Nat)
    (d : Defaults) :
    ∃ calls,
      (slots.foldl (commitDefault cfg saveErr) d).settings.calls = d.settings.calls ++ calls ∧
      ∀ call ∈ calls, ∃ slot value err, slot ∈ slots ∧
        call = .save (slotSettingName slot) value err ∧
        d.store.hasPersistedSetting slot = false := by
  induction slots generalizing d with
  | nil => exact ⟨[], (List.append_nil _).symm, fun _ member => by cases member⟩
  | cons slot slots ih =>
    rw [List.foldl_cons]
    obtain ⟨calls, made, all⟩ := ih (commitDefault cfg saveErr d slot)
    have later : ∀ call ∈ calls, ∃ target value err, target ∈ slot :: slots ∧
        call = .save (slotSettingName target) value err ∧
        d.store.hasPersistedSetting target = false := by
      intro call member
      obtain ⟨target, value, err, inside, same, unknown⟩ := all call member
      refine ⟨target, value, err, List.mem_cons_of_mem _ inside, same, ?_⟩
      by_contra known
      rw [Bool.not_eq_false] at known
      cases unknown.symm.trans (commitDefault_flag cfg saveErr slot known)
    rcases commitDefault_cases cfg saveErr d slot with ⟨_, same⟩ | ⟨unknown, _, _, settings⟩
    · rw [same] at made
      exact ⟨calls, by rw [same, made], later⟩
    · rw [settings, settingsSaveOne_calls, List.append_assoc] at made
      refine ⟨_, made, fun call member => ?_⟩
      rcases List.mem_append.mp member with first | member
      · rw [List.mem_singleton.mp first]
        exact ⟨slot, _, _, List.mem_cons_self, rfl, unknown⟩
      · exact later call member

theorem commitDefaults_spares {s : SlotStore} (saveErr : Name → Int) (settings : Settings)
    (known : s.hasPersistedSetting slot = true) :
    (commitDefaults cfg saveErr s settings).1.slots slot = s.slots slot ∧
      (commitDefaults cfg saveErr s settings).2.values (slotSettingName slot) =
        settings.values (slotSettingName slot) := by
  have spared : Spared slot ⟨s, settings, true⟩
      ((List.range cfg.slotCount).foldl (commitDefault cfg saveErr) ⟨s, settings, true⟩) :=
    commitDefaults_fold_spares _ known
  unfold commitDefaults
  split
  · exact ⟨rfl, rfl⟩
  · dsimp only
    split
    · exact ⟨spared.text, spared.value⟩
    · have marked : (settingsSaveOne defaultsSettingPath [defaultsMarker]
          (saveErr defaultsSettingPath) ((List.range cfg.slotCount).foldl
            (commitDefault cfg saveErr) ⟨s, settings, true⟩).settings).values
              (slotSettingName slot) = settings.values (slotSettingName slot) := by
        rw [settingsSaveOne]
        split
        · dsimp only
          rw [Function.update_of_ne (slotSettingName_ne_path slot)]
          exact spared.value
        · exact spared.value
      split
      · exact ⟨spared.text, marked⟩
      · exact ⟨spared.text, marked⟩

theorem commitDefault_of_ne (different : other ≠ slot) :
    (commitDefault cfg saveErr d slot).store.slots other = d.store.slots other ∧
      (commitDefault cfg saveErr d slot).store.hasPersistedSetting other =
        d.store.hasPersistedSetting other := by
  unfold commitDefault
  split
  · exact ⟨rfl, rfl⟩
  · dsimp only
    split
    · exact ⟨slotReplace_of_ne different, rfl⟩
    · exact ⟨slotReplace_of_ne different, Function.update_of_ne different ..⟩

theorem commitDefaults_fold_of_ne {targets : List Nat}
    (different : ∀ target ∈ targets, other ≠ target) (d : Defaults) :
    (targets.foldl (commitDefault cfg saveErr) d).store.slots other = d.store.slots other ∧
      (targets.foldl (commitDefault cfg saveErr) d).store.hasPersistedSetting other =
        d.store.hasPersistedSetting other := by
  induction targets generalizing d with
  | nil => exact ⟨rfl, rfl⟩
  | cons target targets ih =>
    obtain ⟨text, flag⟩ := ih (fun next inside => different next (List.mem_cons_of_mem _ inside))
      (commitDefault cfg saveErr d target)
    obtain ⟨text', flag'⟩ := @commitDefault_of_ne cfg saveErr d _ _
      (different target List.mem_cons_self)
    rw [List.foldl_cons]
    exact ⟨text.trans text', flag.trans flag'⟩

theorem defaultText_length_pos (cfg : Config) (slot : Nat) : 0 < (defaultText cfg slot).length := by
  have room := cfg.maxTextLen_range.1
  have stem : (ascii "Runtime Macro ").length = 14 := by decide
  rw [defaultText, List.length_take, List.length_append]
  omega

/-- Without the marker, the commit gives every slot that has no stored key its
default text. -/
theorem commitDefaults_fills {s : SlotStore} (saveErr : Name → Int) (settings : Settings)
    (unmarked : s.defaultsInitialized = false) (unknown : s.hasPersistedSetting slot = false)
    (valid : slotIsValid cfg slot = true) :
    (commitDefaults cfg saveErr s settings).1.slots slot =
      (slotReplace slot (defaultText cfg slot) s).slots slot := by
  have folded : ∀ slots : List Nat, slots.Nodup → slot ∈ slots →
      (slots.foldl (commitDefault cfg saveErr) ⟨s, settings, true⟩).store.slots slot =
        (slotReplace slot (defaultText cfg slot) s).slots slot := by
    intro slots distinct member
    obtain ⟨front, back, rfl⟩ := List.append_of_mem member
    have outside := List.nodup_append.mp distinct
    have before : ∀ target ∈ front, slot ≠ target := fun target inside same =>
      outside.2.2 target inside slot List.mem_cons_self same.symm
    have after : ∀ target ∈ back, slot ≠ target := fun target inside same =>
      (List.nodup_cons.mp outside.2.1).1 (same ▸ inside)
    rw [List.foldl_append, List.foldl_cons]
    obtain ⟨text, flag⟩ := @commitDefaults_fold_of_ne cfg saveErr _ _ before
      ⟨s, settings, true⟩
    rw [(commitDefaults_fold_of_ne after _).1]
    rcases commitDefault_cases cfg saveErr (front.foldl (commitDefault cfg saveErr)
      ⟨s, settings, true⟩) slot with ⟨known, _⟩ | ⟨_, slots, _, _⟩
    · rw [flag] at known
      cases unknown.symm.trans known
    · rw [slots]
      unfold slotReplace
      simp only [Function.update_self]
      rw [text]
  have filled := folded (List.range cfg.slotCount) List.nodup_range
    (List.mem_range.mpr (of_decide_eq_true valid))
  unfold commitDefaults
  rw [if_neg (by simp [unmarked])]
  dsimp only
  split
  · exact filled
  · split
    · exact filled
    · exact filled

theorem commitDefaults_calls (cfg : Config) (saveErr : Name → Int) (s : SlotStore)
    (settings : Settings) :
    ∃ calls, (commitDefaults cfg saveErr s settings).2.calls = settings.calls ++ calls ∧
      ∀ call ∈ calls, (∃ value err, call = .save defaultsSettingPath value err) ∨
        ∃ slot value err, slotIsValid cfg slot = true ∧
          call = .save (slotSettingName slot) value err ∧ s.hasPersistedSetting slot = false := by
  obtain ⟨calls, made, all⟩ := commitDefaults_fold_calls cfg saveErr
    (List.range cfg.slotCount) ⟨s, settings, true⟩
  have slots : ∀ call ∈ calls, ∃ slot value err, slotIsValid cfg slot = true ∧
      call = .save (slotSettingName slot) value err ∧ s.hasPersistedSetting slot = false := by
    intro call member
    obtain ⟨slot, value, err, inside, same, unknown⟩ := all call member
    exact ⟨slot, value, err, decide_eq_true (List.mem_range.mp inside), same, unknown⟩
  unfold commitDefaults
  split
  · exact ⟨[], (List.append_nil _).symm, fun _ member => by cases member⟩
  · dsimp only
    split
    · exact ⟨calls, made, fun call member => Or.inr (slots call member)⟩
    · have marked : ∀ call ∈ calls ++ [SettingsCall.save defaultsSettingPath [defaultsMarker]
          (saveErr defaultsSettingPath)],
          (∃ value err, call = .save defaultsSettingPath value err) ∨
            ∃ slot value err, slotIsValid cfg slot = true ∧
              call = .save (slotSettingName slot) value err ∧
                s.hasPersistedSetting slot = false := by
        intro call member
        rcases List.mem_append.mp member with early | last
        · exact Or.inr (slots call early)
        · exact Or.inl ⟨_, _, List.mem_singleton.mp last⟩
      split
      · exact ⟨_, by rw [settingsSaveOne_calls, made, List.append_assoc], marked⟩
      · exact ⟨_, by rw [settingsSaveOne_calls, made, List.append_assoc], marked⟩

theorem defaultText_fits (cfg : Config) (slot : Nat) :
    (defaultText cfg slot).length ≤ cfg.maxTextLen := by
  rw [defaultText, List.length_take]
  omega

/-- Invariant rule of the commit: what holds of the texts and survives a
default text holds of the texts it leaves. -/
theorem commitDefaults_keeps {P : SlotStore → Prop}
    (kept : ∀ {s s' : SlotStore}, s'.slots = s.slots → P s → P s')
    (replaced : ∀ {s : SlotStore} {slot : Nat}, slotIsValid cfg slot = true → P s →
      P (slotReplace slot (defaultText cfg slot) s))
    {s : SlotStore} (initially : P s) (saveErr : Name → Int) (settings : Settings) :
    P (commitDefaults cfg saveErr s settings).1 := by
  have folded : ∀ slots : List Nat, (∀ slot ∈ slots, slotIsValid cfg slot = true) →
      P (slots.foldl (commitDefault cfg saveErr) ⟨s, settings, true⟩).store := by
    intro slots valid
    induction slots using List.reverseRecOn with
    | nil => exact initially
    | append_singleton slots slot ih =>
      have earlier := ih fun other member => valid other (List.mem_append_left _ member)
      rw [List.foldl_append, List.foldl_cons, List.foldl_nil]
      rcases commitDefault_cases cfg saveErr (slots.foldl (commitDefault cfg saveErr)
        ⟨s, settings, true⟩) slot with ⟨_, same⟩ | ⟨_, same, _⟩
      · rw [same]
        exact earlier
      · exact kept same (replaced (valid slot (by simp)) earlier)
  have whole := folded (List.range cfg.slotCount) fun slot member =>
    decide_eq_true (List.mem_range.mp member)
  unfold commitDefaults
  split
  · exact initially
  · dsimp only
    split
    · exact whole
    · split
      · exact whole
      · apply kept _ whole
        rfl

theorem commitDefaults_sized {s : SlotStore} (sized : Sized cfg s) (saveErr : Name → Int)
    (settings : Settings) : Sized cfg (commitDefaults cfg saveErr s settings).1 := by
  apply commitDefaults_keeps _ _ sized
  · intro s s' same sized slot
    rw [same]
    exact sized slot
  · intro s slot _ sized
    exact sized.slotReplace slot (defaultText_fits cfg slot)

end Commit

end SlotStore

/-! ## Updates between boots -/

/-- Whether the event is a power-up. -/
def StorageEvent.isBoot : StorageEvent → Bool
  | .boot .. => true
  | _ => false

/-- An update of another slot leaves the text and the key of a slot, and every
key that is no slot's. -/
theorem StorageStep.spares {cfg : Config} {d d' : Device} {event : StorageEvent} {slot : Nat}
    (update : event.isBoot = false) (spared : event.updates cfg slot = false)
    (step : StorageStep cfg d event d') :
    d'.store.slots slot = d.store.slots slot ∧
    d'.settings.values (SlotStore.slotSettingName slot) =
      d.settings.values (SlotStore.slotSettingName slot) ∧
    ∀ key, (∀ other, key ≠ SlotStore.slotSettingName other) →
      d'.settings.values key = d.settings.values key := by
  cases event with
  | boot => cases update
  | slotSet target text saveErr result =>
    have set := step.1
    rcases SlotStore.slotSet_cases cfg target text text.length saveErr d.store d.settings with
      refused | ⟨_, fits, alphabet, accepted⟩
    · rw [refused] at set
      obtain ⟨_, store, settings⟩ : -einval = result ∧ d.store = d'.store ∧
          d.settings = d'.settings := by
        simpa only [Prod.mk.injEq] using set
      rw [store, settings]
      exact ⟨rfl, rfl, fun _ _ => rfl⟩
    · rw [List.take_length] at alphabet accepted
      rw [accepted] at set
      obtain ⟨_, store, settings⟩ : saveErr = result ∧ _ = d'.store ∧ _ = d'.settings := by
        simpa only [Prod.mk.injEq] using set
      have different : slot ≠ target := by
        intro same
        simp [StorageEvent.updates, same, fits, alphabet] at spared
      have kept : ∀ key, key ≠ SlotStore.slotSettingName target →
          d'.settings.values key = d.settings.values key := by
        intro key other
        rw [← settings, settingsSaveOne]
        dsimp only
        split
        · rw [Function.update_of_ne other]
        · rfl
      refine ⟨?_, kept _ (SlotStore.slotSettingName_injective.ne different), fun key other =>
        kept key (other target)⟩
      rw [← store, SlotStore.slotReplace_of_ne different]
  | slotClear target deleteErr result =>
    have different : slot ≠ target := by
      intro same
      simp [StorageEvent.updates, same] at spared
    have erased := step.1
    by_cases valid' : SlotStore.slotIsValid cfg target = true
    · rw [SlotStore.slotClear_of_valid _ _ _ valid'] at erased
      obtain ⟨_, store, settings⟩ : deleteErr = result ∧ _ = d'.store ∧ _ = d'.settings := by
        simpa only [Prod.mk.injEq] using erased
      have kept : ∀ key, key ≠ SlotStore.slotSettingName target →
          d'.settings.values key = d.settings.values key := by
        intro key other
        rw [← settings, settingsDelete]
        dsimp only
        split
        · rw [Function.update_of_ne other]
        · rfl
      refine ⟨?_, kept _ (SlotStore.slotSettingName_injective.ne different), fun key other =>
        kept key (other target)⟩
      rw [← store, SlotStore.slotErase]
      exact Function.update_of_ne different ..
    · rw [Bool.not_eq_true] at valid'
      rw [SlotStore.slotClear, if_pos valid'] at erased
      obtain ⟨_, store, settings⟩ : -einval = result ∧ d.store = d'.store ∧
          d.settings = d'.settings := by
        simpa only [Prod.mk.injEq] using erased
      rw [store, settings]
      exact ⟨rfl, rfl, fun _ _ => rfl⟩

end RuntimeMacro.Source
