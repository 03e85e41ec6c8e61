import RuntimeMacro.Source.SlotBoots

/-!
# A cleared slot and the defaults marker

runtime_macro.c:155-177,280-328; README.md:23-25. An empty slot has no stored
key, so a boot tells it from a slot that was never initialised by the defaults
marker alone. The marker is written last and its write may fail.
-/
namespace RuntimeMacro.Guarantees.ClearedSlots
open Source Foundations.Runs
open SlotStore (slotIsValid slotSettingName namesMarker Sized)

variable {cfg : Config} {d d' start : Device} {slot : Nat} {settings : Settings}
  {event : StorageEvent} {moments : List (Moment Device StorageEvent)} {order : List Name}

/-- Storage holds the marker under a key that the loader takes for it. -/
def MarkerStored (settings : Settings) : Prop :=
  ∃ key, namesMarker key = true ∧ settings.values key = some [SlotStore.defaultsMarker]

/-- The slot reads as empty. -/
structure SlotEmpty (cfg : Config) (slot : Nat) (d : Device) : Prop where
  length : d.store.slotGetLength cfg slot = .ok 0
  copy : ∀ textSize, 0 < textSize → d.store.slotCopy cfg slot textSize = .ok ([0], 0)

/-- Storage has no key for the slot. -/
def KeyAbsent (slot : Nat) (d : Device) : Prop := d.settings.values (slotSettingName slot) = none

/-! ## One boot -/

/-- RAM starts empty, and with the marker the commit changes nothing. No stored
key is that of the slot, so no delivery fills it. -/
theorem marked_boot (valid : slotIsValid cfg slot = true) (absent : KeyAbsent slot d)
    (marked : MarkerStored d.settings) (saveErr : Name → Int)
    (stored : StoredKeys d.settings order) :
    (Device.boot cfg order saveErr d.settings).settings = d.settings ∧
      SlotEmpty cfg slot (.boot cfg order saveErr d.settings) := by
  have initialized := (@SlotStore.loadKeys_marked cfg _ _ stored).mpr marked
  have kept : SlotStore.commitDefaults cfg saveErr (loadKeys cfg d.settings order).2 d.settings =
      ((loadKeys cfg d.settings order).2, d.settings) := by
    rw [SlotStore.commitDefaults, if_pos initialized]
  have zeroed : (Device.boot cfg order saveErr d.settings).store.slots slot =
      ⟨List.replicate (cfg.maxTextLen + 1) 0, 0⟩ := by
    simp only [Device.boot, SlotStore.settingsCommit, kept]
    exact (SlotStore.loadKeys_absent absent).1
  refine ⟨by simp only [Device.boot, SlotStore.settingsCommit, kept], ?_, ?_⟩
  · rw [SlotStore.slotGetLength, if_neg (by simp [valid]), zeroed]
  · intro textSize room
    rw [SlotStore.slotCopy, if_neg (by simp [valid]), zeroed]
    dsimp only
    rw [if_neg (by omega)]
    rfl

/-- Without the marker, the cleared slot comes back with its default text,
since the commit takes every slot without a stored key for a new one. -/
theorem unmarked_boot (valid : slotIsValid cfg slot = true) (absent : KeyAbsent slot d)
    (unmarked : ¬ MarkerStored d.settings) (saveErr : Name → Int)
    (stored : StoredKeys d.settings order) :
    ¬ SlotEmpty cfg slot (.boot cfg order saveErr d.settings) := by
  obtain ⟨_, unknown⟩ := @SlotStore.loadKeys_absent cfg _ _ order absent
  have uninitialized : (loadKeys cfg d.settings order).2.defaultsInitialized = false := by
    by_contra initialized
    rw [Bool.not_eq_false, SlotStore.loadKeys_marked stored] at initialized
    exact unmarked initialized
  have filled := SlotStore.commitDefaults_fills saveErr d.settings uninitialized unknown valid
  have positive := SlotStore.defaultText_length_pos cfg slot
  intro empty
  have length := empty.length
  simp only [Device.boot, SlotStore.settingsCommit, SlotStore.slotGetLength, filled,
    SlotStore.slotReplace, Function.update_self, valid, Bool.true_eq_false, if_false,
    Except.ok.injEq] at length
  omega

/-! ## Between boots -/

theorem namesMarker_slot (slot : Nat) : namesMarker (slotSettingName slot) = false := by
  unfold SlotStore.namesMarker
  rw [SlotStore.slotSettingName_eq]
  rfl

theorem update_marker {settings settings' : Settings}
    (kept : ∀ key, (∀ other, key ≠ slotSettingName other) →
      settings'.values key = settings.values key) :
    MarkerStored settings' ↔ MarkerStored settings := by
  have other : ∀ key, namesMarker key = true → ∀ other, key ≠ slotSettingName other := by
    rintro _ named other rfl
    rw [namesMarker_slot] at named
    cases named
  constructor
  · rintro ⟨key, named, value⟩
    exact ⟨key, named, by rw [← kept key (other key named), value]⟩
  · rintro ⟨key, named, value⟩
    exact ⟨key, named, by rw [kept key (other key named), value]⟩

/-- What holds between a clear and the next update of the slot. -/
structure Cleared (slot : Nat) (marked : Prop) (d : Device) : Prop where
  absent : KeyAbsent slot d
  marker : MarkerStored d.settings ↔ marked

theorem Cleared.update {marked : Prop} (cleared : Cleared slot marked d)
    (update : event.isBoot = false) (spared : event.updates cfg slot = false)
    (step : StorageStep cfg d event d') : Cleared slot marked d' := by
  obtain ⟨_, sameValue, others⟩ := step.spares update spared
  exact ⟨sameValue.trans cleared.absent, (update_marker others).trans cleared.marker⟩

/-- A clear that returns 0 has removed the key. The marker is another key and
stays what it was. -/
theorem clear_removes {deleteErr : Int}
    (step : StorageStep cfg d (.slotClear slot deleteErr 0) d') :
    slotIsValid cfg slot = true ∧ Cleared slot (MarkerStored d.settings) d' := by
  have erased := step.1
  by_cases valid : slotIsValid cfg slot = true
  · rw [SlotStore.slotClear_of_valid _ _ _ valid] at erased
    obtain ⟨err, _, settings⟩ : deleteErr = 0 ∧ _ = d'.store ∧ _ = d'.settings := by
      simpa only [Prod.mk.injEq] using erased
    have removed : d'.settings.values =
        Function.update d.settings.values (slotSettingName slot) none := by
      rw [← settings, settingsDelete, if_pos err]
    refine ⟨valid, ?_, update_marker fun key other => ?_⟩
    · rw [KeyAbsent, removed, Function.update_self]
    · rw [removed, Function.update_of_ne (other slot)]
  · rw [Bool.not_eq_true] at valid
    rw [SlotStore.slotClear, if_pos valid] at erased
    cases (Prod.mk.inj erased).1

theorem isBoot_eq (boots : event.isBoot = true) : ∃ order saveErr, event = .boot order saveErr := by
  cases event with
  | boot order saveErr => exact ⟨order, saveErr, rfl⟩
  | slotSet | slotClear => cases boots

/-- Without the marker, a boot that leaves the slot empty cannot happen. -/
theorem Cleared.step_unmarked (cleared : Cleared slot False d)
    (valid : slotIsValid cfg slot = true) (spared : event.updates cfg slot = false)
    (empty : event.isBoot = true → SlotEmpty cfg slot d') (step : StorageStep cfg d event d') :
    event.isBoot = false ∧ Cleared slot False d' := by
  have update : event.isBoot = false := by
    by_contra boots
    rw [Bool.not_eq_false] at boots
    obtain ⟨order, saveErr, rfl⟩ := isBoot_eq boots
    have absent := unmarked_boot valid cleared.absent cleared.marker.mp saveErr step.1
    rw [← step.2] at absent
    exact absent (empty boots)
  exact ⟨update, cleared.update update spared step⟩

/-- With the marker, a boot writes nothing and leaves the slot empty. Updates
of other slots touch neither the key nor the marker. -/
theorem Cleared.step_marked (cleared : Cleared slot True d)
    (valid : slotIsValid cfg slot = true) (spared : event.updates cfg slot = false)
    (step : StorageStep cfg d event d') :
    (event.isBoot = true → SlotEmpty cfg slot d') ∧ Cleared slot True d' := by
  by_cases boots : event.isBoot = true
  · obtain ⟨order, saveErr, rfl⟩ := isBoot_eq boots
    obtain ⟨same, empty⟩ :=
      marked_boot valid cleared.absent (cleared.marker.mpr trivial) saveErr step.1
    rw [← step.2] at same empty
    refine ⟨fun _ => empty, ?_, ?_⟩
    · rw [KeyAbsent, same]
      exact cleared.absent
    · rw [same]
      exact cleared.marker
  · refine ⟨fun booted => absurd booted boots, ?_⟩
    rw [Bool.not_eq_true] at boots
    exact cleared.update boots spared step

/-! ## Histories -/

/-- After a `slot_clear` that returned 0, and until the slot is updated again,
every later boot finds the slot empty exactly when the defaults marker was in
storage at the clear. -/
theorem cleared_stays_empty_iff (run : Run (Traced (StorageStep cfg)) start moments d)
    {front back : List (Moment Device StorageEvent)} {clear : Moment Device StorageEvent}
    (split : moments = front ++ clear :: back) {deleteErr : Int}
    (event : clear.event = .slotClear slot deleteErr 0)
    (latest : ∀ moment ∈ back, moment.event.updates cfg slot = false)
    (rebooted : ∃ moment ∈ back, moment.event.isBoot = true) :
    (∀ moment ∈ back, moment.event.isBoot = true → SlotEmpty cfg slot moment.after) ↔
      MarkerStored clear.before.settings := by
  subst split
  obtain ⟨_, _, _, ⟨rfl, rfl, taken⟩, later⟩ := run.around
  rw [event] at taken
  obtain ⟨valid, cleared⟩ := clear_removes taken
  constructor
  · intro empty
    by_contra unmarked
    rw [eq_false unmarked] at cleared
    -- No boot of the rest of the history can have happened.
    obtain ⟨moment, member, boots⟩ := rebooted
    obtain ⟨early, late, rfl⟩ := List.append_of_mem member
    obtain ⟨_, _, earlier, ⟨rfl, rfl, step⟩, _⟩ := later.around
    have before := earlier.invariant_of (Cleared slot False) cleared
      (fun moment inside => And.intro (latest moment (List.mem_append_left _ inside))
        (empty moment (List.mem_append_left _ inside))) (by
        rintro _ moment _ before ⟨spared, after⟩ ⟨rfl, rfl, step⟩
        exact (before.step_unmarked valid spared after step).2)
    have update :=
      (before.step_unmarked valid (latest moment member) (empty moment member) step).1
    rw [boots] at update
    cases update
  · intro marked moment member boots
    rw [eq_true marked] at cleared
    obtain ⟨early, late, rfl⟩ := List.append_of_mem member
    obtain ⟨_, _, earlier, ⟨rfl, rfl, step⟩, _⟩ := later.around
    have before := earlier.invariant_of (Cleared slot True) cleared
      (fun moment inside => latest moment (List.mem_append_left _ inside)) (by
        rintro _ moment _ before spared ⟨rfl, rfl, step⟩
        exact (before.step_marked valid spared step).2)
    exact (before.step_marked valid (latest moment member) step).1 boots

/-! ## A first boot whose last write fails -/

/-- A build with one slot. -/
def single : Config := { Config.default with slotCount := 1, slotCount_range := by decide }

/-- A keyboard of one slot before its first boot. -/
def fresh : Device := ⟨.boot, .boot single, .empty⟩

/-- Storage takes the default texts but not the marker. -/
def markerFails (name : Name) : Int := if name = SlotStore.defaultsSettingPath then -enospc else 0

/-- After the first boot, where `saveErr` says which settings could be
saved. -/
def defaulted (saveErr : Name → Int) : Device := .boot single [] saveErr fresh.settings

/-- After the one slot is cleared, and its key deleted. -/
def cleared (saveErr : Name → Int) : Device where
  auth := (defaulted saveErr).auth
  store := SlotStore.slotErase single 0 (defaulted saveErr).store
  settings := settingsDelete (slotSettingName 0) 0 (defaulted saveErr).settings

/-- After a second boot, with every save succeeding and the stored keys in any
order. -/
def rebooted (saveErr : Name → Int) (order : List Name) : Device :=
  .boot single order (fun _ => 0) (cleared saveErr).settings

/-- The three moments: first boot, clear, second boot. -/
def history (saveErr : Name → Int) (order : List Name) : List (Moment Device StorageEvent) :=
  [⟨fresh, .boot [] saveErr, defaulted saveErr⟩] ++
    ⟨defaulted saveErr, .slotClear 0 0 0, cleared saveErr⟩ ::
      [⟨cleared saveErr, .boot order fun _ => 0, rebooted saveErr order⟩]

theorem history_taken {saveErr : Name → Int} {order : List Name}
    (keys : StoredKeys (cleared saveErr).settings order) :
    Run (Traced (StorageStep single)) fresh (history saveErr order)
      (rebooted saveErr order) := by
  have none : StoredKeys fresh.settings [] := ⟨List.nodup_nil, by simp [fresh, Settings.empty]⟩
  exact .cons ⟨rfl, rfl, none, rfl⟩ <| .cons ⟨rfl, rfl, rfl, rfl⟩ <|
    .cons ⟨rfl, rfl, keys, rfl⟩ <| .nil _

/-- What the first boot has left in storage when the slot is cleared: the
marker, if it could be saved. -/
theorem cleared_values (saveErr : Name → Int) (taken : saveErr (slotSettingName 0) = 0)
    (key : Name) :
    (cleared saveErr).settings.values key =
      if saveErr SlotStore.defaultsSettingPath = 0 ∧ key = SlotStore.defaultsSettingPath then
        some [SlotStore.defaultsMarker]
      else none := by
  have slots : List.range single.slotCount = [0] := rfl
  have names := SlotStore.slotSettingName_ne_path 0
  have loaded : loadKeys single fresh.settings [] = (.boot, .boot single) := rfl
  simp only [cleared, defaulted, Device.boot, SlotStore.settingsCommit, loaded,
    SlotStore.commitDefaults, slots, List.foldl_cons, List.foldl_nil, SlotStore.commitDefault,
    SlotStore.boot, Bool.false_eq_true, if_false, taken, ne_eq, not_true_eq_false,
    settingsDelete, if_true]
  by_cases own : key = slotSettingName 0
  · subst own
    simp [names]
  · by_cases marked : saveErr SlotStore.defaultsSettingPath = 0
    · by_cases marker : key = SlotStore.defaultsSettingPath
      · simp [settingsSaveOne, marked, marker, names.symm]
      · simp [settingsSaveOne, marked, marker, own, fresh, Settings.empty]
    · simp [settingsSaveOne, marked, own, fresh, Settings.empty]

theorem marker_kept : StoredKeys (cleared fun _ => 0).settings [SlotStore.defaultsSettingPath] := by
  refine ⟨List.nodup_singleton _, fun key => ?_⟩
  rw [cleared_values _ rfl]
  by_cases same : key = SlotStore.defaultsSettingPath <;> simp [same]

theorem marker_missing : StoredKeys (cleared markerFails).settings [] := by
  refine ⟨List.nodup_nil, fun key => ?_⟩
  rw [cleared_values _ (by decide)]
  simp [markerFails, enospc]

/-- The other side: with the marker stored at the first boot, the cleared slot
is empty after the second. -/
theorem cleared_stays_empty_iff_sample :
    (rebooted (fun _ => 0) [SlotStore.defaultsSettingPath]).store.slotGetLength single 0 =
      .ok 0 := by
  have stays := @cleared_stays_empty_iff _ _ _ 0 _ (history_taken marker_kept) _ _ _ rfl 0 rfl
    (by simp [StorageEvent.updates]) ⟨_, List.mem_singleton_self _, rfl⟩
  refine (stays.mpr ⟨SlotStore.defaultsSettingPath, by decide, ?_⟩ _ (List.mem_singleton_self _)
    rfl).length
  have values := cleared_values (fun _ => 0) rfl SlotStore.defaultsSettingPath
  rw [if_pos ⟨rfl, rfl⟩] at values
  simpa [cleared, settingsDelete, (SlotStore.slotSettingName_ne_path 0).symm] using values

/-- The marker was lost and the slot is cleared: the next boot brings the
default text back. -/
theorem default_text_returns :
    (rebooted markerFails []).store.slotCopy single 0 65 =
      .ok (ascii "Runtime Macro 1" ++ [0], 15) ∧
    ¬ ∀ (cfg : Config) (start d : Device) (front back : List (Moment Device StorageEvent))
      (clear : Moment Device StorageEvent) (slot : Nat) (deleteErr : Int),
      Sized cfg start.store →
      Run (Traced (StorageStep cfg)) start (front ++ clear :: back) d →
      clear.event = .slotClear slot deleteErr 0 →
      (∀ moment ∈ back, moment.event.updates cfg slot = false) →
      ∀ moment ∈ back, moment.event.isBoot = true → SlotEmpty cfg slot moment.after := by
  have returned : (rebooted markerFails []).store.slotCopy single 0 65 =
      .ok (ascii "Runtime Macro 1" ++ [0], 15) := by
    decide +kernel
  refine ⟨returned, fun stays => ?_⟩
  have empty := stays single fresh _ _ _ _ 0 0 (SlotStore.boot_sized single)
    (history_taken marker_missing) rfl (by simp [StorageEvent.updates]) _
    (List.mem_singleton_self _) rfl
  rw [empty.copy 65 (by decide)] at returned
  revert returned
  decide

end RuntimeMacro.Guarantees.ClearedSlots
