import RuntimeMacro.Source.SlotBoots

/-!
# A saved text survives every boot

runtime_macro.c:129-177,209-328. The defaults of the first boot and the
per-slot record of the keys of a load, against histories of boots and updates
in which any storage call may fail.
-/
namespace RuntimeMacro.Guarantees.SlotSurvival
open Source Foundations.Runs
open SlotStore (slotIsValid textIsValid slotSettingName Sized HoldsText)

variable {cfg : Config} {d d' start : Device} {slot : Nat} {text : List UInt8}
  {event : StorageEvent} {moments : List (Moment Device StorageEvent)}

/-- RAM and storage hold the same well-formed text for the slot. -/
structure Saved (cfg : Config) (slot : Nat) (text : List UInt8) (d : Device) : Prop where
  valid : slotIsValid cfg slot = true
  fits : text.length ≤ cfg.maxTextLen
  alphabet : textIsValid text = true
  holds : HoldsText d.store slot text
  stored : d.settings.values (slotSettingName slot) = some text

theorem Saved.copy (saved : Saved cfg slot text d) {textSize : Nat}
    (room : text.length < textSize) :
    d.store.slotCopy cfg slot textSize = .ok (text ++ [0], text.length) := by
  unfold SlotStore.slotCopy
  rw [if_neg (by simp [saved.valid])]
  dsimp only
  rw [saved.holds.length, if_neg (Nat.not_le.mpr room), saved.holds.bytes]

/-! ## One event -/

theorem step_sized (sized : Sized cfg d.store) (step : StorageStep cfg d event d') :
    Sized cfg d'.store := by
  cases event with
  | boot order saveErr =>
    rw [step.2]
    exact SlotStore.commitDefaults_sized (SlotStore.loadKeys_sized cfg d.settings order) saveErr _
  | slotSet target text saveErr result =>
    have set := sized.slotSet target text text.length saveErr d.settings
    rw [step.1] at set
    exact set
  | slotClear target deleteErr result =>
    have erased := sized.slotClear target deleteErr d.settings
    rw [step.1] at erased
    exact erased

/-- An update that returns 0 has written RAM and storage, which is what every
later boot reads. -/
theorem slotSet_saves {saveErr : Int} (sized : Sized cfg d.store)
    (step : StorageStep cfg d (.slotSet slot text saveErr 0) d') : Saved cfg slot text d' := by
  have set := step.1
  rcases SlotStore.slotSet_cases cfg slot text text.length saveErr d.store d.settings with
    refused | ⟨valid, fits, alphabet, accepted⟩
  · rw [refused] at set
    cases (Prod.mk.inj set).1
  · rw [List.take_length] at alphabet accepted
    rw [accepted] at set
    obtain ⟨err, store, settings⟩ : saveErr = 0 ∧ _ = d'.store ∧ _ = d'.settings := by
      simpa only [Prod.mk.injEq] using set
    have holds : SlotStore.HoldsText (SlotStore.slotReplace slot text d.store) slot text :=
      SlotStore.slotReplace_holds sized fits
    refine ⟨valid, fits, alphabet, ?_, ?_⟩
    · rw [← store]
      exact holds
    · have front : ((SlotStore.slotReplace slot text d.store).slots slot).text.take text.length =
          text := by
        have whole := congrArg (List.take text.length) holds.bytes
        rw [List.take_take, Nat.min_eq_left (Nat.le_succ _), List.take_left] at whole
        exact whole
      rw [← settings, err, front]
      exact settingsSaveOne_values_self ..

/-- What leaves the slot and its stored value alone keeps the text. -/
theorem Saved.frame (saved : Saved cfg slot text d)
    (sameSlot : d'.store.slots slot = d.store.slots slot)
    (sameValue : d'.settings.values (slotSettingName slot) =
      d.settings.values (slotSettingName slot)) : Saved cfg slot text d' where
  valid := saved.valid
  fits := saved.fits
  alphabet := saved.alphabet
  holds := ⟨by rw [sameSlot]; exact saved.holds.bytes, by rw [sameSlot]; exact saved.holds.length⟩
  stored := sameValue.trans saved.stored

theorem boot_saves {order : List Name} (saveErr : Name → Int) (saved : Saved cfg slot text d)
    (stored : StoredKeys d.settings order) :
    Saved cfg slot text (.boot cfg order saveErr d.settings) := by
  have delivered : slotSettingName slot ∈ order := by
    rw [stored.all, saved.stored]
    rfl
  have known := SlotStore.loadKeys_flag saved.valid stored delivered
  have holds :=
    SlotStore.loadKeys_holds saved.valid saved.fits saved.alphabet saved.stored delivered
  have loaded : Saved cfg slot text ⟨d.auth, (loadKeys cfg d.settings order).2, d.settings⟩ :=
    ⟨saved.valid, saved.fits, saved.alphabet, holds, saved.stored⟩
  obtain ⟨kept, value⟩ := SlotStore.commitDefaults_spares saveErr d.settings known
  exact loaded.frame kept value

theorem step_saves (saved : Saved cfg slot text d) (spared : event.updates cfg slot = false)
    (step : StorageStep cfg d event d') : Saved cfg slot text d' := by
  cases event with
  | boot order saveErr =>
    rw [step.2]
    exact boot_saves saveErr saved step.1
  | slotSet | slotClear =>
    obtain ⟨sameSlot, sameValue, _⟩ := step.spares (by rfl) spared
    exact saved.frame sameSlot sameValue

/-- The commit of a boot leaves every key that was delivered alone, whatever
its value. -/
theorem boot_calls {order : List Name} (saveErr : Name → Int) {settings : Settings}
    (stored : StoredKeys settings order) :
    ∃ calls, (Device.boot cfg order saveErr settings).settings.calls = settings.calls ++ calls ∧
      ∀ call ∈ calls, (∃ value err, call = .save SlotStore.defaultsSettingPath value err) ∨
        ∃ slot value err, call = .save (slotSettingName slot) value err ∧
          slotSettingName slot ∉ order := by
  obtain ⟨calls, made, all⟩ := SlotStore.commitDefaults_calls cfg saveErr
    (loadKeys cfg settings order).2 settings
  refine ⟨calls, made, fun call member => ?_⟩
  rcases all call member with marker | ⟨slot, value, err, valid, same, unknown⟩
  · exact Or.inl marker
  · refine Or.inr ⟨slot, value, err, same, fun delivered => ?_⟩
    have known := SlotStore.loadKeys_flag valid stored delivered
    cases unknown.symm.trans known

/-! ## Histories -/

/-- A non-empty text whose `slot_set` returned 0 is read back exactly until the
slot is updated again, across any number of boots, and no boot writes a slot
key that it was handed. -/
theorem text_survives (sized : Sized cfg start.store)
    (run : Run (Traced (StorageStep cfg)) start moments d) :
    (∀ front set back, moments = front ++ set :: back →
      ∀ slot text saveErr, set.event = .slotSet slot text saveErr 0 → text ≠ [] →
        (∀ moment ∈ back, moment.event.updates cfg slot = false) →
        ∀ textSize, text.length < textSize →
          d.store.slotCopy cfg slot textSize = .ok (text ++ [0], text.length)) ∧
    ∀ moment ∈ moments, ∀ order saveErr, moment.event = .boot order saveErr →
      ∃ calls, moment.after.settings.calls = moment.before.settings.calls ++ calls ∧
        ∀ call ∈ calls, (∃ value err, call = .save SlotStore.defaultsSettingPath value err) ∨
          ∃ slot value err, call = .save (slotSettingName slot) value err ∧
            slotSettingName slot ∉ order := by
  constructor
  · intro front set back split slot text saveErr event _ spared textSize room
    rw [split] at run
    obtain ⟨_, _, earlier, ⟨rfl, rfl, step⟩, later⟩ := run.around
    have ready := earlier.invariant (fun d => Sized cfg d.store) sized (by
      intro _ moment _ before taken
      obtain ⟨rfl, rfl, taken⟩ := taken
      exact step_sized before taken)
    rw [event] at step
    have saved := later.invariant_of (Saved cfg slot text) (slotSet_saves ready step) spared (by
      intro _ moment _ before untouched taken
      obtain ⟨rfl, rfl, taken⟩ := taken
      exact step_saves before untouched taken)
    exact saved.copy room
  · intro moment member order saveErr event
    have step := run.moment_step moment member
    rw [event] at step
    rw [step.2]
    exact boot_calls saveErr step.1

/-! ## A text of slot 0 and a boot whose storage is full -/

def sampleStart : Device := ⟨.boot, .boot .default, .empty⟩

def sampleSet : Device where
  auth := .boot
  store := SlotStore.slotReplace 0 [72, 105] (.boot .default)
  settings := settingsSaveOne (slotSettingName 0) [72, 105] 0 .empty

def sampleBoot : Device := .boot .default [slotSettingName 0] (fun _ => -enospc) sampleSet.settings

def sampleRun : List (Moment Device StorageEvent) :=
  [] ++ ⟨sampleStart, .slotSet 0 [72, 105] 0 0, sampleSet⟩ ::
    [⟨sampleSet, .boot [slotSettingName 0] (fun _ => -enospc), sampleBoot⟩]

theorem sampleRun_taken : Run (Traced (StorageStep .default)) sampleStart sampleRun sampleBoot := by
  have keys : StoredKeys sampleSet.settings [slotSettingName 0] := by
    refine ⟨List.nodup_singleton _, fun key => ?_⟩
    rw [List.mem_singleton]
    by_cases same : key = slotSettingName 0
    · simp [same, sampleSet]
    · simp [same, sampleSet, settingsSaveOne, Settings.empty]
  exact .cons ⟨rfl, rfl, rfl, rfl⟩ <| .cons ⟨rfl, rfl, keys, rfl⟩ <| .nil _

/-- The text is read back after a boot at which the defaults marker cannot be
saved. -/
theorem text_survives_sample :
    sampleBoot.store.slotCopy .default 0 65 = .ok ([72, 105, 0], 2) := by
  obtain ⟨survives, _⟩ := text_survives (SlotStore.boot_sized .default) sampleRun_taken
  refine survives _ _ _ rfl 0 [72, 105] 0 rfl (by decide) ?_ 65 (by decide)
  intro moment member
  rw [List.mem_singleton.mp member]
  rfl

end RuntimeMacro.Guarantees.SlotSurvival
