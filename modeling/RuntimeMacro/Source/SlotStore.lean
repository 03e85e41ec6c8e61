import RuntimeMacro.Source.Ascii
import RuntimeMacro.Source.Settings
import RuntimeMacro.Foundations.ByteBuffer

/-!
# Static slots

runtime_macro.c:38-177. The RAM texts of the static slots and their persisted
copies. A slot is a buffer of `maxTextLen + 1` bytes and a length. The two
update mutexes make every function below one step for its callers.
-/
namespace RuntimeMacro.Source
open Foundations

/-- The buffer of a slot and the length of the text in it. -/
structure Slot where
  text : List UInt8
  length : Nat

/-- The statics of runtime_macro.c:25-36: the texts with their lengths,
which slots have a stored key, and whether the defaults marker was read or
written. -/
structure SlotStore where
  slots : Nat → Slot
  hasPersistedSetting : Nat → Bool
  defaultsInitialized : Bool

namespace SlotStore

/-- Zeroed RAM. -/
def boot (cfg : Config) : SlotStore :=
  ⟨fun _ => ⟨List.replicate (cfg.maxTextLen + 1) 0, 0⟩, fun _ => false, false⟩

/-- `runtime_macro_slot_is_valid` (runtime_macro.c:38-40), which
`runtime_macro_protocol_slot_is_valid` (runtime_macro_protocol.c:211-213)
repeats. -/
def slotIsValid (cfg : Config) (slot : Nat) : Bool := slot < cfg.slotCount

/-- `runtime_macro_text_is_valid` (runtime_macro.c:42-58): every byte has a
key. The length is checked by the callers. -/
def textIsValid (text : List UInt8) : Bool := text.all Ascii.byteIsValid

/-- The decimal numeral `snprintf` writes for `%u`. -/
def decimal (value : Nat) : List UInt8 := (Nat.toDigits 10 value).map fun c => UInt8.ofNat c.toNat

/-- `runtime_macro_slot_setting_name` (runtime_macro.c:60-62): the whole path,
which is what the update calls of the settings take. -/
def slotSettingName (slot : Nat) : Name := ascii "runtime_macro/slot/" ++ decimal slot

/-- `runtime_macro_slot_replace` (runtime_macro.c:82-89): the text, then its
terminator. What was behind the terminator stays in the buffer. -/
def slotReplace (slot : Nat) (text : List UInt8) (s : SlotStore) : SlotStore :=
  let buffer := ByteBuffer.write (s.slots slot).text 0 text
  { s with
    slots := Function.update s.slots slot
      ⟨ByteBuffer.write buffer text.length [0], text.length⟩ }

/-- `zmk_runtime_macro_slot_get_length` (runtime_macro.c:100-109). -/
def slotGetLength (cfg : Config) (slot : Nat) (s : SlotStore) : Except Int Nat :=
  if slotIsValid cfg slot = false then .error (-einval) else .ok (s.slots slot).length

/-- `zmk_runtime_macro_slot_copy` (runtime_macro.c:111-127): the bytes and the
length copied out; the terminator is copied with them, so `textSize` has to
exceed the length. -/
def slotCopy (cfg : Config) (slot textSize : Nat) (s : SlotStore) :
    Except Int (List UInt8 × Nat) :=
  if slotIsValid cfg slot = false then .error (-einval)
  else
    let length := (s.slots slot).length
    if textSize ≤ length then .error (-enospc)
    else .ok ((s.slots slot).text.take (length + 1), length)

/-- `zmk_runtime_macro_slot_set` (runtime_macro.c:129-153) on the first
`length` bytes of `text`. RAM changes before storage is written, and stays
changed when the write fails. -/
def slotSet (cfg : Config) (slot : Nat) (text : List UInt8) (length : Nat) (saveErr : Int)
    (s : SlotStore) (settings : Settings) : Int × SlotStore × Settings :=
  if slotIsValid cfg slot = false ∨ length > cfg.maxTextLen ∨
      textIsValid (text.take length) = false then (-einval, s, settings)
  else
    let s := slotReplace slot (text.take length) s
    let persisted := (s.slots slot).text.take length
    (saveErr, s, settingsSaveOne (slotSettingName slot) persisted saveErr settings)

/-- The RAM part of `zmk_runtime_macro_slot_clear`. -/
def slotErase (cfg : Config) (slot : Nat) (s : SlotStore) : SlotStore :=
  { s with slots := Function.update s.slots slot ⟨List.replicate (cfg.maxTextLen + 1) 0, 0⟩ }

/-- `zmk_runtime_macro_slot_clear` (runtime_macro.c:155-177). Here too RAM is
zeroed first, and stays so when the key cannot be deleted. -/
def slotClear (cfg : Config) (slot : Nat) (deleteErr : Int) (s : SlotStore)
    (settings : Settings) : Int × SlotStore × Settings :=
  if slotIsValid cfg slot = false then (-einval, s, settings)
  else
    (deleteErr, slotErase cfg slot s, settingsDelete (slotSettingName slot) deleteErr settings)

/-- Every slot is its whole buffer, and its text leaves room for the
terminator. -/
def Sized (cfg : Config) (s : SlotStore) : Prop :=
  ∀ slot, (s.slots slot).text.length = cfg.maxTextLen + 1 ∧
    (s.slots slot).length ≤ cfg.maxTextLen

theorem boot_sized (cfg : Config) : Sized cfg (boot cfg) := by
  intro slot
  exact ⟨List.length_replicate, Nat.zero_le _⟩

theorem Sized.slotReplace {cfg : Config} {s : SlotStore} (sized : Sized cfg s) (slot : Nat)
    {text : List UInt8} (fits : text.length ≤ cfg.maxTextLen) :
    Sized cfg (slotReplace slot text s) := by
  intro other
  by_cases same : other = slot
  · subst same
    obtain ⟨capacity, _⟩ := sized other
    have copied : (ByteBuffer.write (s.slots other).text 0 text).length = cfg.maxTextLen + 1 := by
      rw [ByteBuffer.write_length _ _ _ (by omega), capacity]
    simp only [SlotStore.slotReplace, Function.update_self]
    refine ⟨?_, fits⟩
    rw [ByteBuffer.write_length _ _ _ (by simp only [List.length_singleton]; omega), copied]
  · simpa only [SlotStore.slotReplace, Function.update_of_ne same] using sized other

theorem Sized.slotErase {cfg : Config} {s : SlotStore} (sized : Sized cfg s) (slot : Nat) :
    Sized cfg (slotErase cfg slot s) := by
  intro other
  by_cases same : other = slot
  · subst same
    simp [SlotStore.slotErase]
  · simpa only [SlotStore.slotErase, Function.update_of_ne same] using sized other

theorem slotSet_of_valid {cfg : Config} {slot length : Nat} {text : List UInt8} (saveErr : Int)
    (s : SlotStore) (settings : Settings) (valid : slotIsValid cfg slot = true)
    (fits : length ≤ cfg.maxTextLen) (alphabet : textIsValid (text.take length) = true) :
    slotSet cfg slot text length saveErr s settings =
      (saveErr, slotReplace slot (text.take length) s,
        settingsSaveOne (slotSettingName slot)
          (((slotReplace slot (text.take length) s).slots slot).text.take length) saveErr
          settings) := by
  have accepted : ¬ (slotIsValid cfg slot = false ∨ length > cfg.maxTextLen ∨
      textIsValid (text.take length) = false) := by
    simp only [valid, alphabet, Bool.true_eq_false, false_or, or_false]
    omega
  rw [slotSet, if_neg accepted]

/-- A refused update touches nothing; any other changes RAM and asks
storage. -/
theorem slotSet_cases (cfg : Config) (slot : Nat) (text : List UInt8) (length : Nat)
    (saveErr : Int) (s : SlotStore) (settings : Settings) :
    slotSet cfg slot text length saveErr s settings = (-einval, s, settings) ∨
    (slotIsValid cfg slot = true ∧ length ≤ cfg.maxTextLen ∧
      textIsValid (text.take length) = true ∧
      slotSet cfg slot text length saveErr s settings =
        (saveErr, slotReplace slot (text.take length) s,
          settingsSaveOne (slotSettingName slot)
            (((slotReplace slot (text.take length) s).slots slot).text.take length) saveErr
            settings)) := by
  by_cases refused : slotIsValid cfg slot = false ∨ length > cfg.maxTextLen ∨
      textIsValid (text.take length) = false
  · exact Or.inl (by rw [slotSet, if_pos refused])
  · obtain ⟨valid, fits, alphabet⟩ : slotIsValid cfg slot = true ∧ length ≤ cfg.maxTextLen ∧
        textIsValid (text.take length) = true := by
      simpa only [not_or, Bool.not_eq_false, Nat.not_lt] using refused
    exact Or.inr ⟨valid, fits, alphabet, slotSet_of_valid _ _ _ valid fits alphabet⟩

/-- Only the first `length` bytes count. -/
theorem slotSet_take (cfg : Config) (slot : Nat) (text : List UInt8) (length : Nat) (saveErr : Int)
    (s : SlotStore) (settings : Settings) :
    slotSet cfg slot text length saveErr s settings =
      slotSet cfg slot (text.take length) length saveErr s settings := by
  unfold slotSet
  rw [List.take_take, Nat.min_self]

theorem slotClear_of_valid {cfg : Config} {slot : Nat} (deleteErr : Int) (s : SlotStore)
    (settings : Settings) (valid : slotIsValid cfg slot = true) :
    slotClear cfg slot deleteErr s settings = (deleteErr, slotErase cfg slot s,
      settingsDelete (slotSettingName slot) deleteErr settings) := by
  rw [slotClear, if_neg (by simp [valid])]

theorem Sized.slotSet {cfg : Config} {s : SlotStore} (sized : Sized cfg s) (slot : Nat)
    (text : List UInt8) (length : Nat) (saveErr : Int) (settings : Settings) :
    Sized cfg (slotSet cfg slot text length saveErr s settings).2.1 := by
  rcases slotSet_cases cfg slot text length saveErr s settings with refused | ⟨_, fits, _, set⟩
  · rw [refused]
    exact sized
  · rw [set]
    refine sized.slotReplace slot ?_
    rw [List.length_take]
    omega

theorem Sized.slotClear {cfg : Config} {s : SlotStore} (sized : Sized cfg s) (slot : Nat)
    (deleteErr : Int) (settings : Settings) :
    Sized cfg (slotClear cfg slot deleteErr s settings).2.1 := by
  unfold SlotStore.slotClear
  split
  · exact sized
  · exact sized.slotErase slot

end SlotStore

end RuntimeMacro.Source
