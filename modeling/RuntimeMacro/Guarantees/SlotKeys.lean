import RuntimeMacro.Source.SlotBoots

/-!
# The keys of the slots

runtime_macro.c:60-62,179-207. Which names `runtime_macro_parse_slot` accepts,
in the 32-bit words of the source, against the names that
`runtime_macro_slot_setting_name` writes.
-/
namespace RuntimeMacro.Guarantees.SlotKeys
open Source Source.SlotStore

variable {cfg : Config} {slot : Nat} {name : Name} {value : UInt32}

/-! ## The parser in words -/

/-- What the loop holds behind a front of the name is the number of a slot, or
0 at its start. -/
theorem digits_inside {front : Name} (read : front.foldlM (parseSlotDigit cfg) 0 = .ok value) :
    value.toNat < cfg.slotCount := by
  have numbers := parseSlotDigits_toNat cfg 0 front
  rw [read] at numbers
  obtain ⟨_, reads, inside⟩ := parseSlotFrom_ok.mp numbers.symm
  by_cases start : front = []
  · have none : value.toNat = 0 := by
      rw [← reads, start]
      rfl
    rw [none]
    exact cfg.slotCount_range.1
  · exact inside start

/-- The 32-bit arithmetic of the parser never wraps: a value is compared with
the number of slots after every digit. -/
theorem parseSlotWords_toNat (cfg : Config) (name : Option Name) :
    (parseSlotWords cfg name).map UInt8.toNat = parseSlot cfg name := by
  cases name with
  | none => rfl
  | some name =>
    cases name with
    | nil => rfl
    | cons c rest =>
      have numbers := parseSlotDigits_toNat cfg 0 (c :: rest)
      rw [parseSlotWords, parseSlot]
      split
      · rfl
      · rw [show (0 : Nat) = (0 : UInt32).toNat from rfl, ← numbers]
        cases read : (c :: rest).foldlM (parseSlotDigit cfg) 0 with
        | error err => rfl
        | ok value =>
          have inside := digits_inside read
          have range := cfg.slotCount_range.2
          have narrow : value.toUInt8.toNat = value.toNat := by
            rw [UInt32.toNat_toUInt8]
            exact Nat.mod_eq_of_lt (by omega)
          exact congrArg Except.ok narrow

/-! ## The keys -/

/-- `runtime_macro_slot_setting_name` on a buffer: `snprintf` cuts what leaves
no room for the terminator. -/
def slotSettingNameIn (nameSize slot : Nat) : Name := (slotSettingName slot).take (nameSize - 1)

/-- The buffers of the callers, `sizeof("runtime_macro/slot/") + 3`. -/
def settingNameSize : Nat := (ascii "runtime_macro/slot/").length + 1 + 3

/-- The number part of a key. -/
def numberPart (key : Name) : Name := key.drop (ascii "runtime_macro/slot/").length

theorem slotSettingName_fits (small : slot < 256) :
    (slotSettingName slot).length + 1 ≤ settingNameSize := by
  have digits := decimal_length (by omega : slot < 1000)
  unfold slotSettingName settingNameSize
  rw [List.length_append]
  omega

theorem numberPart_slotSettingName (slot : Nat) :
    numberPart (slotSettingName slot) = decimal slot := List.drop_left

theorem parseSlotWords_decimal {slot : UInt8} (valid : slotIsValid cfg slot.toNat = true) :
    parseSlotWords cfg (some (decimal slot.toNat)) = .ok slot := by
  have numbers := parseSlotWords_toNat cfg (some (decimal slot.toNat))
  rw [parseSlot_decimal valid] at numbers
  cases read : parseSlotWords cfg (some (decimal slot.toNat)) with
  | error err =>
    rw [read] at numbers
    cases numbers
  | ok parsed =>
    rw [read] at numbers
    rw [UInt8.toNat_inj.mp (Except.ok.inj numbers)]

/-- The loop accumulates without wrapping: behind any front that it got
through, a digit more is computed as in the numbers. -/
def NeverWraps (cfg : Config) : Prop :=
  ∀ (front : Name) (value : UInt32) (c : UInt8),
    front.foldlM (parseSlotDigit cfg) 0 = .ok value → IsDigit c →
      (value * 10 + (c - 0x30).toUInt32).toNat = value.toNat * 10 + digitOf c

theorem neverWraps (cfg : Config) : NeverWraps cfg := by
  intro front value c read isDigit
  have digit := toNat_digit isDigit
  have inside := digits_inside read
  have range := cfg.slotCount_range.2
  have small := isDigit.small
  rw [toNat_accumulate (by omega), digit]

/-- A stored key is loaded into its slot, whatever its value, and no other key
is. -/
def LoadsOwn (cfg : Config) (slot : Nat) : Prop :=
  ∀ settings loaded, (∀ value, settings.values (slotSettingName slot) = some value →
    (deliverKey cfg settings loaded (slotSettingName slot)).2 =
      (settingsSetSlot cfg slot value.length (some (readerOf value)) loaded.2).2) ∧
    ∀ key, key ≠ slotSettingName slot →
      (deliverKey cfg settings loaded key).2.slots slot = loaded.2.slots slot ∧
        (deliverKey cfg settings loaded key).2.hasPersistedSetting slot =
          loaded.2.hasPersistedSetting slot

theorem loadsOwn (valid : slotIsValid cfg slot = true) : LoadsOwn cfg slot := by
  intro settings loaded
  constructor
  · exact fun value stored => deliverKey_slot valid stored loaded
  · exact fun key other => deliverKey_of_ne settings loaded other

/-- The parser accepts exactly the canonical numerals of the slots, without
wrapping. It reads back the number part of every key, which fits its buffer; so
slots have different keys, and a key loads into its slot. -/
theorem slot_keys_canonical (cfg : Config) :
    (∀ name, (parseSlotWords cfg name).map UInt8.toNat = parseSlot cfg name) ∧
    (∀ name slot, (parseSlotWords cfg (some name)).map UInt8.toNat = .ok slot ↔
      IsNumeral name slot ∧ slot < cfg.slotCount) ∧
    NeverWraps cfg ∧ settingNameSize = 23 ∧
    (∀ slot : UInt8, slotIsValid cfg slot.toNat = true →
      parseSlotWords cfg (some (numberPart (slotSettingName slot.toNat))) = .ok slot ∧
      (slotSettingName slot.toNat).length + 1 ≤ settingNameSize ∧
      slotSettingNameIn settingNameSize slot.toNat = slotSettingName slot.toNat ∧
      LoadsOwn cfg slot.toNat) ∧
    Function.Injective slotSettingName := by
  refine ⟨parseSlotWords_toNat cfg, ?_, neverWraps cfg, by decide, ?_, slotSettingName_injective⟩
  · intro name slot
    rw [parseSlotWords_toNat]
    exact parseSlot_ok_iff
  · intro slot valid
    have fits := slotSettingName_fits slot.toNat_lt
    refine ⟨?_, fits, List.take_of_length_le (by omega), loadsOwn valid⟩
    rw [numberPart_slotSettingName]
    exact parseSlotWords_decimal valid

end RuntimeMacro.Guarantees.SlotKeys
