import RuntimeMacro.Source.AuthCore
import RuntimeMacro.Source.SlotNumerals
import RuntimeMacro.Foundations.Runs

/-!
# Loading the static slots

runtime_macro.c:64-80,209-328. The settings handler of runtime_macro.c. A load
hands over every stored key of the subtree, one callback each, and ends with
one commit, which writes the default texts on the first boot.
-/
namespace RuntimeMacro.Source
open Foundations Foundations.Numerals

namespace SlotStore

def defaultsSettingName : Name := ascii "defaults_initialized"
def defaultsSettingPath : Name := ascii "runtime_macro/defaults_initialized"
def defaultsMarker : UInt8 := 1

/-- The digits of `runtime_macro_parse_slot`, from `value` on. -/
def parseSlotFrom (cfg : Config) : Nat → Name → Except Int Nat
  | value, [] => .ok value
  | value, c :: rest =>
    if c < 0x30 ∨ c > 0x39 then .error (-einval)
    else
      let digit := c.toNat - 0x30
      if value > (0xFFFFFFFF - digit) / 10 then .error (-einval)
      else
        let value := value * 10 + digit
        if value ≥ cfg.slotCount then .error (-einval) else parseSlotFrom cfg value rest

/-- `runtime_macro_parse_slot` (runtime_macro.c:179-207): the decimal number of
a slot, without leading zeros. `none` is the NULL that `settings_name_steq`
leaves when the name ends at "slot". -/
def parseSlot (cfg : Config) : Option Name → Except Int Nat
  | none | some [] => .error (-einval)
  | some (c :: rest) =>
    if c = 0x30 ∧ rest ≠ [] then .error (-einval) else parseSlotFrom cfg 0 (c :: rest)

/-- One pass of the loop in the 32-bit words of the source. -/
def parseSlotDigit (cfg : Config) (value : UInt32) (c : UInt8) : Except Int UInt32 :=
  if c < 0x30 ∨ c > 0x39 then .error (-einval)
  else
    let digit := (c - 0x30).toUInt32
    if value > (0xFFFFFFFF - digit) / 10 then .error (-einval)
    else
      let value := value * 10 + digit
      if value ≥ UInt32.ofNat cfg.slotCount then .error (-einval) else .ok value

/-- `runtime_macro_parse_slot` in the words of the source. -/
def parseSlotWords (cfg : Config) : Option Name → Except Int UInt8
  | none | some [] => .error (-einval)
  | some (c :: rest) =>
    if c = 0x30 ∧ rest ≠ [] then .error (-einval)
    else ((c :: rest).foldlM (parseSlotDigit cfg) 0).map UInt32.toUInt8

/-- The marker branch of `runtime_macro_settings_set`. -/
def settingsSetDefaults (next : Option Name) (length : Nat) (readCb : Option SettingsReadCb)
    (s : SlotStore) : Int × SlotStore :=
  match readCb with
  | none => (-einval, s)
  | some readCb =>
    if next ≠ none ∨ length ≠ 1 then (-einval, s)
    else
      let (readLength, marker) := readCb 1
      if readLength < 0 then (readLength, s)
      else if readLength ≠ 1 ∨ marker.getD 0 0 ≠ defaultsMarker then (-einval, s)
      else (0, { s with defaultsInitialized := true })

/-- The slot branch of `runtime_macro_settings_set`: the key counts as stored
even when its value is malformed. -/
def settingsSetSlot (cfg : Config) (slot length : Nat) (readCb : Option SettingsReadCb)
    (s : SlotStore) : Int × SlotStore :=
  let s := { s with hasPersistedSetting := Function.update s.hasPersistedSetting slot true }
  match readCb with
  | none => (-einval, s)
  | some readCb =>
    if length > cfg.maxTextLen then (-einval, s)
    else
      let (readLength, value) := readCb length
      if readLength < 0 then (readLength, s)
      else if readLength ≠ length then (-eio, s)
      else if textIsValid (value.take length) = false then (-einval, s)
      else (0, slotReplace slot (value.take length) s)

/-- `runtime_macro_settings_set` (runtime_macro.c:209-278): the authentication
core sees every key first, and only the keys it does not know go on to the
defaults marker and the slots. -/
def settingsSet (cfg : Config) (name : Option Name) (length : Nat) (readCb : Option SettingsReadCb)
    (auth : AuthCore.State) (s : SlotStore) : Int × AuthCore.State × SlotStore :=
  match name with
  | none => (-enoent, auth, s)
  | some name =>
    let (authErr, auth) := AuthCore.settingsSet (some name) length readCb auth
    if authErr ≠ -enoent then (authErr, auth, s)
    else
      match settingsNameSteq name defaultsSettingName with
      | some next =>
        let (err, s) := settingsSetDefaults next length readCb s
        (err, auth, s)
      | none =>
        match settingsNameSteq name (ascii "slot") with
        | none => (-enoent, auth, s)
        | some next =>
          match parseSlot cfg next with
          | .error err => (err, auth, s)
          | .ok slot =>
            let (err, s) := settingsSetSlot cfg slot length readCb s
            (err, auth, s)

/-- `runtime_macro_default_text` (runtime_macro.c:64-80), truncated by
`snprintf` to the capacity of a slot. The number shown counts from one. -/
def defaultText (cfg : Config) (slot : Nat) : List UInt8 :=
  (ascii "Runtime Macro " ++ decimal (slot + 1)).take cfg.maxTextLen

/-- What the loop of `runtime_macro_settings_commit` carries. -/
structure Defaults where
  store : SlotStore
  settings : Settings
  persisted : Bool

/-- One slot of the loop: the default text of a slot without a stored key.
`saveErr` is what `settings_save_one` answers for a name. -/
def commitDefault (cfg : Config) (saveErr : Name → Int) (d : Defaults) (slot : Nat) : Defaults :=
  if d.store.hasPersistedSetting slot then d
  else
    let text := defaultText cfg slot
    let store := slotReplace slot text d.store
    let name := slotSettingName slot
    let settings := settingsSaveOne name text (saveErr name) d.settings
    if saveErr name ≠ 0 then ⟨store, settings, false⟩
    else
      ⟨{ store with hasPersistedSetting := Function.update store.hasPersistedSetting slot true },
        settings, d.persisted⟩

/-- The part of `runtime_macro_settings_commit` behind the authentication
core. -/
def commitDefaults (cfg : Config) (saveErr : Name → Int) (s : SlotStore) (settings : Settings) :
    SlotStore × Settings :=
  if s.defaultsInitialized then (s, settings)
  else
    let d := (List.range cfg.slotCount).foldl (commitDefault cfg saveErr) ⟨s, settings, true⟩
    if d.persisted = false then (d.store, d.settings)
    else
      let settings :=
        settingsSaveOne defaultsSettingPath [defaultsMarker] (saveErr defaultsSettingPath)
          d.settings
      if saveErr defaultsSettingPath ≠ 0 then (d.store, settings)
      else ({ d.store with defaultsInitialized := true }, settings)

/-- `runtime_macro_settings_commit` (runtime_macro.c:280-328), which always
returns 0. The core commits first; then the slots without a stored key get
their default, unless the marker is there. -/
def settingsCommit (cfg : Config) (saveErr : Name → Int) (auth : AuthCore.State) (s : SlotStore)
    (settings : Settings) : AuthCore.State × SlotStore × Settings :=
  (AuthCore.settingsCommit auth, commitDefaults cfg saveErr s settings)

/-! ## Names -/

theorem parseSlotFrom_cons (cfg : Config) (value : Nat) (c : UInt8) (rest : Name) :
    parseSlotFrom cfg value (c :: rest) =
      if IsDigit c ∧ value * 10 + digitOf c < cfg.slotCount then
        parseSlotFrom cfg (value * 10 + digitOf c) rest
      else .error (-einval) := by
  have range := cfg.slotCount_range.2
  conv_lhs => unfold parseSlotFrom
  by_cases isDigit : IsDigit c
  · have accepted : ¬ (c < 0x30 ∨ c > 0x39) := fun refused => not_isDigit_iff.mpr refused isDigit
    have digit : c.toNat - 0x30 = digitOf c := rfl
    rw [if_neg accepted]
    dsimp only
    rw [digit]
    by_cases inside : value * 10 + digitOf c < cfg.slotCount
    · rw [if_neg (by omega), if_neg (Nat.not_le.mpr inside), if_pos ⟨isDigit, inside⟩]
    · split
      · rw [if_neg fun both => inside both.2]
      · rw [if_pos (Nat.not_lt.mp inside), if_neg fun both => inside both.2]
  · rw [if_pos (not_isDigit_iff.mp isDigit), if_neg fun both => isDigit both.1]

/-- The loop takes digits only and ends at their value. Reading never leads
down, so that the range check at the last digit stands for all of them. -/
theorem parseSlotFrom_ok {cfg : Config} {value slot : Nat} {name : Name} :
    parseSlotFrom cfg value name = .ok slot ↔ (∀ c ∈ name, IsDigit c) ∧
      valueFrom 10 value (name.map digitOf) = slot ∧ (name ≠ [] → slot < cfg.slotCount) := by
  induction name generalizing value with
  | nil => simp [parseSlotFrom]
  | cons c rest ih =>
    rw [parseSlotFrom_cons, List.map_cons, valueFrom_cons, List.forall_mem_cons]
    have grows := le_valueFrom (by decide : 0 < 10) (value * 10 + digitOf c) (rest.map digitOf)
    split
    next accepted =>
      rw [ih]
      constructor
      · rintro ⟨digits, reads, inside⟩
        refine ⟨⟨accepted.1, digits⟩, reads, fun _ => ?_⟩
        by_cases last : rest = []
        · rw [← reads, last]
          exact accepted.2
        · exact inside last
      · rintro ⟨digits, reads, inside⟩
        exact ⟨digits.2, reads, fun _ => inside (by simp)⟩
    next refused =>
      constructor
      · exact fun impossible => by cases impossible
      · rintro ⟨digits, reads, inside⟩
        have last := inside (by simp)
        exact absurd ⟨digits.1, by omega⟩ refused

/-- Exactly the numerals of the slots are accepted. -/
theorem parseSlot_ok_iff {cfg : Config} {name : Name} {slot : Nat} :
    parseSlot cfg (some name) = .ok slot ↔ IsNumeral name slot ∧ slot < cfg.slotCount := by
  cases name with
  | nil =>
    constructor
    · exact fun impossible => by cases impossible
    · exact fun numeral => absurd rfl numeral.1.nonempty
  | cons c rest =>
    rw [parseSlot]
    split
    next leading =>
      constructor
      · exact fun impossible => by cases impossible
      · rintro ⟨numeral, _⟩
        have alone := numeral.leading (by rw [leading.1]; rfl)
        exact absurd (List.cons.inj alone).2 leading.2
    next canonical =>
      rw [parseSlotFrom_ok]
      constructor
      · rintro ⟨digits, value, inside⟩
        refine ⟨⟨by simp, digits, fun zero => ?_, value⟩, inside (by simp)⟩
        rw [List.head?_cons, Option.some.injEq] at zero
        rw [zero, of_not_not fun more => canonical ⟨zero, more⟩]
      · rintro ⟨numeral, inside⟩
        exact ⟨numeral.digits, numeral.value, fun _ => inside⟩

/-- Only the numeral that `snprintf` writes for a slot names it. -/
theorem parseSlot_ok {cfg : Config} {name : Option Name} {slot : Nat}
    (parsed : parseSlot cfg name = .ok slot) : name = some (decimal slot) := by
  cases name with
  | none => cases parsed
  | some name => rw [isNumeral_iff_decimal.mp (parseSlot_ok_iff.mp parsed).1]

theorem parseSlot_decimal {cfg : Config} {slot : Nat} (valid : slotIsValid cfg slot = true) :
    parseSlot cfg (some (decimal slot)) = .ok slot :=
  parseSlot_ok_iff.mpr ⟨decimal_isNumeral slot, of_decide_eq_true valid⟩

/-! ## The 32-bit words -/

theorem toNat_digit {c : UInt8} (isDigit : IsDigit c) :
    (c - 0x30).toUInt32.toNat = digitOf c := by
  rw [UInt8.toNat_toUInt32, UInt8.toNat_sub_of_le c 0x30 isDigit.1]
  rfl

theorem toNat_accumulate {value digit : UInt32} (fits : value.toNat * 10 + digit.toNat < 2 ^ 32) :
    (value * 10 + digit).toNat = value.toNat * 10 + digit.toNat := by
  have ten : (10 : UInt32).toNat = 10 := rfl
  rw [UInt32.toNat_add, UInt32.toNat_mul, ten,
    Nat.mod_eq_of_lt (by omega : value.toNat * 10 < 2 ^ 32), Nat.mod_eq_of_lt fits]

/-- A pass computes in words what it would compute in numbers. -/
theorem parseSlotDigit_toNat (cfg : Config) (value : UInt32) (c : UInt8) :
    (parseSlotDigit cfg value c).map UInt32.toNat =
      if IsDigit c ∧ value.toNat * 10 + digitOf c < cfg.slotCount then
        .ok (value.toNat * 10 + digitOf c)
      else .error (-einval) := by
  have range := cfg.slotCount_range.2
  unfold parseSlotDigit
  by_cases isDigit : IsDigit c
  · have accepted : ¬ (c < 0x30 ∨ c > 0x39) := fun refused => not_isDigit_iff.mpr refused isDigit
    have digit := toNat_digit isDigit
    have small := isDigit.small
    have count : (UInt32.ofNat cfg.slotCount).toNat = cfg.slotCount :=
      UInt32.toNat_ofNat_of_lt' (by unfold UInt32.size; omega)
    rw [if_neg accepted]
    dsimp only
    generalize (c - 0x30).toUInt32 = word at digit
    have room : ((0xFFFFFFFF - word) / 10).toNat = (0xFFFFFFFF - digitOf c) / 10 := by
      have most : (0xFFFFFFFF : UInt32).toNat = 0xFFFFFFFF := rfl
      have below : word ≤ 0xFFFFFFFF := by
        rw [UInt32.le_iff_toNat_le, most, digit]
        omega
      rw [UInt32.toNat_div, UInt32.toNat_sub_of_le _ _ below, digit]
      rfl
    by_cases fits : value > (0xFFFFFFFF - word) / 10
    · have past := UInt32.lt_iff_toNat_lt.mp fits
      rw [room] at past
      rw [if_pos fits, if_neg (by omega)]
      rfl
    · have inside := UInt32.le_iff_toNat_le.mp (UInt32.not_lt.mp fits)
      rw [room] at inside
      have exactly := @toNat_accumulate value word (by omega)
      rw [digit] at exactly
      have reached : value * 10 + word ≥ UInt32.ofNat cfg.slotCount ↔
          cfg.slotCount ≤ value.toNat * 10 + digitOf c := by
        rw [ge_iff_le, UInt32.le_iff_toNat_le, exactly, count]
      rw [if_neg fits]
      by_cases taken : value.toNat * 10 + digitOf c < cfg.slotCount
      · rw [if_neg fun outside => Nat.not_le.mpr taken (reached.mp outside),
          if_pos ⟨isDigit, taken⟩]
        exact congrArg Except.ok exactly
      · rw [if_pos (reached.mpr (Nat.not_lt.mp taken)), if_neg fun both => taken both.2]
        rfl
  · rw [if_pos (not_isDigit_iff.mp isDigit), if_neg fun both => isDigit both.1]
    rfl

theorem parseSlotDigits_toNat (cfg : Config) (value : UInt32) (name : Name) :
    (name.foldlM (parseSlotDigit cfg) value).map UInt32.toNat =
      parseSlotFrom cfg value.toNat name := by
  induction name generalizing value with
  | nil => rfl
  | cons c rest ih =>
    have pass := parseSlotDigit_toNat cfg value c
    rw [List.foldlM_cons, parseSlotFrom_cons]
    split at pass
    next accepted =>
      rw [if_pos accepted]
      cases next : parseSlotDigit cfg value c with
      | error err =>
        rw [next] at pass
        cases pass
      | ok word =>
        rw [next] at pass
        rw [← Except.ok.inj pass]
        exact ih word
    next refused =>
      rw [if_neg refused]
      cases next : parseSlotDigit cfg value c with
      | error err =>
        rw [next] at pass
        rw [← Except.error.inj pass]
        rfl
      | ok word =>
        rw [next] at pass
        cases pass

theorem settingsNameSteq_some {name key next : Name}
    (matched : settingsNameSteq name key = some (some next)) : name = key ++ 0x2F :: next := by
  induction key generalizing name with
  | nil =>
    cases name with
    | nil => cases matched
    | cons c rest =>
      unfold settingsNameSteq at matched
      split at matched
      next slash =>
        cases matched
        rw [slash]
        rfl
      · split at matched <;> cases matched
  | cons k key ih =>
    cases name with
    | nil => cases matched
    | cons c rest =>
      unfold settingsNameSteq at matched
      split at matched
      next same => rw [ih matched, same.2.2, List.cons_append]
      · cases matched

/-- The name behind the subtree. -/
theorem slotSettingName_eq (slot : Nat) :
    slotSettingName slot =
      ascii "runtime_macro" ++ 0x2F :: (ascii "slot" ++ 0x2F :: decimal slot) := by
  have path : ascii "runtime_macro/slot/" =
      ascii "runtime_macro" ++ 0x2F :: (ascii "slot" ++ [0x2F]) := by
    decide
  rw [slotSettingName, path]
  simp only [List.append_assoc, List.cons_append, List.nil_append]

theorem slotSettingName_injective : Function.Injective slotSettingName :=
  fun _ _ same => decimal_injective (List.append_cancel_left same)

theorem slotSettingName_ne_path (slot : Nat) : slotSettingName slot ≠ defaultsSettingPath := by
  intro same
  have front : ascii "runtime_macro/slot/" = defaultsSettingPath.take 19 := by
    have length : (ascii "runtime_macro/slot/").length = 19 := by decide
    rw [← same, slotSettingName, ← length, List.take_left]
  revert front
  decide

/-! ## One callback -/

/-- What a callback does to the slots: nothing, the marker, or the slot its key
names. -/
theorem settingsSet_store (cfg : Config) (name : Option Name) (length : Nat)
    (readCb : Option SettingsReadCb) (auth : AuthCore.State) (s : SlotStore) :
    (settingsSet cfg name length readCb auth s).2.2 = s ∨
    (settingsSet cfg name length readCb auth s).2.2 = { s with defaultsInitialized := true } ∨
    ∃ slot, name = some (ascii "slot" ++ 0x2F :: decimal slot) ∧
      (settingsSet cfg name length readCb auth s).2.2 =
        (settingsSetSlot cfg slot length readCb s).2 := by
  unfold settingsSet
  split
  · exact Or.inl rfl
  next name =>
    dsimp only
    split
    · exact Or.inl rfl
    · split
      next next _ =>
        unfold settingsSetDefaults
        split
        · exact Or.inl rfl
        · dsimp only
          split
          · exact Or.inl rfl
          · split
            · exact Or.inl rfl
            · split
              · exact Or.inl rfl
              · exact Or.inr (Or.inl rfl)
      · split
        · exact Or.inl rfl
        next next matched =>
          split
          · exact Or.inl rfl
          next slot parsed =>
            have digits := parseSlot_ok parsed
            subst digits
            refine Or.inr (Or.inr ⟨slot, ?_, rfl⟩)
            rw [settingsNameSteq_some matched]

/-- The key of a slot reaches the slot branch, whatever its value. -/
theorem settingsSet_slot {cfg : Config} {slot : Nat} (valid : slotIsValid cfg slot = true)
    (length : Nat) (readCb : Option SettingsReadCb) (auth : AuthCore.State) (s : SlotStore) :
    (settingsSet cfg (some (ascii "slot" ++ 0x2F :: decimal slot)) length readCb auth s).2.2 =
      (settingsSetSlot cfg slot length readCb s).2 := by
  have other : AuthCore.settingsSet (some (ascii "slot" ++ 0x2F :: decimal slot)) length readCb
      auth = (-enoent, auth) := rfl
  have unmarked : settingsNameSteq (ascii "slot" ++ 0x2F :: decimal slot) defaultsSettingName =
      none := rfl
  have matched : settingsNameSteq (ascii "slot" ++ 0x2F :: decimal slot) (ascii "slot") =
      some (some (decimal slot)) := rfl
  simp only [settingsSet, other, ne_eq, not_true_eq_false, if_false, unmarked, matched,
    parseSlot_decimal valid]

end SlotStore

end RuntimeMacro.Source
