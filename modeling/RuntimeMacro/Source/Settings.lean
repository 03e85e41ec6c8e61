import RuntimeMacro.Source.Config
import Mathlib.Logic.Function.Basic

/-!
# Settings subsystem

What the module uses of Zephyr settings: a store from names to values, the two
update calls, and `settings_name_steq`
(tests/host/stubs/zephyr/settings/settings.h:29-54). Names are C strings
without their terminator. An update either takes effect and returns 0 or
returns an error and leaves the store as it was; `calls` records every update
call.
-/
namespace RuntimeMacro.Source

/-- The bytes of a settings name. -/
abbrev Name := List UInt8

/-- The bytes of an ASCII literal. -/
def ascii (text : String) : List UInt8 := text.toList.map fun c => UInt8.ofNat c.toNat

/-- One update call, with the code it returned. -/
inductive SettingsCall where
  | save (name : Name) (value : List UInt8) (err : Int)
  | delete (name : Name) (err : Int)
  deriving DecidableEq, Repr

/-- The stored values by name, and every update call so far. -/
structure Settings where
  values : Name → Option (List UInt8)
  calls : List SettingsCall

def Settings.empty : Settings := ⟨fun _ => none, []⟩

/-- An update that took effect. -/
def SettingsCall.succeeded : SettingsCall → Bool
  | .save _ _ err => err = 0
  | .delete _ err => err = 0

/-- `settings_save_one`, which returned `err`. -/
def settingsSaveOne (name : Name) (value : List UInt8) (err : Int) (s : Settings) : Settings :=
  { values := if err = 0 then Function.update s.values name (some value) else s.values
    calls := s.calls ++ [.save name value err] }

/-- `settings_delete`, which returned `err`. -/
def settingsDelete (name : Name) (err : Int) (s : Settings) : Settings :=
  { values := if err = 0 then Function.update s.values name none else s.values
    calls := s.calls ++ [.delete name err] }

@[simp] theorem settingsSaveOne_calls (name : Name) (value : List UInt8) (err : Int)
    (s : Settings) : (settingsSaveOne name value err s).calls = s.calls ++ [.save name value err] :=
  rfl

@[simp] theorem settingsDelete_calls (name : Name) (err : Int) (s : Settings) :
    (settingsDelete name err s).calls = s.calls ++ [.delete name err] := rfl

theorem settingsSaveOne_values_of_error (name : Name) (value : List UInt8) (err : Int)
    (s : Settings) (failed : err ≠ 0) : (settingsSaveOne name value err s).values = s.values := by
  simp [settingsSaveOne, failed]

@[simp] theorem settingsSaveOne_values_self (name : Name) (value : List UInt8) (s : Settings) :
    (settingsSaveOne name value 0 s).values name = some value := by
  simp [settingsSaveOne]

/-- No update call since then has succeeded. -/
def Settings.Unwritten (s s' : Settings) : Prop :=
  ∃ calls, s'.calls = s.calls ++ calls ∧ ∀ call ∈ calls, call.succeeded = false

theorem Settings.Unwritten.of_calls {s s' : Settings} (same : s'.calls = s.calls) :
    s.Unwritten s' := ⟨[], by simpa using same, by simp⟩

theorem Settings.unwritten_iff {s s' : Settings} {call : SettingsCall}
    (called : s'.calls = s.calls ++ [call]) : s.Unwritten s' ↔ call.succeeded = false := by
  constructor
  · intro unwritten
    obtain ⟨calls, same, failed⟩ := unwritten
    rw [called, List.append_cancel_left_eq] at same
    exact failed call (by simp [← same])
  · intro failed
    exact ⟨[call], called, by simpa using failed⟩

/-- The outcome of `settings_name_steq`: no match, or a match with what follows
the separator (`none` is the NULL that `*next` keeps when the name ends). -/
def settingsNameSteq : Name → Name → Option (Option Name)
  | [], [] => some none
  | c :: rest, [] =>
    if c = 0x2F then some (some rest) else if c = 0x3D then some none else none
  | [], _ :: _ => none
  | c :: name, k :: key =>
    if c ≠ 0x2F ∧ c ≠ 0x3D ∧ k = c then settingsNameSteq name key else none

/-- A settings read callback: the returned length and the bytes put into the
buffer. -/
abbrev SettingsReadCb := Nat → Int × List UInt8

end RuntimeMacro.Source
