import Mathlib.Data.Nat.Basic

/-!
# Build configuration and error codes

Kconfig:22-157. The ranges Kconfig enforces are fields, so that a configuration
outside them cannot be built. The build modelled has
`ZMK_RUNTIME_MACRO_USB_HID` and `ZMK_RUNTIME_MACRO_DYNAMIC` enabled, hence all
thirteen opcodes.
-/
namespace RuntimeMacro.Source

/-- The options that the modelled code reads, in the ranges that Kconfig
grants. -/
structure Config where
  slotCount : Nat
  maxTextLen : Nat
  dynamicSlotCount : Nat
  authChallengeTimeout : Nat
  authSessionTimeout : Nat
  dynamicClearOnUsbDisconnect : Bool
  dynamicClearOnBleProfileChange : Bool
  dynamicClearOnEndpointChange : Bool
  slotCount_range : 1 ≤ slotCount ∧ slotCount ≤ 16
  maxTextLen_range : 1 ≤ maxTextLen ∧ maxTextLen ≤ 256
  dynamicSlotCount_range : 1 ≤ dynamicSlotCount ∧ dynamicSlotCount ≤ 8
  authChallengeTimeout_range : 1 ≤ authChallengeTimeout ∧ authChallengeTimeout ≤ 300
  authSessionTimeout_range : 1 ≤ authSessionTimeout ∧ authSessionTimeout ≤ 86400

/-- The Kconfig defaults. -/
def Config.default : Config where
  slotCount := 8
  maxTextLen := 64
  dynamicSlotCount := 8
  authChallengeTimeout := 30
  authSessionTimeout := 300
  dynamicClearOnUsbDisconnect := true
  dynamicClearOnBleProfileChange := false
  dynamicClearOnEndpointChange := false
  slotCount_range := by decide
  maxTextLen_range := by decide
  dynamicSlotCount_range := by decide
  authChallengeTimeout_range := by decide
  authSessionTimeout_range := by decide

/-!The source returns the negated constants of errno.h.-/

abbrev eperm : Int := 1
abbrev enoent : Int := 2
abbrev eio : Int := 5
abbrev eagain : Int := 11
abbrev eacces : Int := 13
abbrev ebusy : Int := 16
abbrev enodev : Int := 19
abbrev einval : Int := 22
abbrev enospc : Int := 28
abbrev enodata : Int := 61

end RuntimeMacro.Source
