import RuntimeMacro.Source.Config

/-!
# US keyboard alphabet

runtime_macro_ascii.c:24-138. Keycodes are the encodings `ZMK_HID_USAGE(7, id)`
and `APPLY_MODS(MOD_LSFT, _)`. A zero entry of the table is an unsupported
byte.
-/
namespace RuntimeMacro.Source.Ascii

/-- A key of the keyboard page without modifiers, as the keymap encodes it. -/
def key (id : Nat) : Nat := (0x07 <<< 16) ||| id

/-- The same key with the left shift in its modifier byte. -/
def shiftedKey (id : Nat) : Nat := (0x02 <<< 24) ||| key id

/-- The entries of `runtime_macro_ascii_map` that are neither letters nor
digits. -/
def symbolMap : List (Nat × Nat) :=
  [(0x08, key 0x2A), (0x09, key 0x2B), (0x0A, key 0x28), (0x20, key 0x2C),
   (0x21, shiftedKey 0x1E), (0x22, shiftedKey 0x34), (0x23, shiftedKey 0x20),
   (0x24, shiftedKey 0x21), (0x25, shiftedKey 0x22), (0x26, shiftedKey 0x24),
   (0x27, key 0x34), (0x28, shiftedKey 0x26), (0x29, shiftedKey 0x27),
   (0x2A, shiftedKey 0x25), (0x2B, shiftedKey 0x2E), (0x2C, key 0x36), (0x2D, key 0x2D),
   (0x2E, key 0x37), (0x2F, key 0x38), (0x3A, shiftedKey 0x33), (0x3B, key 0x33),
   (0x3C, shiftedKey 0x36), (0x3D, key 0x2E), (0x3E, shiftedKey 0x37),
   (0x3F, shiftedKey 0x38), (0x40, shiftedKey 0x1F), (0x5B, key 0x2F), (0x5C, key 0x31),
   (0x5D, key 0x30), (0x5E, shiftedKey 0x23), (0x5F, shiftedKey 0x2D), (0x60, key 0x35),
   (0x7B, shiftedKey 0x2F), (0x7C, shiftedKey 0x31), (0x7D, shiftedKey 0x30),
   (0x7E, shiftedKey 0x35)]

/-- `runtime_macro_ascii_map` (runtime_macro_ascii.c:24-127), 128 entries. -/
def asciiMap (byte : Nat) : Nat :=
  if byte = 0x30 then key 0x27
  else if 0x31 ≤ byte ∧ byte ≤ 0x39 then key (0x1E + (byte - 0x31))
  else if 0x41 ≤ byte ∧ byte ≤ 0x5A then shiftedKey (0x04 + (byte - 0x41))
  else if 0x61 ≤ byte ∧ byte ≤ 0x7A then key (0x04 + (byte - 0x61))
  else (symbolMap.lookup byte).getD 0

/-- `zmk_runtime_macro_ascii_to_keycode` (runtime_macro_ascii.c:129-138) with a
non-NULL output: bytes from 128 on are outside the table, and an entry that is
zero has no key. -/
def asciiToKeycode (byte : UInt8) : Except Int Nat :=
  if byte.toNat ≥ 128 ∨ asciiMap byte.toNat = 0 then .error (-einval)
  else .ok (asciiMap byte.toNat)

/-- `runtime_macro_dynamic_byte_is_valid` (runtime_macro_dynamic.c:45-50). The
checks of the static texts and of the payloads ask the same of each byte. -/
def byteIsValid (byte : UInt8) : Bool :=
  match asciiToKeycode byte with
  | .ok _ => true
  | .error _ => false

end RuntimeMacro.Source.Ascii
