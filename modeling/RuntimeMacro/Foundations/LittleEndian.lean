import Mathlib.Data.Nat.Basic
import Mathlib.Tactic.Ring

/-!
# Little-endian codec

`leBytes width value` are the `width` low octets of `value`, least significant
first, and `leValue` reads them back. The two are inverse on the values that
fit.
-/
namespace RuntimeMacro.Foundations.LittleEndian

/-- `width` octets of a number, the lowest first. What does not fit is cut
off. -/
def leBytes : Nat → Nat → List UInt8
  | 0, _ => []
  | width + 1, value => UInt8.ofNat value :: leBytes width (value / 256)

/-- The number whose octets these are, the lowest first. -/
def leValue : List UInt8 → Nat
  | [] => 0
  | octet :: rest => octet.toNat + 256 * leValue rest

@[simp] theorem leBytes_length (width value : Nat) : (leBytes width value).length = width := by
  induction width generalizing value with
  | zero => rfl
  | succ width ih => simp [leBytes, ih]

theorem leValue_leBytes (width value : Nat) :
    leValue (leBytes width value) = value % 256 ^ width := by
  induction width generalizing value with
  | zero => simp [leBytes, leValue, Nat.mod_one]
  | succ width ih =>
    have split : value % (256 * 256 ^ width) = value % 256 + 256 * (value / 256 % 256 ^ width) :=
      Nat.mod_mul
    simp only [leBytes, leValue, ih, UInt8.toNat_ofNat']
    rw [Nat.pow_succ 256 width, Nat.mul_comm (256 ^ width), split]

theorem leBytes_leValue (bytes : List UInt8) : leBytes bytes.length (leValue bytes) = bytes := by
  induction bytes with
  | nil => rfl
  | cons octet rest ih =>
    have low := octet.toNat_lt
    have head : UInt8.ofNat (octet.toNat + 256 * leValue rest) = octet := by
      apply UInt8.toNat_inj.mp
      rw [UInt8.toNat_ofNat']
      omega
    have tail : (octet.toNat + 256 * leValue rest) / 256 = leValue rest := by omega
    rw [List.length_cons, leValue, leBytes, head, tail, ih]

end RuntimeMacro.Foundations.LittleEndian
