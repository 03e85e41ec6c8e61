import Mathlib.Data.List.Induction
import Mathlib.Data.Nat.Digits.Defs

/-!
# Canonical numerals

The digits of a number in a base, the most significant first. A numeral is
canonical when it has digits, all below the base, and starts with zero only if
it is the numeral of zero. A number has one canonical numeral.
-/
namespace RuntimeMacro.Foundations.Numerals

variable {base digit : Nat} {digits digits' : List Nat}

/-- What a reader of the digits arrives at from `value`. -/
def valueFrom (base value : Nat) (digits : List Nat) : Nat :=
  digits.foldl (fun value digit => value * base + digit) value

/-- The digit lists a number has exactly one of: not empty, below the base, and
without a leading zero unless zero itself is meant. -/
structure Canonical (base : Nat) (digits : List Nat) : Prop where
  nonempty : digits ≠ []
  small : ∀ digit ∈ digits, digit < base
  leading : digits.head? = some 0 → digits = [0]

@[simp] theorem valueFrom_nil (base value : Nat) : valueFrom base value [] = value := rfl

@[simp] theorem valueFrom_cons (base value digit : Nat) (digits : List Nat) :
    valueFrom base value (digit :: digits) = valueFrom base (value * base + digit) digits := rfl

@[simp] theorem valueFrom_snoc (base value digit : Nat) (digits : List Nat) :
    valueFrom base value (digits ++ [digit]) = valueFrom base value digits * base + digit := by
  simp [valueFrom]

/-- Reading on never leads below what was read. -/
theorem le_valueFrom (positive : 0 < base) (value : Nat) (digits : List Nat) :
    value ≤ valueFrom base value digits := by
  induction digits generalizing value with
  | nil => exact Nat.le_refl value
  | cons digit digits ih =>
    have scaled : value ≤ value * base := Nat.le_mul_of_pos_right value positive
    have read := ih (value * base + digit)
    rw [valueFrom_cons]
    omega

theorem valueFrom_eq_ofDigits (base : Nat) (digits : List Nat) :
    valueFrom base 0 digits = Nat.ofDigits base digits.reverse := by
  induction digits using List.reverseRecOn with
  | nil => rfl
  | append_singleton digits digit ih =>
    rw [valueFrom_snoc, ih, List.reverse_append, List.reverse_singleton, List.singleton_append,
      Nat.ofDigits_cons, Nat.mul_comm, Nat.add_comm]

namespace Canonical

theorem single (small : digit < base) : Canonical base [digit] := by
  constructor
  · simp
  · simpa using small
  · intro zero
    simpa using zero

/-- A digit more behind a numeral that is not that of zero. -/
theorem snoc (canonical : Canonical base digits) (positive : 0 < valueFrom base 0 digits)
    (small : digit < base) : Canonical base (digits ++ [digit]) := by
  constructor
  · simp
  · intro other member
    rcases List.mem_append.mp member with early | last
    · exact canonical.small other early
    · rw [List.mem_singleton.mp last]
      exact small
  · intro zero
    have first : digits.head? = some 0 := by
      rw [List.head?_append, List.head?_eq_some_head canonical.nonempty, Option.some_or] at zero
      rw [List.head?_eq_some_head canonical.nonempty, zero]
    rw [canonical.leading first] at positive
    exact absurd positive (by simp)

/-- Without the numeral of zero these are the digits of the value. -/
theorem digits_value (proper : 1 < base) (canonical : Canonical base digits)
    (nonzero : digits ≠ [0]) : Nat.digits base (valueFrom base 0 digits) = digits.reverse := by
  rw [valueFrom_eq_ofDigits]
  apply Nat.digits_ofDigits base proper
  · intro digit member
    exact canonical.small digit (List.mem_reverse.mp member)
  · intro nonempty last
    rw [List.getLast_reverse] at last
    apply nonzero
    apply canonical.leading
    rw [List.head?_eq_some_head canonical.nonempty, last]

/-- Both lists are the library's digits of the number, reversed, unless the
number is zero; zero has the one list that the third condition leaves. -/
theorem unique (proper : 1 < base) (canonical : Canonical base digits)
    (canonical' : Canonical base digits')
    (same : valueFrom base 0 digits = valueFrom base 0 digits') : digits = digits' := by
  have zero : ∀ {digits : List Nat}, Canonical base digits → valueFrom base 0 digits = 0 →
      digits = [0] := by
    intro digits canonical none
    by_contra nonzero
    have empty := canonical.digits_value proper nonzero
    rw [none, Nat.digits_zero] at empty
    exact canonical.nonempty (List.reverse_eq_nil_iff.mp empty.symm)
  by_cases first : digits = [0]
  · have none : valueFrom base 0 digits' = 0 := by
      rw [← same, first]
      simp
    rw [first, zero canonical' none]
  · by_cases second : digits' = [0]
    · have none : valueFrom base 0 digits = 0 := by
        rw [same, second]
        simp
      exact absurd (zero canonical none) first
    · have here := canonical.digits_value proper first
      rw [same, canonical'.digits_value proper second] at here
      exact (List.reverse_inj.mp here).symm

end Canonical

end RuntimeMacro.Foundations.Numerals
