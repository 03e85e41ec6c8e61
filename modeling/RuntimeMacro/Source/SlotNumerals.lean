import RuntimeMacro.Foundations.Numerals
import RuntimeMacro.Source.SlotStore

/-!
# The numerals in the slot keys

runtime_macro.c:60-62. The canonical decimal numerals over bytes. `snprintf`
writes exactly these.
-/
namespace RuntimeMacro.Source.SlotStore
open Foundations.Numerals

variable {name name' : Name} {value number : Nat} {c : UInt8}

/-- `*cursor - '0'`. -/
def digitOf (c : UInt8) : Nat := c.toNat - 0x30

def IsDigit (c : UInt8) : Prop := 0x30 ≤ c ∧ c ≤ 0x39

instance : DecidablePred IsDigit := fun c => inferInstanceAs (Decidable (0x30 ≤ c ∧ c ≤ 0x39))

/-- The name is the decimal numeral of the number: it has digits and nothing
else, and no leading zero unless it is exactly 0. -/
structure IsNumeral (name : Name) (number : Nat) : Prop where
  nonempty : name ≠ []
  digits : ∀ c ∈ name, IsDigit c
  leading : name.head? = some 0x30 → name = [0x30]
  value : valueFrom 10 0 (name.map digitOf) = number

/-! ## Digits -/

theorem isDigit_iff : IsDigit c ↔ 0x30 ≤ c.toNat ∧ c.toNat ≤ 0x39 := by
  unfold IsDigit
  rw [UInt8.le_iff_toNat_le, UInt8.le_iff_toNat_le]
  rfl

theorem not_isDigit_iff : ¬ IsDigit c ↔ c < 0x30 ∨ c > 0x39 := by
  unfold IsDigit
  rw [not_and_or, UInt8.not_le, UInt8.not_le]

theorem IsDigit.small (isDigit : IsDigit c) : digitOf c < 10 := by
  have range := isDigit_iff.mp isDigit
  unfold digitOf
  omega

theorem IsDigit.byte (isDigit : IsDigit c) : UInt8.ofNat (0x30 + digitOf c) = c := by
  have range := isDigit_iff.mp isDigit
  have same : 0x30 + digitOf c = c.toNat := by
    unfold digitOf
    omega
  rw [same, UInt8.ofNat_toNat]

theorem digitOf_byte {digit : Nat} (small : digit < 10) :
    IsDigit (UInt8.ofNat (0x30 + digit)) ∧ digitOf (UInt8.ofNat (0x30 + digit)) = digit := by
  have same : (UInt8.ofNat (0x30 + digit)).toNat = 0x30 + digit := by
    rw [UInt8.toNat_ofNat']
    exact Nat.mod_eq_of_lt (by omega)
  rw [isDigit_iff, digitOf, same]
  omega

theorem bytes_of_digits (digits : ∀ c ∈ name, IsDigit c) :
    (name.map digitOf).map (fun digit => UInt8.ofNat (0x30 + digit)) = name := by
  rw [List.map_map, List.map_congr_left (g := id)]
  · exact List.map_id name
  · exact fun c member => (digits c member).byte

/-! ## Numerals -/

theorem isNumeral_iff : IsNumeral name number ↔ (∀ c ∈ name, IsDigit c) ∧
    Canonical 10 (name.map digitOf) ∧ valueFrom 10 0 (name.map digitOf) = number := by
  constructor
  · intro numeral
    refine ⟨numeral.digits, ⟨?_, ?_, ?_⟩, numeral.value⟩
    · simpa using numeral.nonempty
    · intro digit member
      obtain ⟨c, inside, rfl⟩ := List.mem_map.mp member
      exact (numeral.digits c inside).small
    · intro zero
      rw [List.head?_map] at zero
      obtain ⟨c, first, none⟩ := Option.map_eq_some_iff.mp zero
      have byte := (numeral.digits c (List.mem_of_mem_head? first)).byte
      rw [none] at byte
      rw [← byte] at first
      rw [numeral.leading first]
      rfl
  · rintro ⟨digits, canonical, value⟩
    refine ⟨?_, digits, ?_, value⟩
    · intro empty
      exact canonical.nonempty (by rw [empty]; rfl)
    · intro first
      have zero : (name.map digitOf).head? = some 0 := by
        rw [List.head?_map, first]
        rfl
      rw [← bytes_of_digits digits, canonical.leading zero]
      rfl

theorem IsNumeral.unique (numeral : IsNumeral name number) (numeral' : IsNumeral name' number) :
    name = name' := by
  obtain ⟨digits, canonical, value⟩ := isNumeral_iff.mp numeral
  obtain ⟨digits', canonical', value'⟩ := isNumeral_iff.mp numeral'
  have same := canonical.unique (by decide) canonical' (value.trans value'.symm)
  rw [← bytes_of_digits digits, same, bytes_of_digits digits']

theorem decimal_digit (small : value < 10) : decimal value = [UInt8.ofNat (0x30 + value)] := by
  have table : ∀ value : Fin 10,
      UInt8.ofNat value.val.digitChar.toNat = UInt8.ofNat (0x30 + value.val) := by
    decide
  rw [decimal, Nat.toDigits_of_lt_base small, List.map_singleton]
  exact congrArg (fun c => [c]) (table ⟨value, small⟩)

/-- The last digit of a numeral stands at its end. -/
theorem decimal_append {digit : Nat} (positive : 0 < value) (small : digit < 10) :
    decimal (value * 10 + digit) = decimal value ++ decimal digit := by
  unfold decimal
  rw [Nat.mul_comm, ← Nat.toDigits_append_toDigits (by decide) positive small, List.map_append]

theorem decimal_isNumeral (number : Nat) : IsNumeral (decimal number) number := by
  induction number using Nat.strong_induction_on with
  | _ number ih =>
    rw [isNumeral_iff]
    by_cases small : number < 10
    · obtain ⟨isDigit, value⟩ := digitOf_byte small
      rw [decimal_digit small]
      rw [List.map_singleton, value]
      refine ⟨by simpa using isDigit, Canonical.single small, ?_⟩
      rw [valueFrom_cons, Nat.zero_mul, Nat.zero_add, valueFrom_nil]
    · have last : number % 10 < 10 := Nat.mod_lt _ (by decide)
      obtain ⟨isDigit, value⟩ := digitOf_byte last
      obtain ⟨digits, canonical, front⟩ := isNumeral_iff.mp (ih (number / 10) (by omega))
      have split : decimal number =
          decimal (number / 10) ++ [UInt8.ofNat (0x30 + number % 10)] := by
        rw [← decimal_digit last, ← decimal_append (by omega) last]
        congr 1
        omega
      rw [split, List.map_append, List.map_singleton, value]
      refine ⟨?_, canonical.snoc (by omega) last, ?_⟩
      · intro c member
        rcases List.mem_append.mp member with early | late
        · exact digits c early
        · rw [List.mem_singleton.mp late]
          exact isDigit
      · rw [valueFrom_snoc, front]
        omega

theorem isNumeral_iff_decimal : IsNumeral name number ↔ name = decimal number := by
  constructor
  · exact fun numeral => numeral.unique (decimal_isNumeral number)
  · rintro rfl
    exact decimal_isNumeral number

theorem decimal_injective : Function.Injective decimal := by
  intro number number' same
  have value := (decimal_isNumeral number).value
  rw [same, (decimal_isNumeral number').value] at value
  exact value.symm

/-- The numeral of a byte has at most three digits. -/
theorem decimal_length (small : number < 1000) : (decimal number).length ≤ 3 := by
  rw [decimal, List.length_map]
  exact (Nat.length_toDigits_le_iff (by decide) (by decide)).mpr small

end RuntimeMacro.Source.SlotStore
