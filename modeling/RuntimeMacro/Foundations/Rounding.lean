import Mathlib.Algebra.Order.Field.Rat
import Mathlib.Data.Int.Log
import Mathlib.Data.Rat.Floor
import Mathlib.Tactic.FieldSimp
import Mathlib.Tactic.Linarith
import Mathlib.Tactic.Positivity
import Mathlib.Tactic.Ring

/-!
# Binary floating point

Numbers with a fixed number of binary places and a least exponent, as
rationals. Every operation is the exact one, rounded to the nearest number, of
two equally near to the even one. There is no largest number, and there are no
infinities. The error of a rounding is at most half a unit in the last place;
on the grid of the least exponent it is relative to the number, however small.
-/
namespace RuntimeMacro.Foundations.Rounding

/-- The nearest integer, of two equally near the even one. -/
def roundEven (x : ℚ) : ℤ :=
  if x - ⌊x⌋ < 1 / 2 ∨ (x - ⌊x⌋ = 1 / 2 ∧ ⌊x⌋ % 2 = 0) then ⌊x⌋ else ⌊x⌋ + 1

theorem roundEven_intCast (n : ℤ) : roundEven n = n := by
  rw [roundEven, Int.floor_intCast, if_pos]
  left
  norm_num

theorem floor_le_roundEven (x : ℚ) : ⌊x⌋ ≤ roundEven x := by
  unfold roundEven
  split
  · exact le_refl _
  · omega

theorem roundEven_le_ceil (x : ℚ) : roundEven x ≤ ⌈x⌉ := by
  unfold roundEven
  split
  · exact Int.floor_le_ceil x
  next far =>
    rw [not_or, not_lt] at far
    have above : (⌊x⌋ : ℚ) < x := by linarith [far.1]
    exact Int.add_one_le_iff.mpr (Int.lt_ceil.mpr above)

theorem roundEven_error (x : ℚ) : |roundEven x - x| ≤ 1 / 2 := by
  have below := Int.floor_le x
  have above := Int.lt_floor_add_one x
  unfold roundEven
  rw [abs_le]
  split
  next near =>
    rcases near with near | ⟨near, _⟩
    · constructor <;> linarith
    · constructor <;> linarith
  next far =>
    rw [not_or, not_lt] at far
    push_cast
    constructor <;> linarith [far.1]

/-- The places of a number, and the exponent of the last place of the smallest
ones. -/
structure Format where
  places : ℕ
  least : ℤ
  positive : 0 < places

/-- IEEE 754 binary64. -/
def Format.binary64 : Format := ⟨53, -1074, by decide⟩

namespace Format
variable (format : Format) {x : ℚ} {m k e : ℤ}

/-- The exponent of the last place. -/
def lastPlace (x : ℚ) : ℤ := max (Int.log 2 |x| + 1 - format.places) format.least

/-- Rounding to the nearest value of the format, where a tie goes to the even
significand. -/
def rounded (x : ℚ) : ℚ := roundEven (x / 2 ^ format.lastPlace x) * 2 ^ format.lastPlace x

/-- A multiple of the smallest number. -/
def OnGrid (x : ℚ) : Prop := ∃ m : ℤ, x = m * 2 ^ format.least

theorem least_le_lastPlace (x : ℚ) : format.least ≤ format.lastPlace x := le_max_right _ _

theorem two_zpow_pos (e : ℤ) : (0 : ℚ) < 2 ^ e := zpow_pos (by norm_num) e

/-! ## What is representable -/

theorem rounded_of_multiple (multiple : x = m * 2 ^ format.lastPlace x) :
    format.rounded x = x := by
  have unit := two_zpow_pos (format.lastPlace x)
  have quotient : x / 2 ^ format.lastPlace x = m := by
    rw [div_eq_iff unit.ne']
    exact multiple
  rw [rounded, quotient, roundEven_intCast]
  exact multiple.symm

theorem scaled_lt (x : ℚ) : |x / 2 ^ format.lastPlace x| < 2 ^ format.places := by
  have unit := two_zpow_pos (format.lastPlace x)
  have bound : |x| < 2 ^ (Int.log 2 |x| + 1) := Int.lt_zpow_succ_log_self (by norm_num) |x|
  have exponent : Int.log 2 |x| + 1 ≤ format.places + format.lastPlace x := by
    have := le_max_left (Int.log 2 |x| + 1 - format.places) format.least
    unfold lastPlace
    omega
  rw [abs_div, abs_of_pos unit, div_lt_iff₀ unit]
  calc |x| < 2 ^ (Int.log 2 |x| + 1) := bound
    _ ≤ 2 ^ ((format.places : ℤ) + format.lastPlace x) :=
      zpow_le_zpow_right₀ (by norm_num) exponent
    _ = 2 ^ format.places * 2 ^ format.lastPlace x := by
      rw [zpow_add₀ (by norm_num), zpow_natCast]

theorem log_le (small : |x| ≤ 2 ^ e) (nonzero : x ≠ 0) : Int.log 2 |x| ≤ e := by
  have least : (2 : ℚ) ^ Int.log 2 |x| ≤ |x| :=
    Int.zpow_log_le_self (by norm_num) (abs_pos.mpr nonzero)
  exact (zpow_le_zpow_iff_right₀ (by norm_num : (1 : ℚ) < 2)).mp (least.trans small)

/-- A whole number of units that fits the places is not changed. Its own last
place is no coarser than the unit, so it is a whole number of those as well. -/
theorem rounded_of_units (fits : |k| ≤ 2 ^ format.places) (fine : format.least ≤ e) :
    format.rounded (k * 2 ^ e) = k * 2 ^ e := by
  by_cases zero : k = 0
  · rw [zero]
    simp [rounded, show roundEven 0 = 0 from roundEven_intCast 0]
  have unit := two_zpow_pos e
  have nonzero : (k * 2 ^ e : ℚ) ≠ 0 := mul_ne_zero (Int.cast_ne_zero.mpr zero) unit.ne'
  have size : |(k * 2 ^ e : ℚ)| = |k| * 2 ^ e := by
    rw [abs_mul, abs_of_pos unit, Int.cast_abs]
  have fits' : ((|k| : ℤ) : ℚ) ≤ 2 ^ format.places := by exact_mod_cast fits
  have top : |(k * 2 ^ e : ℚ)| ≤ 2 ^ ((format.places : ℤ) + e) := by
    rw [size, zpow_add₀ (by norm_num), zpow_natCast]
    exact mul_le_mul_of_nonneg_right fits' unit.le
  have log := log_le top nonzero
  rcases le_or_gt (format.lastPlace (k * 2 ^ e)) e with coarse | beyond
  · apply rounded_of_multiple (m := k * 2 ^ (e - format.lastPlace (k * 2 ^ e)).toNat)
    push_cast
    rw [mul_assoc, ← zpow_natCast, ← zpow_add₀ (by norm_num)]
    congr 2
    omega
  · -- Only the largest number of units has its last place beyond the exponent, and it is even.
    have place : format.lastPlace (k * 2 ^ e) = e + 1 := by
      unfold lastPlace at beyond ⊢
      omega
    have high : e + format.places ≤ Int.log 2 |(k * 2 ^ e : ℚ)| := by
      unfold lastPlace at beyond
      omega
    have lower : (2 : ℚ) ^ ((format.places : ℤ) + e) ≤ |(k * 2 ^ e : ℚ)| := by
      refine le_trans (zpow_le_zpow_right₀ (by norm_num) ?_)
        (Int.zpow_log_le_self (b := 2) (by norm_num) (abs_pos.mpr nonzero))
      omega
    have whole : |k| = 2 ^ format.places := by
      rw [size, zpow_add₀ (by norm_num), zpow_natCast] at lower
      have := le_of_mul_le_mul_right lower unit
      exact le_antisymm fits (by exact_mod_cast this)
    obtain ⟨half, even⟩ : (2 : ℤ) ∣ k := by
      rw [← dvd_abs, whole]
      exact dvd_pow_self 2 format.positive.ne'
    apply rounded_of_multiple (m := half)
    rw [place, even, zpow_add₀ (by norm_num)]
    push_cast
    ring

theorem roundEven_fits {y : ℚ} (bound : |y| < 2 ^ format.places) :
    |roundEven y| ≤ 2 ^ format.places := by
  rw [abs_lt] at bound
  rw [abs_le]
  constructor
  · refine le_trans (Int.le_floor.mpr ?_) (floor_le_roundEven y)
    push_cast
    exact bound.1.le
  · refine le_trans (roundEven_le_ceil y) (Int.ceil_le.mpr ?_)
    push_cast
    exact bound.2.le

theorem rounded_rounded (x : ℚ) : format.rounded (format.rounded x) = format.rounded x :=
  rounded_of_units format (format.roundEven_fits (format.scaled_lt x))
    (format.least_le_lastPlace x)

/-! ## The grid -/

theorem rounded_onGrid (x : ℚ) : format.OnGrid (format.rounded x) := by
  have above := format.least_le_lastPlace x
  refine ⟨roundEven (x / 2 ^ format.lastPlace x) *
    2 ^ (format.lastPlace x - format.least).toNat, ?_⟩
  rw [rounded]
  push_cast
  rw [mul_assoc, ← zpow_natCast, ← zpow_add₀ (by norm_num)]
  congr 2
  omega

variable {format}

theorem OnGrid.add {y : ℚ} (first : format.OnGrid x) (second : format.OnGrid y) :
    format.OnGrid (x + y) := by
  obtain ⟨m, rfl⟩ := first
  obtain ⟨n, rfl⟩ := second
  refine ⟨m + n, ?_⟩
  push_cast
  ring

theorem OnGrid.sub {y : ℚ} (first : format.OnGrid x) (second : format.OnGrid y) :
    format.OnGrid (x - y) := by
  obtain ⟨m, rfl⟩ := first
  obtain ⟨n, rfl⟩ := second
  refine ⟨m - n, ?_⟩
  push_cast
  ring

theorem OnGrid.mul_int (grid : format.OnGrid x) (n : ℤ) : format.OnGrid (x * n) := by
  obtain ⟨m, rfl⟩ := grid
  refine ⟨m * n, ?_⟩
  push_cast
  ring

theorem OnGrid.of_int (n : ℤ) (whole : format.least ≤ 0) : format.OnGrid n := by
  refine ⟨n * 2 ^ (-format.least).toNat, ?_⟩
  push_cast
  rw [mul_assoc, ← zpow_natCast, ← zpow_add₀ (by norm_num),
    show ((-format.least).toNat : ℤ) + format.least = 0 by omega, zpow_zero, mul_one]

/-- A positive multiple is not below the smallest number. -/
theorem OnGrid.least_le (grid : format.OnGrid x) (positive : 0 < x) : 2 ^ format.least ≤ x := by
  obtain ⟨m, rfl⟩ := grid
  have unit := two_zpow_pos format.least
  have one : (1 : ℚ) ≤ m := by
    have : 0 < m := by exact_mod_cast (mul_pos_iff_of_pos_right unit).mp positive
    exact_mod_cast this
  calc (2 : ℚ) ^ format.least = 1 * 2 ^ format.least := (one_mul _).symm
    _ ≤ m * 2 ^ format.least := mul_le_mul_of_nonneg_right one unit.le

/-! ## Errors and signs -/

variable (format)

theorem rounded_error (x : ℚ) : |format.rounded x - x| ≤ 2 ^ format.lastPlace x / 2 := by
  have unit := two_zpow_pos (format.lastPlace x)
  have near := roundEven_error (x / 2 ^ format.lastPlace x)
  have split : format.rounded x - x =
      (roundEven (x / 2 ^ format.lastPlace x) - x / 2 ^ format.lastPlace x) *
        2 ^ format.lastPlace x := by
    rw [rounded, sub_mul, div_mul_cancel₀ _ unit.ne']
  rw [split, abs_mul, abs_of_pos unit]
  calc _ ≤ 1 / 2 * (2 : ℚ) ^ format.lastPlace x := mul_le_mul_of_nonneg_right near unit.le
    _ = 2 ^ format.lastPlace x / 2 := by ring

/-- From the least exponent on that needs all places the error is relative:
half a unit of the last place against a number with all places filled. -/
theorem rounded_error_of_normal (normal : 2 ^ (format.least + format.places - 1) ≤ |x|) :
    |format.rounded x - x| ≤ |x| / 2 ^ format.places := by
  have positive : 0 < |x| := (two_zpow_pos _).trans_le normal
  have log : format.least + format.places - 1 ≤ Int.log 2 |x| :=
    (Int.zpow_le_iff_le_log (by norm_num) positive).mp normal
  have place : format.lastPlace x = Int.log 2 |x| + 1 - format.places := by
    unfold lastPlace
    omega
  have size : (2 : ℚ) ^ format.lastPlace x = 2 ^ Int.log 2 |x| * 2 / 2 ^ format.places := by
    rw [place, zpow_sub₀ (by norm_num), zpow_add₀ (by norm_num), zpow_one, zpow_natCast]
  refine (format.rounded_error x).trans ?_
  rw [size]
  have below : (2 : ℚ) ^ Int.log 2 |x| ≤ |x| := Int.zpow_log_le_self (by norm_num) positive
  calc (2 : ℚ) ^ Int.log 2 |x| * 2 / 2 ^ format.places / 2
      = 2 ^ Int.log 2 |x| / 2 ^ format.places := by ring
    _ ≤ |x| / 2 ^ format.places := div_le_div_of_nonneg_right below (by positivity)

variable {format}

/-- On the grid it is relative everywhere: below that exponent nothing is
lost. -/
theorem OnGrid.rounded_error (grid : format.OnGrid x) :
    |format.rounded x - x| ≤ |x| / 2 ^ format.places := by
  rcases le_or_gt (2 ^ (format.least + format.places - 1)) |x| with normal | small
  · exact format.rounded_error_of_normal normal
  · obtain ⟨m, shape⟩ := grid
    by_cases zero : x = 0
    · rw [zero]
      simp [rounded, show roundEven 0 = 0 from roundEven_intCast 0]
    have log : Int.log 2 |x| < format.least + format.places - 1 :=
      (Int.lt_zpow_iff_log_lt (by norm_num) (abs_pos.mpr zero)).mp small
    have place : format.lastPlace x = format.least := by
      unfold lastPlace
      omega
    rw [rounded_of_multiple format (m := m) (by rw [place]; exact shape), sub_self, abs_zero]
    positivity

variable (format)

theorem rounded_nonpos (negative : x ≤ 0) : format.rounded x ≤ 0 := by
  have unit := two_zpow_pos (format.lastPlace x)
  have scaled : x / 2 ^ format.lastPlace x ≤ 0 := div_nonpos_of_nonpos_of_nonneg negative unit.le
  have whole : roundEven (x / 2 ^ format.lastPlace x) ≤ 0 :=
    (roundEven_le_ceil _).trans (Int.ceil_le.mpr (by exact_mod_cast scaled))
  exact mul_nonpos_of_nonpos_of_nonneg (by exact_mod_cast whole) unit.le

theorem rounded_nonneg (positive : 0 ≤ x) : 0 ≤ format.rounded x := by
  have unit := two_zpow_pos (format.lastPlace x)
  have scaled : 0 ≤ x / 2 ^ format.lastPlace x := div_nonneg positive unit.le
  have whole : 0 ≤ roundEven (x / 2 ^ format.lastPlace x) :=
    (Int.le_floor.mpr (by exact_mod_cast scaled)).trans (floor_le_roundEven _)
  exact mul_nonneg (by exact_mod_cast whole) unit.le

/-- What is not below the smallest number is not lost to rounding. -/
theorem rounded_pos (enough : 2 ^ format.least ≤ x) : 0 < format.rounded x := by
  have unit := two_zpow_pos (format.lastPlace x)
  have positive : 0 < x := (two_zpow_pos _).trans_le enough
  have log : (2 : ℚ) ^ Int.log 2 |x| ≤ x := calc
    (2 : ℚ) ^ Int.log 2 |x| ≤ |x| := Int.zpow_log_le_self (by norm_num) (abs_pos.mpr positive.ne')
    _ = x := abs_of_pos positive
  have inside : (2 : ℚ) ^ format.lastPlace x ≤ x := by
    unfold lastPlace
    rcases max_choice (Int.log 2 |x| + 1 - format.places) format.least with normal | small
    · rw [normal]
      have places := format.positive
      exact le_trans (zpow_le_zpow_right₀ (by norm_num) (by omega)) log
    · rw [small]
      exact enough
  have scaled : 1 ≤ x / 2 ^ format.lastPlace x := (one_le_div unit).mpr inside
  have whole : 1 ≤ roundEven (x / 2 ^ format.lastPlace x) :=
    (Int.le_floor.mpr (by exact_mod_cast scaled)).trans (floor_le_roundEven _)
  have one : (1 : ℚ) ≤ roundEven (x / 2 ^ format.lastPlace x) := by exact_mod_cast whole
  exact mul_pos (by linarith) unit

end Format

/-! ## Numbers -/

/-- A number of the format. -/
structure Floating (format : Format) where
  value : ℚ
  exact : format.rounded value = value

namespace Floating
variable {format : Format} (a b : Floating format)

/-- The nearest number. -/
def ofRat (format : Format) (x : ℚ) : Floating format :=
  ⟨format.rounded x, format.rounded_rounded x⟩

/-- An integer as the format holds it: exact while the significand is wide
enough for it. -/
def ofInt (n : ℤ) : Floating format := ofRat format n

instance : Add (Floating format) := ⟨fun a b => ofRat format (a.value + b.value)⟩

instance : Sub (Floating format) := ⟨fun a b => ofRat format (a.value - b.value)⟩

instance : Mul (Floating format) := ⟨fun a b => ofRat format (a.value * b.value)⟩

instance : Div (Floating format) := ⟨fun a b => ofRat format (a.value / b.value)⟩

theorem value_injective : Function.Injective (value : Floating format → ℚ) := by
  rintro ⟨x, _⟩ ⟨y, _⟩ rfl
  rfl

instance : LinearOrder (Floating format) := LinearOrder.lift' value value_injective

/-- The part before the point. -/
def truncated (a : Floating format) : ℤ := if 0 ≤ a.value then ⌊a.value⌋ else ⌈a.value⌉

@[simp] theorem value_add : (a + b).value = format.rounded (a.value + b.value) := rfl

@[simp] theorem value_sub : (a - b).value = format.rounded (a.value - b.value) := rfl

@[simp] theorem value_mul : (a * b).value = format.rounded (a.value * b.value) := rfl

@[simp] theorem value_div : (a / b).value = format.rounded (a.value / b.value) := rfl

theorem value_ofInt {n : ℤ} (fits : |n| ≤ 2 ^ format.places) (whole : format.least ≤ 0) :
    (ofInt n : Floating format).value = n := by
  have exact := Format.rounded_of_units format fits whole
  rw [zpow_zero, mul_one] at exact
  exact exact

theorem lt_iff : a < b ↔ a.value < b.value := Iff.rfl

theorem value_onGrid : format.OnGrid a.value := by
  rw [← a.exact]
  exact format.rounded_onGrid a.value

/-- No difference is lost: it is positive exactly when it ought to be. -/
theorem sub_nonpos_iff : (a - b).value ≤ 0 ↔ a ≤ b := by
  constructor
  · intro rounded
    by_contra above
    have positive : 0 < a.value - b.value := sub_pos.mpr (not_le.mp above)
    have enough := (a.value_onGrid.sub b.value_onGrid).least_le positive
    exact absurd (format.rounded_pos enough) (not_lt.mpr rounded)
  · intro below
    exact format.rounded_nonpos (sub_nonpos.mpr below)

end Floating

end RuntimeMacro.Foundations.Rounding
