import Mathlib.Data.Rat.Floor
import Mathlib.Algebra.Order.Floor.Ring
import Mathlib.Data.Sign.Basic
import Mathlib.Tactic.Linarith
import Mathlib.Tactic.NormNum
import Mathlib.Tactic.Positivity

/-! Amounts of money. The columns hold two decimals, so a stored amount is an integer number of
cents; an amount that arrives from a client is any number of euros, taken as a rational. -/

namespace StorageOS

/-- The nearest integer, with halves away from zero. The margin absorbs the error of a product in
floating point. -/
def roundHalfAway (x : ℚ) : ℤ := SignType.sign x * ⌊|x| + 1 / 1000000000 + 1 / 2⌋

def toCents (amount : ℚ) : ℤ := roundHalfAway (amount * 100)

def euros (cents : ℤ) : ℚ := cents / 100

theorem euros_pos {cents : ℤ} (h : 0 < cents) : 0 < euros cents :=
  div_pos (Int.cast_pos.mpr h) (by norm_num)

/-- The cents a `Decimal(12,2)` column keeps of an amount: the nearest, halves away from zero. -/
def column (amount : ℚ) : ℤ := SignType.sign amount * ⌊|amount| * 100 + 1 / 2⌋

structure LineCents where
  baseCents : ℤ
  taxCents : ℤ
  totalCents : ℤ
  deriving DecidableEq

/-- The amounts of an invoice line: the base is rounded, then the tax on the rounded base. -/
def lineCents (quantity unitPrice taxRate : ℚ) : LineCents :=
  let baseCents := roundHalfAway (quantity * unitPrice * 100)
  let taxCents := roundHalfAway (baseCents * taxRate / 100)
  ⟨baseCents, taxCents, baseCents + taxCents⟩

@[simp] theorem roundHalfAway_intCast (n : ℤ) : roundHalfAway n = n := by
  have floor : ⌊|(n : ℚ)| + 1 / 1000000000 + 1 / 2⌋ = |n| := by
    rw [← Int.cast_abs, add_assoc, Int.floor_intCast_add]
    norm_num
  rw [roundHalfAway, floor]
  rcases lt_trichotomy n 0 with h | h | h
  · simp [sign_neg (Int.cast_lt_zero.mpr h), abs_of_neg h]
  · simp [h]
  · simp [sign_pos (Int.cast_pos.mpr h), abs_of_pos h]

@[simp] theorem toCents_euros (cents : ℤ) : toCents (euros cents) = cents := by
  rw [toCents, euros, div_mul_cancel₀ _ (by norm_num), roundHalfAway_intCast]

@[simp] theorem column_euros (cents : ℤ) : column (euros cents) = cents := by
  have floor : ⌊|(cents : ℚ) / 100| * 100 + 1 / 2⌋ = |cents| := by
    rw [abs_div, abs_of_pos (by norm_num : (0 : ℚ) < 100), div_mul_cancel₀ _ (by norm_num),
      ← Int.cast_abs, Int.floor_intCast_add]
    norm_num
  rw [column, euros, floor]
  rcases lt_trichotomy cents 0 with h | h | h
  · have : (cents : ℚ) / 100 < 0 := div_neg_of_neg_of_pos (Int.cast_lt_zero.mpr h) (by norm_num)
    simp [sign_neg this, abs_of_neg h]
  · simp [h]
  · have : (0 : ℚ) < (cents : ℚ) / 100 := div_pos (Int.cast_pos.mpr h) (by norm_num)
    simp [sign_pos this, abs_of_pos h]

theorem toCents_nonneg {amount : ℚ} (h : 0 ≤ amount) : 0 ≤ toCents amount := by
  rw [toCents, roundHalfAway]
  rcases h.lt_or_eq with positive | rfl
  · rw [sign_pos (by positivity), SignType.coe_one, one_mul]
    exact Int.floor_nonneg.mpr (by positivity)
  · simp

theorem column_nonneg {amount : ℚ} (h : 0 ≤ amount) : 0 ≤ column amount := by
  rw [column]
  rcases h.lt_or_eq with positive | rfl
  · rw [sign_pos positive, SignType.coe_one, one_mul]
    exact Int.floor_nonneg.mpr (by positivity)
  · simp

theorem column_le_toCents {amount : ℚ} (h : 0 ≤ amount) : column amount ≤ toCents amount := by
  rw [column, toCents, roundHalfAway]
  rcases h.lt_or_eq with positive | rfl
  · rw [sign_pos positive, sign_pos (by positivity), SignType.coe_one, one_mul, one_mul]
    apply Int.floor_mono
    rw [abs_of_pos positive, abs_of_pos (by positivity)]
    linarith
  · simp

end StorageOS
