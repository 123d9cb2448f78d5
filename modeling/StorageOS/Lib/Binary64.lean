import Mathlib.Data.Int.Log
import Mathlib.Data.Rat.Floor
import Mathlib.Data.Sign.Basic
import Mathlib.Tactic.Linarith
import Mathlib.Tactic.NormNum
import Mathlib.Tactic.Positivity
import Mathlib.Tactic.Ring

/-! Numbers in double precision, as rationals: an operation gives the number of 53 binary digits that is nearest to
the exact result, the even one of two, with the error that this makes. Results too large for the format are left out. -/

namespace Binary64

def roundEven (x : ℚ) : ℤ :=
  if Int.fract x < 1 / 2 ∨ (Int.fract x = 1 / 2 ∧ ⌊x⌋ % 2 = 0) then ⌊x⌋ else ⌊x⌋ + 1

/-- The distance between two numbers of the format about a number. -/
def spacing (x : ℚ) : ℚ := 2 ^ max (Int.log 2 |x| - 52) (-1074)

def round (x : ℚ) : ℚ := SignType.sign x * (roundEven (|x| / spacing x) * spacing x)

def mul (x y : ℚ) : ℚ := round (x * y)
def div (x y : ℚ) : ℚ := round (x / y)

theorem abs_roundEven_sub_le (x : ℚ) : |(roundEven x : ℚ) - x| ≤ 1 / 2 := by
  have split_ := Int.floor_add_fract x
  have low := Int.fract_nonneg x
  unfold roundEven
  split
  · rename_i near
    have below : Int.fract x ≤ 1 / 2 := near.elim le_of_lt fun tie => tie.1.le
    rw [abs_le]
    constructor <;> linarith
  · rename_i far
    have above : 1 / 2 ≤ Int.fract x := not_lt.mp fun near => far (.inl near)
    have high := Int.fract_lt_one x
    push_cast
    rw [abs_le]
    constructor <;> linarith

theorem spacing_pos (x : ℚ) : 0 < spacing x := zpow_pos (by norm_num) _

theorem spacing_neg (x : ℚ) : spacing (-x) = spacing x := by rw [spacing, spacing, abs_neg]

theorem round_neg (x : ℚ) : round (-x) = -round x := by
  rw [round, round, spacing_neg, abs_neg, Left.sign_neg]
  rcases SignType.trichotomy (SignType.sign x) with h | h | h <;> rw [h] <;> simp

@[simp] theorem round_zero : round 0 = 0 := by simp [round]

theorem mul_neg_right (x y : ℚ) : mul x (-y) = -mul x y := by rw [mul, mul, mul_neg, round_neg]

theorem mul_neg_left (x y : ℚ) : mul (-x) y = -mul x y := by rw [mul, mul, neg_mul, round_neg]

theorem div_neg_left (x y : ℚ) : div (-x) y = -div x y := by rw [div, div, neg_div, round_neg]

theorem abs_roundEven_mul_sub_le (x : ℚ) :
    |(roundEven (|x| / spacing x) : ℚ) * spacing x - (|x| : ℚ)| ≤ spacing x / 2 := by
  have positive := spacing_pos x
  have near := abs_roundEven_sub_le (|x| / spacing x)
  have scaled : (roundEven (|x| / spacing x) : ℚ) * spacing x - |x| =
      (roundEven (|x| / spacing x) - |x| / spacing x) * spacing x := by
    rw [sub_mul, div_mul_cancel₀ _ positive.ne']
  rw [scaled, abs_mul, abs_of_pos positive]
  calc _ ≤ 1 / 2 * spacing x := mul_le_mul_of_nonneg_right near positive.le
    _ = spacing x / 2 := by ring

theorem abs_round_sub_le_spacing (x : ℚ) : |round x - x| ≤ spacing x / 2 := by
  have near := abs_roundEven_mul_sub_le x
  rw [round]
  rcases lt_trichotomy x 0 with h | h | h
  · rw [sign_neg h, SignType.coe_neg_one, neg_one_mul, ← abs_neg]
    rw [abs_of_neg h] at near ⊢
    rwa [neg_sub, sub_neg_eq_add, add_comm, ← sub_neg_eq_add]
  · rw [h, sign_zero, SignType.coe_zero, zero_mul, sub_zero, abs_zero]
    exact (half_pos (spacing_pos 0)).le
  · rw [sign_pos h, SignType.coe_one, one_mul]
    rwa [abs_of_pos h] at near ⊢

theorem spacing_le {x : ℚ} (h : x ≠ 0) : spacing x ≤ |x| / 2 ^ 52 + 1 / 2 ^ 59 := by
  have least : (2 : ℚ) ^ (-1074 : ℤ) ≤ 1 / 2 ^ 59 := by
    rw [one_div, ← zpow_natCast, ← zpow_neg]
    exact zpow_le_zpow_right₀ (by norm_num) (by norm_num)
  have nonneg : 0 ≤ |x| / 2 ^ 52 := by positivity
  rw [spacing]
  rcases le_total (Int.log 2 |x| - 52) (-1074) with small | large
  · rw [max_eq_right small]
    linarith
  · rw [max_eq_left large, zpow_sub₀ (by norm_num)]
    have below : (2 : ℚ) ^ Int.log 2 |x| ≤ |x| := Int.zpow_log_le_self (by norm_num) (abs_pos.mpr h)
    have scaled : (2 : ℚ) ^ Int.log 2 |x| / 2 ^ (52 : ℤ) ≤ |x| / 2 ^ 52 := by
      rw [show (52 : ℤ) = (52 : ℕ) from rfl, zpow_natCast]
      gcongr
    have : (0 : ℚ) ≤ 1 / 2 ^ 59 := by positivity
    linarith

theorem abs_round_sub_le (x : ℚ) : |round x - x| ≤ |x| / 2 ^ 53 + 1 / 2 ^ 60 := by
  rcases eq_or_ne x 0 with rfl | h
  · rw [round_zero, sub_zero, abs_zero]
    norm_num
  · have half := abs_round_sub_le_spacing x
    have part := spacing_le h
    linarith

theorem abs_mul_sub_le {x x' y y' a b c d : ℚ} (hx : |x' - x| ≤ a) (hy : |y' - y| ≤ b) (boundX : |x| ≤ c)
    (boundY : |y| ≤ d) : |mul x' y' - x * y| ≤ c * b + d * a + a * b + (c + a) * (d + b) / 2 ^ 53 + 1 / 2 ^ 60 := by
  have exact_ : |x' * y' - x * y| ≤ c * b + d * a + a * b := by
    have parts : x' * y' - x * y = x * (y' - y) + y * (x' - x) + (x' - x) * (y' - y) := by ring
    rw [parts]
    refine (abs_add_three _ _ _).trans ?_
    rw [abs_mul, abs_mul, abs_mul]
    gcongr
    · exact (abs_nonneg x).trans boundX
    · exact (abs_nonneg y).trans boundY
    · exact (abs_nonneg _).trans hx
  have size : |x' * y'| ≤ (c + a) * (d + b) := by
    have left : |x'| ≤ c + a := by
      calc |x'| = |x + (x' - x)| := by ring_nf
        _ ≤ |x| + |x' - x| := abs_add_le _ _
        _ ≤ c + a := add_le_add boundX hx
    have right : |y'| ≤ d + b := by
      calc |y'| = |y + (y' - y)| := by ring_nf
        _ ≤ |y| + |y' - y| := abs_add_le _ _
        _ ≤ d + b := add_le_add boundY hy
    rw [abs_mul]
    exact mul_le_mul left right (abs_nonneg _) ((abs_nonneg _).trans left)
  have rounded : |mul x' y' - x' * y'| ≤ (c + a) * (d + b) / 2 ^ 53 + 1 / 2 ^ 60 := by
    refine (abs_round_sub_le _).trans ?_
    gcongr
  calc |mul x' y' - x * y| ≤ |mul x' y' - x' * y'| + |x' * y' - x * y| := abs_sub_le _ _ _
    _ ≤ _ := by linarith

end Binary64
