import StorageOS.Billing.Recurring

/-! How the two roundings of amounts behave: both keep whole numbers and the order of amounts. -/

namespace StorageOS

@[simp] theorem mathRound_intCast (n : ℤ) : mathRound n = n := by
  rw [mathRound, Int.floor_intCast_add]
  norm_num

@[simp] theorem mathRound_zero : mathRound 0 = 0 := by
  have := mathRound_intCast 0
  rwa [Int.cast_zero] at this

theorem mathRound_add_intCast (x : ℚ) (n : ℤ) : mathRound (x + n) = mathRound x + n := by
  rw [mathRound, mathRound, add_right_comm, Int.floor_add_intCast]

theorem mathRound_mono {x y : ℚ} (h : x ≤ y) : mathRound x ≤ mathRound y :=
  Int.floor_mono (by linarith)

variable {x : ℚ} {n : ℤ}

theorem mathRound_nonneg (h : 0 ≤ x) : 0 ≤ mathRound x := by
  have := mathRound_mono h
  rwa [mathRound_zero] at this

theorem mathRound_le (h : x ≤ n) : mathRound x ≤ n := by
  have := mathRound_mono h
  rwa [mathRound_intCast] at this

theorem le_mathRound (h : (n : ℚ) ≤ x) : n ≤ mathRound x := by
  have := mathRound_mono h
  rwa [mathRound_intCast] at this

theorem mathRound_eq_iff :
    mathRound x = n ↔ (n : ℚ) - 1 / 2 ≤ x ∧ x < n + 1 / 2 := by
  rw [mathRound, Int.floor_eq_iff]
  constructor <;> rintro ⟨low, high⟩ <;> constructor <;> linarith

@[simp] theorem roundHalfAway_zero : roundHalfAway 0 = 0 := by
  have := roundHalfAway_intCast 0
  rwa [Int.cast_zero] at this

theorem roundHalfAway_neg (x : ℚ) : roundHalfAway (-x) = -roundHalfAway x := by
  rw [roundHalfAway, roundHalfAway, abs_neg, Left.sign_neg]
  rcases SignType.trichotomy (SignType.sign x) with h | h | h <;> rw [h] <;> simp

theorem roundHalfAway_of_nonneg (h : 0 ≤ x) :
    roundHalfAway x = ⌊x + 1 / 1000000000 + 1 / 2⌋ := by
  rcases h.lt_or_eq with positive | rfl
  · rw [roundHalfAway, sign_pos positive, abs_of_pos positive, SignType.coe_one, one_mul]
  · rw [roundHalfAway_zero]
    norm_num

theorem roundHalfAway_nonneg (h : 0 ≤ x) : 0 ≤ roundHalfAway x := by
  rw [roundHalfAway_of_nonneg h]
  exact Int.floor_nonneg.mpr (by linarith)

theorem roundHalfAway_mono {x y : ℚ} (h : x ≤ y) : roundHalfAway x ≤ roundHalfAway y := by
  rcases le_total 0 x with hx | hx
  · rw [roundHalfAway_of_nonneg hx, roundHalfAway_of_nonneg (hx.trans h)]
    exact Int.floor_mono (by linarith)
  · have below : roundHalfAway x ≤ 0 := by
      have := roundHalfAway_nonneg (neg_nonneg.mpr hx)
      rw [roundHalfAway_neg] at this
      linarith
    rcases le_total 0 y with hy | hy
    · exact below.trans (roundHalfAway_nonneg hy)
    · rw [← neg_neg x, ← neg_neg y, roundHalfAway_neg, roundHalfAway_neg (-y),
        roundHalfAway_of_nonneg (neg_nonneg.mpr hx), roundHalfAway_of_nonneg (neg_nonneg.mpr hy)]
      exact neg_le_neg (Int.floor_mono (by linarith))

theorem lineCents_euros (cents : ℤ) (taxRate : ℚ) : lineCents 1 (euros cents) taxRate =
    ⟨cents, roundHalfAway (cents * taxRate / 100),
      cents + roundHalfAway (cents * taxRate / 100)⟩ := by
  have base : 1 * euros cents * 100 = cents := by
    rw [one_mul, euros, div_mul_cancel₀ _ (by norm_num)]
  rw [lineCents, base, roundHalfAway_intCast]

end StorageOS
