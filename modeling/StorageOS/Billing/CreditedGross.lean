import StorageOS.Billing.Rounding

/-! The price without tax that a credit note gives to a share of a refund. A whole net price with its tax rounded may
have no wanted gross: at 21 % the grosses of 2 and 3 cents are 2 and 4. -/

namespace StorageOS

def grossOf (taxRate : ℚ) (netCents : ℤ) : ℤ := netCents + roundHalfAway (netCents * taxRate / 100)

def nearestNet (taxRate : ℚ) (share : ℤ) : ℤ := mathRound (share / (1 + taxRate / 100))

/-- The net price whose tax, rounded before the last correction, gives a share of a refund. -/
def creditNet (taxRate : ℚ) (share : ℤ) : ℤ :=
  let netCents := nearestNet taxRate share
  let tax := mathRound (netCents * taxRate / 100)
  netCents + (share - (netCents + tax))

/-- A net price beside the nearest one has the share as its gross. -/
def hasNet (taxRate : ℚ) (share : ℤ) : Bool :=
  [nearestNet taxRate share - 1, nearestNet taxRate share, nearestNet taxRate share + 1].any fun netCents =>
    grossOf taxRate netCents = share

/-- The cents that the line of a share has beyond it: none where some net price has the share as its gross, and one
where none has, more or less as the nearest one falls short or beyond. A share below zero, which only the last one
may be, goes by the prices as they are computed. -/
def missedCents (taxRate : ℚ) (share : ℤ) : ℤ :=
  if share < 0 then grossOf taxRate (creditNet taxRate share) - share
  else if hasNet taxRate share then 0
  else if grossOf taxRate (nearestNet taxRate share) < share then 1
  else -1

/-- A rate of two decimals between 0 and 100 %, as its column has it. -/
structure ColumnRate (taxRate : ℚ) : Prop where
  nonneg : 0 ≤ taxRate
  most : taxRate ≤ 100
  decimals : ∃ hundredths : ℤ, taxRate * 100 = hundredths

variable {taxRate : ℚ} {net share : ℤ}

/-! ### The tax on a net price -/

variable (rate : ColumnRate taxRate)
include rate

theorem ColumnRate.tax_eq (nonneg : 0 ≤ net) :
    roundHalfAway (net * taxRate / 100) = mathRound (net * taxRate / 100) := by
  obtain ⟨hundredths, scaled⟩ := rate.decimals
  have value : (net : ℚ) * taxRate / 100 = ((net * hundredths : ℤ) : ℚ) / 10000 := by
    rw [Int.cast_mul, ← scaled]
    ring
  have nonneg' : (0 : ℚ) ≤ net := by exact_mod_cast nonneg
  have amount : (0 : ℚ) ≤ net * taxRate / 100 := by
    have := rate.nonneg
    positivity
  rw [roundHalfAway_of_nonneg amount, mathRound, value, Int.floor_eq_iff]
  generalize net * hundredths = tenThousandths
  -- below the next half, a tax of four decimals is so by a ten thousandth
  have floor := Int.floor_le ((tenThousandths : ℚ) / 10000 + 1 / 2)
  have below := Int.lt_floor_add_one ((tenThousandths : ℚ) / 10000 + 1 / 2)
  generalize ⌊(tenThousandths : ℚ) / 10000 + 1 / 2⌋ = whole at floor below ⊢
  have gap : tenThousandths + 5000 + 1 ≤ 10000 * (whole + 1) := by
    have : ((tenThousandths + 5000 : ℤ) : ℚ) < ((10000 * (whole + 1) : ℤ) : ℚ) := by
      push_cast
      linarith
    exact Int.add_one_le_of_lt (by exact_mod_cast this)
  have gap' : ((tenThousandths + 5000 + 1 : ℤ) : ℚ) ≤ ((10000 * (whole + 1) : ℤ) : ℚ) := by exact_mod_cast gap
  push_cast at gap'
  constructor <;> linarith

theorem ColumnRate.gross_succ (nonneg : 0 ≤ net) :
    grossOf taxRate net + 1 ≤ grossOf taxRate (net + 1) ∧ grossOf taxRate (net + 1) ≤ grossOf taxRate net + 2 := by
  have low := rate.nonneg
  have high := rate.most
  rw [grossOf, grossOf, rate.tax_eq nonneg, rate.tax_eq (by omega)]
  have more : mathRound (net * taxRate / 100) ≤ mathRound ((net + 1 : ℤ) * taxRate / 100) := by
    apply mathRound_mono
    push_cast
    linarith
  have most : mathRound ((net + 1 : ℤ) * taxRate / 100) ≤ mathRound (net * taxRate / 100) + 1 := by
    rw [← mathRound_add_intCast]
    apply mathRound_mono
    push_cast
    linarith
  omega

theorem ColumnRate.gross_neg (negative : net < 0) : grossOf taxRate net < 0 := by
  have below : (0 : ℚ) ≤ -(net * taxRate / 100) := by
    have := rate.nonneg
    have : (net : ℚ) ≤ 0 := by exact_mod_cast negative.le
    have := mul_nonneg (neg_nonneg.mpr this) rate.nonneg
    linarith
  have tax := roundHalfAway_nonneg below
  rw [roundHalfAway_neg] at tax
  rw [grossOf]
  omega

omit rate in
@[simp] theorem grossOf_zero (taxRate : ℚ) : grossOf taxRate 0 = 0 := by simp [grossOf]

theorem ColumnRate.gross_pred (nonneg : 0 ≤ net) : grossOf taxRate (net - 1) < grossOf taxRate net := by
  rcases nonneg.lt_or_eq with positive | rfl
  · have step : _ ≤ grossOf taxRate (net - 1 + 1) := (rate.gross_succ (by omega)).1
    rw [sub_add_cancel] at step
    omega
  · rw [grossOf_zero]
    exact rate.gross_neg (by norm_num)

/-! ### The nearest net price -/

theorem ColumnRate.nearest_nonneg (nonneg : 0 ≤ share) : 0 ≤ nearestNet taxRate share := by
  have := rate.nonneg
  have : (0 : ℚ) ≤ share := by exact_mod_cast nonneg
  exact mathRound_nonneg (by positivity)

/-- The gross of the nearest net price misses the share by one cent at most. -/
theorem ColumnRate.nearest_close (nonneg : 0 ≤ share) :
    grossOf taxRate (nearestNet taxRate share) - 1 ≤ share ∧
      share ≤ grossOf taxRate (nearestNet taxRate share) + 1 := by
  have low := rate.nonneg
  have high := rate.most
  have positive : (0 : ℚ) < 1 + taxRate / 100 := by linarith
  obtain ⟨netLow, netHigh⟩ := mathRound_eq_iff.mp (rfl : nearestNet taxRate share = _)
  rw [le_div_iff₀ positive] at netLow
  rw [div_lt_iff₀ positive] at netHigh
  rw [grossOf, rate.tax_eq (rate.nearest_nonneg nonneg)]
  generalize nearestNet taxRate share = net at netLow netHigh ⊢
  obtain ⟨taxLow, taxHigh⟩ := mathRound_eq_iff.mp (rfl : mathRound (net * taxRate / 100) = _)
  generalize mathRound (net * taxRate / 100) = tax at taxLow taxHigh ⊢
  have below : ((net + tax - 2 : ℤ) : ℚ) < share := by
    push_cast
    linarith
  have above : (share : ℚ) < ((net + tax + 2 : ℤ) : ℚ) := by
    push_cast
    linarith
  have below' : net + tax - 2 < share := by exact_mod_cast below
  have above' : share < net + tax + 2 := by exact_mod_cast above
  omega

omit rate

theorem hasNet_eq_true : hasNet taxRate share = true ↔
    grossOf taxRate (nearestNet taxRate share - 1) = share ∨ grossOf taxRate (nearestNet taxRate share) = share ∨
      grossOf taxRate (nearestNet taxRate share + 1) = share := by
  simp [hasNet]

theorem ColumnRate.creditNet_gross (rate : ColumnRate taxRate) (share : ℤ) :
    grossOf taxRate (creditNet taxRate share) = share + missedCents taxRate share := by
  rw [missedCents]
  split
  · omega
  · rename_i nonneg
    have nonneg := not_lt.mp nonneg
    have nearest := rate.nearest_nonneg nonneg
    obtain ⟨low, high⟩ := rate.nearest_close nonneg
    have net : creditNet taxRate share =
        nearestNet taxRate share + (share - grossOf taxRate (nearestNet taxRate share)) := by
      rw [creditNet, grossOf, rate.tax_eq nearest]
    have less := rate.gross_pred nearest
    have next := rate.gross_succ nearest
    rw [net]
    simp only [hasNet_eq_true]
    generalize nearestNet taxRate share = middle at nearest low high less next ⊢
    obtain exact_ | short | beyond : grossOf taxRate middle = share ∨ grossOf taxRate middle + 1 = share ∨
      grossOf taxRate middle - 1 = share := by omega
    · rw [if_pos (.inr (.inl exact_)), exact_, sub_self, add_zero, exact_, add_zero]
    · rw [show share - grossOf taxRate middle = 1 by omega]
      split
      · omega
      · rw [if_pos (by omega)]
        omega
    · -- some cents fall short of the nearest net price, which is no zero
      have positive : 0 < middle := by
        rcases nearest.lt_or_eq with positive | rfl
        · exact positive
        · rw [grossOf_zero] at beyond
          omega
      have step : grossOf taxRate (middle - 1) + 1 ≤ grossOf taxRate (middle - 1 + 1) ∧ _ :=
        rate.gross_succ (by omega)
      rw [sub_add_cancel] at step
      rw [show share - grossOf taxRate middle = -1 by omega, ← sub_eq_add_neg]
      split
      · omega
      · rw [if_neg (by omega)]
        omega

end StorageOS
