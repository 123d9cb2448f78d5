import StorageOS.Billing.Rounding
import Mathlib.Algebra.Order.Ring.Rat
import Mathlib.Order.Monotone.Basic

/-! `decidePrice`: the price suggested for a unit, from the price of the market, the owner's limits and the
step allowed in one change. -/

namespace StorageOS

inductive PricingConfidence
  | high
  | medium
  | low
  deriving DecidableEq

inductive PriceAction
  | raise
  | lower
  | hold
  deriving DecidableEq

/-- The arguments of `decidePrice` besides the current price. The schema of the settings keeps the step from 1
to 30 and the minimum under the maximum. -/
structure PricingArgs where
  marketPrice : Option ℚ
  positioningPct : ℚ
  demandPct : ℚ
  confidence : PricingConfidence
  maxStepPct : ℚ
  minPrice : Option ℚ
  maxPrice : Option ℚ
  daysSinceLastChange : Option ℕ
  minDaysBetweenChanges : ℕ
  stepFits : 0 ≤ maxStepPct ∧ maxStepPct ≤ 100
  limitsFit : ∀ low ∈ minPrice, ∀ high ∈ maxPrice, low ≤ high

structure PriceDecision where
  targetPrice : ℤ
  suggestedPrice : ℚ
  changePct : ℚ
  action : PriceAction
  holdReason : Option String
  deriving DecidableEq

def minChangePct : ℚ := 2

/-- `clamp`. -/
def clampTo (n low high : ℚ) : ℚ := min high (max low n)

def round1 (n : ℚ) : ℚ := mathRound (n * 10) / 10

namespace PricingArgs

variable (args : PricingArgs)

def base (current : ℚ) : ℚ :=
  match args.marketPrice with
  | some price => price * (1 + args.positioningPct / 100)
  | none => current

def target (current : ℚ) : ℤ := mathRound (args.base current * (1 + args.demandPct / 100))

def step : ℚ := if args.confidence = .low then args.maxStepPct / 2 else args.maxStepPct

/-- The price after the step, in whole euros. -/
def stepped (current : ℚ) : ℤ :=
  mathRound (current * (1 + clampTo ((args.target current / current - 1) * 100) (-args.step) args.step / 100))

/-- The price after the limits, and whether it corrects one that is out of them. -/
def limited (current : ℚ) : ℤ × Bool :=
  let suggested := args.stepped current
  let (suggested, outOfBounds) :=
    match args.minPrice with
    | some low => if suggested < low then (mathRound low, decide (current < low)) else (suggested, false)
    | none => (suggested, false)
  match args.maxPrice with
  | some high => if suggested > high then (mathRound high, decide (current > high)) else (suggested, outOfBounds)
  | none => (suggested, outOfBounds)

def hold (current : ℚ) (reason : String) : PriceDecision := ⟨args.target current, current, 0, .hold, some reason⟩

def tooSoon : Bool := args.daysSinceLastChange.any fun days => days < args.minDaysBetweenChanges

def decidePrice (current : ℚ) : PriceDecision :=
  if current ≤ 0 then args.hold current "El trastero no tiene precio."
  else
    let (suggested, outOfBounds) := args.limited current
    if !outOfBounds && args.tooSoon then
      args.hold current s!"Su precio cambió hace {args.daysSinceLastChange.getD 0} días."
    else if !outOfBounds && |(suggested / current - 1) * 100| < minChangePct then
      args.hold current "El precio ya está cerca del objetivo."
    else if suggested = current then args.hold current "El precio ya está en su límite."
    else
      let changePct := round1 ((suggested / current - 1) * 100)
      ⟨args.target current, suggested, changePct, if changePct > 0 then .raise else .lower, none⟩

/-! ### The limits -/

/-- The limits in whole euros. -/
def limit (n : ℤ) : ℤ :=
  let n := args.minPrice.elim n fun low => max n (mathRound low)
  args.maxPrice.elim n fun high => min n (mathRound high)

/-- No price suggested is under the minimum or over the maximum in whole euros. -/
def Within (n : ℤ) : Prop :=
  (∀ low ∈ args.minPrice, mathRound low ≤ n) ∧ ∀ high ∈ args.maxPrice, n ≤ mathRound high

variable {args} {current : ℚ} {n m : ℤ}

theorem max_limit (low : ℚ) (n : ℤ) : (if (n : ℚ) < low then mathRound low else n) = max n (mathRound low) := by
  split
  · rename_i below
    exact (max_eq_right (le_mathRound below.le)).symm
  · rename_i above
    exact (max_eq_left (mathRound_le (not_lt.mp above))).symm

theorem min_limit (high : ℚ) (n : ℤ) : (if (n : ℚ) > high then mathRound high else n) = min n (mathRound high) := by
  split
  · rename_i above
    exact (min_eq_right (mathRound_le (le_of_lt above))).symm
  · rename_i below
    exact (min_eq_left (le_mathRound (not_lt.mp below))).symm

theorem limited_fst (args : PricingArgs) (current : ℚ) :
    (args.limited current).1 = args.limit (args.stepped current) := by
  unfold limited limit
  cases args.minPrice with
  | none =>
    cases args.maxPrice with
    | none => rfl
    | some high =>
      rw [Option.elim_none, Option.elim_some, ← min_limit]
      dsimp only
      split <;> rfl
  | some low =>
    rw [Option.elim_some, ← max_limit]
    cases args.maxPrice with
    | none =>
      dsimp only
      split <;> rfl
    | some high =>
      rw [Option.elim_some, ← min_limit]
      dsimp only
      split <;> split <;> rfl

theorem within_limit (args : PricingArgs) (n : ℤ) : args.Within (args.limit n) := by
  unfold Within limit
  cases least : args.minPrice with
  | none => cases args.maxPrice <;> simp
  | some low =>
    cases most : args.maxPrice with
    | none => simp
    | some high =>
      have order : mathRound low ≤ mathRound high := mathRound_mono (args.limitsFit low least high most)
      simp [order]

theorem limit_of_within (within : args.Within n) : args.limit n = n := by
  unfold Within at within
  unfold limit
  cases low : args.minPrice with
  | none =>
    cases high : args.maxPrice with
    | none => rfl
    | some high_ => exact min_eq_left (within.2 _ high)
  | some low_ =>
    rw [Option.elim_some, max_eq_left (within.1 _ low)]
    cases high : args.maxPrice with
    | none => rfl
    | some high_ => exact min_eq_left (within.2 _ high)

theorem limit_mono (args : PricingArgs) (le : n ≤ m) : args.limit n ≤ args.limit m := by
  unfold limit
  cases args.minPrice <;> cases args.maxPrice <;> simp only [Option.elim_none, Option.elim_some] <;> omega

theorem limit_above (within : args.Within m) (le : m ≤ n) : m ≤ args.limit n ∧ args.limit n ≤ n := by
  refine ⟨(limit_of_within within).ge.trans (limit_mono args le), ?_⟩
  unfold limit
  cases low : args.minPrice with
  | none => cases args.maxPrice <;> simp
  | some low_ =>
    have less := within.1 _ low
    cases args.maxPrice <;> simp only [Option.elim_none, Option.elim_some] <;> omega

theorem limit_below (within : args.Within m) (le : n ≤ m) : n ≤ args.limit n ∧ args.limit n ≤ m := by
  refine ⟨?_, (limit_mono args le).trans (limit_of_within within).le⟩
  unfold limit
  cases high : args.maxPrice with
  | none => cases args.minPrice <;> simp
  | some high_ =>
    have less := within.2 _ high
    cases args.minPrice <;> simp only [Option.elim_none, Option.elim_some] <;> omega

/-! ### The step -/

/-- The price between the current one and the target that a step reaches. -/
def reached (args : PricingArgs) (current : ℚ) : ℚ :=
  min (current * (1 + args.step / 100)) (max (current * (1 - args.step / 100)) (args.target current))

theorem step_fits (args : PricingArgs) : 0 ≤ args.step ∧ args.step ≤ 100 := by
  obtain ⟨low, high⟩ := args.stepFits
  unfold step
  split <;> constructor <;> linarith

theorem stepped_eq (positive : 0 < current) : args.stepped current = mathRound (args.reached current) := by
  have mono : Monotone fun pct : ℚ => current * (1 + pct / 100) := by
    intro a b le
    exact mul_le_mul_of_nonneg_left (by linarith) positive.le
  have whole : current * (1 + (args.target current / current - 1) * 100 / 100) = args.target current := by
    field_simp
    ring
  have low : current * (1 + -args.step / 100) = current * (1 - args.step / 100) := by ring
  rw [stepped, clampTo, mono.map_min, mono.map_max, whole, low, reached]

theorem reached_between (args : PricingArgs) (positive : 0 < current) :
    (current ≤ args.reached current ∧ args.reached current ≤ args.target current ∧
        args.reached current ≤ current * (1 + args.step / 100)) ∨
      (args.target current ≤ args.reached current ∧ args.reached current ≤ current ∧
        current * (1 - args.step / 100) ≤ args.reached current) := by
  obtain ⟨nonneg, -⟩ := args.step_fits
  have more : 0 ≤ current * args.step := mul_nonneg positive.le nonneg
  have low : current * (1 - args.step / 100) ≤ current := by linarith
  have high : current ≤ current * (1 + args.step / 100) := by linarith
  unfold reached
  generalize current * (1 - args.step / 100) = less at *
  generalize current * (1 + args.step / 100) = most at *
  rcases le_total current (args.target current) with up | down
  · rw [max_eq_right (low.trans up)]
    exact .inl ⟨le_min high up, min_le_right _ _, min_le_left _ _⟩
  · rw [min_eq_right ((max_le low down).trans high)]
    exact .inr ⟨le_max_right _ _, max_le low down, le_max_left _ _⟩

theorem mathRound_near (x : ℚ) : x - 1 / 2 < mathRound x ∧ (mathRound x : ℚ) ≤ x + 1 / 2 := by
  obtain ⟨low, high⟩ := mathRound_eq_iff.mp (rfl : mathRound x = _)
  constructor <;> linarith

/-- The price suggested before it is compared with the current one. -/
def proposed (args : PricingArgs) (current : ℚ) : ℤ := args.limit (args.stepped current)

theorem proposed_between (positive : 0 < current) (within : args.Within (mathRound current)) :
    ((mathRound current ≤ args.proposed current ∧ args.proposed current ≤ args.target current) ∨
        (args.target current ≤ args.proposed current ∧ args.proposed current ≤ mathRound current)) ∧
      |(args.proposed current : ℚ) - current| ≤ current * args.step / 100 + 1 / 2 := by
  have near := mathRound_near current
  have nearReached := mathRound_near (args.reached current)
  obtain ⟨nonneg, -⟩ := args.step_fits
  have more : 0 ≤ current * args.step := mul_nonneg positive.le nonneg
  rw [proposed, stepped_eq positive, abs_le]
  rcases args.reached_between positive with ⟨from_, to_, most⟩ | ⟨to_, from_, least⟩
  · have rises : mathRound current ≤ mathRound (args.reached current) := mathRound_mono from_
    obtain ⟨above, below⟩ := limit_above within rises
    have above' : (mathRound current : ℚ) ≤ args.limit (mathRound (args.reached current)) := by exact_mod_cast above
    have below' : (args.limit (mathRound (args.reached current)) : ℚ) ≤ mathRound (args.reached current) := by
      exact_mod_cast below
    exact ⟨.inl ⟨above, below.trans (mathRound_le to_)⟩, by linarith, by linarith⟩
  · have falls : mathRound (args.reached current) ≤ mathRound current := mathRound_mono from_
    obtain ⟨above, below⟩ := limit_below within falls
    have above' : (mathRound (args.reached current) : ℚ) ≤ args.limit (mathRound (args.reached current)) := by
      exact_mod_cast above
    have below' : (args.limit (mathRound (args.reached current)) : ℚ) ≤ mathRound current := by exact_mod_cast below
    exact ⟨.inr ⟨(le_mathRound to_).trans above, below⟩, by linarith, by linarith⟩

theorem proposed_mono {other : ℚ} (positive : 0 < current) (le : current ≤ other) :
    args.proposed current ≤ args.proposed other := by
  rw [proposed, proposed, stepped_eq positive, stepped_eq (positive.trans_le le)]
  refine limit_mono args (mathRound_mono ?_)
  obtain ⟨nonneg, most⟩ := args.step_fits
  have low : current * (1 - args.step / 100) ≤ other * (1 - args.step / 100) :=
    mul_le_mul_of_nonneg_right le (by linarith)
  have high : current * (1 + args.step / 100) ≤ other * (1 + args.step / 100) :=
    mul_le_mul_of_nonneg_right le (by linarith)
  refine min_le_min high ?_
  by_cases falls : args.marketPrice = none ∧ 1 + args.demandPct / 100 < 0
  · have target : args.target current ≤ 0 := by
      rw [target, base, falls.1]
      exact mathRound_le (by simpa using (mul_neg_of_pos_of_neg positive falls.2).le)
    have below : (args.target current : ℚ) ≤ current * (1 - args.step / 100) :=
      (show (args.target current : ℚ) ≤ 0 by exact_mod_cast target).trans
        (mul_nonneg positive.le (by linarith))
    rw [max_eq_left below]
    exact low.trans (le_max_left _ _)
  · refine max_le_max low ?_
    have target : args.target current ≤ args.target other := by
      unfold target base
      cases market : args.marketPrice with
      | some price => exact le_rfl
      | none =>
        have rises : 0 ≤ 1 + args.demandPct / 100 := not_lt.mp fun less => falls ⟨market, less⟩
        exact mathRound_mono (mul_le_mul_of_nonneg_right le rises)
    exact_mod_cast target

/-! ### The decision -/

theorem decidePrice_hold (held : (args.decidePrice current).action = .hold) :
    (args.decidePrice current).suggestedPrice = current := by
  unfold decidePrice at held ⊢
  split_ifs at held ⊢
  · rfl
  · dsimp only at held ⊢
    split_ifs at held ⊢ <;> rfl

theorem decidePrice_change (changes : (args.decidePrice current).action ≠ .hold) :
    0 < current ∧ (args.decidePrice current).suggestedPrice = args.proposed current ∧
      (args.proposed current : ℚ) ≠ current := by
  rw [proposed, ← limited_fst]
  unfold decidePrice at changes ⊢
  split_ifs at changes ⊢ with gone
  · exact absurd rfl changes
  · dsimp only at changes ⊢
    split_ifs at changes ⊢ with soon near same
    · exact absurd rfl changes
    · exact absurd rfl changes
    · exact absurd rfl changes
    all_goals exact ⟨not_le.mp gone, rfl, same⟩

/-! ### One decision after another -/

def next (args : PricingArgs) (current : ℚ) : ℚ := (args.decidePrice current).suggestedPrice

/-- The prices of one decision after another, each on the price that the one before has suggested. -/
def prices (args : PricingArgs) (current : ℚ) (k : ℕ) : ℚ := args.next^[k] current

theorem prices_zero (args : PricingArgs) (current : ℚ) : args.prices current 0 = current := rfl

theorem prices_succ (args : PricingArgs) (current : ℚ) (k : ℕ) :
    args.prices current (k + 1) = args.next (args.prices current k) := Function.iterate_succ_apply' _ _ _

theorem next_rises (rises : current ≤ args.next current) : args.next current ≤ args.next (args.next current) := by
  by_cases held : (args.decidePrice current).action = .hold
  · have same : args.next current = current := decidePrice_hold held
    rw [same]
    exact same.ge
  by_cases heldNext : (args.decidePrice (args.next current)).action = .hold
  · exact (decidePrice_hold heldNext).ge
  obtain ⟨positive, here, -⟩ := decidePrice_change held
  obtain ⟨-, there, -⟩ := decidePrice_change heldNext
  have more : args.proposed current ≤ args.proposed (args.next current) := proposed_mono positive rises
  calc args.next current = args.proposed current := here
    _ ≤ args.proposed (args.next current) := by exact_mod_cast more
    _ = args.next (args.next current) := there.symm

theorem next_falls (falls : args.next current ≤ current) : args.next (args.next current) ≤ args.next current := by
  by_cases held : (args.decidePrice current).action = .hold
  · have same : args.next current = current := decidePrice_hold held
    rw [same]
    exact same.le
  by_cases heldNext : (args.decidePrice (args.next current)).action = .hold
  · exact (decidePrice_hold heldNext).le
  obtain ⟨-, here, -⟩ := decidePrice_change held
  obtain ⟨positive, there, -⟩ := decidePrice_change heldNext
  have less : args.proposed (args.next current) ≤ args.proposed current := proposed_mono positive falls
  calc args.next (args.next current) = args.proposed (args.next current) := there
    _ ≤ args.proposed current := by exact_mod_cast less
    _ = args.next current := here.symm

theorem prices_monotone (args : PricingArgs) (current : ℚ) :
    Monotone (args.prices current) ∨ Antitone (args.prices current) := by
  rcases le_total current (args.next current) with rises | falls
  · refine .inl (monotone_nat_of_le_succ fun k => ?_)
    induction k with
    | zero => rwa [prices_succ, prices_zero]
    | succ k ih =>
      rw [prices_succ] at ih
      rw [prices_succ args current (k + 1), prices_succ args current k]
      exact next_rises ih
  · refine .inr (antitone_nat_of_succ_le fun k => ?_)
    induction k with
    | zero => rwa [prices_succ, prices_zero]
    | succ k ih =>
      rw [prices_succ] at ih
      rw [prices_succ args current (k + 1), prices_succ args current k]
      exact next_falls ih

/-- What keeps a price from rising for ever: a market price, a maximum, or a demand that does not raise it. -/
def Bounded (args : PricingArgs) : Prop :=
  args.marketPrice.isSome ∨ args.maxPrice.isSome ∨ args.demandPct ≤ 0

/-- Once one decision has changed the price it is within the limits in whole euros. A change up stays under a
bound. -/
theorem exists_bound (bounded : args.Bounded) :
    ∃ most : ℤ, ∀ n : ℤ, args.Within n → (0 : ℚ) < n → n < args.proposed n → args.proposed n ≤ most := by
  have toTarget : ∀ n : ℤ, args.Within n → (0 : ℚ) < n → n < args.proposed n → args.proposed n ≤ args.target n := by
    intro n within positive rises
    have whole : args.Within (mathRound (n : ℚ)) := by rwa [mathRound_intCast]
    rcases (proposed_between positive whole).1 with ⟨-, below⟩ | ⟨-, down⟩
    · exact below
    · rw [mathRound_intCast] at down
      exact absurd rises (not_lt.mpr down)
  rcases bounded with market | limited | demand
  · refine ⟨args.target 0, fun n within positive rises => ?_⟩
    obtain ⟨price, market⟩ := Option.isSome_iff_exists.mp market
    have same : args.target n = args.target 0 := by rw [target, target, base, base, market]
    exact (toTarget n within positive rises).trans same.le
  · obtain ⟨high, limited⟩ := Option.isSome_iff_exists.mp limited
    exact ⟨mathRound high, fun n _ _ _ => (within_limit args _).2 high limited⟩
  · cases market : args.marketPrice with
    | some price =>
      refine ⟨args.target 0, fun n within positive rises => ?_⟩
      have same : args.target n = args.target 0 := by rw [target, target, base, base, market]
      exact (toTarget n within positive rises).trans same.le
    | none =>
      refine ⟨0, fun n within positive rises => ?_⟩
      have below : args.target n ≤ n := by
        rw [target, base, market]
        refine mathRound_le ?_
        have less := mul_nonpos_of_nonneg_of_nonpos positive.le demand
        dsimp only
        linarith
      exact absurd rises (not_lt.mpr ((toTarget n within positive rises).trans below))

theorem next_of_change (changes : (args.decidePrice current).action ≠ .hold) :
    args.next current = args.proposed current := (decidePrice_change changes).2.1

/-- Decisions that always change the price would change it by a euro each time. -/
theorem prices_end (args : PricingArgs) (current : ℚ) (bounded : args.Bounded) :
    ∃ k, (args.decidePrice (args.prices current k)).action = .hold := by
  by_contra never
  have changes : ∀ k, (args.decidePrice (args.prices current k)).action ≠ .hold := fun k held => never ⟨k, held⟩
  let euro : ℕ → ℤ := fun k => args.proposed (args.prices current k)
  have whole : ∀ k, args.prices current (k + 1) = euro k := fun k => by
    rw [prices_succ]
    exact next_of_change (changes k)
  have positive : ∀ k, (0 : ℚ) < euro k := fun k => by
    rw [← whole]
    exact (decidePrice_change (changes (k + 1))).1
  have within : ∀ k, args.Within (euro k) := fun k => within_limit args _
  have later : ∀ k, euro (k + 1) = args.proposed (euro k) := fun k => by
    rw [← whole]
  have moves : ∀ k, euro (k + 1) ≠ euro k := fun k same => by
    have changed := (decidePrice_change (changes (k + 1))).2.2
    rw [whole k] at changed
    rw [later k] at same
    exact changed (by exact_mod_cast same)
  have order : ∀ {j k}, args.prices current (j + 1) ≤ args.prices current (k + 1) ↔ euro j ≤ euro k := by
    intro j k
    rw [whole, whole]
    exact Int.cast_le
  rcases args.prices_monotone current with up | down
  · obtain ⟨most, bound⟩ := exists_bound bounded
    have rises : ∀ k, euro k < euro (k + 1) := fun k =>
      lt_of_le_of_ne (order.mp (up (by omega))) (moves k).symm
    have far : ∀ k : ℕ, euro 0 + k ≤ euro k := by
      intro k
      induction k with
      | zero => simp
      | succ k ih =>
        have more := rises k
        push_cast
        omega
    have under : ∀ k, euro (k + 1) ≤ most := fun k => by
      rw [later]
      exact bound (euro k) (within k) (positive k) ((rises k).trans_eq (later k))
    have least : 0 < euro 0 := by exact_mod_cast positive 0
    have enough := far (most.toNat + 1)
    have beyond := under most.toNat
    push_cast at enough
    omega
  · have falls : ∀ k, euro (k + 1) < euro k := fun k =>
      lt_of_le_of_ne (order.mp (down (by omega))) (moves k)
    have far : ∀ k : ℕ, euro k + k ≤ euro 0 := by
      intro k
      induction k with
      | zero => simp
      | succ k ih =>
        have less := falls k
        push_cast
        omega
    have enough := far (euro 0).toNat
    have least : 0 < euro (euro 0).toNat := by exact_mod_cast positive _
    omega

/-! ### The owner's limits -/

/-- The current price is within the limits. -/
def Holds (args : PricingArgs) (current : ℚ) : Prop :=
  (∀ low ∈ args.minPrice, low ≤ current) ∧ ∀ high ∈ args.maxPrice, current ≤ high

theorem Holds.within (holds : args.Holds current) : args.Within (mathRound current) :=
  ⟨fun low mem => mathRound_mono (holds.1 low mem), fun high mem => mathRound_mono (holds.2 high mem)⟩

/-- What a decision on a price keeps to. -/
structure Respects (args : PricingArgs) (current : ℚ) : Prop where
  limits : (args.decidePrice current).action ≠ .hold →
    ∃ n : ℤ, (args.decidePrice current).suggestedPrice = n ∧ args.Within n
  step : args.Holds current → (args.decidePrice current).action ≠ .hold →
    |(args.decidePrice current).suggestedPrice - current| ≤ current * args.step / 100 + 1 / 2
  toward : args.Holds current → (args.decidePrice current).action ≠ .hold → ∃ n : ℤ,
    (args.decidePrice current).suggestedPrice = n ∧
      ((mathRound current ≤ n ∧ n ≤ args.target current) ∨ (args.target current ≤ n ∧ n ≤ mathRound current))
  still : args.Holds current → args.marketPrice = none → args.demandPct = 0 →
    (args.decidePrice current).suggestedPrice = current ∨ (args.decidePrice current).suggestedPrice = mathRound current
  oneWay : Monotone (args.prices current) ∨ Antitone (args.prices current)
  ends : args.Bounded → ∃ k, (args.decidePrice (args.prices current k)).action = .hold

/-- Every price suggested is in whole euros within the limits in whole euros, and no further than the allowed step
from a price within them, up to half a euro, on the way to the target. One decision after another the prices go one
way, and end unless nothing bounds their rise. -/
theorem prices_respect_limits (args : PricingArgs) (current : ℚ) : args.Respects current where
  limits changes := ⟨_, (decidePrice_change changes).2.1, within_limit args _⟩
  step holds changes := by
    obtain ⟨positive, made, -⟩ := decidePrice_change changes
    rw [made]
    exact (proposed_between positive holds.within).2
  toward holds changes := by
    obtain ⟨positive, made, -⟩ := decidePrice_change changes
    exact ⟨_, made, (proposed_between positive holds.within).1⟩
  still holds market demand := by
    by_cases held : (args.decidePrice current).action = .hold
    · exact .inl (decidePrice_hold held)
    · obtain ⟨positive, made, -⟩ := decidePrice_change held
      have target : args.target current = mathRound current := by
        rw [PricingArgs.target, base, market, demand]
        simp
      have between := (proposed_between positive holds.within).1
      rw [target] at between
      right
      rw [made]
      exact_mod_cast between.elim (fun h => le_antisymm h.2 h.1) fun h => le_antisymm h.2 h.1
  oneWay := args.prices_monotone current
  ends := args.prices_end current

end PricingArgs

/-! ### Prices and limits that are not in whole euros -/

def fivePercentStep (marketPrice minPrice : Option ℚ) : PricingArgs where
  marketPrice := marketPrice
  positioningPct := 0
  demandPct := 0
  confidence := .high
  maxStepPct := 5
  minPrice := minPrice
  maxPrice := none
  daysSinceLastChange := none
  minDaysBetweenChanges := 30
  stepFits := by decide +kernel
  limitsFit _ _ _ mem := nomatch mem

/-- A suggestion under the minimum of 50.40, a change of ten per cent, and one without a market price. -/
theorem suggestions_off_limits :
    ((fivePercentStep (some 20) (some (252 / 5))).decidePrice 52).suggestedPrice = 50 ∧
      ((fivePercentStep (some 20) none).decidePrice 10).suggestedPrice = 11 ∧
      ((fivePercentStep none none).decidePrice (21 / 2)).suggestedPrice = 11 := by
  decide +kernel

end StorageOS
