import StorageOS.Billing.Rounding
import Mathlib.Order.Interval.Finset.Defs
import Mathlib.Data.Int.Interval

/-! The first payment of a monthly contract: the days it covers and its price. -/

namespace StorageOS

open Gregorian

/-- `Date.UTC` of a year, a month from 0 and a day, which reads the years 0 to 99 as 1900 to 1999. -/
def dateUTC (year month day : ℤ) : Date :=
  monthStart (12 * (if 0 ≤ year ∧ year ≤ 99 then 1900 + year else year) + month) + day - 1

/-- `getUTCDay`: 0 for Sunday. The first of January 1970 was a Thursday. -/
def getUTCDay (d : Date) : ℤ := (d + 4) % 7

/-- What the first payment covers, from the parts of the day of entry. -/
def firstMonthPlanOf (y m d : ℤ) (nextMonthFromDay : Option ℤ) : FirstMonthPlan :=
  let month := m - 1
  let daysInMonth := day (dateUTC y (month + 1) 0)
  let fullFirstMonth := d == 1
  let includesNextMonth := !fullFirstMonth && nextMonthFromDay.any fun n => n ≠ 0 && n ≤ d
  { periodStart := dateUTC y month d
    periodEnd := if includesNextMonth then dateUTC y (month + 2) 0 else dateUTC y (month + 1) 0
    days := daysInMonth - d + 1
    daysInMonth := daysInMonth
    fullFirstMonth := fullFirstMonth
    includesNextMonth := includesNextMonth
    nextMonthStart := if includesNextMonth then some (dateUTC y (month + 1) 1) else none
    billingStartsOn := if includesNextMonth then dateUTC y (month + 2) 1
      else dateUTC y (month + 1) 1 }

def entryPlan (startDate : Date) (nextMonthFromDay : Option ℤ) : FirstMonthPlan :=
  firstMonthPlanOf (year startDate) (month startDate) (day startDate) nextMonthFromDay

def firstPaymentCents (monthCents : ℤ) (plan : FirstMonthPlan) : ℤ :=
  (firstMonthCents monthCents plan).1 + (firstMonthCents monthCents plan).2

/-! ### The days covered -/

section

variable {startDate : Date} {nextMonthFromDay : Option ℤ}

theorem dateUTC_of_le {y : ℤ} (modern : 100 ≤ y) (month day : ℤ) :
    dateUTC y month day = monthStart (12 * y + month) + day - 1 := by
  rw [dateUTC, if_neg (by omega)]

theorem entryPlan_eq (modern : 100 ≤ year startDate) (nextMonthFromDay : Option ℤ) :
    entryPlan startDate nextMonthFromDay = firstMonthPlan startDate nextMonthFromDay := by
  have hmonth : 12 * year startDate + (month startDate - 1) = monthOf startDate := by
    simp only [year, month]
    omega
  have hnext : ∀ k, 12 * year startDate + (month startDate - 1 + k) = monthOf startDate + k := by
    intro k
    omega
  have length : day (monthStart (monthOf startDate + 1) - 1) =
      monthStart (monthOf startDate + 1) - monthStart (monthOf startDate) := by
    have positive := (monthLength_bounds (monthOf startDate)).1
    rw [monthStart_sub_one, day_onDay (by omega), min_self, monthLength]
  have entry : monthStart (monthOf startDate) + day startDate - 1 = startDate := by
    simp only [day]
    omega
  simp only [entryPlan, firstMonthPlanOf, firstMonthPlan, dateUTC_of_le modern, hnext, hmonth,
    length, entry, add_zero, add_sub_cancel_right]

theorem firstMonthPlan_covers (startDate : Date) (nextMonthFromDay : Option ℤ) :
    let plan := firstMonthPlan startDate nextMonthFromDay
    plan.periodEnd + 1 = plan.billingStartsOn ∧ day plan.billingStartsOn = 1 ∧
      ∀ d, plan.periodStart ≤ d ∧ d ≤ plan.periodEnd ↔ startDate ≤ d ∧
        (monthOf d = monthOf startDate ∨
          plan.includesNextMonth = true ∧ monthOf d = monthOf startDate + 1) := by
  have entered := monthOf_spec startDate
  have next := (monthLength_bounds (monthOf startDate + 1)).1
  simp only [monthLength, add_assoc, one_add_one_eq_two] at next
  have starts : ∀ k, day (monthStart k) = 1 := by
    intro k
    have := (monthOf_eq_iff (monthStart k) k).mpr ⟨le_refl _, monthStart_lt_iff.mpr (by omega)⟩
    rw [day, this]
    omega
  have in_month := monthOf_eq_iff
  dsimp only [firstMonthPlan]
  generalize (!day startDate == 1 && _) = includesNextMonth
  cases includesNextMonth with
  | true =>
    refine ⟨by simp, by simp [starts], fun d => ?_⟩
    rw [in_month, in_month]
    simp only [if_true, true_and, add_assoc, one_add_one_eq_two]
    lia
  | false =>
    refine ⟨by simp, by simp [starts], fun d => ?_⟩
    rw [in_month]
    simp only [Bool.false_eq_true, if_false, false_and, or_false]
    lia

theorem firstMonthPlan_days (startDate : Date) (nextMonthFromDay : Option ℤ) :
    let plan := firstMonthPlan startDate nextMonthFromDay
    plan.days = ((Finset.Icc plan.periodStart plan.periodEnd).filter
        fun d => monthOf d = monthOf startDate).card ∧
      ∀ d ∈ plan.nextMonthStart, d = startDate + plan.days := by
  have entered := monthOf_spec startDate
  have next := (monthLength_bounds (monthOf startDate + 1)).1
  simp only [monthLength, add_assoc, one_add_one_eq_two] at next
  obtain ⟨-, -, covers⟩ := firstMonthPlan_covers startDate nextMonthFromDay
  have rest : ((Finset.Icc (firstMonthPlan startDate nextMonthFromDay).periodStart
      (firstMonthPlan startDate nextMonthFromDay).periodEnd).filter
        fun d => monthOf d = monthOf startDate) =
      Finset.Icc startDate (monthStart (monthOf startDate + 1) - 1) := by
    ext d
    rw [Finset.mem_filter, Finset.mem_Icc, covers, Finset.mem_Icc, monthOf_eq_iff]
    lia
  refine ⟨?_, ?_⟩
  · rw [rest, Int.card_Icc]
    dsimp only [firstMonthPlan, day]
    lia
  · intro d mem
    simp only [firstMonthPlan] at mem
    split at mem
    · cases mem
      simp only [firstMonthPlan, day]
      lia
    · cases mem

/-! ### The price -/

/-- The part of the month of entry is the price in proportion to its days, on every day. -/
theorem firstMonthCents_fst (monthCents : ℤ) (startDate : Date) (nextMonthFromDay : Option ℤ) :
    (firstMonthCents monthCents (firstMonthPlan startDate nextMonthFromDay)).1 =
      mathRound (monthCents * (monthLength (monthOf startDate) - day startDate + 1 : ℤ) /
        (monthLength (monthOf startDate) : ℤ)) := by
  have positive := (monthLength_bounds (monthOf startDate)).1
  by_cases first : day startDate = 1
  · have length : (monthLength (monthOf startDate) : ℚ) ≠ 0 := by
      have : (0 : ℚ) < monthLength (monthOf startDate) := by
        exact_mod_cast (by omega : 0 < monthLength (monthOf startDate))
      exact this.ne'
    rw [first, sub_add_cancel, mul_div_cancel_right₀ _ length, mathRound_intCast]
    simp [firstMonthCents, firstMonthPlan, first]
  · simp [firstMonthCents, firstMonthPlan, first, monthLength]

theorem firstMonthCents_snd (monthCents : ℤ) (plan : FirstMonthPlan) :
    (firstMonthCents monthCents plan).2 = if plan.includesNextMonth then monthCents else 0 := rfl

variable {monthCents : ℤ}

theorem monthLength_cast_pos (k : ℤ) : (0 : ℚ) < monthLength k := by
  have := (monthLength_bounds k).1
  exact_mod_cast (by omega : 0 < monthLength k)

variable (priced : 0 ≤ monthCents)
include priced

theorem firstMonthCents_bounds (startDate : Date) (nextMonthFromDay : Option ℤ) :
    0 ≤ (firstMonthCents monthCents (firstMonthPlan startDate nextMonthFromDay)).1 ∧
      (firstMonthCents monthCents (firstMonthPlan startDate nextMonthFromDay)).1 ≤ monthCents := by
  have positive := monthLength_cast_pos (monthOf startDate)
  have priced' : (0 : ℚ) ≤ monthCents := by exact_mod_cast priced
  have low : (0 : ℚ) ≤ (monthLength (monthOf startDate) - day startDate + 1 : ℤ) := by
    have := day_le startDate
    exact_mod_cast (by omega : 0 ≤ monthLength (monthOf startDate) - day startDate + 1)
  have high : ((monthLength (monthOf startDate) - day startDate + 1 : ℤ) : ℚ) ≤
      monthLength (monthOf startDate) := by
    have := day_pos startDate
    exact_mod_cast (by omega :
      monthLength (monthOf startDate) - day startDate + 1 ≤ monthLength (monthOf startDate))
  rw [firstMonthCents_fst]
  constructor
  · exact mathRound_nonneg (by positivity)
  · apply mathRound_le
    rw [div_le_iff₀ positive]
    exact mul_le_mul_of_nonneg_left high priced'

theorem firstMonthCents_eq_iff (startDate : Date) (nextMonthFromDay : Option ℤ) :
    (firstMonthCents monthCents (firstMonthPlan startDate nextMonthFromDay)).1 = monthCents ↔
      2 * monthCents * (day startDate - 1) ≤ monthLength (monthOf startDate) := by
  have positive := monthLength_cast_pos (monthOf startDate)
  have bound := (firstMonthCents_bounds priced startDate nextMonthFromDay).2
  rw [firstMonthCents_fst] at bound ⊢
  have close : monthCents ≤ mathRound (monthCents *
        (monthLength (monthOf startDate) - day startDate + 1 : ℤ) /
          (monthLength (monthOf startDate) : ℤ)) ↔
      2 * monthCents * (day startDate - 1) ≤ monthLength (monthOf startDate) := by
    rw [mathRound, Int.le_floor, ← sub_le_iff_le_add, le_div_iff₀ positive]
    rw [← Int.cast_le (R := ℚ)]
    push_cast
    constructor <;> intro h <;> linarith
  rw [← close]
  exact ⟨fun h => h.ge, fun h => le_antisymm bound h⟩

theorem firstMonthCents_antitone {later : Date} {nextMonthFromDay nextMonthFromDay' : Option ℤ}
    (sameMonth : monthOf later = monthOf startDate) (h : startDate ≤ later) :
    (firstMonthCents monthCents (firstMonthPlan later nextMonthFromDay')).1 ≤
      (firstMonthCents monthCents (firstMonthPlan startDate nextMonthFromDay)).1 := by
  have positive := monthLength_cast_pos (monthOf startDate)
  have priced' : (0 : ℚ) ≤ monthCents := by exact_mod_cast priced
  have fewer : ((monthLength (monthOf startDate) - day later + 1 : ℤ) : ℚ) ≤
      (monthLength (monthOf startDate) - day startDate + 1 : ℤ) := by
    have : day startDate ≤ day later := by
      rw [day, day, sameMonth]
      lia
    exact_mod_cast (by omega)
  rw [firstMonthCents_fst, firstMonthCents_fst, sameMonth]
  apply mathRound_mono
  rw [div_le_div_iff_of_pos_right positive]
  exact mul_le_mul_of_nonneg_left fewer priced'

end

/-- The first payment covers the rest of the month of entry and, where it is included, the whole
next month; billing goes on with the first of the month after. It costs no more than a month of
each, and no more on a later day of the month with the same months included. -/
theorem first_payment_tiles {startDate : Date} (modern : 100 ≤ year startDate)
    (nextMonthFromDay : Option ℤ) {monthCents : ℤ} (priced : 0 ≤ monthCents) :
    let plan := entryPlan startDate nextMonthFromDay
    (plan.periodStart = startDate ∧ plan.periodEnd + 1 = plan.billingStartsOn ∧
        day plan.billingStartsOn = 1 ∧
        (∀ d, plan.periodStart ≤ d ∧ d ≤ plan.periodEnd ↔ startDate ≤ d ∧
          (monthOf d = monthOf startDate ∨
            plan.includesNextMonth = true ∧ monthOf d = monthOf startDate + 1)) ∧
        (∀ d ∈ plan.nextMonthStart, d = startDate + plan.days) ∧
        plan.days = ((Finset.Icc plan.periodStart plan.periodEnd).filter
          fun d => monthOf d = monthOf startDate).card) ∧
      (0 ≤ (firstMonthCents monthCents plan).1 ∧ (firstMonthCents monthCents plan).1 ≤ monthCents) ∧
      ((firstMonthCents monthCents plan).1 = monthCents ↔
        2 * monthCents * (day startDate - 1) ≤ plan.daysInMonth) ∧
      ∀ later : Date, startDate ≤ later → monthOf later = monthOf startDate →
        (entryPlan later nextMonthFromDay).includesNextMonth = plan.includesNextMonth →
        firstPaymentCents monthCents (entryPlan later nextMonthFromDay) ≤
          firstPaymentCents monthCents plan := by
  intro plan
  have isPlan : plan = firstMonthPlan startDate nextMonthFromDay := entryPlan_eq modern _
  clear_value plan
  subst isPlan
  obtain ⟨ends, starts, covers⟩ := firstMonthPlan_covers startDate nextMonthFromDay
  obtain ⟨days, next⟩ := firstMonthPlan_days startDate nextMonthFromDay
  refine ⟨⟨rfl, ends, starts, covers, next, days⟩,
    firstMonthCents_bounds priced startDate nextMonthFromDay,
    firstMonthCents_eq_iff priced startDate nextMonthFromDay, fun later h sameMonth sameShape => ?_⟩
  have modern' : 100 ≤ year later := by rwa [year, sameMonth]
  rw [entryPlan_eq modern'] at sameShape ⊢
  have first : (firstMonthCents monthCents (firstMonthPlan later nextMonthFromDay)).1 ≤
      (firstMonthCents monthCents (firstMonthPlan startDate nextMonthFromDay)).1 :=
    firstMonthCents_antitone priced sameMonth h
  rw [firstPaymentCents, firstPaymentCents, firstMonthCents_snd, firstMonthCents_snd, sameShape]
  omega

/-- On 31 January the first payment goes to the end of February. -/
theorem first_payment_tiles_january :
    (entryPlan (date 2024 1 31) (some 20)).periodEnd + 1 = date 2024 3 1 :=
  (first_payment_tiles (show 100 ≤ year (date 2024 1 31) by decide) (some 20)
    (show (0 : ℤ) ≤ 5000 by decide)).1.2.1.trans (by decide)

/-- A price of 15 cents is paid in full on the second of January, and a day of the year 50 is read as
one of 1950. -/
theorem first_payment_off :
    (¬∀ (startDate : Date) (nextMonthFromDay : Option ℤ) (monthCents : ℤ), 100 ≤ year startDate →
        0 < monthCents →
        ((firstMonthCents monthCents (entryPlan startDate nextMonthFromDay)).1 = monthCents ↔
          day startDate = 1)) ∧
      ¬∀ (startDate : Date) (nextMonthFromDay : Option ℤ), 0 ≤ year startDate →
        (entryPlan startDate nextMonthFromDay).periodStart = startDate := by
  constructor
  · intro equal
    have := (equal (date 2026 1 2) none 15 (by decide) (by decide)).mp (by decide +kernel)
    revert this
    decide
  · intro starts
    have := starts (date 50 2 10) none (by decide)
    revert this
    decide

end StorageOS
