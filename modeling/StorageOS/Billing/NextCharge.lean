import StorageOS.Billing.PrepaidPeriods
import StorageOS.Billing.Rounding

/-! The next charge of a contract as it is announced to its customer, and the first invoice that the
runs of the following months create for it. -/

namespace StorageOS

open Gregorian

def startOfMonth (d : Date) : Date := monthStart (monthOf d)

/-- The next charge of a contract: its day and its amount before it is rounded. -/
def nextContractCharge (c : Contract) (coveredUntil : Option Date) (rent insurance : ℚ)
    (today : Date) : Date × ℚ :=
  let firstOfNextMonth := monthStart (monthOf today + 1)
  let nextUncovered := coveredUntil.map (· + 1)
  let rent := if 0 < c.freeMonthsRemaining then 0 else rent
  if 1 < c.billingIntervalMonths then
    let pct := c.prepayDiscountPct / 100
    ((nextUncovered <|> c.billingStartsOn).getD firstOfNextMonth,
      (rent * (1 - pct) + insurance) * c.billingIntervalMonths)
  else
    let candidates := [nextUncovered, c.billingStartsOn].reduceOption
    let day := candidates.foldl
      (fun day d => if day < startOfMonth d then startOfMonth d else day) firstOfNextMonth
    let days := monthStart (monthOf day + 1) - monthStart (monthOf day)
    let share : ℚ := match (candidates.filter fun d => startOfMonth d = day).max? with
      | some d => if 1 < Gregorian.day d then (days - Gregorian.day d + 1 : ℤ) / days else 1
      | none => 1
    (day, (rent + insurance) * share)

/-- The next charge that a customer is shown, in cents before taxes. -/
def shownCharge (c : Contract) (coveredUntil : Option Date) (today : Date) : Date × ℤ :=
  let rent := max 0 (c.priceMonthly - c.discountAmount)
  let charge := nextContractCharge c coveredUntil rent (c.insurancePrice.getD 0) today
  (charge.1, mathRound charge.2)

/-- The run of the job for one contract in month `k`. -/
def monthRun (autoIssue : Bool) (k : ℤ) (l : Lease) : Lease :=
  processGenerateRecurring (resolvePeriod (monthStart k) none) true autoIssue [] l

def RentInvoice.netCents (i : RentInvoice) : ℤ :=
  (i.items.map fun line => line.quantity * line.unitPrice).sum

/-- The runs of the months from `k` on bill a contract first with an invoice. -/
def FirstBilled (autoIssue : Bool) (k : ℤ) (l : Lease) (i : RentInvoice) : Prop :=
  ∃ n : ℕ, (∀ j < n, monthRun autoIssue (k + j) l = l) ∧
    (monthRun autoIssue (k + n) l).invoices = l.invoices.push i

/-- A contract that is being billed, without an end date, rewards or credit, and with no invoice
after the last period billed: each later day is unbilled, and each day from the start up to there is
billed. -/
structure Lease.BilledUntil (l : Lease) (coveredUntil : Option Date) (today : Date) : Prop where
  billed : l.contract.isBilled = true
  begun : l.contract.startDate ≤ today
  interval : 1 ≤ l.contract.billingIntervalMonths
  insured : ∀ price ∈ l.contract.insurancePrice, 0 ≤ price
  endDate : l.contract.endDate = none
  credit : l.contract.pendingCreditAmount ≤ 0
  last : lastPeriodEnd l.invoices.values = coveredUntil
  unbilled : ∀ p : Period, (∀ d ∈ coveredUntil, d < p.first) → l.already p = false
  covered : ∀ p : Period, l.contract.startDate ≤ p.first → p.first ≤ p.last →
    (∃ d ∈ coveredUntil, p.first ≤ d) → l.already p = true

/-! ### The first period billed -/

/-- The day from which a contract is billed next, were each day billed by itself. -/
def Contract.nextStart (c : Contract) (coveredUntil : Option Date) : Date :=
  match coveredUntil with
  | some d => if 1 < c.billingIntervalMonths then d + 1 else
      if c.billingStart ≤ d then monthStart (monthOf d + 1) else c.billingStart
  | none => if 1 < c.billingIntervalMonths then c.billingStartsOn.getD c.startDate
      else c.billingStart

section

variable {l : Lease} {coveredUntil : Option Date} {today : Date}

theorem monthRun_period (k : ℤ) : resolvePeriod (monthStart k) none =
    ⟨monthStart k, monthStart (k + 1) - 1⟩ := by
  have month : monthOf (monthStart k) = k :=
    (monthOf_eq_iff _ _).mpr ⟨le_refl _, monthStart_lt_iff.mpr (by omega)⟩
  simp [resolvePeriod, month]

theorem monthStart_le_iff {j k : ℤ} : monthStart j ≤ monthStart k ↔ j ≤ k := by
  rw [← not_lt, monthStart_lt_iff, not_lt]

variable {k : ℤ} {autoIssue : Bool}

theorem monthEnd_lt_iff {d : Date} : monthStart (k + 1) - 1 < d ↔ k < monthOf d := by
  rw [show k < monthOf d ↔ k + 1 ≤ monthOf d by omega, le_monthOf_iff]
  lia

theorem monthStart_lt_succ (k : ℤ) : monthStart k < monthStart (k + 1) :=
  monthStart_lt_iff.mpr (by omega)

variable (until_ : l.BilledUntil coveredUntil today)
include until_

/-- A run of a month bills a monthly contract from its billing start on, in a month that has no day
billed. -/
theorem Lease.BilledUntil.monthly (monthly : l.contract.billingIntervalMonths = 1) (k : ℤ) :
    recurringPeriod (resolvePeriod (monthStart k) none) l =
      if k < monthOf (l.contract.nextStart coveredUntil) then none
      else some (⟨max (monthStart k) (l.contract.nextStart coveredUntil), monthStart (k + 1) - 1⟩,
        monthLength k) := by
  have before := monthStart_lt_succ k
  have length : daysBetween (monthStart k) (monthStart (k + 1) - 1) = monthLength k := by
    simp only [daysBetween, monthLength]
    lia
  have starts := l.contract.startDate_le_billingStart
  rw [monthRun_period, recurringPeriod_monthly (by dsimp only; lia) monthly, length]
  simp only [Lease.monthPeriod, until_.endDate, untilEnd]
  have not_prepaid : ¬1 < l.contract.billingIntervalMonths := by omega
  by_cases paid : ∃ d ∈ coveredUntil, l.contract.billingStart ≤ d
  · -- The months up to the last day billed are billed.
    obtain ⟨d, isCovered, from_start⟩ := paid
    cases isCovered
    have isNext : l.contract.nextStart (some d) = monthStart (monthOf d + 1) := by
      simp [Contract.nextStart, not_prepaid, from_start]
    have isMonth : monthOf (monthStart (monthOf d + 1)) = monthOf d + 1 :=
      (monthOf_eq_iff _ _).mpr ⟨le_refl _, monthStart_lt_succ _⟩
    rw [isNext, isMonth]
    have month := monthOf_spec d
    by_cases earlier : k < monthOf d + 1
    · have from_month : monthStart k ≤ d := (le_monthOf_iff d k).mp (by omega)
      rw [if_pos earlier]
      by_cases ahead : monthStart (k + 1) - 1 < l.contract.billingStart
      · rw [if_pos ahead]
      · have already := until_.covered
          ⟨max (monthStart k) l.contract.billingStart, monthStart (k + 1) - 1⟩
          (by dsimp only; lia) (by dsimp only; lia) ⟨d, rfl, by dsimp only; lia⟩
        rw [if_neg ahead, if_neg (by lia), already, if_pos rfl]
    · have later : monthStart (monthOf d + 1) ≤ monthStart k :=
        monthStart_le_iff.mpr (by omega)
      have first : max (monthStart k) l.contract.billingStart = monthStart k := by lia
      have unbilled := until_.unbilled ⟨monthStart k, monthStart (k + 1) - 1⟩ fun d' mem => by
        cases mem
        dsimp only
        lia
      rw [if_neg earlier, if_neg (by lia), first, if_neg (by lia), unbilled,
        if_neg Bool.false_ne_true, max_eq_left later]
  · have isNext : l.contract.nextStart coveredUntil = l.contract.billingStart := by
      cases coveredUntil with
      | none => simp [Contract.nextStart, not_prepaid]
      | some d =>
        have : ¬l.contract.billingStart ≤ d := fun h => paid ⟨d, rfl, h⟩
        simp [Contract.nextStart, not_prepaid, this]
    rw [isNext]
    by_cases ahead : k < monthOf l.contract.billingStart
    · rw [if_pos (monthEnd_lt_iff.mpr ahead), if_pos ahead]
    · have within : ¬monthStart (k + 1) - 1 < l.contract.billingStart := fun h =>
        ahead (monthEnd_lt_iff.mp h)
      have unbilled := until_.unbilled
        ⟨max (monthStart k) l.contract.billingStart, monthStart (k + 1) - 1⟩ fun d mem => by
          have : ¬l.contract.billingStart ≤ d := fun h => paid ⟨d, mem, h⟩
          dsimp only
          lia
      rw [if_neg within, if_neg (by lia), unbilled, if_neg Bool.false_ne_true, if_neg ahead]

/-- A run of a month bills a prepaid contract from the day after the last one billed on, once that
day has come. -/
theorem Lease.BilledUntil.prepaid (ahead : 1 < l.contract.billingIntervalMonths) (k : ℤ) :
    recurringPeriod (resolvePeriod (monthStart k) none) l =
      if k < monthOf (l.contract.nextStart coveredUntil) then none
      else some (⟨l.contract.nextStart coveredUntil, BillingJobs.addMonths
          (l.contract.nextStart coveredUntil) l.contract.billingIntervalMonths - 1⟩,
        daysBetween (l.contract.nextStart coveredUntil) (BillingJobs.addMonths
          (l.contract.nextStart coveredUntil) l.contract.billingIntervalMonths - 1)) := by
  have start : recurringStart ⟨monthStart k, monthStart (k + 1) - 1⟩ l =
      if monthStart (k + 1) - 1 < l.contract.nextStart coveredUntil then none
      else some ⟨l.contract.nextStart coveredUntil, BillingJobs.addMonths
        (l.contract.nextStart coveredUntil) l.contract.billingIntervalMonths - 1⟩ := by
    have last := until_.last
    cases coveredUntil with
    | none =>
      have next : l.contract.nextStart none = l.contract.billingStartsOn.getD l.contract.startDate := if_pos ahead
      rw [next, recurringStart, if_pos ahead, last]
    | some d =>
      have next : l.contract.nextStart (some d) = d + 1 := if_pos ahead
      rw [next, recurringStart, if_pos ahead, last]
  have grows := BillingJobs.lt_addMonths (l.contract.nextStart coveredUntil)
    (show 0 < l.contract.billingIntervalMonths by omega)
  have unbilled := until_.unbilled ⟨l.contract.nextStart coveredUntil, BillingJobs.addMonths
      (l.contract.nextStart coveredUntil) l.contract.billingIntervalMonths - 1⟩ fun d mem => by
    cases mem
    simp only [Contract.nextStart, ahead, if_true]
    lia
  rw [monthRun_period]
  simp only [recurringPeriod, start, if_pos ahead, Contract.clip, until_.endDate]
  by_cases later : k < monthOf (l.contract.nextStart coveredUntil)
  · simp only [if_pos (monthEnd_lt_iff.mpr later), if_pos later]
  · have begun : ¬monthStart (k + 1) - 1 < l.contract.nextStart coveredUntil := fun h =>
      later (monthEnd_lt_iff.mp h)
    simp only [if_neg begun, if_neg later, unbilled, Bool.false_eq_true, if_false]

def Contract.insuranceCents (c : Contract) (p : Period) (fullDays : ℤ) : ℤ :=
  mathRound ((c.insurancePrice.getD 0 : ℤ) * c.billingIntervalMonths * factor p fullDays)

theorem Lease.BilledUntil.run_some (autoIssue : Bool) {p : Period} {fullDays : ℤ}
    (found : recurringPeriod (resolvePeriod (monthStart k) none) l = some (p, fullDays)) :
    ∃ i : RentInvoice, (monthRun autoIssue k l).invoices = l.invoices.push i ∧ i.period = some p ∧
      i.netCents = l.contract.baseRent p fullDays + l.contract.insuranceCents p fullDays := by
  have no_credit : ∀ maxCents, claimContractCredit maxCents l.contract = (.none, l.contract) := by
    intro maxCents
    have : readContractCredit maxCents l.contract = none := by
      rw [readContractCredit]
      split
      · rfl
      · rw [if_pos until_.credit]
    rw [claimContractCredit, this]
  have no_reward : claimRewardsForInvoice (l.contract.baseRent p fullDays) [] = ⟨[], 0⟩ := by
    rw [claimRewardsForInvoice]
    split <;> rfl
  let plan : RecurringPlan := ⟨l.contract, p, fullDays, []⟩
  have net : (plan.draft .none).netCents =
      l.contract.baseRent p fullDays + l.contract.insuranceCents p fullDays := by
    have before : plan.rentBeforeCredit = l.contract.baseRent p fullDays := by
      simp only [RecurringPlan.rentBeforeCredit, RecurringPlan.reward, plan, no_reward, sub_zero]
    simp only [RentInvoice.netCents, RecurringPlan.draft, before, ClaimedContractCredit.none, sub_zero,
      List.map_cons, List.sum_cons, one_mul, Contract.insuranceCents, plan]
    congr 1
    cases price : l.contract.insurancePrice with
    | none => simp
    | some price' =>
      have nonneg := until_.insured price' price
      by_cases positive : 0 < price'
      · simp [positive]
      · have zero : price' = 0 := by omega
        simp [zero]
  refine ⟨if autoIssue then { plan.draft .none with status := .issued } else plan.draft .none,
    ?_, ?_, ?_⟩
  · simp only [monthRun, processGenerateRecurring, recurringPlan, until_.billed, Bool.and_self,
      if_true, found, Option.map_some, no_credit, plan]
  · cases autoIssue <;> rfl
  · cases autoIssue <;> exact net

omit until_

theorem monthRun_none (found : recurringPeriod (resolvePeriod (monthStart k) none) l = none) :
    monthRun autoIssue k l = l :=
  processGenerateRecurring_none autoIssue found

theorem Lease.BilledUntil.run_none (until_ : l.BilledUntil coveredUntil today) (autoIssue : Bool)
    (early : k < monthOf (l.contract.nextStart coveredUntil)) :
    monthRun autoIssue k l = l := by
  apply monthRun_none
  have interval := until_.interval
  by_cases ahead : 1 < l.contract.billingIntervalMonths
  · rw [until_.prepaid ahead, if_pos early]
  · rw [until_.monthly (by omega), if_pos early]

/-- The runs that come before the next period bill nothing, and the first one after that is the only
one to bill first. -/
theorem firstBilled_of {k next : ℤ} {i : RentInvoice} (le_next : k ≤ next)
    (before : ∀ j, k ≤ j → j < next → monthRun autoIssue j l = l)
    (bills : (monthRun autoIssue next l).invoices = l.invoices.push i) :
    FirstBilled autoIssue k l i ∧ ∀ i', FirstBilled autoIssue k l i' → i' = i := by
  have isNext : k + ((next - k).toNat : ℤ) = next := by omega
  have pushed : ∀ {i' : RentInvoice}, l.invoices ≠ l.invoices.push i' := fun {i'} same => by
    have := congrArg (fun t => t.values.length) same
    simp at this
  refine ⟨⟨(next - k).toNat, fun j hj => before _ (by omega) (by omega), by rw [isNext, bills]⟩, ?_⟩
  rintro i' ⟨n, unbilled, bills'⟩
  have at_next : k + (n : ℤ) = next := by
    rcases lt_trichotomy (k + (n : ℤ)) next with earlier | same | later
    · rw [before _ (by omega) earlier] at bills'
      exact absurd bills' pushed
    · exact same
    · have := unbilled (next - k).toNat (by omega)
      rw [isNext] at this
      rw [this] at bills
      exact absurd bills pushed
  rw [at_next, bills] at bills'
  have := congrArg Table.values bills'
  simp only [Table.values_push, List.append_cancel_left_eq, List.cons.injEq, and_true] at this
  exact this.symm

end

end StorageOS
