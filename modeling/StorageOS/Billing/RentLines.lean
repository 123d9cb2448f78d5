import StorageOS.Billing.Rounding

/-! The rent lines of the invoices of a contract are not negative when its discount is not above its price. -/

namespace StorageOS

open Gregorian

/-! ### The rent of a period -/

variable {fullDays : ℤ} {p : Period} {rentCents : ℤ}

theorem recurringPeriod_days {month p : Period} {l : Lease} (found : recurringPeriod month l = some (p, fullDays)) :
    p.first ≤ p.last ∨ fullDays = daysBetween p.first p.last := by
  unfold recurringPeriod at found
  cases start : recurringStart month l with
  | none => simp [start] at found
  | some whole =>
    simp only [start] at found
    cases clipped : l.contract.clip whole with
    | none => simp [clipped] at found
    | some q =>
      simp only [clipped] at found
      split at found
      · cases found
      · obtain ⟨rfl, rfl⟩ := Prod.mk.inj (Option.some.inj found)
        have cut : q = whole ∨ q.first ≤ q.last := by
          unfold Contract.clip at clipped
          split at clipped
          · split at clipped
            · cases clipped
            · split at clipped
              · cases clipped
                exact .inr (not_lt.mp ‹_›)
              · exact .inl (Option.some.inj clipped).symm
          · exact .inl (Option.some.inj clipped).symm
        rcases cut with rfl | days
        · unfold recurringStart at start
          by_cases ahead : 1 < l.contract.billingIntervalMonths
          · exact .inr (if_pos ahead)
          · rw [if_neg ahead] at start ⊢
            split at start
            · cases start
            · obtain rfl := Option.some.inj start
              by_cases late : month.first < l.contract.billingStart
              · exact .inl (by simpa [late] using not_lt.mp ‹_›)
              · exact .inr (by simp [late])
        · exact .inl days

theorem factor_nonneg (days : p.first ≤ p.last ∨ fullDays = daysBetween p.first p.last) : 0 ≤ factor p fullDays := by
  unfold factor
  dsimp only
  split
  · exact zero_le_one
  · have billed : 0 ≤ daysBetween p.first p.last := by
      unfold daysBetween at *
      lia
    exact div_nonneg (by exact_mod_cast billed) (by exact_mod_cast billed.trans (by lia))

/-- A contract whose rent is not negative: what the price and the terms of its payment have to be. -/
structure Contract.RentSound (c : Contract) : Prop where
  discount : c.discountAmount ≤ c.priceMonthly
  interval : 1 ≤ c.billingIntervalMonths
  firstPayment : 1 ≤ c.firstPaymentMonths
  prepayDiscount : c.prepayDiscountPct ≤ 100

namespace Contract.RentSound

variable {c : Contract}

theorem fullPrice (sound : c.RentSound) : 0 ≤ c.fullPrice := sub_nonneg.mpr sound.discount

theorem prepaid (sound : c.RentSound) :
    (0 : ℚ) ≤ 1 - (if 1 < c.billingIntervalMonths then c.prepayDiscountPct else 0) / 100 := by
  have pct := sound.prepayDiscount
  split <;> linarith

theorem baseRent (sound : c.RentSound) (days : p.first ≤ p.last ∨ fullDays = daysBetween p.first p.last) :
    0 ≤ c.baseRent p fullDays := by
  unfold Contract.baseRent
  split
  · exact le_refl 0
  · have price : (0 : ℚ) ≤ (c.priceMonthly - c.discountAmount : ℤ) := by exact_mod_cast sound.fullPrice
    have interval : (0 : ℚ) ≤ c.billingIntervalMonths := by exact_mod_cast zero_le_one.trans sound.interval
    apply mathRound_nonneg
    exact mul_nonneg (mul_nonneg (mul_nonneg price interval) sound.prepaid) (factor_nonneg days)

end Contract.RentSound

/-! ### What is taken off the rent -/

theorem claimRewards_le {claimed : ClaimedRewards} {pending : List PendingReferral}
    (fits : claimed.discountCents ≤ rentCents) :
    (claimRewards rentCents claimed pending).discountCents ≤ rentCents := by
  induction pending generalizing claimed with
  | nil => exact fits
  | cons p rest ih =>
    unfold claimRewards
    dsimp only
    generalize (if p.isPercentage then _ else _) = cents
    by_cases skipped : cents ≤ 0 ∨ rentCents < claimed.discountCents + cents
    · rw [if_pos skipped]
      exact ih fits
    · rw [if_neg skipped]
      split
      · exact ih fits
      · exact ih (show claimed.discountCents + cents ≤ rentCents by omega)

theorem claimRewardsForInvoice_le (nonneg : 0 ≤ rentCents) (pending : List PendingReferral) :
    (claimRewardsForInvoice rentCents pending).discountCents ≤ rentCents := by
  unfold claimRewardsForInvoice
  split
  · exact nonneg
  · exact claimRewards_le nonneg

theorem claimContractCredit_le {maxCents : ℤ} (nonneg : 0 ≤ maxCents) (c : Contract) :
    (claimContractCredit maxCents c).1.cents ≤ maxCents := by
  unfold claimContractCredit
  cases read : readContractCredit maxCents c with
  | none => exact nonneg
  | some r =>
    have taken : r.cents ≤ maxCents := by
      unfold readContractCredit at read
      split at read
      · cases read
      · split at read
        · cases read
        · cases read
          exact min_le_right _ _
    dsimp only [takeContractCredit]
    split
    · exact taken
    · exact nonneg

theorem discountLines_nonneg {lines : List RentLine} {remaining : ℤ}
    (nonneg : ∀ line ∈ lines, 0 ≤ line.unitPrice) :
    ∀ line ∈ discountLines remaining lines, 0 ≤ line.unitPrice := by
  induction lines generalizing remaining with
  | nil => exact nonneg
  | cons head rest ih =>
    unfold discountLines
    split
    · exact nonneg
    · intro line mem
      rcases List.mem_cons.mp mem with rfl | mem
      · exact sub_nonneg.mpr (min_le_left _ _)
      · exact ih (fun line mem => nonneg line (List.mem_cons_of_mem _ mem)) line mem

@[simp] theorem length_discountLines (lines : List RentLine) (remaining : ℤ) :
    (discountLines remaining lines).length = lines.length := by
  induction lines generalizing remaining with
  | nil => rfl
  | cons head rest ih =>
    unfold discountLines
    split
    · rfl
    · rw [List.length_cons, ih, List.length_cons]

/-! ### The lines of the invoices -/

def RecurringPlan.rentLines (plan : RecurringPlan) (credit : ClaimedContractCredit) : List RentLine :=
  (plan.draft credit).items.take 1

def FirstInvoicePlan.rentLines (plan : FirstInvoicePlan) (credit : ClaimedContractCredit) : List RentLine :=
  (plan.draft credit).items.take plan.rentLineCount

/-- Every rent line that is computed from a contract is at least zero, whatever credit is found for it when it is
taken. -/
structure Contract.RentLinesNonneg (c : Contract) : Prop where
  recurring : ∀ month series referrals invoices plan,
    recurringPlan month series referrals ⟨c, invoices⟩ = some plan → ∀ found, ∀ line ∈ plan.rentLines (claimContractCredit plan.rentBeforeCredit found).1, 0 ≤ line.unitPrice
  first : ∀ nextMonthFromDay found, ∀ line ∈ (firstInvoicePlan nextMonthFromDay c).rentLines
    (claimContractCredit (firstInvoicePlan nextMonthFromDay c).rentCentsTotal found).1, 0 ≤ line.unitPrice

namespace Contract.RentSound

variable {c : Contract}

theorem recurring (sound : c.RentSound) {month : Period} {series : Bool} {referrals : List PendingReferral}
    {invoices : Table InvoiceId RentInvoice} {plan : RecurringPlan}
    (planned : recurringPlan month series referrals ⟨c, invoices⟩ = some plan) (found : Contract) :
    ∀ line ∈ plan.rentLines (claimContractCredit plan.rentBeforeCredit found).1, 0 ≤ line.unitPrice := by
  unfold recurringPlan at planned
  split at planned
  · obtain ⟨⟨p, fullDays⟩, period, rfl⟩ := Option.map_eq_some_iff.mp planned
    have rent := sound.baseRent (recurringPeriod_days period)
    have reward := claimRewardsForInvoice_le rent referrals
    have credit := claimContractCredit_le (sub_nonneg.mpr reward) found
    intro line mem
    obtain rfl := List.mem_singleton.mp mem
    exact sub_nonneg.mpr credit
  · cases planned

theorem wholeMonths (sound : c.RentSound) {months : ℤ} (covers : 1 ≤ months) :
    ∀ line ∈ (wholeMonthsPlan months c).items.take 1, 0 ≤ line.unitPrice := by
  have price := sound.fullPrice
  intro line mem
  simp only [wholeMonthsPlan] at mem
  split at mem
  · split at mem
    · obtain rfl := List.mem_singleton.mp mem
      exact mul_nonneg price (by omega)
    · obtain rfl := List.mem_singleton.mp mem
      exact sub_nonneg.mpr (min_le_right _ _)
  · obtain rfl := List.mem_singleton.mp mem
    apply mathRound_nonneg
    exact mul_nonneg (by exact_mod_cast mul_nonneg price (by omega)) sound.prepaid

theorem firstMonthPlan_bounds (startDate : Date) (nextMonthFromDay : Option ℤ) :
    0 ≤ (firstMonthPlan startDate nextMonthFromDay).days ∧
      0 ≤ (firstMonthPlan startDate nextMonthFromDay).daysInMonth := by
  have entered := monthOf_spec startDate
  dsimp only [firstMonthPlan, day]
  lia

variable (sound : c.RentSound)
include sound

theorem firstMonth (nextMonthFromDay : Option ℤ) :
    let rentCents := firstMonthCents c.fullPrice (firstMonthPlan c.startDate nextMonthFromDay)
    0 ≤ rentCents.1 ∧ 0 ≤ rentCents.2 := by
  have price := sound.fullPrice
  obtain ⟨days, all⟩ := firstMonthPlan_bounds c.startDate nextMonthFromDay
  generalize firstMonthPlan c.startDate nextMonthFromDay = plan at days all
  dsimp only [firstMonthCents]
  refine ⟨?_, ?_⟩
  · split
    · exact price
    · apply mathRound_nonneg
      exact div_nonneg (mul_nonneg (by exact_mod_cast price) (by exact_mod_cast days)) (by exact_mod_cast all)
  · split
    · exact price
    · exact le_refl 0

theorem monthly (nextMonthFromDay : Option ℤ) :
    ∀ line ∈ (monthlyPlan nextMonthFromDay c).items.take (monthlyPlan nextMonthFromDay c).rentLineCount,
      0 ≤ line.unitPrice := by
  obtain ⟨entry, next⟩ := sound.firstMonth nextMonthFromDay
  intro line mem
  dsimp only [monthlyPlan] at mem
  by_cases both : (firstMonthPlan c.startDate nextMonthFromDay).includesNextMonth = true
  · simp only [both, if_true, List.cons_append, List.nil_append, List.take_succ_cons, List.take_zero,
      List.mem_cons, List.not_mem_nil, or_false] at mem
    rcases mem with rfl | rfl
    · exact entry
    · exact next
  · simp only [both, if_false, Bool.false_eq_true, List.cons_append, List.take_succ_cons, List.take_zero,
      List.mem_cons, List.not_mem_nil, or_false] at mem
    rw [mem]
    exact entry

theorem preOpening : ∀ line ∈ (preOpeningPlan c).items.take 1, 0 ≤ line.unitPrice := by
  intro line mem
  obtain rfl := List.mem_singleton.mp mem
  dsimp only
  split
  · exact sub_nonneg.mpr (min_le_right _ _)
  · exact (sub_zero c.fullPrice).symm ▸ sound.fullPrice

theorem planned (nextMonthFromDay : Option ℤ) :
    ∀ line ∈ (firstInvoicePlan nextMonthFromDay c).items.take (firstInvoicePlan nextMonthFromDay c).rentLineCount,
      0 ≤ line.unitPrice := by
  have covers : 1 ≤ if 1 < c.billingIntervalMonths then c.billingIntervalMonths else c.firstPaymentMonths := by
    have interval := sound.interval
    have firstPayment := sound.firstPayment
    split <;> omega
  unfold firstInvoicePlan
  dsimp only
  generalize (if 1 < c.billingIntervalMonths then _ else _) = months at covers
  split
  · exact sound.preOpening
  · split
    · exact sound.wholeMonths covers
    · exact sound.monthly nextMonthFromDay

omit sound

theorem rentLines_eq (plan : FirstInvoicePlan) (credit : ClaimedContractCredit) :
    plan.rentLines credit = discountLines credit.cents (plan.items.take plan.rentLineCount) := by
  dsimp only [FirstInvoicePlan.rentLines, FirstInvoicePlan.draft]
  rw [List.take_append, length_discountLines, List.length_take]
  rcases le_total plan.rentLineCount plan.items.length with enough | few
  · rw [min_eq_left enough, Nat.sub_self, List.take_zero, List.append_nil, List.take_of_length_le]
    rw [length_discountLines, List.length_take]
    exact min_le_left _ _
  · rw [List.drop_of_length_le few, List.take_nil, List.append_nil, List.take_of_length_le]
    rw [length_discountLines, List.length_take]
    exact min_le_left _ _

theorem rentLinesNonneg (sound : c.RentSound) : c.RentLinesNonneg where
  recurring _ _ _ _ _ planned found := sound.recurring planned found
  first nextMonthFromDay found := by
    rw [rentLines_eq]
    exact discountLines_nonneg (sound.planned nextMonthFromDay)

end Contract.RentSound

end StorageOS
