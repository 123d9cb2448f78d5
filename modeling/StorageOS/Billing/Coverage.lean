import StorageOS.Contracts.Term
import StorageOS.Lib.Transition

/-! The days that automatic billing charges to a monthly contract over any sequence of monthly runs, first invoices
and changes of the end date: each due day is in one invoice. -/

namespace StorageOS

open Gregorian Transition Period

structure RentState where
  lease : Lease
  lastRun : ℤ
  deriving DecidableEq

inductive RentAction
  | generateRecurring (today : Date) (hasDefaultSeries autoIssue : Bool)
      (referrals : List PendingReferral)
  | issueIfMissing (nextMonthFromDay : Option ℤ) (hasDefaultSeries issues : Bool)
  | requestEnd (today : Date) (endDate : Option Date)
  | requestEndByCustomer (today endDate : Date)
  | changeMoveOutDateByCustomer (today endDate : Date)
  | cancelMoveOutByCustomer (today : Date)
  | renew (today : Date) (months : ℤ)
  | autoRenewDue (today : Date)

def RentState.onContract (s : RentState) (c : Outcome Contract) : Option RentState :=
  c.toOption.map fun c => { s with lease := { s.lease with contract := c } }

/-- An operation on the contract, `none` when it is refused. The jobs in the queue carry no period of
their own. -/
def rentStep (s : RentState) : RentAction → Option RentState
  | .generateRecurring today hasDefaultSeries autoIssue referrals =>
    some ⟨processGenerateRecurring (resolvePeriod today none) hasDefaultSeries autoIssue referrals
      s.lease, monthOf today⟩
  | .issueIfMissing nextMonthFromDay hasDefaultSeries issues =>
    some { s with lease := issueIfMissing nextMonthFromDay hasDefaultSeries issues s.lease }
  | .requestEnd today endDate => s.onContract (requestEnd today endDate s.lease.contract)
  | .requestEndByCustomer today endDate =>
    s.onContract (requestEndByCustomer today endDate s.lease.contract)
  | .changeMoveOutDateByCustomer today endDate =>
    s.onContract (changeMoveOutDateByCustomer today endDate s.lease.contract)
  | .cancelMoveOutByCustomer today => s.onContract (cancelMoveOutByCustomer today s.lease.contract)
  | .renew today months => s.onContract (renew today months s.lease.contract)
  | .autoRenewDue today => s.onContract (.ok (autoRenewDue today s.lease.contract))

def RentInvoice.isLive (i : RentInvoice) : Bool :=
  i.kind = .invoice && i.status ≠ .cancelled && i.deletedAt.isNone

def Lease.timesBilled (l : Lease) (d : Date) : ℕ :=
  l.invoices.values.countP fun i => i.isLive && i.period.any fun p => p.first ≤ d && d ≤ p.last

def RentState.lastRunEnd (s : RentState) : Date := monthStart (s.lastRun + 1) - 1

def untilEnd (endDate : Option Date) (d : Date) : Date :=
  match endDate with
  | some e => min e d
  | none => d

def RentAction.newEndDate (c : Contract) : RentAction → Option Date
  | .requestEnd today endDate => some (endDate.getD (today + c.cancellationNoticeDays))
  | .requestEndByCustomer _ endDate => some endDate
  | .changeMoveOutDateByCustomer _ endDate => some endDate
  | .cancelMoveOutByCustomer today => endDateAfterCancellingMoveOut today c.endDateBeforeEnding
  | .renew today months => some (c.renewedEndDate today months)
  | .autoRenewDue today => c.endDateAfterRenewal today
  | _ => c.endDate

def Lease.rentPeriods (l : Lease) : List Period :=
  l.invoices.values.filterMap fun i => if i.isLive then i.period else none

def Lease.billedUpTo (l : Lease) (d : Date) : Bool :=
  d < l.contract.billingStart || l.rentPeriods.any fun p => d ≤ p.last

def Contract.endsBy (c : Contract) (newEnd : Option Date) : Bool :=
  c.endDate.all fun e => newEnd.any fun e' => e' ≤ e

/-- The end moves earlier, or over days of past runs that are billed. -/
def RentState.keepsBilled (s : RentState) (newEnd : Option Date) : Bool :=
  s.lease.contract.endsBy newEnd || s.lease.billedUpTo (untilEnd newEnd s.lastRunEnd)

/-- Runs come in each month, in order, and find the series they bill with. -/
def monthlyRuns (s : RentState) : RentAction → Bool
  | .generateRecurring today hasDefaultSeries _ _ =>
    s.lastRun ≤ monthOf today && monthOf today ≤ s.lastRun + 1 && hasDefaultSeries
  | _ => true

/-- The condition on an operation: monthly runs, and no end date moved over days left unbilled. -/
def rentOk (s : RentState) (a : RentAction) : Bool :=
  monthlyRuns s a && s.keepsBilled (a.newEndDate s.lease.contract)

/-- A monthly contract that is billed by the application and has no invoice of a period, before the
run of the month in which its billing starts. -/
structure RentState.Fresh (s : RentState) : Prop where
  billed : s.lease.contract.isBilled = true
  monthly : s.lease.contract.billingIntervalMonths = 1
  unbilled : ∀ i ∈ s.lease.invoices.values, i.period = none
  ahead : s.lastRunEnd < s.lease.contract.billingStart

/-! ### What a run bills -/

theorem Lease.timesBilled_eq (l : Lease) (d : Date) : l.timesBilled d = times l.rentPeriods d := by
  rw [times, Lease.rentPeriods, List.countP_filterMap, Lease.timesBilled]
  congr 1
  funext i
  cases i.isLive <;> cases i.period <;> simp

theorem untilEnd_le (endDate : Option Date) (d : Date) : untilEnd endDate d ≤ d := by
  cases endDate with
  | none => exact le_refl d
  | some e => exact min_le_right e d

variable {endDate : Option Date} {d : Date} {month : Period} {referrals : List PendingReferral} {c : Contract}

theorem le_untilEnd {d m : Date} :
    d ≤ untilEnd endDate m ↔ (∀ e ∈ endDate, d ≤ e) ∧ d ≤ m := by
  cases endDate <;> simp [untilEnd]

theorem Contract.billingStart_eq (c : Contract) : c.billingStart =
    match c.billingStartsOn with
    | some billingFrom => max c.startDate billingFrom
    | none => c.startDate := by
  unfold Contract.billingStart
  cases c.billingStartsOn with
  | none => rfl
  | some billingFrom =>
    dsimp only
    split <;> lia

theorem Contract.startDate_le_billingStart (c : Contract) : c.startDate ≤ c.billingStart := by
  rw [c.billingStart_eq]
  cases c.billingStartsOn with
  | none => exact le_refl _
  | some billingFrom => exact le_max_left _ _

theorem untilEnd_of_lt (h : untilEnd endDate d < d) :
    untilEnd endDate d ∈ endDate := by
  cases endDate with
  | none => exact absurd h (lt_irrefl d)
  | some e =>
    unfold untilEnd at h ⊢
    exact congrArg some (by lia)

variable {p : Period} {l : Lease} {k : ℤ}

theorem Contract.clip_eq (c : Contract) (nonempty : p.first ≤ p.last) :
    c.clip p = if untilEnd c.endDate p.last < p.first then none
      else some ⟨p.first, untilEnd c.endDate p.last⟩ := by
  obtain ⟨first, last⟩ := p
  unfold Contract.clip untilEnd
  cases c.endDate with
  | none => exact (if_neg (not_lt.mpr nonempty)).symm
  | some e =>
    dsimp only at nonempty ⊢
    by_cases before : e < first
    · rw [if_pos before, if_pos (by lia)]
    · rw [if_neg before]
      by_cases cuts : e < last
      · rw [if_pos cuts, if_neg (by lia), min_eq_left cuts.le]
      · rw [if_neg cuts, if_neg (by lia), min_eq_right (not_lt.mp cuts)]

def Lease.monthPeriod (l : Lease) (month : Period) : Period :=
  ⟨max month.first l.contract.billingStart, untilEnd l.contract.endDate month.last⟩

theorem recurringPeriod_monthly (h : month.first ≤ month.last) (monthly : l.contract.billingIntervalMonths = 1) :
    recurringPeriod month l =
      if month.last < l.contract.billingStart then none
      else if (l.monthPeriod month).last < (l.monthPeriod month).first then none
      else if l.already (l.monthPeriod month) then none
      else some (l.monthPeriod month, daysBetween month.first month.last) := by
  unfold recurringPeriod recurringStart
  simp only [monthly, lt_irrefl, if_false]
  by_cases later : month.last < l.contract.billingStart
  · simp only [if_pos later]
  · have start : (if month.first < l.contract.billingStart then l.contract.billingStart
        else month.first) = max month.first l.contract.billingStart := by
      rcases lt_or_ge month.first l.contract.billingStart with before | after
      · rw [if_pos before, max_eq_right before.le]
      · rw [if_neg (not_lt.mpr after), max_eq_left after]
    simp only [if_neg later, start]
    have clipped : l.contract.clip ⟨max month.first l.contract.billingStart, month.last⟩ =
        if (l.monthPeriod month).last < (l.monthPeriod month).first then none
        else some (l.monthPeriod month) := Contract.clip_eq _ (max_le h (not_lt.mp later))
    rw [clipped]
    by_cases empty : (l.monthPeriod month).last < (l.monthPeriod month).first
    · rw [if_pos empty, if_pos empty]
    · rw [if_neg empty, if_neg empty]

theorem claimContractCredit_continues (maxCents : ℤ) (c : Contract) :
    c.Continues (claimContractCredit maxCents c).2 ∧
      (claimContractCredit maxCents c).2.endDate = c.endDate := by
  unfold claimContractCredit
  cases readContractCredit maxCents c with
  | none => exact ⟨⟨rfl, rfl, rfl, id⟩, rfl⟩
  | some read =>
    dsimp only [takeContractCredit]
    split <;> exact ⟨⟨rfl, rfl, rfl, id⟩, rfl⟩

theorem Lease.rentPeriods_push (c c' : Contract) (t : Table InvoiceId RentInvoice)
    (i : RentInvoice) :
    (Lease.mk c' (t.push i)).rentPeriods =
      (Lease.mk c t).rentPeriods ++ if i.isLive then i.period.toList else [] := by
  simp only [Lease.rentPeriods, Table.values_push, List.filterMap_append, List.filterMap_cons,
    List.filterMap_nil]
  cases i.isLive <;> cases i.period <;> rfl

/-- A run adds one invoice in force, for the period it found, and moves no date. -/
theorem processGenerateRecurring_some {month p : Period} {fullDays : ℤ} (autoIssue : Bool)
    (billed : l.contract.isBilled = true) (found : recurringPeriod month l = some (p, fullDays)) :
    ∃ l', processGenerateRecurring month true autoIssue referrals l = l' ∧
      l.contract.Continues l'.contract ∧ l'.contract.endDate = l.contract.endDate ∧
      ∃ i : RentInvoice, i.isLive = true ∧ i.period = some p ∧
        l'.invoices = l.invoices.push i := by
  refine ⟨_, rfl, ?_⟩
  simp only [processGenerateRecurring, recurringPlan, billed, found, Bool.and_self, if_true,
    Option.map_some]
  generalize RecurringPlan.rentBeforeCredit _ = maxCents
  obtain ⟨continues, sameEnd⟩ := claimContractCredit_continues maxCents l.contract
  refine ⟨?_, ?_, _, ?_, ?_, rfl⟩
  · unfold Contract.useFreeMonth
    split
    · exact ⟨continues.startDate, continues.billingStartsOn, continues.billingIntervalMonths,
        continues.billed⟩
    · exact continues
  · unfold Contract.useFreeMonth
    split <;> exact sameEnd
  · cases autoIssue <;> rfl
  · cases autoIssue <;> rfl

theorem processGenerateRecurring_none (autoIssue : Bool) (found : recurringPeriod month l = none) :
    processGenerateRecurring month true autoIssue referrals l = l := by
  simp [processGenerateRecurring, recurringPlan, found]

def MonthEnd (d : Date) : Prop := ∃ k, d + 1 = monthStart k

theorem firstMonthPlan_ends (start : Date) (nextMonthFromDay : Option ℤ) :
    (firstMonthPlan start nextMonthFromDay).periodEnd + 1 =
        (firstMonthPlan start nextMonthFromDay).billingStartsOn ∧
      MonthEnd (firstMonthPlan start nextMonthFromDay).periodEnd := by
  unfold firstMonthPlan
  dsimp only
  generalize (!day start == 1 && _) = includesNextMonth
  cases includesNextMonth with
  | true => exact ⟨Int.sub_add_cancel _ _, _, Int.sub_add_cancel _ _⟩
  | false => exact ⟨Int.sub_add_cancel _ _, _, Int.sub_add_cancel _ _⟩

theorem firstInvoicePlan_monthly (nextMonthFromDay : Option ℤ) (started : c.isPendingPreOpening = false)
    (monthly : c.billingIntervalMonths = 1) :
    ∃ last, (firstInvoicePlan nextMonthFromDay c).period = some ⟨c.startDate, last⟩ ∧
      ((firstInvoicePlan nextMonthFromDay c).billingStartsOn = some (last + 1) ∨
        (firstInvoicePlan nextMonthFromDay c).billingStartsOn = none ∧ MonthEnd last) := by
  unfold firstInvoicePlan
  simp only [started, monthly, lt_irrefl, if_false, Bool.false_eq_true]
  split
  · exact ⟨_, rfl, .inl (if_pos monthly)⟩
  · obtain ⟨next, monthEnd⟩ := firstMonthPlan_ends c.startDate nextMonthFromDay
    refine ⟨_, rfl, ?_⟩
    unfold monthlyPlan
    dsimp only
    split
    · exact .inl (by rw [next])
    · exact .inr ⟨rfl, monthEnd⟩

/-- The first invoice is added to no other, is in force, starts with the contract, and moves no end
date. The monthly job goes on after it, or with the month after. -/
structure FirstInvoiced (l l' : Lease) (last : Date) : Prop where
  alone : ∀ i ∈ l.invoices.values, i.deletedAt.isSome = true
  billed : l'.contract.isBilled = true
  monthly : l'.contract.billingIntervalMonths = 1
  startDate : l'.contract.startDate = l.contract.startDate
  endDate : l'.contract.endDate = l.contract.endDate
  invoices : ∀ i ∈ l'.invoices.values, i ∈ l.invoices.values ∨ i.period = none ∨ i.isLive = true
  periods : l'.rentPeriods = l.rentPeriods ++ [⟨l.contract.startDate, last⟩]
  resumes : l'.contract.billingStartsOn = some (last + 1) ∨
    l'.contract.billingStartsOn = l.contract.billingStartsOn ∧ MonthEnd last

theorem issueIfMissing_cases (nextMonthFromDay : Option ℤ) (hasDefaultSeries issues : Bool)
    (billed : l.contract.isBilled = true) (monthly : l.contract.billingIntervalMonths = 1) :
    issueIfMissing nextMonthFromDay hasDefaultSeries issues l = l ∨
      ∃ last, FirstInvoiced l (issueIfMissing nextMonthFromDay hasDefaultSeries issues l) last := by
  unfold issueIfMissing firstPlan
  by_cases skips : ((l.invoices.values.any fun i => i.deletedAt.isNone) || !hasDefaultSeries) = true
  · exact .inl (by rw [if_pos skips])
  · rw [if_neg skips]
    right
    have alone : ∀ i ∈ l.invoices.values, i.deletedAt.isSome = true := by
      intro i mem
      by_contra kept
      exact skips (by simp only [Bool.or_eq_true, List.any_eq_true]; exact .inl ⟨i, mem, by simpa using kept⟩)
    have started : l.contract.isPendingPreOpening = false := by
      unfold Contract.isBilled at billed
      simp only [Bool.and_eq_true, Bool.not_eq_true'] at billed
      exact billed.2
    obtain ⟨last, period, resumes⟩ := firstInvoicePlan_monthly nextMonthFromDay started monthly
    dsimp only
    generalize firstInvoicePlan nextMonthFromDay l.contract = plan at period resumes ⊢
    obtain ⟨continues, sameEnd⟩ := claimContractCredit_continues plan.rentCentsTotal l.contract
    generalize claimContractCredit plan.rentCentsTotal l.contract = claimed at continues sameEnd ⊢
    have live : (if issues then { plan.draft claimed.1 with status := .issued }
        else plan.draft claimed.1).isLive = true := by cases issues <;> rfl
    have itsPeriod : (if issues then { plan.draft claimed.1 with status := .issued }
        else plan.draft claimed.1).period = some ⟨l.contract.startDate, last⟩ := by
      cases issues <;> exact period
    generalize (if issues then { plan.draft claimed.1 with status := .issued }
        else plan.draft claimed.1) = first at live itsPeriod ⊢
    refine ⟨last, alone, continues.billed billed, continues.billingIntervalMonths.trans monthly,
      continues.startDate, sameEnd, ?_, ?_, ?_⟩
    · intro i mem
      split at mem
      · simp only [Table.values_push, List.mem_append, List.mem_singleton] at mem
        rcases mem with (mem | rfl) | rfl
        · exact .inl mem
        · exact .inr (.inr live)
        · exact .inr (.inl rfl)
      · simp only [Table.values_push, List.mem_append, List.mem_singleton] at mem
        rcases mem with mem | rfl
        · exact .inl mem
        · exact .inr (.inr live)
    · split
      · rw [Lease.rentPeriods_push claimed.2, Lease.rentPeriods_push l.contract, if_pos live, itsPeriod]
        exact List.append_nil _
      · rw [Lease.rentPeriods_push l.contract, if_pos live, itsPeriod]
        rfl
    · rcases resumes with resumes | ⟨resumes, monthEnd⟩
      · exact .inl (by simp [FirstInvoicePlan.deferBilling, resumes])
      · exact .inr ⟨by simp [FirstInvoicePlan.deferBilling, resumes, continues.billingStartsOn],
          monthEnd⟩

/-! ### The days billed so far -/

theorem monthStart_le {j k : ℤ} (h : j ≤ k) : monthStart j ≤ monthStart k :=
  not_lt.mp fun before => absurd (monthStart_lt_iff.mp before) (not_lt.mpr h)

/-- Why nothing is due right after an invoice but not billed: its period ends with a month, billing
goes on later, or it was cut by the end of the contract and no invoice goes further. -/
def RentState.Closed (s : RentState) (p : Period) : Prop :=
  MonthEnd p.last ∨ p.last < s.lease.contract.billingStart ∨
    (∃ e ∈ s.lease.contract.endDate, e ≤ p.last) ∧ p.last ≤ s.lastRunEnd ∧
      ∀ q ∈ s.lease.rentPeriods, q.last ≤ p.last

/-- From `start` on, the days up to `last` are billed once and the later ones are not, and what is
due of the months of past runs is billed. -/
structure Covered (start : Date) (s : RentState) (last : Date) : Prop where
  billed : s.lease.contract.isBilled = true
  monthly : s.lease.contract.billingIntervalMonths = 1
  live : ∀ i ∈ s.lease.invoices.values, i.period = none ∨ i.isLive = true
  begins : s.lease.contract.startDate ≤ start
  tiles : Tiles start last s.lease.rentPeriods
  from_start : start ≤ last + 1
  resumes : s.lease.contract.billingStart ≤ last + 1
  ends : ∀ p ∈ s.lease.rentPeriods, p.last ≤ last
  firsts : ∀ p ∈ s.lease.rentPeriods,
    p.first ≤ max (monthStart s.lastRun) s.lease.contract.billingStart
  closed : ∀ p ∈ s.lease.rentPeriods, s.Closed p
  due : ∀ d, start ≤ d → (∀ e ∈ s.lease.contract.endDate, d ≤ e) → d ≤ s.lastRunEnd → d ≤ last

section

variable {start last : Date} {s : RentState}

theorem covered_fresh (fresh : s.Fresh) :
    Covered s.lease.contract.billingStart s (s.lease.contract.billingStart - 1) := by
  have none_yet : s.lease.rentPeriods = [] := by
    rw [Lease.rentPeriods, List.filterMap_eq_nil_iff]
    intro i mem
    rw [fresh.unbilled i mem, ite_self]
  have ahead := fresh.ahead
  refine ⟨fresh.billed, fresh.monthly, fun i mem => .inl (fresh.unbilled i mem), ?_, ?_, ?_, ?_,
    ?_, ?_, ?_, ?_⟩
  · exact s.lease.contract.startDate_le_billingStart
  · rw [none_yet]
    exact Tiles.nil (by lia)
  · lia
  · lia
  · simp [none_yet]
  · simp [none_yet]
  · simp [none_yet]
  · intro d from_start _ past
    lia

variable (covered : Covered start s last)
include covered

theorem Covered.already_iff (p : Period) : s.lease.already p = true ↔ ∃ q ∈ s.lease.rentPeriods, q.Overlaps p := by
  simp only [Lease.already, List.any_eq_true, Lease.rentPeriods, List.mem_filterMap]
  constructor
  · rintro ⟨i, mem, h⟩
    simp only [Bool.and_eq_true, Option.any_eq_true, decide_eq_true_eq] at h
    obtain ⟨_, q, period, overlaps⟩ := h
    rcases covered.live i mem with unset | live
    · rw [unset] at period
      cases period
    · exact ⟨q, ⟨i, mem, by rw [if_pos live, period]⟩, overlaps⟩
  · rintro ⟨q, ⟨i, mem, h⟩, overlaps⟩
    split at h
    · rename_i live
      refine ⟨i, mem, ?_⟩
      unfold RentInvoice.isLive at live
      simp only [Bool.and_eq_true] at live
      simp [live.2, h, overlaps]
    · cases h

/-- The days that are due up to the end of a month lie before a first day that is no later than the
start of billing or the start of a month that follows the runs. -/
theorem Covered.due_before {d first : Date} (from_start : start ≤ d) (first_le : first ≤ s.lastRunEnd + 1)
    (before : d < max first s.lease.contract.billingStart) (untilItsEnd : ∀ e ∈ s.lease.contract.endDate, d ≤ e) :
    d ≤ last := by
  have resumes := covered.resumes
  rcases lt_max_iff.mp before with early | early
  · exact covered.due d from_start untilItsEnd (by lia)
  · lia

theorem Covered.due_reached (mem : p ∈ s.lease.rentPeriods) (in_month : monthStart k ≤ p.last)
    (in_force : s.lease.contract.billingStart ≤ p.last) (past : d < monthStart (k + 1))
    (untilItsEnd : ∀ e ∈ s.lease.contract.endDate, d ≤ e) : d ≤ last := by
  have reached := covered.ends p mem
  rcases covered.closed p mem with ⟨j, monthEnd⟩ | before | ⟨⟨e, hasEnd, cut⟩, -, -⟩
  · have later : k < j := monthStart_lt_iff.mp (by lia)
    have := monthStart_le (show k + 1 ≤ j by omega)
    lia
  · lia
  · have := untilItsEnd e hasEnd
    lia

/-! ### Steps -/

omit covered in
theorem months_around (le_next : k ≤ s.lastRun + 1) (next_le : s.lastRun ≤ k) :
    monthStart s.lastRun ≤ monthStart k ∧ monthStart k ≤ s.lastRunEnd + 1 ∧
      s.lastRunEnd ≤ monthStart (k + 1) - 1 := by
  have behind := monthStart_le le_next
  have later := monthStart_le (show s.lastRun + 1 ≤ k + 1 by omega)
  refine ⟨monthStart_le next_le, ?_, ?_⟩
  · unfold RentState.lastRunEnd
    lia
  · unfold RentState.lastRunEnd
    lia

theorem Covered.run_none (le_next : k ≤ s.lastRun + 1) (next_le : s.lastRun ≤ k)
    (found : recurringPeriod ⟨monthStart k, monthStart (k + 1) - 1⟩ s.lease = none) :
    Covered start ⟨s.lease, k⟩ last := by
  have month := monthStart_succ k
  obtain ⟨ahead, first_le, later⟩ := months_around le_next next_le
  refine ⟨covered.billed, covered.monthly, covered.live, covered.begins, covered.tiles,
    covered.from_start, covered.resumes, covered.ends, ?_, ?_, ?_⟩
  · intro p mem
    exact (covered.firsts p mem).trans (max_le_max_right _ ahead)
  · intro p mem
    exact (covered.closed p mem).imp_right (Or.imp_right fun ⟨cut, past, furthest⟩ =>
      ⟨cut, past.trans later, furthest⟩)
  · intro d from_start untilItsEnd past
    change d ≤ monthStart (k + 1) - 1 at past
    rw [recurringPeriod_monthly (by dsimp only; omega) covered.monthly] at found
    split_ifs at found with notYet empty already
    · have resumes := covered.resumes
      dsimp only at notYet
      lia
    · refine covered.due_before from_start first_le ?_ untilItsEnd
      exact (le_untilEnd.mpr ⟨untilItsEnd, past⟩).trans_lt empty
    · obtain ⟨p, mem, -, reaches⟩ := (covered.already_iff _).mp already
      have reaches := max_le_iff.mp reaches
      exact covered.due_reached mem reaches.1 reaches.2 (by lia) untilItsEnd

theorem Covered.run_some {k fullDays : ℤ} {i : RentInvoice} (le_next : k ≤ s.lastRun + 1) (next_le : s.lastRun ≤ k)
    (found : recurringPeriod ⟨monthStart k, monthStart (k + 1) - 1⟩ s.lease = some (p, fullDays))
    (continues : s.lease.contract.Continues l.contract) (sameEnd : l.contract.endDate = s.lease.contract.endDate)
    (live : i.isLive = true) (period : i.period = some p) (pushed : l.invoices = s.lease.invoices.push i) :
    Covered start ⟨l, k⟩ (max last p.last) := by
  have month := monthStart_succ k
  obtain ⟨ahead, first_le, later⟩ := months_around le_next next_le
  have sameStart := continues.billingStart
  have periods : l.rentPeriods = s.lease.rentPeriods ++ [p] := by
    obtain ⟨c, t⟩ := l
    dsimp only at pushed
    rw [pushed, Lease.rentPeriods_push s.lease.contract, if_pos live, period]
    rfl
  rw [recurringPeriod_monthly (by dsimp only; omega) covered.monthly] at found
  split_ifs at found with notYet empty already
  cases found
  rw [covered.already_iff] at already
  have apart : ∀ q ∈ s.lease.rentPeriods, ¬q.Overlaps (s.lease.monthPeriod _) :=
    fun q mem overlaps => already ⟨q, mem, overlaps⟩
  -- The invoices in force start no later than the new one, so none of them goes further.
  have furthest : ∀ q ∈ s.lease.rentPeriods,
      q.last ≤ untilEnd s.lease.contract.endDate (monthStart (k + 1) - 1) := by
    intro q mem
    by_contra further
    have first := (covered.firsts q mem).trans (max_le_max_right _ ahead)
    refine apart q mem ⟨first.trans (not_lt.mp empty), ?_⟩
    exact (not_lt.mp empty).trans (not_le.mp further).le
  have lastDay := untilEnd_le s.lease.contract.endDate (monthStart (k + 1) - 1)
  refine ⟨continues.billed covered.billed, continues.billingIntervalMonths.trans covered.monthly,
    ?_, ?_, ?_, ?_, ?_, ?_, ?_, ?_, ?_⟩
  · intro j mem
    dsimp only at mem
    rw [pushed, Table.values_push, List.mem_append, List.mem_singleton] at mem
    rcases mem with mem | rfl
    · exact covered.live j mem
    · exact .inr live
  · exact continues.startDate.le.trans covered.begins
  · dsimp only
    rw [periods]
    refine covered.tiles.concat apart fun d from_start before => ?_
    refine covered.due_before from_start first_le before fun e hasEnd => ?_
    exact (le_untilEnd.mp (before.le.trans (not_lt.mp empty))).1 e hasEnd
  · exact covered.from_start.trans (by lia)
  · rw [sameStart]
    exact covered.resumes.trans (by lia)
  · intro q mem
    dsimp only at mem
    rw [periods, List.mem_append, List.mem_singleton] at mem
    rcases mem with mem | rfl
    · exact (covered.ends q mem).trans (le_max_left _ _)
    · exact le_max_right _ _
  · intro q mem
    dsimp only at mem ⊢
    rw [sameStart]
    rw [periods, List.mem_append, List.mem_singleton] at mem
    rcases mem with mem | rfl
    · exact (covered.firsts q mem).trans (max_le_max_right _ ahead)
    · exact le_refl _
  · intro q mem
    unfold RentState.Closed
    dsimp only at mem ⊢
    rw [periods, List.mem_append, List.mem_singleton] at mem
    rw [sameStart, sameEnd, periods]
    rcases mem with mem | rfl
    · refine (covered.closed q mem).imp_right (Or.imp_right ?_)
      rintro ⟨⟨e, hasEnd, cut⟩, past, beyond⟩
      refine ⟨⟨e, hasEnd, cut⟩, past.trans later, ?_⟩
      intro r among
      rw [List.mem_append, List.mem_singleton] at among
      rcases among with among | rfl
      · exact beyond r among
      · exact ((le_untilEnd.mp (le_refl _)).1 e hasEnd).trans cut
    · rcases lastDay.lt_or_eq with cut | whole
      · refine .inr (.inr ⟨?_, lastDay, ?_⟩)
        · exact ⟨_, untilEnd_of_lt cut, le_refl _⟩
        · intro r among
          rw [List.mem_append, List.mem_singleton] at among
          rcases among with among | rfl
          · exact furthest r among
          · exact le_refl _
      · exact .inl ⟨k + 1, by simp only [Lease.monthPeriod, whole, sub_add_cancel]⟩
  · intro d from_start untilItsEnd past
    dsimp only at untilItsEnd past
    rw [sameEnd] at untilItsEnd
    exact (le_untilEnd.mpr ⟨untilItsEnd, past⟩).trans (le_max_right _ _)

theorem Covered.issueIfMissing {firstLast : Date} (issued : FirstInvoiced s.lease l firstLast) :
    Covered start { s with lease := l } (max last firstLast) := by
  have none_before : s.lease.rentPeriods = [] := by
    rw [Lease.rentPeriods, List.filterMap_eq_nil_iff]
    intro i mem
    obtain ⟨time, deleted⟩ := Option.isSome_iff_exists.mp (issued.alone i mem)
    unfold RentInvoice.isLive
    rw [if_neg (by simp [deleted])]
  have periods : l.rentPeriods = [⟨s.lease.contract.startDate, firstLast⟩] := by
    rw [issued.periods, none_before, List.nil_append]
  have begins := covered.begins
  have resumes : l.contract.billingStart ≤ max last firstLast + 1 ∧
      l.contract.startDate ≤ l.contract.billingStart ∧
      (MonthEnd firstLast ∨ firstLast < l.contract.billingStart) := by
    have from_start := covered.from_start
    have sameStart := issued.startDate
    rcases issued.resumes with after | ⟨same, monthEnd⟩
    · have next := Contract.billingStart_eq l.contract
      rw [after] at next
      dsimp only at next
      exact ⟨by lia, by lia, .inr (by lia)⟩
    · have unmoved : l.contract.billingStart = s.lease.contract.billingStart := by
        rw [Contract.billingStart, Contract.billingStart, same, sameStart]
      have := covered.resumes
      have := l.contract.startDate_le_billingStart
      exact ⟨by lia, this, .inl monthEnd⟩
  refine ⟨issued.billed, issued.monthly, ?_, issued.startDate.le.trans begins, ?_,
    covered.from_start.trans (by lia), resumes.1, ?_, ?_, ?_, ?_⟩
  · intro i mem
    rcases issued.invoices i mem with before | unset | live
    · exact covered.live i before
    · exact .inl unset
    · exact .inr live
  · dsimp only
    rw [periods]
    have tiles := covered.tiles
    rw [none_before] at tiles
    refine tiles.concat (by simp) fun d from_start before => ?_
    dsimp only at before
    lia
  · intro p mem
    dsimp only at mem
    rw [periods, List.mem_singleton] at mem
    rw [mem]
    exact le_max_right _ _
  · intro p mem
    dsimp only at mem ⊢
    rw [periods, List.mem_singleton] at mem
    rw [mem]
    exact (issued.startDate.symm.le.trans resumes.2.1).trans (le_max_right _ _)
  · intro p mem
    dsimp only at mem
    rw [periods, List.mem_singleton] at mem
    rw [mem]
    exact resumes.2.2.imp_right Or.inl
  · intro d from_start untilItsEnd past
    dsimp only at untilItsEnd
    rw [issued.endDate] at untilItsEnd
    exact (covered.due d from_start untilItsEnd past).trans (le_max_left _ _)

omit covered in
theorem keepsBilled_iff {newEnd : Option Date} :
    s.keepsBilled newEnd = true ↔
      (∀ e ∈ s.lease.contract.endDate, ∃ e' ∈ newEnd, e' ≤ e) ∨
        (untilEnd newEnd s.lastRunEnd < s.lease.contract.billingStart ∨
          ∃ p ∈ s.lease.rentPeriods, untilEnd newEnd s.lastRunEnd ≤ p.last) := by
  unfold RentState.keepsBilled Contract.endsBy Lease.billedUpTo
  cases s.lease.contract.endDate <;> cases newEnd <;> simp

theorem Covered.moveEnd (continues : s.lease.contract.Continues c) (kept : s.keepsBilled c.endDate = true) :
    Covered start { s with lease := { s.lease with contract := c } } last := by
  have sameStart := continues.billingStart
  have resumes := covered.resumes
  refine ⟨continues.billed covered.billed, continues.billingIntervalMonths.trans covered.monthly,
    covered.live, continues.startDate.le.trans covered.begins, covered.tiles, covered.from_start,
    sameStart.le.trans covered.resumes, covered.ends, ?_, ?_, ?_⟩
  · intro p mem
    dsimp only
    rw [sameStart]
    exact covered.firsts p mem
  · intro p mem
    unfold RentState.Closed
    dsimp only
    rw [sameStart]
    rcases covered.closed p mem with monthEnd | early | ⟨⟨e, hasEnd, cut⟩, past, furthest⟩
    · exact .inl monthEnd
    · exact .inr (.inl early)
    -- The end cut this period: it can move only up to it, unless the runs go no further.
    have unless_further (h : untilEnd c.endDate s.lastRunEnd ≤ p.last) : MonthEnd p.last ∨
        p.last < s.lease.contract.billingStart ∨ (∃ e ∈ c.endDate, e ≤ p.last) ∧
          p.last ≤ s.lastRunEnd ∧ ∀ q ∈ s.lease.rentPeriods, q.last ≤ p.last := by
      rcases (untilEnd_le c.endDate s.lastRunEnd).lt_or_eq with moved | whole
      · exact .inr (.inr ⟨⟨_, untilEnd_of_lt moved, h⟩, past, furthest⟩)
      · have same : p.last = s.lastRunEnd := le_antisymm past (whole ▸ h)
        exact .inl ⟨s.lastRun + 1, same ▸ sub_add_cancel _ _⟩
    rcases keepsBilled_iff.mp kept with earlier | ⟨before | ⟨q, among, reaches⟩⟩
    · obtain ⟨e', newEnd, le⟩ := earlier e hasEnd
      exact .inr (.inr ⟨⟨e', newEnd, le.trans cut⟩, past, furthest⟩)
    · rcases le_or_gt (untilEnd c.endDate s.lastRunEnd) p.last with h | further
      · exact unless_further h
      · exact .inr (.inl (further.trans before))
    · exact unless_further (reaches.trans (furthest q among))
  · intro d from_start untilItsEnd past
    dsimp only at untilItsEnd
    have reached : d ≤ untilEnd c.endDate s.lastRunEnd := le_untilEnd.mpr ⟨untilItsEnd, past⟩
    rcases keepsBilled_iff.mp kept with earlier | ⟨before | ⟨q, among, reaches⟩⟩
    · refine covered.due d from_start (fun e hasEnd => ?_) past
      obtain ⟨e', newEnd, le⟩ := earlier e hasEnd
      exact (untilItsEnd e' newEnd).trans le
    · lia
    · exact (reached.trans reaches).trans (covered.ends q among)

theorem covered_step {a : RentAction} {t : RentState} (ok : rentOk s a = true) (h : rentStep s a = some t) :
    ∃ last, Covered start t last := by
  unfold rentOk at ok
  rw [Bool.and_eq_true] at ok
  obtain ⟨monthly, kept⟩ := ok
  -- A request on the contract that is granted replaces the contract.
  have moved {c : Outcome Contract} (request : s.onContract c = some t)
      (granted : ∀ c', c = .ok c' → s.lease.contract.Continues c' ∧
        c'.endDate = a.newEndDate s.lease.contract) : ∃ last, Covered start t last := by
    unfold RentState.onContract at request
    rw [Option.map_eq_some_iff] at request
    obtain ⟨c', ok, rfl⟩ := request
    obtain ⟨continues, newEnd⟩ := granted c' (Outcome.ok_of_toOption ok)
    exact ⟨last, covered.moveEnd continues (newEnd ▸ kept)⟩
  cases a with
  | generateRecurring today hasDefaultSeries autoIssue referrals =>
    cases h
    simp only [monthlyRuns, Bool.and_eq_true, decide_eq_true_eq] at monthly
    obtain ⟨⟨next_le, le_next⟩, rfl⟩ := monthly
    change ∃ last, Covered start ⟨processGenerateRecurring
      ⟨monthStart (monthOf today), monthStart (monthOf today + 1) - 1⟩ _ _ _ _, _⟩ last
    cases found : recurringPeriod ⟨monthStart (monthOf today), monthStart (monthOf today + 1) - 1⟩
        s.lease with
    | none =>
      rw [processGenerateRecurring_none autoIssue found]
      exact ⟨last, covered.run_none le_next next_le found⟩
    | some billed =>
      obtain ⟨p, fullDays⟩ := billed
      obtain ⟨l, same, continues, sameEnd, i, live, period, pushed⟩ :=
        processGenerateRecurring_some autoIssue covered.billed found
      rw [same]
      exact ⟨_, covered.run_some le_next next_le found continues sameEnd live period pushed⟩
  | issueIfMissing nextMonthFromDay hasDefaultSeries issues =>
    cases h
    rcases issueIfMissing_cases nextMonthFromDay hasDefaultSeries issues covered.billed
      covered.monthly with same | ⟨firstLast, issued⟩
    · rw [same]
      exact ⟨last, covered⟩
    · exact ⟨_, covered.issueIfMissing issued⟩
  | requestEnd today endDate => exact moved h fun _ => requestEnd_ok
  | requestEndByCustomer today endDate => exact moved h fun _ => requestEndByCustomer_ok
  | changeMoveOutDateByCustomer today endDate =>
    exact moved h fun _ => changeMoveOutDateByCustomer_ok
  | cancelMoveOutByCustomer today => exact moved h fun _ => cancelMoveOutByCustomer_ok
  | renew today months => exact moved h fun _ => renew_ok
  | autoRenewDue today =>
    refine moved h fun c' granted => ?_
    cases granted
    exact autoRenewDue_continues today s.lease.contract

end

/-- In every run whose runs of the monthly job come month by month, and in which the end date moves
later only over days that are billed, no day from the start of billing on is billed twice, and each
one up to the end of the contract and the end of the month of the last run is billed once. -/
theorem days_billed_once {s t : RentState} (fresh : s.Fresh)
    (run : Run rentStep (fun s a => rentOk s a = true) s t) (d : Date)
    (from_start : s.lease.contract.billingStart ≤ d) :
    t.lease.timesBilled d ≤ 1 ∧
      ((∀ e ∈ t.lease.contract.endDate, d ≤ e) → d ≤ t.lastRunEnd → t.lease.timesBilled d = 1) := by
  obtain ⟨last, covered⟩ := run.invariant
    (P := fun t => ∃ last, Covered s.lease.contract.billingStart t last)
    ⟨_, covered_fresh fresh⟩ fun ⟨_, covered⟩ ok h => covered_step covered ok h
  rw [Lease.timesBilled_eq, covered.tiles d from_start]
  constructor
  · split <;> omega
  · intro untilItsEnd past
    rw [if_pos (covered.due d from_start untilItsEnd past)]

/-! ### A contract renewed in the middle of a month -/

/-- A contract of one month from the middle of a month, that renews itself. -/
def fromMidMonth : Contract where
  status := .active
  deletedAt := none
  customerIsTest := false
  preOpening := false
  preOpeningStartedAt := none
  startDate := date 2024 3 11
  endDate := some (date 2024 4 10)
  endDateBeforeEnding := none
  termMonths := none
  autoRenew := true
  cancellationNoticeDays := 15
  billingStartsOn := none
  billingIntervalMonths := 1
  firstPaymentMonths := 1
  prepayDiscountPct := 0
  priceMonthly := 10000
  discountAmount := 0
  insurancePrice := none
  depositAmount := 0
  freeMonthsRemaining := 0
  pendingCreditAmount := 0
  pendingCreditReason := none
  coupon := none

def beforeFirstRun : RentState where
  lease := ⟨fromMidMonth, .empty⟩
  lastRun := monthOf (date 2024 2 1)

theorem beforeFirstRun_fresh : beforeFirstRun.Fresh where
  billed := rfl
  monthly := rfl
  unbilled := by simp [beforeFirstRun]
  ahead := by decide

/-- The first invoice, the run of March, the end asked for and cancelled, and the run of April. -/
theorem days_billed_once_spring : ∃ t,
    Run rentStep (fun s a => rentOk s a = true) beforeFirstRun t ∧
      t.lease.timesBilled (date 2024 4 10) = 1 := by
  obtain ⟨t, run, due⟩ := Run.exists_of_exec rentStep (fun s a => rentOk s a = true)
    beforeFirstRun
    [.issueIfMissing (some 20) true true, .generateRecurring (date 2024 3 12) true true [],
      .requestEnd (date 2024 3 20) none, .cancelMoveOutByCustomer (date 2024 3 21),
      .generateRecurring (date 2024 4 1) true false [] ]
    (fun t => (t.lease.contract.endDate.all fun e => date 2024 4 10 ≤ e) &&
      date 2024 4 10 ≤ t.lastRunEnd) (by decide +kernel)
  simp only [Bool.and_eq_true, decide_eq_true_eq, Option.all_eq_true] at due
  exact ⟨t, run, (days_billed_once beforeFirstRun_fresh run _ (by decide)).2 due.1 due.2⟩

/-- The run of April bills up to the end on the 10th. The contract then renews itself, and the later
runs of April find the month billed. -/
theorem days_unbilled : ¬∀ s t : RentState, s.Fresh →
    Run rentStep (fun s a => monthlyRuns s a = true) s t →
    ∀ d, s.lease.contract.billingStart ≤ d → (∀ e ∈ t.lease.contract.endDate, d ≤ e) →
      d ≤ t.lastRunEnd → t.lease.timesBilled d = 1 := by
  intro billed_once
  obtain ⟨t, run, unbilled⟩ := Run.exists_of_exec rentStep (fun s a => monthlyRuns s a = true)
    beforeFirstRun
    [.generateRecurring (date 2024 3 12) true true [], .generateRecurring (date 2024 4 1) true true [],
      .autoRenewDue (date 2024 4 11), .generateRecurring (date 2024 4 12) true true [] ]
    (fun t => (t.lease.contract.endDate.all fun e => date 2024 4 20 ≤ e) &&
      date 2024 4 20 ≤ t.lastRunEnd && t.lease.timesBilled (date 2024 4 20) = 0) (by decide +kernel)
  simp only [Bool.and_eq_true, decide_eq_true_eq, Option.all_eq_true] at unbilled
  have := billed_once beforeFirstRun t beforeFirstRun_fresh run (date 2024 4 20) (by decide)
    unbilled.1.1 unbilled.1.2
  omega

end StorageOS
