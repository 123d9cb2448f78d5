import StorageOS.Billing.Coverage
import StorageOS.Billing.Months

/-! The periods of a contract that is paid several months ahead. The first invoice ends a period on the day before the
same day of the month, or before the last day of a shorter month; the monthly job adds the months to the last day it
finds billed. The two agree when every month that ends a period has the day of the start. -/

namespace StorageOS

open Gregorian

/-- A run of the monthly job for one contract: the month it bills, whether it finds the series and
issues the drafts, and the rewards of the customer. -/
structure RecurringRun where
  month : Period
  hasDefaultSeries : Bool
  autoIssue : Bool
  referrals : List PendingReferral

def RecurringRun.run (r : RecurringRun) (l : Lease) : Lease :=
  processGenerateRecurring r.month r.hasDefaultSeries r.autoIssue r.referrals l

/-- Runs of the monthly job, the last one at the head of the list. -/
def billRuns (l : Lease) : List RecurringRun → Lease
  | [] => l
  | r :: earlier => r.run (billRuns l earlier)

/-- The months that a contract has paid after `k` periods, counted from its start. -/
def Contract.anniversary (c : Contract) (k : ℕ) : Date :=
  addMonths c.startDate (k * c.billingIntervalMonths)

/-- Period `k` of a contract, from its start on. -/
def Contract.prepaidPeriod (c : Contract) (k : ℕ) : Period :=
  ⟨c.anniversary k, c.anniversary (k + 1) - 1⟩

/-- A renewal is cut by the end of the contract, the first payment is not. -/
def Contract.duePeriod (c : Contract) : ℕ → Period
  | 0 => c.prepaidPeriod 0
  | k + 1 => ⟨c.anniversary (k + 1), untilEnd c.endDate (c.prepaidPeriod (k + 1)).last⟩

/-- The month that ends period `k - 1` has the day of the start. -/
def Contract.hasStartDay (c : Contract) (k : ℕ) : Bool :=
  day c.startDate ≤ monthLength (monthOf c.startDate + k * c.billingIntervalMonths)

/-- The month that ends period `k - 1` has the day of the start, or the contract has ended when a
later period would. -/
def Contract.keepsBillingDay (c : Contract) (k : ℕ) : Bool :=
  c.hasStartDay k || (1 < k && c.endDate.any fun e => e < c.anniversary k)

/-! ### Anniversaries -/

section

variable {c : Contract}

@[simp] theorem Contract.anniversary_zero (c : Contract) : c.anniversary 0 = c.startDate := by
  simp [anniversary]

theorem Contract.anniversary_lt_succ (ahead : 1 < c.billingIntervalMonths) (k : ℕ) :
    c.anniversary k < c.anniversary (k + 1) := by
  rw [anniversary, anniversary, addMonths_lt_iff]
  push_cast
  nlinarith

/-- On an anniversary that has the day of the start, both ways of adding a period agree exactly when
the next anniversary has it too. -/
theorem Contract.next_anniversary {k : ℕ} (same : c.hasStartDay k = true) :
    BillingJobs.addMonths (c.anniversary k) c.billingIntervalMonths =
      c.anniversary (k + 1) + max 0 (day c.startDate -
        monthLength (monthOf c.startDate + (k + 1 : ℕ) * c.billingIntervalMonths)) := by
  have months : monthOf c.startDate + k * c.billingIntervalMonths + c.billingIntervalMonths =
      monthOf c.startDate + (k + 1 : ℕ) * c.billingIntervalMonths := by
    push_cast
    ring
  have sameDay : day (c.anniversary k) = day c.startDate := by
    rw [anniversary, day_addMonths]
    exact min_eq_left (of_decide_eq_true same)
  have sameMonth : monthOf (c.anniversary k) =
      monthOf c.startDate + k * c.billingIntervalMonths := monthOf_addMonths _ _
  rw [BillingJobs.addMonths_eq, addMonths_eq_onDay, sameDay, sameMonth, months, anniversary,
    addMonths_eq_onDay]

theorem Contract.hasStartDay_zero (c : Contract) : c.hasStartDay 0 = true := by
  simpa [hasStartDay] using day_le c.startDate

theorem Contract.keepsBillingDay_of_le (early : day c.startDate ≤ 28) (k : ℕ) :
    c.keepsBillingDay k = true := by
  have := monthLength_bounds (monthOf c.startDate + k * c.billingIntervalMonths)
  have has : c.hasStartDay k = true := decide_eq_true (by omega)
  simp [keepsBillingDay, has]

theorem Contract.anniversary_le (ahead : 1 < c.billingIntervalMonths) {j k : ℕ} (h : j ≤ k) :
    c.anniversary j ≤ c.anniversary k := by
  induction h with
  | refl => exact le_refl _
  | step _ ih => exact ih.trans (c.anniversary_lt_succ ahead _).le

end

/-! ### What a run bills of a prepaid contract -/

structure Contract.SameDates (c c' : Contract) : Prop where
  startDate : c'.startDate = c.startDate
  endDate : c'.endDate = c.endDate
  billingIntervalMonths : c'.billingIntervalMonths = c.billingIntervalMonths

theorem Contract.SameDates.trans {c d e : Contract} (h : c.SameDates d) (h' : d.SameDates e) :
    c.SameDates e :=
  ⟨h'.startDate.trans h.startDate, h'.endDate.trans h.endDate,
    h'.billingIntervalMonths.trans h.billingIntervalMonths⟩

theorem lastPeriodEnd_eq (l : Lease) :
    lastPeriodEnd l.invoices.values = (l.rentPeriods.map Period.last).max? := by
  rw [lastPeriodEnd, Lease.rentPeriods, List.map_filterMap]
  congr 2
  funext i
  cases hk : i.kind <;> cases hs : i.status <;> cases hd : i.deletedAt <;>
    simp [RentInvoice.isLive, hk, hs, hd]

variable {month p : Period} {fullDays : ℤ} {n : ℕ}

theorem recurringPeriod_prepaid {l : Lease} {last : Date} (ahead : 1 < l.contract.billingIntervalMonths)
    (paid : lastPeriodEnd l.invoices.values = some last) (found : recurringPeriod month l = some (p, fullDays)) :
    p.first = last + 1 ∧ p.first ≤ p.last ∧ p.last = untilEnd l.contract.endDate
      (BillingJobs.addMonths (last + 1) l.contract.billingIntervalMonths - 1) := by
  have grows := BillingJobs.lt_addMonths (last + 1) (show 0 < l.contract.billingIntervalMonths by omega)
  simp only [recurringPeriod, recurringStart, if_pos ahead, paid] at found
  split at found
  · cases found
  · rename_i whole isWhole
    split at isWhole
    · cases isWhole
    · cases isWhole
      rw [Contract.clip_eq _ (by dsimp only; lia)] at found
      dsimp only at found
      by_cases empty : untilEnd l.contract.endDate
          (BillingJobs.addMonths (last + 1) l.contract.billingIntervalMonths - 1) < last + 1
      · rw [if_pos empty] at found
        cases found
      · rw [if_neg empty] at found
        dsimp only at found
        split at found
        · cases found
        · cases found
          exact ⟨rfl, not_lt.mp empty, rfl⟩

theorem RecurringRun.run_cases (r : RecurringRun) (l : Lease) :
    r.run l = l ∨ ∃ p fullDays, recurringPeriod r.month l = some (p, fullDays) ∧
      l.contract.SameDates (r.run l).contract ∧
      (r.run l).rentPeriods = l.rentPeriods ++ [p] := by
  obtain ⟨month, hasDefaultSeries, autoIssue, referrals⟩ := r
  cases hasDefaultSeries with
  | false => exact .inl (by simp [run, processGenerateRecurring, recurringPlan])
  | true =>
    cases found : recurringPeriod month l with
    | none => exact .inl (processGenerateRecurring_none autoIssue found)
    | some period =>
      obtain ⟨p, fullDays⟩ := period
      by_cases billed : l.contract.isBilled = true
      · obtain ⟨l', isRun, continues, sameEnd, i, live, hasPeriod, pushed⟩ :=
          processGenerateRecurring_some autoIssue billed found
        refine .inr ⟨p, fullDays, rfl, ?_⟩
        have isRun' : RecurringRun.run ⟨month, true, autoIssue, referrals⟩ l = l' := isRun
        rw [isRun']
        refine ⟨⟨continues.startDate, sameEnd, continues.billingIntervalMonths⟩, ?_⟩
        obtain ⟨contract, invoices⟩ := l'
        dsimp only at pushed
        rw [pushed, Lease.rentPeriods_push l.contract, if_pos live, hasPeriod]
        rfl
      · exact .inl (by simp [run, processGenerateRecurring, recurringPlan, billed])

theorem firstInvoicePlan_prepaid {c : Contract} (nextMonthFromDay : Option ℤ)
    (ahead : 1 < c.billingIntervalMonths) (started : c.isPendingPreOpening = false) :
    firstInvoicePlan nextMonthFromDay c = wholeMonthsPlan c.billingIntervalMonths c := by
  simp [firstInvoicePlan, started, ahead]

theorem wholeMonthsPlan_period (c : Contract) :
    (wholeMonthsPlan c.billingIntervalMonths c).period = some (c.duePeriod 0) := by
  simp [wholeMonthsPlan, Contract.duePeriod, Contract.prepaidPeriod, Contract.anniversary]

theorem issueIfMissing_prepaid {l : Lease} (nextMonthFromDay : Option ℤ) (issues : Bool)
    (ahead : 1 < l.contract.billingIntervalMonths)
    (started : l.contract.isPendingPreOpening = false)
    (unbilled : ∀ i ∈ l.invoices.values, i.deletedAt.isSome = true) :
    l.contract.SameDates (issueIfMissing nextMonthFromDay true issues l).contract ∧
      (issueIfMissing nextMonthFromDay true issues l).rentPeriods = [l.contract.duePeriod 0] := by
  have none_live : (l.invoices.values.any fun i => i.deletedAt.isNone) = false := by
    rw [List.any_eq_false]
    intro i mem
    have := unbilled i mem
    cases hd : i.deletedAt <;> simp_all
  have no_periods : (⟨l.contract, l.invoices⟩ : Lease).rentPeriods = [] := by
    rw [Lease.rentPeriods, List.filterMap_eq_nil_iff]
    intro i mem
    have := unbilled i mem
    cases hd : i.deletedAt <;> simp_all [RentInvoice.isLive]
  simp only [issueIfMissing, firstPlan, none_live, Bool.not_true, Bool.or_self, Bool.false_eq_true,
    if_false, firstInvoicePlan_prepaid nextMonthFromDay ahead started]
  obtain ⟨continues, sameEnd⟩ := claimContractCredit_continues
    (wholeMonthsPlan l.contract.billingIntervalMonths l.contract).rentCentsTotal l.contract
  generalize claimContractCredit _ l.contract = claimed at continues sameEnd ⊢
  obtain ⟨credit, contract⟩ := claimed
  refine ⟨⟨continues.startDate, sameEnd, continues.billingIntervalMonths⟩, ?_⟩
  have period : ∀ first : RentInvoice, first.isLive = true →
      first.period = some (l.contract.duePeriod 0) →
      (⟨contract, l.invoices.push first⟩ : Lease).rentPeriods = [l.contract.duePeriod 0] := by
    intro first live hasPeriod
    rw [Lease.rentPeriods_push l.contract, no_periods, if_pos live, hasPeriod]
    rfl
  have first : (⟨contract, l.invoices.push (if issues then
      { (wholeMonthsPlan l.contract.billingIntervalMonths l.contract).draft credit with
        status := .issued }
      else (wholeMonthsPlan l.contract.billingIntervalMonths l.contract).draft credit)⟩ :
      Lease).rentPeriods = [l.contract.duePeriod 0] := by
    apply period
    · cases issues <;> rfl
    · cases issues <;> exact wholeMonthsPlan_period l.contract
  by_cases deposit : (issues && decide (0 < contract.depositAmount)) = true
  · rw [if_pos deposit, Lease.rentPeriods_push contract]
    exact (List.append_nil _).trans first
  · rw [if_neg deposit]
    exact first

/-! ### Renewals from the first invoice on -/

section

variable {c : Contract} {l : Lease}

/-- The periods billed are the periods of the contract from its start on. -/
def Lease.AgreesWith (l : Lease) (c : Contract) : Prop :=
  l.rentPeriods = (List.range l.rentPeriods.length).map c.duePeriod

theorem Contract.duePeriod_first (c : Contract) (k : ℕ) : (c.duePeriod k).first = c.anniversary k := by
  cases k <;> rfl

theorem Contract.duePeriod_last_le (c : Contract) (k : ℕ) :
    (c.duePeriod k).last ≤ c.anniversary (k + 1) - 1 := by
  cases k with
  | zero => exact le_refl _
  | succ k => exact untilEnd_le _ _

theorem Lease.AgreesWith.lastPeriodEnd (agrees : l.AgreesWith c) (ahead : 1 < c.billingIntervalMonths)
    (count : l.rentPeriods.length = n + 1) (nonempty : ∀ p ∈ l.rentPeriods, p.first ≤ p.last) :
    lastPeriodEnd l.invoices.values = some (c.duePeriod n).last := by
  have periods : l.rentPeriods = (List.range (n + 1)).map c.duePeriod := count ▸ agrees
  have later : c.anniversary n ≤ (c.duePeriod n).last := by
    rw [← c.duePeriod_first]
    exact nonempty _ (by rw [periods]; exact List.mem_map_of_mem (by simp))
  rw [lastPeriodEnd_eq, periods, List.max?_eq_some_iff]
  refine ⟨List.mem_map_of_mem (List.mem_map_of_mem (List.mem_range.mpr n.lt_succ_self)), ?_⟩
  intro d mem
  simp only [List.map_map, List.mem_map, List.mem_range, Function.comp_apply] at mem
  obtain ⟨k, hk, rfl⟩ := mem
  rcases Nat.lt_or_eq_of_le (Nat.le_of_lt_succ hk) with before | rfl
  · have := c.duePeriod_last_le k
    have := c.anniversary_le ahead (Nat.succ_le_of_lt before)
    lia
  · exact le_refl _

/-- A renewal of a contract that has been billed its periods so far bills the next one exactly when
the month that ends it has the day of the start. -/
theorem renewal_agrees_iff (agrees : l.AgreesWith c) (dates : c.SameDates l.contract)
    (ahead : 1 < c.billingIntervalMonths) (count : l.rentPeriods.length = n + 1)
    (nonempty : ∀ p ∈ l.rentPeriods, p.first ≤ p.last) (kept : ∀ k, 1 ≤ k → k ≤ n + 1 → c.keepsBillingDay k = true)
    (found : recurringPeriod month l = some (p, fullDays)) :
    p = c.duePeriod (n + 1) ↔ c.keepsBillingDay (n + 2) = true := by
  obtain ⟨first, isPeriod, last⟩ := recurringPeriod_prepaid
    (dates.billingIntervalMonths ▸ ahead) (agrees.lastPeriodEnd ahead count nonempty) found
  rw [dates.endDate, dates.billingIntervalMonths] at last
  -- The period before was not cut, since there is something left to bill after it.
  have ends_later : ∀ e ∈ c.endDate, p.first ≤ e := fun e mem => by
    have := (le_untilEnd.mp (last ▸ isPeriod)).1 e mem
    exact this
  have uncut : (c.duePeriod n).last = c.anniversary (n + 1) - 1 := by
    cases n with
    | zero => rfl
    | succ n =>
      by_contra cut
      have isCut := lt_of_le_of_ne (c.duePeriod_last_le (n + 1)) cut
      have atEnd : untilEnd c.endDate _ ∈ c.endDate := untilEnd_of_lt isCut
      have := ends_later _ atEnd
      rw [first, Contract.duePeriod] at this
      dsimp only [Contract.prepaidPeriod] at this
      lia
  have start : p.first = c.anniversary (n + 1) := by
    rw [first, uncut]
    lia
  have same : c.hasStartDay (n + 1) = true := by
    have := kept (n + 1) (by omega) (le_refl _)
    simp only [Contract.keepsBillingDay, Bool.or_eq_true, Bool.and_eq_true, Option.any_eq_true,
      decide_eq_true_eq] at this
    rcases this with this | ⟨-, e, mem, before⟩
    · exact this
    · have := ends_later e mem
      lia
  have next : BillingJobs.addMonths (c.anniversary (n + 1)) c.billingIntervalMonths =
      c.anniversary (n + 2) + max 0 (day c.startDate -
        monthLength (monthOf c.startDate + (n + 2 : ℕ) * c.billingIntervalMonths)) :=
    Contract.next_anniversary same
  have isLast : p.last = untilEnd c.endDate (c.anniversary (n + 2) + max 0 (day c.startDate -
      monthLength (monthOf c.startDate + (n + 2 : ℕ) * c.billingIntervalMonths)) - 1) := by
    rw [last, ← first, start, next]
  have equal : p = c.duePeriod (n + 1) ↔ p.last = (c.duePeriod (n + 1)).last := by
    obtain ⟨pFirst, pLast⟩ := p
    dsimp only at start
    rw [start, Contract.duePeriod, Period.mk.injEq]
    exact ⟨And.right, fun h => ⟨rfl, h⟩⟩
  rw [equal, isLast, Contract.keepsBillingDay, Contract.hasStartDay, Contract.duePeriod]
  dsimp only [Contract.prepaidPeriod]
  cases c.endDate with
  | none =>
    simp only [untilEnd, Option.any_none, Bool.and_false, Bool.or_false, decide_eq_true_eq]
    lia
  | some e =>
    simp only [untilEnd, Option.any_some, Bool.or_eq_true, Bool.and_eq_true, decide_eq_true_eq]
    lia

/-- What runs keep of a contract that has its first invoice: the periods billed are those of the
contract exactly while every month that ends one has the day of the start. -/
structure Renewed (c : Contract) (l : Lease) : Prop where
  dates : c.SameDates l.contract
  invoiced : l.rentPeriods ≠ []
  nonempty : ∀ p ∈ l.rentPeriods, p.first ≤ p.last
  exactly : (c.hasStartDay 1 = true ∧ l.AgreesWith c) ↔
    ∀ k, 1 ≤ k → k ≤ l.rentPeriods.length → c.keepsBillingDay k = true

theorem Lease.agreesWith_append {l' : Lease} {p : Period} (h : l'.rentPeriods = l.rentPeriods ++ [p]) :
    l'.AgreesWith c ↔ l.AgreesWith c ∧ p = c.duePeriod l.rentPeriods.length := by
  rw [Lease.AgreesWith, h, List.length_append, List.length_singleton, List.range_succ,
    List.map_append, List.map_singleton]
  refine ⟨fun same => ?_, fun ⟨before, next⟩ => ?_⟩
  · obtain ⟨before, next⟩ := List.append_inj' same rfl
    exact ⟨before, List.singleton_inj.mp next⟩
  · rw [← next]
    exact congrArg (· ++ [p]) before

theorem Renewed.run (renewed : Renewed c l) (ahead : 1 < c.billingIntervalMonths)
    (r : RecurringRun) : Renewed c (r.run l) := by
  rcases r.run_cases l with same | ⟨p, fullDays, found, dates, pushed⟩
  · rwa [same]
  · obtain ⟨n, count⟩ := Nat.exists_eq_succ_of_ne_zero
      (fun zero => renewed.invoiced (List.length_eq_zero_iff.mp zero))
    refine ⟨renewed.dates.trans dates, by simp [pushed], ?_, ?_⟩
    · intro q mem
      rw [pushed, List.mem_append, List.mem_singleton] at mem
      rcases mem with mem | rfl
      · exact renewed.nonempty q mem
      · have ahead' := renewed.dates.billingIntervalMonths ▸ ahead
        obtain ⟨last, paid⟩ : ∃ last, lastPeriodEnd l.invoices.values = some last := by
          rw [lastPeriodEnd_eq, ← Option.isSome_iff_exists, List.isSome_max?_iff]
          simpa using renewed.invoiced
        exact (recurringPeriod_prepaid ahead' paid found).2.1
    · rw [Lease.agreesWith_append pushed, ← and_assoc, renewed.exactly, pushed, List.length_append,
        List.length_singleton, count]
      refine ⟨fun ⟨kept, next⟩ k from_one k_le => ?_, fun kept => ?_⟩
      · rcases Nat.lt_or_eq_of_le k_le with earlier | rfl
        · exact kept k from_one (Nat.le_of_lt_succ earlier)
        · have agrees := (renewed.exactly.mpr (by rwa [count])).2
          exact (renewal_agrees_iff agrees renewed.dates ahead count renewed.nonempty kept found).mp next
      · have before : ∀ k, 1 ≤ k → k ≤ n + 1 → c.keepsBillingDay k = true :=
          fun k from_one k_le => kept k from_one (Nat.le_succ_of_le k_le)
        have agrees := (renewed.exactly.mpr (by rwa [count])).2
        exact ⟨before, (renewal_agrees_iff agrees renewed.dates ahead count renewed.nonempty before
          found).mpr (kept (n + 2) (by omega) (le_refl _))⟩

theorem Renewed.billRuns (renewed : Renewed c l) (ahead : 1 < c.billingIntervalMonths) :
    ∀ runs, Renewed c (billRuns l runs)
  | [] => renewed
  | r :: earlier => (Renewed.billRuns renewed ahead earlier).run ahead r

theorem renewed_first (dates : c.SameDates l.contract) (ahead : 1 < c.billingIntervalMonths)
    (periods : l.rentPeriods = [c.duePeriod 0]) : Renewed c l where
  dates := dates
  invoiced := by simp [periods]
  nonempty := by
    have later := c.anniversary_lt_succ ahead 0
    intro p mem
    rw [periods, List.mem_singleton] at mem
    subst mem
    dsimp only [Contract.duePeriod, Contract.prepaidPeriod]
    lia
  exactly := by
    have agrees : l.AgreesWith c := by
      rw [Lease.AgreesWith, periods]
      rfl
    have kept : c.keepsBillingDay 1 = c.hasStartDay 1 := by simp [Contract.keepsBillingDay]
    rw [periods]
    refine ⟨fun ⟨has, _⟩ k from_one k_le => ?_, fun h => ⟨?_, agrees⟩⟩
    · rw [le_antisymm k_le from_one]
      exact kept.trans has
    · exact kept.symm.trans (h 1 (le_refl _) (le_refl _))

end

theorem recurringStart_fresh {c : Contract} (ahead : 1 < c.billingIntervalMonths) (month : Period)
    (begun : c.startDate ≤ month.last) :
    recurringStart month ⟨{ c with billingStartsOn := none }, .empty⟩ =
      some ⟨c.startDate, BillingJobs.addMonths c.startDate c.billingIntervalMonths - 1⟩ := by
  simp [recurringStart, ahead, lastPeriodEnd, not_lt.mpr begun]

/-- The job bills the first period from the start of a contract exactly when the month that ends it
has the day of the start. -/
theorem first_period_agrees_iff {c : Contract} (nextMonthFromDay : Option ℤ)
    (ahead : 1 < c.billingIntervalMonths) (started : c.isPendingPreOpening = false) :
    (∀ month : Period, c.startDate ≤ month.last →
      recurringStart month ⟨{ c with billingStartsOn := none }, .empty⟩ =
        (firstInvoicePlan nextMonthFromDay c).period) ↔ c.hasStartDay 1 = true := by
  have next : BillingJobs.addMonths c.startDate c.billingIntervalMonths = c.anniversary 1 + max 0
      (day c.startDate - monthLength (monthOf c.startDate + (1 : ℕ) * c.billingIntervalMonths)) := by
    have := c.next_anniversary c.hasStartDay_zero
    rwa [c.anniversary_zero] at this
  have agree : (∀ month : Period, c.startDate ≤ month.last →
      recurringStart month ⟨{ c with billingStartsOn := none }, .empty⟩ =
        (firstInvoicePlan nextMonthFromDay c).period) ↔
      BillingJobs.addMonths c.startDate c.billingIntervalMonths = c.anniversary 1 := by
    rw [firstInvoicePlan_prepaid nextMonthFromDay ahead started, wholeMonthsPlan_period]
    refine ⟨fun h => ?_, fun h month begun => ?_⟩
    · have := h ⟨c.startDate, c.startDate⟩ (le_refl _)
      rw [recurringStart_fresh ahead _ (le_refl _)] at this
      simpa [Contract.duePeriod, Contract.prepaidPeriod] using this
    · rw [recurringStart_fresh ahead month begun, h]
      simp [Contract.duePeriod, Contract.prepaidPeriod]
  rw [agree, next, Contract.hasStartDay, decide_eq_true_eq]
  lia

/-- The monthly job and the first invoice bill the same period from the start of a prepaid contract,
and the invoices that any runs add bill the periods of the contract that follow, exactly when every
month that ends a period billed has the day of the start or comes after the end of the contract. -/
theorem prepaid_periods_agree {l : Lease} (nextMonthFromDay : Option ℤ) (issues : Bool)
    (runs : List RecurringRun) (ahead : 1 < l.contract.billingIntervalMonths)
    (started : l.contract.isPendingPreOpening = false)
    (unbilled : ∀ i ∈ l.invoices.values, i.deletedAt.isSome = true) :
    let billed := (billRuns (issueIfMissing nextMonthFromDay true issues l) runs).rentPeriods
    ((∀ month : Period, l.contract.startDate ≤ month.last →
        recurringStart month ⟨{ l.contract with billingStartsOn := none }, .empty⟩ =
          (firstInvoicePlan nextMonthFromDay l.contract).period) ∧
      billed = (List.range billed.length).map l.contract.duePeriod) ↔
    ∀ k, 1 ≤ k → k ≤ billed.length → l.contract.keepsBillingDay k = true := by
  obtain ⟨dates, first⟩ := issueIfMissing_prepaid nextMonthFromDay issues ahead started unbilled
  rw [first_period_agrees_iff nextMonthFromDay ahead started]
  exact ((renewed_first dates ahead first).billRuns ahead runs).exactly

def sixMonthsAhead (startDate : Date) : Contract :=
  { fromMidMonth with startDate := startDate, endDate := none, billingIntervalMonths := 6 }

def halfYearlyRuns : List RecurringRun :=
  [⟨⟨date 2027 7 1, date 2027 7 31⟩, true, true, [] ⟩,
    ⟨⟨date 2027 1 1, date 2027 1 31⟩, true, false, [] ⟩,
    ⟨⟨date 2026 7 1, date 2026 7 31⟩, true, true, [] ⟩]

theorem prepaid_periods_agree_tenth :
    (billRuns (issueIfMissing none true true ⟨sixMonthsAhead (date 2026 1 10), .empty⟩)
        halfYearlyRuns).rentPeriods =
      (List.range 4).map (sixMonthsAhead (date 2026 1 10)).duePeriod := by
  have periods := ((prepaid_periods_agree (l := ⟨sixMonthsAhead (date 2026 1 10), .empty⟩) none true
    halfYearlyRuns (by decide) rfl (by simp)).mpr fun k _ _ =>
      Contract.keepsBillingDay_of_le (by decide) k).2
  have count : (billRuns (issueIfMissing none true true
      ⟨sixMonthsAhead (date 2026 1 10), .empty⟩) halfYearlyRuns).rentPeriods.length = 4 := by
    decide +kernel
  rwa [count] at periods

/-- From 31 August the first invoice ends on 27 February and the job on 2 March. -/
theorem prepaid_periods_differ : ¬∀ (l : Lease) (nextMonthFromDay : Option ℤ) (issues : Bool)
    (runs : List RecurringRun), 1 < l.contract.billingIntervalMonths →
    l.contract.isPendingPreOpening = false →
    (∀ i ∈ l.invoices.values, i.deletedAt.isSome = true) →
    let billed := (billRuns (issueIfMissing nextMonthFromDay true issues l) runs).rentPeriods
    (∀ month : Period, l.contract.startDate ≤ month.last →
        recurringStart month ⟨{ l.contract with billingStartsOn := none }, .empty⟩ =
          (firstInvoicePlan nextMonthFromDay l.contract).period) ∧
      billed = (List.range billed.length).map l.contract.duePeriod := by
  intro agree
  obtain ⟨first, -⟩ := agree ⟨sixMonthsAhead (date 2026 8 31), .empty⟩ none true [] (by decide) rfl
    (by simp)
  have := first ⟨date 2026 8 1, date 2026 8 31⟩ (by decide)
  revert this
  decide

end StorageOS
