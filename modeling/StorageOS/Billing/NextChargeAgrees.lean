import Mathlib.Data.List.ReduceOption
import StorageOS.Billing.NextCharge

/-! When the next charge that a customer is shown is the first invoice of the following runs. -/

namespace StorageOS

open Gregorian

/-- The part of month `k` from a day on, the whole month when the day is not in it. -/
def shareFrom (k : ℤ) (d : Date) : ℚ :=
  if monthOf d = k then (monthLength k - day d + 1 : ℤ) / (monthLength k : ℤ) else 1

def Contract.shownRent (c : Contract) : ℤ :=
  if 0 < c.freeMonthsRemaining then 0 else max 0 (c.priceMonthly - c.discountAmount)

def Contract.billedRent (c : Contract) : ℤ :=
  if c.isFreeMonth then 0 else c.priceMonthly - c.discountAmount

def Contract.nextMonth (c : Contract) (coveredUntil : Option Date) (today : Date) : ℤ :=
  max (monthOf today + 1) (monthOf (c.nextStart coveredUntil))

def Contract.nextShare (c : Contract) (coveredUntil : Option Date) (today : Date) : ℚ :=
  shareFrom (c.nextMonth coveredUntil today) (c.nextStart coveredUntil)

/-- A monthly contract is not billed up to the middle of a month to come, and its rent and its
insurance are as many cents apart as together. A prepaid one has a period billed or a day on which
billing starts, and its rent is as many cents as shown, without a free month. -/
def Contract.foreseen (c : Contract) (coveredUntil : Option Date) (today : Date) : Prop :=
  if 1 < c.billingIntervalMonths then
    (coveredUntil.isSome = true ∨ c.billingStartsOn.isSome = true) ∧
      mathRound (c.shownRent * (1 - c.prepayDiscountPct / 100) * c.billingIntervalMonths) =
        mathRound (c.billedRent * (1 - c.prepayDiscountPct / 100) * c.billingIntervalMonths)
  else
    (∀ d ∈ coveredUntil, c.billingStart ≤ d → monthOf d ≤ monthOf today ∨
        monthOf (d + 1) ≠ monthOf d) ∧
      mathRound (((c.shownRent : ℚ) + (c.insurancePrice.getD 0 : ℤ)) *
          c.nextShare coveredUntil today) =
        mathRound (c.billedRent * c.nextShare coveredUntil today) +
          mathRound ((c.insurancePrice.getD 0 : ℤ) * c.nextShare coveredUntil today)

/-- The charge shown is the first invoice of the runs of the following months: to the cent, and in the
same month or, for a prepaid contract, on the day that its period starts. -/
def ChargeAgrees (autoIssue : Bool) (l : Lease) (coveredUntil : Option Date) (today : Date) : Prop :=
  ∃ i p, FirstBilled autoIssue (monthOf today + 1) l i ∧ i.period = some p ∧
    (if 1 < l.contract.billingIntervalMonths then
        (shownCharge l.contract coveredUntil today).1 = p.first
      else monthOf (shownCharge l.contract coveredUntil today).1 = monthOf p.first) ∧
    (shownCharge l.contract coveredUntil today).2 = i.netCents

/-! ### The charge shown for a monthly contract -/

theorem monthOf_monthStart (k : ℤ) : monthOf (monthStart k) = k :=
  (monthOf_eq_iff _ _).mpr ⟨le_refl _, monthStart_lt_succ _⟩

theorem foldl_startOfMonth (ds : List Date) (k : ℤ) :
    ds.foldl (fun day d => if day < startOfMonth d then startOfMonth d else day) (monthStart k) =
      monthStart (ds.foldl (fun k d => max k (monthOf d)) k) := by
  induction ds generalizing k with
  | nil => rfl
  | cons d ds ih =>
    rw [List.foldl_cons, List.foldl_cons, ← ih]
    congr 1
    rw [startOfMonth]
    split
    · rename_i later
      rw [max_eq_right (monthStart_lt_iff.mp later).le]
    · rename_i notLater
      rw [max_eq_left (monthStart_le_iff.mp (not_lt.mp notLater))]

variable {d : Date} {k : ℤ} {c : Contract} {p : Period}

theorem startOfMonth_eq_iff : startOfMonth d = monthStart k ↔ monthOf d = k := by
  refine ⟨fun same => ?_, fun same => by rw [startOfMonth, same]⟩
  have := congrArg monthOf same
  rwa [startOfMonth, monthOf_monthStart, monthOf_monthStart] at this

theorem shareFrom_first (first : day d = 1) : shareFrom k d = 1 := by
  rw [shareFrom, first]
  split
  · rw [sub_add_cancel]
    have length : (monthLength k : ℚ) ≠ 0 := by
      have := (monthLength_bounds k).1
      exact_mod_cast (by omega : monthLength k ≠ 0)
    exact div_self length
  · rfl

theorem day_monthStart (k : ℤ) : day (monthStart k) = 1 := by
  rw [day, monthOf_monthStart]
  omega

theorem shownShare_eq (ds : List Date) (k : ℤ) :
    (match (ds.filter fun d => startOfMonth d = monthStart k).max? with
      | some d => if 1 < day d then
          ((monthStart (k + 1) - monthStart k - day d + 1 : ℤ) : ℚ) /
            (monthStart (k + 1) - monthStart k : ℤ) else 1
      | none => (1 : ℚ)) =
      match (ds.filter fun d => monthOf d = k).max? with
      | some d => shareFrom k d
      | none => 1 := by
  simp only [startOfMonth_eq_iff]
  cases isMax : (ds.filter fun d => monthOf d = k).max? with
  | none => rfl
  | some m =>
    have inMonth : monthOf m = k := by
      have := List.max?_mem isMax
      simpa using (List.mem_filter.mp this).2
    dsimp only
    split
    · rw [shareFrom, if_pos inMonth, monthLength]
    · exact (shareFrom_first (by have := day_pos m; omega)).symm

theorem latest_share {ds : List Date} {next : Date} (latest : ∀ d ∈ ds, d ≤ next)
    (isCandidate : monthOf next = k → next ∈ ds ∨ day next = 1) (h : monthOf next ≤ k) :
    (match (ds.filter fun d => monthOf d = k).max? with
      | some d => shareFrom k d
      | none => 1) = shareFrom k next := by
  cases isMax : (ds.filter fun d => monthOf d = k).max? with
  | none =>
    have none_in : ∀ d ∈ ds, monthOf d ≠ k := by
      have := List.max?_eq_none_iff.mp isMax
      intro d mem same
      exact List.eq_nil_iff_forall_not_mem.mp this d (List.mem_filter.mpr ⟨mem, by simpa using same⟩)
    by_cases same : monthOf next = k
    · rcases isCandidate same with mem | first
      · exact absurd same (none_in next mem)
      · exact (shareFrom_first first).symm
    · exact (if_neg same).symm
  | some m =>
    obtain ⟨mem, greatest⟩ := List.max?_eq_some_iff.mp isMax
    obtain ⟨mem, inMonth⟩ := List.mem_filter.mp mem
    have inMonth : monthOf m = k := by simpa using inMonth
    have upTo := latest m mem
    have later : monthOf m ≤ monthOf next := monthOf_mono upTo
    have same : monthOf next = k := le_antisymm h (inMonth ▸ later)
    dsimp only
    rcases isCandidate same with mem' | first
    · have := greatest next (List.mem_filter.mpr ⟨mem', by simpa using same⟩)
      rw [le_antisymm upTo this]
    · have start := (monthOf_spec m).1
      rw [inMonth] at start
      rw [day, same] at first
      rw [show m = next by lia]

theorem foldl_max_spec (ds : List Date) (k : ℤ) :
    k ≤ ds.foldl (fun k d => max k (monthOf d)) k ∧
      (∀ d ∈ ds, monthOf d ≤ ds.foldl (fun k d => max k (monthOf d)) k) ∧
      (ds.foldl (fun k d => max k (monthOf d)) k = k ∨
        ∃ d ∈ ds, ds.foldl (fun k d => max k (monthOf d)) k = monthOf d) := by
  induction ds generalizing k with
  | nil => exact ⟨le_refl k, by simp, .inl rfl⟩
  | cons d ds ih =>
    obtain ⟨low, upper, reached⟩ := ih (max k (monthOf d))
    rw [List.foldl_cons]
    refine ⟨(le_max_left _ _).trans low, fun e mem => ?_, ?_⟩
    · rcases List.mem_cons.mp mem with rfl | mem
      · exact (le_max_right _ _).trans low
      · exact upper e mem
    · rcases reached with same | ⟨e, mem, same⟩
      · rw [same]
        rcases max_choice k (monthOf d) with isMax | isMax
        · exact .inl isMax
        · exact .inr ⟨d, List.mem_cons_self, isMax⟩
      · exact .inr ⟨e, List.mem_cons_of_mem _ mem, same⟩

theorem monthOf_succ (d : Date) :
    monthOf (d + 1) = monthOf d ∨ monthOf (d + 1) = monthOf d + 1 := by
  have month := monthOf_spec d
  have next := monthOf_spec (d + 1)
  have low := monthOf_mono (show d ≤ d + 1 by lia)
  have high : monthOf (d + 1) ≤ monthOf d + 1 := by
    by_contra later
    have := monthStart_lt_iff.mpr (not_le.mp later)
    lia
  lia

def candidates (c : Contract) (coveredUntil : Option Date) : List Date :=
  [coveredUntil.map (· + 1), c.billingStartsOn].reduceOption

theorem mem_candidates {coveredUntil : Option Date} :
    d ∈ candidates c coveredUntil ↔ (∃ v ∈ coveredUntil, d = v + 1) ∨ d ∈ c.billingStartsOn := by
  simp only [candidates, List.reduceOption_mem_iff, List.mem_cons, List.not_mem_nil, or_false]
  constructor
  · rintro (isNext | starts)
    · obtain ⟨v, covered, rfl⟩ := Option.map_eq_some_iff.mp isNext.symm
      exact .inl ⟨v, covered, rfl⟩
    · exact .inr starts.symm
  · rintro (⟨v, covered, rfl⟩ | starts)
    · rw [Option.mem_def.mp covered]
      exact .inl rfl
    · exact .inr starts.symm

theorem Contract.billingStart_cases (c : Contract) :
    (c.billingStart = c.startDate ∨ c.billingStart ∈ c.billingStartsOn) ∧
      ∀ d ∈ c.billingStartsOn, d ≤ c.billingStart := by
  rw [c.billingStart_eq]
  cases c.billingStartsOn with
  | none => exact ⟨.inl rfl, by simp⟩
  | some b =>
    refine ⟨(max_choice c.startDate b).imp id fun isLater => congrArg some isLater.symm, fun d mem => ?_⟩
    cases mem
    exact le_max_right _ _

theorem shownCharge_monthly (monthly : c.billingIntervalMonths = 1) (coveredUntil : Option Date) (today : Date) : ∃ k,
      k = (candidates c coveredUntil).foldl (fun k d => max k (monthOf d)) (monthOf today + 1) ∧
      shownCharge c coveredUntil today = (monthStart k,
        mathRound (((c.shownRent : ℚ) + (c.insurancePrice.getD 0 : ℤ)) *
          match ((candidates c coveredUntil).filter fun d => monthOf d = k).max? with
          | some d => shareFrom k d
          | none => 1)) := by
  refine ⟨_, rfl, ?_⟩
  have rent : (if 0 < c.freeMonthsRemaining then (0 : ℚ) else
      (max 0 (c.priceMonthly - c.discountAmount) : ℤ)) = c.shownRent := by
    rw [Contract.shownRent]
    split <;> rfl
  have isDay := foldl_startOfMonth (candidates c coveredUntil) (monthOf today + 1)
  have shares := shownShare_eq (candidates c coveredUntil)
    ((candidates c coveredUntil).foldl (fun k d => max k (monthOf d)) (monthOf today + 1))
  simp only [candidates] at isDay shares ⊢
  rw [shownCharge, nextContractCharge]
  simp only [monthly, lt_irrefl, if_false, isDay, monthOf_monthStart, ← shares, rent]
  rfl

section

variable {l : Lease} {coveredUntil : Option Date} {today : Date}

theorem Contract.nextStart_cases (monthly : c.billingIntervalMonths = 1) (coveredUntil : Option Date) :
    (∃ v ∈ coveredUntil, c.billingStart ≤ v ∧
        c.nextStart coveredUntil = monthStart (monthOf v + 1)) ∨
      (∀ v ∈ coveredUntil, v < c.billingStart) ∧ c.nextStart coveredUntil = c.billingStart := by
  have not_prepaid : ¬1 < c.billingIntervalMonths := by omega
  cases coveredUntil with
  | none => exact .inr ⟨by simp, by simp [nextStart, not_prepaid]⟩
  | some v =>
    by_cases paid : c.billingStart ≤ v
    · exact .inl ⟨v, rfl, paid, by simp [nextStart, not_prepaid, paid]⟩
    · refine .inr ⟨fun v' mem => ?_, by simp [nextStart, not_prepaid, paid]⟩
      cases mem
      exact not_le.mp paid

/-- The month shown is the month billed, unless a contract is billed up to the middle of a month to
come. -/
theorem Lease.BilledUntil.month_agrees_iff (until_ : l.BilledUntil coveredUntil today)
    (monthly : l.contract.billingIntervalMonths = 1) :
    (candidates l.contract coveredUntil).foldl (fun k d => max k (monthOf d)) (monthOf today + 1) =
        l.contract.nextMonth coveredUntil today ↔
      ∀ d ∈ coveredUntil, l.contract.billingStart ≤ d →
        monthOf d ≤ monthOf today ∨ monthOf (d + 1) ≠ monthOf d := by
  obtain ⟨low, upper, reached⟩ :=
    foldl_max_spec (candidates l.contract coveredUntil) (monthOf today + 1)
  generalize (candidates l.contract coveredUntil).foldl _ _ = k at low upper reached ⊢
  obtain ⟨start, before_start⟩ := l.contract.billingStart_cases
  have begun := monthOf_mono until_.begun
  rw [Contract.nextMonth]
  rcases Contract.nextStart_cases monthly coveredUntil with
    ⟨v, covered, paid, isNext⟩ | ⟨ahead, isNext⟩
  · rw [isNext, monthOf_monthStart]
    have follows := upper (v + 1) (mem_candidates.mpr (.inl ⟨v, covered, rfl⟩))
    have months := monthOf_succ v
    have at_most : k = monthOf today + 1 ∨ k = monthOf (v + 1) ∨ k ≤ monthOf v := by
      rcases reached with same | ⟨d, mem, same⟩
      · exact .inl same
      · rcases mem_candidates.mp mem with ⟨v', covered', rfl⟩ | starts
        · cases covered.symm.trans covered'
          exact .inr (.inl same)
        · exact .inr (.inr (same ▸ monthOf_mono ((before_start d starts).trans paid)))
    constructor
    · intro agree d mem from_start
      cases covered.symm.trans mem
      omega
    · intro foreseen
      have := foreseen v covered paid
      omega
  · rw [isNext]
    have within : ∀ d ∈ candidates l.contract coveredUntil, monthOf d ≤ monthOf l.contract.billingStart := by
      intro d mem
      apply monthOf_mono
      rcases mem_candidates.mp mem with ⟨v, covered, rfl⟩ | starts
      · have := ahead v covered
        lia
      · exact before_start d starts
    have agree : k = max (monthOf today + 1) (monthOf l.contract.billingStart) := by
      apply le_antisymm
      · rcases reached with same | ⟨d, mem, same⟩
        · omega
        · have := within d mem
          omega
      · rcases start with isStart | starts
        · rw [isStart]
          omega
        · have := upper _ (mem_candidates.mpr (.inr starts))
          omega
    refine iff_of_true agree fun d mem from_start => ?_
    exact absurd from_start (not_le.mpr (ahead d mem))

theorem Lease.BilledUntil.share_agrees (until_ : l.BilledUntil coveredUntil today)
    (monthly : l.contract.billingIntervalMonths = 1) :
    (match ((candidates l.contract coveredUntil).filter fun d =>
        monthOf d = l.contract.nextMonth coveredUntil today).max? with
      | some d => shareFrom (l.contract.nextMonth coveredUntil today) d
      | none => 1) = l.contract.nextShare coveredUntil today := by
  obtain ⟨start, before_start⟩ := l.contract.billingStart_cases
  have begun := monthOf_mono until_.begun
  have nextMonth : l.contract.nextMonth coveredUntil today =
    max (monthOf today + 1) (monthOf (l.contract.nextStart coveredUntil)) := rfl
  rw [Contract.nextShare]
  refine latest_share (fun d mem => ?_) (fun same => ?_) (le_max_right _ _)
  · rcases Contract.nextStart_cases monthly coveredUntil with
      ⟨v, covered, paid, isNext⟩ | ⟨ahead, isNext⟩
    · have := (monthOf_spec v).2
      rw [isNext]
      rcases mem_candidates.mp mem with ⟨v', covered', rfl⟩ | starts
      · cases covered.symm.trans covered'
        lia
      · have := before_start d starts
        lia
    · rw [isNext]
      rcases mem_candidates.mp mem with ⟨v, covered, rfl⟩ | starts
      · have := ahead v covered
        lia
      · exact before_start d starts
  · rcases Contract.nextStart_cases monthly coveredUntil with
      ⟨v, covered, paid, isNext⟩ | ⟨ahead, isNext⟩
    · exact .inr (by rw [isNext, day_monthStart])
    · rw [isNext] at same nextMonth ⊢
      rcases start with isStart | starts
      · rw [isStart] at same nextMonth
        omega
      · exact .inl (mem_candidates.mpr (.inr starts))

theorem factor_eq {days : ℤ} (h : daysBetween p.first p.last = days) (fullDays : ℤ) :
    factor p fullDays = if fullDays ≤ days then 1 else (days : ℚ) / fullDays := by
  subst h
  rfl

theorem factor_month (h : monthOf d ≤ k) :
    factor ⟨max (monthStart k) d, monthStart (k + 1) - 1⟩ (monthLength k) = shareFrom k d := by
  have month := monthOf_spec d
  rw [shareFrom]
  by_cases same : monthOf d = k
  · subst same
    have first := day_pos d
    have length : (monthLength (monthOf d) : ℚ) ≠ 0 := by
      have := (monthLength_bounds (monthOf d)).1
      exact_mod_cast (by omega : monthLength (monthOf d) ≠ 0)
    have days : daysBetween (max (monthStart (monthOf d)) d) (monthStart (monthOf d + 1) - 1) =
        monthLength (monthOf d) - day d + 1 := by
      simp only [daysBetween, day, monthLength]
      lia
    rw [factor_eq days, if_pos rfl]
    split
    · have isFirst : day d = 1 := by omega
      rw [isFirst, sub_add_cancel, div_self length]
    · rfl
  · have earlier : d < monthStart k :=
      month.2.trans_le (monthStart_le_iff.mpr (by omega))
    have days : daysBetween (max (monthStart k) d) (monthStart (k + 1) - 1) = monthLength k := by
      simp only [daysBetween, monthLength]
      lia
    rw [factor_eq days, if_pos (le_refl _), if_neg same]

variable (until_ : l.BilledUntil coveredUntil today)
include until_

theorem Lease.BilledUntil.first_invoice (autoIssue : Bool) {fullDays : ℤ}
    (found : recurringPeriod (resolvePeriod (monthStart (l.contract.nextMonth coveredUntil today)) none)
      l = some (p, fullDays)) :
    ∃ i : RentInvoice, i.period = some p ∧
      i.netCents = l.contract.baseRent p fullDays + l.contract.insuranceCents p fullDays ∧
      FirstBilled autoIssue (monthOf today + 1) l i ∧
      ∀ i', FirstBilled autoIssue (monthOf today + 1) l i' → i' = i := by
  obtain ⟨i, pushed, period, net⟩ := until_.run_some autoIssue found
  have next : l.contract.nextMonth coveredUntil today =
    max (monthOf today + 1) (monthOf (l.contract.nextStart coveredUntil)) := rfl
  obtain ⟨first, only⟩ := firstBilled_of (k := monthOf today + 1) (by omega)
    (fun j from_k before => until_.run_none autoIssue (by omega)) pushed
  exact ⟨i, period, net, first, only⟩

theorem Lease.BilledUntil.agrees_iff (autoIssue : Bool) {fullDays : ℤ}
    (found : recurringPeriod (resolvePeriod (monthStart (l.contract.nextMonth coveredUntil today)) none)
      l = some (p, fullDays)) :
    ChargeAgrees autoIssue l coveredUntil today ↔
      (if 1 < l.contract.billingIntervalMonths then
          (shownCharge l.contract coveredUntil today).1 = p.first
        else monthOf (shownCharge l.contract coveredUntil today).1 = monthOf p.first) ∧
      (shownCharge l.contract coveredUntil today).2 =
        l.contract.baseRent p fullDays + l.contract.insuranceCents p fullDays := by
  obtain ⟨i, period, net, first, only⟩ := until_.first_invoice autoIssue found
  rw [← net]
  constructor
  · rintro ⟨i', p', first', period', sameDay, sameAmount⟩
    cases only i' first'
    cases period.symm.trans period'
    exact ⟨sameDay, sameAmount⟩
  · rintro ⟨sameDay, sameAmount⟩
    exact ⟨i, p, first, period, sameDay, sameAmount⟩

theorem Lease.BilledUntil.monthly_agrees_iff (autoIssue : Bool) (monthly : l.contract.billingIntervalMonths = 1) :
    ChargeAgrees autoIssue l coveredUntil today ↔ l.contract.foreseen coveredUntil today := by
  have not_prepaid : ¬1 < l.contract.billingIntervalMonths := by omega
  have next : monthOf (l.contract.nextStart coveredUntil) ≤ l.contract.nextMonth coveredUntil today :=
    le_max_right _ _
  have found := until_.monthly monthly (l.contract.nextMonth coveredUntil today)
  rw [if_neg (not_lt.mpr next)] at found
  obtain ⟨k, isMonth, shown⟩ := shownCharge_monthly monthly coveredUntil today
  have inMonth : monthOf (max (monthStart (l.contract.nextMonth coveredUntil today))
      (l.contract.nextStart coveredUntil)) = l.contract.nextMonth coveredUntil today := by
    have month := monthOf_spec (l.contract.nextStart coveredUntil)
    have upTo := monthStart_le_iff.mpr (show monthOf (l.contract.nextStart coveredUntil) + 1 ≤
      l.contract.nextMonth coveredUntil today + 1 by omega)
    have := monthStart_lt_succ (l.contract.nextMonth coveredUntil today)
    exact (monthOf_eq_iff _ _).mpr ⟨le_max_left _ _, by lia⟩
  have rent : l.contract.baseRent ⟨max (monthStart (l.contract.nextMonth coveredUntil today))
      (l.contract.nextStart coveredUntil),
      monthStart (l.contract.nextMonth coveredUntil today + 1) - 1⟩
      (monthLength (l.contract.nextMonth coveredUntil today)) =
      mathRound (l.contract.billedRent * l.contract.nextShare coveredUntil today) := by
    rw [Contract.baseRent, Contract.billedRent, factor_month next, Contract.nextShare]
    split
    · rw [Int.cast_zero, zero_mul, mathRound_zero]
    · simp [monthly]
  have insurance : l.contract.insuranceCents ⟨max (monthStart (l.contract.nextMonth coveredUntil today))
      (l.contract.nextStart coveredUntil),
      monthStart (l.contract.nextMonth coveredUntil today + 1) - 1⟩
      (monthLength (l.contract.nextMonth coveredUntil today)) =
      mathRound ((l.contract.insurancePrice.getD 0 : ℤ) * l.contract.nextShare coveredUntil today) := by
    rw [Contract.insuranceCents, factor_month next, Contract.nextShare, monthly, Int.cast_one, mul_one]
  rw [until_.agrees_iff autoIssue found, if_neg not_prepaid, inMonth, rent, insurance, shown,
    monthOf_monthStart, Contract.foreseen, if_neg not_prepaid, ← until_.month_agrees_iff monthly,
    ← isMonth]
  refine and_congr_right fun same => ?_
  rw [same, until_.share_agrees monthly]

theorem Lease.BilledUntil.prepaid_agrees_iff (autoIssue : Bool) (ahead : 1 < l.contract.billingIntervalMonths) :
    ChargeAgrees autoIssue l coveredUntil today ↔ l.contract.foreseen coveredUntil today := by
  have next : monthOf (l.contract.nextStart coveredUntil) ≤ l.contract.nextMonth coveredUntil today :=
    le_max_right _ _
  have found := until_.prepaid ahead (l.contract.nextMonth coveredUntil today)
  rw [if_neg (not_lt.mpr next)] at found
  rw [until_.agrees_iff autoIssue found, if_pos ahead, Contract.foreseen, if_pos ahead]
  have whole : factor ⟨l.contract.nextStart coveredUntil, BillingJobs.addMonths
      (l.contract.nextStart coveredUntil) l.contract.billingIntervalMonths - 1⟩
      (daysBetween (l.contract.nextStart coveredUntil) (BillingJobs.addMonths
        (l.contract.nextStart coveredUntil) l.contract.billingIntervalMonths - 1)) = 1 := by
    rw [factor_eq rfl, if_pos (le_refl _)]
  refine and_congr ?_ ?_
  · have begun := until_.begun
    have later := (monthOf_spec today).2
    cases coveredUntil with
    | some v => simp [shownCharge, nextContractCharge, ahead, Contract.nextStart]
    | none =>
      cases starts : l.contract.billingStartsOn with
      | some b => simp [shownCharge, nextContractCharge, ahead, Contract.nextStart, starts]
      | none =>
        simp only [shownCharge, nextContractCharge, ahead, if_true, Contract.nextStart, starts,
          Option.map_none, Option.getD_none, Option.isSome_none, Bool.false_eq_true, or_self, iff_false]
        intro same
        have : monthStart (monthOf today + 1) = l.contract.startDate := same
        lia
  · have rent : l.contract.baseRent ⟨l.contract.nextStart coveredUntil, BillingJobs.addMonths
        (l.contract.nextStart coveredUntil) l.contract.billingIntervalMonths - 1⟩
        (daysBetween (l.contract.nextStart coveredUntil) (BillingJobs.addMonths
          (l.contract.nextStart coveredUntil) l.contract.billingIntervalMonths - 1)) =
        mathRound (l.contract.billedRent * (1 - l.contract.prepayDiscountPct / 100) *
          l.contract.billingIntervalMonths) := by
      have not_free : l.contract.isFreeMonth = false := by
        simp only [Contract.isFreeMonth, Bool.and_eq_false_iff, beq_eq_false_iff_ne]
        exact .inl (by omega)
      rw [Contract.baseRent, whole, not_free, Contract.billedRent, not_free]
      simp only [Bool.false_eq_true, if_false, ahead, if_true, mul_one]
      push_cast
      ring_nf
    have insurance : l.contract.insuranceCents ⟨l.contract.nextStart coveredUntil,
        BillingJobs.addMonths (l.contract.nextStart coveredUntil)
          l.contract.billingIntervalMonths - 1⟩
        (daysBetween (l.contract.nextStart coveredUntil) (BillingJobs.addMonths
          (l.contract.nextStart coveredUntil) l.contract.billingIntervalMonths - 1)) =
        l.contract.insurancePrice.getD 0 * l.contract.billingIntervalMonths := by
      rw [Contract.insuranceCents, whole, mul_one, ← Int.cast_mul, mathRound_intCast]
    have shown : (shownCharge l.contract coveredUntil today).2 =
        mathRound (l.contract.shownRent * (1 - l.contract.prepayDiscountPct / 100) *
          l.contract.billingIntervalMonths) +
          l.contract.insurancePrice.getD 0 * l.contract.billingIntervalMonths := by
      have rent : (if 0 < l.contract.freeMonthsRemaining then (0 : ℚ) else
          (max 0 (l.contract.priceMonthly - l.contract.discountAmount) : ℤ)) =
          l.contract.shownRent := by
        rw [Contract.shownRent]
        split <;> rfl
      simp only [shownCharge, nextContractCharge, ahead, if_true, rent]
      rw [← mathRound_add_intCast]
      congr 1
      push_cast
      ring
    rw [rent, insurance, shown]
    omega

end

/-- A contract from January 2026 that is billed from a later day on, without invoices so far. -/
def billedFrom (billingStartsOn : Date) (billingIntervalMonths freeMonths : ℤ) : Lease where
  contract :=
    { fromMidMonth with
      startDate := date 2026 1 10
      endDate := none
      billingStartsOn := some billingStartsOn
      billingIntervalMonths := billingIntervalMonths
      insurancePrice := some 1001
      priceMonthly := 10001
      freeMonthsRemaining := freeMonths }
  invoices := .empty

theorem billedFrom_billedUntil {billingStartsOn : Date} {billingIntervalMonths : ℤ}
    (freeMonths : ℤ) {today : Date} (begun : date 2026 1 10 ≤ today)
    (interval : 1 ≤ billingIntervalMonths) :
    (billedFrom billingStartsOn billingIntervalMonths freeMonths).BilledUntil none today where
  billed := rfl
  begun := begun
  interval := interval
  insured := by
    intro price mem
    cases mem
    decide
  endDate := rfl
  credit := le_refl 0
  last := rfl
  unbilled := fun _ _ => rfl
  covered := by simp

end StorageOS
