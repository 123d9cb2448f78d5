import StorageOS.Billing.FirstMonth
import StorageOS.Billing.Months
import StorageOS.Collections.PaymentPlans

/-! The arithmetic of payment plans in euros: how a total is split in installments, and how what is
paid is allotted to them. -/

namespace StorageOS.CollectionsOps

open Gregorian

structure Installment where
  dueDate : Date
  amount : ℚ

structure InstallmentDto where
  dueDate : Date
  amount : ℚ
  /-- What has been covered of the installment. -/
  paid : ℚ
  status : InstallmentStatus

def addDays (d : Date) (n : ℤ) : Date := d + n

def addMonths (d : Date) (n : ℤ) : Date :=
  let last := day (dateUTC (year d) (month d - 1 + n + 1) 0)
  dateUTC (year d) (month d - 1 + n) (min (day d) last)

/-- What is left of a payment goes through the installments in order. -/
def allocate (today : Date) (graceDays : ℤ) : ℤ → List Installment → List InstallmentDto
  | _, [] => []
  | left, i :: rest =>
    let cents := mathRound (i.amount * 100)
    let covered := max 0 (min cents left)
    let graceEnd := addDays i.dueDate graceDays
    let status : InstallmentStatus :=
      if covered ≥ cents then .paid
      else if today > graceEnd then .late
      else if covered > 0 then .partlyPaid
      else .pending
    ⟨i.dueDate, i.amount, euros covered, status⟩ :: allocate today graceDays (left - covered) rest

/-- What has been paid of each installment, in order, with what has been collected by today. -/
def allocateInstallments (installments : List Installment) (paid : ℚ) (today : Date) (graceDays : ℤ) :
    List InstallmentDto :=
  allocate today graceDays (mathRound (paid * 100)) installments

/-- Splits a total in installments; the last one takes the remaining cents. -/
def buildInstallments (total : ℚ) (count : ℕ) (firstDueDate : Date) (frequency : PlanFrequency) :
    List Installment :=
  let cents := mathRound (total * 100)
  let base := cents / count
  (List.range count).map fun (k : ℕ) =>
    { dueDate :=
        if frequency = .monthly then addMonths firstDueDate k
        else addDays firstDueDate (k * (if frequency = .weekly then 7 else 14))
      amount := euros (if (k : ℤ) = count - 1 then cents - base * (count - 1) else base) }

def inCents (amount : ℚ) : ℚ := euros (mathRound (amount * 100))

@[simp] theorem mathRound_euros (cents : ℤ) : mathRound (euros cents * 100) = cents := by
  rw [euros, div_mul_cancel₀ _ (by norm_num), mathRound_intCast]

@[simp] theorem inCents_euros (cents : ℤ) : inCents (euros cents) = euros cents := by
  rw [inCents, mathRound_euros]

theorem euros_le_euros {a b : ℤ} : euros a ≤ euros b ↔ a ≤ b := by
  rw [euros, euros, div_le_div_iff_of_pos_right (by norm_num), Int.cast_le]

@[simp] theorem euros_zero : euros 0 = 0 := by simp [euros]

theorem euros_add (a b : ℤ) : euros (a + b) = euros a + euros b := by
  rw [euros, euros, euros, Int.cast_add, add_div]

theorem sum_euros (l : List ℤ) : (l.map euros).sum = euros l.sum := by
  induction l with
  | nil => simp
  | cons a l ih => rw [List.map_cons, List.sum_cons, ih, List.sum_cons, euros_add]

/-! ### The split of a total -/

section

variable {total : ℚ} {count k : ℕ} {firstDueDate : Date} {frequency : PlanFrequency}

/-- The day of the month of the first date is kept, or is the last day of a shorter month. -/
theorem addMonths_eq_onDay (d : Date) : ∃ m, (∀ n, addMonths d n = onDay (m + n) (day d)) ∧
    (100 ≤ year d → m = monthOf d) := by
  set y := if 0 ≤ year d ∧ year d ≤ 99 then 1900 + year d else year d with hy
  refine ⟨12 * y + (month d - 1), fun n => ?_, fun modern => ?_⟩
  · have later : 12 * y + (month d - 1 + n + 1) = 12 * y + (month d - 1) + n + 1 := by omega
    have last : day (monthStart (12 * y + (month d - 1 + n + 1)) + 0 - 1) =
        monthLength (12 * y + (month d - 1) + n) := by
      have long := monthLength_bounds (12 * y + (month d - 1) + n)
      rw [add_zero, later, monthStart_sub_one, day_onDay (by omega), min_self]
    rw [addMonths, dateUTC, dateUTC, ← hy, last, onDay, ← add_assoc]
  · rw [hy, if_neg (by omega)]
    simp only [month, year]
    omega

theorem monthOf_addMonths (d : Date) (n : ℤ) : monthOf (addMonths d n) = monthOf (addMonths d 0) + n := by
  obtain ⟨m, months, -⟩ := addMonths_eq_onDay d
  rw [months, months, monthOf_onDay (day_pos d), monthOf_onDay (day_pos d), add_zero]

theorem day_addMonths (d : Date) (n : ℤ) :
    day (addMonths d n) = min (day d) (monthLength (monthOf (addMonths d n))) := by
  obtain ⟨m, months, -⟩ := addMonths_eq_onDay d
  rw [months, day_onDay (day_pos d), monthOf_onDay (day_pos d)]

theorem addMonths_lt {d : Date} {j k : ℤ} (h : j < k) : addMonths d j < addMonths d k := by
  obtain ⟨m, months, -⟩ := addMonths_eq_onDay d
  rw [months, months, onDay_lt_iff (day_pos d)]
  omega

theorem addMonths_zero {d : Date} (modern : 100 ≤ year d) : addMonths d 0 = d := by
  obtain ⟨m, months, own⟩ := addMonths_eq_onDay d
  rw [months, own modern, add_zero, onDay_day]

def dueDate (firstDueDate : Date) (frequency : PlanFrequency) (k : ℕ) : Date :=
  if frequency = .monthly then addMonths firstDueDate k
  else addDays firstDueDate (k * (if frequency = .weekly then 7 else 14))

theorem dueDate_lt {j : ℕ} (h : j < k) :
    dueDate firstDueDate frequency j < dueDate firstDueDate frequency k := by
  cases frequency with
  | monthly => exact addMonths_lt (by omega)
  | weekly | biweekly =>
    simp only [dueDate, addDays, reduceCtorEq, ↓reduceIte]
    apply Int.add_lt_add_left
    omega

theorem dueDates_buildInstallments :
    (buildInstallments total count firstDueDate frequency).map Installment.dueDate =
      (List.range count).map (dueDate firstDueDate frequency) := by
  rw [buildInstallments, List.map_map]
  rfl

theorem dueDate_of_getElem? {i : Installment}
    (found : (buildInstallments total count firstDueDate frequency)[k]? = some i) :
    i.dueDate = dueDate firstDueDate frequency k := by
  have row : ((buildInstallments total count firstDueDate frequency).map Installment.dueDate)[k]? =
      some i.dueDate := by
    rw [List.getElem?_map, found, Option.map_some]
  rw [dueDates_buildInstallments, List.getElem?_map, Option.map_eq_some_iff] at row
  obtain ⟨j, there, same⟩ := row
  obtain ⟨lt, there⟩ := List.getElem?_eq_some_iff.mp there
  have own : (List.range count)[k] = k := List.getElem_range lt
  rw [← same, ← there, own]

theorem amounts_buildInstallments :
    (buildInstallments total count firstDueDate frequency).map Installment.amount =
      ((StorageOS.buildInstallments (mathRound (total * 100)) count firstDueDate frequency).map
        StorageOS.Installment.amount).map euros := by
  rw [buildInstallments, StorageOS.buildInstallments, List.map_map, List.map_map, List.map_map]
  refine List.map_congr_left fun k _ => ?_
  have last : ((k : ℤ) = count - 1) = (k + 1 = count) := by
    apply propext
    constructor <;> intro h <;> omega
  simp [last]

theorem sum_amounts (some_ : 0 < count) :
    ((buildInstallments total count firstDueDate frequency).map Installment.amount).sum = inCents total := by
  rw [amounts_buildInstallments, sum_euros, sum_buildInstallments _ some_, inCents]

theorem amounts_nonneg (owed : 0 ≤ total) :
    ∀ i ∈ buildInstallments total count firstDueDate frequency, 0 ≤ i.amount := by
  intro i mem
  simp only [buildInstallments, List.mem_map, List.mem_range] at mem
  obtain ⟨k, lt, rfl⟩ := mem
  have whole : 0 ≤ mathRound (total * 100) := mathRound_nonneg (mul_nonneg owed (by norm_num))
  generalize mathRound (total * 100) = cents at whole
  have base : 0 ≤ cents / count := Int.ediv_nonneg whole (by omega)
  have all : cents / count * (count - 1) ≤ cents := by
    have := Int.ediv_mul_le cents (by omega : (count : ℤ) ≠ 0)
    rw [mul_sub, mul_one]
    omega
  rw [← euros_zero, euros_le_euros]
  split
  · omega
  · exact base

end

/-- What a split of a total is to be: amounts to pay that add up to the total, and due dates that
increase, on the same day of each month when they are monthly. -/
structure IsSchedule (total : ℚ) (count : ℕ) (firstDueDate : Date) (frequency : PlanFrequency)
    (plan : List Installment) : Prop where
  length : plan.length = count
  nonneg : ∀ i ∈ plan, 0 ≤ i.amount
  sum : (plan.map Installment.amount).sum = inCents total
  exact : ∀ cents, total = euros cents → (plan.map Installment.amount).sum = total
  increasing : (plan.map Installment.dueDate).Pairwise (· < ·)
  -- Monthly dates of the years 0 to 99 are read as of the twentieth century.
  first : 100 ≤ year firstDueDate ∨ frequency ≠ .monthly →
    ∀ i, plan[0]? = some i → i.dueDate = firstDueDate
  monthly : frequency = .monthly → ∀ (k : ℕ) i, plan[k]? = some i →
    monthOf i.dueDate = monthOf (addMonths firstDueDate 0) + k ∧
      day i.dueDate = min (day firstDueDate) (monthLength (monthOf i.dueDate))

theorem isSchedule_buildInstallments {total : ℚ} {count : ℕ} (owed : 0 ≤ total) (some_ : 0 < count)
    (firstDueDate : Date) (frequency : PlanFrequency) :
    IsSchedule total count firstDueDate frequency
      (buildInstallments total count firstDueDate frequency) where
  length := by simp [buildInstallments]
  nonneg := amounts_nonneg owed
  sum := sum_amounts some_
  exact := by
    intro cents whole
    rw [sum_amounts some_, whole, inCents_euros]
  increasing := by
    rw [dueDates_buildInstallments, List.pairwise_map]
    exact List.pairwise_lt_range.imp dueDate_lt
  first := by
    intro own i found
    rw [dueDate_of_getElem? found]
    cases frequency with
    | monthly => exact addMonths_zero (own.resolve_right fun h => h rfl)
    | weekly | biweekly => simp [dueDate, addDays]
  monthly := by
    intro monthly k i found
    rw [dueDate_of_getElem? found, dueDate, if_pos monthly]
    exact ⟨monthOf_addMonths _ _, day_addMonths _ _⟩

/-! ### The allotment of a payment -/

/-- What an allotment of each amount paid to the installments is to be. -/
structure IsAllotment (installments : List Installment) (allotted : ℚ → List InstallmentDto) : Prop where
  same : ∀ paid, (allotted paid).map (fun r => (⟨r.dueDate, r.amount⟩ : Installment)) = installments
  bounds : ∀ paid, ∀ r ∈ allotted paid, 0 ≤ r.paid ∧ r.paid ≤ inCents r.amount
  sum : ∀ paid, ((allotted paid).map InstallmentDto.paid).sum =
    min (max (inCents paid) 0) (installments.map fun i => inCents i.amount).sum
  exact : (∀ i ∈ installments, inCents i.amount = i.amount) → ∀ cents,
    ((allotted (euros cents)).map InstallmentDto.paid).sum =
      min (max (euros cents) 0) (installments.map Installment.amount).sum
  -- Before an installment on which something is paid, all are covered.
  inOrder : ∀ paid, (allotted paid).Pairwise fun a b => 0 < b.paid → a.paid = inCents a.amount
  monotone : ∀ paid more, paid ≤ more →
    List.Forall₂ (fun a b => a.paid ≤ b.paid) (allotted paid) (allotted more)
  onTime : ∀ paid, ∀ r ∈ allotted paid, r.paid = inCents r.amount → r.status = .paid

section

variable {today : Date} {graceDays left : ℤ} {installments : List Installment}

theorem same_allocate : (allocate today graceDays left installments).map
    (fun r => (⟨r.dueDate, r.amount⟩ : Installment)) = installments := by
  induction installments generalizing left with
  | nil => rfl
  | cons i rest ih => rw [allocate, List.map_cons, ih]

theorem forall_allocate {p : InstallmentDto → Prop}
    (each : ∀ left, ∀ i ∈ installments, ∀ r ∈ allocate today graceDays left [i], p r) :
    ∀ r ∈ allocate today graceDays left installments, p r := by
  induction installments generalizing left with
  | nil =>
    intro r mem
    cases mem
  | cons i rest ih =>
    intro r mem
    rw [allocate, List.mem_cons] at mem
    rcases mem with first | mem
    · apply each left i List.mem_cons_self
      rw [allocate, first]
      exact List.mem_cons_self
    · exact ih (fun left i mem => each left i (List.mem_cons_of_mem _ mem)) r mem

theorem cents_nonneg (owed : ∀ i ∈ installments, 0 ≤ i.amount) :
    ∀ i ∈ installments, 0 ≤ mathRound (i.amount * 100) :=
  fun i mem => mathRound_nonneg (mul_nonneg (owed i mem) (by norm_num))

theorem bounds_allocate (owed : ∀ i ∈ installments, 0 ≤ i.amount) :
    ∀ r ∈ allocate today graceDays left installments, 0 ≤ r.paid ∧ r.paid ≤ inCents r.amount := by
  refine forall_allocate fun left i mem r row => ?_
  have cents := cents_nonneg owed i mem
  rw [allocate, allocate, List.mem_singleton] at row
  simp only [row, inCents]
  rw [← euros_zero, euros_le_euros, euros_le_euros]
  omega

theorem onTime_allocate :
    ∀ r ∈ allocate today graceDays left installments, r.paid = inCents r.amount → r.status = .paid := by
  refine forall_allocate fun left i mem r row covered => ?_
  rw [allocate, allocate, List.mem_singleton] at row
  subst row
  exact if_pos (euros_le_euros.mp covered.ge)

theorem paid_allocate_of_nonpos (spent : left ≤ 0) :
    ∀ r ∈ allocate today graceDays left installments, r.paid = 0 := by
  induction installments generalizing left with
  | nil =>
    intro r mem
    cases mem
  | cons i rest ih =>
    intro r mem
    have covered : max 0 (min (mathRound (i.amount * 100)) left) = 0 := by omega
    rw [allocate, covered, List.mem_cons] at mem
    rcases mem with rfl | mem
    · exact euros_zero
    · exact ih (by omega) r mem

theorem inOrder_allocate (owed : ∀ i ∈ installments, 0 ≤ i.amount) :
    (allocate today graceDays left installments).Pairwise
      fun a b => 0 < b.paid → a.paid = inCents a.amount := by
  induction installments generalizing left with
  | nil => exact .nil
  | cons i rest ih =>
    have cents := cents_nonneg owed i List.mem_cons_self
    rw [allocate]
    refine .cons (fun r mem paid => ?_) (ih fun j mem => owed j (List.mem_cons_of_mem _ mem))
    have covered : max 0 (min (mathRound (i.amount * 100)) left) = mathRound (i.amount * 100) := by
      by_contra open_
      have none_ := paid_allocate_of_nonpos (by omega) r mem
      rw [none_] at paid
      exact lt_irrefl 0 paid
    exact congrArg euros covered

theorem sum_allocate (owed : ∀ i ∈ installments, 0 ≤ i.amount) :
    ((allocate today graceDays left installments).map InstallmentDto.paid).sum =
      min (max (euros left) 0) (installments.map fun i => inCents i.amount).sum := by
  have inWhole : (installments.map fun i => inCents i.amount).sum =
      euros (installments.map fun i => mathRound (i.amount * 100)).sum := by
    rw [← sum_euros, List.map_map]
    rfl
  have mono : Monotone euros := fun a b h => euros_le_euros.mpr h
  rw [inWhole, ← euros_zero, ← mono.map_max, ← mono.map_min]
  clear inWhole
  induction installments generalizing left with
  | nil =>
    rw [allocate, List.map_nil, List.sum_nil, List.map_nil, List.sum_nil, ← euros_zero]
    congr 1
    omega
  | cons i rest ih =>
    have cents := cents_nonneg owed i List.mem_cons_self
    have others : ∀ j ∈ rest, 0 ≤ j.amount := fun j mem => owed j (List.mem_cons_of_mem _ mem)
    have more : 0 ≤ (rest.map fun i => mathRound (i.amount * 100)).sum := by
      refine List.sum_nonneg fun c mem => ?_
      obtain ⟨j, row, rfl⟩ := List.mem_map.mp mem
      exact cents_nonneg others j row
    rw [allocate, List.map_cons, List.sum_cons, ih others, ← euros_add, List.map_cons, List.sum_cons]
    congr 1
    omega

theorem mono_allocate {more : ℤ} (le : left ≤ more) :
    List.Forall₂ (fun a b => a.paid ≤ b.paid) (allocate today graceDays left installments)
      (allocate today graceDays more installments) := by
  induction installments generalizing left more with
  | nil => exact .nil
  | cons i rest ih =>
    rw [allocate, allocate]
    refine .cons ?_ (ih ?_)
    · rw [euros_le_euros]
      omega
    · omega

end

theorem isAllotment_allocateInstallments {installments : List Installment}
    (owed : ∀ i ∈ installments, 0 ≤ i.amount) (today : Date) (graceDays : ℤ) :
    IsAllotment installments fun paid => allocateInstallments installments paid today graceDays where
  same _ := same_allocate
  bounds _ := bounds_allocate owed
  sum _ := sum_allocate owed
  exact := by
    intro whole cents
    have amounts : installments.map (fun i => inCents i.amount) = installments.map Installment.amount :=
      List.map_congr_left whole
    rw [allocateInstallments, sum_allocate owed, mathRound_euros, amounts]
  inOrder _ := inOrder_allocate owed
  monotone _ _ le := mono_allocate (mathRound_mono (by linarith))
  onTime _ := onTime_allocate

/-- A total that is owed is split in installments that add up to it, due one after the other, and
what is paid covers the installments in order. -/
theorem installments_add_up {total : ℚ} {count : ℕ} {installments : List Installment} (owed : 0 ≤ total)
    (some_ : 0 < count) (each : ∀ i ∈ installments, 0 ≤ i.amount) (firstDueDate : Date)
    (frequency : PlanFrequency) (today : Date) (graceDays : ℤ) :
    IsSchedule total count firstDueDate frequency
        (buildInstallments total count firstDueDate frequency) ∧
      IsAllotment installments fun paid => allocateInstallments installments paid today graceDays :=
  ⟨isSchedule_buildInstallments owed some_ firstDueDate frequency,
    isAllotment_allocateInstallments each today graceDays⟩

theorem installments_add_up_thirds : IsSchedule 100 3 (date 2026 1 31) .monthly
        (buildInstallments 100 3 (date 2026 1 31) .monthly) ∧
      IsAllotment [⟨date 2026 1 31, 30⟩, ⟨date 2026 2 28, 30⟩] fun paid =>
        allocateInstallments [⟨date 2026 1 31, 30⟩, ⟨date 2026 2 28, 30⟩] paid (date 2026 3 9) 7 :=
  installments_add_up (by norm_num) (by decide) (by simp) _ _ _ _

end StorageOS.CollectionsOps
