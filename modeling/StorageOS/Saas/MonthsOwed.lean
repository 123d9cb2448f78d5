import StorageOS.Saas.PeriodPayments

/-! The months that a subscription owes, counted from the end of its paid period, and the payments that pay
them. Each payment adds its months to the end that the one before it has left. -/

namespace StorageOS

open Gregorian

def maxPeriods : ℕ := 36

/-- The count of `periodsOwed`, with at most `left` periods to go. -/
def periodsOwedFrom (since now : Instant) (stepMonths : ℕ) : ℕ → ℕ → ℕ
  | 0, n => n
  | left + 1, n =>
    if addMonthsTo since (n * stepMonths : ℕ) ≤ now then periodsOwedFrom since now stepMonths left (n + 1) else n

/-- The periods that have started since a date, paid by nobody. -/
def periodsOwed (since now : Instant) (stepMonths : ℕ) (chargedByStripe : Bool) : ℕ :=
  if chargedByStripe || now < since then 1 else periodsOwedFrom since now stepMonths (maxPeriods - 1) 1

/-- The account after payments of these months, none of which repeats one of the last minute. -/
def SaasAccount.pay (now : Instant) (account : SaasAccount) (payments : List ℕ) : SaasAccount :=
  payments.foldl (fun account months => account.recordManualPayment months now) account

/-- The months are paid in full by any payments that add up to them, and by no fewer. -/
structure SaasAccount.ClearedBy (account : SaasAccount) (now : Instant) (owed : ℕ) : Prop where
  paid : ∀ payments : List ℕ, (∀ m ∈ payments, 0 < m) → payments.sum = owed →
    (account.pay now payments).subscription.currentPeriodEnd =
        addMonthsTo account.subscription.currentPeriodEnd owed ∧
      now < (account.pay now payments).subscription.currentPeriodEnd ∧
      (account.pay now payments).subscription.status = .active
  unpaid : ∀ payments : List ℕ, (∀ m ∈ payments, 0 < m) → payments ≠ [] → payments.sum < owed →
    (account.pay now payments).subscription.status = .pastDue

/-! ### The period end -/

section

variable {moment now : Instant} {m n : ℕ}

theorem addMonthsTo_day (moment : Instant) (months : ℤ) :
    addMonthsTo moment months / saasDayMs = addMonths (moment / saasDayMs) months := by
  have whole : ∀ day time : ℤ, (day * 86400000 + time % 86400000) / 86400000 = day := by omega
  exact whole _ moment

theorem addMonthsTo_time (moment : Instant) (months : ℤ) :
    addMonthsTo moment months % saasDayMs = moment % saasDayMs := by
  have rest : ∀ day time : ℤ, (day * 86400000 + time % 86400000) % 86400000 = time % 86400000 := by omega
  exact rest _ moment

@[simp] theorem addMonthsTo_zero (moment : Instant) : addMonthsTo moment 0 = moment := by
  rw [addMonthsTo, addMonths_zero]
  exact Int.ediv_mul_add_emod _ _

/-- Months added in two parts lose what the month in between is too short for. -/
theorem addMonthsTo_parts (moment : Instant) (j k : ℤ) :
    addMonthsTo (addMonthsTo moment j) k =
      Gregorian.onDay (monthOf (moment / saasDayMs) + (j + k))
          (min (day (moment / saasDayMs)) (monthLength (monthOf (moment / saasDayMs) + j))) * saasDayMs +
        moment % saasDayMs := by
  rw [addMonthsTo, addMonthsTo_day, addMonthsTo_time, addMonths_eq_onDay, monthOf_addMonths, day_addMonths, add_assoc]

theorem addMonthsTo_parts_le (moment : Instant) (j k : ℤ) :
    addMonthsTo (addMonthsTo moment j) k ≤ addMonthsTo moment (j + k) := by
  rw [addMonthsTo_parts, addMonthsTo, addMonths_eq_onDay, Gregorian.onDay, Gregorian.onDay]
  have shorter : min (min (day (moment / saasDayMs)) (monthLength (monthOf (moment / saasDayMs) + j)))
        (monthLength (monthOf (moment / saasDayMs) + (j + k))) ≤
      min (day (moment / saasDayMs)) (monthLength (monthOf (moment / saasDayMs) + (j + k))) :=
    min_le_min_right _ (min_le_left _ _)
  rw [saasDayMs]
  lia

/-- They lose nothing when the month in between has the day they end on. -/
theorem addMonthsTo_parts_iff (moment : Instant) (j k : ℤ) :
    addMonthsTo (addMonthsTo moment j) k = addMonthsTo moment (j + k) ↔
      min (day (moment / saasDayMs)) (monthLength (monthOf (moment / saasDayMs) + (j + k))) ≤
        monthLength (monthOf (moment / saasDayMs) + j) := by
  rw [addMonthsTo_parts, addMonthsTo, addMonths_eq_onDay, Gregorian.onDay, Gregorian.onDay, saasDayMs]
  lia

theorem replay_le (moment : Instant) (payments : List ℕ) :
    replay moment payments ≤ addMonthsTo moment payments.sum := by
  induction payments generalizing moment with
  | nil => exact (addMonthsTo_zero moment).ge
  | cons m rest ih =>
    rw [List.sum_cons, Nat.cast_add]
    exact (ih (addMonthsTo moment m)).trans (addMonthsTo_parts_le moment m rest.sum)

/-- No month on the way is shorter than the day on which the months end. -/
def keepsDay (moment : Instant) (months : ℕ) : Prop :=
  ∀ k : ℕ, 0 < k → k < months →
    min (day (moment / saasDayMs)) (monthLength (monthOf (moment / saasDayMs) + months)) ≤
      monthLength (monthOf (moment / saasDayMs) + k)

theorem keepsDay.after (keeps : keepsDay moment (m + n)) : keepsDay (addMonthsTo moment m) n := by
  intro k pos less
  have here := keeps (m + k) (by omega) (by omega)
  rw [addMonthsTo_day, monthOf_addMonths, day_addMonths]
  push_cast at here
  rw [add_assoc, add_assoc]
  exact le_trans (min_le_min_right _ (min_le_left _ _)) here

theorem replay_of_keepsDay (keeps : keepsDay moment n) {payments : List ℕ} (positive : ∀ m ∈ payments, 0 < m)
    (whole : payments.sum = n) : replay moment payments = addMonthsTo moment n := by
  induction payments generalizing moment n with
  | nil =>
    rw [← whole]
    exact (addMonthsTo_zero moment).symm
  | cons m rest ih =>
    rw [List.sum_cons] at whole
    subst whole
    have later : ∀ m ∈ rest, 0 < m := fun m mem => positive m (List.mem_cons_of_mem _ mem)
    have tail : replay (addMonthsTo moment m) rest = addMonthsTo (addMonthsTo moment m) rest.sum :=
      ih keeps.after later rfl
    have first : 0 < m := positive m List.mem_cons_self
    refine Eq.trans tail ?_
    rw [Nat.cast_add, addMonthsTo_parts_iff]
    rcases Nat.eq_zero_or_pos rest.sum with none_ | some_
    · rw [none_, Nat.cast_zero, add_zero]
      exact min_le_right _ _
    · exact_mod_cast keeps m first (by omega)

/-! ### The account -/

variable {account : SaasAccount} {payments : List ℕ}

theorem SaasAccount.pay_end (account : SaasAccount) (now : Instant) (payments : List ℕ) :
    (account.pay now payments).subscription.currentPeriodEnd =
      replay account.subscription.currentPeriodEnd payments := by
  induction payments generalizing account with
  | nil => rfl
  | cons m rest ih => exact ih (account.recordManualPayment m now)

theorem SaasAccount.pay_status (some_ : payments ≠ []) :
    (account.pay now payments).subscription.status =
      if now < (account.pay now payments).subscription.currentPeriodEnd then .active else .pastDue := by
  rcases List.eq_nil_or_concat payments with rfl | ⟨before, m, rfl⟩
  · exact absurd rfl some_
  · rw [SaasAccount.pay, List.concat_eq_append, List.foldl_append, List.foldl_cons, List.foldl_nil,
      SaasAccount.recordManualPayment]

/-! ### The months owed -/

theorem periodsOwedFrom_spec (since now : Instant) (left n : ℕ) :
    n ≤ periodsOwedFrom since now 1 left n ∧
      (∀ m, n ≤ m → m < periodsOwedFrom since now 1 left n → addMonthsTo since m ≤ now) ∧
      (periodsOwedFrom since now 1 left n = n + left ∨
        now < addMonthsTo since (periodsOwedFrom since now 1 left n)) := by
  induction left generalizing n with
  | zero => exact ⟨le_rfl, fun m from_ less => absurd from_ (not_le.mpr less), .inl rfl⟩
  | succ left ih =>
    rw [periodsOwedFrom, mul_one]
    split
    · rename_i started
      obtain ⟨more, all, ends⟩ := ih (n + 1)
      refine ⟨by omega, fun m from_ less => ?_, ends.imp_left fun same => by omega⟩
      rcases from_.eq_or_lt with rfl | later
      · exact started
      · exact all m later less
    · rename_i open_
      exact ⟨le_rfl, fun m from_ less => absurd from_ (not_le.mpr less), .inr (not_le.mp open_)⟩

/-- Within the cap, the months owed are the fewest that reach beyond the present. -/
theorem periodsOwed_spec {since : Instant} (within : now < addMonthsTo since maxPeriods) :
    0 < periodsOwed since now 1 false ∧ now < addMonthsTo since (periodsOwed since now 1 false) ∧
      ∀ m, 0 < m → m < periodsOwed since now 1 false → addMonthsTo since m ≤ now := by
  rw [periodsOwed, Bool.false_or]
  split
  · rename_i early
    refine ⟨one_pos, ?_, fun m pos less => by omega⟩
    exact (of_decide_eq_true early).trans (lt_addMonthsTo since (by norm_num))
  · obtain ⟨pos, all, ends⟩ := periodsOwedFrom_spec since now (maxPeriods - 1) 1
    refine ⟨pos, ?_, all⟩
    rcases ends with capped | open_
    · rw [capped]
      exact within
    · exact open_

/-- Paying the months owed clears the debt, however they are split, exactly when no month on the way is
shorter than the day on which the paid period ends. -/
theorem months_owed_clear (account : SaasAccount) (now : Instant)
    (within : now < addMonthsTo account.subscription.currentPeriodEnd maxPeriods) :
    account.ClearedBy now (periodsOwed account.subscription.currentPeriodEnd now 1 false) ↔
      keepsDay account.subscription.currentPeriodEnd
        (periodsOwed account.subscription.currentPeriodEnd now 1 false) := by
  obtain ⟨owes, reached, unreached⟩ := periodsOwed_spec within
  generalize periodsOwed account.subscription.currentPeriodEnd now 1 false = owed at owes reached unreached
  constructor
  · intro cleared k pos less
    have split := (cleared.paid [k, owed - k] (by simp; omega) (by simp; omega)).1
    rw [SaasAccount.pay_end] at split
    have parts : addMonthsTo (addMonthsTo account.subscription.currentPeriodEnd k) (owed - k : ℕ) =
        addMonthsTo account.subscription.currentPeriodEnd (k + (owed - k : ℕ)) := by
      rw [← Nat.cast_add, Nat.add_sub_cancel' less.le]
      exact split
    have kept := (addMonthsTo_parts_iff _ _ _).mp parts
    rwa [← Nat.cast_add, Nat.add_sub_cancel' less.le] at kept
  · refine fun keeps => ⟨fun payments positive whole => ?_, fun payments positive some_ fewer => ?_⟩
    · have ends := replay_of_keepsDay keeps positive whole
      have some_ : payments ≠ [] := by
        rintro rfl
        exact owes.ne whole
      rw [SaasAccount.pay_status some_, SaasAccount.pay_end, ends, if_pos reached]
      exact ⟨rfl, reached, rfl⟩
    · have pos : 0 < payments.sum := List.sum_pos payments positive some_
      have ends := (replay_le account.subscription.currentPeriodEnd payments).trans (unreached _ pos fewer)
      rw [SaasAccount.pay_status some_, SaasAccount.pay_end, if_neg (not_lt.mpr ends)]

end

/-! ### A period that ends on 31 January -/

def paidUntil (month day : ℤ) : SaasAccount where
  subscription := ⟨.pastDue, .manual, none, 0, date 2026 month day * saasDayMs, 0, 4900⟩
  tenant := ⟨.active, false, none, false, none, none⟩

/-- On 20 March two months are owed since 15 February, and one or two payments pay them. -/
theorem months_owed_clear_february :
    (paidUntil 2 15).ClearedBy (date 2026 3 20 * saasDayMs)
      (periodsOwed (date 2026 2 15 * saasDayMs) (date 2026 3 20 * saasDayMs) 1 false) :=
  (months_owed_clear (paidUntil 2 15) (date 2026 3 20 * saasDayMs) (by decide +kernel)).mpr (by
    have owed :
        periodsOwed (paidUntil 2 15).subscription.currentPeriodEnd (date 2026 3 20 * saasDayMs) 1 false = 2 := by
      decide +kernel
    rw [owed]
    intro k pos less
    obtain rfl : k = 1 := by omega
    decide +kernel)

/-- On 29 March two months are owed since 31 January; paid one by one they end on 28 March. -/
theorem months_owed_left :
    periodsOwed (date 2026 1 31 * saasDayMs) (date 2026 3 29 * saasDayMs) 1 false = 2 ∧
      ((paidUntil 1 31).pay (date 2026 3 29 * saasDayMs) [1, 1]).subscription.status = .pastDue ∧
      ¬(paidUntil 1 31).ClearedBy (date 2026 3 29 * saasDayMs)
        (periodsOwed (date 2026 1 31 * saasDayMs) (date 2026 3 29 * saasDayMs) 1 false) := by
  have owed : periodsOwed (date 2026 1 31 * saasDayMs) (date 2026 3 29 * saasDayMs) 1 false = 2 := by
    decide +kernel
  have left : ((paidUntil 1 31).pay (date 2026 3 29 * saasDayMs) [1, 1]).subscription.status = .pastDue := by
    decide +kernel
  refine ⟨owed, left, fun cleared => ?_⟩
  rw [owed] at cleared
  have paid := (cleared.paid [1, 1] (by simp) rfl).2.2
  rw [left] at paid
  cases paid

end StorageOS
