import Mathlib.Data.List.MinMax
import StorageOS.Billing.Months
import StorageOS.Saas.PlatformInvoices
import StorageOS.Saas.Subscriptions

/-! The payments of subscriptions recorded by `recordManualPayment`, with the periods that they pay, and the
period end as the sum of them. -/

namespace StorageOS

open Gregorian

inductive SaasPaymentProvider
  | stripe
  | paypal
  | cash
  | bankTransfer
  | other
  | sepa
  | redsys
  deriving DecidableEq

/-- A payment and the period that it pays. `extendsPeriod` and `durationMonths` are those of its request. -/
structure PeriodPayment where
  tenantId : TenantId
  provider : SaasPaymentProvider
  amount : ℤ
  description : Option String
  paid : Bool
  createdAt : Instant
  extendsPeriod : Bool
  durationMonths : ℕ
  periodStart : Instant
  periodEnd : Instant
  deriving DecidableEq

structure ManualPaymentArgs where
  tenantId : TenantId
  provider : SaasPaymentProvider
  amount : ℤ
  durationMonths : ℕ
  extendsPeriod : Bool
  description : Option String

structure PeriodBooks where
  accounts : Table TenantId SaasAccount
  payments : Table SubscriptionPaymentId PeriodPayment

def PeriodPayment.repeats (args : ManualPaymentArgs) (now : Instant) (p : PeriodPayment) : Bool :=
  p.tenantId = args.tenantId && p.provider = args.provider && p.amount = args.amount &&
    p.description = args.description && p.paid && now - 60000 ≤ p.createdAt

def PeriodBooks.recent (books : PeriodBooks) (args : ManualPaymentArgs) (now : Instant) :
    Option (SubscriptionPaymentId × PeriodPayment) :=
  (books.payments.rows.filter fun q => q.2.repeats args now).argmax fun q => q.2.createdAt

def ManualPaymentArgs.payment (args : ManualPaymentArgs) (now periodStart periodEnd : Instant) :
    PeriodPayment where
  tenantId := args.tenantId
  provider := args.provider
  amount := args.amount
  description := args.description
  paid := true
  createdAt := now
  extendsPeriod := args.extendsPeriod
  durationMonths := args.durationMonths
  periodStart
  periodEnd

/-- The period that a payment records: the months it adds, or the present one. -/
def ManualPaymentArgs.period (args : ManualPaymentArgs) (sub : TenantSubscription) : Instant × Instant :=
  if args.extendsPeriod then (sub.currentPeriodEnd, addMonthsTo sub.currentPeriodEnd args.durationMonths)
  else (sub.currentPeriodStart, sub.currentPeriodEnd)

/-- The transaction of `recordManualPayment`, with the payment recorded or the one it repeats; without a
subscription it throws. -/
def PeriodBooks.recordManualPayment (books : PeriodBooks) (args : ManualPaymentArgs) (now : Instant) :
    Option (PeriodBooks × SubscriptionPaymentId) :=
  (books.accounts.find args.tenantId).map fun account =>
    match books.recent args now with
    | some q => (books, q.1)
    | none =>
      let period := args.period account.subscription
      ({ accounts :=
          if args.extendsPeriod then
            books.accounts.modify args.tenantId (SaasAccount.recordManualPayment args.durationMonths now)
          else books.accounts
         payments := books.payments.push (args.payment now period.1 period.2) }, books.payments.nextKey)

/-- A payment is the one that was recorded within the last minute, or a new one. -/
inductive PeriodBooks.Records (books : PeriodBooks) (args : ManualPaymentArgs) (now : Instant) :
    PeriodBooks → SubscriptionPaymentId → Prop
  | again (id : SubscriptionPaymentId) (p : PeriodPayment) (found : books.payments.find id = some p)
      (same : p.repeats args now = true) : Records books args now books id
  | new (account : SaasAccount) (found : books.accounts.find args.tenantId = some account) :
      Records books args now
        { accounts :=
            if args.extendsPeriod then
              books.accounts.modify args.tenantId (SaasAccount.recordManualPayment args.durationMonths now)
            else books.accounts
          payments := books.payments.push
            (args.payment now (args.period account.subscription).1 (args.period account.subscription).2) }
        books.payments.nextKey

variable {books books' : PeriodBooks} {args : ManualPaymentArgs} {now : Instant} {id : SubscriptionPaymentId}

theorem recordManualPayment_records (made : books.recordManualPayment args now = some (books', id)) :
    books.Records args now books' id := by
  obtain ⟨account, found, made⟩ := Option.map_eq_some_iff.mp made
  cases recent : books.recent args now with
  | some q =>
    rw [recent] at made
    cases made
    have mem := List.argmax_mem recent
    rw [List.mem_filter] at mem
    exact .again q.1 q.2 (Table.find_of_mem mem.1) mem.2
  | none =>
    rw [recent] at made
    cases made
    exact .new account found

/-! ### Months paid -/

def initialEnd (accounts : Table TenantId SaasAccount) (tenantId : TenantId) : Instant :=
  (accounts.find tenantId).elim 0 fun account => account.subscription.currentPeriodEnd

def replay (start : Instant) (months : List ℕ) : Instant :=
  months.foldl (fun (reached : Instant) (m : ℕ) => addMonthsTo reached m) start

theorem replay_append (start : Instant) (months : List ℕ) (m : ℕ) :
    replay start (months ++ [m]) = addMonthsTo (replay start months) m := by
  rw [replay, List.foldl_append]
  rfl

/-- The months paid by a tenant, in order, less those of the payments that were returned. -/
def PeriodBooks.monthsPaid (books : PeriodBooks) (returned : SubscriptionPaymentId → Bool)
    (tenantId : TenantId) : List ℕ :=
  (books.payments.rows.filter fun q => q.2.tenantId = tenantId && q.2.extendsPeriod && !returned q.1).map
    fun q => q.2.durationMonths

/-- The period end of each tenant is its initial one with the months paid. -/
def PeriodBooks.Balanced (books : PeriodBooks) (initial : TenantId → Instant)
    (returned : SubscriptionPaymentId → Bool) : Prop :=
  ∀ tenantId account, books.accounts.find tenantId = some account →
    account.subscription.currentPeriodEnd = replay (initial tenantId) (books.monthsPaid returned tenantId)

variable {returned : SubscriptionPaymentId → Bool}

theorem monthsPaid_push (accounts : Table TenantId SaasAccount) (p : PeriodPayment)
    (kept : returned books.payments.nextKey = false) (tenantId : TenantId) :
    PeriodBooks.monthsPaid ⟨accounts, books.payments.push p⟩ returned tenantId =
      books.monthsPaid returned tenantId ++
        if p.tenantId = tenantId ∧ p.extendsPeriod = true then [p.durationMonths] else [] := by
  rw [PeriodBooks.monthsPaid, PeriodBooks.monthsPaid]
  dsimp only
  rw [Table.rows_push, List.filter_append, List.map_append]
  congr 1
  by_cases own : p.tenantId = tenantId ∧ p.extendsPeriod = true
  · rw [if_pos own, List.filter_cons_of_pos (by simp [own.1, own.2, kept])]
    rfl
  · rw [if_neg own, List.filter_cons_of_neg (fun holds => own (by simpa [kept] using holds))]
    rfl

theorem monthsPaid_congr {returned' : SubscriptionPaymentId → Bool} {tenantId : TenantId}
    (same : ∀ p payment, books.payments.find p = some payment → payment.tenantId = tenantId →
      returned' p = returned p) : books.monthsPaid returned' tenantId = books.monthsPaid returned tenantId := by
  rw [PeriodBooks.monthsPaid, PeriodBooks.monthsPaid]
  congr 1
  refine List.filter_congr fun q mem => ?_
  by_cases own : q.2.tenantId = tenantId
  · rw [same q.1 q.2 (Table.find_of_mem mem) own]
  · simp only [own, decide_false, Bool.false_and]

theorem monthsPaid_unpaid (accounts : Table TenantId SaasAccount) (p : SubscriptionPaymentId)
    (returned : SubscriptionPaymentId → Bool) (tenantId : TenantId) :
    PeriodBooks.monthsPaid ⟨accounts, books.payments.modify p fun payment => { payment with paid := false }⟩
      returned tenantId = books.monthsPaid returned tenantId := by
  have selected := Table.filter_modify_map (t := books.payments) (k := p)
    (f := fun payment => { payment with paid := false })
    (p := fun q => q.2.tenantId = tenantId && q.2.extendsPeriod && !returned q.1) fun _ => rfl
  rw [PeriodBooks.monthsPaid, PeriodBooks.monthsPaid]
  dsimp only
  rw [selected, List.map_map]
  refine List.map_congr_left fun q _ => ?_
  rw [Function.comp_apply]
  split <;> rfl

theorem lt_addMonthsTo (moment : Instant) {months : ℤ} (pos : 0 < months) :
    moment < addMonthsTo moment months := by
  have laterDay : ∀ n day : ℤ, n / 86400000 < day → n < day * 86400000 + n % 86400000 := by omega
  exact laterDay moment _ (lt_addMonths _ pos)

theorem PeriodBooks.Balanced.record {initial : TenantId → Instant} (balanced : books.Balanced initial returned)
    (kept : returned books.payments.nextKey = false) (made : books.Records args now books' id) :
    books'.Balanced initial returned := by
  cases made with
  | again => exact balanced
  | new account found =>
    intro tenantId account' there
    rw [monthsPaid_push _ _ kept]
    by_cases extending : args.extendsPeriod = true
    · rw [if_pos extending] at there
      rcases Table.find_modify_cases there with ⟨other, stored⟩ | ⟨same, before, stored, moved⟩
      · rw [if_neg fun own => other own.1.symm, List.append_nil]
        exact balanced tenantId account' stored
      · have reached : before.subscription.currentPeriodEnd =
            replay (initial tenantId) (books.monthsPaid returned tenantId) :=
          balanced tenantId before (same ▸ stored)
        rw [if_pos ⟨same.symm, extending⟩, replay_append, ← reached, moved]
        rfl
    · rw [if_neg extending] at there
      rw [if_neg fun own => extending own.2, List.append_nil]
      exact balanced tenantId account' there

end StorageOS
