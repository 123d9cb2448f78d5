import StorageOS.Billing.Recurring

/-! The subscription of a tenant to the platform: its paid period, and how a manual payment extends it. -/

namespace StorageOS

inductive SubscriptionStatus
  | trial
  | active
  | pastDue
  | cancelled
  | expired
  deriving DecidableEq

inductive TenantStatus
  | trial
  | active
  | suspended
  | cancelled
  deriving DecidableEq

/-- How the subscription is charged. -/
inductive BillingMode
  | stripe
  | sepa
  | redsys
  | manual
  deriving DecidableEq

structure TenantSubscription where
  status : SubscriptionStatus
  billingMode : BillingMode
  stripeSubscriptionId : Option String
  currentPeriodStart : Instant
  currentPeriodEnd : Instant
  manualExtensionDays : ℤ
  /-- Of its plan, in cents. -/
  priceMonthly : ℤ
  deriving DecidableEq

/-- The columns of a tenant that its subscription changes; `nonpayment` is its `churnReason`. -/
structure SubscribedTenant where
  status : TenantStatus
  billingExempt : Bool
  deletedAt : Option Instant
  nonpayment : Bool
  canceledAt : Option Instant
  trialEndsAt : Option Instant
  deriving DecidableEq

structure SaasAccount where
  subscription : TenantSubscription
  tenant : SubscribedTenant
  deriving DecidableEq

def saasDayMs : ℤ := 24 * 60 * 60 * 1000

/-- The same time of the same day some months later, or of the last day of a shorter month. -/
def addMonthsTo (moment : Instant) (months : ℤ) : Instant :=
  addMonths (moment / saasDayMs) months * saasDayMs + moment % saasDayMs

def diffInDays (start finish : Instant) : ℤ := mathRound ((finish - start) / saasDayMs)

/-- The transaction of `recordManualPayment` on the subscription and its tenant, for a payment that extends
the period and that does not repeat one of the last minute. -/
def SaasAccount.recordManualPayment (durationMonths : ℕ) (now : Instant) (account : SaasAccount) :
    SaasAccount :=
  let sub := account.subscription
  let base := sub.currentPeriodEnd
  let newEnd := addMonthsTo base durationMonths
  let covered := newEnd > now
  let addedDays := if sub.stripeSubscriptionId.isSome then diffInDays base newEnd else 0
  let reactivates := covered && (account.tenant.status = .suspended || account.tenant.status = .trial)
  { subscription := { sub with
      currentPeriodEnd := newEnd
      status := if covered then .active else .pastDue
      manualExtensionDays := sub.manualExtensionDays + addedDays }
    tenant :=
      if reactivates then { account.tenant with status := .active, trialEndsAt := none }
      else account.tenant }

/-- `syncSubscriptionFromStripe` for the active subscription of the tenant. -/
def SaasAccount.confirmStripe (stripeSubscriptionId : String) (periodStart stripePeriodEnd : Instant)
    (account : SaasAccount) : SaasAccount :=
  let sub := account.subscription
  let reactivates := account.tenant.status = .suspended || account.tenant.status = .trial
  { subscription := { sub with
      status := .active
      currentPeriodStart := periodStart
      currentPeriodEnd :=
        if sub.manualExtensionDays > 0 then stripePeriodEnd + sub.manualExtensionDays * saasDayMs
        else stripePeriodEnd
      stripeSubscriptionId := some stripeSubscriptionId
      billingMode := .stripe }
    tenant :=
      if reactivates then { account.tenant with status := .active, trialEndsAt := none }
      else account.tenant }

/-- `subscriptionDueDate`. -/
def TenantSubscription.dueDate (sub : TenantSubscription) : Instant :=
  if sub.billingMode = .stripe && sub.stripeSubscriptionId.isSome then
    sub.currentPeriodStart + sub.manualExtensionDays * saasDayMs
  else sub.currentPeriodEnd

end StorageOS
