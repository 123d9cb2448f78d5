import StorageOS.Lib.Processes
import StorageOS.Saas.Subscriptions

/-! The dunning of the subscriptions to the platform. One job marks the lapsed subscriptions past due, and another
sends the reminders of those that are and suspends their tenants, while payments are recorded and confirmed. -/

namespace StorageOS

inductive PlatformDunningStep
  | reminder1
  | reminder2
  | suspend
  deriving DecidableEq

/-- A step of the escalation of a period; the three together are unique. -/
structure DunningEvent where
  tenantId : TenantId
  step : PlatformDunningStep
  periodEnd : Instant
  deriving DecidableEq

structure PlatformDunningSettings where
  enabled : Bool
  reminder1Days : ℤ
  reminder2Days : ℤ
  suspendDays : ℤ

/-- A charge whose answer has not come: a SEPA debit in a live remittance, or an automatic charge of a card. -/
inductive PendingCharge
  | sepa (tenantId : TenantId)
  | redsys (tenantId : TenantId) (createdAt : Instant)
  deriving DecidableEq

/-- A subscription changed to past due, its period end then, and when. -/
structure PastDueChange where
  tenantId : TenantId
  periodEnd : Instant
  changedAt : Instant
  deriving DecidableEq

/-- A tenant suspended for non-payment, and the status of its subscription then. -/
structure Suspension where
  tenantId : TenantId
  status : SubscriptionStatus
  deriving DecidableEq

/-- The rows, and the instant of the last step. The changes to past due, the suspensions and the steps that
took effect are history. -/
structure PlatformDunningDb where
  accounts : Table TenantId SaasAccount
  charges : List PendingCharge
  events : List DunningEvent
  clock : Instant
  pastDue : List PastDueChange
  suspensions : List Suspension
  effects : List DunningEvent

def PlatformDunningDb.opening (accounts : Table TenantId SaasAccount) (clock : Instant) : PlatformDunningDb :=
  ⟨accounts, [], [], clock, [], [], []⟩

def redsysInFlightMs : ℤ := 48 * 60 * 60 * 1000

/-- `tenantsWithChargeInFlight`, for one of the subscriptions. -/
def PlatformDunningDb.chargeInFlight (db : PlatformDunningDb) (now : Instant) (tenantId : TenantId)
    (sub : TenantSubscription) : Bool :=
  match sub.billingMode with
  | .sepa => .sepa tenantId ∈ db.charges
  | .redsys => db.charges.any fun charge => match charge with
    | .redsys id createdAt => id = tenantId && now - redsysInFlightMs ≤ createdAt
    | .sepa _ => false
  | .stripe | .manual => false

/-- The `where` of `markLapsedManualPastDue`. -/
def SaasAccount.lapsed (now : Instant) (account : SaasAccount) : Bool :=
  account.subscription.status = .active && account.subscription.stripeSubscriptionId.isNone &&
    account.subscription.currentPeriodEnd < now && 0 < account.subscription.priceMonthly &&
    account.tenant.deletedAt.isNone && !account.tenant.billingExempt &&
    account.tenant.status ≠ .suspended

/-- The `where` of `run`. -/
def SaasAccount.dunned (account : SaasAccount) : Bool :=
  account.subscription.status = .pastDue && 0 < account.subscription.priceMonthly &&
    !account.tenant.billingExempt && account.tenant.deletedAt.isNone && account.tenant.status = .active

abbrev ReadSubscriptions := List (TenantId × TenantSubscription)

def PlatformDunningDb.read (db : PlatformDunningDb) (p : SaasAccount → Bool) : ReadSubscriptions :=
  (db.accounts.rows.filter fun q => p q.2).map fun q => (q.1, q.2.subscription)

def PlatformDunningSettings.steps (settings : PlatformDunningSettings) (daysOverdue : ℤ) : List PlatformDunningStep :=
  (if settings.reminder1Days ≤ daysOverdue then [.reminder1] else []) ++
    (if settings.reminder2Days ≤ daysOverdue then [.reminder2] else []) ++
    if settings.suspendDays ≤ daysOverdue then [.suspend] else []

def dueSteps (settings : PlatformDunningSettings) (now : Instant) (q : TenantId × TenantSubscription) :
    List DunningEvent :=
  let daysOverdue := (now - q.2.dueDate) / saasDayMs
  if daysOverdue < 0 then []
  else (settings.steps daysOverdue).map fun step => ⟨q.1, step, q.2.currentPeriodEnd⟩

inductive PlatformDunningChange
  | charge (c : PendingCharge)
  | settle (c : PendingCharge)
  /-- By hand. -/
  | setTenant (tenantId : TenantId) (tenant : SubscribedTenant)
  | addTenant (account : SaasAccount)

inductive PlatformDunningRequest
  | markLapsedManualPastDue
  | run (settings : PlatformDunningSettings)
  | recordManualPayment (tenantId : TenantId) (durationMonths : ℕ)
  | confirmStripe (tenantId : TenantId) (stripeSubscriptionId : String) (periodStart periodEnd : Instant)
  | change (c : PlatformDunningChange)

inductive PlatformDunningCall
  | lapsing (now : Instant) (lapsed : ReadSubscriptions)
  | marking (due : ReadSubscriptions)
  | evaluating (settings : PlatformDunningSettings) (now : Instant) (subs : ReadSubscriptions)
  | running (left : List DunningEvent)
  | acting (event : DunningEvent) (left : List DunningEvent)
  | paying (tenantId : TenantId) (durationMonths : ℕ)
  | confirming (tenantId : TenantId) (stripeSubscriptionId : String) (periodStart periodEnd : Instant)
  | changing (c : PlatformDunningChange)

/-- A step at a moment, a statement that throws, or a process that ends there. -/
inductive PlatformDunningInput
  | proceed (moment : Instant)
  | throws
  | stops

def enterPlatformDunning (db : PlatformDunningDb) : PlatformDunningRequest → Option PlatformDunningCall
  | .markLapsedManualPastDue => some (.lapsing db.clock (db.read (SaasAccount.lapsed db.clock)))
  | .run settings =>
    if settings.enabled then some (.evaluating settings db.clock (db.read SaasAccount.dunned)) else none
  | .recordManualPayment tenantId durationMonths => some (.paying tenantId durationMonths)
  | .confirmStripe tenantId id periodStart periodEnd =>
    some (.confirming tenantId id periodStart periodEnd)
  | .change c => some (.changing c)

/-- The `updateMany` of `markLapsedManualPastDue`. -/
def PlatformDunningDb.markPastDue (db : PlatformDunningDb) (due : ReadSubscriptions) (moment : Instant) : PlatformDunningDb :=
  { db with
    accounts := db.accounts.updateMany (fun q => q.1 ∈ due.map Prod.fst) fun account =>
      { account with subscription := { account.subscription with status := .pastDue } }
    pastDue := ((db.accounts.rows.filter fun q => q.1 ∈ due.map Prod.fst).map fun q =>
      ⟨q.1, q.2.subscription.currentPeriodEnd, moment⟩) ++ db.pastDue }

def SubscribedTenant.suspend (moment : Instant) (tenant : SubscribedTenant) : SubscribedTenant :=
  { tenant with status := .suspended, nonpayment := true, canceledAt := some moment }

def PlatformDunningDb.suspend (db : PlatformDunningDb) (tenantId : TenantId) (moment : Instant) : PlatformDunningDb :=
  match db.accounts.find tenantId with
  | none => db
  | some account =>
    if account.tenant.status = .active && account.tenant.deletedAt.isNone then
      { db with
        accounts := db.accounts.modify tenantId fun account =>
          { account with tenant := account.tenant.suspend moment }
        suspensions := ⟨tenantId, account.subscription.status⟩ :: db.suspensions }
    else db

/-- A step is carried out: the reminder is sent, or the tenant suspended if it is still active. -/
def PlatformDunningDb.act (db : PlatformDunningDb) (event : DunningEvent) (moment : Instant) : PlatformDunningDb :=
  let acted := match event.step with
    | .reminder1 | .reminder2 => db
    | .suspend => db.suspend event.tenantId moment
  { acted with effects := event :: acted.effects }

def PlatformDunningDb.pay (db : PlatformDunningDb) (tenantId : TenantId) (durationMonths : ℕ) (moment : Instant) :
    PlatformDunningDb :=
  match db.accounts.find tenantId with
  | none => db
  | some account =>
    let paid := account.recordManualPayment durationMonths moment
    { db with
      accounts := db.accounts.modify tenantId fun _ => paid
      pastDue :=
        if paid.subscription.status = .pastDue then
          ⟨tenantId, paid.subscription.currentPeriodEnd, moment⟩ :: db.pastDue
        else db.pastDue }

def PlatformDunningChange.apply (db : PlatformDunningDb) : PlatformDunningChange → PlatformDunningDb
  | .charge c => { db with charges := c :: db.charges }
  | .settle c => { db with charges := db.charges.erase c }
  | .setTenant tenantId tenant =>
    { db with accounts := db.accounts.modify tenantId fun account => { account with tenant } }
  | .addTenant account => { db with accounts := db.accounts.push account }

def stepDunning (db : PlatformDunningDb) (moment : Instant) : PlatformDunningCall → PlatformDunningDb × Option PlatformDunningCall
  | .lapsing now lapsed => (db, some (.marking (lapsed.filter fun q => !db.chargeInFlight now q.1 q.2)))
  | .marking due => (db.markPastDue due moment, none)
  | .evaluating settings now subs =>
    (db, some (.running ((subs.filter fun q => !db.chargeInFlight now q.1 q.2).flatMap
      (dueSteps settings now))))
  | .running [] => (db, none)
  | .running (event :: left) =>
    if event ∈ db.events then (db, some (.running left))
    else ({ db with events := event :: db.events }, some (.acting event left))
  | .acting event left => (db.act event moment, some (.running left))
  | .paying tenantId durationMonths => (db.pay tenantId durationMonths moment, none)
  | .confirming tenantId id periodStart periodEnd =>
    ({ db with
        accounts := db.accounts.modify tenantId (SaasAccount.confirmStripe id periodStart periodEnd) },
      none)
  | .changing c => (c.apply db, none)

/-- A statement throws: `run` goes on when an event is not created or a reminder not sent, and ends when a
tenant is not suspended. -/
def throwDunning : PlatformDunningCall → Option PlatformDunningCall
  | .running (_ :: left) => some (.running left)
  | .acting event left => if event.step = .suspend then none else some (.running left)
  | _ => none

def nextPlatformDunning (db : PlatformDunningDb) (call : PlatformDunningCall) :
    PlatformDunningInput → Option (PlatformDunningDb × Option PlatformDunningCall)
  | .proceed moment =>
    if moment < db.clock then none else some (stepDunning { db with clock := moment } moment call)
  | .throws => some (db, throwDunning call)
  | .stops => some (db, none)

def platformDunningSystem : Processes.System PlatformDunningDb PlatformDunningCall PlatformDunningRequest PlatformDunningInput where
  enter := enterPlatformDunning
  next := nextPlatformDunning

end StorageOS
