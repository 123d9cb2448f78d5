import StorageOS.Saas.EndToEndIds
import StorageOS.Saas.PeriodPayments

/-! SEPA remittances of the platform: the debits of the tenants' fees, their confirmation, which records the
payments and can be resumed, and the debits that come back. -/

namespace StorageOS

abbrev PlatformRemittanceId := ℕ

/-- `deleted` is a remittance without debits; its id is not used again. -/
inductive PlatformRemittanceStatus
  | generated
  | confirmed
  | cancelled
  | deleted
  deriving DecidableEq

inductive PlatformDebitStatus
  | pending
  | collected
  | bounced
  | cancelled
  deriving DecidableEq

structure PlatformRemittance where
  name : String
  status : PlatformRemittanceStatus
  confirmedAt : Option Instant
  deriving DecidableEq

/-- An item of a remittance. `slug` and `retries` are what its id was made of, and `recordings` the payments
that its confirmations recorded. -/
structure PlatformDebit where
  remittanceId : PlatformRemittanceId
  tenantId : TenantId
  amount : ℤ
  endToEndId : String
  periodCovered : Date
  status : PlatformDebitStatus
  paymentId : Option SubscriptionPaymentId
  slug : String
  retries : ℕ
  recordings : List SubscriptionPaymentId
  deriving DecidableEq

structure PlatformSepaDb where
  books : PeriodBooks
  remittances : Table PlatformRemittanceId PlatformRemittance
  debits : Table PlatformSepaItemId PlatformDebit

def PlatformSepaDb.opening (accounts : Table TenantId SaasAccount) : PlatformSepaDb :=
  ⟨⟨accounts, .empty⟩, .empty, .empty⟩

def platformResumeAfterMs : ℤ := 5 * 60000

/-- `input` of `createRemittance`, with what `eligible` reads of settings, tenants and mandates; `amounts`
has those of the tenants with a signed mandate. -/
structure PlatformRemittanceArgs where
  name : String
  tenantIds : Option (List TenantId)
  graceDate : Instant
  slugs : TenantId → String
  amounts : TenantId → Option ℤ

structure SepaCandidate where
  tenantId : TenantId
  tenantSlug : String
  periodCovered : Date
  amount : ℤ
  retries : ℕ
  deriving DecidableEq

/-- The `where` of `eligible`. -/
def SaasAccount.debitable (graceDate : Instant) (account : SaasAccount) : Bool :=
  account.subscription.billingMode = .sepa &&
    (account.subscription.status = .active || account.subscription.status = .pastDue) &&
    account.subscription.currentPeriodEnd ≤ graceDate &&
    account.tenant.deletedAt.isNone && !account.tenant.billingExempt && account.tenant.status ≠ .cancelled

def PlatformDebit.live (d : PlatformDebit) : Bool := d.status = .pending || d.status = .collected

def PlatformDebit.covers (tenantId : TenantId) (periodCovered : Date) (d : PlatformDebit) : Bool :=
  d.tenantId = tenantId && isoDay d.periodCovered = isoDay periodCovered

/-- The candidate of a subscription that was read, unless it has a debit already. -/
def PlatformSepaDb.candidate (db : PlatformSepaDb) (args : PlatformRemittanceArgs) (q : TenantId × Instant) :
    Option SepaCandidate :=
  let periodCovered := q.2 / saasDayMs
  let debits := db.debits.values.filter (PlatformDebit.covers q.1 periodCovered)
  (args.amounts q.1).bind fun amount =>
    if debits.any PlatformDebit.live || amount ≤ 0 || !args.tenantIds.all (q.1 ∈ ·) then none
    else some ⟨q.1, args.slugs q.1, periodCovered, amount, debits.countP (·.status = .bounced)⟩

def SepaCandidate.debit (id : PlatformRemittanceId) (c : SepaCandidate) : PlatformDebit where
  remittanceId := id
  tenantId := c.tenantId
  amount := c.amount
  endToEndId := platformEndToEndId c.tenantSlug c.periodCovered c.retries
  periodCovered := c.periodCovered
  status := .pending
  paymentId := none
  slug := c.tenantSlug
  retries := c.retries
  recordings := []

def PlatformSepaDb.periodTaken (db : PlatformSepaDb) (tenantId : TenantId) (periodCovered : Date) : Bool :=
  db.debits.values.any fun d => d.live && d.tenantId = tenantId && d.periodCovered = periodCovered

def PlatformDebit.paymentArgs (name : String) (d : PlatformDebit) : ManualPaymentArgs where
  tenantId := d.tenantId
  provider := .sepa
  amount := d.amount
  durationMonths := 1
  extendsPeriod := true
  description := some ("Remesa SEPA plataforma " ++ name ++ " · " ++ d.endToEndId)

def PeriodPayment.mentions (d : PlatformDebit) (p : PeriodPayment) : Bool :=
  p.tenantId = d.tenantId && p.provider = .sepa &&
    p.description.any fun text => decide (d.endToEndId.toList <:+: text.toList)

def PlatformSepaDb.findMention (db : PlatformSepaDb) (row : ℕ) (d : PlatformDebit) :
    Option SubscriptionPaymentId :=
  let found := db.books.payments.rows.filter fun q => q.2.mentions d
  ((found[row]?).or found.head?).map Prod.fst

def PlatformDebit.record (p : SubscriptionPaymentId) (d : PlatformDebit) : PlatformDebit :=
  { d with recordings := p :: d.recordings }

/-- The `updateMany` that collects a pending debit. -/
def PlatformDebit.collect (p : SubscriptionPaymentId) (d : PlatformDebit) : PlatformDebit :=
  if d.status = .pending then { d with status := .collected, paymentId := some p } else d

/-- The end of the period once what a payment added to it is taken back. -/
def bouncedPeriodEnd (payment : Option PeriodPayment) (currentPeriodEnd : Instant) : Instant :=
  match payment with
  | some p =>
    if p.periodStart < p.periodEnd then
      if currentPeriodEnd = p.periodEnd then p.periodStart
      else currentPeriodEnd - (p.periodEnd - p.periodStart)
    else currentPeriodEnd
  | none => currentPeriodEnd

def SaasAccount.bounce (payment : Option PeriodPayment) (now : Instant) (account : SaasAccount) : SaasAccount :=
  let periodEnd := bouncedPeriodEnd payment account.subscription.currentPeriodEnd
  { account with subscription := { account.subscription with
      currentPeriodEnd := periodEnd
      status := if periodEnd ≤ now then .pastDue else account.subscription.status } }

/-- The transaction of `markBounced`, on a debit that has been collected. -/
def PlatformSepaDb.bounce (db : PlatformSepaDb) (k : PlatformSepaItemId) (d : PlatformDebit) (now : Instant) :
    PlatformSepaDb :=
  { db with
    books := { db.books with
      accounts := db.books.accounts.modify d.tenantId
        (SaasAccount.bounce (d.paymentId.bind db.books.payments.find) now) }
    debits := db.debits.modify k fun d => { d with status := .bounced } }

inductive PlatformSepaRequest
  | createRemittance (args : PlatformRemittanceArgs)
  | confirmRemittance (id : PlatformRemittanceId)
  | cancelRemittance (id : PlatformRemittanceId)
  | markBounced (k : PlatformSepaItemId)
  | recordManualPayment (args : ManualPaymentArgs)

inductive PlatformSepaCall
  | selecting (args : PlatformRemittanceArgs) (subs : List (TenantId × Instant))
  | debiting (id : PlatformRemittanceId) (left : List SepaCandidate) (committed : Bool)
  | claiming (id : PlatformRemittanceId) (remittance : PlatformRemittance)
  | counting (id : PlatformRemittanceId) (name : String) (confirmedAt : Instant)
  | resuming (id : PlatformRemittanceId) (name : String) (confirmedAt : Instant)
  | collecting (id : PlatformRemittanceId) (name : String)
  | seeking (name : String) (left : List (PlatformSepaItemId × PlatformDebit))
  | recording (name : String) (k : PlatformSepaItemId) (d : PlatformDebit)
      (left : List (PlatformSepaItemId × PlatformDebit))
  | linking (name : String) (k : PlatformSepaItemId) (p : SubscriptionPaymentId)
      (left : List (PlatformSepaItemId × PlatformDebit))
  | cancelling (id : PlatformRemittanceId)
  | bouncing (k : PlatformSepaItemId)
  | refunding (p : SubscriptionPaymentId)
  | paying (args : ManualPaymentArgs)

/-- A statement throws, or what follows the transaction of `recordManualPayment` does. -/
inductive SepaStatement
  | succeeds
  | throws
  | throwsAfterwards
  deriving DecidableEq

/-- `row` chooses among the payments found. -/
structure PlatformSepaInput where
  now : Instant
  row : ℕ
  statement : SepaStatement

/-- `findOrThrow`. -/
def PlatformSepaDb.findRemittance (db : PlatformSepaDb) (id : PlatformRemittanceId) :
    Option PlatformRemittance :=
  (db.remittances.find id).filter fun r => r.status ≠ .deleted

def enterPlatformSepa (db : PlatformSepaDb) : PlatformSepaRequest → Option PlatformSepaCall
  | .createRemittance args =>
    let subs := db.books.accounts.rows.filter fun q => q.2.debitable args.graceDate
    some (.selecting args (subs.map fun q => (q.1, q.2.subscription.currentPeriodEnd)))
  | .confirmRemittance id => (db.findRemittance id).map (.claiming id)
  | .cancelRemittance id => (db.findRemittance id).map fun _ => .cancelling id
  | .markBounced k => some (.bouncing k)
  | .recordManualPayment args =>
    if 1 ≤ args.durationMonths then some (.paying args) else none

def PlatformSepaDb.pending (db : PlatformSepaDb) (id : PlatformRemittanceId) :
    List (PlatformSepaItemId × PlatformDebit) :=
  db.debits.rows.filter fun q => q.2.remittanceId = id && q.2.status = .pending

def PlatformSepaDb.setRemittance (db : PlatformSepaDb) (id : PlatformRemittanceId)
    (f : PlatformRemittance → PlatformRemittance) : PlatformSepaDb :=
  { db with remittances := db.remittances.modify id f }

def PlatformRemittance.confirm (now : Instant) (r : PlatformRemittance) : PlatformRemittance :=
  { r with status := .confirmed, confirmedAt := some now }

/-- The transaction of `cancelRemittance`. -/
def PlatformSepaDb.cancel (db : PlatformSepaDb) (id : PlatformRemittanceId) : PlatformSepaDb :=
  { db.setRemittance id (fun r => { r with status := .cancelled }) with
    debits := db.debits.updateMany (fun q => q.2.remittanceId = id && q.2.status = .pending)
      fun d => { d with status := .cancelled } }

def PlatformSepaDb.pay (db : PlatformSepaDb) (args : ManualPaymentArgs) (now : Instant) : PlatformSepaDb :=
  match db.books.recordManualPayment args now with
  | some (books, _) => { db with books }
  | none => db

def stepSepa (db : PlatformSepaDb) (input : PlatformSepaInput) :
    PlatformSepaCall → PlatformSepaDb × Option PlatformSepaCall
  | .selecting args subs =>
    let candidates := subs.filterMap (db.candidate args)
    if candidates.isEmpty then (db, none)
    else ({ db with remittances := db.remittances.push ⟨args.name, .generated, none⟩ },
      some (.debiting db.remittances.nextKey candidates false))
  | .debiting id [] committed =>
    (if committed then db else db.setRemittance id fun r => { r with status := .deleted }, none)
  | .debiting id (c :: left) committed =>
    if db.periodTaken c.tenantId c.periodCovered then (db, some (.debiting id left committed))
    else ({ db with debits := db.debits.push (c.debit id) }, some (.debiting id left true))
  | .claiming id remittance =>
    if (db.remittances.find id).any fun r => r.status = .generated then
      (db.setRemittance id (PlatformRemittance.confirm input.now), some (.collecting id remittance.name))
    else if remittance.status = .confirmed then
      (db, remittance.confirmedAt.map (.counting id remittance.name))
    else (db, none)
  | .counting id name confirmedAt =>
    if (db.pending id).isEmpty || input.now - confirmedAt < platformResumeAfterMs then (db, none)
    else (db, some (.resuming id name confirmedAt))
  | .resuming id name confirmedAt =>
    if (db.remittances.find id).any fun r => r.status = .confirmed && r.confirmedAt = some confirmedAt then
      (db.setRemittance id (PlatformRemittance.confirm input.now), some (.collecting id name))
    else (db, none)
  | .collecting id name => (db, some (.seeking name (db.pending id)))
  | .seeking _ [] => (db, none)
  | .seeking name ((k, d) :: left) =>
    match db.findMention input.row d with
    | some p => (db, some (.linking name k p left))
    | none => (db, some (.recording name k d left))
  | .recording name k d left =>
    match db.books.recordManualPayment (d.paymentArgs name) input.now with
    | none => (db, some (.seeking name left))
    | some (books, p) =>
      ({ db with books, debits := db.debits.modify k (PlatformDebit.record p) },
        match input.statement with
        | .throwsAfterwards => some (.seeking name left)
        | _ => some (.linking name k p left))
  | .linking name k p left =>
    ({ db with debits := db.debits.modify k (PlatformDebit.collect p) }, some (.seeking name left))
  | .cancelling id =>
    if (db.remittances.find id).any fun r => r.status = .generated then (db.cancel id, none) else (db, none)
  | .bouncing k =>
    match db.debits.find k with
    | none => (db, none)
    | some d =>
      if d.status = .collected && (db.books.accounts.find d.tenantId).isSome then
        (db.bounce k d input.now, d.paymentId.map .refunding)
      else (db, none)
  | .refunding p =>
    ({ db with books := { db.books with
        payments := db.books.payments.modify p fun payment => { payment with paid := false } } }, none)
  | .paying args => (db.pay args input.now, none)

def throwSepa : PlatformSepaCall → Option PlatformSepaCall
  | .debiting id (_ :: left) committed => some (.debiting id left committed)
  | .seeking name (_ :: left) => some (.seeking name left)
  | .recording name _ _ left => some (.seeking name left)
  | .linking name _ _ left => some (.seeking name left)
  | _ => none

def nextPlatformSepa (db : PlatformSepaDb) (call : PlatformSepaCall) (input : PlatformSepaInput) :
    Option (PlatformSepaDb × Option PlatformSepaCall) :=
  match input.statement with
  | .throws => some (db, throwSepa call)
  | _ => some (stepSepa db input call)

def platformSepaSystem :
    Processes.System PlatformSepaDb PlatformSepaCall PlatformSepaRequest PlatformSepaInput where
  enter := enterPlatformSepa
  next := nextPlatformSepa

end StorageOS
