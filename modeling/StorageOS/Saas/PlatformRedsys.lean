import StorageOS.Saas.PeriodPayments

/-! Payments of subscriptions at the virtual terminal of the platform: orders that the tenant pays, automatic
charges of saved cards, and the payments recorded once Redsys approves them. -/

namespace StorageOS

/-- An order number, of the length of those of `generateRedsysOrder`. -/
abbrev PlatformOrderId := { order : String // order.length = 12 }

inductive RedsysPayMethod
  | card
  | bizum
  deriving DecidableEq

inductive PlatformOrderStatus
  | pending
  | replaced
  | charging
  | paid
  | failed
  deriving DecidableEq

/-- `auto` tells the two kinds apart; `periodEnd` is the end of the period that an automatic charge was
made for. -/
structure PlatformOrder where
  tenantId : TenantId
  amountCents : ℤ
  payMethod : Option RedsysPayMethod
  saveCard : Bool
  auto : Bool
  months : ℕ
  status : PlatformOrderStatus
  createdAt : Instant
  paymentId : Option SubscriptionPaymentId
  periodEnd : Instant
  deriving DecidableEq

/-- The rows, the alerts of payments that could not be recorded, and the approvals whose `updateMany` has run. -/
structure PlatformRedsysDb where
  books : PeriodBooks
  orders : Table PlatformOrderId PlatformOrder
  cards : List TenantId
  alerts : List PlatformOrderId
  approvals : List PlatformOrderId
  clock : Instant

def PlatformRedsysDb.opening (accounts : Table TenantId SaasAccount) (cards : List TenantId) (clock : Instant) :
    PlatformRedsysDb :=
  ⟨⟨accounts, .empty⟩, .empty, cards, [], [], clock⟩

def autoChargeMaxAttempts : ℕ := 3

def autoChargeRetryDays : ℤ := 2

/-! ### Orders -/

/-- `opts` of `createRedirect`, with the amount of a month; `saveCard` is set where the bank allows it. -/
structure RedirectArgs where
  tenantId : TenantId
  amount : ℤ
  payMethod : Option RedsysPayMethod
  saveCard : Bool
  months : ℤ

def RedirectArgs.orderMonths (args : RedirectArgs) : ℕ := (min 12 (max 1 args.months)).toNat

def RedirectArgs.order (args : RedirectArgs) (createdAt : Instant) : PlatformOrder where
  tenantId := args.tenantId
  amountCents := args.amount * args.orderMonths
  payMethod := args.payMethod
  saveCard := args.saveCard && args.payMethod ≠ some .bizum
  auto := false
  months := args.orderMonths
  status := .pending
  createdAt
  paymentId := none
  periodEnd := 0

def PlatformRedsysDb.pendingOrder (db : PlatformRedsysDb) (tenantId : TenantId) :
    Option (PlatformOrderId × PlatformOrder) :=
  (db.orders.rows.filter fun q => q.2.tenantId = tenantId && q.2.status = .pending).argmax
    fun q => q.2.createdAt

def PlatformOrder.reusable (made existing : PlatformOrder) : Bool :=
  existing.amountCents = made.amountCents && existing.payMethod = made.payMethod &&
    existing.saveCard = made.saveCard && existing.months = made.months

def PlatformRedsysDb.setStatus (db : PlatformRedsysDb) (o : PlatformOrderId) (status : PlatformOrderStatus) :
    PlatformRedsysDb :=
  { db with orders := db.orders.modify o fun row => { row with status } }

def PlatformRedsysDb.createOrder (db : PlatformRedsysDb) (o : PlatformOrderId) (row : PlatformOrder) :
    PlatformRedsysDb :=
  { db with orders := db.orders.upsert o row id }

/-- The transaction of `createRedirect`; an order number in use makes it fail. -/
def PlatformRedsysDb.createRedirect (db : PlatformRedsysDb) (args : RedirectArgs) (o : PlatformOrderId)
    (moment : Instant) : PlatformRedsysDb :=
  let made := args.order moment
  let existing := db.pendingOrder args.tenantId
  if existing.any (fun q => made.reusable q.2) || (db.orders.find o).isSome then db
  else match existing with
    | some q => (db.setStatus q.1 .replaced).createOrder o made
    | none => db.createOrder o made

/-- The `updateMany` that the first answer to an order passes. -/
def PlatformRedsysDb.open (db : PlatformRedsysDb) (statuses : List PlatformOrderStatus) (o : PlatformOrderId) :
    Bool :=
  (db.orders.find o).any fun row => statuses.contains row.status

def PlatformRedsysDb.answer (db : PlatformRedsysDb) (o : PlatformOrderId) (approved : Bool) : PlatformRedsysDb :=
  if approved then { db with approvals := o :: db.approvals } else db

def PlatformOrder.settledStatus (approved : Bool) : PlatformOrderStatus := if approved then .paid else .failed

/-! ### Payments -/

def orderMark (o : PlatformOrderId) : List Char := " · pedido ".toList ++ o.val.toList

def PlatformOrder.description (row : PlatformOrder) (o : PlatformOrderId) : String :=
  let how :=
    if row.auto then "Cobro automático con tarjeta (Redsys)"
    else (if row.payMethod = some .bizum then "Bizum" else "Tarjeta") ++ " (Redsys)"
  how ++ (if 1 < row.months then " · " ++ toString row.months ++ " meses" else "") ++
    String.ofList (orderMark o)

def PlatformOrder.paymentArgs (row : PlatformOrder) (o : PlatformOrderId) : ManualPaymentArgs where
  tenantId := row.tenantId
  provider := .redsys
  amount := row.amountCents
  durationMonths := row.months
  extendsPeriod := true
  description := some (row.description o)

def PlatformRedsysDb.pay (db : PlatformRedsysDb) (args : ManualPaymentArgs) (now : Instant) : PlatformRedsysDb :=
  match db.books.recordManualPayment args now with
  | some (books, _) => { db with books }
  | none => db

/-- The `updateMany` of the billing mode of a tenant that has another one. -/
def PlatformRedsysDb.setMode (db : PlatformRedsysDb) (tenantId : TenantId) (before mode : BillingMode) :
    PlatformRedsysDb :=
  { db with books := { db.books with accounts := db.books.accounts.modify tenantId fun account =>
      if account.subscription.billingMode = before then
        { account with subscription := { account.subscription with billingMode := mode } }
      else account } }

/-! ### Automatic charges -/

/-- The `where` of `runAutoCharges`. -/
def PlatformRedsysDb.chargeable (db : PlatformRedsysDb) (q : TenantId × SaasAccount) : Bool :=
  q.2.subscription.billingMode = .redsys &&
    (q.2.subscription.status = .active || q.2.subscription.status = .pastDue) &&
    q.2.subscription.currentPeriodEnd ≤ db.clock && 0 < q.2.subscription.priceMonthly &&
    q.2.tenant.deletedAt.isNone && !q.2.tenant.billingExempt && db.cards.contains q.1

/-- An automatic charge of a tenant since the day before its period ended. -/
def PlatformOrder.attempts (tenantId : TenantId) (periodEnd : Instant) (row : PlatformOrder) : Bool :=
  row.tenantId = tenantId && row.auto && periodEnd - saasDayMs ≤ row.createdAt

def PlatformRedsysDb.attempts (db : PlatformRedsysDb) (tenantId : TenantId) (periodEnd : Instant) :
    List PlatformOrder :=
  (db.orders.rows.filter fun q => q.2.attempts tenantId periodEnd).map Prod.snd

def allowsAttempt (now : Instant) (attempts : List PlatformOrder) : Bool :=
  !attempts.any (fun row => row.status = .charging) && attempts.length < autoChargeMaxAttempts &&
    -- The last attempt, so any of them.
    !attempts.any fun row => now - row.createdAt < autoChargeRetryDays * saasDayMs

def autoOrder (tenantId : TenantId) (amountCents : ℤ) (periodEnd createdAt : Instant) : PlatformOrder where
  tenantId
  amountCents
  payMethod := some .card
  saveCard := false
  auto := true
  months := 1
  status := .charging
  createdAt
  paymentId := none
  periodEnd

/-! ### Requests -/

inductive PlatformRedsysRequest
  | createRedirect (args : RedirectArgs)
  /-- A notice with a valid signature; `card` tells whether it has the reference of a card. -/
  | handleNotification (o : PlatformOrderId) (approved card : Bool)
  | runAutoCharges
  | disableAutoCharge (tenantId : TenantId)
  | recordManualPayment (args : ManualPaymentArgs)

/-- A run of `runAutoCharges`: its moment, and the tenants left with the ends of their periods. -/
structure AutoChargeRun where
  now : Instant
  left : List (TenantId × Instant)

/-- What a request does next, with what it has read; a payment goes back to the run that it belongs to. -/
inductive PlatformRedsysCall
  | redirecting (args : RedirectArgs)
  | claiming (o : PlatformOrderId) (row : PlatformOrder) (approved card : Bool)
  | saving (o : PlatformOrderId) (row : PlatformOrder)
  | automating (o : PlatformOrderId) (row : PlatformOrder)
  | recording (o : PlatformOrderId) (row : PlatformOrder) (run : Option AutoChargeRun)
  | linking (o : PlatformOrderId) (p : SubscriptionPaymentId) (run : Option AutoChargeRun)
  | alerting (o : PlatformOrderId) (run : Option AutoChargeRun)
  | attempting (run : AutoChargeRun)
  | creating (run : AutoChargeRun) (tenantId : TenantId) (periodEnd : Instant) (seen : ℕ)
  | charging (run : AutoChargeRun) (o : PlatformOrderId) (row : PlatformOrder)
  | answering (run : AutoChargeRun) (o : PlatformOrderId) (row : PlatformOrder) (approved : Bool)
  | disabling (tenantId : TenantId)
  | paying (args : ManualPaymentArgs)

/-- A statement throws, what follows its effect does, or the process ends. -/
inductive RedsysStatement
  | succeeds
  | throws
  | throwsAfterwards
  | stops
  deriving DecidableEq

/-- What `callRest` returns: no trustworthy answer is `none`. `order` and `amount` are those of a new order. -/
structure PlatformRedsysInput where
  moment : Instant
  statement : RedsysStatement
  order : PlatformOrderId
  amount : ℤ
  approved : Option Bool

def enterPlatformRedsys (db : PlatformRedsysDb) : PlatformRedsysRequest → Option PlatformRedsysCall
  | .createRedirect args =>
    if (db.books.accounts.find args.tenantId).any fun account => !account.tenant.billingExempt &&
        (account.subscription.billingMode = .manual || account.subscription.billingMode = .redsys) &&
        0 < args.amount then
      some (.redirecting args)
    else none
  | .handleNotification o approved card => (db.orders.find o).map fun row => .claiming o row approved card
  | .runAutoCharges =>
    let subs := db.books.accounts.rows.filter db.chargeable
    some (.attempting ⟨db.clock, subs.map fun q => (q.1, q.2.subscription.currentPeriodEnd)⟩)
  | .disableAutoCharge tenantId => some (.disabling tenantId)
  | .recordManualPayment args =>
    if args.provider ≠ .redsys && 1 ≤ args.durationMonths then some (.paying args) else none

def backTo (run : Option AutoChargeRun) : Option PlatformRedsysCall := run.map .attempting

def stepPlatformRedsys (db : PlatformRedsysDb) (input : PlatformRedsysInput) :
    PlatformRedsysCall → PlatformRedsysDb × Option PlatformRedsysCall
  | .redirecting args => (db.createRedirect args input.order input.moment, none)
  | .claiming o row approved card =>
    if db.open [.pending, .replaced, .charging] o then
      ((db.answer o approved).setStatus o (PlatformOrder.settledStatus approved),
        -- A denial only notes the error of the card.
        if !approved then none
        else if row.saveCard && card then some (.saving o row)
        else some (.recording o row none))
    else (db.answer o approved, none)
  | .saving o row => ({ db with cards := row.tenantId :: db.cards }, some (.automating o row))
  | .automating o row => (db.setMode row.tenantId .manual .redsys, some (.recording o row none))
  | .recording o row run =>
    match db.books.recordManualPayment (row.paymentArgs o) input.moment with
    | none => (db, some (.alerting o run))
    | some (books, p) =>
      ({ db with books },
        if input.statement = .throwsAfterwards then some (.alerting o run) else some (.linking o p run))
  | .linking o p run =>
    ({ db with orders := db.orders.modify o fun row => { row with paymentId := some p } },
      if input.statement = .throwsAfterwards then some (.alerting o run) else backTo run)
  | .alerting o run => ({ db with alerts := o :: db.alerts }, backTo run)
  | .attempting run =>
    match run.left with
    | [] => (db, none)
    | (tenantId, periodEnd) :: left =>
      let attempts := db.attempts tenantId periodEnd
      if allowsAttempt run.now attempts then
        (db, some (.creating { run with left } tenantId periodEnd attempts.length))
      else (db, some (.attempting { run with left }))
  | .creating run tenantId periodEnd _ =>
    if !db.cards.contains tenantId || input.amount ≤ 0 then (db, some (.attempting run))
    else if (db.orders.find input.order).isSome then (db, none)
    else
      let row := autoOrder tenantId input.amount periodEnd input.moment
      (db.createOrder input.order row, some (.charging run input.order row))
  | .charging run o row =>
    (db, match input.approved with
      | none => some (.attempting run)
      | some approved => some (.answering run o row approved))
  | .answering run o row approved =>
    if db.open [.charging] o then
      ((db.answer o approved).setStatus o (PlatformOrder.settledStatus approved),
        if approved then some (.recording o row (some run)) else some (.attempting run))
    else (db.answer o approved, some (.attempting run))
  | .disabling tenantId =>
    ({ db with cards := db.cards.filter (· ≠ tenantId) }.setMode tenantId .redsys .manual, none)
  | .paying args => (db.pay args input.moment, none)

/-- A statement throws: the card is not saved, or the payment is not recorded, which is alerted. -/
def throwPlatformRedsys : PlatformRedsysCall → Option PlatformRedsysCall
  | .saving o row | .automating o row => some (.recording o row none)
  | .recording o _ run | .linking o _ run => some (.alerting o run)
  | .alerting _ run => backTo run
  | _ => none

def nextPlatformRedsys (db : PlatformRedsysDb) (call : PlatformRedsysCall) (input : PlatformRedsysInput) :
    Option (PlatformRedsysDb × Option PlatformRedsysCall) :=
  if input.moment < db.clock then none
  else
    let db := { db with clock := input.moment }
    match input.statement with
    | .throws => some (db, throwPlatformRedsys call)
    | .stops => some (db, none)
    | .succeeds | .throwsAfterwards => some (stepPlatformRedsys db input call)

def platformRedsysSystem :
    Processes.System PlatformRedsysDb PlatformRedsysCall PlatformRedsysRequest PlatformRedsysInput where
  enter := enterPlatformRedsys
  next := nextPlatformRedsys

end StorageOS
