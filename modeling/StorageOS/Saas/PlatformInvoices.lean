import StorageOS.Billing.Rows
import StorageOS.Common.Money
import StorageOS.Lib.Processes

/-! Subscription payments and their invoices, in the platform's own numbering. A payment is invoiced once; an invoice
is credited by differences or substituted. What is returned of a payment, by refunds, lost disputes and returned SEPA
debits, is claimed on the payment and credited afterwards. Amounts are cents. -/

namespace StorageOS

abbrev SubscriptionPaymentId := ℕ
abbrev PlatformInvoiceId := ℕ
abbrev StripeInvoiceId := ℕ
abbrev DisputeId := ℕ
abbrev PlatformSepaItemId := ℕ

inductive SubscriptionPaymentStatus
  | pending
  | paid
  | failed
  | void
  | partiallyRefunded
  | refunded
  deriving DecidableEq

/-- `refunds` and `lost` record the largest total notified of the refunds, and the disputes notified as
lost, once their notices are handled. -/
structure SubscriptionPayment where
  externalId : Option StripeInvoiceId
  amount : ℤ
  status : SubscriptionPaymentStatus
  refundedAmount : ℤ
  disputed : Bool
  refunds : ℕ
  lost : List (DisputeId × ℕ)
  deriving DecidableEq

inductive PlatformSeries
  | invoices (year : ℤ)
  | rectifications (year : ℤ)
  deriving DecidableEq

inductive PlatformInvoiceType
  | F1
  | R1
  | R4
  deriving DecidableEq

inductive PlatformInvoiceStatus
  | issued
  | rectified
  | cancelled
  deriving DecidableEq

inductive PlatformCorrection
  | substitution
  | differences
  deriving DecidableEq

/-- `rectifies` holds `rectifiesInvoiceId` and `correctionMethod`. -/
structure PlatformInvoice where
  series : PlatformSeries
  number : ℕ
  invoiceType : PlatformInvoiceType
  rectifies : Option (PlatformInvoiceId × PlatformCorrection)
  baseAmount : ℤ
  taxRate : ℚ
  taxAmount : ℤ
  total : ℤ
  status : PlatformInvoiceStatus
  paymentId : Option SubscriptionPaymentId
  deriving DecidableEq

structure PlatformSepaItem where
  paymentId : Option SubscriptionPaymentId
  amount : ℕ
  bounced : Bool
  deriving DecidableEq

/-- The rows as committed, and the series locked by open transactions. -/
structure PlatformDb where
  payments : Table SubscriptionPaymentId SubscriptionPayment
  invoices : Table PlatformInvoiceId PlatformInvoice
  items : Table PlatformSepaItemId PlatformSepaItem
  locked : List PlatformSeries

def PlatformDb.empty : PlatformDb := ⟨.empty, .empty, .empty, []⟩

/-- What a request reads of the settings, the tenant and the clock. -/
structure PlatformEnv where
  year : ℤ
  enabled : Bool
  taxRate : ℚ
  ownTenant : Bool
  aeatRealMode : Bool
  issuerMissing : Bool
  recipientMissing : Bool

structure RectifyPlatformInvoiceInput where
  method : PlatformCorrection
  rectificationType : {t : PlatformInvoiceType // t ≠ .F1}
  amount : Option ℚ

/-- An invoice to be numbered, the status that it leaves on the one that it rectifies, the
rectifications that were read of that one, and the payment for whose return it is issued. -/
structure PlatformEntry where
  invoice : PlatformInvoice
  originalStatus : Option PlatformInvoiceStatus
  seen : List (PlatformInvoiceId × PlatformInvoice)
  credits : Option SubscriptionPaymentId

/-- What is returned of a payment: a total of refunds, a returned SEPA debit, or a dispute on top of what
was read as refunded. -/
inductive PaymentReturn
  | refund (total : ℕ)
  | bounce (item : PlatformSepaItemId) (amount : ℕ)
  | dispute (dispute : DisputeId) (amount : ℕ) (base : ℤ)

structure StripeInvoice where
  externalId : StripeInvoiceId
  status : {s : SubscriptionPaymentStatus // s ≠ .refunded ∧ s ≠ .partiallyRefunded}
  amount : ℤ

inductive PlatformRequest
  | issueForPayment (id : SubscriptionPaymentId)
  | rectify (id : PlatformInvoiceId) (input : RectifyPlatformInvoiceInput)
  | syncSubscriptionRefund (id : SubscriptionPaymentId) (total : ℕ)
  | markSubscriptionDisputed (id : SubscriptionPaymentId)
  | closeSubscriptionDispute (id : SubscriptionPaymentId) (dispute : DisputeId) (lost : Bool)
      (amount : ℕ)
  | markBounced (item : PlatformSepaItemId)
  | recordStripeInvoice (invoice : StripeInvoice)
  | recordManualPayment (amount : ℤ)
  | collectSepaItem (amount : ℕ)

inductive PlatformCall
  | issuing (id : SubscriptionPaymentId)
  | paying (id : SubscriptionPaymentId)
  | rectifying (id : PlatformInvoiceId) (input : RectifyPlatformInvoiceInput)
      (credits : Option SubscriptionPaymentId)
  | numbering (entry : PlatformEntry)
  | inserting (entry : PlatformEntry) (number : ℕ)
  | losing (id : SubscriptionPaymentId) (dispute : DisputeId) (amount : ℕ)
  | refunding (id : SubscriptionPaymentId) (back : PaymentReturn)
  | claiming (id : SubscriptionPaymentId) (back : PaymentReturn) (before amount target : ℤ)
  | crediting (id : SubscriptionPaymentId) (delta : ℤ)
  | disputing (id : SubscriptionPaymentId)
  | winning (id : SubscriptionPaymentId)
  | bouncing (item : PlatformSepaItemId)
  | syncing (invoice : StripeInvoice)
  | updating (id : SubscriptionPaymentId) (status : SubscriptionPaymentStatus)
      (invoice : StripeInvoice)
  | recording (invoice : StripeInvoice)
  | paid (amount : ℤ)
  | collected (amount : ℕ)

inductive PlatformInput
  | proceed (env : PlatformEnv)
  | fail

def round2 (x : ℚ) : ℤ := ⌊x * 100 + 1 / 2⌋

/-! ### Rows -/

def PlatformInvoice.rectifiesBy (inv : PlatformInvoice) (id : PlatformInvoiceId)
    (method : PlatformCorrection) : Bool :=
  inv.rectifies = some (id, method)

def PlatformDb.rectifications (db : PlatformDb) (id : PlatformInvoiceId) :
    List (PlatformInvoiceId × PlatformInvoice) :=
  db.invoices.rows.filter fun q => q.2.rectifies.any fun r => r.1 = id

def creditsIn (id : PlatformInvoiceId) (rects : List (PlatformInvoiceId × PlatformInvoice)) :
    List (PlatformInvoiceId × PlatformInvoice) :=
  rects.filter fun q => q.2.rectifiesBy id .differences

def substitutionsIn (id : PlatformInvoiceId) (rects : List (PlatformInvoiceId × PlatformInvoice)) :
    List (PlatformInvoiceId × PlatformInvoice) :=
  rects.filter fun q => q.2.rectifiesBy id .substitution

def creditedIn (id : PlatformInvoiceId) (rects : List (PlatformInvoiceId × PlatformInvoice)) : ℤ :=
  ((creditsIn id rects).map fun q => -q.2.total).sum

def PlatformDb.invoiceOf (db : PlatformDb) (id : SubscriptionPaymentId) :
    Option (PlatformInvoiceId × PlatformInvoice) :=
  db.invoices.rows.find? fun q => q.2.paymentId = some id

def PlatformDb.paymentOf (db : PlatformDb) (externalId : StripeInvoiceId) :
    Option (SubscriptionPaymentId × SubscriptionPayment) :=
  db.payments.rows.find? fun q => q.2.externalId = some externalId

/-- The numbers of a series, in the order in which its invoices were inserted. -/
def PlatformDb.numbers (db : PlatformDb) (series : PlatformSeries) : List ℕ :=
  ((db.invoices.rows.filter fun q => q.2.series = series).map fun q => q.2.number)

def PlatformDb.lastNumber (db : PlatformDb) (series : PlatformSeries) : ℕ :=
  (db.numbers series).foldr max 0

def SubscriptionPayment.settle (p : SubscriptionPayment) : PaymentReturn → SubscriptionPayment
  | .refund total => { p with refunds := max p.refunds total }
  | .bounce _ amount => { p with refunds := max p.refunds amount }
  | .dispute dispute amount _ =>
    if dispute ∈ p.lost.map Prod.fst then p else { p with lost := (dispute, amount) :: p.lost }

def PlatformDb.settle (db : PlatformDb) (id : SubscriptionPaymentId) (back : PaymentReturn) :
    PlatformDb :=
  { db with payments := db.payments.modify id fun p => p.settle back }

def PaymentReturn.total : PaymentReturn → ℤ
  | .refund total => total
  | .bounce _ amount => amount
  | .dispute _ amount base => base + amount

/-! ### Issue and rectification -/

def issueEntry (id : SubscriptionPaymentId) (p : SubscriptionPayment) (env : PlatformEnv) :
    PlatformEntry :=
  let base := round2 (euros p.amount / (1 + env.taxRate / 100))
  { invoice :=
      { series := .invoices env.year
        number := 0
        invoiceType := .F1
        rectifies := none
        baseAmount := base
        taxRate := env.taxRate
        taxAmount := round2 (euros p.amount - euros base)
        total := p.amount
        status := .issued
        paymentId := some id }
    originalStatus := none
    seen := []
    credits := none }

/-- The checks of `rectify` and its invoice, not numbered yet. -/
def rectifyEntry (id : PlatformInvoiceId) (original : PlatformInvoice)
    (rects : List (PlatformInvoiceId × PlatformInvoice)) (input : RectifyPlatformInvoiceInput)
    (credits : Option SubscriptionPaymentId) (env : PlatformEnv) : Option PlatformEntry :=
  if original.invoiceType ≠ .F1 || original.status = .cancelled || env.issuerMissing then none
  else
    let credited := creditedIn id rects
    let remaining := round2 (euros original.total - euros credited)
    match input.method with
    | .substitution =>
      if !(substitutionsIn id rects).isEmpty || 0 < credited || env.recipientMissing then none
      else some
        { invoice :=
            { original with
              series := .rectifications env.year
              number := 0
              invoiceType := input.rectificationType.1
              rectifies := some (id, .substitution)
              status := .issued
              paymentId := none }
          originalStatus := some .rectified
          seen := rects
          credits }
    | .differences =>
      let gross := round2 (input.amount.getD (euros remaining))
      if gross ≤ 0 || euros remaining + 5 / 1000 < euros gross then none
      else
        let base := round2 (euros gross / (1 + original.taxRate / 100))
        some
          { invoice :=
              { series := .rectifications env.year
                number := 0
                invoiceType := input.rectificationType.1
                rectifies := some (id, .differences)
                baseAmount := -base
                taxRate := original.taxRate
                taxAmount := -round2 (euros gross - euros base)
                total := -gross
                status := .issued
                paymentId := none }
            originalStatus :=
              if euros remaining - euros gross < 5 / 1000 then some .cancelled else none
            seen := rects
            credits }

def PlatformEntry.numbered (entry : PlatformEntry) (number : ℕ) : PlatformInvoice :=
  { entry.invoice with number }

def PlatformDb.insert (db : PlatformDb) (entry : PlatformEntry) (number : ℕ) : PlatformDb :=
  let inserted := db.invoices.push (entry.numbered number)
  { db with
    invoices := match entry.invoice.rectifies, entry.originalStatus with
      | some (id, _), some status => inserted.modify id fun inv => { inv with status }
      | _, _ => inserted
    locked := db.locked.erase entry.invoice.series }

theorem not_F1_R4 : PlatformInvoiceType.R4 ≠ .F1 := by decide

def creditInput (delta total : ℤ) : RectifyPlatformInvoiceInput :=
  ⟨.differences, ⟨.R4, not_F1_R4⟩, some (euros (min delta total))⟩

/-! ### Steps -/

/-- `syncSubscriptionRefund`, up to its claim. -/
def readReturn (db : PlatformDb) (id : SubscriptionPaymentId) (back : PaymentReturn) :
    PlatformDb × Option PlatformCall :=
  match db.payments.find id with
  | none => (db, none)
  | some p =>
    let target := min back.total p.amount
    if target - p.refundedAmount ≤ 0 then (db.settle id back, none)
    else (db, some (.claiming id back p.refundedAmount p.amount target))

/-- The claim of what is returned, when the payment is as it was read. -/
def claimReturn (db : PlatformDb) (id : SubscriptionPaymentId) (back : PaymentReturn)
    (before amount target : ℤ) : PlatformDb × Option PlatformCall :=
  match db.payments.find id with
  | none => (db, none)
  | some p =>
    if p.refundedAmount ≠ before then (db.settle id back, none)
    else
      let claimed := db.payments.modify id fun p =>
        { p with
          refundedAmount := target
          status := if amount ≤ target then .refunded else .partiallyRefunded }
      (PlatformDb.settle { db with payments := claimed } id back,
        some (.crediting id (target - before)))

/-- `creditForPayment`, up to the rectification. -/
def creditForPayment (db : PlatformDb) (id : SubscriptionPaymentId) (delta : ℤ) :
    Option PlatformCall :=
  match db.invoiceOf id with
  | none => none
  | some (i, inv) =>
    if delta ≤ 0 || inv.status = .cancelled then none
    else some (.rectifying i (creditInput delta inv.total) (some id))

def newPayment (externalId : Option StripeInvoiceId) (amount : ℤ)
    (status : SubscriptionPaymentStatus) : SubscriptionPayment :=
  ⟨externalId, amount, status, 0, false, 0, []⟩

/-- The payment was read paid, and its invoice is issued in the own numbering. -/
def payingEntry (db : PlatformDb) (id : SubscriptionPaymentId) (env : PlatformEnv) :
    Option PlatformCall :=
  match db.payments.find id with
  | none => none
  | some p =>
    if p.status ≠ .paid || !env.enabled || env.ownTenant || env.aeatRealMode then none
    else some (.numbering (issueEntry id p env))

/-- The next statement of a request; `none` while it waits for the lock of a series. -/
def stepPlatform (db : PlatformDb) (env : PlatformEnv) :
    PlatformCall → Option (PlatformDb × Option PlatformCall)
  | .issuing id => some (db, if (db.invoiceOf id).isSome then none else some (.paying id))
  | .paying id => some (db, payingEntry db id env)
  | .rectifying id input credits =>
    some (db, (db.invoices.find id).bind fun original =>
      (rectifyEntry id original (db.rectifications id) input credits env).map .numbering)
  | .numbering entry =>
    if entry.invoice.series ∈ db.locked then none
    else some ({ db with locked := entry.invoice.series :: db.locked },
      some (.inserting entry (db.lastNumber entry.invoice.series + 1)))
  | .inserting entry number =>
    -- The unique index of the payment makes the transaction fail.
    if entry.invoice.paymentId.any fun id => (db.invoiceOf id).isSome then
      some ({ db with locked := db.locked.erase entry.invoice.series }, none)
    else some (db.insert entry number, none)
  | .losing id dispute amount =>
    some (db, (db.payments.find id).map fun p =>
      .refunding id (.dispute dispute amount p.refundedAmount))
  | .refunding id back => some (readReturn db id back)
  | .claiming id back before amount target => some (claimReturn db id back before amount target)
  | .crediting id delta => some (db, creditForPayment db id delta)
  | .disputing id =>
    some ({ db with payments := db.payments.modify id fun p => { p with disputed := true } }, none)
  | .winning id =>
    some ({ db with payments := db.payments.modify id fun p => { p with disputed := false } }, none)
  | .bouncing item =>
    match db.items.find item with
    | none => some (db, none)
    | some row =>
      if row.bounced then some (db, none)
      else some ({ db with items := db.items.modify item fun i => { i with bounced := true } },
        row.paymentId.map fun id => .refunding id (.bounce item row.amount))
  | .syncing invoice =>
    some (db, some (match db.paymentOf invoice.externalId with
      | some (id, p) => .updating id p.status invoice
      | none => .recording invoice))
  | .updating id status invoice =>
    some ({ db with payments := db.payments.modify id fun p =>
        { p with status := invoice.status.1, amount := invoice.amount } },
      if invoice.status.1 = .paid && status ≠ .paid then some (.issuing id) else none)
  | .recording invoice =>
    if (db.paymentOf invoice.externalId).isSome then some (db, none)
    else
      let created := newPayment (some invoice.externalId) invoice.amount invoice.status.1
      some ({ db with payments := db.payments.push created },
        if invoice.status.1 = .paid then some (.issuing db.payments.nextKey) else none)
  | .paid amount =>
    some ({ db with payments := db.payments.push (newPayment none amount .paid) },
      some (.issuing db.payments.nextKey))
  | .collected amount =>
    some ({ db with
      payments := db.payments.push (newPayment none amount .paid)
      items := db.items.push ⟨some db.payments.nextKey, amount, false⟩ },
      some (.issuing db.payments.nextKey))

def failPlatform (db : PlatformDb) : PlatformCall → PlatformDb
  | .inserting entry _ => { db with locked := db.locked.erase entry.invoice.series }
  | _ => db

def nextPlatform (db : PlatformDb) (call : PlatformCall) :
    PlatformInput → Option (PlatformDb × Option PlatformCall)
  | .proceed env => stepPlatform db env call
  | .fail => some (failPlatform db call, none)

def enterPlatform (_db : PlatformDb) : PlatformRequest → Option PlatformCall
  | .issueForPayment id => some (.issuing id)
  | .rectify id input => some (.rectifying id input none)
  | .syncSubscriptionRefund id total => some (.refunding id (.refund total))
  | .markSubscriptionDisputed id => some (.disputing id)
  | .closeSubscriptionDispute id dispute lost amount =>
    some (if lost then .losing id dispute amount else .winning id)
  | .markBounced item => some (.bouncing item)
  | .recordStripeInvoice invoice => some (.syncing invoice)
  | .recordManualPayment amount => some (.paid amount)
  | .collectSepaItem amount => some (.collected amount)

def platformSystem : Processes.System PlatformDb PlatformCall PlatformRequest PlatformInput where
  enter := enterPlatform
  next := nextPlatform

end StorageOS
