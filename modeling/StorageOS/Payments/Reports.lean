import StorageOS.Payments.Ledger

/-! The cash of a day and the statement of an owner, rebuilt from the columns of the payments:
what was collected in the period, the refunds of the payments last refunded in it, and, for an
owner, the payments returned in it that were collected before. -/

namespace StorageOS

/-- The moments from `start` on and before `finish`. -/
structure Span where
  start : Instant
  finish : Instant

def Span.holds (span : Span) (moment : Option Instant) : Bool :=
  moment.any fun x => span.start ≤ x && x < span.finish

/-- An invoice with its payments: the facilities it counts for, by its contract, by its sale or on its
own, and its owner, unless it is a receipt or deleted. -/
structure BookedInvoice where
  facilities : List FacilityId
  ownerId : Option OwnerId
  ledger : Ledger

abbrev PaymentBook := Table InvoiceId BookedInvoice

def PaymentBook.total (book : PaymentBook) (inScope : BookedInvoice → Bool) (w : Payment → ℤ) : ℤ :=
  book.sum fun b => if inScope b then b.ledger.payments.sum w else 0

/-- `incomeWhere`: the payment counts on the day it was collected, also when it is refunded later. -/
def Payment.incomeIn (span : Span) (p : Payment) : ℤ :=
  if p.status.collected && span.holds p.paidAt && !p.methodType.nonCash then p.amount else 0

/-- `refundWhere`: what is refunded of a payment last refunded in the span. -/
def Payment.refundIn (span : Span) (p : Payment) : ℤ :=
  if span.holds p.refundedAt && 0 < p.refundedAmount then p.refundedAmount else 0

def Payment.returnIn (span : Span) (p : Payment) : ℤ :=
  if span.holds p.returnedAt && p.paidAt.any (· < span.start) then p.amount else 0

def facilityFilter (facilityId : Option FacilityId) (b : BookedInvoice) : Bool :=
  facilityId.all (· ∈ b.facilities)

def byMethod (book : PaymentBook) (facilityId : Option FacilityId) (day : Span)
    (method : PaymentMethodType) : ℤ :=
  book.total (facilityFilter facilityId) fun p => if p.methodType = method then p.incomeIn day else 0

def refundsByMethod (book : PaymentBook) (facilityId : Option FacilityId) (day : Span)
    (method : PaymentMethodType) : ℤ :=
  book.total (facilityFilter facilityId) fun p => if p.methodType = method then p.refundIn day else 0

structure CashDaySummary where
  cash : ℤ
  card : ℤ
  sepaDebit : ℤ
  bankTransfer : ℤ
  other : ℤ
  total : ℤ
  cashRefunds : ℤ
  expectedCash : ℤ

/-- `CashService.getDaySummary`. -/
def getDaySummary (book : PaymentBook) (facilityId : Option FacilityId) (day : Span) :
    CashDaySummary :=
  let cash := byMethod book facilityId day .cash
  let card := byMethod book facilityId day .card
  let sepaDebit := byMethod book facilityId day .sepaDebit
  let bankTransfer := byMethod book facilityId day .bankTransfer
  let other := byMethod book facilityId day .other
  let cashRefunds := refundsByMethod book facilityId day .cash
  { cash, card, sepaDebit, bankTransfer, other
    total := cash + card + sepaDebit + bankTransfer + other
    cashRefunds
    expectedCash := cash - cashRefunds }

structure OwnerStatement where
  collected : ℤ
  refunded : ℤ
  collectedNet : ℤ

/-- `OwnerStatementsService.compute`: the money of the statement. -/
def ownerStatement (book : PaymentBook) (ownerId : OwnerId) (period : Span) : OwnerStatement :=
  let ownerInvoice := fun b : BookedInvoice => decide (b.ownerId = some ownerId)
  let collected := book.total ownerInvoice fun p => p.incomeIn period
  let refunded := book.total ownerInvoice fun p =>
    if p.methodType.nonCash then 0 else p.refundIn period + p.returnIn period
  { collected, refunded, collectedNet := collected - refunded }

/-! ### Histories -/

/-- A report of each period: the cash summary by method, or the statement of an owner. -/
inductive MoneyReport
  | cash (facilityId : Option FacilityId) (method : PaymentMethodType)
  | owner (ownerId : OwnerId)

namespace MoneyReport

/-- What the report says was collected minus what it says was refunded. -/
def net (book : PaymentBook) (span : Span) : MoneyReport → ℤ
  | .cash facilityId method =>
    byMethod book facilityId span method - refundsByMethod book facilityId span method
  | .owner ownerId => (ownerStatement book ownerId span).collectedNet

def inScope (b : BookedInvoice) : MoneyReport → Bool
  | .cash facilityId _ => facilityFilter facilityId b
  | .owner ownerId => b.ownerId = some ownerId

def counts (method : PaymentMethodType) : MoneyReport → Bool
  | .cash _ method' => method = method'
  | .owner _ => !method.nonCash

def returns : MoneyReport → Bool
  | .cash .. => false
  | .owner _ => true

def money (r : MoneyReport) (p : Payment) : ℤ :=
  if r.counts p.methodType && !p.methodType.nonCash then p.amount else 0

/-- The money that an operation moves: collected minus given back. -/
def moved (r : MoneyReport) (l : Ledger) : LedgerAction → ℤ
  | .markPaidManually _ _ _ input =>
    if r.counts input.methodType && !input.methodType.nonCash then column input.amount else 0
  | .revertPayment _ input =>
    -((revertedPayments input l.livePayments).map fun q => r.money q.2).sum
  | .gatewaySuccess _ _ id => (l.payments.find id).elim 0 fun p =>
    if p.status.collected ||
        ({ p with status := .succeeded }.liveCharge && l.toAccount.otherLiveCharge id) then 0
    else r.money p
  | .gatewayDispute _ id => (l.payments.find id).elim 0 fun p =>
    if p.status = .succeeded then -r.money p else 0
  | .gatewayRefund _ amountRefunded id => (l.payments.find id).elim 0 fun p =>
    if r.counts p.methodType then -max 0 (amountRefunded - p.refundedAmount) else 0
  | .refund _ _ _ gatewayAccepts input =>
    match refundSource input gatewayAccepts l.toAccount with
    | .ok (some id, _) => (l.payments.find id).elim 0 fun p =>
      if r.counts p.methodType then -toCents input.amount else 0
    | _ => -toCents input.amount
  | .gatewayFailure .. | .compensateWithCredit .. | .applyWithholding .. => 0

end MoneyReport

def LedgerAction.clock : LedgerAction → Clock
  | .markPaidManually clock .. | .revertPayment clock _ | .gatewaySuccess clock ..
  | .gatewayFailure clock _ | .gatewayDispute clock _ | .gatewayRefund clock .. | .refund clock ..
  | .compensateWithCredit clock _ | .applyWithholding _ clock => clock

def Payment.untouched (p : Payment) : Bool :=
  !p.status.collected && p.paidAt.isNone && p.refundedAt.isNone && p.returnedAt.isNone &&
    p.refundedAmount = 0

/-- The book with the period under way, what the reports of the periods before have added up to, and the
money that has moved. -/
structure ReportedBook where
  book : PaymentBook
  start : Instant
  clock : Instant
  reported : ℤ
  moved : ℤ

def ReportedBook.opening (start : Instant) : ReportedBook := ⟨.empty, start, start, 0, 0⟩

inductive BookAction
  | issue (b : BookedInvoice)
  | charge (id : InvoiceId) (p : Payment)
  | ledger (id : InvoiceId) (action : LedgerAction)
  /-- The report of the period is computed at its end. -/
  | close (finish : Instant)

def bookStep (r : MoneyReport) (s : ReportedBook) : BookAction → Option ReportedBook
  | .issue b =>
    if b.ledger.payments.values.all Payment.untouched then some { s with book := s.book.push b }
    else none
  | .charge id p =>
    if p.untouched then
      some { s with
        book := s.book.modify id fun b =>
          { b with ledger := { b.ledger with payments := b.ledger.payments.push p } } }
    else none
  | .ledger id action =>
    if s.clock ≤ action.clock.now then
      (s.book.find id).bind fun b => (ledgerStep b.ledger action).map fun ledger =>
        { s with
          book := s.book.modify id fun b => { b with ledger }
          clock := action.clock.now
          moved := s.moved + if r.inScope b then r.moved b.ledger action else 0 }
    else none
  | .close finish =>
    if s.clock < finish then
      some { s with
        start := finish
        clock := finish
        reported := s.reported + r.net s.book ⟨s.start, finish⟩ }
    else none

end StorageOS
