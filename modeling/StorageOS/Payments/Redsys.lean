import StorageOS.Payments.Charge
import StorageOS.Lib.Processes

/-! An order of the Redsys gateway: the notifications of the bank, the answer to a charge of a saved
card and the sweep of charges without an answer claim its row, and what the bank authorised is applied
to the payments of the order or to its invoices. -/

namespace StorageOS

open Processes

inductive RedsysOrderStatus
  | pending
  | charging
  | paid
  | failed
  | expired
  | replaced
  deriving DecidableEq

structure RedsysOrder where
  order : String
  tenantId : TenantId
  invoiceId : InvoiceId
  extraInvoiceIds : List InvoiceId
  amountCents : ℤ
  positive : 0 < amountCents
  status : RedsysOrderStatus

/-- The documents, `bundledWithInvoiceId` of each, the order, the review notices of what could not be
applied, and whether the bank has said that it authorised the order. -/
structure RedsysDb where
  docs : Documents
  bundledWith : InvoiceId → Option InvoiceId
  order : RedsysOrder
  reviews : List ℤ
  approved : Bool

def RedsysDb.setStatus (db : RedsysDb) (status : RedsysOrderStatus) : RedsysDb :=
  { db with order := { db.order with status } }

def RedsysDb.group (db : RedsysDb) : List (InvoiceId × PaymentId × Payment) :=
  ((db.docs.rows.filter fun d => d.2.invoice.tenantId = db.order.tenantId).flatMap fun d =>
    (d.2.payments.rows.filter fun q => q.2.gatewayPaymentId = some db.order.order).map fun q =>
      (d.1, q.1, q.2)).insertionSort fun x y => x.2.2.createdAt ≤ y.2.2.createdAt

def Payment.awaits (p : Payment) (order : String) : Bool :=
  p.gateway = .redsys && p.gatewayPaymentId = some order && p.status.inFlight

def RedsysDb.inFlight (db : RedsysDb) : Bool :=
  db.docs.rows.any fun d => d.2.invoice.tenantId = db.order.tenantId &&
    d.2.payments.rows.any fun q => q.2.awaits db.order.order

/-- The payments that wait for the answer of an expired charge fail. -/
def RedsysDb.failAwaiting (db : RedsysDb) : RedsysDb :=
  { db with
    docs := db.docs.view fun a =>
      if a.invoice.tenantId = db.order.tenantId then
        { a with
          payments := a.payments.updateMany (fun q => q.2.awaits db.order.order)
            fun p => { p with status := .failed } }
      else a }

def RedsysOrder.mains (o : RedsysOrder) : List InvoiceId := o.invoiceId :: o.extraInvoiceIds

/-- Each invoice in the order of the order, followed by its deposit receipt. -/
def RedsysDb.rank (db : RedsysDb) (id : InvoiceId) : ℤ :=
  match db.order.mains.idxOf? id with
  | some main => main * 2
  | none =>
    match (db.bundledWith id).bind fun main => db.order.mains.idxOf? main with
    | some main => main * 2 + 1
    | none => -1

/-- The invoices of the order and their deposit receipts, where they can be paid. -/
def RedsysDb.payableDocs (db : RedsysDb) : List (InvoiceId × Account) :=
  (db.docs.rows.filter fun d => d.2.invoice.tenantId = db.order.tenantId &&
    (d.1 ∈ db.order.mains ||
      (db.bundledWith d.1).any (· ∈ db.order.mains) && d.2.invoice.kind = .depositReceipt) &&
    d.2.invoice.status.payable && d.2.invoice.deletedAt = none).insertionSort fun x y =>
      db.rank x.1 ≤ db.rank y.1

def splitAmount : ℤ → List (InvoiceId × Account) → List (InvoiceId × ℤ) × ℤ
  | remaining, [] => ([], remaining)
  | remaining, (id, a) :: rest =>
    let pendingCents := max 0 (a.invoice.total - a.invoice.amountPaid)
    let cents := min remaining pendingCents
    let (parts, left) := splitAmount (remaining - cents) rest
    (if cents > 0 then (id, cents) :: parts else parts, left)

/-- The parts of the order by document; what is left over goes to its invoice. -/
def RedsysDb.splitOrder (db : RedsysDb) : List (InvoiceId × ℤ) :=
  let (parts, remaining) := splitAmount db.order.amountCents db.payableDocs
  if remaining > 0 || parts.isEmpty then
    parts ++ [(db.order.invoiceId, if remaining > 0 then remaining else db.order.amountCents)]
  else parts

/-- A part of the order as a collection. The payment in flight, if any, and the remittance do not
refuse it: the bank has confirmed it. -/
def redsysCollection (cents : ℤ) (positive : 0 < cents) : MarkPaidManuallyInput where
  amount := euros cents
  positive := euros_pos positive
  paidAt := none
  methodType := .card
  overridePaymentInFlight := true
  allowPartialNonCash := false
  allowInSepaRemittance := true

/-- `markPaidManually` of a part of the order. -/
def RedsysDb.markPart (db : RedsysDb) (clock : Clock) (id : InvoiceId) (cents : ℤ) :
    Option RedsysDb :=
  if positive : 0 < cents then do
    let a ← db.docs.tenantInvoice db.order.tenantId id
    let b ← (markPaidManually clock false none (redsysCollection cents positive) a).toOption
    return { db with docs := db.docs.modify id fun _ => b }
  else none

/-! ### Requests -/

/-- A notification with a valid signature, or the sweep. -/
inductive RedsysRequest
  | notify (approved : Bool)
  | sweep

/-- A request under way, or the charge of a saved card that has sent the order. -/
inductive RedsysCall
  | claiming (approved : Bool)
  | counting (approved : Bool)
  | finding (approved : Bool)
  | syncing (payments : List (InvoiceId × PaymentId × Payment)) (approved : Bool)
  | splitting
  | marking (parts : List (InvoiceId × ℤ))
  | reviewing
  | expiring
  | failing
  | answering (payments : List ReservedPayment)
  | resolving (payments : List ReservedPayment) (approved : Bool)
  | settling (payments : List ReservedPayment) (result : ChargeResult)

/-- What the bank answers to a charge: that it authorised it or not, nothing that can be read, or an
error before the charge. -/
inductive BankAnswer
  | approved
  | denied
  | unknown
  | error
  deriving DecidableEq

structure RedsysInput where
  clock : Clock
  answer : BankAnswer

def enterRedsys (db : RedsysDb) : RedsysRequest → Option RedsysCall
  | .notify approved => if db.order.status = .paid then none else some (.claiming approved)
  | .sweep => if db.order.status = .charging then some .expiring else none

def RedsysOrderStatus.claimable (s : RedsysOrderStatus) : Bool :=
  s = .pending || s = .charging || s = .expired || s = .replaced

def answeredStatus (approved : Bool) : RedsysOrderStatus := if approved then .paid else .failed

def nextRedsys (db : RedsysDb) (call : RedsysCall) (input : RedsysInput) :
    RedsysDb × Option RedsysCall :=
  match call with
  | .claiming approved =>
    let told := { db with approved := db.approved || approved }
    if db.order.status.claimable then
      (told.setStatus (answeredStatus approved), some (.counting approved))
    else (told, none)
  | .counting approved =>
    (db, if db.inFlight then some (.finding approved) else if approved then some .splitting else none)
  | .finding approved => (db, some (.syncing db.group approved))
  | .syncing [] _ => (db, none)
  | .syncing ((id, paymentId, _) :: rest) approved =>
    ({ db with
        docs := db.docs.modify id (syncOneFromWebhook input.clock
          (if approved then .succeeded else .failed)
          (if approved then some input.clock.now else none) paymentId) },
      some (.syncing rest approved))
  | .splitting => (db, some (.marking db.splitOrder))
  | .marking [] => (db, none)
  | .marking ((id, cents) :: rest) =>
    match db.markPart input.clock id cents with
    | some db => (db, some (.marking rest))
    | none => (db, some .reviewing)
  | .reviewing => ({ db with reviews := db.order.amountCents :: db.reviews }, none)
  | .expiring =>
    if db.order.status = .charging then (db.setStatus .expired, some .failing) else (db, none)
  | .failing => (db.failAwaiting, none)
  | .answering payments =>
    (db, some (match input.answer with
      | .approved => .resolving payments true
      | .denied => .resolving payments false
      | .unknown => .settling payments .unknown
      | .error => .settling payments .failed))
  | .resolving payments approved =>
    let told := { db with approved := db.approved || approved }
    if db.order.status = .charging then
      (told.setStatus (answeredStatus approved),
        some (.settling payments (if approved then .succeeded else .failed)))
    else (told, some (.settling payments .failed))
  | .settling payments result =>
    ({ db with
      docs := onPayments (settlePayment input.clock result (some db.order.order)) payments db.docs },
      none)

def redsysSystem : Processes.System RedsysDb RedsysCall RedsysRequest RedsysInput where
  enter := enterRedsys
  next db call input := some (nextRedsys db call input)

end StorageOS
