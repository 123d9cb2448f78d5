import StorageOS.Billing.Requests
import StorageOS.Payments.Collections

/-! Rectifications of an invoice: how they are drafted, edited, issued, cancelled and refunded, one
operation after another, and an issued invoice that is annulled with a credit for its total. -/

namespace StorageOS

/-! ### Drafting a rectification -/

inductive RectificationType
  | R1
  | R2
  | R3
  | R4
  | R5
  deriving DecidableEq

def RectificationType.invoiceType : RectificationType → InvoiceType
  | .R1 => .R1
  | .R2 => .R2
  | .R3 => .R3
  | .R4 => .R4
  | .R5 => .R5

structure RectifyInvoiceInput where
  rectificationType : RectificationType
  correctionMethod : Option CorrectionMethod
  items : List InvoiceItemInput
  issueDate : Option Date

/-- A request to rectify, with the series of rectifications of the issuer and the placeholder of a
number. -/
structure RectifyArgs where
  tenantId : TenantId
  originalInvoiceId : InvoiceId
  facilityScope : Option (List FacilityId)
  input : RectifyInvoiceInput
  allowRectifiedOriginal : Bool
  rectSeriesId : SeriesId
  placeholderNumber : String

def computeTotalsRectify (items : List InvoiceItemInput) : Outcome Totals := computeTotals items

def toRectifyItemCreateData (item : InvoiceItemInput) (position : ℕ) : Outcome InvoiceItem :=
  toItemCreateData item position

/-- Only an issued invoice that is no rectification itself is rectified. -/
def assertRectifiable (original : Invoice) (allowRectifiedOriginal : Bool) : Outcome Unit := do
  refuseIf (original.kind = .depositReceipt) (badRequest "invoice_not_rectifiable"
    "Un justificante de fianza no es una factura: no se rectifica")
  refuseIf (original.status = .draft ∨ original.status = .cancelled)
    (badRequest "invoice_not_rectifiable" "Solo se pueden rectificar facturas emitidas")
  refuseIf (original.status = .rectified ∧ !allowRectifiedOriginal)
    (badRequest "invoice_not_rectifiable"
      "La factura ya está anulada con una rectificativa por el total")
  refuseIf (original.invoiceType ≠ .F1 ∧ original.invoiceType ≠ .F2)
    (badRequest "invoice_not_rectifiable" "No se puede rectificar una factura rectificativa")

def draftRectification (args : RectifyArgs) (original : Invoice) (totals : Totals)
    (items : List InvoiceItem) : Invoice where
  tenantId := args.tenantId
  ownerId := original.ownerId
  customerId := original.customerId
  contractId := original.contractId
  seriesId := args.rectSeriesId
  sequenceNumber := 0
  invoiceNumber := args.placeholderNumber
  kind := .invoice
  status := .draft
  invoiceType := args.input.rectificationType.invoiceType
  rectifiesInvoiceId := some args.originalInvoiceId
  correctionMethod := some (args.input.correctionMethod.getD .byDifferences)
  issueDate := args.input.issueDate
  dueDate := none
  subtotal := totals.subtotal
  taxAmount := totals.taxAmount
  total := totals.total
  amountPaid := 0
  amountRefunded := 0
  withholdingPct := 0
  withholdingAmount := 0
  notes := none
  items
  hash := none
  previousHash := none
  previousInvoiceId := none
  chainSeq := none
  aeatRecordTimestamp := none
  aeatStatus := none
  issuedBy := .app
  holdedDocumentId := none
  holdedSyncState := none
  paidAt := none
  cancelledAt := none
  deletedAt := none

/-- `InvoicesService.rectify`: the rectification is drafted after the invoices there are. -/
def rectify (reg : Registry) (args : RectifyArgs) (db : Db) : Outcome Db := do
  let original ← findOrThrow reg db args.tenantId args.originalInvoiceId args.facilityScope
  assertRectifiable original args.allowRectifiedOriginal
  let totals ← computeTotalsRectify args.input.items
  assertRectificationLimits db args.tenantId args.originalInvoiceId none totals.total
    (args.input.correctionMethod.getD .byDifferences)
  let items ← args.input.items.zipIdx.mapM fun (item, position) =>
    toRectifyItemCreateData item position
  .ok { db with
    accounts := db.accounts.push ⟨draftRectification args original totals items, .empty⟩ }

/-! ### Editing and issuing -/

def updateInvoice (reg : Registry) (clock : Clock) (args : UpdateArgs) (db : Db) : Outcome Db := do
  let existing ← findOrThrow reg db args.tenantId args.invoiceId args.facilityScope
  assertEditable existing args.input
  updateTx clock args.tenantId args.invoiceId existing args.input db

/-- The issue of an invoice that Holded has numbered. When it fails, the invoice stays as it was left
for Holded. -/
def issueAnswered (reg : Registry) (sha : Sha256) (clock : Clock) (args : IssueArgs)
    (existing : Invoice) (answer : Option HoldedDocument) (reserved : Db) : Db :=
  match answer with
  | none => reserved
  | some doc =>
    match issueTx reg sha clock args.tenantId args.invoiceId existing args.settleZero (some doc)
      reserved with
    | .ok db => db
    | .error _ => reserved

/-- `InvoicesService.issue`, with the answer of Holded where it numbers the invoice. -/
def issueInvoice (reg : Registry) (sha : Sha256) (clock : Clock) (args : IssueArgs)
    (mode : InvoicingMode) (answer : Option HoldedDocument) (db : Db) : Outcome Db := do
  match ← beginIssue reg db args mode with
  | .awaitHoldedCreditNote _ existing =>
    awaitHoldedCreditNoteTx args.tenantId args.invoiceId existing db
  | .issueInHolded _ existing => do
    let reserved ← issueInHoldedTx reg clock args.tenantId args.invoiceId existing db
    .ok (issueAnswered reg sha clock args existing answer reserved)
  | .issue _ existing fromHolded =>
    issueTx reg sha clock args.tenantId args.invoiceId existing args.settleZero fromHolded db
  | _ => .ok db

/-! ### Cancelling -/

structure CancelArgs where
  tenantId : TenantId
  invoiceId : InvoiceId
  facilityScope : Option (List FacilityId)
  remittance : Option String
  rectSeriesId : SeriesId
  placeholderNumber : String
  mode : InvoicingMode
  answer : Option HoldedDocument

def Invoice.cancel (clock : Clock) (i : Invoice) : Invoice :=
  { i with status := .cancelled, cancelledAt := some clock.now }

/-- A receipt of a deposit without collections is cancelled without a credit. -/
def cancelDepositReceipt (clock : Clock) (args : CancelArgs) (db : Db) : Outcome Db := do
  let fresh ← orMissing (db.findAccount args.tenantId args.invoiceId)
  refuseIf (!fresh.invoice.status.payable)
    (badRequest "invoice_not_cancellable" "El justificante ya está cobrado o anulado")
  refuseIf (fresh.invoice.amountPaid > 0) (badRequest "invoice_has_payments"
    "La fianza ya se cobró: devuélvela al liquidar la fianza del contrato")
  assertNotInSepaRemittance args.remittance
  .ok (db.modifyAccount args.invoiceId fun a => { a with invoice := a.invoice.cancel clock })

/-- The checks that an issued invoice is annulled without having been collected. -/
def assertAnnullable (args : CancelArgs) (fresh : Account) : Outcome Unit := do
  refuseIf (!fresh.invoice.status.payable) (badRequest "invoice_not_cancellable"
    (if fresh.invoice.status = .rectified ∨ fresh.invoice.status = .cancelled
      then "La factura ya está anulada"
      else "Una factura cobrada no se anula: reembólsala o emite una rectificativa"))
  refuseIf (fresh.invoice.invoiceType ≠ .F1 ∧ fresh.invoice.invoiceType ≠ .F2)
    (badRequest "invoice_not_cancellable"
      "Una rectificativa no se anula: emite otra rectificativa")
  refuseIf (fresh.invoice.amountPaid - fresh.invoice.withholdingAmount > 0)
    (badRequest "invoice_has_payments"
      "La factura tiene cobros: reembolsa lo cobrado o emite una rectificativa por la diferencia")
  refuseIf (fresh.payments.rows.any fun p => p.2.status.inFlight)
    (conflict "payment_in_progress"
      "Hay un cobro en curso para esta factura: espera a que se resuelva")
  assertNotInSepaRemittance args.remittance

/-- A line with the opposite price, in one unit when the quantity is no whole number. -/
def InvoiceItem.credit (it : InvoiceItem) : InvoiceItemInput :=
  let integer : Bool := it.quantity.den = 1 && 0 < it.quantity
  { description := it.description
    quantity := if integer then it.quantity else 1
    unitPrice := -(if integer then it.unitPrice
      else (⌊it.quantity * it.unitPrice * 100 + 1 / 2⌋ : ℚ) / 100)
    taxRate := it.taxRate
    taxCategory := some it.taxCategory
    relatedContractId := it.relatedContractId }

def CancelArgs.rectifyArgs (args : CancelArgs) (original : Invoice) : RectifyArgs where
  tenantId := args.tenantId
  originalInvoiceId := args.invoiceId
  facilityScope := none
  input := {
    rectificationType := if original.invoiceType = .F2 then .R5 else .R4
    correctionMethod := some .byDifferences
    items := original.items.map InvoiceItem.credit
    issueDate := none }
  allowRectifiedOriginal := true
  rectSeriesId := args.rectSeriesId
  placeholderNumber := args.placeholderNumber

def CancelArgs.issueArgs (args : CancelArgs) (rectificationId : InvoiceId) : IssueArgs :=
  ⟨args.tenantId, rectificationId, none, none, true⟩

/-- The credit is compensated with its original: nothing is left to collect of it. -/
def Invoice.compensated (clock : Clock) (i : Invoice) : Invoice :=
  if i.status = .issued then
    { i with status := .paid, amountPaid := i.total, paidAt := some clock.now, dueDate := none }
  else i

def Account.annul (clock : Clock) (a : Account) : Account :=
  { a with invoice := { a.invoice with status := .rectified, cancelledAt := some clock.now } }

def Account.compensate (clock : Clock) (a : Account) : Account :=
  { a with invoice := a.invoice.compensated clock }

/-- The credit for the total of an annulled invoice is drafted and issued. When the issue fails, the
draft stays. -/
def creditAnnulled (reg : Registry) (sha : Sha256) (clock : Clock) (args : CancelArgs)
    (original : Invoice) (db : Db) : Outcome Db := do
  let rectificationId := db.accounts.nextKey
  let drafted ← rectify reg (args.rectifyArgs original) db
  match issueInvoice reg sha clock (args.issueArgs rectificationId) args.mode args.answer drafted with
  | .error _ => .ok drafted
  | .ok issued => .ok (issued.modifyAccount rectificationId (Account.compensate clock))

/-- Annuls an issued invoice: it becomes rectified, and a credit is made for its total. Without the
draft of the credit nothing is annulled. -/
def cancelIssued (reg : Registry) (sha : Sha256) (clock : Clock) (args : CancelArgs) (db : Db) :
    Outcome Db := do
  let original ← orMissing (db.findAccount args.tenantId args.invoiceId)
  let tenant ← orMissing (reg.tenant args.tenantId)
  if original.invoice.issuedBy ≠ .holded then
    assertIssuerFiscalData reg original.invoice.ownerId tenant
  assertAnnullable args original
  creditAnnulled reg sha clock args original.invoice
    (db.modifyAccount args.invoiceId (Account.annul clock))

/-- `InvoicesService.cancel`. -/
def cancelInvoice (reg : Registry) (sha : Sha256) (clock : Clock) (args : CancelArgs) (db : Db) :
    Outcome Db := do
  let existing ← findOrThrow reg db args.tenantId args.invoiceId args.facilityScope
  if existing.kind = .depositReceipt then cancelDepositReceipt clock args db
  else if existing.status ≠ .draft then cancelIssued reg sha clock args db
  else
    .ok (db.modifyAccount args.invoiceId fun a => { a with invoice := a.invoice.cancel clock })

/-! ### Refunding -/

structure RefundArgs where
  tenantId : TenantId
  invoiceId : InvoiceId
  facilityScope : Option (List FacilityId)
  input : RefundInvoiceInput
  allowDepositReceipt : Bool
  rejectDuplicate : Bool
  gatewayAccepts : Bool

structure RectificationState where
  db : Db
  refunds : InvoiceId → List InvoiceRefund

def refundInvoice (reg : Registry) (clock : Clock) (args : RefundArgs) (s : RectificationState) :
    Outcome RectificationState := do
  let _ ← findOrThrow reg s.db args.tenantId args.invoiceId args.facilityScope
  let a ← orMissing (s.db.findAccount args.tenantId args.invoiceId)
  let refunded ← refund clock args.allowDepositReceipt args.rejectDuplicate args.gatewayAccepts
    args.input ⟨a, s.refunds args.invoiceId⟩
  .ok ⟨s.db.modifyAccount args.invoiceId fun _ => refunded.toAccount,
    Function.update s.refunds args.invoiceId refunded.refunds⟩

/-! ### One operation after another -/

inductive RectificationAction
  | rectify (args : RectifyArgs)
  | update (clock : Clock) (args : UpdateArgs)
  | issue (clock : Clock) (args : IssueArgs) (mode : InvoicingMode) (answer : Option HoldedDocument)
  | cancel (clock : Clock) (args : CancelArgs)
  | refund (clock : Clock) (args : RefundArgs)

def rectificationStep (reg : Registry) (sha : Sha256) (s : RectificationState) :
    RectificationAction → Option RectificationState
  | .rectify args => (rectify reg args s.db).toOption.map fun db => { s with db }
  | .update clock args => (updateInvoice reg clock args s.db).toOption.map fun db => { s with db }
  | .issue clock args mode answer =>
    (issueInvoice reg sha clock args mode answer s.db).toOption.map fun db => { s with db }
  | .cancel clock args =>
    (cancelInvoice reg sha clock args s.db).toOption.map fun db => { s with db }
  | .refund clock args => (refundInvoice reg clock args s).toOption

end StorageOS
