import StorageOS.Lib.Processes
import StorageOS.Billing.Rectifications

/-! Late fees. A fee is an invoice of its own, linked to the overdue invoice it is charged on once
it has been drafted. It is charged beside the cancellation of the overdue invoice and of the fee,
one transaction at a time. -/

namespace StorageOS

/-! ### What is charged -/

inductive LateFeeType
  | percentage
  | fixed
  deriving DecidableEq

structure LateFeeSettings where
  lateFeeEnabled : Bool
  lateFeeType : LateFeeType
  lateFeeValue : ℚ

/-- The invoices with the column that links a fee to its overdue invoice. What each fee was charged on
is kept beside it, also for the fees that were never linked. -/
structure LateFeeDb where
  db : Db
  lateFeeFor : InvoiceId → Option InvoiceId
  chargedOn : InvoiceId → Option InvoiceId

structure InvoiceArgs where
  tenantId : TenantId
  invoiceId : InvoiceId
  facilityScope : Option (List FacilityId)

structure LateFeeInput where
  clock : Clock
  settings : LateFeeSettings
  defaultSeries : Option SeriesId
  ownerSeries : SeriesId
  /-- What the customer, the contract and the series of a new invoice are refused for. -/
  refusal : Option Failure
  placeholderNumber : String
  mode : InvoicingMode
  answer : Option HoldedDocument
  remittance : Option String
  rectSeriesId : SeriesId

structure LateFee where
  customerId : CustomerId
  contractId : Option ContractId
  invoiceLabel : String
  fee : ℚ
  ownerId : Option OwnerId

/-- The invoice that a fee is linked to has this one among its rows. -/
def LateFeeDb.hasLateFee (d : LateFeeDb) (o : InvoiceId) (other : InvoiceId → Bool) : Bool :=
  d.db.accounts.rows.any fun (k, _) => other k && d.lateFeeFor k = some o

/-- The fee in euros: a percentage of what is pending, or a fixed amount. -/
def lateFeeAmount (settings : LateFeeSettings) (original : Invoice) : ℚ :=
  let base := euros (max 0 (original.total - original.amountPaid))
  match settings.lateFeeType with
  | .percentage => (⌊toCents base * (settings.lateFeeValue / 100) + 1 / 2⌋ : ℚ) / 100
  | .fixed => toCents settings.lateFeeValue / 100

def Invoice.overdueOn (i : Invoice) (today : Date) : Bool :=
  i.status = .overdue || (i.status = .issued && i.dueDate.any fun d => d < today)

/-- `InvoicesService.lateFeeFor`: whether an invoice is charged a fee, and how much. -/
def lateFeeFor (tenantId : TenantId) (invoiceId : InvoiceId) (input : LateFeeInput)
    (d : LateFeeDb) : Outcome LateFee :=
  match d.db.findAccount tenantId invoiceId with
  | none => .error (notFound "invoice_not_found" "Factura no encontrada")
  | some a => do
    let original := a.invoice
    refuseIf (original.kind = .depositReceipt)
      (badRequest "invoice_not_chargeable" "Una fianza no lleva recargo por mora")
    refuseIf (d.lateFeeFor invoiceId).isSome
      (badRequest "late_fee_on_late_fee" "Esta factura ya es un recargo por mora: no lleva otro")
    refuseIf (d.hasLateFee invoiceId fun _ => true)
      (conflict "late_fee_already_applied" "Esta factura ya tiene un recargo por mora")
    match original.customerId with
    | none =>
      .error (badRequest "customer_required" "La factura no tiene cliente al que recargar")
    | some customerId => do
      refuseIf (!original.overdueOn input.clock.today)
        (badRequest "invoice_not_overdue" "Solo se aplica recargo a una factura ya vencida")
      refuseIf (!input.settings.lateFeeEnabled) (badRequest "late_fee_disabled"
        "Activa el recargo por mora en Configuración → Facturación para aplicarlo")
      let fee := lateFeeAmount input.settings original
      refuseIf (fee ≤ 0) (badRequest "late_fee_zero" "El recargo configurado es 0")
      return ⟨customerId, original.contractId, original.invoiceNumber, fee, original.ownerId⟩

def LateFee.item (f : LateFee) : InvoiceItemInput where
  description := "Recargo por mora — factura " ++ f.invoiceLabel
  quantity := 1
  unitPrice := f.fee
  taxRate := 0
  taxCategory := none
  relatedContractId := none

def LateFee.draft (f : LateFee) (tenantId : TenantId) (seriesId : SeriesId)
    (placeholderNumber : String) (totals : Totals) (items : List InvoiceItem) : Invoice where
  tenantId
  ownerId := f.ownerId
  customerId := some f.customerId
  contractId := f.contractId
  seriesId
  sequenceNumber := 0
  invoiceNumber := placeholderNumber
  kind := .invoice
  status := .draft
  invoiceType := .F1
  rectifiesInvoiceId := none
  correctionMethod := none
  issueDate := none
  dueDate := none
  subtotal := totals.subtotal
  taxAmount := totals.taxAmount
  total := totals.total
  amountPaid := 0
  amountRefunded := 0
  withholdingPct := 0
  withholdingAmount := 0
  notes := none
  items
  hash := none
  previousHash := none
  previousInvoiceId := none
  chainSeq := none
  aeatRecordTimestamp := none
  aeatStatus := none
  issuedBy := .app
  holdedDocumentId := none
  holdedSyncState := none
  paidAt := none
  cancelledAt := none
  deletedAt := none

def lateFeeSeries (f : LateFee) (input : LateFeeInput) : Outcome SeriesId :=
  match f.ownerId, input.defaultSeries with
  | some _, _ => .ok input.ownerSeries
  | none, some seriesId => .ok seriesId
  | none, none =>
    .error (badRequest "no_default_series" "No hay serie de facturación por defecto")

def createLateFeeDraft (args : InvoiceArgs) (f : LateFee) (input : LateFeeInput) (d : LateFeeDb) :
    Outcome LateFeeDb := do
  let seriesId ← lateFeeSeries f input
  let totals ← computeTotals [f.item]
  match input.refusal with
  | some failure => .error failure
  | none => do
    let item ← toItemCreateData f.item 0
    let row := f.draft args.tenantId seriesId input.placeholderNumber totals [item]
    return { d with
      db := { d.db with accounts := d.db.accounts.push ⟨row, .empty⟩ }
      chargedOn := Function.update d.chargedOn d.db.accounts.nextKey (some args.invoiceId) }

/-! ### Requests -/

/-- A request by the read or the transaction that it makes next. -/
inductive LateFeeRequest
  | charge (args : InvoiceArgs)
  | price (args : InvoiceArgs)
  | create (args : InvoiceArgs) (fee : LateFee)
  | link (args : InvoiceArgs) (feeId : InvoiceId)
  | issueRead (tenantId : TenantId) (feeId : InvoiceId)
  | issue (req : Request)
  | cancelRead (args : InvoiceArgs)
  | cancelReceipt (args : InvoiceArgs)
  | cancelDraft (args : InvoiceArgs)
  | checkIssuer (args : InvoiceArgs)
  | annul (args : InvoiceArgs)
  | credit (args : InvoiceArgs) (original : Invoice)
  | revert (args : InvoiceArgs) (original : Invoice)
  | cleanUp (args : InvoiceArgs)
  | overdue (ids : List InvoiceId)

def InvoiceArgs.cancelArgs (args : InvoiceArgs) (input : LateFeeInput) : CancelArgs where
  tenantId := args.tenantId
  invoiceId := args.invoiceId
  facilityScope := args.facilityScope
  remittance := input.remittance
  rectSeriesId := input.rectSeriesId
  placeholderNumber := input.placeholderNumber
  mode := input.mode
  answer := input.answer

abbrev LateFeeStep := LateFeeDb × Option LateFeeRequest

def goOn (d : LateFeeDb) (next : Outcome LateFeeRequest) : LateFeeStep := (d, next.toOption)

def LateFeeDb.withDb (d : LateFeeDb) (db : Db) : LateFeeDb := { d with db }

def LateFeeDb.modify (d : LateFeeDb) (id : InvoiceId) (f : Account → Account) : LateFeeDb :=
  d.withDb (d.db.modifyAccount id f)

/-- The transaction that links a fee: the unique index lets one fee in for an invoice, and the draft of
any other is cancelled. -/
def linkLateFee (args : InvoiceArgs) (feeId : InvoiceId) (d : LateFeeDb) : LateFeeStep :=
  match d.db.findAccount args.tenantId feeId with
  | none => (d, none)
  | some _ =>
    if d.hasLateFee args.invoiceId fun k => k ≠ feeId then
      (d, some (.cancelRead ⟨args.tenantId, feeId, args.facilityScope⟩))
    else
      ({ d with lateFeeFor := Function.update d.lateFeeFor feeId (some args.invoiceId) },
        some (.issueRead args.tenantId feeId))

/-- The next transaction of an issue; without an answer of Holded the draft stays. -/
def issueStep (reg : Registry) (sha : Sha256) (input : LateFeeInput) (d : LateFeeDb) :
    Request → LateFeeStep
  | .holdedCall args existing =>
    (d, input.answer.map fun doc => .issue (.issue args existing (some doc)))
  | req =>
    match commitRequest reg sha input.clock d.db req with
    | .error _ => (d, none)
    | .ok (db, next) => (d.withDb db, next.map .issue)

/-- `cancel` reads the invoice and goes on by its kind and status. -/
def beginCancel (reg : Registry) (args : InvoiceArgs) (d : LateFeeDb) : Outcome LateFeeRequest := do
  let existing ← findOrThrow reg d.db args.tenantId args.invoiceId args.facilityScope
  return if existing.kind = .depositReceipt then .cancelReceipt args
    else if existing.status ≠ .draft then .checkIssuer args
    else .cancelDraft args

/-- A draft that has been issued since it was read is cancelled as an issued invoice. -/
def cancelDraftTx (args : InvoiceArgs) (input : LateFeeInput) (d : LateFeeDb) : LateFeeStep :=
  match d.db.findAccount args.tenantId args.invoiceId with
  | none => (d, some (.checkIssuer args))
  | some a =>
    if a.invoice.status = .draft then
      (d.modify args.invoiceId fun a => { a with invoice := a.invoice.cancel input.clock }, none)
    else (d, some (.checkIssuer args))

def checkIssuer (reg : Registry) (args : InvoiceArgs) (d : LateFeeDb) : Outcome LateFeeRequest := do
  let row ← orMissing (d.db.findAccount args.tenantId args.invoiceId)
  if row.invoice.issuedBy = .holded then return .annul args
  else
    let tenant ← orMissing (reg.tenant args.tenantId)
    assertIssuerFiscalData reg row.invoice.ownerId tenant
    return .annul args

/-- The reservation of a cancellation: the invoice becomes rectified. -/
def annulTx (args : InvoiceArgs) (input : LateFeeInput) (d : LateFeeDb) : Outcome LateFeeStep := do
  let fresh ← orMissing (d.db.findAccount args.tenantId args.invoiceId)
  assertAnnullable (args.cancelArgs input) fresh
  return (d.modify args.invoiceId (Account.annul input.clock), some (.credit args fresh.invoice))

/-- Without its credit an annulled invoice goes back to the status it had. -/
def Account.restore (original : Invoice) (a : Account) : Account :=
  if a.invoice.status = .rectified then
    { a with invoice := { a.invoice with status := original.status, cancelledAt := none } }
  else a

/-- What `cancelOrphanLateFee` looks for: the fee of the invoice, when it is not settled. -/
def LateFeeDb.liveLateFee (d : LateFeeDb) (args : InvoiceArgs) : Option (InvoiceId × Account) :=
  d.db.accounts.rows.find? fun (k, a) => d.lateFeeFor k = some args.invoiceId &&
    a.invoice.tenantId = args.tenantId && (a.invoice.status = .draft || a.invoice.status.payable) &&
    a.invoice.deletedAt = none

def cancelOrphanLateFee (args : InvoiceArgs) (d : LateFeeDb) : Option LateFeeRequest :=
  (d.liveLateFee args).bind fun (feeId, a) =>
    if a.invoice.amountPaid > 0 then none else some (.cancelRead ⟨args.tenantId, feeId, none⟩)

/-- The invoices that the daily job marks as overdue, without a payment in flight. -/
def overdueIds (now : Instant) (inFlight : InvoiceId → Bool) (db : Db) : List InvoiceId :=
  (db.accounts.rows.filter fun (id, a) => a.invoice.status = .issued &&
    (a.invoice.dueDate.any fun d => d * 86400000 < now) && decide (0 < a.invoice.total) &&
    a.invoice.kind = .invoice && !inFlight id).map Prod.fst

def Account.markOverdue (a : Account) : Account :=
  { a with invoice := { a.invoice with status := .overdue } }

def markOverdue (ids : List InvoiceId) (db : Db) : Db :=
  { db with
    accounts := db.accounts.updateMany (fun q => q.1 ∈ ids) Account.markOverdue }

inductive LateFeeCall
  | createLateFee (args : InvoiceArgs)
  /-- The action of the dunning calendar, with the payments, the plan and the setting it reads. -/
  | executeAction (tenantId : TenantId) (invoiceId : InvoiceId)
      (paymentInFlight inActivePlan lateFeeEnabled : Bool)
  | cancel (args : InvoiceArgs)
  | markOverdue (now : Instant) (inFlight : InvoiceId → Bool)

def LateFeeCall.enter (d : LateFeeDb) : LateFeeCall → Option LateFeeRequest
  | .createLateFee args => some (.charge args)
  | .executeAction tenantId invoiceId paymentInFlight inActivePlan lateFeeEnabled =>
    (d.db.accounts.find invoiceId).bind fun a =>
      if a.invoice.status.payable && !paymentInFlight && !inActivePlan && lateFeeEnabled then
        some (.charge ⟨tenantId, invoiceId, none⟩)
      else none
  | .cancel args => some (.cancelRead args)
  | .markOverdue now inFlight => some (.overdue (overdueIds now inFlight d.db))

def lateFeeNext (reg : Registry) (sha : Sha256) (d : LateFeeDb) (input : LateFeeInput) :
    LateFeeRequest → LateFeeStep
  | .charge args =>
    goOn d ((findOrThrow reg d.db args.tenantId args.invoiceId args.facilityScope).map
      fun _ => .price args)
  | .price args =>
    goOn d ((lateFeeFor args.tenantId args.invoiceId input d).map (.create args))
  | .create args fee =>
    match createLateFeeDraft args fee input d with
    | .error _ => (d, none)
    | .ok d' => (d', some (.link args d.db.accounts.nextKey))
  | .link args feeId => linkLateFee args feeId d
  | .issueRead tenantId feeId =>
    goOn d ((beginIssue reg d.db ⟨tenantId, feeId, none, none, true⟩ input.mode).map .issue)
  | .issue req => issueStep reg sha input d req
  | .cancelRead args => goOn d (beginCancel reg args d)
  | .cancelReceipt args =>
    match cancelDepositReceipt input.clock (args.cancelArgs input) d.db with
    | .error _ => (d, none)
    | .ok db => (d.withDb db, none)
  | .cancelDraft args => cancelDraftTx args input d
  | .checkIssuer args => goOn d (checkIssuer reg args d)
  | .annul args => ((annulTx args input d).toOption).getD (d, none)
  | .credit args original =>
    match creditAnnulled reg sha input.clock (args.cancelArgs input) original d.db with
    | .error _ => (d, some (.revert args original))
    | .ok db => (d.withDb db, some (.cleanUp args))
  | .revert args original => (d.modify args.invoiceId (Account.restore original), none)
  | .cleanUp args => (d, cancelOrphanLateFee args d)
  | .overdue ids => (d.withDb (markOverdue ids d.db), none)

/-- The requests that charge late fees and cancel invoices, on one database. -/
def lateFees (reg : Registry) (sha : Sha256) :
    Processes.System LateFeeDb LateFeeRequest LateFeeCall LateFeeInput where
  enter := LateFeeCall.enter
  next d r input := some (lateFeeNext reg sha d input r)

end StorageOS
