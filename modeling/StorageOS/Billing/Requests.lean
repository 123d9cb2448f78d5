import StorageOS.Lib.Transition
import StorageOS.Billing.Issue

/-! The requests that issue invoices, edit them and edit their series, as the server runs them:
each reads its row outside any transaction and then commits one or two transactions, and the
transactions of all requests interleave. -/

namespace StorageOS

/-! ### Editing an invoice -/

structure InvoiceItemInput where
  description : String
  quantity : ℚ
  unitPrice : ℚ
  taxRate : ℚ
  taxCategory : Option String
  relatedContractId : Option ContractId

/-- The change of an invoice; a due date given as an empty text is `some none`. -/
structure UpdateInvoiceInput where
  dueDate : Option (Option Date)
  dueDateReason : Option String
  notes : Option String
  items : Option (List InvoiceItemInput)

structure Totals where
  subtotal : ℤ
  taxAmount : ℤ
  total : ℤ
  deriving DecidableEq

def maxInvoiceTotalCents : ℤ := 99999999900

/-- The totals of an invoice are the sums of its lines, each rounded on its own. -/
def computeTotals (items : List InvoiceItemInput) : Outcome Totals :=
  let lines := items.map fun it => lineCents it.quantity it.unitPrice it.taxRate
  let taxCents := (lines.map LineCents.taxCents).sum
  let totalCents := (lines.map LineCents.totalCents).sum
  if |totalCents| > maxInvoiceTotalCents then
    .error (badRequest "amount_too_large"
      "El importe de la factura es demasiado alto: revisa los precios y las cantidades")
  else .ok ⟨totalCents - taxCents, taxCents, totalCents⟩

theorem computeTotals_total {items : List InvoiceItemInput} {totals : Totals}
    (computed : computeTotals items = .ok totals) :
    totals.total = (items.map fun it => (lineCents it.quantity it.unitPrice it.taxRate).totalCents).sum := by
  rw [computeTotals] at computed
  split at computed
  · cases computed
  · obtain rfl := Except.ok.inj computed
    show (List.map _ (List.map _ items)).sum = _
    rw [List.map_map]
    rfl

/-- Without a category, a line with a rate carries VAT and one without is not subject to it. -/
def lineTaxCategory (taxRate : ℚ) (category : Option String) : Outcome String :=
  let c := category.getD (if taxRate > 0 then "S1" else "N1")
  if c = "S1" || taxRate = 0 then .ok c
  else .error (badRequest "exempt_line_with_vat" "Una línea exenta o no sujeta va al 0 % de IVA")

def toItemCreateData (item : InvoiceItemInput) (position : ℕ) : Outcome InvoiceItem := do
  let line := lineCents item.quantity item.unitPrice item.taxRate
  let taxCategory ← lineTaxCategory item.taxRate item.taxCategory
  return {
    description := item.description
    quantity := item.quantity
    unitPrice := item.unitPrice
    taxRate := item.taxRate
    taxCategory
    taxAmount := line.taxCents
    total := line.totalCents
    relatedContractId := item.relatedContractId
    position }

def dueChange (existing : Invoice) (input : UpdateInvoiceInput) : Bool :=
  existing.status ≠ .draft && input.dueDate.isSome

def assertDueChange (existing : Invoice) (input : UpdateInvoiceInput) : Outcome Unit := do
  refuseIf (!existing.status.payable)
    (badRequest "invoice_not_editable"
      "Solo se cambia el vencimiento de una factura pendiente de pago")
  match input.dueDate.join with
  | none => .error (badRequest "due_date_required" "Indica la nueva fecha de vencimiento")
  | some dueDate =>
    refuseIf (blank input.dueDateReason)
      (badRequest "due_date_reason_required" "Indica por qué cambia el vencimiento")
    refuseIf (existing.issueDate.any fun d => dueDate < d)
      (badRequest "due_date_before_issue"
        "El vencimiento no puede ser anterior a la fecha de emisión")

/-- The checks of an edit, on the row read before its transaction. -/
def assertEditable (existing : Invoice) (input : UpdateInvoiceInput) : Outcome Unit := do
  refuseIf (existing.status ≠ .draft ∧ input.items.isSome)
    (badRequest "invoice_not_editable" "Las líneas solo se cambian en un borrador")
  if dueChange existing input then assertDueChange existing input else .ok ()

def postponed (clock : Clock) (existing : Invoice) (input : UpdateInvoiceInput) : Bool :=
  dueChange existing input && existing.status = .overdue &&
    input.dueDate.join.any fun d => clock.today ≤ d

def updatedItems (input : UpdateInvoiceInput) : Outcome (Option (Totals × List InvoiceItem)) :=
  match input.items with
  | none => .ok none
  | some items => do
    let totals ← computeTotals items
    let rows ← items.zipIdx.mapM fun (item, position) => toItemCreateData item position
    return some (totals, rows)

def Invoice.withTotals (i : Invoice) : Option (Totals × List InvoiceItem) → Invoice
  | none => i
  | some (totals, items) =>
    { i with
      subtotal := totals.subtotal
      taxAmount := totals.taxAmount
      total := totals.total
      items }

def noteText (text : String) : Option String := if trim text = "" then none else some (trim text)

def Invoice.edit (clock : Clock) (existing : Invoice) (input : UpdateInvoiceInput)
    (lines : Option (Totals × List InvoiceItem)) (i : Invoice) : Invoice :=
  { i with
    dueDate := input.dueDate.getD i.dueDate
    status := if postponed clock existing input then .issued else i.status
    notes := (input.notes.map noteText).getD i.notes }.withTotals lines

/-- The transaction of `InvoicesService.update`, on the row read before it. -/
def updateTx (clock : Clock) (tenantId : TenantId) (invoiceId : InvoiceId) (existing : Invoice)
    (input : UpdateInvoiceInput) (db : Db) : Outcome Db := do
  let lines ← updatedItems input
  let _ ← orMissing (db.findAccount tenantId invoiceId)
  return db.modifyAccount invoiceId fun a =>
    { a with invoice := Invoice.edit clock existing input lines a.invoice }

/-! ### Editing a series -/

structure UpdateSeriesInput where
  name : Option String
  seriesPrefix : Option String
  yearScope : Option Bool
  isActive : Option Bool
  isDefault : Option Bool

def normalizePrefix (text : String) : String := (trim text).toUpper

def assertSeriesEditable (existing : InvoiceSeries) (input : UpdateSeriesInput) :
    Outcome Unit := do
  refuseIf (input.isDefault = some true ∧ existing.isRectification)
    (conflict "rectification_series_not_default"
      "La serie de rectificativas no puede ser la serie por defecto")
  refuseIf (existing.isDefault ∧ (input.isDefault = some false ∨ input.isActive = some false))
    (conflict "default_series_required" "Marca antes otra serie como la de por defecto")
  refuseIf (input.isDefault = some true ∧ !(input.isActive.getD existing.isActive))
    (conflict "inactive_series_not_default"
      "Una serie desactivada no puede ser la de por defecto")

/-- An edit asks for another prefix or another restart than the series has. -/
def changesNumbering (existing : InvoiceSeries) (input : UpdateSeriesInput) : Bool :=
  (input.seriesPrefix.any fun p => normalizePrefix p ≠ existing.seriesPrefix) ||
    input.yearScope.any fun y => y ≠ existing.yearScope

/-- The first transaction of an edit that changes the numbering: no number has been issued. -/
def assertSeriesUnused (book : FiscalBook) (tenantId : TenantId) (seriesId : SeriesId) :
    Outcome Unit :=
  refuseIf ((book.numbered tenantId seriesId).length > 0)
    (conflict "series_in_use"
      ("La serie ya tiene facturas emitidas: no se puede cambiar su prefijo ni su numeración. " ++
        "Crea una serie nueva."))

def InvoiceSeries.edit (s : InvoiceSeries) (input : UpdateSeriesInput) : InvoiceSeries :=
  { s with
    name := (input.name.map trim).getD s.name
    seriesPrefix := (input.seriesPrefix.map normalizePrefix).getD s.seriesPrefix
    yearScope := input.yearScope.getD s.yearScope
    isActive := input.isActive.getD s.isActive
    isDefault := input.isDefault.getD s.isDefault }

/-- A new default series takes the mark from the others of its owner. -/
def unmarkDefault (tenantId : TenantId) (existing : InvoiceSeries) (input : UpdateSeriesInput)
    (s : InvoiceSeries) : InvoiceSeries :=
  if input.isDefault = some true && !existing.isDefault && s.tenantId = tenantId &&
      s.isDefault && s.ownerId = existing.ownerId then { s with isDefault := false }
  else s

def seriesWriteTx (tenantId : TenantId) (seriesId : SeriesId) (existing : InvoiceSeries)
    (input : UpdateSeriesInput) (db : Db) : Outcome Db := do
  let _ ← orMissing (db.findSeries tenantId seriesId)
  let unmarked := db.series.view (unmarkDefault tenantId existing input)
  return { db with series := unmarked.modify seriesId fun s => s.edit input }

/-! ### Holded -/

inductive InvoicingMode
  | app
  | holded
  deriving DecidableEq

def substitutionNotSupported : Failure :=
  badRequest "holded_substitution_not_supported"
    ("Con Holded como sistema de facturación, rectifica por diferencias (Holded no emite " ++
      "sustitutivas desde la app)")

/-- The limits of a rectification by differences that Holded will issue. -/
def assertHoldedRectification (tenantId : TenantId) (invoiceId : InvoiceId) (existing : Invoice)
    (db : Db) : Outcome Unit :=
  match existing.rectifiesInvoiceId with
  | none => .ok ()
  | some originalId =>
    assertRectificationLimits db tenantId originalId (some invoiceId) existing.total .byDifferences

/-- `awaitHoldedCreditNote`: a rectification waits for the tenant to make it in Holded. -/
def awaitHoldedCreditNoteTx (tenantId : TenantId) (invoiceId : InvoiceId) (existing : Invoice)
    (db : Db) : Outcome Db := do
  assertHoldedRectification tenantId invoiceId existing db
  return db.modifyAccount invoiceId fun a =>
    if a.invoice.status = .draft then
      { a with invoice := { a.invoice with
          holdedSyncState := some .awaitingHolded, issuedBy := .holded } }
    else a

/-- The transaction of `issueInHolded`, before Holded is called. -/
def issueInHoldedTx (reg : Registry) (clock : Clock) (tenantId : TenantId)
    (invoiceId : InvoiceId) (existing : Invoice) (db : Db) : Outcome Db := do
  let fresh ← orMissing (db.findAccount tenantId invoiceId)
  refuseIf (fresh.invoice.status ≠ .draft)
    (conflict "invoice_already_issued" "La factura ya se ha emitido")
  refuseIf (fresh.invoice.holdedSyncState = some .creating)
    (conflict "invoice_issue_in_progress"
      ("Esta factura se está emitiendo en Holded o hay que comprobarla allí (Ajustes → " ++
        "Facturación → Holded)"))
  assertHoldedRectification tenantId invoiceId existing db
  if fresh.invoice.holdedDocumentId.isSome then .ok db
  else do
    let tenant ← orMissing (reg.tenant tenantId)
    let issueDate := fresh.invoice.issueDate.getD clock.today
    return db.modifyAccount invoiceId fun a =>
      { a with invoice := { a.invoice with
          holdedSyncState := some .creating
          issueDate := some issueDate
          dueDate :=
            if existing.dueDate.isSome || existing.total ≤ 0 then a.invoice.dueDate
            else some (computeDefaultDueDate issueDate tenant.invoiceDueDays) } }

/-! ### Requests -/

structure IssueArgs where
  tenantId : TenantId
  invoiceId : InvoiceId
  facilityScope : Option (List FacilityId)
  holdedDocument : Option HoldedDocument
  settleZero : Bool

structure UpdateArgs where
  tenantId : TenantId
  invoiceId : InvoiceId
  facilityScope : Option (List FacilityId)
  input : UpdateInvoiceInput

structure UpdateSeriesArgs where
  tenantId : TenantId
  seriesId : SeriesId
  input : UpdateSeriesInput

/-- A request that has read its row, by the transaction or the call it makes next. -/
inductive Request
  | awaitHoldedCreditNote (args : IssueArgs) (existing : Invoice)
  | issueInHolded (args : IssueArgs) (existing : Invoice)
  | holdedCall (args : IssueArgs) (existing : Invoice)
  | issue (args : IssueArgs) (existing : Invoice) (fromHolded : Option HoldedDocument)
  | update (args : UpdateArgs) (existing : Invoice)
  | seriesCount (args : UpdateSeriesArgs) (existing : InvoiceSeries)
  | seriesWrite (args : UpdateSeriesArgs) (existing : InvoiceSeries)

def isFacilityAllowed (scope : Option (List FacilityId)) (facilityId : FacilityId) : Bool :=
  scope.all fun facilities => facilities.contains facilityId

/-- `InvoicesService.findOrThrow`: the invoice, unless it is deleted or of a facility outside the
user's. -/
def findOrThrow (reg : Registry) (db : Db) (tenantId : TenantId) (invoiceId : InvoiceId)
    (facilityScope : Option (List FacilityId)) : Outcome Invoice :=
  match db.findAccount tenantId invoiceId with
  | none => .error (notFound "invoice_not_found" "Factura no encontrada")
  | some a =>
    if a.invoice.deletedAt ≠ none then .error (notFound "invoice_not_found" "Factura no encontrada")
    else
      let facilityId := (a.invoice.contractId.bind reg.contract).bind ContractTerms.facilityId
      if facilityId.all (isFacilityAllowed facilityScope) then .ok a.invoice
      else .error ⟨.forbidden, "facility_not_in_scope", "No tienes acceso a ese local"⟩

def allowedTransitions : InvoiceStatus → List InvoiceStatus
  | .draft => [.issued, .cancelled]
  | .issued => [.paid, .overdue, .rectified, .refunded, .partiallyRefunded]
  | .overdue => [.paid, .rectified, .refunded, .partiallyRefunded]
  | .paid => [.refunded, .partiallyRefunded]
  | .partiallyRefunded => [.refunded]
  | .refunded => []
  | .cancelled => []
  | .rectified => []

def assertTransition (source target : InvoiceStatus) : Outcome Unit :=
  refuseIf (target ∉ allowedTransitions source)
    (badRequest "invalid_invoice_transition"
      ("Transicion invalida: " ++ source.name ++ " -> " ++ target.name))

/-- What `issue` does before its transaction: it reads the row and sees who numbers it. The mode
is the tenant's; an owner's invoices are always issued here. -/
def beginIssue (reg : Registry) (db : Db) (args : IssueArgs) (tenantMode : InvoicingMode) :
    Outcome Request := do
  let existing ← findOrThrow reg db args.tenantId args.invoiceId args.facilityScope
  refuseIf (existing.kind = .depositReceipt)
    (badRequest "invoice_already_issued"
      "Un justificante de fianza no se emite: ya está disponible para cobrar")
  assertTransition existing.status .issued
  let mode := if existing.ownerId.isSome then .app else tenantMode
  match mode, args.holdedDocument with
  | .app, _ => return .issue args existing none
  | .holded, some doc => return .issue args existing (some doc)
  | .holded, none =>
    if existing.rectifiesInvoiceId.isSome then
      if existing.correctionMethod = some .bySubstitution then .error substitutionNotSupported
      else return .awaitHoldedCreditNote args existing
    else return .issueInHolded args existing

def beginUpdate (reg : Registry) (db : Db) (args : UpdateArgs) : Outcome Request := do
  let existing ← findOrThrow reg db args.tenantId args.invoiceId args.facilityScope
  assertEditable existing args.input
  return .update args existing

def beginSeriesUpdate (db : Db) (args : UpdateSeriesArgs) : Outcome Request :=
  match db.findSeries args.tenantId args.seriesId with
  | none => .error (notFound "invoice_series_not_found" "Serie no encontrada")
  | some existing => do
    assertSeriesEditable existing args.input
    return if changesNumbering existing args.input then .seriesCount args existing
    else .seriesWrite args existing

/-- The next transaction of a request: the database after it and what the request does next. -/
def commitRequest (reg : Registry) (sha : Sha256) (clock : Clock) (db : Db) :
    Request → Outcome (Db × Option Request)
  | .awaitHoldedCreditNote args existing => do
    return (← awaitHoldedCreditNoteTx args.tenantId args.invoiceId existing db, none)
  | .issueInHolded args existing => do
    let db ← issueInHoldedTx reg clock args.tenantId args.invoiceId existing db
    return (db, some (.holdedCall args existing))
  | .holdedCall _ _ => .error ⟨.badGateway, "holded_issue_failed", "Holded no ha respondido"⟩
  | .issue args existing fromHolded => do
    return (← issueTx reg sha clock args.tenantId args.invoiceId existing args.settleZero
      fromHolded db, none)
  | .update args existing => do
    return (← updateTx clock args.tenantId args.invoiceId existing args.input db, none)
  | .seriesCount args existing => do
    assertSeriesUnused db.fiscal args.tenantId args.seriesId
    return (db, some (.seriesWrite args existing))
  | .seriesWrite args existing => do
    return (← seriesWriteTx args.tenantId args.seriesId existing args.input db, none)

structure BillingState where
  db : Db
  requests : ℕ → Option Request

/-- What happens next: a request arrives and reads, commits its next transaction, gets its answer
from Holded, or ends without committing. -/
inductive BillingAction
  | issue (r : ℕ) (args : IssueArgs) (mode : InvoicingMode)
  | update (r : ℕ) (args : UpdateArgs)
  | updateSeries (r : ℕ) (args : UpdateSeriesArgs)
  | commit (r : ℕ) (clock : Clock)
  | holdedAnswer (r : ℕ) (doc : HoldedDocument)
  | fail (r : ℕ)

def BillingState.setRequest (s : BillingState) (r : ℕ) (req : Option Request) : BillingState :=
  { s with requests := Function.update s.requests r req }

/-- A request that arrives under a free number; one that fails its checks leaves nothing. -/
def BillingState.arrive (s : BillingState) (r : ℕ) (read : Outcome Request) :
    Option BillingState :=
  match s.requests r, read with
  | some _, _ => none
  | none, .error _ => some s
  | none, .ok req => some (s.setRequest r (some req))

def billingStep (reg : Registry) (sha : Sha256) (s : BillingState) :
    BillingAction → Option BillingState
  | .issue r args mode => s.arrive r (beginIssue reg s.db args mode)
  | .update r args => s.arrive r (beginUpdate reg s.db args)
  | .updateSeries r args => s.arrive r (beginSeriesUpdate s.db args)
  | .commit r clock =>
    match s.requests r with
    | none => none
    | some req =>
      match commitRequest reg sha clock s.db req with
      | .error _ => some (s.setRequest r none)
      | .ok (db, next) => some { s.setRequest r next with db }
  | .holdedAnswer r doc =>
    match s.requests r with
    | some (.holdedCall args existing) =>
      some (s.setRequest r (some (.issue args existing (some doc))))
    | _ => none
  | .fail r => (s.requests r).map fun _ => s.setRequest r none

/-! ### A tenant with two drafts -/

def draftInvoice (tenantId : TenantId) (seriesId : SeriesId) (taxAmount total : ℤ) : Invoice where
  tenantId
  ownerId := none
  customerId := some 1
  contractId := none
  seriesId
  sequenceNumber := 0
  invoiceNumber := "DRAFT"
  kind := .invoice
  status := .draft
  invoiceType := .F1
  rectifiesInvoiceId := none
  correctionMethod := none
  issueDate := none
  dueDate := none
  subtotal := total - taxAmount
  taxAmount
  total
  amountPaid := 0
  amountRefunded := 0
  withholdingPct := 0
  withholdingAmount := 0
  notes := none
  items := []
  hash := none
  previousHash := none
  previousInvoiceId := none
  chainSeq := none
  aeatRecordTimestamp := none
  aeatStatus := none
  issuedBy := .app
  holdedDocumentId := none
  holdedSyncState := none
  paidAt := none
  cancelledAt := none
  deletedAt := none

/-- A series as `InvoiceSeriesService.create` leaves it. -/
def newSeries (tenantId : TenantId) (seriesPrefix : String) (yearScope : Bool) : InvoiceSeries where
  tenantId
  ownerId := none
  name := "Serie principal"
  seriesPrefix
  yearScope
  nextNumber := 1
  numberingYear := none
  isActive := true
  isDefault := true
  isRectification := false

/-- One tenant, with the fiscal data check off and the stub of the tax agency. -/
def oneTenant : Registry where
  tenant _ := some ⟨some "B12345674", 15, none, none, none, none⟩
  owner _ := none
  customer _ := none
  contract _ := none
  credentials := []
  realMode := false
  skipReadiness := true

def twoDrafts : BillingState where
  db := {
    accounts := (Table.empty.push ⟨draftInvoice 1 0 2100 12100, .empty⟩).push
      ⟨draftInvoice 1 0 2100 12100, .empty⟩
    series := Table.empty.push (newSeries 1 "FA" true) }
  requests _ := none

theorem twoDrafts_draft {id : InvoiceId} {a : Account}
    (found : twoDrafts.db.accounts.find id = some a) : a.invoice = draftInvoice 1 0 2100 12100 := by
  have row := Table.mem_values.mpr ⟨id, found⟩
  simp only [twoDrafts, Table.values_push, Table.values_empty, List.nil_append, List.cons_append,
    List.mem_cons, List.not_mem_nil, or_false, or_self] at row
  rw [row]

def noon (today : Date) : Clock :=
  ⟨today * 86400000 + 39600000, today, "12:00:00+01:00", by simp⟩

def issueOf (invoiceId : InvoiceId) : IssueArgs := ⟨1, invoiceId, none, none, true⟩

end StorageOS
