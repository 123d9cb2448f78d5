import Mathlib.Data.List.MinMax
import StorageOS.Common.Money
import StorageOS.Billing.Hash

/-! Whose invoice it is: the tenant or the owner that issues it, the fiscal data an issuer needs,
and the recipient that the tax agency asks for. -/

namespace StorageOS

structure Tenant where
  taxId : Option String
  invoiceDueDays : ℤ
  billingLegalName : Option String
  billingAddress : Option String
  billingPostalCode : Option String
  billingCity : Option String

structure Owner where
  legalName : String
  taxId : String
  address : Option String
  postalCode : Option String
  city : Option String

structure Customer where
  documentNumber : Option String
  country : Option String

structure AeatCredential where
  tenantId : TenantId
  ownerId : Option OwnerId
  revokedAt : Option Instant
  certValidTo : Instant

structure ContractTerms where
  facilityId : Option FacilityId
  irpfRetentionPct : ℚ

structure Registry where
  tenant : TenantId → Option Tenant
  owner : OwnerId → Option Owner
  customer : CustomerId → Option Customer
  contract : ContractId → Option ContractTerms
  credentials : List AeatCredential
  /-- Real submission to the tax agency, not the stub. -/
  realMode : Bool
  /-- The fiscal data check is off (end-to-end tests only). -/
  skipReadiness : Bool

/-- What a transaction reads from the clock: the instant, the date in the tenant's time zone, and
the instant as the tax agency writes it. -/
structure Clock where
  now : Instant
  today : Date
  recordTimestamp : String
  recorded : recordTimestamp ≠ ""

structure FiscalData where
  taxId : Option String
  billingLegalName : Option String
  billingAddress : Option String
  billingPostalCode : Option String
  billingCity : Option String

def blank (value : Option String) : Bool := trim (value.getD "") = ""

def tenantFiscalDataMissing (reg : Registry) (t : FiscalData) : List String :=
  if reg.skipReadiness then []
  else [(t.taxId, "NIF"), (t.billingLegalName, "razón social"),
    (t.billingAddress, "domicilio fiscal"), (t.billingPostalCode, "código postal"),
    (t.billingCity, "municipio")].filterMap fun (value, label) =>
      if blank value then some label else none

def Tenant.fiscalData (t : Tenant) : FiscalData :=
  ⟨t.taxId, t.billingLegalName, t.billingAddress, t.billingPostalCode, t.billingCity⟩

def Owner.fiscalData (o : Owner) : FiscalData :=
  ⟨some o.taxId, some o.legalName, o.address, o.postalCode, o.city⟩

def assertIssuerFiscalData (reg : Registry) (ownerId : Option OwnerId) (tenant : Tenant) :
    Outcome Unit :=
  match ownerId with
  | some ownerId =>
    match reg.owner ownerId with
    | none => .ok ()
    | some owner =>
      let missing := tenantFiscalDataMissing reg owner.fiscalData
      refuseIf (missing ≠ []) (badRequest "issuer_fiscal_data_required"
        ("Faltan datos del propietario " ++ owner.legalName ++ " (" ++ ", ".intercalate missing ++
          "). Complétalos en Propietarios antes de emitir sus facturas."))
  | none =>
    let missing := tenantFiscalDataMissing reg tenant.fiscalData
    refuseIf (missing ≠ []) (badRequest "issuer_fiscal_data_required"
      ("Antes de emitir facturas, completa los datos de tu empresa (falta: " ++
        ", ".intercalate missing ++ ") en Configuración → Datos de tu empresa."))

/-- The NIF of the issuer: the owner of the invoice or, without one, the tenant. -/
def issuerTaxId (reg : Registry) (ownerId : Option OwnerId) (tenant : Option Tenant) : String :=
  let taxId := match ownerId.bind reg.owner with
    | some owner => some owner.taxId
    | none => tenant.bind Tenant.taxId
  match taxId with
  | some value => normalizeTaxId value
  | none => ""

def emitterTaxId (reg : Registry) (tenantId : TenantId) (ownerId : Option OwnerId) : String :=
  let taxId := issuerTaxId reg ownerId (reg.tenant tenantId)
  if taxId = "" then "PENDIENTE" else taxId

def assertRecipientIdentifiable (reg : Registry) (invoice : Invoice) : Outcome Unit :=
  match invoice.customerId with
  | none =>
    refuseIf (invoice.invoiceType ≠ .F2)
      (badRequest "customer_required" "Una factura completa necesita un cliente identificado")
  | some customerId =>
    let customer := reg.customer customerId
    let doc := trim ((customer.bind Customer.documentNumber).getD "")
    let spanish := ((customer.bind Customer.country).getD "ES").toUpper = "ES"
    refuseIf ((doc = "" ∨ (spanish ∧ !isValidSpanishTaxId doc)) ∧ invoice.invoiceType ≠ .F2)
      (badRequest "customer_tax_id_required"
        ("El cliente no tiene un NIF/NIE válido: complétalo en su ficha (o emite una factura " ++
          "simplificada si no supera 400 €)"))

def taxIdRequired (owner : Option Owner) : Failure :=
  match owner with
  | some owner =>
    badRequest "owner_tax_id_required"
      ("El NIF del propietario " ++ owner.legalName ++
        " no es válido. Corrígelo en Propietarios antes de emitir sus facturas.")
  | none =>
    badRequest "tenant_tax_id_required"
      ("Pon el NIF de tu empresa en Ajustes → Suscripción (datos fiscales) antes de emitir " ++
        "facturas")

/-- The checks of an issue with real submission: the issuer's NIF, the recipient and a current
certificate. -/
def assertRealSubmission (reg : Registry) (clock : Clock) (tenantId : TenantId)
    (tenant : Tenant) (invoice : Invoice) : Outcome Unit :=
  if !reg.realMode then .ok ()
  else do
    refuseIf (!isValidSpanishTaxId (issuerTaxId reg invoice.ownerId (some tenant)))
      (taxIdRequired (invoice.ownerId.bind reg.owner))
    assertRecipientIdentifiable reg invoice
    let certified := reg.credentials.any fun c =>
      c.tenantId = tenantId && c.revokedAt = none && clock.now < c.certValidTo &&
        (c.ownerId = none || c.ownerId = invoice.ownerId)
    refuseIf (!certified)
      (badRequest "aeat_certificate_required"
        ("Sube un certificado digital vigente en Ajustes → Facturación → Veri*Factu antes de " ++
          "emitir facturas"))

/-! Issuing an invoice and editing it: the transactions of `InvoicesService.issue` and
`InvoicesService.update`, with the series counter and the Veri*Factu chain they use. -/

structure FiscalRecord where
  tenantId : TenantId
  ownerId : Option OwnerId
  seriesId : SeriesId
  invoiceType : InvoiceType
  draft : Bool
  taxAmount : ℤ
  total : ℤ
  invoiceNumber : String
  sequenceNumber : ℤ
  issueDate : Option Date
  hash : Option String
  previousHash : Option String
  previousInvoiceId : Option InvoiceId
  chainSeq : Option ℕ
  aeatRecordTimestamp : Option String

def Account.fiscal (a : Account) : FiscalRecord where
  tenantId := a.invoice.tenantId
  ownerId := a.invoice.ownerId
  seriesId := a.invoice.seriesId
  invoiceType := a.invoice.invoiceType
  draft := a.invoice.status = .draft
  taxAmount := a.invoice.taxAmount
  total := a.invoice.total
  invoiceNumber := a.invoice.invoiceNumber
  sequenceNumber := a.invoice.sequenceNumber
  issueDate := a.invoice.issueDate
  hash := a.invoice.hash
  previousHash := a.invoice.previousHash
  previousInvoiceId := a.invoice.previousInvoiceId
  chainSeq := a.invoice.chainSeq
  aeatRecordTimestamp := a.invoice.aeatRecordTimestamp

abbrev FiscalBook := Table InvoiceId FiscalRecord

def Db.fiscal (db : Db) : FiscalBook := db.accounts.view Account.fiscal

/-! ### Rectifications and withholding -/

/-- The limits of the rectifications of an invoice: a substitution needs an original without
collections or other rectifications; differences cannot leave the original below zero. -/
def assertRectificationLimits (db : Db) (tenantId : TenantId) (originalId : InvoiceId)
    (selfId : Option InvoiceId) (total : ℤ) (method : CorrectionMethod) : Outcome Unit := do
  let original ← orMissing (db.findAccount tenantId originalId)
  let others := (db.accounts.rows.filter fun (id, a) =>
    a.invoice.tenantId = tenantId && a.invoice.rectifiesInvoiceId = some originalId &&
      a.invoice.status ≠ .cancelled && a.invoice.deletedAt = none && selfId ≠ some id).map
        fun (_, a) => a.invoice
  match method with
  | .bySubstitution =>
    refuseIf (original.invoice.amountPaid - original.invoice.withholdingAmount > 0)
      (badRequest "substitution_original_paid"
        ("La factura tiene cobros: corrígela con una rectificativa por diferencias, no por " ++
          "sustitución"))
    refuseIf (0 < others.length)
      (conflict "rectification_already_exists"
        "La factura ya tiene rectificativas: no se puede sustituir")
  | .byDifferences =>
    refuseIf (others.any fun o => o.correctionMethod = some .bySubstitution)
      (conflict "invoice_substituted"
        "La factura ya está sustituida: rectifica la sustitutiva")
    refuseIf (original.invoice.total + (others.map Invoice.total).sum + total < 0)
      (badRequest "rectification_exceeds_original"
        "Los abonos no pueden superar el total de la factura")

def InvoiceStatus.payable (s : InvoiceStatus) : Bool := s = .issued || s = .overdue

def substituteOriginal (clock : Clock) (a : Account) : Account :=
  if a.invoice.status.payable then
    { a with invoice := { a.invoice with status := .rectified, cancelledAt := some clock.now } }
  else a

def manualPayment (customerId : Option CustomerId) (amount : ℤ) (methodType : PaymentMethodType)
    (clock : Clock) (paidAt : Instant) : Payment where
  customerId
  amount
  status := .succeeded
  methodType
  gateway := .manual
  gatewayPaymentId := none
  paidAt := some paidAt
  refundedAt := none
  returnedAt := none
  refundedAmount := 0
  createdAt := clock.now

/-- A credit pays what is pending of its original, up to its amount. -/
def compensateWithCredit (clock : Clock) (creditCents : ℤ) (a : Account) : Account :=
  let orig := a.invoice
  let comp := min (orig.total - orig.amountPaid) creditCents
  if !orig.status.payable || comp ≤ 0 then a
  else
    let newPaidCents := orig.amountPaid + comp
    let paid := { orig with amountPaid := newPaidCents }
    { payments := a.payments.push
        (manualPayment orig.customerId comp .creditNote clock clock.now)
      invoice :=
        if newPaidCents ≥ orig.total then { paid with status := .paid, paidAt := some clock.now }
        else paid }

/-- The income tax that the customer withholds, on the lines subject to VAT or exempt from it. -/
def withholdingCents (pct : ℚ) (items : List InvoiceItem) : ℤ :=
  let baseCents : ℤ := ((items.filter fun it =>
    it.taxCategory = "S1" || it.taxCategory.toList.head? = some 'E').map fun it =>
      it.total - it.taxAmount).sum
  ⌊(baseCents : ℚ) * pct / 100 + 1 / 2⌋

/-- Withholding at issue: a payment that is no money, for invoices of a contract only. -/
def applyWithholding (reg : Registry) (clock : Clock) (a : Account) : Account :=
  let row := a.invoice
  let substitute := row.correctionMethod = some .bySubstitution
  match row.contractId with
  | none => a
  | some contractId =>
    if row.kind ≠ .invoice then a
    else if row.invoiceType ≠ .F1 && row.invoiceType ≠ .F2 && !substitute then a
    else
      let pct := ((reg.contract contractId).map ContractTerms.irpfRetentionPct).getD 0
      let amount := withholdingCents pct row.items
      if pct ≤ 0 || amount ≤ 0 then a
      else
        { payments := a.payments.push
            (manualPayment row.customerId amount .withholding clock clock.now)
          invoice := { row with
            withholdingPct := pct
            withholdingAmount := amount
            amountPaid := row.amountPaid + amount } }

/-! ### Numbering and chain -/

/-- The counter of a series after a number for `year`: a series by year starts again at 1. -/
def InvoiceSeries.reserve (s : InvoiceSeries) (year : ℤ) : InvoiceSeries :=
  { s with
    nextNumber := if s.yearScope && s.numberingYear ≠ some year then 2 else s.nextNumber + 1
    numberingYear := if s.yearScope then some year else s.numberingYear }

def Db.findSeries (db : Db) (tenantId : TenantId) (id : SeriesId) : Option InvoiceSeries :=
  (db.series.find id).filter fun s => s.tenantId = tenantId

def reserveNextNumber (db : Db) (tenantId : TenantId) (seriesId : SeriesId) (year : ℤ) :
    Outcome (ℤ × InvoiceSeries) := do
  let series ← orMissing (db.findSeries tenantId seriesId)
  refuseIf (!series.isActive) (conflict "invoice_series_inactive" "La serie esta desactivada")
  let updated := series.reserve year
  return (updated.nextNumber - 1, updated)

def formatInvoiceNumber (series : InvoiceSeries) (sequence : ℤ) (issueDate : Date) : String :=
  let seq := padStart 5 (toString sequence)
  if series.yearScope then
    series.seriesPrefix ++ "/" ++ toString (Gregorian.year issueDate) ++ "/" ++ seq
  else series.seriesPrefix ++ "/" ++ seq

def FiscalBook.numbered (book : FiscalBook) (tenantId : TenantId) (seriesId : SeriesId) :
    List (InvoiceId × FiscalRecord) :=
  book.rows.filter fun (_, r) =>
    r.tenantId = tenantId && r.seriesId = seriesId && decide (0 < r.sequenceNumber)

/-- The date and number of the latest numbered invoice of a series. -/
def FiscalBook.lastInSeries (book : FiscalBook) (tenantId : TenantId) (seriesId : SeriesId) :
    Option (Date × String) :=
  ((book.numbered tenantId seriesId).filterMap fun (_, r) =>
    r.issueDate.map fun d => (d, r.invoiceNumber)).argmax Prod.fst

def FiscalBook.registered (book : FiscalBook) (tenantId : TenantId) (ownerId : Option OwnerId) :
    List (InvoiceId × FiscalRecord) :=
  book.rows.filter fun (_, r) => r.tenantId = tenantId && r.ownerId = ownerId && r.chainSeq.isSome

def FiscalBook.chainHead (book : FiscalBook) (tenantId : TenantId) (ownerId : Option OwnerId) :
    Option (InvoiceId × FiscalRecord) :=
  (book.registered tenantId ownerId).argmax fun (_, r) => r.chainSeq.getD 0

structure Stamp where
  invoiceNumber : String
  sequenceNumber : ℤ
  issueDate : Date
  hash : String
  previousHash : Option String
  previousInvoiceId : Option InvoiceId
  chainSeq : ℕ
  aeatRecordTimestamp : String

/-- `VerifactuService.computeChainedHash`: the record follows the last one of its issuer. -/
def computeChainedHash (sha : Sha256) (clock : Clock) (book : FiscalBook) (tenantId : TenantId)
    (ownerId : Option OwnerId) (tenantTaxId invoiceNumber : String) (sequenceNumber : ℤ)
    (issueDate : Date) (invoiceType : InvoiceType) (taxAmount total : ℤ) : Stamp :=
  let previous := book.chainHead tenantId ownerId
  let previousHash := previous.bind fun (_, r) => r.hash
  { invoiceNumber, sequenceNumber, issueDate, previousHash
    hash := computeAltaHash sha {
      emitterTaxId := tenantTaxId
      invoiceNumber
      issueDate := formatSpanishDate issueDate
      invoiceType := invoiceType.name
      cuotaTotal := taxAmount
      importeTotal := total
      previousHash
      recordTimestamp := clock.recordTimestamp }
    previousInvoiceId := previous.map Prod.fst
    chainSeq := (previous.bind fun (_, r) => r.chainSeq).getD 0 + 1
    aeatRecordTimestamp := clock.recordTimestamp }

/-! ### Issue -/

structure HoldedDocument where
  documentId : String
  number : String

def computeDefaultDueDate (issueDate : Date) (days : ℤ) : Date := issueDate + days

/-- The status, due date and payment of an invoice at issue: a credit, or an invoice of 0 € that
is not left open, is settled. -/
def settleAtIssue (clock : Clock) (settled : Bool) (total : ℤ) (dueDate : Date) (i : Invoice) :
    Invoice :=
  if settled then
    { i with status := .paid, dueDate := none, amountPaid := total, paidAt := some clock.now }
  else { i with status := .issued, dueDate := some dueDate }

def numberTaken (db : Db) (tenantId : TenantId) (id : InvoiceId) (number : String) : Bool :=
  db.accounts.rows.any fun (j, a) =>
    j ≠ id && a.invoice.tenantId = tenantId && a.invoice.invoiceNumber = number

def uniqueViolation : Failure := conflict "P2002" "Unique constraint failed"

def formatIsoDate (d : Date) : String :=
  padStart 4 (toString (Gregorian.year d)) ++ "-" ++ padStart 2 (toString (Gregorian.month d)) ++
    "-" ++ padStart 2 (toString (Gregorian.day d))

/-- The credit of a rectification pays its original when it is issued. -/
def compensateOriginal (clock : Clock) (existing : Invoice) (db : Db) : Db :=
  match existing.rectifiesInvoiceId with
  | some originalId =>
    if existing.total < 0 then
      db.modifyAccount originalId (compensateWithCredit clock (-existing.total))
    else db
  | none => db

/-- The limits of a rectification at issue; a substitution also closes its original. -/
def issueRectification (clock : Clock) (tenantId : TenantId) (invoiceId : InvoiceId)
    (existing : Invoice) (db : Db) : Outcome Db :=
  match existing.rectifiesInvoiceId with
  | none => .ok db
  | some originalId => do
    let method := existing.correctionMethod.getD .byDifferences
    assertRectificationLimits db tenantId originalId (some invoiceId) existing.total method
    return if method = .bySubstitution then
      db.modifyAccount originalId (substituteOriginal clock)
    else db

def issueFromHolded (reg : Registry) (clock : Clock) (tenantId : TenantId) (tenant : Tenant)
    (invoiceId : InvoiceId) (existing : Invoice) (settled : Bool) (issueDate : Date)
    (doc : HoldedDocument) (db : Db) : Outcome Db := do
  let dueDate := existing.dueDate.getD (computeDefaultDueDate issueDate tenant.invoiceDueDays)
  refuseIf (numberTaken db tenantId invoiceId doc.number) uniqueViolation
  let issued := db.modifyAccount invoiceId fun a =>
    let row := { settleAtIssue clock settled existing.total dueDate a.invoice with
      invoiceNumber := doc.number
      issueDate := some issueDate
      issuedBy := .holded
      holdedDocumentId := some doc.documentId
      holdedSyncState := none }
    if settled then { a with invoice := row }
    else applyWithholding reg clock { a with invoice := row }
  return compensateOriginal clock existing issued

def assertDateInOrder (last : Option (Date × String)) (issueDate : Date) : Outcome Unit :=
  match last with
  | none => .ok ()
  | some (lastDate, lastNumber) =>
    refuseIf (issueDate < lastDate)
      (badRequest "issue_date_before_last"
        ("La fecha de emisión no puede ser anterior a la de la última factura de la serie (" ++
          lastNumber ++ ", " ++ formatIsoDate lastDate ++ ")"))

/-- The stamp of an invoice that the application numbers and registers, with its series after. -/
def issueStamp (reg : Registry) (sha : Sha256) (clock : Clock) (tenantId : TenantId)
    (tenant : Tenant) (existing : Invoice) (issueDate : Date) (db : Db) :
    Outcome (Stamp × InvoiceSeries) := do
  let (sequenceNumber, series) ←
    reserveNextNumber db tenantId existing.seriesId (Gregorian.year issueDate)
  assertDateInOrder (db.fiscal.lastInSeries tenantId existing.seriesId) issueDate
  assertIssuerFiscalData reg existing.ownerId tenant
  assertRealSubmission reg clock tenantId tenant existing
  return (computeChainedHash sha clock db.fiscal tenantId existing.ownerId
    (emitterTaxId reg tenantId existing.ownerId)
    (formatInvoiceNumber series sequenceNumber issueDate) sequenceNumber issueDate
    existing.invoiceType existing.taxAmount existing.total, series)

def Invoice.stamp (i : Invoice) (s : Stamp) : Invoice :=
  { i with
    invoiceNumber := s.invoiceNumber
    sequenceNumber := s.sequenceNumber
    issueDate := some s.issueDate
    hash := some s.hash
    previousHash := s.previousHash
    previousInvoiceId := s.previousInvoiceId
    chainSeq := some s.chainSeq
    aeatRecordTimestamp := some s.aeatRecordTimestamp
    aeatStatus := some .pending }

/-- The row of an invoice that the application numbers and registers. -/
def issueInApp (reg : Registry) (sha : Sha256) (clock : Clock) (tenantId : TenantId)
    (tenant : Tenant) (invoiceId : InvoiceId) (existing : Invoice) (settled : Bool)
    (issueDate : Date) (db : Db) : Outcome Db := do
  let (stamp, series) ← issueStamp reg sha clock tenantId tenant existing issueDate db
  let dueDate := existing.dueDate.getD (computeDefaultDueDate issueDate tenant.invoiceDueDays)
  refuseIf (numberTaken db tenantId invoiceId stamp.invoiceNumber) uniqueViolation
  let numbered := { db with series := db.series.modify existing.seriesId fun _ => series }
  let issued := numbered.modifyAccount invoiceId fun a =>
    let row := (settleAtIssue clock settled existing.total dueDate a.invoice).stamp stamp
    if settled then { a with invoice := row }
    else applyWithholding reg clock { a with invoice := row }
  return if existing.correctionMethod.getD .byDifferences = .byDifferences then
    compensateOriginal clock existing issued
  else issued

/-- The transaction of `InvoicesService.issue`, on the row read before it. -/
def issueTx (reg : Registry) (sha : Sha256) (clock : Clock) (tenantId : TenantId)
    (invoiceId : InvoiceId) (existing : Invoice) (settleZero : Bool)
    (fromHolded : Option HoldedDocument) (db : Db) : Outcome Db := do
  let fresh := db.findAccount tenantId invoiceId
  refuseIf (fresh.map (fun a => a.invoice.status) ≠ some .draft)
    (conflict "invoice_already_issued" "La factura ya se ha emitido")
  let db ← issueRectification clock tenantId invoiceId existing db
  let tenant ← orMissing (reg.tenant tenantId)
  let issueDate := existing.issueDate.getD clock.today
  let settled := existing.total < 0 || (existing.total = 0 && settleZero)
  match fromHolded with
  | some doc =>
    issueFromHolded reg clock tenantId tenant invoiceId existing settled issueDate doc db
  | none => issueInApp reg sha clock tenantId tenant invoiceId existing settled issueDate db

end StorageOS
