import StorageOS.Billing.Issue
import StorageOS.Billing.Recurring

/-! `SepaService.createRemittance`: the invoices it may present and the mandates they are collected
with, the debits that go to the bank's file, and the remittance with one item for each debit. -/

namespace StorageOS

abbrev MandateId := ℕ
abbrev RemittanceId := ℕ
abbrev SepaItemId := ℕ

inductive SequenceType
  | FRST
  | RCUR
  deriving DecidableEq

inductive MandateStatus
  | active
  | cancelled
  | expired
  deriving DecidableEq

inductive SepaMandateSignatureStatus
  | pending
  | signed
  | external
  deriving DecidableEq

/-- The mandate counts for collection, signed in the application or outside. -/
def mandateIsSigned (status : SepaMandateSignatureStatus) : Bool :=
  status = .signed || status = .external

/-- The mandate of a customer. It is `FRST` until its first successful collection, then `RCUR`. -/
structure SepaMandate where
  customerId : CustomerId
  reference : String
  iban : String
  bic : Option String
  signedAt : Date
  sequenceType : SequenceType
  lastCollectedAt : Option Date
  status : MandateStatus
  signatureStatus : SepaMandateSignatureStatus
  prenoticeDays : Option ℤ

inductive SepaItemStatus
  | pending
  | collected
  | failed
  | returned
  | cancelled
  deriving DecidableEq

/-- An item of one of these statuses holds its invoice: no other item can present it. -/
def SepaItemStatus.live (s : SepaItemStatus) : Bool := s = .pending || s = .collected

structure SepaItem where
  remittanceId : RemittanceId
  invoiceId : InvoiceId
  mandateId : MandateId
  amount : ℤ
  positive : 0 < amount
  sequenceType : SequenceType
  endToEndId : String
  status : SepaItemStatus
  failureReason : Option String

abbrev SepaItems := Table SepaItemId SepaItem
abbrev SepaMandates := Table MandateId SepaMandate

structure SepaSettings where
  creditorName : String
  creditorId : String
  creditorIban : String
  creditorBic : Option String
  prenoticeDays : ℤ

/-! ### The file -/

structure Pain008Creditor where
  name : String
  creditorId : String
  iban : String
  bic : Option String

structure Pain008Transaction where
  endToEndId : String
  amountCents : ℤ
  mandateReference : String
  mandateSignedDate : Date
  sequenceType : SequenceType
  debtorName : String
  debtorIban : String
  debtorBic : Option String
  remittanceInfo : String

structure PmtInf where
  sequenceType : SequenceType
  nbOfTxs : ℕ
  ctrlSum : ℤ
  transactions : List Pain008Transaction

structure Pain008 where
  messageId : String
  creditor : Pain008Creditor
  collectionDate : Date
  nbOfTxs : ℕ
  ctrlSum : ℤ
  pmtInf : List PmtInf

def totalCents (transactions : List Pain008Transaction) : ℤ :=
  (transactions.map Pain008Transaction.amountCents).sum

/-- The content of the file for the bank, with a block for each sequence type that occurs. -/
def buildPain008 (messageId : String) (creditor : Pain008Creditor) (collectionDate : Date)
    (transactions : List Pain008Transaction) : Pain008 where
  messageId
  creditor
  collectionDate
  nbOfTxs := transactions.length
  ctrlSum := totalCents transactions
  pmtInf := [.FRST, .RCUR].filterMap fun sequenceType =>
    let txs := transactions.filter fun t => t.sequenceType = sequenceType
    if txs.isEmpty then none
    else some ⟨sequenceType, txs.length, totalCents txs, txs⟩

inductive RemittanceStatus
  | generated
  | confirmed
  | cancelled
  deriving DecidableEq

structure SepaRemittance where
  name : String
  messageId : String
  collectionDate : Date
  status : RemittanceStatus
  itemCount : ℕ
  totalAmount : ℤ
  file : Pain008
  confirmedAt : Option Instant

abbrev SepaRemittances := Table RemittanceId SepaRemittance

/-! ### What can be presented -/

/-- A document that a remittance may present: payable, in no other live item and without a payment
in flight. -/
def collectable (items : SepaItems) (id : InvoiceId) (a : Account) : Bool :=
  a.invoice.status.payable && a.invoice.deletedAt = none &&
    !(items.rows.any fun (_, i) => i.invoiceId = id && i.status.live) &&
    !(a.payments.rows.any fun (_, p) => p.status = .pending || p.status = .processing)

structure EligibleInvoice where
  id : InvoiceId
  invoiceNumber : String
  customerId : CustomerId
  customerName : String

/-- The first read of `eligible`, in the order of the invoice numbers. -/
def eligibleInvoices (customerName : CustomerId → String) (tenantId : TenantId)
    (docs : Table InvoiceId Account) (items : SepaItems) : List EligibleInvoice :=
  (docs.rows.filterMap fun (id, a) =>
    if a.invoice.tenantId = tenantId && collectable items id a then
      a.invoice.customerId.map fun c => ⟨id, a.invoice.invoiceNumber, c, customerName c⟩
    else none).insertionSort fun i j => i.invoiceNumber ≤ j.invoiceNumber

/-- The last day of a mandate: 36 months after its last debit, or after its signature. -/
def sepaMandateExpiresOn (lastCollectedAt : Option Date) (signedAt : Date) : Date :=
  addMonths (lastCollectedAt.getD signedAt) 36

def isSepaMandateExpired (today : Date) (m : SepaMandate) : Bool :=
  sepaMandateExpiresOn m.lastCollectedAt m.signedAt < today

def activeMandates (mandates : SepaMandates) : List (MandateId × SepaMandate) :=
  mandates.rows.filter fun (_, m) => m.status = .active

def expiredMandates (today : Date) (active : List (MandateId × SepaMandate)) :
    List (MandateId × SepaMandate) :=
  active.filter fun (_, m) => isSepaMandateExpired today m

def expireMandates (expired : List (MandateId × SepaMandate)) (mandates : SepaMandates) :
    SepaMandates :=
  mandates.updateMany
    (fun (id, m) => (expired.map Prod.fst).contains id && m.status = .active)
    fun m => { m with status := .expired }

def chargeableMandates (today : Date) (active : List (MandateId × SepaMandate)) :
    List (MandateId × SepaMandate) :=
  let expired := (expiredMandates today active).map fun (_, m) => m.customerId
  active.filter fun (_, m) => !expired.contains m.customerId && mandateIsSigned m.signatureStatus

def mandateOf (byCustomer : List (MandateId × SepaMandate)) (customerId : CustomerId) :
    Option (MandateId × SepaMandate) :=
  byCustomer.reverse.find? fun (_, m) => m.customerId = customerId

/-- The days of notice of a remittance: the longest agreed in one of its mandates. -/
def requiredPrenoticeDays (settingsDays : ℤ) (mandates : List SepaMandate) : ℤ :=
  ((mandates.map fun m => m.prenoticeDays.getD settingsDays).max?).getD settingsDays

structure CreateRemittanceInput where
  name : String
  collectionDate : Date
  invoiceIds : Option (List InvoiceId)

/-- The invoices chosen from the eligible ones, with the mandates as they were read. Those in an
active payment plan are left out. `firstDay` writes the first banking day from a date on. -/
def selectInvoices (settings : SepaSettings) (input : CreateRemittanceInput) (today : Date)
    (firstDay : Date → String) (plans : List (List InvoiceId))
    (byCustomer : List (MandateId × SepaMandate)) (invoices : List EligibleInvoice) :
    Outcome (List EligibleInvoice) := do
  let eligible := invoices.filter fun i => !plans.flatten.contains i.id
  let selected := eligible.filter fun i => (input.invoiceIds.map (·.contains i.id)).getD true
  let days := requiredPrenoticeDays settings.prenoticeDays
    (selected.filterMap fun i => (mandateOf byCustomer i.customerId).map Prod.snd)
  let earliest := today + days
  refuseIf (input.collectionDate < earliest)
    (badRequest "collection_date_too_soon"
      ("La fecha de cobro tiene que respetar el preaviso de " ++ toString days ++
        " días pactado con tus inquilinos: como pronto el " ++ firstDay earliest ++ "."))
  return selected

/-! ### The remittance -/

structure FreshInvoice where
  id : InvoiceId
  total : ℤ
  amountPaid : ℤ

def freshInvoices (docs : Table InvoiceId Account) (items : SepaItems)
    (selected : List EligibleInvoice) : List FreshInvoice :=
  selected.filterMap fun i =>
    ((docs.find i.id).filter (collectable items i.id)).map fun a =>
      ⟨i.id, a.invoice.total, a.invoice.amountPaid⟩

def isReferenceChar (c : Char) : Bool :=
  ('A' ≤ c && c ≤ 'Z') || ('a' ≤ c && c ≤ 'z') || ('0' ≤ c && c ≤ '9') || c = '-'

/-- The reference of a debit, with a suffix that tells a second presentation of the invoice from the
first. -/
def endToEndId (invoiceNumber suffix : String) : String :=
  String.ofList ((("E2E-" ++ invoiceNumber ++ "-" ++ suffix).toList.filter isReferenceChar).take 35)

/-- A debit of the remittance: its line and what goes to the file. -/
structure Debit where
  invoiceId : InvoiceId
  mandateId : MandateId
  transaction : Pain008Transaction
  positive : 0 < transaction.amountCents

/-- The debit of an invoice that is still collectable, for what it has pending. `suffix` is the
random end of its reference. -/
def debit (byCustomer : List (MandateId × SepaMandate)) (fresh : List FreshInvoice)
    (suffix : InvoiceId → String) (i : EligibleInvoice) : Option Debit := do
  let now ← fresh.find? fun f => f.id = i.id
  let pending := max 0 (now.total - now.amountPaid)
  if positive : 0 < pending then
    let (mandateId, mandate) ← mandateOf byCustomer i.customerId
    return {
      invoiceId := i.id
      mandateId
      transaction := {
        endToEndId := endToEndId i.invoiceNumber (suffix i.id)
        amountCents := pending
        mandateReference := mandate.reference
        mandateSignedDate := mandate.signedAt
        sequenceType := mandate.sequenceType
        debtorName := i.customerName
        debtorIban := mandate.iban
        debtorBic := mandate.bic
        remittanceInfo := "Factura " ++ i.invoiceNumber }
      positive }
  else none

def debits (byCustomer : List (MandateId × SepaMandate)) (fresh : List FreshInvoice)
    (suffix : InvoiceId → String) (selected : List EligibleInvoice) : List Debit :=
  selected.filterMap (debit byCustomer fresh suffix)

def SepaSettings.creditor (s : SepaSettings) : Pain008Creditor :=
  ⟨s.creditorName, s.creditorId, s.creditorIban, s.creditorBic⟩

def newRemittance (settings : SepaSettings) (messageId : String) (input : CreateRemittanceInput)
    (debits : List Debit) : SepaRemittance where
  name := input.name
  messageId
  collectionDate := input.collectionDate
  status := .generated
  itemCount := debits.length
  totalAmount := totalCents (debits.map Debit.transaction)
  file := buildPain008 messageId settings.creditor input.collectionDate (debits.map Debit.transaction)
  confirmedAt := none

def Debit.item (d : Debit) (remittanceId : RemittanceId) : SepaItem where
  remittanceId
  invoiceId := d.invoiceId
  mandateId := d.mandateId
  amount := d.transaction.amountCents
  positive := d.positive
  sequenceType := d.transaction.sequenceType
  endToEndId := d.transaction.endToEndId
  status := .pending
  failureReason := none

def createItems (remittanceId : RemittanceId) (debits : List Debit) (items : SepaItems) : SepaItems :=
  debits.foldl (fun items d => items.push (d.item remittanceId)) items

def SepaItems.liveOf (items : SepaItems) (id : InvoiceId) : List SepaItem :=
  items.values.filter fun i => i.invoiceId = id && i.status.live

/-- The partial unique index: an invoice has one live item at most. -/
def SepaItems.liveUnique (items : SepaItems) : Bool :=
  items.values.all fun i => (items.liveOf i.invoiceId).length ≤ 1

/-- The rows that the transaction of `createRemittance` writes at its end. -/
def createRemittance (settings : SepaSettings) (messageId : String) (input : CreateRemittanceInput)
    (debits : List Debit) (remittances : SepaRemittances) (items : SepaItems) :
    Outcome (SepaRemittances × SepaItems) := do
  refuseIf (debits.isEmpty = true)
    (badRequest "no_eligible_invoices" "No hay facturas domiciliables con mandato activo")
  let created := createItems remittances.nextKey debits items
  refuseIf (created.liveUnique = false) uniqueViolation
  return (remittances.push (newRemittance settings messageId input debits), created)

end StorageOS
