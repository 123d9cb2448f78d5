import Mathlib.Algebra.Order.Ring.Int
import Mathlib.Data.Rat.Defs
import StorageOS.Lib.Table

/-! The rows that billing reads and writes: invoices with their lines and payments, and invoice
series. Amounts are in cents, dates are day numbers and instants are milliseconds. -/

namespace StorageOS

/-- The order of the integers, found first so that a choice by date or instant computes. -/
instance intPreorder : Preorder ℤ := Int.instLinearOrder.toPreorder

abbrev Date := ℤ
abbrev Instant := ℤ
abbrev InvoiceId := ℕ
abbrev PaymentId := ℕ
abbrev SeriesId := ℕ
abbrev TenantId := ℕ
abbrev OwnerId := ℕ
abbrev CustomerId := ℕ
abbrev ContractId := ℕ
abbrev FacilityId := ℕ

inductive ErrorKind
  | badRequest
  | notFound
  | forbidden
  | conflict
  | badGateway
  deriving DecidableEq

/-- The exception a request ends with: its HTTP kind, the code and the text for the client. -/
structure Failure where
  kind : ErrorKind
  code : String
  message : String
  deriving DecidableEq

abbrev Outcome := Except Failure

def badRequest (code message : String) : Failure := ⟨.badRequest, code, message⟩
def conflict (code message : String) : Failure := ⟨.conflict, code, message⟩
def notFound (code message : String) : Failure := ⟨.notFound, code, message⟩

def refuseIf (condition : Prop) [Decidable condition] (failure : Failure) : Outcome Unit :=
  if condition then .error failure else .ok ()

theorem refuseIf_ok {condition : Prop} [Decidable condition] {failure : Failure} {u : Unit}
    (h : refuseIf condition failure = .ok u) : ¬condition := by
  intro met
  rw [refuseIf, if_pos met] at h
  cases h

theorem Outcome.bind_ok {α β : Type} {x : Outcome α} {f : α → Outcome β} {b : β}
    (h : x >>= f = .ok b) : ∃ a, x = .ok a ∧ f a = .ok b := by
  cases x with
  | error e => cases h
  | ok a => exact ⟨a, rfl, h⟩

/-- What follows a check that has passed. -/
theorem Outcome.passed {α β : Type} {x : Outcome α} {y : Outcome β} {b : β} (h : (x >>= fun _ => y) = .ok b) :
    y = .ok b :=
  let ⟨_, _, next⟩ := Outcome.bind_ok h
  next

theorem Outcome.ok_of_toOption {α : Type} {x : Outcome α} {a : α} (h : x.toOption = some a) :
    x = .ok a := by
  cases x with
  | error e => cases h
  | ok b =>
    cases h
    rfl

inductive InvoiceStatus
  | draft
  | issued
  | paid
  | overdue
  | cancelled
  | refunded
  | partiallyRefunded
  | rectified
  deriving DecidableEq

def InvoiceStatus.name : InvoiceStatus → String
  | .draft => "draft"
  | .issued => "issued"
  | .paid => "paid"
  | .overdue => "overdue"
  | .cancelled => "cancelled"
  | .refunded => "refunded"
  | .partiallyRefunded => "partially_refunded"
  | .rectified => "rectified"

inductive InvoiceType
  | F1
  | F2
  | R1
  | R2
  | R3
  | R4
  | R5
  deriving DecidableEq

def InvoiceType.name : InvoiceType → String
  | .F1 => "F1"
  | .F2 => "F2"
  | .R1 => "R1"
  | .R2 => "R2"
  | .R3 => "R3"
  | .R4 => "R4"
  | .R5 => "R5"

inductive InvoiceKind
  | invoice
  | depositReceipt
  deriving DecidableEq

inductive CorrectionMethod
  | byDifferences
  | bySubstitution
  deriving DecidableEq

inductive IssuedBy
  | app
  | holded
  deriving DecidableEq

inductive HoldedSyncState
  | creating
  | approving
  | numbering
  | awaitingHolded
  deriving DecidableEq

inductive AeatStatus
  | pending
  | accepted
  | acceptedWithWarnings
  | rejected
  | error
  deriving DecidableEq

inductive PaymentStatus
  | pending
  | processing
  | succeeded
  | failed
  | refunded
  | partiallyRefunded
  deriving DecidableEq

inductive PaymentMethodType
  | card
  | sepaDebit
  | bankTransfer
  | cash
  | other
  | creditNote
  | withholding
  deriving DecidableEq

inductive PaymentGateway
  | stripe
  | gocardless
  | redsys
  | manual
  deriving DecidableEq

structure InvoiceItem where
  description : String
  quantity : ℚ
  unitPrice : ℚ
  taxRate : ℚ
  taxCategory : String
  taxAmount : ℤ
  total : ℤ
  relatedContractId : Option ContractId
  position : ℕ

structure Invoice where
  tenantId : TenantId
  ownerId : Option OwnerId
  customerId : Option CustomerId
  contractId : Option ContractId
  seriesId : SeriesId
  sequenceNumber : ℤ
  invoiceNumber : String
  kind : InvoiceKind
  status : InvoiceStatus
  invoiceType : InvoiceType
  rectifiesInvoiceId : Option InvoiceId
  correctionMethod : Option CorrectionMethod
  issueDate : Option Date
  dueDate : Option Date
  subtotal : ℤ
  taxAmount : ℤ
  total : ℤ
  amountPaid : ℤ
  amountRefunded : ℤ
  withholdingPct : ℚ
  withholdingAmount : ℤ
  notes : Option String
  items : List InvoiceItem
  hash : Option String
  previousHash : Option String
  previousInvoiceId : Option InvoiceId
  chainSeq : Option ℕ
  aeatRecordTimestamp : Option String
  aeatStatus : Option AeatStatus
  issuedBy : IssuedBy
  holdedDocumentId : Option String
  holdedSyncState : Option HoldedSyncState
  paidAt : Option Instant
  cancelledAt : Option Instant
  deletedAt : Option Instant

structure Payment where
  customerId : Option CustomerId
  amount : ℤ
  status : PaymentStatus
  methodType : PaymentMethodType
  gateway : PaymentGateway
  gatewayPaymentId : Option String
  paidAt : Option Instant
  refundedAt : Option Instant
  returnedAt : Option Instant
  refundedAmount : ℤ
  createdAt : Instant

structure InvoiceSeries where
  tenantId : TenantId
  ownerId : Option OwnerId
  name : String
  seriesPrefix : String
  yearScope : Bool
  nextNumber : ℤ
  numberingYear : Option ℤ
  isActive : Bool
  isDefault : Bool
  isRectification : Bool

structure Account where
  invoice : Invoice
  payments : Table PaymentId Payment

structure Db where
  accounts : Table InvoiceId Account
  series : Table SeriesId InvoiceSeries

/-- A transaction of a tenant does not see the rows of the others. -/
def Db.findAccount (db : Db) (tenantId : TenantId) (id : InvoiceId) : Option Account :=
  (db.accounts.find id).filter fun a => a.invoice.tenantId = tenantId

def Db.modifyAccount (db : Db) (id : InvoiceId) (f : Account → Account) : Db :=
  { db with accounts := db.accounts.modify id f }

/-- `findUniqueOrThrow` and `update` fail when the row is not there. -/
def orMissing {α : Type} : Option α → Outcome α
  | some a => .ok a
  | none => .error (notFound "P2025" "No record was found")

theorem orMissing_ok {α : Type} {o : Option α} {a : α} (h : orMissing o = .ok a) : o = some a := by
  cases o with
  | none => cases h
  | some b =>
    cases h
    rfl

def orFail {α : Type} (o : Option α) (failure : Failure) : Outcome α :=
  match o with
  | some a => .ok a
  | none => .error failure

theorem orFail_ok {α : Type} {o : Option α} {failure : Failure} {a : α}
    (h : orFail o failure = .ok a) : o = some a := by
  cases o with
  | none => cases h
  | some b =>
    cases h
    rfl

end StorageOS
