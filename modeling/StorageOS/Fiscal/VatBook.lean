import Mathlib.Algebra.Group.Prod
import Mathlib.Data.List.Sort
import StorageOS.Common.Text
import StorageOS.Billing.Rows
import StorageOS.Lib.Grouping

/-! The VAT book of issued invoices (`fiscal/fiscal.service.ts`). An invoice that replaces another one counts for the
difference. Amounts are cents. -/

namespace StorageOS

open Grouping

inductive CustomerType
  | individual
  | business
  deriving DecidableEq

structure FiscalCustomer where
  customerType : CustomerType
  firstName : Option String
  lastName : Option String
  companyName : Option String
  documentNumber : Option String

def customerName : Option FiscalCustomer → String
  | none => "Sin cliente (F2)"
  | some c =>
    match c.customerType with
    | .business => c.companyName.getD "Empresa"
    | .individual =>
      let name := trim (" ".intercalate ([c.firstName, c.lastName].reduceOption.filter (· ≠ "")))
      if name = "" then "Cliente" else name

structure ExpenseRow where
  facilityId : Option FacilityId
  amount : ℤ
  category : String
  expenseDate : Date

/-- The rows of one tenant. A contract is of the facility of its unit. -/
structure FiscalDb where
  accounts : Table InvoiceId Account
  customers : CustomerId → FiscalCustomer
  facilityOf : ContractId → FacilityId
  expenses : List ExpenseRow
  facilities : List (FacilityId × String)

def FiscalDb.invoices (db : FiscalDb) : List Invoice := db.accounts.values.map (·.invoice)

def fiscalStatuses : List InvoiceStatus := [.issued, .paid, .overdue, .refunded, .partiallyRefunded, .rectified]

def Invoice.isDated (inv : Invoice) (fromD toD : Date) : Bool := inv.issueDate.any fun d => fromD ≤ d && d ≤ toD

structure VatGroup where
  rate : ℚ
  taxCategory : String
  base : ℤ
  vat : ℤ
  deriving DecidableEq

abbrev VatGroups := List ((ℚ × String) × (ℤ × ℤ))

def addLine (out : VatGroups) (item : InvoiceItem) (sign : ℤ) : VatGroups :=
  addAt (item.taxRate, item.taxCategory) (sign * (item.total - item.taxAmount), sign * item.taxAmount) out

def sortedGroups (groups : VatGroups) : List VatGroup :=
  (groups.map fun g => ⟨g.1.1, g.1.2, g.2.1, g.2.2⟩).insertionSort fun a b =>
    b.rate < a.rate ∨ a.rate = b.rate ∧ a.taxCategory ≤ b.taxCategory

/-- The invoice that this one replaces. -/
def FiscalDb.substituted (db : FiscalDb) (inv : Invoice) : Option Invoice :=
  if inv.correctionMethod = some .bySubstitution then
    (inv.rectifiesInvoiceId.bind db.accounts.find).map (·.invoice)
  else none

def netByRate (db : FiscalDb) (inv : Invoice) : VatGroups :=
  let out := inv.items.foldl (fun out item => addLine out item 1) []
  match db.substituted inv with
  | some sub => sub.items.foldl (fun out item => addLine out item (-1)) out
  | none => out

/-- An amount of the invoice, net of the one it replaces. -/
def FiscalDb.net (db : FiscalDb) (amount : Invoice → ℤ) (inv : Invoice) : ℤ :=
  amount inv - (db.substituted inv).elim 0 amount

structure VatBookRow where
  invoiceNumber : String
  issueDate : Option Date
  invoiceType : InvoiceType
  customerName : String
  customerNif : Option String
  base : ℤ
  vat : ℤ
  total : ℤ

structure VatBookTotals where
  base : ℤ
  vat : ℤ
  total : ℤ

structure VatBook where
  rows : List VatBookRow
  byRate : List VatGroup
  totals : VatBookTotals

def FiscalDb.vatInvoices (db : FiscalDb) (fromD toD : Date) (ownerId : Option OwnerId) : List Invoice :=
  (db.invoices.filter fun inv => inv.deletedAt.isNone && inv.ownerId = ownerId && inv.status ∈ fiscalStatuses &&
    inv.kind = .invoice && inv.isDated fromD toD).insertionSort fun a b =>
      a.issueDate.getD 0 < b.issueDate.getD 0 ∨
        a.issueDate.getD 0 = b.issueDate.getD 0 ∧ a.invoiceNumber ≤ b.invoiceNumber

def vatBook (db : FiscalDb) (fromD toD : Date) (ownerId : Option OwnerId) : Outcome VatBook := do
  refuseIf (toD < fromD) (badRequest "invalid_range" "Rango de fechas no válido")
  let invoices := db.vatInvoices fromD toD ownerId
  let rows := invoices.map fun inv =>
    let customer := inv.customerId.map db.customers
    { invoiceNumber := inv.invoiceNumber
      issueDate := inv.issueDate
      invoiceType := inv.invoiceType
      customerName := customerName customer
      customerNif := customer.bind (·.documentNumber)
      base := db.net Invoice.subtotal inv
      vat := db.net Invoice.taxAmount inv
      total := db.net Invoice.total inv }
  pure
    { rows
      byRate := sortedGroups (addAll (invoices.flatMap (netByRate db)) [])
      totals := ⟨(rows.map (·.base)).sum, (rows.map (·.vat)).sum, (rows.map (·.total)).sum⟩ }

end StorageOS
