import StorageOS.Billing.Issue
import StorageOS.Billing.Recurring
import StorageOS.Lib.Processes

/-! Payment plans: the debt of a customer in installments. A plan is created from the open
invoices of the customer that no active plan has; each day those whose invoices are collected or
no longer open are completed. -/

namespace StorageOS

abbrev PlanId := ℕ

inductive PlanStatus
  | active
  | completed
  | broken
  | cancelled
  deriving DecidableEq

inductive PlanFrequency
  | weekly
  | biweekly
  | monthly
  deriving DecidableEq

structure Installment where
  dueDate : Date
  amount : ℤ

structure PaymentPlan where
  customerId : CustomerId
  status : PlanStatus
  invoiceIds : List InvoiceId
  totalAmount : ℤ
  paidAtStart : ℤ
  installments : List Installment
  graceDays : ℤ
  notes : Option String
  completedAt : Option Instant
  brokenAt : Option Instant
  cancelledAt : Option Instant

/-- Splits a total in installments; the last one takes the remaining cents. -/
def buildInstallments (total : ℤ) (count : ℕ) (firstDueDate : Date) (frequency : PlanFrequency) :
    List Installment :=
  let base := total / count
  (List.range count).map fun (k : ℕ) =>
    { dueDate :=
        match frequency with
        | .monthly => addMonths firstDueDate k
        | .weekly => firstDueDate + k * 7
        | .biweekly => firstDueDate + k * 14
      amount := if k + 1 = count then total - base * (count - 1) else base }

theorem sum_buildInstallments (total : ℤ) {count : ℕ} (some_ : 0 < count) (firstDueDate : Date)
    (frequency : PlanFrequency) :
    ((buildInstallments total count firstDueDate frequency).map Installment.amount).sum = total := by
  obtain ⟨n, rfl⟩ := Nat.exists_eq_succ_of_ne_zero (Nat.pos_iff_ne_zero.mp some_)
  have before : ∀ k ∈ List.range n, (if k + 1 = n + 1 then
      total - total / ↑(n + 1) * (↑(n + 1) - 1) else total / ↑(n + 1)) = total / ↑(n + 1) := by
    intro k mem
    have := List.mem_range.mp mem
    rw [if_neg (by omega)]
  rw [buildInstallments, List.map_map, List.range_succ, List.map_append, List.sum_append]
  simp only [Function.comp_def, Nat.succ_eq_add_one]
  rw [List.map_congr_left before]
  simp [mul_comm]

inductive InstallmentStatus
  | paid
  | partlyPaid
  | pending
  | late
  deriving DecidableEq

/-- What has been paid of each installment, in order, with what has been collected by today. -/
def allocateInstallments (paid : ℤ) (today : Date) (graceDays : ℤ) :
    List Installment → List InstallmentStatus
  | [] => []
  | i :: rest =>
    let covered := max 0 (min i.amount paid)
    let status : InstallmentStatus :=
      if covered ≥ i.amount then .paid
      else if today > i.dueDate + graceDays then .late
      else if covered > 0 then .partlyPaid
      else .pending
    status :: allocateInstallments (paid - covered) today graceDays rest

/-- The invoices, the customers that are not deleted, and the plans of a tenant. `evaluated` records,
for each plan that was evaluated, its invoices as they were read. -/
structure PlanDb where
  docs : Table InvoiceId Account
  customers : List CustomerId
  plans : Table PlanId PaymentPlan
  evaluated : List (PlanId × List Invoice)

structure CreatePaymentPlanInput where
  customerId : CustomerId
  invoiceIds : List InvoiceId
  installmentsCount : ℕ
  firstDueDate : Date
  frequency : PlanFrequency
  graceDays : ℤ
  notes : Option String

/-- The invoices a plan is made of: their ids, what is pending and what is paid of them. -/
structure PlanInvoices where
  ids : List InvoiceId
  pending : ℤ
  paid : ℤ

/-- The open invoices of the customer, all of them or the ones asked for. -/
def PlanDb.openInvoices (db : PlanDb) (input : CreatePaymentPlanInput) : List (InvoiceId × Invoice) :=
  (db.docs.rows.map fun (id, a) => (id, a.invoice)).filter fun (id, i) =>
    i.customerId = some input.customerId && i.deletedAt = none && i.kind = .invoice &&
      i.status.payable && (input.invoiceIds = [] || id ∈ input.invoiceIds)

def PlanDb.planInvoices (db : PlanDb) (input : CreatePaymentPlanInput) : Outcome PlanInvoices := do
  let invoices := db.openInvoices input
  refuseIf (input.invoiceIds ≠ [] ∧ invoices.length ≠ input.invoiceIds.length)
    (badRequest "invoice_not_payable"
      "Alguna factura no es de este inquilino o ya no está pendiente.")
  let pending : ℤ := (invoices.map fun (_, i) => max 0 (i.total - i.amountPaid)).sum
  refuseIf (invoices.isEmpty = true ∨ pending ≤ 0)
    (badRequest "nothing_to_split"
      "Este inquilino no tiene facturas pendientes que fraccionar.")
  return ⟨invoices.map Prod.fst, pending, (invoices.map fun (_, i) => i.amountPaid).sum⟩

def PlanDb.taken (db : PlanDb) (ids : List InvoiceId) : Bool :=
  db.plans.rows.any fun (_, plan) => plan.status = .active && plan.invoiceIds.any (· ∈ ids)

def newPlan (input : CreatePaymentPlanInput) (invoices : PlanInvoices) : PaymentPlan where
  customerId := input.customerId
  status := .active
  invoiceIds := invoices.ids
  totalAmount := invoices.pending
  paidAtStart := invoices.paid
  installments :=
    buildInstallments invoices.pending input.installmentsCount input.firstDueDate input.frequency
  graceDays := input.graceDays
  notes := input.notes
  completedAt := none
  brokenAt := none
  cancelledAt := none

def PaymentPlan.paid (plan : PaymentPlan) (invoices : List Invoice) : ℤ :=
  (invoices.map Invoice.amountPaid).sum - plan.paidAtStart

def PaymentPlan.covered (plan : PaymentPlan) (invoices : List Invoice) : Bool :=
  euros (plan.paid invoices) ≥ euros plan.totalAmount - 5 / 1000

def stillOpen (invoices : List Invoice) : Bool := invoices.any fun i => i.status.payable

inductive PlanRequest
  | create (input : CreatePaymentPlanInput)
  | cancel (id : PlanId)
  | evaluateAll (now : Instant) (today : Date)
  -- The rest of the application changes the invoices and the customers.
  | others (docs : Table InvoiceId Account) (customers : List CustomerId)

inductive PlanCall
  | findCustomer (input : CreatePaymentPlanInput)
  | findInvoices (input : CreatePaymentPlanInput)
  | findTaken (input : CreatePaymentPlanInput) (invoices : PlanInvoices)
  | insert (input : CreatePaymentPlanInput) (invoices : PlanInvoices)
  | cancel (id : PlanId)
  | evaluate (now : Instant) (today : Date) (plans : List (PlanId × PaymentPlan))
  | complete (now : Instant) (today : Date) (id : PlanId) (plans : List (PlanId × PaymentPlan))
  | break (now : Instant) (today : Date) (id : PlanId) (plans : List (PlanId × PaymentPlan))
  | others (docs : Table InvoiceId Account) (customers : List CustomerId)

inductive PlanInput
  | proceed (now : Instant)
  | fail

def enterPlan (db : PlanDb) : PlanRequest → Option PlanCall
  | .create input => some (.findCustomer input)
  | .cancel id => some (.cancel id)
  | .evaluateAll now today =>
    some (.evaluate now today
      ((db.plans.rows.filter fun (_, plan) => plan.status = .active).take 2000))
  | .others docs customers => some (.others docs customers)

/-- `updateMany` of a plan that is still active. -/
def PlanDb.close (db : PlanDb) (id : PlanId) (f : PaymentPlan → PaymentPlan) : PlanDb :=
  { db with plans := db.plans.modify id fun plan => if plan.status = .active then f plan else plan }

def evaluatePlan (db : PlanDb) (now : Instant) (today : Date) (id : PlanId) (plan : PaymentPlan)
    (rest : List (PlanId × PaymentPlan)) : PlanDb × PlanCall :=
  let invoices := ((db.docs.rows.filter fun (i, _) => i ∈ plan.invoiceIds).map fun (_, a) => a.invoice)
  let read := { db with evaluated := (id, invoices) :: db.evaluated }
  if !stillOpen invoices || plan.covered invoices then (read, .complete now today id rest)
  else if .late ∈ allocateInstallments (plan.paid invoices) today plan.graceDays plan.installments then
    (read, .break now today id rest)
  else (read, .evaluate now today rest)

def nextPlan (db : PlanDb) : PlanCall → PlanInput → Option (PlanDb × Option PlanCall)
  | _, .fail => some (db, none)
  | .findCustomer input, .proceed _ =>
    match refuseIf (input.customerId ∉ db.customers)
        (notFound "customer_not_found" "Inquilino no encontrado") with
    | .error _ => some (db, none)
    | .ok _ => some (db, some (.findInvoices input))
  | .findInvoices input, .proceed _ =>
    match db.planInvoices input with
    | .error _ => some (db, none)
    | .ok invoices => some (db, some (.findTaken input invoices))
  | .findTaken input invoices, .proceed _ =>
    match refuseIf (db.taken invoices.ids = true)
        (conflict "invoice_in_payment_plan"
          "Alguna de estas facturas ya está en un plan de pago activo.") with
    | .error _ => some (db, none)
    | .ok _ => some (db, some (.insert input invoices))
  | .insert input invoices, .proceed _ =>
    some ({ db with plans := db.plans.push (newPlan input invoices) }, none)
  | .cancel id, .proceed now =>
    some (db.close id fun plan => { plan with status := .cancelled, cancelledAt := some now }, none)
  | .evaluate _ _ [], .proceed _ => some (db, none)
  | .evaluate now today ((id, plan) :: rest), .proceed _ =>
    let read := evaluatePlan db now today id plan rest
    some (read.1, some read.2)
  | .complete now today id rest, .proceed _ =>
    some (db.close id fun plan => { plan with status := .completed, completedAt := some now },
      some (.evaluate now today rest))
  | .break now today id rest, .proceed _ =>
    some (db.close id fun plan => { plan with status := .broken, brokenAt := some now },
      some (.evaluate now today rest))
  | .others docs customers, .proceed _ => some ({ db with docs, customers }, none)

def planSystem : Processes.System PlanDb PlanCall PlanRequest PlanInput where
  enter := enterPlan
  next := nextPlan

def PlanDb.Exclusive (db : PlanDb) : Prop :=
  ∀ j k p q i, db.plans.find j = some p → db.plans.find k = some q → p.status = .active →
    q.status = .active → i ∈ p.invoiceIds → i ∈ q.invoiceIds → j = k

/-- Each completed plan was evaluated on invoices that pay for it. -/
def PlanDb.Covers (db : PlanDb) : Prop :=
  ∀ id plan, db.plans.find id = some plan → plan.status = .completed →
    ∃ invoices, (id, invoices) ∈ db.evaluated ∧ plan.totalAmount ≤ plan.paid invoices

/-- Each completed plan was evaluated on invoices that pay for it or of which none was open. -/
def PlanDb.CoversOrClosed (db : PlanDb) : Prop :=
  ∀ id plan, db.plans.find id = some plan → plan.status = .completed →
    ∃ invoices, (id, invoices) ∈ db.evaluated ∧
      (plan.totalAmount ≤ plan.paid invoices ∨ ∀ i ∈ invoices, i.status.payable = false)

def planUntaken (db : PlanDb) : PlanCall → PlanInput → Bool
  | .insert _ invoices, .proceed _ => !db.taken invoices.ids
  | _, _ => true

end StorageOS
