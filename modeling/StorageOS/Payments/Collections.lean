import Mathlib.Data.List.Sort
import StorageOS.Billing.Issue

/-! The money of an invoice: collections recorded by hand, returned or refunded, and the messages
of the payment gateways. Each operation is one transaction on the invoice and its payments. -/

namespace StorageOS

inductive RefundVia
  | gateway
  | bank
  | manual
  | external
  deriving DecidableEq

structure InvoiceRefund where
  paymentId : Option PaymentId
  amount : ℤ
  via : RefundVia
  createdAt : Instant

structure Ledger extends Account where
  refunds : List InvoiceRefund

/-- A credit note or the income tax withheld settle an invoice without any money. -/
def PaymentMethodType.nonCash (m : PaymentMethodType) : Bool := m = .creditNote || m = .withholding

def PaymentStatus.inFlight (s : PaymentStatus) : Bool := s = .pending || s = .processing

/-- The money of the payment came in, also when it was given back by a refund. -/
def PaymentStatus.collected (s : PaymentStatus) : Bool :=
  s = .succeeded || s = .partiallyRefunded || s = .refunded

def Account.gatewayInFlight (a : Account) : Bool :=
  a.payments.rows.any fun (_, p) => p.gateway ≠ .manual && p.status.inFlight

def Payment.liveCharge (p : Payment) : Bool :=
  (p.gateway = .stripe || p.gateway = .gocardless) && (p.status.inFlight || p.status = .succeeded)

/-- The same collection or refund within these milliseconds is a double click. -/
def duplicateWindowMs : ℤ := 30000

/-- An invoice in a remittance awaiting confirmation is collected by the bank. -/
def assertNotInSepaRemittance (remittance : Option String) : Outcome Unit :=
  match remittance with
  | none => .ok ()
  | some name =>
    .error (conflict "invoice_in_sepa_remittance" ("La factura está en la remesa SEPA «" ++ name ++
      "», pendiente de confirmar. El banco la cobrará: confirma o cancela la remesa antes de " ++
        "cobrarla de otra forma."))

/-! ### Collections recorded by hand -/

structure MarkPaidManuallyInput where
  amount : ℚ
  positive : 0 < amount
  paidAt : Option Instant
  methodType : PaymentMethodType
  overridePaymentInFlight : Bool
  allowPartialNonCash : Bool
  allowInSepaRemittance : Bool
  deriving DecidableEq

def Account.duplicatePayment (a : Account) (clock : Clock) (input : MarkPaidManuallyInput) : Bool :=
  a.payments.rows.any fun (_, p) =>
    p.gateway = .manual && p.status = .succeeded && euros p.amount = input.amount &&
      p.methodType = input.methodType && p.createdAt ≥ clock.now - duplicateWindowMs

/-- The checks of `InvoicesService.markPaidManually` on the locked invoice, with the payment and the
invoice it writes. -/
def manualCollection (clock : Clock) (rejectDuplicate : Bool) (remittance : Option String)
    (input : MarkPaidManuallyInput) (a : Account) : Outcome (Payment × Invoice) := do
  let paidAt := input.paidAt.getD clock.now
  refuseIf (paidAt > clock.now + 600000)
    (badRequest "paid_at_in_future" "La fecha del cobro no puede ser futura")
  let fresh := a.invoice
  refuseIf (!fresh.status.payable)
    (badRequest "invoice_not_payable" "La factura no esta en estado pagable")
  let newPaid := fresh.amountPaid + toCents input.amount
  refuseIf (newPaid > fresh.total) (badRequest "overpayment" "El importe excede el pendiente")
  let fullyPaid : Bool := newPaid ≥ fresh.total
  refuseIf (rejectDuplicate && a.duplicatePayment clock input)
    (conflict "duplicate_payment"
      "Este cobro ya se ha registrado hace un momento. Si es otro, espera unos segundos.")
  refuseIf (!input.overridePaymentInFlight && a.gatewayInFlight)
    (conflict "gateway_payment_in_progress"
      ("Hay un adeudo SEPA/tarjeta en curso para esta factura. Confirma \"pagar de otra forma\" " ++
        "para registrar el cobro manual."))
  assertNotInSepaRemittance (if input.allowInSepaRemittance then none else remittance)
  refuseIf (fresh.total > newPaid && input.methodType ≠ .cash && !input.allowPartialNonCash)
    (badRequest "partial_only_cash"
      "Solo se admiten pagos parciales en efectivo; por otra vía debe saldarse el total")
  let paid := { fresh with amountPaid := newPaid }
  return (manualPayment fresh.customerId (column input.amount) input.methodType clock paidAt,
    if fullyPaid then { paid with status := .paid, paidAt := some paidAt } else paid)

/-- The transaction of `InvoicesService.markPaidManually`. -/
def markPaidManually (clock : Clock) (rejectDuplicate : Bool) (remittance : Option String)
    (input : MarkPaidManuallyInput) (a : Account) : Outcome Account := do
  let (payment, invoice) ← manualCollection clock rejectDuplicate remittance input a
  return { invoice, payments := a.payments.push payment }

structure ManualCollection (clock : Clock) (input : MarkPaidManuallyInput) (a : Account)
    (payment : Payment) (invoice : Invoice) : Prop where
  payable : a.invoice.status.payable = true
  fits : a.invoice.amountPaid + toCents input.amount ≤ a.invoice.total
  free : input.overridePaymentInFlight = false → a.gatewayInFlight = false
  payment : payment = manualPayment a.invoice.customerId (column input.amount) input.methodType
    clock (input.paidAt.getD clock.now)
  paid : invoice.amountPaid = a.invoice.amountPaid + toCents input.amount
  total : invoice.total = a.invoice.total
  contract : invoice.contractId = a.invoice.contractId

variable {clock : Clock} {remittance : Option String} {input : MarkPaidManuallyInput} {a : Account}

variable {rejectDuplicate : Bool} {id : PaymentId}

theorem manualCollection_ok {payment : Payment} {invoice : Invoice}
    (h : manualCollection clock rejectDuplicate remittance input a = .ok (payment, invoice)) :
    ManualCollection clock input a payment invoice := by
  simp only [manualCollection] at h
  obtain ⟨_, -, h⟩ := Outcome.bind_ok h
  obtain ⟨_, payable, h⟩ := Outcome.bind_ok h
  obtain ⟨_, fits, h⟩ := Outcome.bind_ok h
  obtain ⟨_, -, h⟩ := Outcome.bind_ok h
  obtain ⟨_, free, h⟩ := Outcome.bind_ok h
  replace h := Outcome.passed (Outcome.passed h)
  replace payable := refuseIf_ok payable
  replace fits := refuseIf_ok fits
  replace free := refuseIf_ok free
  cases h
  constructor
  · simpa using payable
  · exact not_lt.mp fits
  · intro confirmed
    simpa [confirmed] using free
  · rfl
  · split <;> rfl
  · split <;> rfl
  · split <;> rfl

theorem markPaidManually_ok {a b : Account} (h : markPaidManually clock rejectDuplicate remittance input a = .ok b) :
    ∃ payment invoice, ManualCollection clock input a payment invoice ∧
      b = ⟨invoice, a.payments.push payment⟩ := by
  simp only [markPaidManually] at h
  obtain ⟨⟨payment, invoice⟩, collection, h⟩ := Outcome.bind_ok h
  cases h
  exact ⟨payment, invoice, manualCollection_ok collection, rfl⟩

/-! ### Returned collections -/

def Invoice.pastDue (i : Invoice) (clock : Clock) : Bool :=
  i.dueDate.any fun d => d * 86400000 < clock.now

def Invoice.reopened (i : Invoice) (clock : Clock) : InvoiceStatus :=
  if i.status = .paid then if i.pastDue clock then .overdue else .issued else i.status

def Invoice.uncollect (i : Invoice) (clock : Clock) (cents : ℤ) : Invoice :=
  { i with
    amountPaid := max 0 (i.amountPaid - cents)
    status := i.reopened clock
    paidAt := if i.status = .paid then none else i.paidAt }

def laterFirst (x y : Option Instant) : Bool :=
  match x, y with
  | none, _ => true
  | some _, none => false
  | some x, some y => x ≥ y

/-- The order by date of payment and then of record, latest first. -/
def latestFirst (x y : PaymentId × Payment) : Bool :=
  if x.2.paidAt = y.2.paidAt then x.2.createdAt ≥ y.2.createdAt
  else laterFirst x.2.paidAt y.2.paidAt

def Account.livePayments (a : Account) : List (PaymentId × Payment) :=
  (a.payments.rows.filter fun (_, p) =>
    p.status = .succeeded && !p.methodType.nonCash).insertionSort fun x y => latestFirst x y

def takeFitting : ℤ → List (PaymentId × Payment) → List (PaymentId × Payment)
  | _, [] => []
  | left, p :: rest =>
    if p.2.amount > left then takeFitting left rest
    else if left - p.2.amount ≤ 0 then [p]
    else p :: takeFitting (left - p.2.amount) rest

structure RevertPaymentInput where
  amount : ℚ
  /-- The collection to revert; otherwise it is chosen by amount. -/
  paymentId : Option PaymentId
  /-- Undoes a collection recorded by mistake: nothing was returned. -/
  undo : Bool
  deriving DecidableEq

/-- The collection named in the request, or one of exactly the amount. -/
def exactPayment (input : RevertPaymentInput) (live : List (PaymentId × Payment)) :
    Option (PaymentId × Payment) :=
  match input.paymentId with
  | some id => live.find? fun p => p.1 = id
  | none => live.find? fun p => p.2.amount = toCents input.amount

def revertedPayments (input : RevertPaymentInput) (live : List (PaymentId × Payment)) :
    List (PaymentId × Payment) :=
  match exactPayment input live with
  | some p => [p]
  | none => takeFitting (toCents input.amount) live

/-- The transaction of `InvoicesService.revertPayment`. -/
def revertPayment (clock : Clock) (input : RevertPaymentInput) (a : Account) : Outcome Account := do
  let existing := a.invoice
  refuseIf (existing.amountPaid ≤ 0)
    (badRequest "nothing_to_revert" "La factura no tiene cobros que revertir")
  let live := a.livePayments
  refuseIf (input.paymentId.isSome && (exactPayment input live).isNone)
    (badRequest "payment_not_found" "Ese cobro ya no está en la factura")
  let reverted := revertedPayments input live
  return {
    payments := a.payments.updateMany (fun q => q.1 ∈ reverted.map Prod.fst) fun p =>
      { p with
        status := .failed
        returnedAt := if input.undo then p.returnedAt else some clock.now }
    invoice := existing.uncollect clock (toCents input.amount) }

theorem revertPayment_ok {input : RevertPaymentInput} {a b : Account} (h : revertPayment clock input a = .ok b) :
    (input.paymentId.isSome → (exactPayment input a.livePayments).isSome) ∧
      b = ⟨a.invoice.uncollect clock (toCents input.amount), a.payments.updateMany
        (fun q => q.1 ∈ (revertedPayments input a.livePayments).map Prod.fst) fun p =>
          { p with
            status := .failed
            returnedAt := if input.undo then p.returnedAt else some clock.now }⟩ := by
  simp only [revertPayment] at h
  obtain ⟨_, -, h⟩ := Outcome.bind_ok h
  obtain ⟨_, found, h⟩ := Outcome.bind_ok h
  replace found := refuseIf_ok found
  cases h
  refine ⟨fun named => ?_, rfl⟩
  simpa [named, Option.isSome_iff_ne_none] using found

/-! ### Messages of the gateways -/

def Account.otherLiveCharge (a : Account) (id : PaymentId) : Bool :=
  a.payments.rows.any fun (j, p) => j ≠ id && p.liveCharge

def Invoice.collect (i : Invoice) (cents : ℤ) (paidAt : Instant) : Invoice :=
  let paid := { i with amountPaid := i.amountPaid + cents }
  if paid.amountPaid ≥ paid.total && i.status.payable then
    { paid with status := .paid, paidAt := some paidAt }
  else paid

/-- The transaction of `syncOneFromWebhook`: a payment that is not settled takes the status the
gateway tells. -/
def syncOneFromWebhook (clock : Clock) (newStatus : PaymentStatus) (paidAt : Option Instant)
    (id : PaymentId) (a : Account) : Account :=
  match a.payments.find id with
  | none => a
  | some existing =>
    if existing.status.collected || existing.status = newStatus then a
    else if { existing with status := newStatus }.liveCharge && a.otherLiveCharge id then a
    else
      { payments := a.payments.modify id fun p =>
          { p with status := newStatus, paidAt := paidAt.orElse fun _ => p.paidAt }
        invoice :=
          if newStatus = .succeeded then a.invoice.collect existing.amount (paidAt.getD clock.now)
          else a.invoice }

/-- The transaction of `syncOneDispute`: the bank took back a charge that had succeeded. -/
def syncOneDispute (clock : Clock) (id : PaymentId) (a : Account) : Account :=
  match a.payments.find id with
  | none => a
  | some existing =>
    if existing.status ≠ .succeeded then a
    else
      { payments := a.payments.modify id fun p =>
          { p with status := .failed, returnedAt := some clock.now }
        invoice := a.invoice.uncollect clock existing.amount }

def Payment.refundedTo (p : Payment) (clock : Clock) (cents : ℤ) : Payment :=
  { p with
    refundedAmount := cents
    refundedAt := some clock.now
    status := if cents ≥ p.amount then .refunded else .partiallyRefunded }

def Invoice.refundedTo (i : Invoice) (cents : ℤ) : Invoice :=
  { i with
    amountRefunded := cents
    status := if cents ≥ i.total then .refunded else .partiallyRefunded }

/-- The transaction of `syncOneRefund`, with what the gateway has refunded of the payment so far:
only what the application does not have yet is recorded. -/
def syncOneRefund (clock : Clock) (amountRefunded : ℤ) (id : PaymentId) (l : Ledger) : Ledger :=
  match l.payments.find id with
  | none => l
  | some fresh =>
    let delta := amountRefunded - fresh.refundedAmount
    if delta ≤ 0 then l
    else
      { payments := l.payments.modify id fun p => p.refundedTo clock amountRefunded
        invoice := l.invoice.refundedTo (min (l.invoice.amountRefunded + delta) l.invoice.total)
        refunds := l.refunds ++ [⟨some id, delta, .external, clock.now⟩] }

/-! ### Refunds from the application -/

structure RefundInvoiceInput where
  amount : ℚ
  positive : 0 < amount
  /-- The bank has already given the money back. -/
  registeredExternally : Bool
  deriving DecidableEq

def Account.latestPayment (a : Account) (select : Payment → Bool) : Option (PaymentId × Payment) :=
  (a.payments.rows.filter fun (_, p) => select p).argmax fun (_, p) => p.createdAt

def PaymentStatus.refundable (s : PaymentStatus) : Bool := s = .succeeded || s = .partiallyRefunded

def Account.collectedCash (a : Account) : ℤ :=
  a.payments.sum fun p => if p.status.collected && !p.methodType.nonCash then p.amount else 0

/-- The payment that a refund is taken from, and how the money goes back. A charge by Stripe or
GoCardless is refunded by its gateway, unless it rejects the refund. -/
def refundSource (input : RefundInvoiceInput) (gatewayAccepts : Bool) (a : Account) :
    Outcome (Option PaymentId × RefundVia) :=
  match a.latestPayment fun p => p.gatewayPaymentId.isSome && p.status.refundable with
  | some (id, p) => do
    let refundable := p.amount - p.refundedAmount
    if p.gateway ≠ .stripe ∧ p.gateway ≠ .gocardless then
      refuseIf (!input.registeredExternally)
        (badRequest "refund_needs_bank"
          "Este cobro se hizo con el TPV del banco: devuélvelo allí y después regístralo aquí.")
      refuseIf (toCents input.amount > refundable)
        (badRequest "over_refund_gateway" "El importe excede lo cobrado en ese pago")
      return (some id, .bank)
    else
      refuseIf (toCents input.amount > refundable)
        (badRequest "over_refund_gateway"
          "El importe excede lo cobrado por la pasarela para este pago")
      refuseIf (!gatewayAccepts)
        (badRequest "gateway_refund_failed"
          "La pasarela rechazó el reembolso; no se ha devuelto el dinero")
      return (some id, .gateway)
  | none =>
    return ((a.latestPayment fun p =>
      p.gatewayPaymentId.isNone && p.status.refundable && !p.methodType.nonCash).map Prod.fst,
        .manual)

def refundPayment (clock : Clock) (cents : ℤ) (paymentId : Option PaymentId)
    (payments : Table PaymentId Payment) : Table PaymentId Payment :=
  match paymentId with
  | some id => payments.modify id fun p => p.refundedTo clock (p.refundedAmount + cents)
  | none => payments

def Ledger.duplicateRefund (l : Ledger) (clock : Clock) (amount : ℚ) : Bool :=
  l.refunds.any fun r => euros r.amount = amount && r.createdAt ≥ clock.now - duplicateWindowMs

/-- The transaction of `InvoicesService.refund`. -/
def refund (clock : Clock) (allowDepositReceipt rejectDuplicate gatewayAccepts : Bool)
    (input : RefundInvoiceInput) (l : Ledger) : Outcome Ledger := do
  let existing := l.invoice
  refuseIf (existing.kind = .depositReceipt && !allowDepositReceipt)
    (badRequest "invoice_not_refundable" "La fianza se devuelve al liquidarla desde el contrato")
  refuseIf (existing.status ≠ .paid && existing.status ≠ .partiallyRefunded)
    (badRequest "invoice_not_refundable" "Solo se pueden reembolsar facturas pagadas")
  let newRefunded := existing.amountRefunded + toCents input.amount
  refuseIf (newRefunded > existing.total || newRefunded > l.collectedCash)
    (badRequest "over_refund" "El importe excede el cobrado")
  refuseIf (rejectDuplicate && l.duplicateRefund clock input.amount)
    (conflict "duplicate_refund"
      ("Esta devolución ya se ha registrado hace un momento. Si es otra, espera unos " ++
        "segundos."))
  let (paymentId, via) ← refundSource input gatewayAccepts l.toAccount
  return {
    payments := refundPayment clock (toCents input.amount) paymentId l.payments
    invoice := existing.refundedTo newRefunded
    refunds := l.refunds ++ [⟨paymentId, column input.amount, via, clock.now⟩] }

theorem latestPayment_some {select : Payment → Bool} {p : Payment} (h : a.latestPayment select = some (id, p)) :
    a.payments.find id = some p ∧ select p = true := by
  have mem := List.argmax_mem (Option.mem_def.mpr h)
  rw [List.mem_filter] at mem
  exact ⟨Table.find_eq_some.mpr mem.1, mem.2⟩

theorem refundSource_ok {input : RefundInvoiceInput} {gatewayAccepts : Bool} {via : RefundVia}
    (h : refundSource input gatewayAccepts a = .ok (some id, via)) :
    ∃ p, a.payments.find id = some p ∧ p.status.refundable = true := by
  rw [refundSource] at h
  split at h
  · rename_i source p latest
    obtain ⟨found, selected⟩ := latestPayment_some latest
    have same : source = id := by
      dsimp only at h
      split at h
      · replace h := Outcome.passed (Outcome.passed h)
        cases h
        rfl
      · replace h := Outcome.passed (Outcome.passed h)
        cases h
        rfl
    subst same
    exact ⟨p, found, by simpa using (Bool.and_eq_true_iff.mp selected).2⟩
  · simp only [pure, Except.pure, Except.ok.injEq, Prod.mk.injEq, Option.map_eq_some_iff] at h
    obtain ⟨⟨⟨source, p⟩, latest, rfl⟩, -⟩ := h
    obtain ⟨found, selected⟩ := latestPayment_some latest
    simp only [Bool.and_eq_true] at selected
    exact ⟨p, found, selected.1.2⟩

structure Refunded (clock : Clock) (input : RefundInvoiceInput) (gatewayAccepts : Bool)
    (l l' : Ledger) (paymentId : Option PaymentId) (via : RefundVia) : Prop where
  source : refundSource input gatewayAccepts l.toAccount = .ok (paymentId, via)
  fits : l.invoice.amountRefunded + toCents input.amount ≤ l.invoice.total
  payments : l'.payments = refundPayment clock (toCents input.amount) paymentId l.payments
  invoice : l'.invoice =
    l.invoice.refundedTo (l.invoice.amountRefunded + toCents input.amount)
  refunds : l'.refunds = l.refunds ++ [⟨paymentId, column input.amount, via, clock.now⟩]

theorem refund_ok {allowDepositReceipt rejectDuplicate gatewayAccepts : Bool} {input : RefundInvoiceInput}
    {l l' : Ledger} (h : refund clock allowDepositReceipt rejectDuplicate gatewayAccepts input l = .ok l') :
    ∃ paymentId via, Refunded clock input gatewayAccepts l l' paymentId via := by
  simp only [refund] at h
  replace h := Outcome.passed (Outcome.passed h)
  obtain ⟨_, fits, h⟩ := Outcome.bind_ok h
  obtain ⟨_, -, h⟩ := Outcome.bind_ok h
  obtain ⟨⟨paymentId, via⟩, source, h⟩ := Outcome.bind_ok h
  replace fits := refuseIf_ok fits
  simp only [Bool.or_eq_true, decide_eq_true_eq, not_or, not_lt] at fits
  cases h
  exact ⟨paymentId, via, source, fits.1, rfl, rfl, rfl⟩

/-! Payments with their notes, by which a collection made for another purpose is told apart. -/

structure NotedPayment extends Payment where
  notes : Option String

structure NotedAccount where
  invoice : Invoice
  payments : Table PaymentId NotedPayment

def NotedAccount.account (a : NotedAccount) : Account :=
  ⟨a.invoice, a.payments.view NotedPayment.toPayment⟩

/-- The notes as they are stored: without spaces around them, and none when nothing is left. -/
def storedNotes (notes : String) : Option String :=
  if trim notes = "" then none else some (trim notes)

/-- The transaction of `InvoicesService.markPaidManually` with the notes of its payment. -/
def NotedAccount.markPaidManually (clock : Clock) (remittance : Option String)
    (input : MarkPaidManuallyInput) (notes : String) (a : NotedAccount) : Outcome NotedAccount := do
  let (payment, invoice) ← manualCollection clock false remittance input a.account
  .ok ⟨invoice, a.payments.push ⟨payment, storedNotes notes⟩⟩

theorem NotedAccount.markPaidManually_ok {notes : String} {a b : NotedAccount}
    (h : a.markPaidManually clock remittance input notes = .ok b) :
    ∃ payment, ManualCollection clock input a.account payment b.invoice ∧
      b.payments = a.payments.push ⟨payment, storedNotes notes⟩ := by
  obtain ⟨⟨payment, invoice⟩, collection, h⟩ := Outcome.bind_ok h
  cases h
  exact ⟨payment, manualCollection_ok collection, rfl⟩

/-- The transaction of `InvoicesService.revertPayment`, which leaves the notes. -/
def NotedAccount.revertPayment (clock : Clock) (input : RevertPaymentInput) (a : NotedAccount) :
    Outcome NotedAccount := do
  let reopened ← StorageOS.revertPayment clock input a.account
  let reverted := revertedPayments input a.account.livePayments
  return {
    invoice := reopened.invoice
    payments := a.payments.updateMany (fun q => q.1 ∈ reverted.map Prod.fst) fun p =>
      { p with
        status := .failed
        returnedAt := if input.undo then p.returnedAt else some clock.now } }

theorem NotedAccount.revertPayment_ok {input : RevertPaymentInput} {a b : NotedAccount}
    (h : a.revertPayment clock input = .ok b) :
    (input.paymentId.isSome → (exactPayment input a.account.livePayments).isSome) ∧
      b.payments = a.payments.updateMany
        (fun q => q.1 ∈ (revertedPayments input a.account.livePayments).map Prod.fst) fun p =>
          { p with
            status := .failed
            returnedAt := if input.undo then p.returnedAt else some clock.now } := by
  obtain ⟨reopened, reverted, h⟩ := Outcome.bind_ok h
  cases h
  exact ⟨(StorageOS.revertPayment_ok reverted).1, rfl⟩

/-- A collection that confirms every warning is refused only by the state and the sum of its
invoice. -/
theorem NotedAccount.markPaidManually_accepts (clock : Clock) (input : MarkPaidManuallyInput)
    (notes : String) {a : NotedAccount} (now : input.paidAt = none)
    (inFlight : input.overridePaymentInFlight = true) (partly : input.allowPartialNonCash = true)
    (inRemittance : input.allowInSepaRemittance = true) (payable : a.invoice.status.payable = true)
    (fits : a.invoice.amountPaid + toCents input.amount ≤ a.invoice.total) (r : Option String) :
    ∃ b, a.markPaidManually clock r input notes = .ok b := by
  simp [NotedAccount.markPaidManually, manualCollection, NotedAccount.account, refuseIf, now, inFlight,
    partly, inRemittance, payable, not_lt.mpr fits, assertNotInSepaRemittance]
  exact ⟨_, rfl⟩

end StorageOS
