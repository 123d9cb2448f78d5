import StorageOS.Payments.Collections

/-! `PaymentsService.chargeInvoice`: reads without a lock, a transaction that reserves the payments,
the call to the gateway, and a transaction that settles them. Deposit receipts bundled with the
invoice go in the same charge. -/

namespace StorageOS

abbrev Documents := Table InvoiceId Account

/-! ### Reads -/

def Documents.tenantInvoice (docs : Documents) (tenantId : TenantId) (id : InvoiceId) :
    Option Account :=
  (docs.find id).filter fun a => a.invoice.tenantId = tenantId && a.invoice.deletedAt = none

def loadCharge (docs : Documents) (tenantId : TenantId) (invoiceId : InvoiceId) :
    Outcome Invoice := do
  match docs.tenantInvoice tenantId invoiceId with
  | none => .error (notFound "invoice_not_found" "Factura no encontrada")
  | some a =>
    refuseIf (!a.invoice.status.payable)
      (badRequest "invoice_not_payable" "La factura no es cobrable en este estado")
    return a.invoice

def Documents.paymentInFlight (docs : Documents) (id : InvoiceId) : Bool :=
  (docs.find id).any fun a => a.payments.rows.any fun (_, p) => p.status.inFlight

/-- A second charge is refused while one is in flight or the bank is going to collect. -/
def assertNoPaymentInFlight (docs : Documents) (remittances : InvoiceId → Option String)
    (id : InvoiceId) : Outcome Unit := do
  assertNotInSepaRemittance (remittances id)
  refuseIf (docs.paymentInFlight id)
    (conflict "payment_in_progress"
      "Ya hay un pago en curso para esta factura. Espera a que se confirme.")

/-- A deposit receipt that can be charged, with what it has pending. -/
def pendingReceipt (docs : Documents) (id : InvoiceId) : Option (InvoiceId × ℚ) := do
  let a ← docs.find id
  let pending := a.invoice.total - a.invoice.amountPaid
  if a.invoice.kind = .depositReceipt && a.invoice.status.payable && a.invoice.deletedAt = none &&
      0 < pending then
    some (id, euros pending)
  else none

def pendingReceipts (docs : Documents) (receipts : List InvoiceId) : List (InvoiceId × ℚ) :=
  receipts.filterMap (pendingReceipt docs)

/-- The customer, the amount and the receipts of a charge. Without an explicit amount it is what
the invoice had pending when its row was read, and the receipts go with it. -/
def checkCharge (docs : Documents) (remittances : InvoiceId → Option String)
    (receipts : List InvoiceId) (invoiceId : InvoiceId) (row : Invoice) (input : Option ℚ)
    (hasMethod : Bool) : Outcome (CustomerId × ℚ × List (InvoiceId × ℚ)) := do
  assertNoPaymentInFlight docs remittances invoiceId
  match row.customerId with
  | none =>
    .error (badRequest "invoice_without_customer"
      "La factura no tiene cliente; no se puede cobrar via gateway")
  | some customerId =>
    let pending := row.total - row.amountPaid
    let amount := input.getD (euros pending)
    refuseIf (amount ≤ 0 ∨ toCents amount > pending) (badRequest "invalid_amount" "Importe invalido")
    let bundled := if input.isNone then pendingReceipts docs receipts else []
    bundled.forM fun (id, _) => assertNoPaymentInFlight docs remittances id
    refuseIf (!hasMethod)
      (badRequest "no_payment_method" "No hay metodo de pago disponible para el inquilino")
    return (customerId, amount, bundled)

/-! ### Reservation -/

structure PaymentMethod where
  customerId : CustomerId
  deleted : Bool
  methodType : PaymentMethodType
  gateway : PaymentGateway
  ofGateway : gateway ≠ .manual
  stripeAccountId : Option String

/-- The method belongs to the customer and its gateway can charge it now. `card` is the Stripe
account that charges cards, when there is one. -/
def assertChargeable (pm : PaymentMethod) (customerId : CustomerId)
    (card : Option (Option String)) : Outcome Unit := do
  refuseIf (pm.deleted || pm.customerId ≠ customerId)
    (badRequest "payment_method_not_for_customer"
      "Ese método de pago no es del inquilino de la factura.")
  refuseIf (pm.gateway = .stripe && card.isNone)
    (badRequest "card_payments_disabled"
      ("El cobro con tarjeta no está disponible. Usa Redsys/Bizum o la domiciliación " ++
        "bancaria."))
  refuseIf (pm.gateway = .stripe && card ≠ some pm.stripeAccountId)
    (badRequest "stripe_account_changed"
      ("La tarjeta guardada es de otra cuenta de Stripe. El inquilino tiene que volver a " ++
        "añadirla."))
  refuseIf (pm.methodType ≠ .card && pm.methodType ≠ .sepaDebit)
    (badRequest "payment_method_not_chargeable" "El metodo de pago no admite cobro automatico")

def Account.liveGatewayCharge (a : Account) : Bool :=
  a.payments.rows.any fun (_, p) =>
    p.gateway ≠ .manual && (p.status.inFlight || p.status = .succeeded)

def Documents.liveGatewayCharge (docs : Documents) (id : InvoiceId) : Bool :=
  (docs.find id).any Account.liveGatewayCharge

structure ReservedPayment where
  invoiceId : InvoiceId
  paymentId : PaymentId
  amount : ℚ

def processingPayment (clock : Clock) (pm : PaymentMethod) (customerId : CustomerId) (amount : ℚ) :
    Payment where
  customerId := some customerId
  amount := column amount
  status := .processing
  methodType := pm.methodType
  gateway := pm.gateway
  gatewayPaymentId := none
  paidAt := none
  refundedAt := none
  returnedAt := none
  refundedAmount := 0
  createdAt := clock.now

def createPayment (id : InvoiceId) (p : Payment) (docs : Documents) : Documents :=
  docs.modify id fun a => { a with payments := a.payments.push p }

/-- The id of the payment that `createPayment` adds. -/
def Documents.nextPayment (docs : Documents) (id : InvoiceId) : PaymentId :=
  ((docs.find id).map fun a => a.payments.nextKey).getD 0

def reserveReceipts (clock : Clock) (pm : PaymentMethod) (customerId : CustomerId) :
    List (InvoiceId × ℚ) → Documents → Outcome (Documents × List ReservedPayment)
  | [], docs => .ok (docs, [])
  | (id, amount) :: rest, docs => do
    refuseIf (docs.liveGatewayCharge id)
      (conflict "payment_in_progress"
        "Ya hay un cobro en curso para la fianza. Espera a que se confirme.")
    let (after, payments) ← reserveReceipts clock pm customerId rest
      (createPayment id (processingPayment clock pm customerId amount) docs)
    return (after, ⟨id, docs.nextPayment id, amount⟩ :: payments)

/-- The reservation: it looks for another charge of the invoice, but not at its row again. -/
def reserveCharge (clock : Clock) (pm : PaymentMethod) (card : Option (Option String))
    (customerId : CustomerId) (invoiceId : InvoiceId) (amount : ℚ)
    (bundled : List (InvoiceId × ℚ)) (docs : Documents) :
    Outcome (Documents × List ReservedPayment) := do
  refuseIf (docs.liveGatewayCharge invoiceId)
    (conflict "payment_in_progress"
      "Ya hay un cobro por pasarela para esta factura. Espera a que se confirme.")
  assertChargeable pm customerId card
  let (docs, payments) ← reserveReceipts clock pm customerId bundled docs
  return (createPayment invoiceId (processingPayment clock pm customerId amount) docs,
    ⟨invoiceId, docs.nextPayment invoiceId, amount⟩ :: payments)

/-! ### Charge and settlement -/

inductive ChargeResult
  | succeeded
  | processing
  | unknown
  | requiresAction
  | failed
  deriving DecidableEq

/-- The status of the payments after the gateway answers. A charge that needs the customer is
cancelled; one without a clear answer stays in flight. -/
def ChargeResult.status : ChargeResult → PaymentStatus
  | .succeeded => .succeeded
  | .processing | .unknown => .processing
  | .requiresAction | .failed => .failed

/-- A call to the gateway that throws marks the payment as failed. -/
def failPayment (r : ReservedPayment) (a : Account) : Account :=
  { a with payments := a.payments.modify r.paymentId fun p => { p with status := .failed } }

def Payment.answered (p : Payment) (clock : Clock) (result : ChargeResult)
    (gatewayPaymentId : Option String) : Payment :=
  { p with
    status := result.status
    gatewayPaymentId := gatewayPaymentId.orElse fun _ => p.gatewayPaymentId
    paidAt := if result = .succeeded then some clock.now else p.paidAt }

def settlePayment (clock : Clock) (result : ChargeResult) (gatewayPaymentId : Option String)
    (r : ReservedPayment) (a : Account) : Account :=
  match a.payments.find r.paymentId with
  | none => a
  | some p =>
    if p.status ≠ .processing then a
    else
      { payments := a.payments.modify r.paymentId fun p =>
          p.answered clock result gatewayPaymentId
        invoice :=
          if result.status = .succeeded then a.invoice.collect (column r.amount) clock.now
          else a.invoice }

def onPayments (f : ReservedPayment → Account → Account) (payments : List ReservedPayment)
    (docs : Documents) : Documents :=
  payments.foldl (fun docs r => docs.modify r.invoiceId (f r)) docs

/-! ### The system -/

structure ReceiptLinks where
  receipts : InvoiceId → List InvoiceId
  distinct : ∀ id, (id :: receipts id).Nodup

inductive ChargeCall
  | idle
  | loaded (invoiceId : InvoiceId) (row : Invoice) (input : Option ℚ)
  | ready (invoiceId : InvoiceId) (customerId : CustomerId) (amount : ℚ)
      (bundled : List (InvoiceId × ℚ))
  | charging (payments : List ReservedPayment)
  | answered (payments : List ReservedPayment) (result : ChargeResult)
      (gatewayPaymentId : Option String)

/-- The documents, the calls under way, the manual collections that hold the row of a document, and
what each document charged through a gateway had pending when its payment was reserved. -/
structure ChargeState where
  docs : Documents
  calls : ℕ → ChargeCall
  manuals : InvoiceId → Option (Payment × Invoice)
  sent : List (InvoiceId × ℤ)

inductive ChargeAction
  | load (call : ℕ) (tenantId : TenantId) (invoiceId : InvoiceId) (input : Option ℚ)
  | check (call : ℕ) (remittances : InvoiceId → Option String) (hasMethod : Bool)
  | reserve (call : ℕ) (clock : Clock) (pm : PaymentMethod) (card : Option (Option String))
  | gatewayAnswers (call : ℕ) (result : ChargeResult) (gatewayPaymentId : Option String)
  | gatewayThrows (call : ℕ)
  | settle (call : ℕ) (clock : Clock)
  | checkManual (id : InvoiceId) (clock : Clock) (rejectDuplicate : Bool)
      (remittance : Option String) (input : MarkPaidManuallyInput)
  | commitManual (id : InvoiceId)

def ChargeState.setCall (s : ChargeState) (call : ℕ) (phase : ChargeCall) : ChargeState :=
  { s with calls := Function.update s.calls call phase }

def Documents.pending (docs : Documents) (id : InvoiceId) : ℤ :=
  ((docs.find id).map fun a => a.invoice.total - a.invoice.amountPaid).getD 0

/-- A step of a call or of a manual collection, which holds the row of its invoice from its checks
to its commit. A refused call ends. -/
def chargeStep (links : ReceiptLinks) (s : ChargeState) : ChargeAction → Option ChargeState
  | .load call tenantId invoiceId input =>
    match s.calls call with
    | .idle =>
      (loadCharge s.docs tenantId invoiceId).toOption.map fun row =>
        s.setCall call (.loaded invoiceId row input)
    | _ => none
  | .check call remittances hasMethod =>
    match s.calls call with
    | .loaded invoiceId row input =>
      match checkCharge s.docs remittances (links.receipts invoiceId) invoiceId row input
          hasMethod with
      | .ok (customerId, amount, bundled) =>
        some (s.setCall call (.ready invoiceId customerId amount bundled))
      | .error _ => some (s.setCall call .idle)
    | _ => none
  | .reserve call clock pm card =>
    match s.calls call with
    | .ready invoiceId customerId amount bundled =>
      match reserveCharge clock pm card customerId invoiceId amount bundled s.docs with
      | .ok (docs, payments) =>
        some { s.setCall call (.charging payments) with
          docs
          sent := payments.map (fun r => (r.invoiceId, s.docs.pending r.invoiceId)) ++ s.sent }
      | .error _ => some (s.setCall call .idle)
    | _ => none
  | .gatewayAnswers call result gatewayPaymentId =>
    match s.calls call with
    | .charging payments => some (s.setCall call (.answered payments result gatewayPaymentId))
    | _ => none
  | .gatewayThrows call =>
    match s.calls call with
    | .charging payments =>
      some { s.setCall call .idle with docs := onPayments failPayment payments s.docs }
    | _ => none
  | .settle call clock =>
    match s.calls call with
    | .answered payments result gatewayPaymentId =>
      -- An update of an invoice waits for the manual collection that holds its row.
      if result.status = .succeeded && payments.any (fun r => (s.manuals r.invoiceId).isSome) then
        none
      else
        some { s.setCall call .idle with
          docs := onPayments (settlePayment clock result gatewayPaymentId) payments s.docs }
    | _ => none
  | .checkManual id clock rejectDuplicate remittance input =>
    if (s.manuals id).isSome || input.overridePaymentInFlight then none
    else do
      let a ← s.docs.find id
      let written ← (manualCollection clock rejectDuplicate remittance input a).toOption
      return { s with manuals := Function.update s.manuals id (some written) }
  | .commitManual id =>
    match s.manuals id with
    | none => none
    | some (payment, invoice) =>
      some { s with
        docs := s.docs.modify id fun a => { invoice, payments := a.payments.push payment }
        manuals := Function.update s.manuals id none }

end StorageOS
