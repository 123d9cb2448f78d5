import StorageOS.Payments.Ledger

/-! A charge that pays an invoice together with its deposit receipt, under one reference of the
gateway. The gateway answers the refund of one of them with an event that carries what it has
refunded of the whole charge, and that may arrive at any time and any number of times. -/

namespace StorageOS

open Transition

def Account.chargePayments (a : Account) (reference : String) : List (PaymentId × Payment) :=
  (a.payments.rows.filter fun (_, p) => p.gatewayPaymentId = some reference).insertionSort
    fun x y => x.2.createdAt ≤ y.2.createdAt

/-- Spreads what was refunded of a charge over payments of a document, each up to its amount, and
returns what is left. -/
def syncRefunds (clock : Clock) : ℤ → List (PaymentId × Payment) → Ledger → ℤ × Ledger
  | remaining, [], l => (remaining, l)
  | remaining, (id, p) :: rest, l =>
    let alloc := min remaining p.amount
    syncRefunds clock (remaining - alloc) rest (syncOneRefund clock alloc id l)

structure Bundle where
  invoice : Ledger
  deposit : Ledger

/-- `PaymentsService.syncRefundFromWebhook`: the invoice first and the deposit receipt after. -/
def syncRefundFromWebhook (clock : Clock) (reference : String) (amountRefunded : ℤ) (b : Bundle) :
    Bundle :=
  let (remaining, invoice) :=
    syncRefunds clock amountRefunded (b.invoice.chargePayments reference) b.invoice
  let (_, deposit) := syncRefunds clock remaining (b.deposit.chargePayments reference) b.deposit
  { invoice, deposit }

inductive BundledDocument
  | invoice
  | deposit
  deriving DecidableEq

def Bundle.get (b : Bundle) : BundledDocument → Ledger
  | .invoice => b.invoice
  | .deposit => b.deposit

def Bundle.set (b : Bundle) (l : Ledger) : BundledDocument → Bundle
  | .invoice => { b with invoice := l }
  | .deposit => { b with deposit := l }

/-- The documents, what the application refunded of each, and the events of the gateway: each
carries the cents refunded of the charge so far. -/
structure BundleState where
  bundle : Bundle
  requested : BundledDocument → ℤ
  cumulative : ℤ
  emitted : List ℤ

inductive BundleAction
  | refund (clock : Clock) (document : BundledDocument)
      (allowDepositReceipt rejectDuplicate gatewayAccepts : Bool) (input : RefundInvoiceInput)
  | webhook (clock : Clock) (amountRefunded : ℤ)

def BundleState.gatewayRefund (s : BundleState) (cents : ℤ) (via : RefundVia) : BundleState :=
  if via = .gateway then
    { s with cumulative := s.cumulative + cents, emitted := (s.cumulative + cents) :: s.emitted }
  else s

/-- A refund by the application, or the arrival of an event that the gateway emitted. -/
def bundleStep (reference : String) (s : BundleState) : BundleAction → Option BundleState
  | .refund clock document allowDepositReceipt rejectDuplicate gatewayAccepts input => do
    let l := s.bundle.get document
    let (_, via) ← (refundSource input gatewayAccepts l.toAccount).toOption
    let l' ← (refund clock allowDepositReceipt rejectDuplicate gatewayAccepts input l).toOption
    return ({ s with
      bundle := s.bundle.set l' document
      requested := fun d => s.requested d + if d = document then toCents input.amount else 0
      }).gatewayRefund (toCents input.amount) via
  | .webhook clock amountRefunded =>
    if amountRefunded ∈ s.emitted then
      some { s with bundle := syncRefundFromWebhook clock reference amountRefunded s.bundle }
    else none

def Account.chargeRefunded (a : Account) (reference : String) : ℤ :=
  ((a.chargePayments reference).map fun p => p.2.refundedAmount).sum

def Account.chargeAmount (a : Account) (reference : String) : ℤ :=
  ((a.chargePayments reference).map fun p => p.2.amount).sum

/-- An event arrives when the application has refunded of the invoice as much as it tells, or all
of the invoice's part of the charge. -/
def echoCovered (reference : String) (s : BundleState) : BundleAction → Bool
  | .refund .. => true
  | .webhook _ amountRefunded =>
    min amountRefunded (s.bundle.invoice.chargeAmount reference) ≤
      s.bundle.invoice.chargeRefunded reference

/-- Each document shows what the application refunded of it, and no event of the gateway recorded
a refund, for which a credit note would be made. -/
structure RefundsAgree (s : BundleState) : Prop where
  amounts : ∀ d, (s.bundle.get d).invoice.amountRefunded = s.requested d
  echoes : ∀ d, ∀ r ∈ (s.bundle.get d).refunds, r.via ≠ .external

/-- The charge is the only payment of the document with a gateway. -/
structure ChargeOn (reference : String) (id : PaymentId) (amount refunded : ℤ) (l : Ledger) :
    Prop where
  payment : ∃ p, l.payments.find id = some p ∧ p.gatewayPaymentId = some reference ∧
    p.amount = amount ∧ p.refundedAmount = refunded ∧
      (p.gateway = .stripe ∨ p.gateway = .gocardless)
  only : ∀ j q, l.payments.find j = some q → q.gatewayPaymentId.isSome → j = id

/-- A charge that has paid both documents, nothing of which has been refunded. -/
structure BundleCharged (reference : String) (s : BundleState) : Prop where
  invoiceKind : s.bundle.invoice.invoice.kind = .invoice
  depositKind : s.bundle.deposit.invoice.kind = .depositReceipt
  charge : ∀ d, ∃ id amount, ChargeOn reference id amount 0 (s.bundle.get d) ∧ 0 ≤ amount
  amountRefunded : ∀ d, (s.bundle.get d).invoice.amountRefunded = 0
  refunds : ∀ d, (s.bundle.get d).refunds = []
  requested : ∀ d, s.requested d = 0
  cumulative : s.cumulative = 0
  emitted : s.emitted = []

section

variable {reference : String} {id : PaymentId} {amount refunded : ℤ} {l l' : Ledger}
  {clock : Clock}

variable (charge : ChargeOn reference id amount refunded l)
include charge

theorem ChargeOn.chargePayments :
    ∃ p, l.payments.find id = some p ∧ p.amount = amount ∧ p.refundedAmount = refunded ∧
      l.chargePayments reference = [(id, p)] := by
  obtain ⟨p, found, same, amount, refunded, -⟩ := charge.payment
  refine ⟨p, found, amount, refunded, ?_⟩
  have rows : (l.payments.rows.filter fun (_, p) => p.gatewayPaymentId = some reference).Perm
      [(id, p)] := by
    rw [List.perm_ext_iff_of_nodup (l.payments.distinct.of_map.filter _) (List.nodup_singleton _)]
    rintro ⟨j, q⟩
    simp only [List.mem_filter, decide_eq_true_eq, List.mem_singleton]
    constructor
    · rintro ⟨row, reference⟩
      have row := Table.find_eq_some.mpr row
      obtain rfl := charge.only j q row (by rw [reference]; rfl)
      obtain rfl := Option.some.inj (row.symm.trans found)
      rfl
    · rintro ⟨⟩
      exact ⟨Table.find_eq_some.mp found, same⟩
  rw [Account.chargePayments, List.perm_singleton.mp rows]
  rfl

theorem ChargeOn.chargeAmount : l.chargeAmount reference = amount := by
  obtain ⟨p, -, same, -, payments⟩ := charge.chargePayments
  simp [Account.chargeAmount, payments, same]

theorem ChargeOn.chargeRefunded : l.chargeRefunded reference = refunded := by
  obtain ⟨p, -, -, same, payments⟩ := charge.chargePayments
  simp [Account.chargeRefunded, payments, same]

theorem ChargeOn.syncRefunds {remaining : ℤ} (known : min remaining amount ≤ refunded) :
    syncRefunds clock remaining (l.chargePayments reference) l =
      (remaining - min remaining amount, l) := by
  obtain ⟨p, found, rfl, rfl, payments⟩ := charge.chargePayments
  have same : syncOneRefund clock (min remaining p.amount) id l = l := by
    rw [syncOneRefund, found]
    exact if_pos (by omega)
  rw [payments, StorageOS.syncRefunds, same]
  rfl

variable {input : RefundInvoiceInput} {gatewayAccepts : Bool} {paymentId : Option PaymentId}
  {via : RefundVia}

theorem ChargeOn.refundSource (source : refundSource input gatewayAccepts l.toAccount = .ok (paymentId, via)) :
    (paymentId = some id ∧ via = .gateway ∧ toCents input.amount ≤ amount - refunded) ∨
      (paymentId ≠ some id ∧ via = .manual) := by
  obtain ⟨p, found, reference', rfl, rfl, gateway⟩ := charge.payment
  rw [StorageOS.refundSource] at source
  split at source
  · rename_i j q latest
    obtain ⟨row, selected⟩ := latestPayment_some latest
    obtain rfl := charge.only j q row (Bool.and_eq_true_iff.mp selected).1
    obtain rfl := Option.some.inj (row.symm.trans found)
    have ours : ¬(q.gateway ≠ .stripe ∧ q.gateway ≠ .gocardless) := by
      rintro ⟨h, h'⟩
      exact gateway.elim h h'
    dsimp only at source
    rw [if_neg ours] at source
    obtain ⟨_, fits, source⟩ := Outcome.bind_ok source
    obtain ⟨_, -, source⟩ := Outcome.bind_ok source
    cases source
    exact .inl ⟨rfl, rfl, not_lt.mp (refuseIf_ok fits)⟩
  · cases source
    refine .inr ⟨fun same => ?_, rfl⟩
    obtain ⟨⟨j, q⟩, latest, rfl⟩ := Option.map_eq_some_iff.mp same
    obtain ⟨row, selected⟩ := latestPayment_some latest
    obtain rfl := Option.some.inj (row.symm.trans found)
    simp [reference'] at selected

/-- A refund by the application leaves the charge with what its gateway refunded of it. -/
theorem ChargeOn.refund (done : Refunded clock input gatewayAccepts l l' paymentId via) :
    (via = .gateway ∧ toCents input.amount ≤ amount - refunded ∧
        ChargeOn reference id amount (refunded + toCents input.amount) l') ∨
      (via = .manual ∧ ChargeOn reference id amount refunded l') := by
  obtain ⟨p, found, reference', hamount, hrefunded, gateway⟩ := charge.payment
  rcases charge.refundSource done.source with ⟨rfl, rfl, fits⟩ | ⟨other, rfl⟩
  · refine .inl ⟨rfl, fits, ⟨?_, ?_⟩⟩
    · rw [done.payments]
      simp only [refundPayment, Table.find_modify_self, found, Option.map_some]
      exact ⟨_, rfl, reference', hamount, congrArg (· + _) hrefunded, gateway⟩
    · intro j q row some
      rw [done.payments] at row
      rcases Table.find_modify_cases row with ⟨-, same⟩ | ⟨same, -⟩
      · exact charge.only j q same some
      · exact same
  · refine .inr ⟨rfl, ?_⟩
    cases paymentId with
    | none =>
      obtain ⟨⟨i, payments⟩, refunds⟩ := l'
      obtain rfl := done.payments
      exact ⟨charge.payment, charge.only⟩
    | some k =>
      have apart : id ≠ k := fun same => other (congrArg some same.symm)
      constructor
      · rw [done.payments, refundPayment, Table.find_modify_ne _ apart]
        exact charge.payment
      · intro j q row some
        rw [done.payments] at row
        rcases Table.find_modify_cases row with ⟨-, same⟩ | ⟨rfl, r, before, rfl⟩
        · exact charge.only j q same some
        · exact charge.only j r before some

end

/-- What the gateway has refunded of the charge is on the documents, and its events tell no
more. -/
structure BundleInvariant (reference : String) (id : BundledDocument → PaymentId)
    (amount : BundledDocument → ℤ) (s : BundleState) : Prop where
  charged : ∃ refunded : BundledDocument → ℤ,
    (∀ d, ChargeOn reference (id d) (amount d) (refunded d) (s.bundle.get d)) ∧
      (∀ d, 0 ≤ refunded d ∧ refunded d ≤ amount d) ∧
        s.cumulative = refunded .invoice + refunded .deposit
  emitted : ∀ c ∈ s.emitted, c ≤ s.cumulative
  agree : RefundsAgree s

section

variable {reference : String} {id : BundledDocument → PaymentId} {amount : BundledDocument → ℤ}
  {s t : BundleState}

theorem BundleCharged.invariant (start : BundleCharged reference s) :
    ∃ id amount, BundleInvariant reference id amount s := by
  choose id amount charge nonneg using start.charge
  refine ⟨id, amount, ⟨fun _ => 0, charge, fun d => ⟨le_refl 0, nonneg d⟩, start.cumulative⟩,
    ?_, ?_, ?_⟩
  · rw [start.emitted]
    exact fun _ mem => nomatch mem
  · intro d
    rw [start.amountRefunded, start.requested]
  · intro d
    rw [start.refunds]
    exact fun _ mem => nomatch mem

theorem BundleInvariant.webhook_same (inv : BundleInvariant reference id amount s) {clock : Clock}
    {amountRefunded : ℤ} (emitted : amountRefunded ∈ s.emitted)
    (covered : min amountRefunded (s.bundle.invoice.chargeAmount reference) ≤
      s.bundle.invoice.chargeRefunded reference) :
    syncRefundFromWebhook clock reference amountRefunded s.bundle = s.bundle := by
  obtain ⟨refunded, charge, bounds, cumulative⟩ := inv.charged
  have invoice : ChargeOn reference (id .invoice) _ _ s.bundle.invoice := charge .invoice
  have deposit : ChargeOn reference (id .deposit) _ _ s.bundle.deposit := charge .deposit
  rw [invoice.chargeAmount, invoice.chargeRefunded] at covered
  have told := inv.emitted _ emitted
  have invoiceBound := bounds .invoice
  have depositBound := bounds .deposit
  rw [syncRefundFromWebhook, invoice.syncRefunds covered]
  dsimp only
  rw [deposit.syncRefunds (by omega)]

@[simp] theorem Bundle.get_set (b : Bundle) (l : Ledger) (d e : BundledDocument) :
    (b.set l d).get e = if e = d then l else b.get e := by
  cases d <;> cases e <;> rfl

theorem bundleInvariant_refund (inv : BundleInvariant reference id amount s) {clock : Clock}
    {document : BundledDocument} {gatewayAccepts : Bool} {input : RefundInvoiceInput}
    {paymentId : Option PaymentId} {via : RefundVia} {l' : Ledger}
    (done : Refunded clock input gatewayAccepts (s.bundle.get document) l' paymentId via) :
    BundleInvariant reference id amount
      (({ s with
        bundle := s.bundle.set l' document
        requested := fun d => s.requested d + if d = document then toCents input.amount else 0
        } : BundleState).gatewayRefund (toCents input.amount) via) := by
  obtain ⟨refunded, charge, bounds, cumulative⟩ := inv.charged
  have cents := toCents_nonneg input.positive.le
  have notExternal : via ≠ .external := by
    rcases (charge document).refund done with ⟨rfl, -⟩ | ⟨rfl, -⟩ <;> decide
  have agree : RefundsAgree { s with
      bundle := s.bundle.set l' document
      requested := fun d => s.requested d + if d = document then toCents input.amount else 0 } := by
    constructor
    · intro d
      dsimp only
      rw [Bundle.get_set]
      split
      · rename_i same
        rw [done.invoice, ← same, ← inv.agree.amounts d, same]
        rfl
      · rw [inv.agree.amounts d, add_zero]
    · intro d r mem
      dsimp only at mem
      rw [Bundle.get_set] at mem
      split at mem
      · rw [done.refunds, List.mem_append, List.mem_singleton] at mem
        rcases mem with mem | rfl
        · exact inv.agree.echoes document r mem
        · exact notExternal
      · exact inv.agree.echoes d r mem
  rcases (charge document).refund done with ⟨rfl, fits, after⟩ | ⟨rfl, after⟩
  · rw [BundleState.gatewayRefund, if_pos rfl]
    refine ⟨⟨fun d => refunded d + if d = document then toCents input.amount else 0, ?_, ?_, ?_⟩,
      ?_, agree.1, agree.2⟩
    · intro d
      dsimp only
      rw [Bundle.get_set]
      split
      · rename_i same
        exact same ▸ after
      · rw [add_zero]
        exact charge d
    · intro d
      have := bounds d
      dsimp only
      split
      · rename_i same
        subst same
        omega
      · omega
    · cases document <;> simp [cumulative] <;> ring
    · intro c mem
      rcases List.mem_cons.mp mem with rfl | mem
      · exact le_refl _
      · have := inv.emitted c mem
        dsimp only
        omega
  · rw [BundleState.gatewayRefund, if_neg (by decide)]
    refine ⟨⟨refunded, ?_, bounds, cumulative⟩, inv.emitted, agree⟩
    intro d
    dsimp only
    rw [Bundle.get_set]
    split
    · rename_i same
      exact same ▸ after
    · exact charge d

theorem bundleInvariant_step {action : BundleAction}
    (inv : BundleInvariant reference id amount s) (ok : echoCovered reference s action = true)
    (step : bundleStep reference s action = some t) : BundleInvariant reference id amount t := by
  cases action with
  | refund clock document allowDepositReceipt rejectDuplicate gatewayAccepts input =>
    simp only [bundleStep, Option.bind_eq_bind, Option.bind_eq_some_iff] at step
    obtain ⟨⟨paymentId, via⟩, source, l', done, step⟩ := step
    obtain ⟨paymentId', via', done⟩ := refund_ok (Outcome.ok_of_toOption done)
    obtain ⟨rfl, rfl⟩ := Prod.mk.inj
      (Except.ok.inj (done.source.symm.trans (Outcome.ok_of_toOption source)))
    cases step
    exact bundleInvariant_refund inv done
  | webhook clock amountRefunded =>
    simp only [bundleStep] at step
    split at step
    · rename_i emitted
      cases step
      simp only [echoCovered, decide_eq_true_eq] at ok
      rw [inv.webhook_same emitted ok]
      exact inv
    · cases step

/-- In every run whose events arrive covered, each document shows what the application refunded of
it, and no event of the gateway records a refund. -/
theorem bundled_refunds_agree (start : BundleCharged reference s)
    (run : Run (bundleStep reference) (fun s a => echoCovered reference s a = true) s t) :
    RefundsAgree t := by
  obtain ⟨id, amount, inv⟩ := start.invariant
  exact (run.invariant inv bundleInvariant_step).agree

end

def chargedLedger (kind : InvoiceKind) (total : ℤ) : Ledger where
  invoice := { issuedInvoice total with kind, status := .paid, amountPaid := total }
  payments := Table.empty.push { chargeInFlight total with status := .succeeded }
  refunds := []

def chargedBundle : BundleState where
  bundle := ⟨chargedLedger .invoice 10000, chargedLedger .depositReceipt 5000⟩
  requested _ := 0
  cumulative := 0
  emitted := []

theorem chargedLedger_charge (kind : InvoiceKind) (total : ℤ) :
    ChargeOn "pi" 0 total 0 (chargedLedger kind total) where
  payment := ⟨_, rfl, rfl, rfl, rfl, .inl rfl⟩
  only j q row _ := by
    have row := Table.find_eq_some.mp row
    simp only [chargedLedger, Table.rows_push, Table.empty, List.nil_append, List.mem_singleton,
      Prod.mk.injEq] at row
    exact row.1

theorem chargedBundle_charged : BundleCharged "pi" chargedBundle where
  invoiceKind := rfl
  depositKind := rfl
  charge d := by
    cases d
    · exact ⟨0, 10000, chargedLedger_charge _ _, by decide⟩
    · exact ⟨0, 5000, chargedLedger_charge _ _, by decide⟩
  amountRefunded d := by cases d <;> rfl
  refunds d := by cases d <;> rfl
  requested _ := rfl
  cumulative := rfl
  emitted := rfl

def refundOf (document : BundledDocument) (amount : ℚ) (positive : 0 < amount) : BundleAction :=
  .refund (noon 20010) document true false true ⟨amount, positive, false⟩

/-- The invoice is refunded in two parts and then the deposit; the events arrive out of order. -/
theorem bundled_refunds_agree_invoice_first :
    ∃ t : BundleState, t.requested .deposit = 5000 ∧ RefundsAgree t := by
  obtain ⟨t, run, deposit⟩ := Run.exists_of_exec (bundleStep "pi")
    (fun s a => echoCovered "pi" s a = true) chargedBundle
    [refundOf .invoice 30 (by norm_num), refundOf .invoice 70 (by norm_num),
      .webhook (noon 20010) 10000, refundOf .deposit 50 (by norm_num),
      .webhook (noon 20011) 15000, .webhook (noon 20011) 3000, .webhook (noon 20011) 15000]
    (fun t : BundleState => t.requested .deposit = 5000) (by decide +kernel)
  exact ⟨t, by simpa using deposit, bundled_refunds_agree chargedBundle_charged run⟩

/-- The deposit is refunded first: its event is recorded as a refund of the invoice. -/
theorem bundled_refunds_disagree :
    ¬∀ (reference : String) (s t : BundleState), BundleCharged reference s →
      Reaches (bundleStep reference) s t → RefundsAgree t := by
  intro always
  obtain ⟨t, run, shown⟩ := Run.exists_of_exec (bundleStep "pi") (fun _ _ => True) chargedBundle
    [refundOf .deposit 50 (by norm_num), .webhook (noon 20010) 5000]
    (fun t : BundleState =>
      t.bundle.invoice.invoice.amountRefunded = 5000 ∧ t.requested .invoice = 0) (by decide +kernel)
  rw [decide_eq_true_eq] at shown
  have agree := (always _ _ t chargedBundle_charged run).amounts .invoice
  rw [shown.2] at agree
  exact absurd (shown.1.symm.trans agree) (by decide)

end StorageOS
