import StorageOS.Billing.Requests
import StorageOS.Payments.Collections

/-! The ledger of an invoice over any sequence of collections, returns, refunds, credits and
withholdings: the amount paid is the sum of the payments that count as collected, in every run
whose returns find payments of their amount and whose gateway refunds are of collected payments. -/

namespace StorageOS

open Transition

inductive LedgerAction
  | markPaidManually (clock : Clock) (rejectDuplicate : Bool) (remittance : Option String)
      (input : MarkPaidManuallyInput)
  | revertPayment (clock : Clock) (input : RevertPaymentInput)
  | gatewaySuccess (clock : Clock) (paidAt : Option Instant) (id : PaymentId)
  | gatewayFailure (clock : Clock) (id : PaymentId)
  | gatewayDispute (clock : Clock) (id : PaymentId)
  | gatewayRefund (clock : Clock) (amountRefunded : ℤ) (id : PaymentId)
  | refund (clock : Clock) (allowDepositReceipt rejectDuplicate gatewayAccepts : Bool)
      (input : RefundInvoiceInput)
  | compensateWithCredit (clock : Clock) (creditCents : ℤ)
  | applyWithholding (reg : Registry) (clock : Clock)

def Ledger.onAccount (l : Ledger) (f : Account → Account) : Ledger := { l with toAccount := f l.toAccount }

/-- An operation on the invoice, `none` when it is refused. -/
def ledgerStep (l : Ledger) : LedgerAction → Option Ledger
  | .markPaidManually clock rejectDuplicate remittance input =>
    (markPaidManually clock rejectDuplicate remittance input l.toAccount).toOption.map fun a =>
      { l with toAccount := a }
  | .revertPayment clock input =>
    (revertPayment clock input l.toAccount).toOption.map fun a => { l with toAccount := a }
  | .gatewaySuccess clock paidAt id =>
    some (l.onAccount (syncOneFromWebhook clock .succeeded paidAt id))
  | .gatewayFailure clock id => some (l.onAccount (syncOneFromWebhook clock .failed none id))
  | .gatewayDispute clock id => some (l.onAccount (syncOneDispute clock id))
  | .gatewayRefund clock amountRefunded id => some (syncOneRefund clock amountRefunded id l)
  | .refund clock allowDepositReceipt rejectDuplicate gatewayAccepts input =>
    (refund clock allowDepositReceipt rejectDuplicate gatewayAccepts input l).toOption
  | .compensateWithCredit clock creditCents =>
    some (l.onAccount (compensateWithCredit clock creditCents))
  | .applyWithholding reg clock => some (l.onAccount (applyWithholding reg clock))

def Payment.collectedAmount (p : Payment) : ℤ := if p.status.collected then p.amount else 0

variable {p : Payment} {id : PaymentId} {left : ℤ}

theorem Payment.collectedAmount_of_collected (h : p.status.collected = true) :
    p.collectedAmount = p.amount := if_pos h

theorem Payment.collectedAmount_of_not (h : p.status.collected = false) :
    p.collectedAmount = 0 := if_neg (by simp [h])

/-- The amounts of the payments that are succeeded, partially refunded or refunded. -/
def Account.collected (a : Account) : ℤ := a.payments.sum Payment.collectedAmount

/-- The amounts, taken in order and skipping those that do not fit in what is left, make up the
target. -/
def fills : ℤ → List ℤ → Bool
  | left, [] => left = 0
  | left, amount :: rest =>
    if amount > left then fills left rest else fills (left - amount) rest

/-- What a return takes from the amount paid is a whole number of collections: the one named, one
of exactly the amount, or the latest ones that fit. -/
def RevertPaymentInput.covered (input : RevertPaymentInput) (a : Account) : Bool :=
  let due := min (toCents input.amount) a.invoice.amountPaid
  match input.paymentId with
  | some id => a.livePayments.all fun p => p.1 ≠ id || p.2.amount = due
  | none =>
    (a.livePayments.any fun p => p.2.amount = toCents input.amount) ||
      fills due (a.livePayments.map fun p => p.2.amount)

/-- A payment counts as collected, or the refund of it is already recorded. -/
def refundOfCollected (a : Account) (amountRefunded : ℤ) (id : PaymentId) : Bool :=
  (a.payments.find id).all fun p => p.status.collected || amountRefunded ≤ p.refundedAmount

/-- The condition on an operation: an amount has the same cents for the application and for the
column, returns are covered, and gateway refunds are of collected payments. -/
def ledgerOk (l : Ledger) : LedgerAction → Bool
  | .markPaidManually _ _ _ input => column input.amount = toCents input.amount
  | .revertPayment _ input => input.covered l.toAccount
  | .gatewayRefund _ amountRefunded id => refundOfCollected l.toAccount amountRefunded id
  | _ => true

structure Account.Balanced (a : Account) : Prop where
  paid : a.invoice.amountPaid = a.collected
  amounts : ∀ p ∈ a.payments.values, 0 ≤ p.amount

section

variable {a b : Account} {clock : Clock}

variable {i : Invoice} {live : List (PaymentId × Payment)} {input : RevertPaymentInput} {l l' : Ledger}

theorem Account.Balanced.push (balanced : a.Balanced) (status : p.status.collected = true) (amount : 0 ≤ p.amount)
    (paid : i.amountPaid = a.invoice.amountPaid + p.amount) :
    Account.Balanced ⟨i, a.payments.push p⟩ := by
  constructor
  · rw [paid, balanced.paid]
    simp [Account.collected, Payment.collectedAmount, status]
  · intro q mem
    rw [Table.values_push, List.mem_append, List.mem_singleton] at mem
    rcases mem with mem | rfl
    · exact balanced.amounts q mem
    · exact amount

theorem Account.Balanced.modify (balanced : a.Balanced) {f : Payment → Payment} (found : a.payments.find id = some p)
    (amount : ∀ q, (f q).amount = q.amount)
    (paid : i.amountPaid = a.invoice.amountPaid + ((f p).collectedAmount - p.collectedAmount)) :
    Account.Balanced ⟨i, a.payments.modify id f⟩ := by
  constructor
  · rw [paid, balanced.paid]
    exact (Table.sum_modify found f _).symm
  · exact Table.forall_modify balanced.amounts fun q h => (amount q).symm ▸ h

theorem balanced_markPaidManually {rejectDuplicate : Bool} {remittance : Option String}
    {input : MarkPaidManuallyInput} (balanced : a.Balanced)
    (h : markPaidManually clock rejectDuplicate remittance input a = .ok b)
    (cents : column input.amount = toCents input.amount) : b.Balanced := by
  obtain ⟨payment, invoice, collection, rfl⟩ := markPaidManually_ok h
  obtain rfl := collection.payment
  refine balanced.push rfl (column_nonneg input.positive.le) ?_
  rw [collection.paid, ← cents]
  rfl

/-! ### Returns -/

theorem mem_livePayments {p : PaymentId × Payment} (h : p ∈ a.livePayments) :
    p ∈ a.payments.rows ∧ p.2.status = .succeeded := by
  rw [Account.livePayments, List.mem_insertionSort, List.mem_filter] at h
  simp only [Bool.and_eq_true, decide_eq_true_eq] at h
  exact ⟨h.1, h.2.1⟩

theorem livePayments_distinct (a : Account) : (a.livePayments.map Prod.fst).Nodup := by
  have perm : a.livePayments.Perm _ := List.perm_insertionSort _ _
  rw [(perm.map Prod.fst).nodup_iff]
  exact a.payments.distinct.sublist (List.filter_sublist.map _)

theorem takeFitting_sublist (left : ℤ) (live : List (PaymentId × Payment)) :
    (takeFitting left live).Sublist live := by
  induction live generalizing left with
  | nil => exact List.Sublist.refl _
  | cons p rest ih =>
    rw [takeFitting]
    split
    · exact (ih left).cons p
    · split
      · exact List.Sublist.cons_cons p (List.nil_sublist rest)
      · exact (ih _).cons_cons p

theorem revertedPayments_sublist (input : RevertPaymentInput) (live : List (PaymentId × Payment)) :
    (revertedPayments input live).Sublist live := by
  rw [revertedPayments]
  split
  · rename_i p found
    rw [List.singleton_sublist]
    rw [exactPayment] at found
    split at found <;> exact List.mem_of_find?_eq_some found
  · exact takeFitting_sublist _ _

def amountsOf (payments : List (PaymentId × Payment)) : List ℤ := payments.map fun p => p.2.amount

/-- What fits within the target fills it exactly when the loop takes the target. -/
theorem takeFitting_sum (nonneg : ∀ x ∈ amountsOf live, 0 ≤ x) (filled : fills left (amountsOf live) = true) :
    (amountsOf (takeFitting left live)).sum = left := by
  induction live generalizing left with
  | nil => simpa [amountsOf, fills, takeFitting, eq_comm] using filled
  | cons p rest ih =>
    have hrest : ∀ x ∈ amountsOf rest, 0 ≤ x := fun x hx => nonneg x (List.mem_cons_of_mem _ hx)
    simp only [amountsOf, List.map_cons, fills] at filled
    rw [takeFitting]
    split at filled
    · rename_i exceeds
      rw [if_pos exceeds]
      exact ih hrest filled
    · rename_i fits
      rw [if_neg fits]
      split
      · simp only [amountsOf, List.map_cons, List.map_nil, List.sum_cons, List.sum_nil]
        omega
      · have := ih hrest filled
        simp only [amountsOf, List.map_cons, List.sum_cons] at this ⊢
        omega

theorem takeFitting_all (nonneg : ∀ x ∈ amountsOf live, 0 ≤ x) (more : (amountsOf live).sum < left) :
    takeFitting left live = live := by
  induction live generalizing left with
  | nil => rfl
  | cons p rest ih =>
    have hrest : ∀ x ∈ amountsOf rest, 0 ≤ x := fun x hx => nonneg x (List.mem_cons_of_mem _ hx)
    have := List.sum_nonneg hrest
    simp only [amountsOf, List.map_cons, List.sum_cons] at more this
    rw [takeFitting, if_neg (by omega), if_neg (by omega), ih hrest]
    simp only [amountsOf]
    omega

theorem sum_of_fills {amounts : List ℤ} (nonneg : ∀ x ∈ amounts, 0 ≤ x) (room : amounts.sum ≤ left)
    (filled : fills left amounts = true) : amounts.sum = left := by
  induction amounts generalizing left with
  | nil => simpa [fills, eq_comm] using filled
  | cons x rest ih =>
    have hrest : ∀ y ∈ rest, 0 ≤ y := fun y hy => nonneg y (List.mem_cons_of_mem _ hy)
    have := List.sum_nonneg hrest
    rw [List.sum_cons] at room ⊢
    rw [fills, if_neg (by omega)] at filled
    have := ih hrest (by omega) filled
    omega

theorem amountsOf_eq_collected {payments : List (PaymentId × Payment)}
    (succeeded : ∀ p ∈ payments, p.2.status = .succeeded) :
    amountsOf payments = payments.map fun p => p.2.collectedAmount := by
  refine List.map_congr_left fun p mem => ?_
  simp [Payment.collectedAmount, PaymentStatus.collected, succeeded p mem]

variable (balanced : a.Balanced)
include balanced

theorem Account.Balanced.collectedAmount_nonneg : ∀ p ∈ a.payments.values, 0 ≤ p.collectedAmount := by
  intro p mem
  rw [Payment.collectedAmount]
  split
  · exact balanced.amounts p mem
  · exact le_refl 0

theorem Account.Balanced.live_nonneg : ∀ x ∈ amountsOf a.livePayments, 0 ≤ x := by
  intro x mem
  obtain ⟨p, live, rfl⟩ := List.mem_map.mp mem
  exact balanced.amounts p.2 (List.mem_map_of_mem (mem_livePayments live).1)

theorem Account.Balanced.live_sum_le : (amountsOf a.livePayments).sum ≤ a.invoice.amountPaid := by
  have perm : a.livePayments.Perm _ := List.perm_insertionSort _ _
  rw [amountsOf_eq_collected fun p mem => (mem_livePayments mem).2, (perm.map _).sum_eq,
    balanced.paid, Account.collected, Table.sum, Table.values, List.map_map]
  apply List.Sublist.sum_le_sum (List.filter_sublist.map _)
  intro x mem
  obtain ⟨p, row, rfl⟩ := List.mem_map.mp mem
  exact balanced.collectedAmount_nonneg p.2 (List.mem_map_of_mem row)

theorem Account.Balanced.reverted_sum (covered : input.covered a = true)
    (found : input.paymentId.isSome → (exactPayment input a.livePayments).isSome) :
    (amountsOf (revertedPayments input a.livePayments)).sum =
      min (toCents input.amount) a.invoice.amountPaid := by
  have nonneg := balanced.live_nonneg
  have total := balanced.live_sum_le
  rw [RevertPaymentInput.covered] at covered
  cases exact : exactPayment input a.livePayments with
  | some p =>
    simp only [revertedPayments, exact, amountsOf, List.map_cons, List.map_nil, List.sum_cons,
      List.sum_nil, add_zero]
    rw [exactPayment] at exact
    cases named : input.paymentId with
    | some id =>
      simp only [named, List.all_eq_true] at covered exact
      have mem := List.mem_of_find?_eq_some exact
      have same : p.1 = id := by simpa using List.find?_some exact
      simpa [same] using covered p mem
    | none =>
      simp only [named] at exact
      have mem := List.mem_of_find?_eq_some exact
      have same : p.2.amount = toCents input.amount := by simpa using List.find?_some exact
      have := List.single_le_sum nonneg _ (List.mem_map_of_mem mem)
      omega
  | none =>
    rw [revertedPayments, exact]
    cases named : input.paymentId with
    | some id => simp [named, exact] at found
    | none =>
      simp only [exactPayment, named] at exact
      have filled : fills (min (toCents input.amount) a.invoice.amountPaid)
          (amountsOf a.livePayments) = true := by
        simp only [named, Bool.or_eq_true] at covered
        refine covered.resolve_left fun some => ?_
        rw [List.any_eq_true] at some
        obtain ⟨p, mem, same⟩ := some
        exact List.find?_eq_none.mp exact p mem same
      rcases le_or_gt (toCents input.amount) a.invoice.amountPaid with within | beyond
      · rw [min_eq_left within] at filled ⊢
        exact takeFitting_sum nonneg filled
      · rw [min_eq_right beyond.le] at filled ⊢
        rw [takeFitting_all nonneg (by omega)]
        exact sum_of_fills nonneg total filled

theorem balanced_revertPayment (h : revertPayment clock input a = .ok b) (covered : input.covered a = true) :
    b.Balanced := by
  obtain ⟨found, rfl⟩ := revertPayment_ok h
  have chosen := revertedPayments_sublist input a.livePayments
  have succeeded : ∀ p ∈ revertedPayments input a.livePayments, p.2.status = .succeeded :=
    fun p mem => (mem_livePayments (chosen.subset mem)).2
  have perm := Table.filter_keys_perm ((chosen.map _).nodup (livePayments_distinct a))
    fun p mem => (mem_livePayments (chosen.subset mem)).1
  have sum := balanced.reverted_sum covered found
  constructor
  · rw [Account.collected, Table.sum_updateMany, (perm.map _).sum_eq]
    have lost : ((revertedPayments input a.livePayments).map fun q =>
        Payment.collectedAmount { q.2 with
          status := .failed
          returnedAt := if input.undo then q.2.returnedAt else some clock.now } -
        q.2.collectedAmount).sum = -(amountsOf (revertedPayments input a.livePayments)).sum := by
      rw [amountsOf_eq_collected succeeded, List.sum_neg, List.map_map]
      congr 1
      refine List.map_congr_left fun q _ => ?_
      simp [Payment.collectedAmount, PaymentStatus.collected]
    rw [lost, sum, ← Account.collected, ← balanced.paid]
    simp only [Invoice.uncollect]
    omega
  · exact Table.forall_updateMany balanced.amounts fun p h => h

/-! ### Gateways, refunds and credits -/

theorem balanced_syncOneFromWebhook {newStatus : PaymentStatus} {paidAt : Option Instant}
    (told : newStatus = .succeeded ∨ newStatus = .failed) :
    (syncOneFromWebhook clock newStatus paidAt id a).Balanced := by
  rw [syncOneFromWebhook]
  split
  · exact balanced
  · rename_i existing found
    split
    · exact balanced
    · rename_i open_
      split
      · exact balanced
      · have uncollected : existing.status.collected = false := by
          rw [Bool.or_eq_true, not_or, Bool.not_eq_true] at open_
          exact open_.1
        refine balanced.modify found (fun _ => rfl) ?_
        rw [Payment.collectedAmount_of_not uncollected]
        rcases told with rfl | rfl
        · rw [Payment.collectedAmount_of_collected rfl, if_pos rfl, Invoice.collect]
          dsimp only
          split <;> simp
        · rw [Payment.collectedAmount_of_not rfl]
          simp

theorem balanced_syncOneDispute : (syncOneDispute clock id a).Balanced := by
  rw [syncOneDispute]
  split
  · exact balanced
  · rename_i existing found
    split
    · exact balanced
    · rename_i standing
      rw [not_not] at standing
      refine balanced.modify found (fun _ => rfl) ?_
      have mem := Table.mem_values.mpr ⟨id, found⟩
      have part : existing.collectedAmount ≤ a.collected :=
        List.single_le_sum (fun x hx => by
          obtain ⟨p, hp, rfl⟩ := List.mem_map.mp hx
          exact balanced.collectedAmount_nonneg p hp) _ (List.mem_map_of_mem mem)
      have amount : existing.collectedAmount = existing.amount :=
        Payment.collectedAmount_of_collected (by rw [standing]; rfl)
      rw [Payment.collectedAmount_of_not rfl, amount]
      rw [amount, ← balanced.paid] at part
      simp only [Invoice.uncollect]
      omega

omit balanced

theorem PaymentStatus.collected_of_refundable {s : PaymentStatus} (h : s.refundable = true) :
    s.collected = true := by
  cases s <;> simp_all [refundable, collected]

theorem Payment.collectedAmount_refundedTo (p : Payment) (clock : Clock) (cents : ℤ) :
    (p.refundedTo clock cents).collectedAmount = p.amount := by
  refine collectedAmount_of_collected ?_
  simp only [refundedTo]
  split <;> rfl

theorem balanced_syncOneRefund {l : Ledger} {amountRefunded : ℤ} (balanced : l.toAccount.Balanced)
    (ok : refundOfCollected l.toAccount amountRefunded id = true) :
    (syncOneRefund clock amountRefunded id l).toAccount.Balanced := by
  rw [syncOneRefund]
  split
  · exact balanced
  · rename_i fresh found
    dsimp only
    split
    · exact balanced
    · rename_i increases
      have collected : fresh.status.collected = true := by
        simp only [refundOfCollected, found, Option.all_some, Bool.or_eq_true,
          decide_eq_true_eq] at ok
        exact ok.resolve_right fun recorded => increases (by omega)
      refine balanced.modify found (fun _ => rfl) ?_
      rw [Payment.collectedAmount_refundedTo, Payment.collectedAmount_of_collected collected,
        sub_self, add_zero]
      rfl

theorem balanced_refund {allowDepositReceipt rejectDuplicate gatewayAccepts : Bool} {input : RefundInvoiceInput}
    (balanced : l.toAccount.Balanced)
    (h : refund clock allowDepositReceipt rejectDuplicate gatewayAccepts input l = .ok l') :
    l'.toAccount.Balanced := by
  obtain ⟨paymentId, via, refunded⟩ := refund_ok h
  obtain ⟨⟨i, payments⟩, refunds⟩ := l'
  obtain rfl := refunded.payments
  obtain rfl := refunded.invoice
  cases paymentId with
  | none => exact ⟨balanced.paid, balanced.amounts⟩
  | some id =>
    obtain ⟨p, found, refundable⟩ := refundSource_ok refunded.source
    refine balanced.modify (f := fun p => p.refundedTo clock (p.refundedAmount + _)) found
      (fun _ => rfl) ?_
    rw [Payment.collectedAmount_refundedTo, Payment.collectedAmount_of_collected
      (PaymentStatus.collected_of_refundable refundable), sub_self, add_zero]
    rfl

theorem balanced_compensateWithCredit {creditCents : ℤ} (balanced : a.Balanced) :
    (compensateWithCredit clock creditCents a).Balanced := by
  rw [compensateWithCredit]
  dsimp only
  split
  · exact balanced
  · rename_i positive
    rw [Bool.or_eq_true, not_or, decide_eq_true_eq, not_le] at positive
    refine balanced.push rfl positive.2.le ?_
    split <;> rfl

theorem balanced_applyWithholding {reg : Registry} (balanced : a.Balanced) :
    (applyWithholding reg clock a).Balanced := by
  rw [applyWithholding]
  dsimp only
  split
  · exact balanced
  · split
    · exact balanced
    · split
      · exact balanced
      · split
        · exact balanced
        · rename_i positive
          rw [Bool.or_eq_true, not_or, decide_eq_true_eq, decide_eq_true_eq, not_le, not_le]
            at positive
          exact balanced.push rfl positive.2.le rfl

theorem balanced_step {action : LedgerAction} (balanced : l.toAccount.Balanced) (ok : ledgerOk l action = true)
    (step : ledgerStep l action = some l') :
    l'.toAccount.Balanced := by
  cases action with
  | markPaidManually clock rejectDuplicate remittance input =>
    obtain ⟨a, marked, rfl⟩ := Option.map_eq_some_iff.mp step
    exact balanced_markPaidManually balanced (Outcome.ok_of_toOption marked)
      (by simpa [ledgerOk] using ok)
  | revertPayment clock input =>
    obtain ⟨a, reverted, rfl⟩ := Option.map_eq_some_iff.mp step
    exact balanced_revertPayment balanced (Outcome.ok_of_toOption reverted) ok
  | gatewaySuccess clock paidAt id =>
    cases step
    exact balanced_syncOneFromWebhook balanced (.inl rfl)
  | gatewayFailure clock id =>
    cases step
    exact balanced_syncOneFromWebhook balanced (.inr rfl)
  | gatewayDispute clock id =>
    cases step
    exact balanced_syncOneDispute balanced
  | gatewayRefund clock amountRefunded id =>
    cases step
    exact balanced_syncOneRefund balanced ok
  | refund clock allowDepositReceipt rejectDuplicate gatewayAccepts input =>
    exact balanced_refund balanced (Outcome.ok_of_toOption step)
  | compensateWithCredit clock creditCents =>
    cases step
    exact balanced_compensateWithCredit balanced
  | applyWithholding reg clock =>
    cases step
    exact balanced_applyWithholding balanced

/-- In every run of operations that meet their conditions, the amount paid of an invoice is the sum
of its collected payments. -/
theorem ledger_balanced {l l' : Ledger} (balanced : l.toAccount.Balanced)
    (run : Run ledgerStep (fun s action => ledgerOk s action = true) l l') :
    l'.invoice.amountPaid = l'.toAccount.collected :=
  (run.invariant (P := fun s : Ledger => s.toAccount.Balanced) balanced balanced_step).paid

end

def issuedInvoice (total : ℤ) : Invoice :=
  { draftInvoice 1 0 0 total with
    status := .issued
    issueDate := some 20000
    dueDate := some 20015 }

def chargeInFlight (amount : ℤ) : Payment :=
  { manualPayment (some 1) amount .card (noon 20000) 0 with
    status := .processing
    gateway := .stripe
    gatewayPaymentId := some "pi"
    paidAt := none }

def cashOf (amount : ℚ) (positive : 0 < amount) : MarkPaidManuallyInput :=
  ⟨amount, positive, none, .cash, true, false, false⟩

def issuedLedger : Ledger where
  invoice := issuedInvoice 10000
  payments := Table.empty.push (chargeInFlight 4000)
  refunds := []

theorem issuedLedger_balanced : issuedLedger.toAccount.Balanced where
  paid := by decide
  amounts := by decide

/-- 60 € are collected in cash and 40 € by card, the card charge is returned, 60 € of an original
are credited and the cash is reverted. -/
theorem ledger_balanced_issued :
    ∃ l : Ledger, l.invoice.amountPaid = 4000 ∧ l.invoice.amountPaid = l.toAccount.collected := by
  obtain ⟨l, run, paid⟩ := Run.exists_of_exec ledgerStep (fun s action => ledgerOk s action = true)
    issuedLedger
    [.markPaidManually (noon 20001) true none (cashOf 60 (by norm_num)),
      .gatewaySuccess (noon 20002) none 0, .gatewayDispute (noon 20020) 0,
      .compensateWithCredit (noon 20021) 6000, .revertPayment (noon 20022) ⟨60, none, false⟩]
    (fun l : Ledger => l.invoice.amountPaid = 4000) (by decide +kernel)
  exact ⟨l, by simpa using paid, ledger_balanced issuedLedger_balanced run⟩

/-- A bank return of 50 € of collections of 40 € and 60 €: the amount paid falls by 50 €, and only
the collection of 40 € is marked. -/
theorem ledger_unbalanced :
    ¬∀ l l' : Ledger, l.toAccount.Balanced → l.invoice.status.payable = true →
      0 < l.invoice.total → Reaches ledgerStep l l' →
      l'.invoice.amountPaid = l'.toAccount.collected := by
  intro always
  obtain ⟨l, run, differ⟩ := Run.exists_of_exec ledgerStep (fun _ _ => True) issuedLedger
    [.markPaidManually (noon 20001) true none (cashOf 60 (by norm_num)),
      .markPaidManually (noon 20002) true none (cashOf 40 (by norm_num)),
      .revertPayment (noon 20020) ⟨50, none, false⟩]
    (fun l : Ledger => l.invoice.amountPaid ≠ l.toAccount.collected) (by decide +kernel)
  exact absurd (always _ l issuedLedger_balanced rfl (by decide) run) (by simpa using differ)

end StorageOS
