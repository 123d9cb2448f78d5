import StorageOS.Payments.Ledger

/-! Refunds of an invoice whose collections have no gateway: each is taken whole from the latest payment that
has something left, which may be less than the refund. -/

namespace StorageOS

variable {l l' : Ledger} {p : Payment} {id : PaymentId} {clock : Clock} {cents : ℤ}

structure RefundCall where
  clock : Clock
  allowDepositReceipt : Bool
  rejectDuplicate : Bool
  gatewayAccepts : Bool
  input : RefundInvoiceInput

variable {c : RefundCall}

def RefundCall.run (c : RefundCall) (l : Ledger) : Option Ledger :=
  (refund c.clock c.allowDepositReceipt c.rejectDuplicate c.gatewayAccepts c.input l).toOption

def RefundCall.isManual (c : RefundCall) (l : Ledger) : Bool :=
  (refundSource c.input c.gatewayAccepts l.toAccount).toOption.any fun source => source.2 = .manual

/-- The ledger after each call, `none` when a call is refused or goes by a gateway or a bank. -/
def manualRefunds (l : Ledger) : List RefundCall → Option (List Ledger)
  | [] => some []
  | c :: rest =>
    if c.isManual l then (c.run l).bind fun l' => (manualRefunds l' rest).map (l' :: ·) else none

/-- Each payment backs what was refunded of it, and the payments together what was refunded of the invoice. -/
structure Backed (l : Ledger) : Prop where
  bounds : ∀ p ∈ l.payments.values, 0 ≤ p.refundedAmount ∧ p.refundedAmount ≤ p.amount
  total : l.payments.sum Payment.refundedAmount = l.invoice.amountRefunded

/-- Payments that have succeeded (or are in flight, or failed), and no refund yet. -/
structure NothingRefunded (l : Ledger) : Prop where
  payments : ∀ p ∈ l.payments.values, p.refundedAmount = 0 ∧ 0 ≤ p.amount ∧ p.status ≠ .refunded
  invoice : l.invoice.amountRefunded = 0

def Account.manualPayment (a : Account) : Option (PaymentId × Payment) :=
  a.latestPayment fun p => p.gatewayPaymentId.isNone && p.status.refundable && !p.methodType.nonCash

def RefundCall.fits (c : RefundCall) (l : Ledger) : Bool :=
  l.manualPayment.all fun q => toCents c.input.amount ≤ q.2.amount - q.2.refundedAmount

/-- Each call of a sequence fits the payment that it is taken from. -/
def refundsFit (l : Ledger) : List RefundCall → Bool
  | [] => true
  | c :: rest => c.fits l && (c.run l).all fun l' => refundsFit l' rest

/-- What the refunds keep beside: a payment that counts as refunded has nothing left. -/
structure RefundsHold (l : Ledger) : Prop extends Backed l where
  nothingLeft : ∀ p ∈ l.payments.values, p.status = .refunded → p.amount ≤ p.refundedAmount

theorem NothingRefunded.hold (start : NothingRefunded l) : RefundsHold l where
  bounds p mem := by
    obtain ⟨none_, amount, -⟩ := start.payments p mem
    omega
  total := by
    rw [start.invoice]
    exact Table.sum_eq_zero fun p mem => (start.payments p mem).1
  nothingLeft p mem refunded := ((start.payments p mem).2.2 refunded).elim

/-! ### A call -/

theorem RefundCall.run_ok (ran : c.run l = some l') : ∃ paymentId via,
    Refunded c.clock c.input c.gatewayAccepts l l' paymentId via ∧
      l.invoice.amountRefunded + toCents c.input.amount ≤ l.collectedCash := by
  have ok : refund c.clock c.allowDepositReceipt c.rejectDuplicate c.gatewayAccepts c.input l = .ok l' := by
    rw [run] at ran
    cases called : refund c.clock c.allowDepositReceipt c.rejectDuplicate c.gatewayAccepts c.input l with
    | ok l'' =>
      rw [called] at ran
      cases ran
      rfl
    | error e =>
      rw [called] at ran
      cases ran
  obtain ⟨paymentId, via, refunded⟩ := refund_ok ok
  refine ⟨paymentId, via, refunded, ?_⟩
  simp only [refund] at ok
  replace ok := Outcome.passed (Outcome.passed ok)
  obtain ⟨_, fits, -⟩ := Outcome.bind_ok ok
  have fits := refuseIf_ok fits
  simp only [Bool.or_eq_true, decide_eq_true_eq, not_or, not_lt] at fits
  exact fits.2

/-- A manual refund is taken from the latest payment with something left, and there is none of a gateway. -/
theorem RefundCall.manual_source (manual : c.isManual l = true) {paymentId : Option PaymentId} {via : RefundVia}
    (source : refundSource c.input c.gatewayAccepts l.toAccount = .ok (paymentId, via)) :
    paymentId = l.manualPayment.map Prod.fst ∧
      l.latestPayment (fun p => p.gatewayPaymentId.isSome && p.status.refundable) = none := by
  rw [isManual, source] at manual
  obtain rfl : via = .manual := of_decide_eq_true manual
  rw [refundSource] at source
  split at source
  · dsimp only at source
    split at source
    · replace source := Outcome.passed (Outcome.passed source)
      cases source
    · replace source := Outcome.passed (Outcome.passed source)
      cases source
  · rename_i none_
    cases source
    exact ⟨rfl, none_⟩

theorem latestPayment_none {a : Account} {select : Payment → Bool} (none_ : a.latestPayment select = none)
    (mem : p ∈ a.payments.values) : select p = false := by
  rw [Account.latestPayment, List.argmax_eq_none, List.filter_eq_nil_iff] at none_
  obtain ⟨k, found⟩ := Table.find_of_mem_values mem
  exact eq_false_of_ne_true (none_ (k, p) (Table.mem_of_find found))

theorem RefundsHold.nothing (held : RefundsHold l) (none_ : l.manualPayment = none)
    (noGateway : l.latestPayment (fun p => p.gatewayPaymentId.isSome && p.status.refundable) = none) :
    l.collectedCash ≤ l.invoice.amountRefunded := by
  rw [← held.total]
  refine Table.sum_le_sum fun p mem => ?_
  have bounds := held.bounds p mem
  split
  · rename_i cash
    have byHand := latestPayment_none none_ mem
    have byGateway := latestPayment_none noGateway mem
    refine held.nothingLeft p mem ?_
    rw [Bool.and_eq_true, Bool.not_eq_true'] at cash
    obtain ⟨collected, cash⟩ := cash
    rw [cash, Bool.not_false, Bool.and_true] at byHand
    have closed : p.status.refundable = false := by
      cases gateway : p.gatewayPaymentId <;> simp [gateway] at byHand byGateway
      · exact byHand
      · exact byGateway
    revert collected closed
    cases p.status <;> decide
  · exact bounds.1

theorem mem_refundPayment {payments : Table PaymentId Payment}
    (mem : p ∈ (refundPayment clock cents (some id) payments).values) :
    p ∈ payments.values ∨ ∃ q, payments.find id = some q ∧ p = q.refundedTo clock (q.refundedAmount + cents) := by
  obtain ⟨k, found⟩ := Table.find_of_mem_values mem
  rcases Table.find_modify_cases found with ⟨-, same⟩ | ⟨-, q, before, rfl⟩
  · exact .inl (Table.mem_values_of_find same)
  · exact .inr ⟨q, before, rfl⟩

/-- A manual refund keeps the payments backed if and only if the payment that it is taken from has as much
left. -/
theorem RefundsHold.step (held : RefundsHold l) (manual : c.isManual l = true) (ran : c.run l = some l') :
    (c.fits l = true → RefundsHold l') ∧ (Backed l' → c.fits l = true) := by
  obtain ⟨paymentId, via, refunded, cash⟩ := RefundCall.run_ok ran
  obtain ⟨rfl, noGateway⟩ := RefundCall.manual_source manual refunded.source
  have cents := toCents_nonneg c.input.positive.le
  cases payment : l.manualPayment with
  | none =>
    have nothing := held.nothing payment noGateway
    have payments := refunded.payments
    rw [payment] at payments
    have same : l'.payments = l.payments := payments
    have fits : c.fits l = true := by
      rw [RefundCall.fits, payment]
      rfl
    refine ⟨fun _ => ⟨⟨?_, ?_⟩, ?_⟩, fun _ => fits⟩
    · rw [same]
      exact held.bounds
    · rw [same, held.total, refunded.invoice]
      change l.invoice.amountRefunded = l.invoice.amountRefunded + toCents c.input.amount
      omega
    · rw [same]
      exact held.nothingLeft
  | some q =>
    obtain ⟨id, q⟩ := q
    obtain ⟨found, -⟩ := latestPayment_some payment
    have payments := refunded.payments
    rw [payment, Option.map_some] at payments
    have before := held.bounds q (Table.mem_values_of_find found)
    have fits : c.fits l = true ↔ toCents c.input.amount ≤ q.amount - q.refundedAmount := by
      rw [RefundCall.fits, payment, Option.all_some, decide_eq_true_eq]
    refine ⟨fun fit => ⟨⟨fun p mem => ?_, ?_⟩, fun p mem status => ?_⟩, fun backed => ?_⟩
    · rw [payments] at mem
      rcases mem_refundPayment mem with old | ⟨q', found', rfl⟩
      · exact held.bounds p old
      · rw [found] at found'
        cases found'
        have fit := fits.mp fit
        simp only [Payment.refundedTo]
        omega
    · rw [payments, refunded.invoice]
      change (l.payments.modify id _).sum _ = l.invoice.amountRefunded + toCents c.input.amount
      rw [Table.sum_modify found, held.total]
      simp only [Payment.refundedTo]
      omega
    · rw [payments] at mem
      rcases mem_refundPayment mem with old | ⟨q', found', rfl⟩
      · exact held.nothingLeft p old status
      · simp only [Payment.refundedTo] at status ⊢
        split at status
        · assumption
        · cases status
    · have now := backed.bounds (q.refundedTo c.clock (q.refundedAmount + toCents c.input.amount)) (by
        rw [payments]
        refine Table.mem_values_of_find (k := id) ?_
        rw [refundPayment, Table.find_modify_self, found]
        rfl)
      simp only [Payment.refundedTo] at now
      exact fits.mpr (by omega)

/-- After every call of a sequence of manual refunds the payments back what was refunded, if and only if each
call fits the payment that it is taken from. -/
theorem manual_refunds_backed {calls : List RefundCall} {ledgers : List Ledger} (start : NothingRefunded l)
    (ran : manualRefunds l calls = some ledgers) : (∀ l' ∈ ledgers, Backed l') ↔ refundsFit l calls = true := by
  have held := start.hold
  clear start
  induction calls generalizing l ledgers with
  | nil =>
    cases ran
    exact ⟨fun _ => rfl, fun _ _ mem => (List.not_mem_nil mem).elim⟩
  | cons c rest ih =>
    rw [manualRefunds] at ran
    split at ran
    · rename_i manual
      obtain ⟨l', made, ran⟩ := Option.bind_eq_some_iff.mp ran
      obtain ⟨later, ranLater, rfl⟩ := Option.map_eq_some_iff.mp ran
      obtain ⟨keeps, fits⟩ := held.step manual made
      rw [refundsFit, made, Option.all_some, Bool.and_eq_true]
      constructor
      · intro backed
        have fit := fits (backed l' List.mem_cons_self)
        exact ⟨fit, (ih ranLater (keeps fit)).mp fun x mem => backed x (List.mem_cons_of_mem _ mem)⟩
      · rintro ⟨fit, fitLater⟩ x mem
        rcases List.mem_cons.mp mem with rfl | mem
        · exact (keeps fit).toBacked
        · exact (ih ranLater (keeps fit)).mpr fitLater x mem
    · cases ran

/-! ### Two collections of 50 € -/

def collectedTwice : Ledger where
  invoice := { issuedInvoice 10000 with status := .paid, amountPaid := 10000 }
  payments := (Table.empty.push (manualPayment (some 1) 5000 .cash (noon 20001) (noon 20001).now)).push
    (manualPayment (some 1) 5000 .cash (noon 20002) (noon 20002).now)
  refunds := []

theorem collectedTwice_start : NothingRefunded collectedTwice where
  payments := by decide
  invoice := rfl

def refundByHand (day : ℤ) (amount : ℚ) (positive : 0 < amount) : RefundCall :=
  ⟨noon day, false, true, true, amount, positive, false⟩

/-- 30 € and 20 € of the later collection, and 50 € of the earlier one. -/
def refundsOfBoth : List RefundCall :=
  [refundByHand 20010 30 (by norm_num), refundByHand 20011 20 (by norm_num), refundByHand 20012 50 (by norm_num)]

theorem manual_refunds_backed_both : ∃ ledgers, manualRefunds collectedTwice refundsOfBoth = some ledgers ∧
    ledgers.length = 3 ∧ ∀ l ∈ ledgers, Backed l := by
  have three : (manualRefunds collectedTwice refundsOfBoth).any (fun ledgers => ledgers.length = 3) = true := by
    decide +kernel
  obtain ⟨ledgers, ran, length⟩ := (Option.any_eq_true _ _).mp three
  exact ⟨ledgers, ran, of_decide_eq_true length,
    (manual_refunds_backed collectedTwice_start ran).mpr (by decide +kernel)⟩

/-- 80 € are taken from the later collection, of 50 €. -/
theorem manual_refund_unbacked : ∃ calls ledgers, manualRefunds collectedTwice calls = some ledgers ∧
    NothingRefunded collectedTwice ∧ ¬∀ l ∈ ledgers, Backed l := by
  have taken : (manualRefunds collectedTwice [refundByHand 20010 80 (by norm_num)]).any (fun ledgers =>
      ledgers.any fun l => l.payments.values.any fun p => p.refundedAmount > p.amount) = true := by
    decide +kernel
  obtain ⟨ledgers, ran, taken⟩ := (Option.any_eq_true _ _).mp taken
  obtain ⟨l, mem, taken⟩ := List.any_eq_true.mp taken
  obtain ⟨p, there, more⟩ := List.any_eq_true.mp taken
  refine ⟨_, ledgers, ran, collectedTwice_start, fun all => ?_⟩
  have least := ((all l mem).bounds p there).2
  have more := of_decide_eq_true more
  omega

end StorageOS

/-! The status of an invoice over the refunds of the application and those that its gateway reports. Both compare
what was refunded with the total of the invoice, and what can be refunded is what was paid. -/

namespace StorageOS

/-- A refund of the application, or one that a gateway reports with all that it has refunded of a payment. -/
inductive RefundMove
  | app (call : RefundCall)
  | webhook (clock : Clock) (amountRefunded : ℤ) (id : PaymentId)

def RefundMove.run (l : Ledger) : RefundMove → Option Ledger
  | .app call => call.run l
  | .webhook clock amountRefunded id => some (syncOneRefund clock amountRefunded id l)

/-- The ledger after each refund, `none` when one is refused. -/
def refundRun (l : Ledger) : List RefundMove → Option (List Ledger)
  | [] => some []
  | m :: rest => (m.run l).bind fun l' => (refundRun l' rest).map (l' :: ·)

structure Invoice.Unrefunded (i : Invoice) : Prop where
  amountRefunded : i.amountRefunded = 0
  refunded : i.status ≠ .refunded
  partiallyRefunded : i.status ≠ .partiallyRefunded

structure Invoice.TellsRefund (i : Invoice) : Prop where
  refunded : i.status = .refunded ↔ i.amountRefunded = i.amountPaid ∧ 0 < i.amountPaid
  partiallyRefunded : i.status = .partiallyRefunded ↔ 0 < i.amountRefunded ∧ i.amountRefunded < i.amountPaid

/-- What is refunded in all is something, and it is less than the total and than what was paid, or these are the
same. -/
def Invoice.refundTells (i : Invoice) (refunded : ℤ) : Bool :=
  0 < refunded && if refunded < i.total then refunded < i.amountPaid else i.amountPaid = i.total

/-- The condition on a refund. What a gateway reports again changes nothing. -/
def RefundMove.tells (l : Ledger) : RefundMove → Bool
  | .app call => l.invoice.refundTells (l.invoice.amountRefunded + toCents call.input.amount)
  | .webhook _ amountRefunded id =>
    (l.payments.find id).all fun p => amountRefunded ≤ p.refundedAmount ||
      l.invoice.refundTells
        (min (l.invoice.amountRefunded + (amountRefunded - p.refundedAmount)) l.invoice.total)

def refundsTell (l : Ledger) : List RefundMove → Bool
  | [] => true
  | m :: rest => m.tells l && (m.run l).all fun l' => refundsTell l' rest

variable {i : Invoice} {l l' : Ledger} {m : RefundMove} {refunded : ℤ}

theorem Invoice.Unrefunded.tells (start : i.Unrefunded) : i.TellsRefund where
  refunded := by
    refine iff_of_false start.refunded fun all => ?_
    have nothing := start.amountRefunded
    omega
  partiallyRefunded := by
    refine iff_of_false start.partiallyRefunded fun some_ => ?_
    have nothing := start.amountRefunded
    omega

theorem Invoice.refundedTo_tells (limit : refunded ≤ i.total) :
    (i.refundedTo refunded).TellsRefund ↔ i.refundTells refunded = true := by
  have paid : (i.refundedTo refunded).amountPaid = i.amountPaid := rfl
  have amount : (i.refundedTo refunded).amountRefunded = refunded := rfl
  rw [refundTells, Bool.and_eq_true, decide_eq_true_eq]
  by_cases whole : refunded < i.total
  · have status : (i.refundedTo refunded).status = .partiallyRefunded := if_neg (not_le.mpr whole)
    rw [if_pos whole, decide_eq_true_eq]
    constructor
    · intro tells
      have left := tells.partiallyRefunded.mp status
      rwa [amount, paid] at left
    · intro left
      refine ⟨iff_of_false (by rw [status]; decide) fun all => ?_, iff_of_true status (by rwa [amount, paid])⟩
      rw [amount, paid] at all
      omega
  · have status : (i.refundedTo refunded).status = .refunded := if_pos (not_lt.mp whole)
    rw [if_neg whole, decide_eq_true_eq]
    constructor
    · intro tells
      have all := tells.refunded.mp status
      rw [amount, paid] at all
      omega
    · intro fits
      refine ⟨iff_of_true status ?_, iff_of_false (by rw [status]; decide) fun left => ?_⟩
      · rw [amount, paid]
        omega
      · rw [amount, paid] at left
        omega

theorem RefundMove.run_cases (made : m.run l = some l') :
    (l' = l ∧ m.tells l = true) ∨ ∃ refunded, refunded ≤ l.invoice.total ∧
      l'.invoice = l.invoice.refundedTo refunded ∧ m.tells l = l.invoice.refundTells refunded := by
  cases m with
  | app call =>
    obtain ⟨paymentId, via, done⟩ := refund_ok (Outcome.ok_of_toOption made)
    exact .inr ⟨_, done.fits, done.invoice, rfl⟩
  | webhook clock amountRefunded id =>
    obtain rfl := Option.some.inj made
    simp only [tells, syncOneRefund]
    cases l.payments.find id with
    | none => exact .inl ⟨rfl, rfl⟩
    | some p =>
      by_cases known : amountRefunded - p.refundedAmount ≤ 0
      · have covered : amountRefunded ≤ p.refundedAmount := by omega
        exact .inl ⟨if_pos known, by simp [covered]⟩
      · have more : ¬amountRefunded ≤ p.refundedAmount := by omega
        dsimp only
        rw [if_neg known]
        exact .inr ⟨_, min_le_right _ _, rfl, by simp [more]⟩

theorem RefundMove.run_tells (before : l.invoice.TellsRefund) (made : m.run l = some l') :
    l'.invoice.TellsRefund ↔ m.tells l = true := by
  rcases run_cases made with ⟨rfl, known⟩ | ⟨refunded, limit, invoice, tells⟩
  · exact iff_of_true before known
  · rw [invoice, tells]
    exact Invoice.refundedTo_tells limit

theorem refundsTell_iff {moves : List RefundMove} {ledgers : List Ledger} (before : l.invoice.TellsRefund)
    (ran : refundRun l moves = some ledgers) :
    (∀ x ∈ ledgers, x.invoice.TellsRefund) ↔ refundsTell l moves = true := by
  induction moves generalizing l ledgers with
  | nil =>
    obtain rfl := Option.some.inj ran
    exact iff_of_true (fun _ mem => (List.not_mem_nil mem).elim) rfl
  | cons m rest ih =>
    obtain ⟨l', made, later⟩ := Option.bind_eq_some_iff.mp ran
    obtain ⟨ledgers', ranLater, rfl⟩ := Option.map_eq_some_iff.mp later
    have one := RefundMove.run_tells before made
    rw [refundsTell, made, Option.all_some, Bool.and_eq_true, List.forall_mem_cons, ← one]
    exact and_congr_right fun after => ih after ranLater

theorem refund_status_same {x x' y y' : Ledger} {m n : RefundMove} (made : m.run x = some x')
    (made' : n.run y = some y') (changed : x' ≠ x) (changed' : y' ≠ y)
    (total : x.invoice.total = y.invoice.total)
    (same : x'.invoice.amountRefunded = y'.invoice.amountRefunded) : x'.invoice.status = y'.invoice.status := by
  rcases RefundMove.run_cases made with ⟨stays, -⟩ | ⟨refunded, -, invoice, -⟩
  · exact (changed stays).elim
  · rcases RefundMove.run_cases made' with ⟨stays, -⟩ | ⟨refunded', -, invoice', -⟩
    · exact (changed' stays).elim
    · rw [invoice, invoice'] at same ⊢
      obtain rfl : refunded = refunded' := same
      simp only [Invoice.refundedTo, total]

/-- Whatever the total, what was paid and the refunds, the status says what is left after each of them if and only if
each meets the condition; and the status depends on the amounts alone. -/
theorem refund_status_tells {moves : List RefundMove} {ledgers : List Ledger} (start : l.invoice.Unrefunded)
    (ran : refundRun l moves = some ledgers) :
    ((∀ x ∈ ledgers, x.invoice.TellsRefund) ↔ refundsTell l moves = true) ∧
      ∀ (x y x' y' : Ledger) (m n : RefundMove), m.run x = some x' → n.run y = some y' → x' ≠ x → y' ≠ y →
        x.invoice.total = y.invoice.total → x'.invoice.amountRefunded = y'.invoice.amountRefunded →
          x'.invoice.status = y'.invoice.status :=
  ⟨refundsTell_iff start.tells ran, fun _ _ _ _ _ _ made made' changed changed' total same =>
    refund_status_same made made' changed changed' total same⟩

/-! ### An invoice of 100 € collected twice -/

def paidByCardAndCash (cash : ℤ) : Ledger where
  invoice := { issuedInvoice 10000 with status := .paid, amountPaid := 6000 + cash }
  payments := (Table.empty.push (manualPayment (some 1) cash .cash (noon 20001) (noon 20001).now)).push
    { chargeInFlight 6000 with status := .succeeded }
  refunds := []

theorem paidByCardAndCash_unrefunded (cash : ℤ) : (paidByCardAndCash cash).invoice.Unrefunded :=
  ⟨rfl, by simp [paidByCardAndCash], by simp [paidByCardAndCash]⟩

def refundsOfCardAndCash : List RefundMove :=
  [.webhook (noon 20010) 2500 1, .webhook (noon 20011) 6000 1, .app (refundByHand 20012 40 (by norm_num))]

theorem refund_status_tells_both : ∃ ledgers, refundRun (paidByCardAndCash 4000) refundsOfCardAndCash = some ledgers ∧
    ledgers.map (fun l => l.invoice.status) = [.partiallyRefunded, .partiallyRefunded, .refunded] ∧
    ∀ l ∈ ledgers, l.invoice.TellsRefund := by
  have replayed : (refundRun (paidByCardAndCash 4000) refundsOfCardAndCash).any (fun ledgers =>
      ledgers.map (fun l => l.invoice.status) = [.partiallyRefunded, .partiallyRefunded, .refunded]) = true := by
    decide +kernel
  obtain ⟨ledgers, ran, statuses⟩ := (Option.any_eq_true _ _).mp replayed
  exact ⟨ledgers, ran, of_decide_eq_true statuses,
    (refund_status_tells (paidByCardAndCash_unrefunded 4000) ran).1.mpr (by decide +kernel)⟩

/-- With 40 € collected beyond the total, the invoice counts as refunded with 40 € left. -/
theorem refund_status_overpaid : ∃ moves ledgers, refundRun (paidByCardAndCash 8000) moves = some ledgers ∧
    (paidByCardAndCash 8000).invoice.Unrefunded ∧ ¬∀ l ∈ ledgers, l.invoice.TellsRefund := by
  have replayed : (refundRun (paidByCardAndCash 8000) refundsOfCardAndCash).any (fun ledgers =>
      ledgers.any fun l => l.invoice.status = .refunded && l.invoice.amountRefunded < l.invoice.amountPaid) = true := by
    decide +kernel
  obtain ⟨ledgers, ran, left⟩ := (Option.any_eq_true _ _).mp replayed
  obtain ⟨l, mem, left⟩ := List.any_eq_true.mp left
  obtain ⟨status, less⟩ := Bool.and_eq_true_iff.mp left
  refine ⟨_, ledgers, ran, paidByCardAndCash_unrefunded 8000, fun tells => ?_⟩
  have all := ((tells l mem).refunded.mp (of_decide_eq_true status)).1
  have less := of_decide_eq_true less
  omega

end StorageOS
