import StorageOS.Payments.Ledger

/-! The events that a gateway emits for a charge, delivered in any order and any number of times. The state they leave
is a function of which events arrived and of whether the last confirmation or return before the first refund is a
confirmation. -/

namespace StorageOS

/-- An event of a charge: `confirmed`, `paid_out` or `payment_intent.succeeded`; `cancelled`,
`customer_approval_denied` or `payment_intent.payment_failed`; GoCardless `failed`, which may come
after a confirmation; `charged_back`, `late_failure_settled` or `charge.dispute.created`; and
`charge.refunded` with the cents refunded so far. -/
inductive GatewayEvent
  | succeeded
  | failed
  | lateFailed
  | returned
  | refunded (cents : ℤ)
  deriving DecidableEq

abbrev EventId := ℕ

structure Delivery where
  id : EventId
  event : GatewayEvent
  clock : Clock

def dispatch (id : PaymentId) (event : GatewayEvent) (clock : Clock) (l : Ledger) : Ledger :=
  match event with
  | .succeeded => l.onAccount (syncOneFromWebhook clock .succeeded (some clock.now) id)
  | .failed => l.onAccount (syncOneFromWebhook clock .failed none id)
  | .lateFailed =>
    (l.onAccount (syncOneFromWebhook clock .failed none id)).onAccount (syncOneDispute clock id)
  | .returned => l.onAccount (syncOneDispute clock id)
  | .refunded cents =>
    match l.payments.find id with
    | none => l
    | some p => syncOneRefund clock (min cents p.amount) id l

structure Inbox where
  ledger : Ledger
  processed : List EventId

def Inbox.receive (id : PaymentId) (s : Inbox) (d : Delivery) : Inbox :=
  if d.id ∈ s.processed then s
  else ⟨dispatch id d.event d.clock s.ledger, d.id :: s.processed⟩

def deliverAll (id : PaymentId) (l : Ledger) (deliveries : List Delivery) : Ledger :=
  (deliveries.foldl (Inbox.receive id) ⟨l, []⟩).ledger

def firstDeliveries : List EventId → List Delivery → List Delivery
  | _, [] => []
  | processed, d :: rest =>
    if d.id ∈ processed then firstDeliveries processed rest
    else d :: firstDeliveries (d.id :: processed) rest

/-- The status and the refund of a charge, with the amounts and the status of its invoice. -/
structure ChargeView where
  status : PaymentStatus
  refundedAmount : ℤ
  amountPaid : ℤ
  amountRefunded : ℤ
  invoiceStatus : InvoiceStatus
  deriving DecidableEq

def Ledger.charge (l : Ledger) (id : PaymentId) : Option ChargeView :=
  (l.payments.find id).map fun p =>
    ⟨p.status, p.refundedAmount, l.invoice.amountPaid, l.invoice.amountRefunded, l.invoice.status⟩

/-! ### The events on the view -/

structure ChargeTerms where
  amount : ℤ
  total : ℤ
  late : Bool

namespace ChargeView

variable (t : ChargeTerms) (v : ChargeView)

def collect : ChargeView :=
  if v.status.collected then v
  else
    { v with
      status := .succeeded
      amountPaid := v.amountPaid + t.amount
      invoiceStatus :=
        if v.amountPaid + t.amount ≥ t.total && v.invoiceStatus.payable then .paid
        else v.invoiceStatus }

def fail : ChargeView := if v.status.collected then v else { v with status := .failed }

def uncollect : ChargeView :=
  if v.status ≠ .succeeded then v
  else
    { v with
      status := .failed
      amountPaid := max 0 (v.amountPaid - t.amount)
      invoiceStatus :=
        if v.invoiceStatus = .paid then if t.late then .overdue else .issued
        else v.invoiceStatus }

def refund (cents : ℤ) : ChargeView :=
  let delta := min cents t.amount - v.refundedAmount
  if delta ≤ 0 then v
  else
    let amountRefunded := min (v.amountRefunded + delta) t.total
    { v with
      status := if min cents t.amount ≥ t.amount then .refunded else .partiallyRefunded
      refundedAmount := min cents t.amount
      amountRefunded
      invoiceStatus := if amountRefunded ≥ t.total then .refunded else .partiallyRefunded }

def dispatch : GatewayEvent → ChargeView
  | .succeeded => v.collect t
  | .failed => v.fail
  | .lateFailed => v.fail.uncollect t
  | .returned => v.uncollect t
  | .refunded cents => v.refund t cents

end ChargeView

/-- The view is that of the ledger, and its terms are those of the charge. -/
structure Tracks (l : Ledger) (id : PaymentId) (t : ChargeTerms) (due : Option Date)
    (v : ChargeView) : Prop where
  payment : ∃ p, l.payments.find id = some p ∧ p.amount = t.amount ∧ p.status = v.status ∧
    p.refundedAmount = v.refundedAmount
  amountPaid : l.invoice.amountPaid = v.amountPaid
  amountRefunded : l.invoice.amountRefunded = v.amountRefunded
  invoiceStatus : l.invoice.status = v.invoiceStatus
  total : l.invoice.total = t.total
  dueDate : l.invoice.dueDate = due
  alone : l.toAccount.otherLiveCharge id = false

section

variable {l : Ledger} {id : PaymentId} {t : ChargeTerms} {due : Option Date} {v : ChargeView}
  {clock : Clock}

theorem Tracks.charge (tracks : Tracks l id t due v) : l.charge id = some v := by
  obtain ⟨p, found, -, status, refunded⟩ := tracks.payment
  simp only [Ledger.charge, found, Option.map_some, status, refunded, tracks.amountPaid,
    tracks.amountRefunded, tracks.invoiceStatus]

theorem otherLiveCharge_modify (a : Account) (i : Invoice) (f : Payment → Payment) :
    Account.otherLiveCharge ⟨i, a.payments.modify id f⟩ id = a.otherLiveCharge id := by
  simp only [Account.otherLiveCharge, Table.modify, List.any_map]
  congr 1
  funext q
  by_cases h : q.1 = id <;> simp [h]

variable (tracks : Tracks l id t due v)
include tracks

theorem Tracks.modify {p : Payment} {f : Payment → Payment} {i : Invoice} {v' : ChargeView}
    {refunds : List InvoiceRefund} (found : l.payments.find id = some p) (amount : (f p).amount = p.amount)
    (status : (f p).status = v'.status) (refunded : (f p).refundedAmount = v'.refundedAmount)
    (amountPaid : i.amountPaid = v'.amountPaid) (amountRefunded : i.amountRefunded = v'.amountRefunded)
    (invoiceStatus : i.status = v'.invoiceStatus) (total : i.total = l.invoice.total)
    (dueDate : i.dueDate = l.invoice.dueDate) : Tracks ⟨⟨i, l.payments.modify id f⟩, refunds⟩ id t due v' := by
  obtain ⟨p', found', amount', -⟩ := tracks.payment
  obtain rfl : p = p' := Option.some.inj (found.symm.trans found')
  refine ⟨⟨f p, ?_, amount.trans amount', status, refunded⟩, amountPaid, amountRefunded,
    invoiceStatus, total.trans tracks.total, dueDate.trans tracks.dueDate, ?_⟩
  · rw [Table.find_modify_self, found]
    rfl
  · rw [otherLiveCharge_modify]
    exact tracks.alone

theorem tracks_collect (paidAt : Option Instant) :
    Tracks (l.onAccount (syncOneFromWebhook clock .succeeded paidAt id)) id t due (v.collect t) := by
  obtain ⟨p, found, amount, status, refunded⟩ := tracks.payment
  have alone := tracks.alone
  simp only [Ledger.onAccount, syncOneFromWebhook, found, ChargeView.collect, alone,
    Bool.and_false, if_true, Bool.false_eq_true, if_false]
  by_cases collected : v.status.collected
  · have settled : p.status.collected = true := status ▸ collected
    rw [if_pos (by simp [settled]), if_pos collected]
    exact tracks
  · have unsettled : ¬(p.status.collected || decide (p.status = .succeeded)) = true := by
      rw [status]
      intro h
      simp only [Bool.or_eq_true, decide_eq_true_eq] at h
      rcases h with h | h
      · exact collected h
      · exact collected (by rw [h]; rfl)
    rw [if_neg unsettled, if_neg collected]
    have covers : (l.invoice.amountPaid + p.amount ≥ l.invoice.total) =
        (v.amountPaid + t.amount ≥ t.total) := by
      rw [tracks.amountPaid, amount, tracks.total]
    refine tracks.modify found rfl rfl refunded ?_ ?_ ?_ ?_ ?_
    all_goals simp only [Invoice.collect, covers, tracks.invoiceStatus]
    · split <;> simp [tracks.amountPaid, amount]
    · split <;> simp [tracks.amountRefunded]
    · split <;> simp
    · split <;> rfl
    · split <;> rfl

theorem tracks_fail : Tracks (l.onAccount (syncOneFromWebhook clock .failed none id)) id t due v.fail := by
  obtain ⟨p, found, amount, status, refunded⟩ := tracks.payment
  have alone := tracks.alone
  simp only [Ledger.onAccount, syncOneFromWebhook, found, ChargeView.fail, alone, Bool.and_false,
    Bool.false_eq_true, if_false, reduceCtorEq]
  by_cases collected : v.status.collected
  · rw [if_pos (by simp [status, collected]), if_pos collected]
    exact tracks
  · rw [if_neg collected]
    split
    · rename_i same
      have failed : v.status = .failed := by simpa [status, collected] using same
      rw [← failed]
      exact tracks
    · exact tracks.modify found rfl rfl refunded tracks.amountPaid tracks.amountRefunded
        tracks.invoiceStatus rfl rfl

theorem tracks_uncollect (late : l.invoice.pastDue clock = t.late) :
    Tracks (l.onAccount (syncOneDispute clock id)) id t due (v.uncollect t) := by
  obtain ⟨p, found, amount, status, refunded⟩ := tracks.payment
  simp only [Ledger.onAccount, syncOneDispute, found, ChargeView.uncollect, status]
  by_cases standing : v.status = .succeeded
  · rw [if_neg (not_not.mpr standing), if_neg (not_not.mpr standing)]
    refine tracks.modify found rfl rfl refunded ?_ tracks.amountRefunded ?_ rfl rfl
    · simp only [Invoice.uncollect, tracks.amountPaid, amount]
    · simp only [Invoice.uncollect, Invoice.reopened, tracks.invoiceStatus, late]
  · rw [if_pos standing, if_pos standing]
    exact tracks

theorem tracks_refund (cents : ℤ) : Tracks (dispatch id (.refunded cents) clock l) id t due (v.refund t cents) := by
  obtain ⟨p, found, amount, status, refunded⟩ := tracks.payment
  simp only [dispatch, found, syncOneRefund, ChargeView.refund, amount, refunded]
  split
  · exact tracks
  · refine tracks.modify found rfl ?_ rfl tracks.amountPaid ?_ ?_ rfl rfl
    · simp only [Payment.refundedTo, amount]
    · simp only [Invoice.refundedTo, tracks.amountRefunded, tracks.total]
    · simp only [Invoice.refundedTo, tracks.amountRefunded, tracks.total]

theorem tracks_dispatch (event : GatewayEvent) (late : l.invoice.pastDue clock = t.late) :
    Tracks (dispatch id event clock l) id t due (v.dispatch t event) := by
  cases event with
  | succeeded => exact tracks_collect tracks _
  | failed => exact tracks_fail tracks
  | lateFailed =>
    have failed : Tracks (l.onAccount (syncOneFromWebhook clock .failed none id)) id t due v.fail :=
      tracks_fail tracks
    refine tracks_uncollect failed ?_
    rw [← late, Invoice.pastDue, Invoice.pastDue, failed.dueDate, tracks.dueDate]
  | returned => exact tracks_uncollect tracks late
  | refunded cents => exact tracks_refund tracks cents

end

/-! ### The view after a list of events -/

/-- What a list of events says of a charge: whether it was confirmed, whether it failed, the cents
refunded of it, and whether the last confirmation or return before the first refund is a
confirmation. Only the last depends on the order of the events. -/
structure EventHistory where
  confirmed : Bool
  failed : Bool
  refunded : ℤ
  standing : Bool

namespace EventHistory

def empty : EventHistory := ⟨false, false, 0, false⟩

/-- Takes a confirmation or a return into account, unless the charge was refunded before. -/
def settle (h : EventHistory) (standing : Bool) : Bool :=
  if 0 < h.refunded then h.standing else standing

def add (amount : ℤ) (h : EventHistory) : GatewayEvent → EventHistory
  | .succeeded => { h with confirmed := true, standing := h.settle true }
  | .failed => { h with failed := true }
  | .lateFailed => { h with failed := true, standing := h.settle false }
  | .returned => { h with standing := h.settle false }
  | .refunded cents => { h with refunded := max h.refunded (min cents amount) }

def of (amount : ℤ) (events : List GatewayEvent) : EventHistory := events.foldl (add amount) empty

/-- A charge is never refunded for less than nothing, and stands only once it was confirmed. -/
structure Proper (h : EventHistory) : Prop where
  refunded : 0 ≤ h.refunded
  confirmed : h.standing = true → h.confirmed = true

theorem Proper.add {amount : ℤ} {h : EventHistory} (proper : h.Proper) (event : GatewayEvent) :
    (h.add amount event).Proper := by
  have unsettled : ∀ standing, h.settle standing = true → standing = false → h.confirmed = true := by
    intro standing settled no
    rw [settle] at settled
    split at settled
    · exact proper.confirmed settled
    · simp [no] at settled
  cases event with
  | succeeded => exact ⟨proper.refunded, fun _ => rfl⟩
  | failed => exact ⟨proper.refunded, proper.confirmed⟩
  | lateFailed => exact ⟨proper.refunded, fun settled => unsettled _ settled rfl⟩
  | returned => exact ⟨proper.refunded, fun settled => unsettled _ settled rfl⟩
  | refunded cents => exact ⟨le_max_of_le_left proper.refunded, proper.confirmed⟩

end EventHistory

namespace EventHistory

variable {amount : ℤ}

theorem confirmed_foldl (events : List GatewayEvent) (h : EventHistory) :
    (events.foldl (add amount) h).confirmed = true ↔
      h.confirmed = true ∨ .succeeded ∈ events := by
  induction events generalizing h with
  | nil => simp
  | cons e rest ih =>
    rw [List.foldl_cons, ih]
    cases e <;> simp [add]

theorem failed_foldl (events : List GatewayEvent) (h : EventHistory) :
    (events.foldl (add amount) h).failed = true ↔
      h.failed = true ∨ .failed ∈ events ∨ .lateFailed ∈ events := by
  induction events generalizing h with
  | nil => simp
  | cons e rest ih =>
    rw [List.foldl_cons, ih]
    cases e <;> simp [add]

theorem refunded_foldl (events : List GatewayEvent) (h : EventHistory) (x : ℤ) :
    (events.foldl (add amount) h).refunded ≤ x ↔
      h.refunded ≤ x ∧ ∀ cents, .refunded cents ∈ events → min cents amount ≤ x := by
  induction events generalizing h with
  | nil => simp
  | cons e rest ih =>
    rw [List.foldl_cons, ih]
    cases e with
    | refunded cents =>
      simp only [add, max_le_iff, List.mem_cons, GatewayEvent.refunded.injEq]
      constructor
      · rintro ⟨⟨before, this⟩, later⟩
        refine ⟨before, fun c mem => ?_⟩
        rcases mem with rfl | mem
        · exact this
        · exact later c mem
      · rintro ⟨before, all⟩
        exact ⟨⟨before, all cents (.inl rfl)⟩, fun c mem => all c (.inr mem)⟩
    | succeeded | failed | lateFailed | returned => simp [add]

theorem of_congr {events events' : List GatewayEvent} (same : ∀ e, e ∈ events ↔ e ∈ events') :
    of amount events = { of amount events' with standing := (of amount events).standing } := by
  have confirmed : (of amount events).confirmed = (of amount events').confirmed := by
    rw [Bool.eq_iff_iff, of, of, confirmed_foldl, confirmed_foldl, same]
  have failed : (of amount events).failed = (of amount events').failed := by
    rw [Bool.eq_iff_iff, of, of, failed_foldl, failed_foldl, same, same]
  have refunded : (of amount events).refunded = (of amount events').refunded := by
    refine eq_of_forall_ge_iff fun x => ?_
    rw [of, of, refunded_foldl, refunded_foldl]
    simp only [same]
  dsimp only
  rw [← confirmed, ← failed, ← refunded]

end EventHistory

/-- A charge that its gateway has not resolved, of an invoice that is paid only when its amount is
covered. -/
structure ChargeStart (t : ChargeTerms) (v : ChargeView) : Prop where
  inFlight : v.status.inFlight = true
  unrefunded : v.refundedAmount = 0
  amount : 0 < t.amount
  amountPaid : 0 ≤ v.amountPaid
  paid : v.invoiceStatus = .paid → t.total ≤ v.amountPaid

namespace ChargeView

def settles (t : ChargeTerms) (v : ChargeView) : Bool :=
  v.invoiceStatus = .paid || (v.amountPaid + t.amount ≥ t.total && v.invoiceStatus.payable)

def settledStatus (t : ChargeTerms) (v : ChargeView) (h : EventHistory) : InvoiceStatus :=
  if h.standing then if v.settles t then .paid else v.invoiceStatus
  else if h.confirmed && v.settles t then if t.late then .overdue else .issued
  else v.invoiceStatus

/-- The view after a history that started at `v`. -/
def after (t : ChargeTerms) (v : ChargeView) (h : EventHistory) : ChargeView :=
  let amountPaid := v.amountPaid + if h.standing then t.amount else 0
  if 0 < h.refunded then
    let amountRefunded := min (v.amountRefunded + h.refunded) t.total
    { status := if h.refunded ≥ t.amount then .refunded else .partiallyRefunded
      refundedAmount := h.refunded
      amountPaid
      amountRefunded
      invoiceStatus := if amountRefunded ≥ t.total then .refunded else .partiallyRefunded }
  else
    { status :=
        if h.standing then .succeeded
        else if h.confirmed || h.failed then .failed
        else v.status
      refundedAmount := 0
      amountPaid
      amountRefunded := v.amountRefunded
      invoiceStatus := v.settledStatus t h }

variable {t : ChargeTerms} {v : ChargeView} {h : EventHistory}

theorem after_empty (start : ChargeStart t v) : v.after t .empty = v := by
  obtain ⟨status, refundedAmount, amountPaid, amountRefunded, invoiceStatus⟩ := v
  have := start.unrefunded
  simp_all [after, EventHistory.empty, settledStatus]

theorem after_collected_of_refunded (refunded : 0 < h.refunded) :
    (v.after t h).status.collected = true := by
  rw [after, if_pos refunded]
  dsimp only
  split <;> rfl

variable (start : ChargeStart t v)
include start

theorem after_standing (unrefunded : ¬0 < h.refunded) : (v.after t h).status.collected = h.standing := by
  have inFlight := start.inFlight
  rw [after, if_neg unrefunded]
  cases h.standing <;> simp only [if_true, Bool.false_eq_true, if_false]
  · split
    · rfl
    · revert inFlight
      cases v.status <;> decide
  · rfl

theorem settledStatus_collect (h : EventHistory) (lost : h.standing = false) :
    (if v.amountPaid + t.amount ≥ t.total && (v.settledStatus t h).payable then .paid
      else v.settledStatus t h) =
      if v.settles t then InvoiceStatus.paid else v.invoiceStatus := by
  have amount := start.amount
  have covers : v.settles t = true → t.total ≤ v.amountPaid + t.amount := by
    simp only [settles, Bool.or_eq_true, Bool.and_eq_true, decide_eq_true_eq]
    rintro (paid | ⟨covers, -⟩)
    · have := start.paid paid
      omega
    · exact covers
  rw [settledStatus, lost]
  cases settled : v.settles t with
  | true =>
    have : v.amountPaid + t.amount ≥ t.total := covers settled
    cases h.confirmed
    · simp only [settles, Bool.or_eq_true, Bool.and_eq_true, decide_eq_true_eq] at settled
      rcases settled with paid | ⟨-, payable⟩
      · simp [paid]
      · simp [payable, this]
    · cases t.late <;> simp [this, InvoiceStatus.payable]
  | false =>
    simp only [settles, Bool.or_eq_false_iff] at settled
    simp [settled.2]

theorem collect_after : (v.after t h).collect t = v.after t (h.add t.amount .succeeded) := by
  by_cases refunded : 0 < h.refunded
  · rw [collect, if_pos (after_collected_of_refunded refunded)]
    simp only [after, EventHistory.add, EventHistory.settle, if_pos refunded]
  · rw [collect, after_standing start refunded]
    cases standing : h.standing with
    | true => simp [after, EventHistory.add, EventHistory.settle, refunded, settledStatus, standing]
    | false =>
      have status := settledStatus_collect start h standing
      simp only [after, EventHistory.add, EventHistory.settle, if_neg refunded, standing,
        Bool.false_eq_true, if_false, add_zero, if_true, status]
      simp [settledStatus]

theorem fail_after : (v.after t h).fail = v.after t (h.add t.amount .failed) := by
  by_cases refunded : 0 < h.refunded
  · have kept : 0 < (h.add t.amount .failed).refunded := refunded
    rw [fail, if_pos (after_collected_of_refunded refunded), after, after, if_pos refunded,
      if_pos kept]
    rfl
  · rw [fail, after_standing start refunded]
    cases standing : h.standing <;>
      simp [after, EventHistory.add, refunded, settledStatus, standing]

theorem uncollect_after (proper : h.Proper) : (v.after t h).uncollect t = v.after t (h.add t.amount .returned) := by
  by_cases refunded : 0 < h.refunded
  · have : (v.after t h).status ≠ .succeeded := by
      rw [after, if_pos refunded]
      dsimp only
      split <;> simp
    rw [uncollect, if_pos this]
    simp only [after, EventHistory.add, EventHistory.settle, if_pos refunded]
  · cases standing : h.standing with
    | false =>
      have : (v.after t h).status ≠ .succeeded := by
        intro same
        have := after_standing start refunded
        rw [same, standing] at this
        cases this
      rw [uncollect, if_pos this]
      simp [after, EventHistory.add, EventHistory.settle, refunded, settledStatus, standing]
    | true =>
      have confirmed := proper.confirmed standing
      have amountPaid := start.amountPaid
      have unpaid : v.settles t = false → v.invoiceStatus ≠ .paid := by
        simp only [settles, Bool.or_eq_false_iff, decide_eq_false_iff_not]
        exact fun h => h.1
      cases settled : v.settles t <;>
        simp [uncollect, after, EventHistory.add, EventHistory.settle, refunded, settledStatus,
          standing, confirmed, settled, amountPaid, unpaid]

omit start

theorem refund_after (proper : h.Proper) (cents : ℤ) :
    (v.after t h).refund t cents = v.after t (h.add t.amount (.refunded cents)) := by
  have nonneg := proper.refunded
  have refundedAmount : (v.after t h).refundedAmount = h.refunded := by
    rw [after]
    split
    · rfl
    · dsimp only
      omega
  rw [refund, refundedAmount]
  dsimp only
  split
  · have : max h.refunded (min cents t.amount) = h.refunded := by omega
    simp only [EventHistory.add, this]
  · have increases : h.refunded < min cents t.amount := by omega
    have recorded : max h.refunded (min cents t.amount) = min cents t.amount := by omega
    have positive : 0 < min cents t.amount := by omega
    have amountPaid : (v.after t h).amountPaid =
        v.amountPaid + if h.standing then t.amount else 0 := by
      rw [after]
      split <;> rfl
    have amountRefunded : min ((v.after t h).amountRefunded + (min cents t.amount - h.refunded))
        t.total = min (v.amountRefunded + min cents t.amount) t.total := by
      rw [after]
      split <;> dsimp only <;> omega
    rw [amountPaid, amountRefunded]
    simp only [EventHistory.add, after, recorded, if_pos positive]

theorem dispatch_after (start : ChargeStart t v) (proper : h.Proper) (event : GatewayEvent) :
    (v.after t h).dispatch t event = v.after t (h.add t.amount event) := by
  cases event with
  | succeeded => exact collect_after start
  | failed => exact fail_after start
  | lateFailed =>
    rw [dispatch, fail_after start, uncollect_after start (proper.add .failed)]
    rfl
  | returned => exact uncollect_after start proper
  | refunded cents => exact refund_after proper cents

end ChargeView

/-! ### Deliveries -/

def eventsOf (deliveries : List Delivery) : List GatewayEvent := deliveries.map Delivery.event

/-- A charge that its gateway has not resolved, the only one of its invoice that is alive. -/
structure ChargeAwaited (l : Ledger) (id : PaymentId) (amount : ℤ) : Prop where
  payment : ∃ p, l.payments.find id = some p ∧ p.amount = amount ∧ p.status.inFlight = true ∧
    p.refundedAmount = 0
  amount : 0 < amount
  amountPaid : 0 ≤ l.invoice.amountPaid
  paid : l.invoice.status = .paid → l.invoice.total ≤ l.invoice.amountPaid
  alone : l.toAccount.otherLiveCharge id = false

/-- Two lists of deliveries of the same events: the gateway's own, where each event is once, and
those that arrive. -/
structure SameEvents (emitted arrived : List Delivery) : Prop where
  once : (emitted.map Delivery.id).Nodup
  arrives : ∀ e ∈ emitted, ∃ d ∈ arrived, d.id = e.id ∧ d.event = e.event
  emits : ∀ d ∈ arrived, ∃ e ∈ emitted, e.id = d.id ∧ e.event = d.event

section

variable {id : PaymentId} {t : ChargeTerms} {due : Option Date} {v : ChargeView}

theorem foldl_receive (deliveries : List Delivery) (s : Inbox) :
    (deliveries.foldl (Inbox.receive id) s).ledger =
      (firstDeliveries s.processed deliveries).foldl
        (fun l d => dispatch id d.event d.clock l) s.ledger := by
  induction deliveries generalizing s with
  | nil => rfl
  | cons d rest ih =>
    rw [List.foldl_cons, ih, firstDeliveries, Inbox.receive]
    split <;> rfl

variable {processed : List EventId} {deliveries : List Delivery}

theorem firstDeliveries_subset {d : Delivery} (mem : d ∈ firstDeliveries processed deliveries) : d ∈ deliveries := by
  induction deliveries generalizing processed with
  | nil => cases mem
  | cons e rest ih =>
    rw [firstDeliveries] at mem
    split at mem
    · exact List.mem_cons_of_mem _ (ih mem)
    · rcases List.mem_cons.mp mem with rfl | mem
      · exact List.mem_cons_self
      · exact List.mem_cons_of_mem _ (ih mem)

theorem exists_firstDelivery {d : Delivery} (mem : d ∈ deliveries) (new : d.id ∉ processed) :
    ∃ e ∈ firstDeliveries processed deliveries, e.id = d.id := by
  induction deliveries generalizing processed with
  | nil => cases mem
  | cons e rest ih =>
    rw [firstDeliveries]
    split
    · rename_i old
      rcases List.mem_cons.mp mem with rfl | mem
      · exact absurd old new
      · exact ih mem new
    · by_cases same : e.id = d.id
      · exact ⟨e, List.mem_cons_self, same⟩
      · rcases List.mem_cons.mp mem with rfl | mem
        · exact absurd rfl same
        · have later : d.id ∉ e.id :: processed := by
            simp only [List.mem_cons, not_or]
            exact ⟨Ne.symm same, new⟩
          obtain ⟨f, hf, eq⟩ := ih mem later
          exact ⟨f, List.mem_cons_of_mem _ hf, eq⟩

theorem firstDeliveries_nodup (nodup : (deliveries.map Delivery.id).Nodup) (new : ∀ d ∈ deliveries, d.id ∉ processed) :
    firstDeliveries processed deliveries = deliveries := by
  induction deliveries generalizing processed with
  | nil => rfl
  | cons e rest ih =>
    obtain ⟨fresh, nodup⟩ := List.nodup_cons.mp nodup
    rw [firstDeliveries, if_neg (new e List.mem_cons_self), ih nodup]
    intro d mem
    simp only [List.mem_cons, not_or]
    exact ⟨fun same => fresh (same ▸ List.mem_map_of_mem mem),
      new d (List.mem_cons_of_mem _ mem)⟩

theorem SameEvents.events {emitted arrived : List Delivery} (same : SameEvents emitted arrived)
    (event : GatewayEvent) :
    event ∈ eventsOf (firstDeliveries [] arrived) ↔ event ∈ eventsOf emitted := by
  simp only [eventsOf, List.mem_map]
  constructor
  · rintro ⟨d, mem, rfl⟩
    obtain ⟨e, he, -, eq⟩ := same.emits d (firstDeliveries_subset mem)
    exact ⟨e, he, eq⟩
  · rintro ⟨e, mem, rfl⟩
    obtain ⟨d, hd, eq, -⟩ := same.arrives e mem
    obtain ⟨f, hf, first⟩ := exists_firstDelivery hd (List.not_mem_nil (a := d.id))
    obtain ⟨e', he', eq', event'⟩ := same.emits f (firstDeliveries_subset hf)
    have : e' = e := List.inj_on_of_nodup_map same.once he' mem (eq'.trans (first.trans eq))
    exact ⟨f, hf, by rw [← event', this]⟩

theorem tracks_foldl (start : ChargeStart t v) (deliveries : List Delivery) {l : Ledger}
    {h : EventHistory} (proper : h.Proper) (tracks : Tracks l id t due (v.after t h))
    (late : ∀ d ∈ deliveries, l.invoice.pastDue d.clock = t.late) :
    Tracks (deliveries.foldl (fun l d => dispatch id d.event d.clock l) l) id t due
      (v.after t ((eventsOf deliveries).foldl (.add t.amount) h)) := by
  induction deliveries generalizing l h with
  | nil => exact tracks
  | cons d rest ih =>
    have next := tracks_dispatch tracks d.event (late d List.mem_cons_self)
    rw [ChargeView.dispatch_after start proper] at next
    refine ih (proper.add d.event) next fun e mem => ?_
    rw [← late e (List.mem_cons_of_mem _ mem), Invoice.pastDue, Invoice.pastDue, next.dueDate,
      tracks.dueDate]

theorem ChargeView.standing_of_after_eq {h : EventHistory} {standing : Bool}
    (start : ChargeStart t v) (same : v.after t { h with standing } = v.after t h) :
    standing = h.standing := by
  have amount := start.amount
  by_cases refunded : 0 < h.refunded
  · have paid := congrArg ChargeView.amountPaid same
    simp only [after, if_pos refunded] at paid
    cases standing <;> cases before : h.standing <;> simp only [before] at paid ⊢ <;> simp at paid
    · omega
    · omega
  · have kept : ¬0 < ({ h with standing } : EventHistory).refunded := refunded
    rw [← after_standing start refunded, ← same, after_standing start kept]

end

/-- The deliveries leave the state that the gateway's own order leaves exactly when, in both, the
last confirmation or return before the first refund is of the same kind. -/
theorem deliveries_agree_iff {l : Ledger} {id : PaymentId} {amount : ℤ} {late : Bool}
    {emitted arrived : List Delivery} (awaited : ChargeAwaited l id amount)
    (same : SameEvents emitted arrived)
    (due : ∀ d, d ∈ emitted ∨ d ∈ arrived → l.invoice.pastDue d.clock = late) :
    (deliverAll id l arrived).charge id = (deliverAll id l emitted).charge id ↔
      (EventHistory.of amount (eventsOf (firstDeliveries [] arrived))).standing =
        (EventHistory.of amount (eventsOf emitted)).standing := by
  obtain ⟨p, found, rfl, inFlight, unrefunded⟩ := awaited.payment
  let t : ChargeTerms := ⟨p.amount, l.invoice.total, late⟩
  let v : ChargeView :=
    ⟨p.status, p.refundedAmount, l.invoice.amountPaid, l.invoice.amountRefunded, l.invoice.status⟩
  have start : ChargeStart t v :=
    ⟨inFlight, unrefunded, awaited.amount, awaited.amountPaid, awaited.paid⟩
  have proper : EventHistory.empty.Proper := ⟨le_refl 0, fun h => nomatch h⟩
  have tracks : Tracks l id t l.invoice.dueDate (v.after t .empty) := by
    rw [ChargeView.after_empty start]
    exact ⟨⟨p, found, rfl, rfl, rfl⟩, rfl, rfl, rfl, rfl, rfl, awaited.alone⟩
  have ends : ∀ deliveries, (∀ d ∈ deliveries, l.invoice.pastDue d.clock = late) →
      (deliverAll id l deliveries).charge id =
        some (v.after t (.of p.amount (eventsOf (firstDeliveries [] deliveries)))) := by
    intro deliveries late
    rw [deliverAll, foldl_receive]
    exact (tracks_foldl start _ proper tracks fun d mem =>
      late d (firstDeliveries_subset mem)).charge
  rw [ends arrived fun d mem => due d (.inr mem), ends emitted fun d mem => due d (.inl mem),
    firstDeliveries_nodup same.once fun _ _ => List.not_mem_nil, Option.some.injEq,
    EventHistory.of_congr same.events]
  constructor
  · exact ChargeView.standing_of_after_eq start
  · intro standing
    rw [standing]

/-- The events of a charge that is confirmed, settled and returned, in the gateway's order. -/
def returnedCharge : List Delivery :=
  [⟨1, .succeeded, noon 20001⟩, ⟨2, .succeeded, noon 20003⟩, ⟨3, .returned, noon 20030⟩]

/-- An issued invoice of 40 € with a charge of 40 € in flight, due on day 20000. -/
def awaitedLedger : Ledger where
  invoice := { issuedInvoice 4000 with dueDate := some 20000 }
  payments := Table.empty.push (chargeInFlight 4000)
  refunds := []

theorem awaitedLedger_awaited : ChargeAwaited awaitedLedger 0 4000 where
  payment := ⟨chargeInFlight 4000, rfl, rfl, rfl, rfl⟩
  amount := by decide
  amountPaid := by decide
  paid := by decide
  alone := by decide

/-- The return arrives twice, and the settlement before the confirmation. -/
def returnedLast : List Delivery :=
  [⟨2, .succeeded, noon 20003⟩, ⟨1, .succeeded, noon 20003⟩, ⟨3, .returned, noon 20030⟩,
    ⟨3, .returned, noon 20031⟩]

theorem returnedLast_sameEvents : SameEvents returnedCharge returnedLast where
  once := by decide
  arrives := by simp [returnedCharge, returnedLast]
  emits := by simp [returnedCharge, returnedLast]

theorem deliveries_agree_returnedLast :
    (deliverAll 0 awaitedLedger returnedLast).charge 0 =
      (deliverAll 0 awaitedLedger returnedCharge).charge 0 := by
  have due : ∀ d, d ∈ returnedCharge ∨ d ∈ returnedLast →
      awaitedLedger.invoice.pastDue d.clock = true := by
    simp only [returnedCharge, returnedLast, List.mem_cons, List.not_mem_nil, or_false]
    rintro d ((rfl | rfl | rfl) | (rfl | rfl | rfl | rfl)) <;> decide
  exact (deliveries_agree_iff awaitedLedger_awaited returnedLast_sameEvents due).mpr (by decide)

/-- The settlement of a returned charge arrives last: the charge counts as collected again. -/
theorem deliveries_disagree :
    ¬∀ (l : Ledger) (id : PaymentId) (amount : ℤ) (late : Bool) (emitted arrived : List Delivery),
      ChargeAwaited l id amount → SameEvents emitted arrived →
      (∀ d, d ∈ emitted ∨ d ∈ arrived → l.invoice.pastDue d.clock = late) →
      (deliverAll id l arrived).charge id = (deliverAll id l emitted).charge id := by
  intro always
  have same : SameEvents returnedCharge
      [⟨1, .succeeded, noon 20001⟩, ⟨3, .returned, noon 20030⟩, ⟨2, .succeeded, noon 20031⟩] :=
    ⟨by decide, by simp [returnedCharge], by simp [returnedCharge]⟩
  have equal := always awaitedLedger 0 4000 true returnedCharge _ awaitedLedger_awaited same (by
    simp only [returnedCharge, List.mem_cons, List.not_mem_nil, or_false]
    rintro d ((rfl | rfl | rfl) | (rfl | rfl | rfl)) <;> decide)
  exact absurd equal (by decide +kernel)

end StorageOS
