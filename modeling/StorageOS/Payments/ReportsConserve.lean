import StorageOS.Payments.Reports

/-! The reports of consecutive periods add up to the money moved, as long as a payment is refunded in one period only
and is recorded and returned in the period it was collected in. -/

namespace StorageOS

open Transition

variable {r : MoneyReport} {start clock finish : Instant} {p : Payment} {l l' : Ledger}
  {action : LedgerAction} {id : PaymentId} {now : Clock}

/-! ### Sums -/

theorem total_sub (book : PaymentBook) (inScope : BookedInvoice → Bool) (w w' : Payment → ℤ) :
    book.total inScope w - book.total inScope w' = book.total inScope fun p => w p - w' p := by
  have split : ∀ t : Table PaymentId Payment, t.sum w = t.sum w' + t.sum fun p => w p - w' p := by
    intro t
    rw [← Table.sum_add]
    refine Table.sum_congr fun _ p _ => ?_
    ring
  rw [sub_eq_iff_eq_add', PaymentBook.total, PaymentBook.total, PaymentBook.total, ← Table.sum_add]
  refine Table.sum_congr fun _ b _ => ?_
  split_ifs
  · exact split b.ledger.payments
  · rfl

def MoneyReport.weight (r : MoneyReport) (span : Span) (p : Payment) : ℤ :=
  if r.counts p.methodType then
    p.incomeIn span - p.refundIn span - if r.returns then p.returnIn span else 0
  else 0

theorem net_eq_total (book : PaymentBook) (span : Span) :
    r.net book span = book.total (fun b => r.inScope b) (r.weight span) := by
  cases r with
  | cash facilityId method =>
    rw [MoneyReport.net, byMethod, refundsByMethod, total_sub]
    congr 1
    funext p
    by_cases own : p.methodType = method <;>
      simp [MoneyReport.weight, MoneyReport.counts, MoneyReport.returns, own]
  | owner ownerId =>
    rw [MoneyReport.net, ownerStatement]
    dsimp only
    rw [total_sub]
    congr 1
    funext p
    cases money : p.methodType.nonCash
    · simp [MoneyReport.weight, MoneyReport.counts, MoneyReport.returns, money]
      ring
    · simp [MoneyReport.weight, MoneyReport.counts, Payment.incomeIn, money]

/-! ### The period under way -/

def since (start : Instant) (moment : Option Instant) : Bool := moment.any (start ≤ ·)

def MoneyReport.pending (r : MoneyReport) (start : Instant) (p : Payment) : ℤ :=
  if r.counts p.methodType then
    (if p.status.collected && since start p.paidAt && !p.methodType.nonCash then p.amount else 0) -
    (if since start p.refundedAt && 0 < p.refundedAmount then p.refundedAmount else 0) -
    if r.returns && since start p.returnedAt && p.paidAt.any (· < start) then p.amount else 0
  else 0

/-- The dates of a payment are not to come, and one that counts as collected was not returned in the
period after it was collected in an earlier one. -/
structure DatedPayment (r : MoneyReport) (start clock : Instant) (p : Payment) : Prop where
  paid : ∀ x ∈ p.paidAt, x ≤ clock
  refunded : ∀ x ∈ p.refundedAt, x ≤ clock
  returned : ∀ x ∈ p.returnedAt, x ≤ clock
  amount : 0 ≤ p.refundedAmount
  standing : p.status.collected = true →
    (r.returns && since start p.returnedAt && p.paidAt.any (· < start)) = false

theorem holds_of_before (moment : Option Instant) (order : ∀ x ∈ moment, x ≤ clock)
    (later : clock < finish) : Span.holds ⟨start, finish⟩ moment = since start moment := by
  cases moment with
  | none => rfl
  | some x =>
    have before : x < finish := (order x rfl).trans_lt later
    simp [Span.holds, since, before]

theorem since_of_before (moment : Option Instant) (order : ∀ x ∈ moment, x ≤ clock)
    (later : clock < finish) : since finish moment = false := by
  cases moment with
  | none => rfl
  | some x =>
    have before : ¬finish ≤ x := ((order x rfl).trans_lt later).not_ge
    simp [since, before]

theorem DatedPayment.weight (dated : DatedPayment r start clock p) (later : clock < finish) :
    r.weight ⟨start, finish⟩ p = r.pending start p := by
  rw [MoneyReport.weight, MoneyReport.pending, Payment.incomeIn, Payment.refundIn, Payment.returnIn,
    holds_of_before _ dated.paid later, holds_of_before _ dated.refunded later,
    holds_of_before _ dated.returned later]
  cases r.returns <;> simp

theorem DatedPayment.close (dated : DatedPayment r start clock p) (later : clock < finish) :
    DatedPayment r finish finish p ∧ r.pending finish p = 0 := by
  have paid := since_of_before _ dated.paid later
  have refunded := since_of_before _ dated.refunded later
  have returned := since_of_before _ dated.returned later
  refine ⟨⟨fun x mem => (dated.paid x mem).trans later.le, fun x mem =>
    (dated.refunded x mem).trans later.le, fun x mem => (dated.returned x mem).trans later.le,
    dated.amount, fun _ => by simp [returned]⟩, ?_⟩
  simp [MoneyReport.pending, paid, refunded, returned]

theorem DatedPayment.later (dated : DatedPayment r start clock p) (order : clock ≤ finish) :
    DatedPayment r start finish p :=
  ⟨fun x mem => (dated.paid x mem).trans order, fun x mem => (dated.refunded x mem).trans order,
    fun x mem => (dated.returned x mem).trans order, dated.amount, dated.standing⟩

theorem dated_of_untouched (untouched : p.untouched = true) : DatedPayment r start clock p ∧
    r.pending start p = 0 := by
  simp only [Payment.untouched, Bool.and_eq_true, Bool.not_eq_true', Option.isNone_iff_eq_none,
    decide_eq_true_eq] at untouched
  obtain ⟨⟨⟨⟨open_, paid⟩, refunded⟩, returned⟩, amount⟩ := untouched
  refine ⟨⟨?_, ?_, ?_, amount.ge, ?_⟩, ?_⟩
  · simp [paid]
  · simp [refunded]
  · simp [returned]
  · simp [open_]
  · simp [MoneyReport.pending, open_, refunded, returned, since]

/-! ### Conditions -/

/-- A payment that is returned, or that is undone, was collected in the period; an owner's statement also
notes the return of one collected before. -/
def MoneyReport.losable (r : MoneyReport) (start : Instant) (noted : Bool) (p : Payment) : Bool :=
  !r.counts p.methodType || p.methodType.nonCash || since start p.paidAt ||
    (r.returns && noted && p.paidAt.isSome)

/-- A payment is refunded for the first time, or was last refunded in the period. -/
def MoneyReport.refundable (r : MoneyReport) (start : Instant) (p : Payment) : Bool :=
  !r.counts p.methodType || p.refundedAmount = 0 || since start p.refundedAt

/-- The condition on an operation in the period that starts at `start`. -/
def MoneyReport.inTime (r : MoneyReport) (start : Instant) (l : Ledger) : LedgerAction → Bool
  | .markPaidManually clock _ _ input => !r.counts input.methodType ||
    (start ≤ input.paidAt.getD clock.now && input.paidAt.getD clock.now ≤ clock.now)
  | .revertPayment _ input =>
    (revertedPayments input l.livePayments).all fun q => r.losable start (!input.undo) q.2
  | .gatewaySuccess clock paidAt id => (l.payments.find id).all fun p =>
    p.status.collected || !r.counts p.methodType ||
      (paidAt.any (fun x => start ≤ x && x ≤ clock.now) &&
        !(r.returns && since start p.returnedAt && p.paidAt.any (· < start)))
  | .gatewayDispute _ id => (l.payments.find id).all fun p =>
    p.status ≠ .succeeded || r.losable start true p
  | .gatewayRefund _ amountRefunded id => (l.payments.find id).all fun p =>
    amountRefunded ≤ p.refundedAmount || (p.status.collected && r.refundable start p)
  | .refund _ _ _ gatewayAccepts input =>
    match refundSource input gatewayAccepts l.toAccount with
    | .ok (some id, _) => (l.payments.find id).all (r.refundable start)
    | _ => false
  | .gatewayFailure .. | .compensateWithCredit .. | .applyWithholding .. => true

def MoneyReport.fits (r : MoneyReport) (s : ReportedBook) : BookAction → Bool
  | .ledger id action => (s.book.find id).all fun b =>
    !r.inScope b || r.inTime s.start b.ledger action
  | .issue _ | .charge .. | .close _ => true

/-! ### Payments -/

theorem collected_pending {p p' : Payment} (status : p'.status.collected = true)
    (method : p'.methodType = p.methodType) (amount : p'.amount = p.amount)
    (counted : r.counts p.methodType = true → since start p'.paidAt = true)
    (refunded : p'.refundedAt = none ∨ p'.refundedAmount = 0)
    (returned : r.counts p.methodType = true →
      (r.returns && since start p'.returnedAt && p'.paidAt.any (· < start)) = false) :
    r.pending start p' = r.money p := by
  have none_refunded : (since start p'.refundedAt && decide (0 < p'.refundedAmount)) = false := by
    rcases refunded with gone | zero
    · simp [gone, since]
    · simp [zero]
  rw [MoneyReport.pending, MoneyReport.money, method, amount, none_refunded, status]
  cases counts : r.counts p.methodType
  · simp
  · rw [counted counts, returned counts]
    simp

theorem pending_recollected {p p' : Payment} (open_ : p.status.collected = false)
    (status : p'.status.collected = true) (method : p'.methodType = p.methodType)
    (amount : p'.amount = p.amount) (refundedAt : p'.refundedAt = p.refundedAt)
    (refunded : p'.refundedAmount = p.refundedAmount) (returned : p'.returnedAt = p.returnedAt)
    (counted : r.counts p.methodType = true → since start p'.paidAt = true)
    (standing : r.counts p.methodType = true →
      (r.returns && since start p.returnedAt && p.paidAt.any (· < start)) = false) :
    r.pending start p' = r.pending start p + r.money p := by
  rw [MoneyReport.pending, MoneyReport.pending, MoneyReport.money, status, open_, method, amount,
    refundedAt, refunded, returned]
  cases counts : r.counts p.methodType
  · simp
  · have late : p'.paidAt.any (· < start) = false := by
      obtain ⟨x, found, from_⟩ := (Option.any_eq_true _ _).mp (counted counts)
      rw [found]
      simpa using from_
    rw [counted counts, standing counts, late, Bool.and_false]
    simp only [Bool.true_and, Bool.false_and, if_true, Bool.false_eq_true, if_false]
    ring

def Payment.lost (p : Payment) (returnedAt : Option Instant) : Payment :=
  { p with status := .failed, returnedAt }

variable {returnedAt : Option Instant} {cents : ℤ} {f : Payment → Payment} {a : Account}

theorem pending_lost {noted : Bool} (dated : r.counts p.methodType = true → DatedPayment r start clock p)
    (collected : p.status.collected = true) (losable : r.losable start noted p = true)
    (recorded : returnedAt = if noted then some now.now else p.returnedAt) (order : start ≤ now.now) :
    r.pending start (p.lost returnedAt) = r.pending start p - r.money p := by
  rw [MoneyReport.pending, MoneyReport.pending, MoneyReport.money, Payment.lost]
  cases counts : r.counts p.methodType
  · simp
  · have standing := (dated counts).standing collected
    have failed : PaymentStatus.collected .failed = false := rfl
    dsimp only
    rw [collected, failed, standing]
    have money : p.methodType.nonCash = true → r.returns = false := fun money => by
      cases r with
      | cash => rfl
      | owner => simp [MoneyReport.counts, money] at counts
    rw [MoneyReport.losable, counts] at losable
    simp only [Bool.not_true, Bool.false_or, Bool.or_eq_true, Bool.and_eq_true] at losable
    rcases losable with (nonCash | paid) | ⟨⟨returns, noted⟩, dates⟩
    · simp [nonCash, money nonCash]
    · have late : p.paidAt.any (· < start) = false := by
        obtain ⟨x, found, from_⟩ := (Option.any_eq_true _ _).mp paid
        rw [found]
        simpa using from_
      simp [paid, late]
    · obtain ⟨x, found⟩ := Option.isSome_iff_exists.mp dates
      have cash : p.methodType.nonCash = false := by
        rw [Bool.eq_false_iff]
        intro nonCash
        rw [money nonCash] at returns
        cases returns
      rw [recorded, if_pos noted, found, returns, cash]
      by_cases early : x < start
      · have late : ¬start ≤ x := early.not_ge
        simp [since, early, late, order]
      · have from_ : start ≤ x := not_lt.mp early
        simp [since, early, from_]

theorem pending_refundedTo (dated : r.counts p.methodType = true → DatedPayment r start clock p)
    (collected : p.status.collected = true) (refundable : r.refundable start p = true) (more : p.refundedAmount ≤ cents)
    (order : start ≤ now.now) :
    r.pending start (p.refundedTo now cents) =
      r.pending start p - if r.counts p.methodType then cents - p.refundedAmount else 0 := by
  have still : (p.refundedTo now cents).status.collected = true := by
    simp only [Payment.refundedTo]
    split <;> rfl
  have method : (p.refundedTo now cents).methodType = p.methodType := rfl
  have amount : (p.refundedTo now cents).amount = p.amount := rfl
  have paid : (p.refundedTo now cents).paidAt = p.paidAt := rfl
  have returned : (p.refundedTo now cents).returnedAt = p.returnedAt := rfl
  have refundedAt : (p.refundedTo now cents).refundedAt = some now.now := rfl
  have refunded : (p.refundedTo now cents).refundedAmount = cents := rfl
  generalize p.refundedTo now cents = q at still method amount paid returned refundedAt refunded ⊢
  rw [MoneyReport.pending, MoneyReport.pending, still, collected, method, amount, paid, returned,
    refundedAt, refunded]
  cases counts : r.counts p.methodType
  · simp
  · have nonneg := (dated counts).amount
    rw [(dated counts).standing collected]
    rw [MoneyReport.refundable, counts] at refundable
    simp only [Bool.not_true, Bool.false_or, Bool.or_eq_true, decide_eq_true_eq] at refundable
    have now_since : since start (some now.now) = true := by simpa [since] using order
    have after : (if decide (0 < cents) = true then cents else 0) = cents := by
      simp only [decide_eq_true_eq]
      split <;> omega
    have before : (if since start p.refundedAt && decide (0 < p.refundedAmount) then p.refundedAmount
        else 0) = p.refundedAmount := by
      rcases refundable with zero | recent
      · simp [zero]
      · rw [recent, Bool.true_and]
        simp only [decide_eq_true_eq]
        split <;> omega
    rw [before, now_since, Bool.true_and, Bool.true_and, after, if_pos rfl, if_pos rfl, if_pos rfl]
    ring

/-! ### Operations -/

def Ledger.Dated (r : MoneyReport) (start clock : Instant) (payments : Table PaymentId Payment) : Prop :=
  ∀ p ∈ payments.values, r.counts p.methodType = true → DatedPayment r start clock p

variable {payments : Table PaymentId Payment} {d : ℤ}

theorem Ledger.Dated.later {after : Instant} (dated : Ledger.Dated r start clock payments)
    (order : clock ≤ after) : Ledger.Dated r start after payments :=
  fun p mem counts => (dated p mem counts).later order

theorem Ledger.Dated.push (dated : Ledger.Dated r start clock payments)
    (row : r.counts p.methodType = true → DatedPayment r start clock p) :
    Ledger.Dated r start clock (payments.push p) := by
  intro q mem counts
  rw [Table.values_push, List.mem_append, List.mem_singleton] at mem
  rcases mem with mem | rfl
  · exact dated q mem counts
  · exact row counts

theorem Ledger.Dated.modify (dated : Ledger.Dated r start clock payments)
    (row : ∀ p, payments.find id = some p → r.counts (f p).methodType = true → DatedPayment r start clock (f p)) :
    Ledger.Dated r start clock (payments.modify id f) := by
  intro q mem counts
  obtain ⟨k, found⟩ := Table.find_of_mem_values mem
  rcases Table.find_modify_cases found with ⟨-, same⟩ | ⟨-, p, before, rfl⟩
  · exact dated q (Table.mem_values_of_find same) counts
  · exact row p before counts

theorem sum_modify_pending (found : payments.find id = some p) (row : r.pending start (f p) = r.pending start p + d) :
    (payments.modify id f).sum (r.pending start) = payments.sum (r.pending start) + d := by
  rw [Table.sum_modify found, row, add_sub_cancel_left]

theorem dated_lost (dated : DatedPayment r start clock p) (returned : ∀ x ∈ returnedAt, x ≤ clock) :
    DatedPayment r start clock (p.lost returnedAt) :=
  ⟨dated.paid, dated.refunded, returned, dated.amount, fun collected => by cases collected⟩

theorem dated_refundedTo (dated : DatedPayment r start clock p) (collected : p.status.collected = true)
    (nonneg : 0 ≤ cents) (order : now.now ≤ clock) :
    DatedPayment r start clock (p.refundedTo now cents) := by
  refine ⟨dated.paid, fun x mem => ?_, dated.returned, nonneg, fun _ => dated.standing collected⟩
  cases mem
  exact order

/-- What an operation keeps: the dates, and what is pending up to the money moved. -/
structure Ledger.Moves (r : MoneyReport) (start clock : Instant) (l l' : Ledger) (moved : ℤ) : Prop where
  dated : Ledger.Dated r start clock l'.payments
  sum : l'.payments.sum (r.pending start) = l.payments.sum (r.pending start) + moved

theorem Ledger.Moves.refl (dated : Ledger.Dated r start clock l.payments) :
    Ledger.Moves r start clock l l 0 := ⟨dated, (add_zero _).symm⟩

theorem moves_nonCash {invoice : Invoice} (dated : Ledger.Dated r start clock l.payments)
    (nonCash : p.methodType.nonCash = true)
    (paid : ∀ x ∈ p.paidAt, x ≤ clock) (refunded : p.refundedAt = none) (returned : p.returnedAt = none)
    (amount : p.refundedAmount = 0) :
    Ledger.Moves r start clock l { l with payments := l.payments.push p, invoice } 0 := by
  refine ⟨dated.push fun _ => ⟨paid, by simp [refunded], by simp [returned], amount.ge,
    fun _ => by simp [returned, since]⟩, ?_⟩
  have nothing : r.pending start p = 0 := by
    simp [MoneyReport.pending, nonCash, refunded, returned, since]
  rw [Table.sum_push, nothing]

variable (dated : Ledger.Dated r start now.now l.payments)
include dated

theorem moves_markPaidManually {rejectDuplicate : Bool} {remittance : Option String} {input : MarkPaidManuallyInput}
    (fits : r.inTime start l (.markPaidManually now rejectDuplicate remittance input) = true)
    (done : markPaidManually now rejectDuplicate remittance input l.toAccount = .ok a) :
    Ledger.Moves r start now.now l { l with toAccount := a }
      (r.moved l (.markPaidManually now rejectDuplicate remittance input)) := by
  obtain ⟨payment, invoice, collection, rfl⟩ := markPaidManually_ok done
  obtain rfl := collection.payment
  have inSpan : r.counts input.methodType = true →
      start ≤ input.paidAt.getD now.now ∧ input.paidAt.getD now.now ≤ now.now := fun counts => by
    rw [MoneyReport.inTime, counts] at fits
    simpa using fits
  refine ⟨dated.push fun counts => ⟨fun x mem => ?_, by simp [manualPayment], by simp [manualPayment],
    le_rfl, fun _ => by simp [manualPayment, since]⟩, ?_⟩
  · cases mem
    exact (inSpan counts).2
  · rw [Table.sum_push, collected_pending (p := manualPayment l.invoice.customerId (column input.amount)
      input.methodType now (input.paidAt.getD now.now)) rfl rfl rfl (fun counts => ?_) (.inl rfl)
      fun _ => by simp [manualPayment, since]]
    · rfl
    · simpa [manualPayment, since] using (inSpan counts).1

theorem moves_revertPayment {input : RevertPaymentInput} (order : start ≤ now.now)
    (fits : r.inTime start l (.revertPayment now input) = true) (done : revertPayment now input l.toAccount = .ok a) :
    Ledger.Moves r start now.now l { l with toAccount := a } (r.moved l (.revertPayment now input)) := by
  obtain ⟨-, rfl⟩ := revertPayment_ok done
  have chosen := revertedPayments_sublist input l.livePayments
  have perm := Table.filter_keys_perm ((chosen.map _).nodup (livePayments_distinct l.toAccount))
    fun p mem => (mem_livePayments (chosen.subset mem)).1
  have lost : ∀ q ∈ revertedPayments input l.livePayments,
      r.pending start (q.2.lost (if input.undo then q.2.returnedAt else some now.now)) -
        r.pending start q.2 = -r.money q.2 := fun q mem => by
    obtain ⟨row, succeeded⟩ := mem_livePayments (chosen.subset mem)
    have collected : q.2.status.collected = true := by
      rw [succeeded]
      rfl
    have losable : r.losable start (!input.undo) q.2 = true := List.all_eq_true.mp fits q mem
    rw [pending_lost (dated q.2 (List.mem_map.mpr ⟨q, row, rfl⟩)) collected losable
      (by cases input.undo <;> rfl) order]
    ring
  constructor
  · intro p mem counts
    obtain ⟨k, found⟩ := Table.find_of_mem_values mem
    rw [Table.find_updateMany] at found
    obtain ⟨p', before, rfl⟩ := Option.map_eq_some_iff.mp found
    have there := dated p' (Table.mem_values_of_find before)
    split
    · rename_i selected
      rw [if_pos selected] at counts
      refine dated_lost (there counts) fun x mem => ?_
      cases undone : input.undo
      · rw [undone] at mem
        cases mem
        exact le_rfl
      · rw [undone] at mem
        exact (there counts).returned x mem
    · rename_i other
      rw [if_neg other] at counts
      exact there counts
  · dsimp only
    rw [Table.sum_updateMany, (perm.map _).sum_eq, MoneyReport.moved, List.sum_neg, List.map_map]
    exact congrArg (_ + List.sum ·) (List.map_congr_left lost)

theorem moves_gatewayFailure :
    Ledger.Moves r start now.now l (l.onAccount (syncOneFromWebhook now .failed none id)) 0 := by
  rw [Ledger.onAccount, syncOneFromWebhook]
  cases found : l.payments.find id with
  | none => exact .refl dated
  | some p =>
    dsimp only
    split
    · exact .refl dated
    · rename_i open_
      split
      · exact .refl dated
      · rw [Bool.or_eq_true, not_or, Bool.not_eq_true] at open_
        have failed : PaymentStatus.collected .failed = false := rfl
        refine ⟨dated.modify fun p' there counts => ?_, sum_modify_pending found ?_⟩
        · have row := dated p' (Table.mem_values_of_find there) counts
          exact ⟨row.paid, row.refunded, row.returned, row.amount, fun collected => by cases collected⟩
        · rw [MoneyReport.pending, MoneyReport.pending, open_.1, add_zero]
          rfl

theorem moves_gatewaySuccess {id : PaymentId} {paidAt : Option Instant}
    (fits : r.inTime start l (.gatewaySuccess now paidAt id) = true) :
    Ledger.Moves r start now.now l (l.onAccount (syncOneFromWebhook now .succeeded paidAt id))
      (r.moved l (.gatewaySuccess now paidAt id)) := by
  rw [Ledger.onAccount, syncOneFromWebhook, MoneyReport.moved]
  rw [MoneyReport.inTime] at fits
  cases found : l.payments.find id with
  | none => exact .refl dated
  | some p =>
    rw [found, Option.all_some] at fits
    dsimp only [Option.elim_some]
    by_cases collected : p.status.collected = true
    · rw [collected, Bool.true_or, Bool.true_or, if_pos rfl, if_pos rfl]
      exact .refl dated
    · have open_ : p.status ≠ .succeeded := fun succeeded => collected (by rw [succeeded]; rfl)
      rw [Bool.not_eq_true] at collected
      rw [collected] at fits ⊢
      rw [decide_eq_false open_, Bool.or_false, Bool.false_or, if_neg Bool.false_ne_true]
      split
      · exact .refl dated
      · have inSpan : r.counts p.methodType = true →
            (∃ x, paidAt = some x ∧ start ≤ x ∧ x ≤ now.now) ∧
              (r.returns && since start p.returnedAt && p.paidAt.any (· < start)) = false :=
          fun counts => by
            rw [counts] at fits
            simp only [Bool.not_true, Bool.false_or, Bool.and_eq_true, Option.any_eq_true,
              decide_eq_true_eq, Bool.not_eq_true'] at fits
            exact fits
        have late : ∀ x, start ≤ x → Option.any (fun y => decide (y < start)) (some x) = false :=
          fun x from_ => decide_eq_false (not_lt.mpr from_)
        refine ⟨dated.modify fun p' there counts => ?_, sum_modify_pending found ?_⟩
        · rw [found] at there
          cases there
          obtain ⟨⟨x, rfl, from_, until_⟩, -⟩ := inSpan counts
          have row := dated p (Table.mem_values_of_find found) counts
          refine ⟨fun y mem => ?_, row.refunded, row.returned, row.amount, fun _ => ?_⟩
          · cases mem
            exact until_
          · dsimp only [Option.orElse_some]
            rw [late x from_, Bool.and_false]
        · refine pending_recollected collected rfl rfl rfl rfl rfl rfl (fun counts => ?_)
            fun counts => (inSpan counts).2
          obtain ⟨⟨x, rfl, from_, -⟩, -⟩ := inSpan counts
          exact decide_eq_true from_

theorem moves_gatewayDispute {id : PaymentId} (order : start ≤ now.now)
    (fits : r.inTime start l (.gatewayDispute now id) = true) :
    Ledger.Moves r start now.now l (l.onAccount (syncOneDispute now id))
      (r.moved l (.gatewayDispute now id)) := by
  rw [Ledger.onAccount, syncOneDispute, MoneyReport.moved]
  rw [MoneyReport.inTime] at fits
  cases found : l.payments.find id with
  | none => exact .refl dated
  | some p =>
    rw [found, Option.all_some] at fits
    dsimp only [Option.elim_some]
    by_cases succeeded : p.status = .succeeded
    · rw [if_neg (not_not.mpr succeeded), if_pos succeeded]
      have losable : r.losable start true p = true := by simpa [succeeded] using fits
      have collected : p.status.collected = true := by
        rw [succeeded]
        rfl
      refine ⟨dated.modify (f := fun p => p.lost (some now.now)) fun p' there counts => ?_,
        sum_modify_pending (f := fun p => p.lost (some now.now)) found ?_⟩
      · refine dated_lost (dated p' (Table.mem_values_of_find there) counts) fun x mem => ?_
        cases mem
        exact le_rfl
      · have recorded : some now.now = if true then some now.now else p.returnedAt := rfl
        rw [pending_lost (dated p (Table.mem_values_of_find found)) collected losable recorded order]
        ring
    · rw [if_pos succeeded, if_neg succeeded]
      exact .refl dated

theorem moves_gatewayRefund {id : PaymentId} {amountRefunded : ℤ} (order : start ≤ now.now)
    (fits : r.inTime start l (.gatewayRefund now amountRefunded id) = true) :
    Ledger.Moves r start now.now l (syncOneRefund now amountRefunded id l)
      (r.moved l (.gatewayRefund now amountRefunded id)) := by
  rw [syncOneRefund, MoneyReport.moved]
  rw [MoneyReport.inTime] at fits
  cases found : l.payments.find id with
  | none => exact .refl dated
  | some p =>
    rw [found, Option.all_some] at fits
    dsimp only [Option.elim_some]
    by_cases recorded : amountRefunded - p.refundedAmount ≤ 0
    · rw [if_pos recorded, max_eq_left recorded, neg_zero, ite_self]
      exact .refl dated
    · rw [if_neg recorded, max_eq_right (not_le.mp recorded).le]
      have more : p.refundedAmount < amountRefunded := by omega
      rw [decide_eq_false (not_le.mpr more), Bool.false_or, Bool.and_eq_true] at fits
      refine ⟨dated.modify (f := fun p => p.refundedTo now amountRefunded) fun p' there counts => ?_,
        sum_modify_pending (f := fun p => p.refundedTo now amountRefunded) found ?_⟩
      · rw [found] at there
        cases there
        have row := dated p (Table.mem_values_of_find found) counts
        exact dated_refundedTo row fits.1 (row.amount.trans more.le) le_rfl
      · rw [pending_refundedTo (dated p (Table.mem_values_of_find found)) fits.1 fits.2 more.le order]
        split <;> ring

theorem moves_refund {allowDepositReceipt rejectDuplicate gatewayAccepts : Bool} {input : RefundInvoiceInput}
    (order : start ≤ now.now)
    (fits : r.inTime start l (.refund now allowDepositReceipt rejectDuplicate gatewayAccepts input) = true)
    (done : refund now allowDepositReceipt rejectDuplicate gatewayAccepts input l = .ok l') :
    Ledger.Moves r start now.now l l'
      (r.moved l (.refund now allowDepositReceipt rejectDuplicate gatewayAccepts input)) := by
  obtain ⟨paymentId, via, refunded⟩ := refund_ok done
  rw [MoneyReport.moved, refunded.source]
  rw [MoneyReport.inTime, refunded.source] at fits
  cases paymentId with
  | none => cases fits
  | some id =>
    obtain ⟨p, found, source⟩ := refundSource_ok refunded.source
    have collected := PaymentStatus.collected_of_refundable source
    have cents := toCents_nonneg input.positive.le
    dsimp only at fits ⊢
    rw [found, Option.all_some] at fits
    rw [found, Option.elim_some]
    refine ⟨?_, ?_⟩
    · rw [refunded.payments]
      refine dated.modify (f := fun p => p.refundedTo now (p.refundedAmount + toCents input.amount))
        fun p' there counts => ?_
      rw [found] at there
      cases there
      have row := dated p (Table.mem_values_of_find found) counts
      exact dated_refundedTo row collected (add_nonneg row.amount cents) le_rfl
    · rw [refunded.payments]
      refine sum_modify_pending
        (f := fun p => p.refundedTo now (p.refundedAmount + toCents input.amount)) found ?_
      rw [pending_refundedTo (dated p (Table.mem_values_of_find found)) collected fits
        (le_add_of_nonneg_right cents) order]
      split <;> ring

theorem moves_compensateWithCredit {creditCents : ℤ} :
    Ledger.Moves r start now.now l (l.onAccount (compensateWithCredit now creditCents)) 0 := by
  rw [Ledger.onAccount, compensateWithCredit]
  dsimp only
  split
  · exact .refl dated
  · refine moves_nonCash dated rfl (fun x mem => ?_) rfl rfl rfl
    cases mem
    exact le_rfl

theorem moves_applyWithholding {reg : Registry} :
    Ledger.Moves r start now.now l (l.onAccount (applyWithholding reg now)) 0 := by
  rw [Ledger.onAccount, applyWithholding]
  dsimp only
  split
  · exact .refl dated
  · split
    · exact .refl dated
    · split
      · exact .refl dated
      · split
        · exact .refl dated
        · refine moves_nonCash dated rfl (fun x mem => ?_) rfl rfl rfl
          cases mem
          exact le_rfl

omit dated

theorem ledgerStep_moves (dated : Ledger.Dated r start clock l.payments) (started : start ≤ clock)
    (order : clock ≤ action.clock.now) (fits : r.inTime start l action = true)
    (done : ledgerStep l action = some l') :
    Ledger.Moves r start action.clock.now l l' (r.moved l action) := by
  have later := dated.later order
  have from_ := started.trans order
  cases action with
  | markPaidManually =>
    obtain ⟨a, marked, rfl⟩ := Option.map_eq_some_iff.mp done
    exact moves_markPaidManually later fits (Outcome.ok_of_toOption marked)
  | revertPayment =>
    obtain ⟨a, reverted, rfl⟩ := Option.map_eq_some_iff.mp done
    exact moves_revertPayment later from_ fits (Outcome.ok_of_toOption reverted)
  | gatewaySuccess =>
    cases done
    exact moves_gatewaySuccess later fits
  | gatewayFailure =>
    cases done
    exact moves_gatewayFailure later
  | gatewayDispute =>
    cases done
    exact moves_gatewayDispute later from_ fits
  | gatewayRefund =>
    cases done
    exact moves_gatewayRefund later from_ fits
  | refund => exact moves_refund later from_ fits (Outcome.ok_of_toOption done)
  | compensateWithCredit =>
    cases done
    exact moves_compensateWithCredit later
  | applyWithholding =>
    cases done
    exact moves_applyWithholding later

end StorageOS
