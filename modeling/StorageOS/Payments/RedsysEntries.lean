import StorageOS.Payments.Redsys
import StorageOS.Payments.Ledger

/-! What the payments of the documents come to: the amount of each, the charge it is of and whether
it is collected. A transaction of an order leaves these entries as they are, collects one, or adds
one. -/

namespace StorageOS

open Processes

structure Entry where
  amount : ℤ
  gateway : PaymentGateway
  order : Option String
  collected : Bool

/-- The payments of each document, with its tenant. -/
abbrev Entries := Table InvoiceId (TenantId × Table PaymentId Entry)

def Payment.entry (p : Payment) : Entry :=
  ⟨p.amount, p.gateway, p.gatewayPaymentId, p.status.collected⟩

def Account.entries (a : Account) : TenantId × Table PaymentId Entry :=
  (a.invoice.tenantId, a.payments.view Payment.entry)

def Documents.entries (docs : Documents) : Entries := docs.view Account.entries

def Entry.collectedAmount (x : Entry) : ℤ := if x.collected then x.amount else 0

namespace Entries

variable (e : Entries)

def collected : ℤ := e.sum fun d => d.2.sum Entry.collectedAmount

def entry (id : InvoiceId) (paymentId : PaymentId) : Option Entry :=
  (e.find id).bind fun d => d.2.find paymentId

def collect (id : InvoiceId) (paymentId : PaymentId) : Entries :=
  e.modify id fun d => (d.1, d.2.modify paymentId fun x => { x with collected := true })

def add (id : InvoiceId) (x : Entry) : Entries := e.modify id fun d => (d.1, d.2.push x)

def ofOrder (tenantId : TenantId) (order : String) : ℤ :=
  e.sum fun d => if d.1 = tenantId then
    d.2.sum fun x => if x.order = some order then x.amount else 0 else 0

variable {e}

variable {id : InvoiceId} {paymentId : PaymentId} {x : Entry}

theorem entry_some :
    e.entry id paymentId = some x ↔ ∃ d, e.find id = some d ∧ d.2.find paymentId = some x := by
  simp [entry, Option.bind_eq_some_iff]

theorem collected_collect (found : e.entry id paymentId = some x) (waits : x.collected = false) :
    (e.collect id paymentId).collected = e.collected + x.amount := by
  obtain ⟨d, document, payment⟩ := entry_some.mp found
  rw [collect, collected, Table.sum_modify document, Table.sum_modify payment]
  simp [collected, Entry.collectedAmount, waits]

theorem collected_add {d : TenantId × Table PaymentId Entry} (found : e.find id = some d) :
    (e.add id x).collected = e.collected + x.collectedAmount := by
  rw [add, collected, Table.sum_modify found, Table.sum_push]
  simp [collected]

theorem entry_collect_other {id j : InvoiceId} {paymentId k : PaymentId}
    (other : (j, k) ≠ (id, paymentId)) :
    (e.collect id paymentId).entry j k = e.entry j k := by
  rw [entry, collect, Table.find_modify, entry]
  split
  · rename_i same
    subst same
    cases found : e.find j with
    | none => rfl
    | some d =>
      have apart : k ≠ paymentId := fun h => other (by rw [h])
      simp [Table.find_modify_ne _ apart]
  · rfl

theorem entry_collect_self (found : e.entry id paymentId = some x) :
    (e.collect id paymentId).entry id paymentId = some { x with collected := true } := by
  obtain ⟨d, document, payment⟩ := entry_some.mp found
  rw [entry, collect, Table.find_modify_self, document]
  simp [payment]

theorem entry_add {id j : InvoiceId} {k : PaymentId} {x y : Entry}
    (found : e.entry j k = some y) : (e.add id x).entry j k = some y := by
  obtain ⟨d, document, payment⟩ := entry_some.mp found
  rw [entry, add, Table.find_modify, document]
  split
  · simpa using Table.find_push_of_some payment x
  · simpa using payment

end Entries

theorem entries_collected (docs : Documents) :
    docs.entries.collected = docs.sum Account.collected := by
  rw [Entries.collected, Documents.entries, Table.sum_view]
  congr 1
  funext a
  simp only [Function.comp_apply, Account.entries, Table.sum_view, Account.collected]
  rfl

variable {docs : Documents} {a : Account} {clock : Clock} {result : ChargeResult} {r : ReservedPayment}
  {gatewayPaymentId : Option String} {id : InvoiceId} {paymentId : PaymentId}

theorem entry_documents :
    docs.entries.entry id paymentId =
      ((docs.find id).bind fun a => a.payments.find paymentId).map Payment.entry := by
  rw [Entries.entry, Documents.entries, Table.find_view]
  cases docs.find id with
  | none => rfl
  | some a => simp [Account.entries, Table.find_view]

/-! ### The transactions of an order -/

theorem entry_eq {p q : Payment} (waits : p.status.collected = false)
    (waits' : q.status.collected = false) (amount : q.amount = p.amount)
    (gateway : q.gateway = p.gateway) (order : q.gatewayPaymentId = p.gatewayPaymentId) :
    q.entry = p.entry := by
  rw [Payment.entry, Payment.entry, waits, waits', amount, gateway, order]

theorem entries_syncFailed (a : Account) (clock : Clock) (paidAt : Option Instant)
    (paymentId : PaymentId) :
    (syncOneFromWebhook clock .failed paidAt paymentId a).entries = a.entries := by
  rw [syncOneFromWebhook]
  cases found : a.payments.find paymentId with
  | none => rfl
  | some p =>
    simp only
    split
    · rfl
    split
    · rfl
    rename_i settled _
    have waits : p.status.collected = false := by
      simp only [Bool.or_eq_true, not_or] at settled
      simpa using settled.1
    refine Prod.ext rfl (Table.view_modify_same fun q stored => ?_)
    cases found.symm.trans stored
    exact entry_eq waits rfl rfl rfl rfl

variable {p : Payment} {f : Account → Account} {order : String} {payments : List ReservedPayment}

theorem entries_syncSucceeded (clock : Clock) (paidAt : Option Instant) (found : a.payments.find paymentId = some p)
    (waits : p.status.collected = false) (gateway : p.gateway = .redsys) :
    (syncOneFromWebhook clock .succeeded paidAt paymentId a).entries =
      (a.entries.1, a.entries.2.modify paymentId fun x => { x with collected := true }) := by
  have unpaid : p.status ≠ .succeeded := by
    intro h
    simp [h, PaymentStatus.collected] at waits
  rw [syncOneFromWebhook]
  simp only [found, waits, unpaid, Bool.false_or, decide_false, Bool.false_eq_true, if_false,
    Payment.liveCharge, gateway, reduceCtorEq, Bool.false_and, if_true]
  refine Prod.ext ?_ ?_
  · simp only [Account.entries, Invoice.collect]
    split <;> rfl
  · simp only [Account.entries]
    exact Table.view_modify fun q _ => rfl

theorem entries_failAwaiting (db : RedsysDb) : db.failAwaiting.docs.entries = db.docs.entries := by
  simp only [RedsysDb.failAwaiting, Documents.entries, Table.view_view]
  congr 1
  funext a
  simp only [Function.comp_apply]
  split
  · refine Prod.ext rfl (Table.ext ?_)
    simp only [Account.entries, Table.view, Table.updateMany, List.map_map]
    refine List.map_congr_left fun q _ => ?_
    simp only [Function.comp_apply]
    split
    · rename_i awaits
      simp only [Payment.awaits, Bool.and_eq_true, PaymentStatus.inFlight, Bool.or_eq_true,
        decide_eq_true_eq] at awaits
      have waits : q.2.status.collected = false := by
        rcases awaits.2 with h | h <;> simp [h, PaymentStatus.collected]
      exact congrArg (Prod.mk q.1) (entry_eq waits rfl rfl rfl rfl)
    · rfl
  · rfl

theorem entries_modify {g : TenantId × Table PaymentId Entry → TenantId × Table PaymentId Entry}
    (same : ∀ a, docs.find id = some a → (f a).entries = g a.entries) :
    Documents.entries (docs.modify id f) = docs.entries.modify id g :=
  Table.view_modify same

theorem entries_modify_same (same : ∀ a, docs.find id = some a → (f a).entries = a.entries) :
    Documents.entries (docs.modify id f) = docs.entries :=
  Table.view_modify_same same

structure Entries.Waits (e : Entries) (id : InvoiceId) (paymentId : PaymentId) (x : Entry) :
    Prop where
  found : e.entry id paymentId = some x
  waits : x.collected = false
  gateway : x.gateway = .redsys
  nonneg : 0 ≤ x.amount

theorem sync_collects {x : Entry} (waits : docs.entries.Waits id paymentId x) (clock : Clock)
    (paidAt : Option Instant) :
    Documents.entries (docs.modify id (syncOneFromWebhook clock .succeeded paidAt paymentId)) =
      docs.entries.collect id paymentId := by
  have found := waits.found
  rw [entry_documents, Option.map_eq_some_iff] at found
  obtain ⟨p, payment, rfl⟩ := found
  refine entries_modify fun a stored => ?_
  rw [stored, Option.bind_some] at payment
  exact entries_syncSucceeded clock paidAt payment waits.waits waits.gateway

theorem entries_markPaidManually {rejectDuplicate : Bool} {remittance : Option String} {input : MarkPaidManuallyInput}
    {a b : Account} (collected : markPaidManually clock rejectDuplicate remittance input a = .ok b) :
    b.entries = (a.entries.1, a.entries.2.push ⟨column input.amount, .manual, none, true⟩) := by
  simp only [markPaidManually] at collected
  obtain ⟨⟨payment, invoice⟩, made, collected⟩ := Outcome.bind_ok collected
  cases collected
  obtain rfl := (manualCollection_ok made).payment
  refine Prod.ext ?_ (Table.view_push _ _ _)
  simp only [manualCollection] at made
  obtain ⟨_, -, made⟩ := Outcome.bind_ok made
  obtain ⟨_, -, made⟩ := Outcome.bind_ok made
  replace made := Outcome.passed (Outcome.passed (Outcome.passed (Outcome.passed (Outcome.passed made))))
  cases made
  simp only [Account.entries]
  split <;> rfl

theorem markPart_adds {db db' : RedsysDb} {cents : ℤ} (marked : db.markPart clock id cents = some db') :
    db'.order = db.order ∧ db'.reviews = db.reviews ∧ db'.approved = db.approved ∧
    db'.docs.entries = db.docs.entries.add id ⟨cents, .manual, none, true⟩ ∧
    (db.docs.entries.find id).isSome := by
  rw [RedsysDb.markPart] at marked
  split at marked
  · rename_i positive
    simp only [Option.bind_eq_bind, Option.bind_eq_some_iff, Option.pure_def, Option.some.injEq]
      at marked
    obtain ⟨a, found, b, collected, rfl⟩ := marked
    obtain ⟨stored, -⟩ := Option.filter_eq_some_iff.mp found
    refine ⟨rfl, rfl, rfl, entries_modify fun a' stored' => ?_, ?_⟩
    · cases stored.symm.trans stored'
      rw [entries_markPaidManually (Outcome.ok_of_toOption collected), redsysCollection,
        column_euros]
    · rw [Documents.entries, Table.find_view, stored]
      rfl
  · cases marked

/-! ### The answer to a charge -/

def Documents.payment (docs : Documents) (id : InvoiceId) (paymentId : PaymentId) : Option Payment :=
  (docs.find id).bind fun a => a.payments.find paymentId

def Entries.Sent (e : Entries) (order : String) (payments : List ReservedPayment) : Prop :=
  ∀ r ∈ payments, ∃ x, e.entry r.invoiceId r.paymentId = some x ∧ x.order = some order

theorem entries_settle_same (out : result ≠ .succeeded)
    (sent : ∀ p, a.payments.find r.paymentId = some p → p.gatewayPaymentId = some order) :
    (settlePayment clock result (some order) r a).entries = a.entries := by
  have status : result.status.collected = false ∧ result.status ≠ .succeeded := by
    cases result <;> simp [ChargeResult.status, PaymentStatus.collected] at out ⊢
  rw [settlePayment]
  cases found : a.payments.find r.paymentId with
  | none => rfl
  | some p =>
    simp only
    split
    · rfl
    · rename_i processing
      simp only [status.2, if_false]
      refine Prod.ext rfl (Table.view_modify_same fun q stored => ?_)
      cases found.symm.trans stored
      refine entry_eq ?_ status.1 rfl rfl (sent p found).symm
      rw [not_not.mp processing]
      rfl

theorem entries_answered_same (out : result ≠ .succeeded) (sent : docs.entries.Sent order payments) :
    (onPayments (settlePayment clock result (some order)) payments docs).entries = docs.entries := by
  induction payments generalizing docs with
  | nil => rfl
  | cons r rest ih =>
    obtain ⟨x, found, own⟩ := sent r List.mem_cons_self
    have same : Documents.entries
        (docs.modify r.invoiceId (settlePayment clock result (some order) r)) = docs.entries := by
      refine entries_modify_same fun a stored => entries_settle_same out fun p payment => ?_
      rw [entry_documents, stored, Option.bind_some, payment] at found
      cases found
      exact own
    rw [onPayments, List.foldl_cons, ← onPayments, ih, same]
    rw [same]
    exact fun r' mem => sent r' (List.mem_cons_of_mem _ mem)

structure ChargeReady (docs : Documents) (payments : List ReservedPayment) : Prop where
  apart : (payments.map fun r => (r.invoiceId, r.paymentId)).Nodup
  processing : ∀ r ∈ payments, ∃ p, docs.payment r.invoiceId r.paymentId = some p ∧
    p.status = .processing ∧ p.amount = column r.amount

theorem collected_settle (found : a.payments.find r.paymentId = some p) (processing : p.status = .processing) :
    (settlePayment clock .succeeded gatewayPaymentId r a).collected = a.collected + p.amount := by
  simp only [settlePayment, found, processing, ne_eq, not_true, if_false]
  rw [Account.collected, Table.sum_modify found]
  simp [Payment.collectedAmount, Payment.answered, ChargeResult.status, PaymentStatus.collected,
    processing, Account.collected]

theorem payment_settle_other (other : (id, paymentId) ≠ (r.invoiceId, r.paymentId)) :
    Documents.payment (docs.modify r.invoiceId (settlePayment clock result gatewayPaymentId r)) id
      paymentId = docs.payment id paymentId := by
  rw [Documents.payment, Documents.payment, Table.find_modify]
  split
  · rename_i same
    subst same
    have apart : paymentId ≠ r.paymentId := fun h => other (by rw [h])
    cases docs.find r.invoiceId with
    | none => rfl
    | some a =>
      rw [Option.map_some, Option.bind_some, Option.bind_some, settlePayment]
      split
      · rfl
      split
      · rfl
      · exact Table.find_modify_ne _ apart _
  · rfl

theorem collected_answered (ready : ChargeReady docs payments) :
    (onPayments (settlePayment clock .succeeded gatewayPaymentId) payments docs).sum
      Account.collected =
      docs.sum Account.collected + (payments.map fun r => column r.amount).sum := by
  induction payments generalizing docs with
  | nil => simp [onPayments]
  | cons r rest ih =>
    obtain ⟨fresh, apart⟩ := List.nodup_cons.mp ready.apart
    obtain ⟨p, found, processing, amount⟩ := ready.processing r List.mem_cons_self
    rw [Documents.payment, Option.bind_eq_some_iff] at found
    obtain ⟨a, stored, payment⟩ := found
    have ready' : ChargeReady
        (docs.modify r.invoiceId (settlePayment clock .succeeded gatewayPaymentId r)) rest := by
      refine ⟨apart, fun r' mem => ?_⟩
      have other : (r'.invoiceId, r'.paymentId) ≠ (r.invoiceId, r.paymentId) :=
        fun same => fresh (List.mem_map.mpr ⟨r', mem, same⟩)
      rw [payment_settle_other other]
      exact ready.processing r' (List.mem_cons_of_mem _ mem)
    rw [onPayments, List.foldl_cons, ← onPayments, ih ready', Table.sum_modify stored,
      collected_settle payment processing, List.map_cons, List.sum_cons, amount]
    ring

/-! ### The payments of an order -/

def Entries.OfOrder (e : Entries) (tenantId : TenantId) (order : String) (id : InvoiceId)
    (paymentId : PaymentId) (x : Entry) : Prop :=
  (∃ d, e.find id = some d ∧ d.1 = tenantId ∧ d.2.find paymentId = some x) ∧ x.order = some order

/-- The payments of the charge wait, and come to its amount where there are any. -/
structure Entries.Fresh (e : Entries) (order : RedsysOrder) : Prop where
  waits : ∀ id paymentId x, e.OfOrder order.tenantId order.order id paymentId x →
    e.Waits id paymentId x
  total : ∀ id paymentId x, e.OfOrder order.tenantId order.order id paymentId x →
    e.ofOrder order.tenantId order.order = order.amountCents

section

variable {db : RedsysDb}

theorem mem_group {q : InvoiceId × PaymentId × Payment} (mem : q ∈ db.group) :
    db.docs.entries.OfOrder db.order.tenantId db.order.order q.1 q.2.1 q.2.2.entry := by
  rw [RedsysDb.group, List.mem_insertionSort] at mem
  simp only [List.mem_flatMap, List.mem_filter, List.mem_map, decide_eq_true_eq] at mem
  obtain ⟨d, ⟨stored, tenant⟩, payment, ⟨row, own⟩, rfl⟩ := mem
  refine ⟨⟨d.2.entries, ?_, tenant, ?_⟩, own⟩
  · rw [Documents.entries, Table.find_view, Table.find_eq_some.mpr stored, Option.map_some]
  · simp only [Account.entries, Table.find_view, Table.find_eq_some.mpr row, Option.map_some]

theorem group_apart (db : RedsysDb) : (db.group.map fun q => (q.1, q.2.1)).Nodup := by
  rw [RedsysDb.group, ((List.perm_insertionSort _ _).map _).nodup_iff, List.map_flatMap,
    List.nodup_flatMap]
  constructor
  · intro d _
    rw [List.map_map]
    have keys : ((d.2.payments.rows.filter fun q =>
        q.2.gatewayPaymentId = some db.order.order).map Prod.fst).Nodup :=
      d.2.payments.distinct.sublist (List.filter_sublist.map _)
    have pairs := keys.map (f := fun k => (d.1, k)) fun k k' same => (Prod.mk.inj same).2
    rwa [List.map_map] at pairs
  · have keys : (db.docs.rows.filter fun d =>
        d.2.invoice.tenantId = db.order.tenantId).Pairwise fun d d' => d.1 ≠ d'.1 :=
      (List.pairwise_map.mp db.docs.distinct).sublist List.filter_sublist
    refine keys.imp fun {d d'} other => ?_
    simp only [Function.onFun, List.disjoint_left, List.mem_map]
    rintro _ ⟨_, ⟨q, -, rfl⟩, rfl⟩ ⟨_, ⟨q', -, rfl⟩, same⟩
    exact other (Prod.mk.inj same).1.symm

theorem group_sum (db : RedsysDb) : (db.group.map fun q => q.2.2.amount).sum =
    db.docs.entries.ofOrder db.order.tenantId db.order.order := by
  rw [RedsysDb.group, ((List.perm_insertionSort _ _).map _).sum_eq, Entries.ofOrder,
    Documents.entries, Table.sum_view, Table.sum, Table.values, List.map_map]
  induction db.docs.rows with
  | nil => rfl
  | cons d rest ih =>
    have own : ((d.2.payments.rows.filter fun q =>
        q.2.gatewayPaymentId = some db.order.order).map fun q => q.2.amount).sum =
        d.2.entries.2.sum fun x => if x.order = some db.order.order then x.amount else 0 := by
      rw [Account.entries, Table.sum_view, Table.sum, Table.values, List.map_map]
      have sum := Table.sum_filter d.2.payments.rows
        (fun q => q.2.gatewayPaymentId = some db.order.order) fun q => q.2.amount
      refine sum.trans (congrArg List.sum (List.map_congr_left fun q _ => ?_))
      by_cases own : q.2.gatewayPaymentId = some db.order.order <;> simp [Payment.entry, own]
    rw [List.map_cons, List.sum_cons, ← ih, List.filter_cons]
    simp only [Function.comp_apply]
    by_cases tenant : d.2.invoice.tenantId = db.order.tenantId
    · have same : d.2.entries.1 = db.order.tenantId := tenant
      rw [if_pos (by simpa using tenant), if_pos same, List.flatMap_cons, List.map_append,
        List.sum_append, List.map_map, ← own]
      rfl
    · have other : d.2.entries.1 ≠ db.order.tenantId := tenant
      rw [if_neg (by simpa using tenant), if_neg other, zero_add]

theorem ofOrder_of_inFlight (waits : db.inFlight) : ∃ id paymentId x,
    db.docs.entries.OfOrder db.order.tenantId db.order.order id paymentId x := by
  simp only [RedsysDb.inFlight, List.any_eq_true, Bool.and_eq_true, decide_eq_true_eq] at waits
  obtain ⟨d, stored, tenant, q, row, awaits⟩ := waits
  simp only [Payment.awaits, Bool.and_eq_true, decide_eq_true_eq] at awaits
  refine ⟨d.1, q.1, q.2.entry, ⟨d.2.entries, ?_, tenant, ?_⟩, awaits.1.2⟩
  · rw [Documents.entries, Table.find_view, Table.find_eq_some.mpr stored, Option.map_some]
  · simp only [Account.entries, Table.find_view, Table.find_eq_some.mpr row, Option.map_some]

end

end StorageOS
