import StorageOS.Lib.Processes
import StorageOS.Payments.ChargeRace
import StorageOS.Sepa.Remittances

/-! Remittances created while invoices are charged through a gateway, each request with its reads and its transactions
as separate steps. No invoice is collected by both while each finds at its last transaction that the other has not
taken it. -/

namespace StorageOS

open Transition Processes

/-- The rows of a tenant, with the invoices whose rows are locked by remittances being created. The
payment of an invoice can be inserted while its row is locked, and its amounts cannot change. -/
structure CollectionDb where
  settings : Option SepaSettings
  customerName : CustomerId → String
  docs : Documents
  mandates : SepaMandates
  remittances : SepaRemittances
  items : SepaItems
  locked : List InvoiceId

/-- The name of the remittance in which an invoice awaits confirmation. -/
def CollectionDb.pendingRemittance (db : CollectionDb) (id : InvoiceId) : Option String :=
  (db.items.values.find? fun i => i.invoiceId = id && i.status = .pending).map fun i =>
    ((db.remittances.find i.remittanceId).map SepaRemittance.name).getD ""

structure RemittancePlan where
  settings : SepaSettings
  input : CreateRemittanceInput
  byCustomer : List (MandateId × SepaMandate)
  selected : List EligibleInvoice

def RemittancePlan.ids (plan : RemittancePlan) : List InvoiceId :=
  (plan.selected.map EligibleInvoice.id).insertionSort (· ≤ ·)

structure PlannedCharge where
  invoiceId : InvoiceId
  customerId : CustomerId
  amount : ℚ
  bundled : List (InvoiceId × ℚ)

def PlannedCharge.documents (c : PlannedCharge) : List InvoiceId :=
  c.invoiceId :: c.bundled.map Prod.fst

/-- `refusal` is what the checks of the creditor and of the collection date end with. -/
inductive CollectionRequest
  | createRemittance (tenantId : TenantId) (refusal : Option Failure)
      (input : CreateRemittanceInput)
  | chargeInvoice (tenantId : TenantId) (invoiceId : InvoiceId) (input : Option ℚ)

inductive Collecting
  -- `createRemittance`
  | readInvoices (tenantId : TenantId) (settings : SepaSettings) (input : CreateRemittanceInput)
  | readMandates (settings : SepaSettings) (input : CreateRemittanceInput)
      (invoices : List EligibleInvoice)
  | expire (settings : SepaSettings) (input : CreateRemittanceInput)
      (invoices : List EligibleInvoice) (plans : List (List InvoiceId))
      (active : List (MandateId × SepaMandate))
  | lock (plan : RemittancePlan) (rest : List InvoiceId)
  | create (plan : RemittancePlan) (debits : List Debit)
  -- `chargeInvoice`
  | guard (invoiceId : InvoiceId) (row : Invoice) (input : Option ℚ)
  | readReceipts (invoiceId : InvoiceId) (row : Invoice) (input : Option ℚ)
  | guardReceipts (charge : PlannedCharge) (rest : List InvoiceId)
  | reserve (charge : PlannedCharge)
  | gateway (payments : List ReservedPayment)
  | settle (payments : List ReservedPayment) (result : ChargeResult)
      (gatewayPaymentId : Option String)

/-- What a step takes from outside: the active payment plans, the days, the random suffixes and the
identifier of a remittance, and the payment method and the answer of the gateway of a charge. -/
inductive CollectionInput
  | go
  | plans (plans : List (List InvoiceId))
  | today (today : Date) (firstDay : Date → String)
  | suffixes (suffix : InvoiceId → String)
  | messageId (messageId : String)
  | hasMethod (hasMethod : Bool)
  | method (clock : Clock) (pm : PaymentMethod) (card : Option (Option String))
  | answers (result : ChargeResult) (gatewayPaymentId : Option String)
  | throws
  | now (clock : Clock)

/-- The customer and the amount of a charge, from the row that was read. -/
def chargeAmount (row : Invoice) (input : Option ℚ) : Outcome (CustomerId × ℚ) := do
  match row.customerId with
  | none =>
    .error (badRequest "invoice_without_customer"
      "La factura no tiene cliente; no se puede cobrar via gateway")
  | some customerId =>
    let pending := row.total - row.amountPaid
    let amount := input.getD (euros pending)
    refuseIf (amount ≤ 0 ∨ toCents amount > pending) (badRequest "invalid_amount" "Importe invalido")
    return (customerId, amount)

/-- A request begins: a remittance with the settings of its creditor, a charge with the row of its
invoice. -/
def enterCollection (db : CollectionDb) : CollectionRequest → Option Collecting
  | .createRemittance tenantId refusal input =>
    db.settings.bind fun settings =>
      if refusal.isNone then some (.readInvoices tenantId settings input) else none
  | .chargeInvoice tenantId invoiceId input =>
    (loadCharge db.docs tenantId invoiceId).toOption.map fun row => .guard invoiceId row input

def CollectionDb.release (db : CollectionDb) (ids : List InvoiceId) : CollectionDb :=
  { db with locked := db.locked.filter fun id => !ids.contains id }

/-- A request makes its next read or transaction. It ends when it is refused, and waits for a row
that another request has locked. -/
def nextCollection (links : ReceiptLinks) (db : CollectionDb) :
    Collecting → CollectionInput → Option (CollectionDb × Option Collecting)
  | .readInvoices tenantId settings input, .go =>
    some (db, some (.readMandates settings input
      (eligibleInvoices db.customerName tenantId db.docs db.items)))
  | .readMandates settings input invoices, .plans plans =>
    some (db, some (.expire settings input invoices plans (activeMandates db.mandates)))
  | .expire settings input invoices plans active, .today today firstDay =>
    let expired := { db with mandates := expireMandates (expiredMandates today active) db.mandates }
    let byCustomer := chargeableMandates today active
    match selectInvoices settings input today firstDay plans byCustomer invoices with
    | .error _ => some (expired, none)
    | .ok selected =>
      let plan := ⟨settings, input, byCustomer, selected⟩
      some (expired, some (.lock plan plan.ids))
  | .lock plan (id :: rest), .go =>
    if db.locked.contains id then none
    else some ({ db with locked := id :: db.locked }, some (.lock plan rest))
  -- With every row locked, the invoices are read again.
  | .lock plan [], .suffixes suffix =>
    some (db, some (.create plan
      (debits plan.byCustomer (freshInvoices db.docs db.items plan.selected) suffix plan.selected)))
  | .create plan debits, .messageId messageId =>
    match createRemittance plan.settings messageId plan.input debits db.remittances db.items with
    | .error _ => some (db.release plan.ids, none)
    | .ok (remittances, items) => some ({ db.release plan.ids with remittances, items }, none)
  | .guard invoiceId row input, .go =>
    match assertNoPaymentInFlight db.docs db.pendingRemittance invoiceId with
    | .error _ => some (db, none)
    | .ok () => some (db, some (.readReceipts invoiceId row input))
  | .readReceipts invoiceId row input, .go =>
    match chargeAmount row input with
    | .error _ => some (db, none)
    | .ok (customerId, amount) =>
      let bundled := if input.isNone then pendingReceipts db.docs (links.receipts invoiceId) else []
      some (db, some (.guardReceipts ⟨invoiceId, customerId, amount, bundled⟩
        (bundled.map Prod.fst)))
  | .guardReceipts charge (id :: rest), .go =>
    match assertNoPaymentInFlight db.docs db.pendingRemittance id with
    | .error _ => some (db, none)
    | .ok () => some (db, some (.guardReceipts charge rest))
  | .guardReceipts charge [], .hasMethod hasMethod =>
    some (db, if hasMethod then some (.reserve charge) else none)
  | .reserve charge, .method clock pm card =>
    match reserveCharge clock pm card charge.customerId charge.invoiceId charge.amount
        charge.bundled db.docs with
    | .error _ => some (db, none)
    | .ok (docs, payments) => some ({ db with docs }, some (.gateway payments))
  | .gateway payments, .answers result gatewayPaymentId =>
    some (db, some (.settle payments result gatewayPaymentId))
  | .gateway payments, .throws =>
    some ({ db with docs := onPayments failPayment payments db.docs }, none)
  | .settle payments result gatewayPaymentId, .now clock =>
    -- A payment that succeeds updates its invoice.
    if result.status = .succeeded && payments.any (fun r => db.locked.contains r.invoiceId) then none
    else
      some ({ db with
        docs := onPayments (settlePayment clock result gatewayPaymentId) payments db.docs }, none)
  | _, _ => none

def collection (links : ReceiptLinks) :
    System CollectionDb Collecting CollectionRequest CollectionInput where
  enter := enterCollection
  next := nextCollection links

/-! ### What holds of the rows -/

def Documents.gatewayInFlight (docs : Documents) (id : InvoiceId) : Bool :=
  (docs.find id).any Account.gatewayInFlight

def SepaItems.awaiting (items : SepaItems) (id : InvoiceId) : Bool :=
  items.values.any fun i => i.invoiceId = id && i.status = .pending

/-- The bank and a gateway do not collect one invoice at once, nor do two remittances. -/
structure CollectedOnce (db : CollectionDb) : Prop where
  apart : ∀ id, db.items.awaiting id = true → db.docs.gatewayInFlight id = false
  once : ∀ id, (db.items.liveOf id).length ≤ 1

/-- The condition on transactions: a reservation finds none of its documents in a remittance that
awaits confirmation, and a remittance none of its invoices with a payment of a gateway in flight. -/
def findsFree (db : CollectionDb) : Collecting → CollectionInput → Bool
  | .reserve charge, _ => charge.documents.all fun id => !db.items.awaiting id
  | .create _ debits, _ => debits.all fun d => !db.docs.gatewayInFlight d.invoiceId
  | _, _ => true

/-! ### What each step does to the payments in flight -/

section

variable {docs docs' : Documents} {ids : List InvoiceId}

def FlightsWithin (ids : List InvoiceId) (docs docs' : Documents) : Prop :=
  ∀ id, docs'.gatewayInFlight id = true → docs.gatewayInFlight id = true ∨ id ∈ ids

theorem FlightsWithin.refl (docs : Documents) : FlightsWithin ids docs docs := fun _ flying =>
  .inl flying

theorem FlightsWithin.trans {between : Documents} {ids' : List InvoiceId}
    (first : FlightsWithin ids docs between) (second : FlightsWithin ids' between docs') :
    FlightsWithin (ids ++ ids') docs docs' := by
  intro id flying
  rcases second id flying with before | mem
  · exact (first id before).imp_right (List.mem_append_left _)
  · exact .inr (List.mem_append_right _ mem)

variable {id : InvoiceId} {clock : Clock} {pm : PaymentMethod} {payments : List ReservedPayment}

theorem gatewayInFlight_iff : docs.gatewayInFlight id = true ↔
    ∃ a, docs.find id = some a ∧ ∃ k p, a.payments.find k = some p ∧ p.gateway ≠ .manual ∧
      p.status.inFlight = true := by
  simp only [Documents.gatewayInFlight, Option.any_eq_true, Account.gatewayInFlight, Table.any_rows,
    Bool.and_eq_true, decide_eq_true_eq, ne_eq]

theorem flightsWithin_modify {f : Account → Account}
    (kept : ∀ a k p, (f a).payments.find k = some p → p.gateway ≠ .manual →
      p.status.inFlight = true → a.gatewayInFlight = true) :
    FlightsWithin ids docs (Table.modify docs id f) := by
  intro j flying
  obtain ⟨a, found, k, p, payment, gateway, inFlight⟩ := gatewayInFlight_iff.mp flying
  refine .inl ?_
  rcases Table.find_modify_cases found with ⟨-, same⟩ | ⟨rfl, b, before, rfl⟩
  · exact gatewayInFlight_iff.mpr ⟨a, same, k, p, payment, gateway, inFlight⟩
  · rw [Documents.gatewayInFlight, before]
    exact kept b k p payment gateway inFlight

theorem account_gatewayInFlight {a : Account} {k : PaymentId} {p : Payment}
    (found : a.payments.find k = some p) (gateway : p.gateway ≠ .manual)
    (inFlight : p.status.inFlight = true) : a.gatewayInFlight = true :=
  Table.any_rows.mpr ⟨k, p, found, by simp [gateway, inFlight]⟩

theorem flightsWithin_fail (r : ReservedPayment) :
    FlightsWithin ids docs (docs.modify r.invoiceId (failPayment r)) := by
  refine flightsWithin_modify fun a k p found gateway inFlight => ?_
  rcases Table.find_modify_cases found with ⟨-, same⟩ | ⟨-, q, -, rfl⟩
  · exact account_gatewayInFlight same gateway inFlight
  · cases inFlight

theorem flightsWithin_settle (clock : Clock) (result : ChargeResult)
    (gatewayPaymentId : Option String) (r : ReservedPayment) :
    FlightsWithin ids docs
      (docs.modify r.invoiceId (settlePayment clock result gatewayPaymentId r)) := by
  refine flightsWithin_modify fun a k p found gateway inFlight => ?_
  cases payment : a.payments.find r.paymentId with
  | none =>
    rw [settlePayment, payment] at found
    exact account_gatewayInFlight found gateway inFlight
  | some q =>
    rw [settlePayment, payment] at found
    dsimp only at found
    split at found
    · exact account_gatewayInFlight found gateway inFlight
    · rename_i processing
      rw [not_not] at processing
      rcases Table.find_modify_cases found with ⟨-, same⟩ | ⟨-, q', before, rfl⟩
      · exact account_gatewayInFlight same gateway inFlight
      · obtain rfl := Option.some.inj (payment.symm.trans before)
        exact account_gatewayInFlight payment gateway (by rw [processing]; rfl)

theorem flightsWithin_onPayments {f : ReservedPayment → Account → Account}
    (kept : ∀ (docs : Documents) r, FlightsWithin [] docs (docs.modify r.invoiceId (f r)))
    (payments : List ReservedPayment) : FlightsWithin [] docs (onPayments f payments docs) := by
  induction payments generalizing docs with
  | nil => exact .refl docs
  | cons r rest ih => exact (kept docs r).trans ih

theorem flightsWithin_createPayment (id : InvoiceId) (p : Payment) :
    FlightsWithin [id] docs (createPayment id p docs) := by
  intro j flying
  obtain ⟨a, found, k, q, payment, gateway, inFlight⟩ := gatewayInFlight_iff.mp flying
  rcases Table.find_modify_cases found with ⟨-, same⟩ | ⟨rfl, -⟩
  · exact .inl (gatewayInFlight_iff.mpr ⟨a, same, k, q, payment, gateway, inFlight⟩)
  · exact .inr (List.mem_singleton.mpr rfl)

theorem flightsWithin_reserveReceipts {customerId : CustomerId} {bundled : List (InvoiceId × ℚ)}
    (h : reserveReceipts clock pm customerId bundled docs = .ok (docs', payments)) :
    FlightsWithin (bundled.map Prod.fst) docs docs' := by
  induction bundled generalizing docs docs' payments with
  | nil =>
    cases h
    exact .refl _
  | cons b rest ih =>
    rw [reserveReceipts] at h
    obtain ⟨_, -, h⟩ := Outcome.bind_ok h
    obtain ⟨⟨after, payments⟩, rests, h⟩ := Outcome.bind_ok h
    cases h
    exact (flightsWithin_createPayment _ _).trans (ih rests)

theorem flightsWithin_reserveCharge {card : Option (Option String)} {c : PlannedCharge}
    (h : reserveCharge clock pm card c.customerId c.invoiceId c.amount c.bundled docs = .ok (docs', payments)) :
    FlightsWithin c.documents docs docs' := by
  rw [reserveCharge] at h
  replace h := Outcome.passed (Outcome.passed h)
  obtain ⟨⟨after, reserved⟩, rests, h⟩ := Outcome.bind_ok h
  cases h
  have within := (flightsWithin_reserveReceipts rests).trans (flightsWithin_createPayment c.invoiceId
    (processingPayment clock pm c.customerId c.amount))
  intro id flying
  refine (within id flying).imp_right fun mem => ?_
  rw [PlannedCharge.documents, List.mem_cons]
  simpa [or_comm] using mem

end

/-! ### What each step does to the items -/

variable {debits : List Debit} {items : SepaItems} {db : CollectionDb}

variable {remittanceId : RemittanceId}

theorem awaiting_createItems {id : InvoiceId} (h : (createItems remittanceId debits items).awaiting id = true) :
    items.awaiting id = true ∨ ∃ d ∈ debits, d.invoiceId = id := by
  induction debits generalizing items with
  | nil => exact .inl h
  | cons d rest ih =>
    rcases ih h with before | ⟨d', mem, same⟩
    · simp only [SepaItems.awaiting, Table.values_push, List.any_append, List.any_cons, List.any_nil,
        Bool.or_false, Bool.or_eq_true, Bool.and_eq_true, decide_eq_true_eq] at before
      rcases before with before | ⟨same, -⟩
      · exact .inl before
      · exact .inr ⟨d, List.mem_cons_self, same⟩
    · exact .inr ⟨d', List.mem_cons_of_mem _ mem, same⟩

theorem liveOf_le_of_liveUnique (unique : items.liveUnique = true) (id : InvoiceId) : (items.liveOf id).length ≤ 1 := by
  cases live : items.liveOf id with
  | nil => exact Nat.zero_le _
  | cons i rest =>
    have mem : i ∈ items.liveOf id := live ▸ List.mem_cons_self
    rw [SepaItems.liveOf, List.mem_filter] at mem
    simp only [Bool.and_eq_true, decide_eq_true_eq] at mem
    have bound := List.all_eq_true.mp unique i mem.1
    rw [mem.2.1, live] at bound
    simpa using bound

theorem createRemittance_ok {settings : SepaSettings} {messageId : String} {input : CreateRemittanceInput}
    {remittances remittances' : SepaRemittances} {items items' : SepaItems}
    (h : createRemittance settings messageId input debits remittances items = .ok (remittances', items')) :
    debits ≠ [] ∧ remittances' = remittances.push (newRemittance settings messageId input debits) ∧
      items' = createItems remittances.nextKey debits items ∧ items'.liveUnique = true := by
  obtain ⟨_, some, h⟩ := Outcome.bind_ok h
  obtain ⟨_, unique, h⟩ := Outcome.bind_ok h
  cases h
  have unique := refuseIf_ok unique
  rw [Bool.not_eq_false] at unique
  exact ⟨by simpa using refuseIf_ok some, rfl, rfl, unique⟩

/-! ### Runs -/

theorem CollectedOnce.reserve {charge : PlannedCharge} {docs : Documents} (before : CollectedOnce db)
    (within : FlightsWithin charge.documents db.docs docs)
    (free : charge.documents.all (fun id => !db.items.awaiting id) = true) :
    CollectedOnce { db with docs } := by
  refine ⟨fun id awaiting => ?_, before.once⟩
  rw [← Bool.not_eq_true]
  intro flying
  rcases within id flying with flying | mem
  · rw [before.apart id awaiting] at flying
    cases flying
  · have none := List.all_eq_true.mp free id mem
    rw [awaiting] at none
    cases none

theorem CollectedOnce.create (before : CollectedOnce db) (created : items = createItems remittanceId debits db.items)
    (unique : items.liveUnique = true) (free : debits.all (fun d => !db.docs.gatewayInFlight d.invoiceId) = true)
    (remittances : SepaRemittances) (locked : List InvoiceId) :
    CollectedOnce { db with remittances, items, locked } := by
  refine ⟨fun id awaiting => ?_, liveOf_le_of_liveUnique unique⟩
  subst created
  rcases awaiting_createItems awaiting with awaiting | ⟨d, mem, rfl⟩
  · exact before.apart id awaiting
  · simpa using List.all_eq_true.mp free d mem

theorem CollectedOnce.onPayments (before : CollectedOnce db) {f : ReservedPayment → Account → Account}
    (kept : ∀ (docs : Documents) r, FlightsWithin [] docs (docs.modify r.invoiceId (f r)))
    (payments : List ReservedPayment) :
    CollectedOnce { db with docs := onPayments f payments db.docs } := by
  refine ⟨fun id awaiting => ?_, before.once⟩
  rw [← Bool.not_eq_true]
  intro flying
  rcases flightsWithin_onPayments kept payments id flying with flying | none
  · rw [before.apart id awaiting] at flying
    cases flying
  · cases none

theorem CollectedOnce.next {links : ReceiptLinks} {db db' : CollectionDb} {r : Collecting}
    {input : CollectionInput} {rest : Option Collecting} (before : CollectedOnce db)
    (free : findsFree db r input = true) (h : nextCollection links db r input = some (db', rest)) :
    CollectedOnce db' := by
  have same : ∀ {db'' : CollectionDb}, db''.docs = db.docs → db''.items = db.items →
      CollectedOnce db'' := by
    intro db'' docs items
    exact ⟨by rw [docs, items]; exact before.apart, by rw [items]; exact before.once⟩
  cases r with
  | readInvoices | readMandates =>
    cases input <;> simp only [nextCollection, reduceCtorEq] at h
    cases h
    exact before
  | readReceipts | guard =>
    cases input <;> simp only [nextCollection, reduceCtorEq] at h
    split at h <;> (cases h; exact before)
  | expire =>
    cases input <;> simp only [nextCollection, reduceCtorEq] at h
    split at h <;> (cases h; exact same rfl rfl)
  | lock plan waiting =>
    cases waiting <;> cases input <;> simp only [nextCollection, reduceCtorEq] at h
    · cases h
      exact before
    · split at h
      · cases h
      · cases h
        exact same rfl rfl
  | guardReceipts charge waiting =>
    cases waiting <;> cases input <;> simp only [nextCollection, reduceCtorEq] at h
    · cases h
      exact before
    · split at h <;> (cases h; exact before)
  | gateway payments =>
    cases input <;> simp only [nextCollection, reduceCtorEq] at h
    · cases h
      exact before
    · cases h
      exact before.onPayments (fun _ r => flightsWithin_fail r) payments
  | settle payments result gatewayPaymentId =>
    cases input <;> simp only [nextCollection, reduceCtorEq] at h
    split at h
    · cases h
    · cases h
      exact before.onPayments (fun _ r => flightsWithin_settle _ _ _ r) payments
  | reserve charge =>
    cases input <;> simp only [nextCollection, reduceCtorEq] at h
    split at h
    · cases h
      exact before
    · rename_i reserved
      cases h
      exact before.reserve (flightsWithin_reserveCharge reserved) free
  | create plan debits =>
    cases input <;> simp only [nextCollection, reduceCtorEq] at h
    split at h
    · cases h
      exact same rfl rfl
    · rename_i made
      cases h
      obtain ⟨-, -, created, unique⟩ := createRemittance_ok made
      exact before.create created unique free _ _

/-- While each last transaction finds its invoices free, no invoice is collected by the bank and by
a gateway at once. -/
theorem invoices_collected_once {links : ReceiptLinks} {s t : State CollectionDb Collecting}
    (start : CollectedOnce s.db)
    (run : Run (collection links).step (System.admits fun db r input => findsFree db r input = true)
      s t) : CollectedOnce t.db :=
  (System.invariant (Q := fun _ _ => True) run start (fun _ _ => trivial)
    (fun _ _ => trivial) fun before _ free h =>
      ⟨before.next free h, fun _ _ => trivial, fun _ _ => trivial⟩).1

def directDebits : CollectionDb where
  settings := some ⟨"Trasteros", "ES12ZZZB12345678", "ES91", none, 14⟩
  customerName _ := "Ana"
  docs := (Table.empty.push ⟨{ issuedInvoice 10000 with invoiceNumber := "F-1" }, .empty⟩).push
    ⟨{ issuedInvoice 5000 with invoiceNumber := "F-2" }, .empty⟩
  mandates := Table.empty.push
    ⟨1, "MND-1", "ES80", none, 19900, .FRST, none, .active, .external, some 14⟩
  remittances := .empty
  items := .empty
  locked := []

def remittanceOf (id : InvoiceId) : CollectionRequest :=
  .createRemittance 1 none ⟨"Mayo", 20030, some [id]⟩

theorem directDebits_once : CollectedOnce directDebits where
  apart _ none := nomatch none
  once _ := Nat.zero_le _

def noReceipts : ReceiptLinks where
  receipts _ := []
  distinct _ := List.nodup_singleton _

/-- One invoice is presented to the bank while the other is charged to a card. -/
theorem invoices_collected_once_apart : ∃ t : State CollectionDb Collecting,
    t.db.items.awaiting 0 = true ∧ t.db.docs.gatewayInFlight 1 = true ∧ CollectedOnce t.db := by
  obtain ⟨t, run, ends⟩ := Run.exists_of_exec (collection noReceipts).step
    (System.admits fun db r input => findsFree db r input = true) ⟨directDebits, []⟩
    [.start (remittanceOf 0), .start (.chargeInvoice 1 1 none), .advance 1 .go, .advance 1 .go,
      .advance 0 .go, .advance 0 (.plans []), .advance 0 (.today 20005 fun _ => ""),
      .advance 0 .go, .advance 0 (.suffixes fun _ => "00FF"), .advance 1 (.hasMethod true),
      .advance 1 (.method (noon 20005) savedCard (some (some "acct"))),
      .advance 0 (.messageId "REM-1")]
    (fun t => t.db.items.awaiting 0 && t.db.docs.gatewayInFlight 1) (by decide +kernel)
  simp only [Bool.and_eq_true] at ends
  exact ⟨t, ends.1, ends.2, invoices_collected_once directDebits_once run⟩

/-- A charge checks the remittances before the invoice is presented, and reserves its payment
afterwards. -/
theorem invoice_collected_twice :
    ¬∀ (links : ReceiptLinks) (s t : State CollectionDb Collecting), CollectedOnce s.db →
      s.running = [] → Reaches (collection links).step s t → CollectedOnce t.db := by
  intro always
  obtain ⟨t, run, ends⟩ := Run.exists_of_exec (collection noReceipts).step (fun _ _ => True)
    ⟨directDebits, []⟩
    [.start (.chargeInvoice 1 0 none), .advance 0 .go, .advance 0 .go, .advance 0 (.hasMethod true),
      .start (remittanceOf 0), .advance 1 .go, .advance 1 (.plans []),
      .advance 1 (.today 20005 fun _ => ""), .advance 1 .go,
      .advance 1 (.suffixes fun _ => "00FF"), .advance 1 (.messageId "REM-1"),
      .advance 0 (.method (noon 20005) savedCard (some (some "acct")))]
    (fun t => t.db.items.awaiting 0 && t.db.docs.gatewayInFlight 0) (by decide +kernel)
  simp only [Bool.and_eq_true] at ends
  have apart := (always noReceipts ⟨directDebits, []⟩ t directDebits_once rfl run).apart 0 ends.1
  rw [ends.2] at apart
  cases apart

/-- The other way about: the remittance reads its invoices again before the payment is reserved, and
writes its items afterwards. -/
example : (exec (collection noReceipts).step ⟨directDebits, []⟩
    [.start (remittanceOf 0), .advance 0 .go, .advance 0 (.plans []),
      .advance 0 (.today 20005 fun _ => ""), .advance 0 .go,
      .start (.chargeInvoice 1 0 none), .advance 1 .go, .advance 1 .go, .advance 1 (.hasMethod true),
      .advance 0 (.suffixes fun _ => "00FF"),
      .advance 1 (.method (noon 20005) savedCard (some (some "acct"))),
      .advance 0 (.messageId "REM-1")]).any
    (fun t => t.db.items.awaiting 0 && t.db.docs.gatewayInFlight 0) = true := by
  decide +kernel

end StorageOS
